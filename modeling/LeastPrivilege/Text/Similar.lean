import LeastPrivilege.Text

/-!
Similar words. Two words are compared by the characters that they share in order: the longest
common run, and what is shared before and after it. The share is twice their number over the
length of both words together.
-/

namespace LeastPrivilege.Text

/-- The number of characters at the start that two words have in common. -/
def commonStart : Text → Text → Nat
  | a :: as, b :: bs => if a = b then commonStart as bs + 1 else 0
  | _, _ => 0

/-- A run of characters that two words have in common: where it begins in each, and its length. -/
structure CommonRun where
  left : Nat := 0
  right : Nat := 0
  length : Nat := 0

/-- The longest run that begins at a given place of the first word, if it is longer than the best
so far. -/
def longestAt (left : Nat) (a : Text) : Nat → CommonRun → Text → CommonRun
  | _, best, [] => best
  | right, best, b :: bs =>
    let n := commonStart a (b :: bs)
    longestAt left a (right + 1) (if best.length < n then ⟨left, right, n⟩ else best) bs

/-- The longest common run; of several, the first in the first word, then in the second. -/
def longestRun (b : Text) : Nat → CommonRun → Text → CommonRun
  | _, best, [] => best
  | left, best, a :: as => longestRun b (left + 1) (longestAt left (a :: as) 0 best b) as

/-- The number of shared characters. The first argument bounds the number of runs. -/
def shared : Nat → Text → Text → Nat
  | 0, _, _ => 0
  | fuel + 1, a, b =>
    let run := longestRun b 0 {} a
    if run.length = 0 then 0
    else run.length + shared fuel (a.take run.left) (b.take run.right)
      + shared fuel (a.drop (run.left + run.length)) (b.drop (run.right + run.length))

/-- A candidate with its share: shared characters, and the length of both words. -/
structure Likeness where
  candidate : Text
  common : Nat
  total : Nat

/-- How similar a candidate is to a word. -/
def likeness (word candidate : Text) : Likeness :=
  ⟨candidate, shared candidate.length candidate word,
    candidate.length + word.length⟩

/-- The share is at least three fifths. -/
def Likeness.isClose (l : Likeness) : Bool :=
  3 * l.total ≤ 10 * l.common

/-- A greater share, or the same share and the later word. -/
def Likeness.isBetter (a b : Likeness) : Bool :=
  b.common * a.total < a.common * b.total
    || (b.common * a.total == a.common * b.total && b.candidate ≤ a.candidate)

/-- The three candidates that are most similar to a word, of those that are similar at all. -/
def similarWords (candidates : List Text) (word : Text) : List Text :=
  let close := (candidates.map (likeness word)).filter Likeness.isClose
  ((close.mergeSort Likeness.isBetter).take 3).map (·.candidate)

end LeastPrivilege.Text
