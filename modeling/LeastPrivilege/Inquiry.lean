import LeastPrivilege.Notice

/-!
Programs that ask. An inquiry over an interface is a tree: it ends with a result, leaves a notice
and goes on, or asks a question and goes on with the answer. What answers the questions (recorded
tables, a failing world, a network) is chosen when the inquiry is run, so one definition serves
them all, and a statement over all answers is a statement about every world. Inquiries obey the
laws of monads.
-/

namespace LeastPrivilege

/-- What can be asked, and what kind of answer each question has. -/
structure Interface where
  Question : Type
  Answer : Question → Type

/-- The questions of two interfaces. -/
abbrev Interface.or (I J : Interface) : Interface where
  Question := I.Question ⊕ J.Question
  Answer
    | .inl q => I.Answer q
    | .inr q => J.Answer q

/-- A program over an interface. -/
inductive Inquiry (I : Interface) (α : Type) : Type where
  | done (a : α)
  | note (n : Notice) (rest : Inquiry I α)
  | ask (q : I.Question) (next : I.Answer q → Inquiry I α)

namespace Inquiry

variable {I J : Interface} {α β : Type}

/-- Goes on after the end of an inquiry. -/
def bind : Inquiry I α → (α → Inquiry I β) → Inquiry I β
  | done a, f => f a
  | note n rest, f => note n (rest.bind f)
  | ask q next, f => ask q fun a => (next a).bind f

instance : Monad (Inquiry I) where
  pure := done
  bind := bind

theorem bind_done (x : Inquiry I α) : x.bind done = x := by
  induction x with
  | done a => rfl
  | note n rest ih => rw [bind, ih]
  | ask q next ih => rw [bind, funext ih]

theorem bind_bind {γ : Type} (x : Inquiry I α) (f : α → Inquiry I β) (g : β → Inquiry I γ) :
    (x.bind f).bind g = x.bind fun a => (f a).bind g := by
  induction x with
  | done a => rfl
  | note n rest ih => rw [bind, bind, ih, bind]
  | ask q next ih => rw [bind, bind, funext ih, bind]

instance : LawfulMonad (Inquiry I) :=
  LawfulMonad.mk' _ (fun x => bind_done x) (fun _ _ => rfl) (fun x f g => bind_bind x f g)

/-- Asks one question. -/
def put (q : I.Question) : Inquiry I (I.Answer q) :=
  ask q done

/-- Leaves one notice. -/
def tell (n : Notice) : Inquiry I Unit :=
  note n (done ())

/-- Leaves notices in order. -/
def tellAll : List Notice → Inquiry I Unit
  | [] => done ()
  | n :: rest => note n (tellAll rest)

/-- Runs an inquiry where questions are answered and notices kept by some monad. -/
def run {m : Type → Type} [Monad m] (answer : (q : I.Question) → m (I.Answer q))
    (keep : Notice → m Unit) : Inquiry I α → m α
  | done a => pure a
  | note n rest => do
    keep n
    rest.run answer keep
  | ask q next => do
    let a ← answer q
    (next a).run answer keep

/-- Answers the questions of one interface by inquiries over another. -/
def through (answer : (q : I.Question) → Inquiry J (I.Answer q)) (x : Inquiry I α) : Inquiry J α :=
  x.run answer tell

/-- An inquiry that asks the questions of the first of two interfaces. -/
def inLeft (x : Inquiry I α) : Inquiry (I.or J) α :=
  x.through fun q => put (I := I.or J) (.inl q)

/-- An inquiry that asks the questions of the second of two interfaces. -/
def inRight (x : Inquiry J α) : Inquiry (I.or J) α :=
  x.through fun q => put (I := I.or J) (.inr q)

end Inquiry

/-- An inquiry that can fail. -/
abbrev Attempt (I : Interface) := ExceptT Fault (Inquiry I)

namespace Attempt

variable {I J : Interface} {α : Type}

/-- Fails or goes on as the result says. -/
def ofExcept (r : Except Fault α) : Attempt I α :=
  ExceptT.mk (.done r)

/-- An inquiry that does not fail. -/
def ofInquiry (x : Inquiry I α) : Attempt I α :=
  ExceptT.lift x

/-- Leaves a notice. -/
def tell (n : Notice) : Attempt I Unit :=
  ofInquiry (.tell n)

/-- The result or the fault of an attempt. -/
def outcome (x : Attempt I α) : Inquiry I (Except Fault α) :=
  ExceptT.run x

/-- Answers the questions of an attempt by inquiries over another interface. -/
def through (answer : (q : I.Question) → Inquiry J (I.Answer q)) (x : Attempt I α) :
    Attempt J α :=
  ExceptT.mk (x.outcome.through answer)

/-- An attempt that asks the questions of the first of two interfaces. -/
def inLeft (x : Attempt I α) : Attempt (I.or J) α :=
  x.through fun q => Inquiry.put (I := I.or J) (.inl q)

/-- An attempt that asks the questions of the second of two interfaces. -/
def inRight (x : Attempt J α) : Attempt (I.or J) α :=
  x.through fun q => Inquiry.put (I := I.or J) (.inr q)

end Attempt

end LeastPrivilege
