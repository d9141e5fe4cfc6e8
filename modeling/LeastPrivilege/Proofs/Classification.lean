import LeastPrivilege.Rule
import Mathlib.Data.List.DropRight

/-!
Classification of one record. `Record.Shows` is the relation between a record and what it says
about a pod; whatever a record shows has a trimmed address that is neither empty nor the pod's own,
and a port in range (`Record.Shows.sound`). A record that shows nothing is skipped or invalid, with
one exception (`Record.classify_cases`): `Record.Overlong`, a port written with more digits than a
number is read from, is a fault of another kind.
-/

namespace LeastPrivilege

namespace Text

theorem trimBy_eq_rdropWhile (p : CodePoint → Bool) (t : Text) :
    trimBy p t = (t.dropWhile p).rdropWhile p :=
  rfl

/-- Trimming leaves nothing to be trimmed. -/
theorem trim_trim (t : Text) : trim (trim t) = trim t := by
  simp only [trim, trimBy_eq_rdropWhile]
  have front : (List.rdropWhile isBlank (t.dropWhile isBlank)).dropWhile isBlank
      = List.rdropWhile isBlank (t.dropWhile isBlank) := by
    -- What is left begins as the text without its blank front does.
    obtain ⟨ends, he⟩ := List.rdropWhile_prefix isBlank (l := t.dropWhile isBlank)
    cases hs : List.rdropWhile isBlank (t.dropWhile isBlank) with
    | nil => rfl
    | cons c rest =>
      rw [hs] at he
      have hc : isBlank c = false := by
        have hd := List.dropWhile_idempotent isBlank t
        rw [← he] at hd
        cases hb : isBlank c with
        | false => rfl
        | true =>
          rw [List.cons_append, List.dropWhile_cons_of_pos hb] at hd
          have hl := congrArg List.length hd
          have := (List.dropWhile_sublist isBlank (l := rest ++ ends)).length_le
          simp only [List.length_cons] at hl
          omega
      rw [List.dropWhile_cons_of_neg (by simp [hc])]
  rw [front, List.rdropWhile_idempotent]

theorem trim_replicate {c : CodePoint} (h : isBlank c = false) (n : Nat) :
    trim (List.replicate n c) = List.replicate n c := by
  simp [trim, trimBy_eq_rdropWhile, List.rdropWhile, h]

end Text

/-- The record says this about the pod. -/
def Record.Shows (r : Record) (target : Pod) (c : Classified) : Prop :=
  ∃ notices, r.classify target = .ok (some c, notices)

/-- The record names a direction and an address that is not the pod's, but the digits of its port
are more than a number is read from. -/
structure Record.Overlong (r : Record) (target : Pod) (direction : Direction) : Prop where
  named : Direction.ofText r.direction = .ok direction
  hasPeer : Text.trim r.peerIp ≠ []
  isForeign : Text.trim r.peerIp ≠ target.ip
  digits : (Text.trim (r.portText direction)).all Text.isDigit = true
  tooMany : Number.maxDigits < (Text.trim (r.portText direction)).length

/-! ## Ports -/

theorem portInRange_ok {n m : Int} (h : portInRange n = .ok m) : m = n ∧ 1 ≤ m ∧ m ≤ 65535 := by
  unfold portInRange at h
  split at h
  · cases h
  · rename_i hn
    simp only [Bool.or_eq_true, decide_eq_true_eq, not_or, Int.not_lt] at hn
    cases h
    exact ⟨rfl, hn⟩

/-- A port that is read is in range. -/
theorem portOfText_ok {text : Text} {n : Int} (h : portOfText text = .ok n) :
    1 ≤ n ∧ n ≤ 65535 := by
  simp only [portOfText] at h
  split at h
  · cases h
  · split at h
    · cases h
    · exact (portInRange_ok h).2

theorem portInRange_error {n : Int} {fault : Fault} (h : portInRange n = .error fault) :
    ∃ f, fault = .record f := by
  unfold portInRange at h
  split at h
  · cases h
    exact ⟨_, rfl⟩
  · cases h

/-- A port that is not read makes the record invalid, unless its digits are too many. -/
theorem portOfText_error {text : Text} {fault : Fault} (h : portOfText text = .error fault) :
    (∃ f, fault = .record f) ∨
      ((Text.trim text).all Text.isDigit = true ∧ Number.maxDigits < (Text.trim text).length ∧
        fault = .value (.tooManyDigits (Text.trim text).length)) := by
  simp only [portOfText] at h
  split at h
  · cases h
    exact .inl ⟨_, rfl⟩
  · rename_i hd
    simp only [Bool.or_eq_true, Bool.not_eq_true', not_or, Bool.not_eq_false] at hd
    split at h
    · rename_i hlong
      cases h
      exact .inr ⟨hd.2, hlong, rfl⟩
    · exact .inl (portInRange_error h)

theorem portOfText_overlong {text : Text} (hd : (Text.trim text).all Text.isDigit = true)
    (hl : Number.maxDigits < (Text.trim text).length) :
    portOfText text = .error (.value (.tooManyDigits (Text.trim text).length)) := by
  have hne : (Text.trim text).isEmpty = false := by
    cases ht : Text.trim text with
    | nil => rw [ht] at hl; simp at hl
    | cons c rest => rfl
  simp [portOfText, hne, hd, hl]

/-! ## Records -/

theorem Direction.ofText_error {text : Text} {fault : Fault}
    (h : Direction.ofText text = .error fault) : ∃ f, fault = .record f := by
  simp only [Direction.ofText] at h
  split at h
  · cases h
  · split at h
    · cases h
    · cases h
      exact ⟨_, rfl⟩

/-- Everything a record can come to. -/
theorem Record.classify_cases (r : Record) (target : Pod) :
    (∃ f, r.classify target = .error (.record f)) ∨
    (∃ notices, r.classify target = .ok (none, notices)) ∨
    (∃ direction n protocol notices, Text.trim r.peerIp ≠ [] ∧ Text.trim r.peerIp ≠ target.ip ∧
      Direction.ofText r.direction = .ok direction ∧ portOfText (r.portText direction) = .ok n ∧
      Protocol.ofWritten (some r.protocol) = (protocol, notices) ∧
      r.classify target = .ok (some ⟨direction, Text.trim r.peerIp, ⟨n, protocol⟩⟩, notices)) ∨
    (∃ direction, r.Overlong target direction ∧ r.classify target
      = .error (.value (.tooManyDigits (Text.trim (r.portText direction)).length))) := by
  unfold Record.classify
  cases hd : Direction.ofText r.direction with
  | error fault =>
    obtain ⟨f, rfl⟩ := Direction.ofText_error hd
    exact .inl ⟨f, rfl⟩
  | ok direction =>
    by_cases hempty : Text.trim r.peerIp = []
    · exact .inr (.inl ⟨[], by simp [hempty, bind, Except.bind, pure, Except.pure]⟩)
    by_cases hown : Text.trim r.peerIp = target.ip
    · refine .inr (.inl ⟨[.ownTraffic target.ip target.ip], ?_⟩)
      rw [hown] at hempty
      simp [hown, hempty, bind, Except.bind, pure, Except.pure]
    cases hp : portOfText (r.portText direction) with
    | ok n =>
      refine .inr (.inr (.inl ⟨direction, n, _, _, hempty, hown, rfl, hp, rfl, ?_⟩))
      simp [hempty, hown, hp, bind, Except.bind, pure, Except.pure, Protocol.ofWritten]
    | error fault =>
      rcases portOfText_error hp with ⟨f, rfl⟩ | ⟨hdigits, hlong, rfl⟩
      · exact .inl ⟨f, by simp [hempty, hown, hp, bind, Except.bind]⟩
      · refine .inr (.inr (.inr ⟨direction, ⟨hd, hempty, hown, hdigits, hlong⟩, ?_⟩))
        simp [hempty, hown, hp, bind, Except.bind]

/-- What is shown has a foreign address, trimmed and not empty, and a port in range. -/
structure Classified.Sound (c : Classified) (target : Pod) : Prop where
  named : c.peerIp ≠ []
  trimmed : Text.trim c.peerIp = c.peerIp
  isForeign : c.peerIp ≠ target.ip
  inRange : 1 ≤ c.port.number ∧ c.port.number ≤ 65535

/-- What a record shows is under its trimmed address, with a port that was read. -/
theorem Record.Shows.form {r : Record} {target : Pod} {c : Classified} (h : r.Shows target c) :
    Text.trim r.peerIp ≠ [] ∧ Text.trim r.peerIp ≠ target.ip ∧ c.peerIp = Text.trim r.peerIp ∧
      portOfText (r.portText c.direction) = .ok c.port.number := by
  obtain ⟨notices, h⟩ := h
  rcases r.classify_cases target with ⟨f, e⟩ | ⟨more, e⟩ | hshown | ⟨direction, -, e⟩
  · rw [e] at h
    cases h
  · rw [e] at h
    cases h
  · obtain ⟨direction, n, protocol, more, hne, hown, -, hport, -, e⟩ := hshown
    rw [e] at h
    cases h
    exact ⟨hne, hown, rfl, hport⟩
  · rw [e] at h
    cases h

theorem Record.Shows.sound {r : Record} {target : Pod} {c : Classified}
    (h : r.Shows target c) : c.Sound target := by
  obtain ⟨hne, hown, hip, hport⟩ := h.form
  refine ⟨?_, ?_, ?_, portOfText_ok hport⟩
  · rwa [hip]
  · rw [hip, Text.trim_trim]
  · rwa [hip]

theorem Record.Shows.unique {r : Record} {target : Pod} {c c' : Classified}
    (h : r.Shows target c) (h' : r.Shows target c') : c = c' := by
  obtain ⟨notices, h⟩ := h
  obtain ⟨notices', h'⟩ := h'
  rw [h] at h'
  cases h'
  rfl

theorem Record.classify_overlong {r : Record} {target : Pod} {direction : Direction}
    (h : r.Overlong target direction) : r.classify target
      = .error (.value (.tooManyDigits (Text.trim (r.portText direction)).length)) := by
  have hport := portOfText_overlong h.digits h.tooMany
  simp [Record.classify, h.named, h.hasPeer, h.isForeign, hport, bind, Except.bind]

/-- One digit over and over is a port with too many digits. -/
theorem Record.overlong_replicate {r : Record} {target : Pod} {direction : Direction}
    {c : CodePoint} (named : Direction.ofText r.direction = .ok direction)
    (hasPeer : Text.trim r.peerIp ≠ []) (isForeign : Text.trim r.peerIp ≠ target.ip)
    (hdigit : Text.isDigit c = true) (hblank : Text.isBlank c = false)
    (hport : r.portText direction = List.replicate (Number.maxDigits + 1) c) :
    r.Overlong target direction := by
  have htrim : Text.trim (r.portText direction) = List.replicate (Number.maxDigits + 1) c := by
    rw [hport, Text.trim_replicate hblank]
  refine ⟨named, hasPeer, isForeign, ?_, ?_⟩
  · rw [htrim, List.all_replicate, hdigit]
    decide
  · rw [htrim, List.length_replicate]
    exact Nat.lt_succ_self _

end LeastPrivilege
