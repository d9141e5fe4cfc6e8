import LeastPrivilege.Inquiry

/-!
Endings of inquiries. For every way in which its questions can be answered an inquiry ends with a
result, after an exchange of questions and answers (`Inquiry.Ends`). What holds of all endings holds
whatever the outside does, also where it answers a question differently from one time to the next.
The endings of steps are those of one step after the other (`ends_bind`), a failed attempt ends
where its first failing step does (`Attempt.ends_bind`), and where questions are passed on, the
exchange is that of the inquiries which pass them on (`ends_through`). What kind of questions an
attempt asks at all is a property of its steps (`Attempt.AsksOnly`).
-/

namespace LeastPrivilege

/-- A question with the answer that was given. -/
structure Exchange (I : Interface) where
  question : I.Question
  answer : I.Answer question

namespace Exchange

variable {I J : Interface}

/-- An exchange over the first of two interfaces. -/
def inLeft (e : Exchange I) : Exchange (I.or J) :=
  ⟨.inl e.question, e.answer⟩

/-- An exchange over the second of two interfaces. -/
def inRight (e : Exchange J) : Exchange (I.or J) :=
  ⟨.inr e.question, e.answer⟩

/-- The exchange over the first interface, if it is one. -/
def left? : Exchange (I.or J) → Option (Exchange I)
  | ⟨.inl q, a⟩ => some ⟨q, a⟩
  | ⟨.inr _, _⟩ => none

/-- The exchange over the second interface, if it is one. -/
def right? : Exchange (I.or J) → Option (Exchange J)
  | ⟨.inl _, _⟩ => none
  | ⟨.inr q, a⟩ => some ⟨q, a⟩

@[simp] theorem left?_inLeft (e : Exchange I) : (inLeft e : Exchange (I.or J)).left? = some e :=
  rfl

@[simp] theorem left?_inRight (e : Exchange J) : (inRight e : Exchange (I.or J)).left? = none :=
  rfl

@[simp] theorem right?_inLeft (e : Exchange I) : (inLeft e : Exchange (I.or J)).right? = none :=
  rfl

@[simp] theorem right?_inRight (e : Exchange J) : (inRight e : Exchange (I.or J)).right? = some e :=
  rfl

/-- The exchanges over the first interface. -/
def lefts (log : List (Exchange (I.or J))) : List (Exchange I) :=
  log.filterMap left?

/-- The exchanges over the second interface. -/
def rights (log : List (Exchange (I.or J))) : List (Exchange J) :=
  log.filterMap right?

theorem inLeft_mem_of_mem_lefts {log : List (Exchange (I.or J))} {e : Exchange I}
    (h : e ∈ lefts log) : e.inLeft ∈ log := by
  obtain ⟨⟨question, answer⟩, hd, he⟩ := List.mem_filterMap.mp h
  cases question with
  | inl q =>
    cases he
    exact hd
  | inr q => cases he

theorem inRight_mem_of_mem_rights {log : List (Exchange (I.or J))} {e : Exchange J}
    (h : e ∈ rights log) : e.inRight ∈ log := by
  obtain ⟨⟨question, answer⟩, hd, he⟩ := List.mem_filterMap.mp h
  cases question with
  | inl q => cases he
  | inr q =>
    cases he
    exact hd

variable (log log' : List (Exchange (I.or J))) (left : List (Exchange I))
  (right : List (Exchange J))

@[simp] theorem lefts_append : lefts (log ++ log') = lefts log ++ lefts log' :=
  List.filterMap_append

@[simp] theorem rights_append : rights (log ++ log') = rights log ++ rights log' :=
  List.filterMap_append

@[simp] theorem lefts_map_inLeft :
    lefts (left.map inLeft : List (Exchange (I.or J))) = left := by
  simp [lefts, List.filterMap_map, Function.comp_def]

@[simp] theorem rights_map_inRight :
    rights (right.map inRight : List (Exchange (I.or J))) = right := by
  simp [rights, List.filterMap_map, Function.comp_def]

@[simp] theorem lefts_map_inRight :
    lefts (right.map inRight : List (Exchange (I.or J))) = [] := by
  simp [lefts, List.filterMap_map, Function.comp_def]

@[simp] theorem rights_map_inLeft :
    rights (left.map inLeft : List (Exchange (I.or J))) = [] := by
  simp [rights, List.filterMap_map, Function.comp_def]

end Exchange

namespace Inquiry

variable {I J : Interface} {α β : Type}

/-- The inquiry ends with this result after this exchange. -/
inductive Ends : Inquiry I α → List (Exchange I) → α → Prop
  | done (a : α) : Ends (.done a) [] a
  | note {n : Notice} {rest : Inquiry I α} {log : List (Exchange I)} {a : α} (h : Ends rest log a) :
    Ends (.note n rest) log a
  | ask {q : I.Question} {next : I.Answer q → Inquiry I α} {log : List (Exchange I)} {b : α}
    (a : I.Answer q) (h : Ends (next a) log b) : Ends (.ask q next) (⟨q, a⟩ :: log) b

theorem ends_pure {a b : α} {log : List (Exchange I)} :
    Ends (pure a : Inquiry I α) log b ↔ log = [] ∧ b = a := by
  constructor
  · rintro ⟨⟩
    exact ⟨rfl, rfl⟩
  · rintro ⟨rfl, rfl⟩
    exact .done b

theorem ends_put {q : I.Question} {log : List (Exchange I)} {a : I.Answer q} :
    (put q).Ends log a ↔ log = [⟨q, a⟩] := by
  constructor
  · rintro (_ | _ | ⟨_, ⟨⟩⟩)
    rfl
  · rintro rfl
    exact .ask a (.done a)

theorem ends_tell {n : Notice} {log : List (Exchange I)} {u : Unit} :
    (tell n : Inquiry I Unit).Ends log u ↔ log = [] := by
  constructor
  · rintro (_ | ⟨⟨⟩⟩)
    rfl
  · rintro rfl
    exact .note (.done ())

theorem ends_bind {x : Inquiry I α} {f : α → Inquiry I β} {log : List (Exchange I)} {b : β} :
    (x >>= f).Ends log b ↔
      ∃ first a rest, log = first ++ rest ∧ x.Ends first a ∧ (f a).Ends rest b := by
  induction x generalizing log with
  | done a =>
    constructor
    · exact fun h => ⟨[], a, log, rfl, .done a, h⟩
    · rintro ⟨_, _, rest, rfl, ⟨⟩, h⟩
      exact h
  | note n rest ih =>
    constructor
    · rintro (_ | ⟨h⟩)
      obtain ⟨first, a, rest, e, hfirst, hrest⟩ := ih.mp h
      exact ⟨first, a, rest, e, .note hfirst, hrest⟩
    · rintro ⟨first, a, rest, e, _ | hfirst, hrest⟩
      exact .note (ih.mpr ⟨first, a, rest, e, hfirst, hrest⟩)
  | ask q next ih =>
    constructor
    · rintro (_ | _ | ⟨a, h⟩)
      obtain ⟨first, b, rest, rfl, hfirst, hrest⟩ := (ih a).mp h
      exact ⟨⟨q, a⟩ :: first, b, rest, rfl, .ask a hfirst, hrest⟩
    · rintro ⟨_, b, rest, rfl, _ | _ | ⟨a, hfirst⟩, hrest⟩
      exact .ask a ((ih a).mpr ⟨_, b, rest, rfl, hfirst, hrest⟩)

/-- After a question all that follows goes on with its answer. -/
theorem ends_put_bind {q : I.Question} {f : I.Answer q → Inquiry I β} {log : List (Exchange I)}
    {b : β} : (put q >>= f).Ends log b ↔ ∃ a rest, log = ⟨q, a⟩ :: rest ∧ (f a).Ends rest b := by
  constructor
  · rintro (_ | _ | ⟨a, h⟩)
    exact ⟨a, _, rfl, h⟩
  · rintro ⟨a, rest, rfl, h⟩
    exact .ask a h

theorem ends_tell_bind {n : Notice} {f : Unit → Inquiry I β} {log : List (Exchange I)} {b : β} :
    (tell n >>= f).Ends log b ↔ (f ()).Ends log b :=
  ⟨fun (.note h) => h, .note⟩

/-- What follows a step can be replaced by what goes the same way after it. -/
theorem ends_bind_congr {x : Inquiry I α} {f g : α → Inquiry I β} {log : List (Exchange I)} {b : β}
    (h : ∀ first a rest, log = first ++ rest → ((f a).Ends rest b ↔ (g a).Ends rest b)) :
    (x >>= f).Ends log b ↔ (x >>= g).Ends log b := by
  rw [ends_bind, ends_bind]
  refine exists_congr fun first => exists_congr fun a => exists_congr fun rest => ?_
  exact and_congr_right fun hlog => and_congr_right fun _ => h first a rest hlog

theorem ends_put_bind_congr {q : I.Question} {f g : I.Answer q → Inquiry I β}
    {log : List (Exchange I)} {b : β}
    (h : ∀ a rest, log = ⟨q, a⟩ :: rest → ((f a).Ends rest b ↔ (g a).Ends rest b)) :
    (put q >>= f).Ends log b ↔ (put q >>= g).Ends log b := by
  rw [ends_put_bind, ends_put_bind]
  refine exists_congr fun a => exists_congr fun rest => ?_
  exact and_congr_right fun hlog => h a rest hlog

theorem ends_map {x : Inquiry I α} {f : α → β} {log : List (Exchange I)} {b : β} :
    (f <$> x).Ends log b ↔ ∃ a, x.Ends log a ∧ b = f a := by
  rw [map_eq_pure_bind, ends_bind]
  constructor
  · rintro ⟨first, a, rest, rfl, hx, h⟩
    obtain ⟨rfl, rfl⟩ := ends_pure.mp h
    exact ⟨a, by rwa [List.append_nil], rfl⟩
  · rintro ⟨a, hx, rfl⟩
    exact ⟨log, a, [], (List.append_nil log).symm, hx, .done _⟩

/-! ## Questions that are passed on -/

/-- The second exchange is what passing on the questions of the first comes to. -/
inductive Passed (answer : (q : I.Question) → Inquiry J (I.Answer q)) :
    List (Exchange I) → List (Exchange J) → Prop
  | nil : Passed answer [] []
  | cons {e : Exchange I} {rest : List (Exchange I)} {log log' : List (Exchange J)}
    (h : (answer e.question).Ends log e.answer) (hrest : Passed answer rest log') :
    Passed answer (e :: rest) (log ++ log')

/-- Each question that was asked was passed on. -/
theorem Passed.exists_of_mem {answer : (q : I.Question) → Inquiry J (I.Answer q)}
    {asked : List (Exchange I)} {log : List (Exchange J)} (h : Passed answer asked log)
    {e : Exchange I} (he : e ∈ asked) :
    ∃ part, (∀ d ∈ part, d ∈ log) ∧ (answer e.question).Ends part e.answer := by
  induction h with
  | nil => exact absurd he List.not_mem_nil
  | @cons first rest part log hfirst _ ih =>
    cases List.mem_cons.mp he with
    | inl heq =>
      subst heq
      exact ⟨part, fun d hd => List.mem_append_left log hd, hfirst⟩
    | inr hrest =>
      obtain ⟨later, hlater, hends⟩ := ih hrest
      exact ⟨later, fun d hd => List.mem_append_right part (hlater d hd), hends⟩

/-- What was asked in the end was asked for a question that was passed on. -/
theorem Passed.exists_of_mem_log {answer : (q : I.Question) → Inquiry J (I.Answer q)}
    {asked : List (Exchange I)} {log : List (Exchange J)} (h : Passed answer asked log)
    {d : Exchange J} (hd : d ∈ log) :
    ∃ e ∈ asked, ∃ part, d ∈ part ∧ (answer e.question).Ends part e.answer := by
  induction h with
  | nil => exact absurd hd List.not_mem_nil
  | @cons first rest part log hfirst _ ih =>
    cases List.mem_append.mp hd with
    | inl hpart => exact ⟨first, List.mem_cons_self .., part, hpart, hfirst⟩
    | inr hlater =>
      obtain ⟨e, he, hends⟩ := ih hlater
      exact ⟨e, List.mem_cons_of_mem first he, hends⟩

/-- Questions that were each passed on in some part of an exchange were all passed on in a part of
it. -/
theorem exists_passed {answer : (q : I.Question) → Inquiry J (I.Answer q)}
    {log : List (Exchange J)} : ∀ {asked : List (Exchange I)},
    (∀ e ∈ asked, ∃ part, (∀ d ∈ part, d ∈ log) ∧ (answer e.question).Ends part e.answer) →
    ∃ part, (∀ d ∈ part, d ∈ log) ∧ Passed answer asked part
  | [], _ => ⟨[], nofun, .nil⟩
  | e :: rest, h => by
    obtain ⟨hfirst, hrest⟩ := List.forall_mem_cons.mp h
    obtain ⟨part, hpart, hends⟩ := hfirst
    obtain ⟨later, hlater, hpassed⟩ := exists_passed hrest
    refine ⟨part ++ later, fun d hd => ?_, .cons hends hpassed⟩
    cases List.mem_append.mp hd with
    | inl hin => exact hpart d hin
    | inr hin => exact hlater d hin

theorem ends_through {answer : (q : I.Question) → Inquiry J (I.Answer q)} {x : Inquiry I α}
    {log : List (Exchange J)} {b : α} :
    (x.through answer).Ends log b ↔ ∃ asked, x.Ends asked b ∧ Passed answer asked log := by
  induction x generalizing log with
  | done a =>
    constructor
    · rintro ⟨⟩
      exact ⟨[], .done b, .nil⟩
    · rintro ⟨_, ⟨⟩, ⟨⟩⟩
      exact .done b
  | note n rest ih =>
    show (tell n >>= fun _ => rest.through answer).Ends log b ↔ _
    rw [ends_tell_bind, ih]
    constructor
    · rintro ⟨asked, h, hpassed⟩
      exact ⟨asked, .note h, hpassed⟩
    · rintro ⟨asked, _ | h, hpassed⟩
      exact ⟨asked, h, hpassed⟩
  | ask q next ih =>
    show (answer q >>= fun a => (next a).through answer).Ends log b ↔ _
    rw [ends_bind]
    constructor
    · rintro ⟨first, a, rest, rfl, hfirst, hrest⟩
      obtain ⟨asked, h, hpassed⟩ := (ih a).mp hrest
      exact ⟨⟨q, a⟩ :: asked, .ask a h, .cons hfirst hpassed⟩
    · rintro ⟨_, _ | _ | ⟨a, h⟩, _ | ⟨hfirst, hpassed⟩⟩
      exact ⟨_, a, _, rfl, hfirst, (ih a).mpr ⟨_, h, hpassed⟩⟩

theorem passed_inLeft {asked : List (Exchange I)} {log : List (Exchange (I.or J))} :
    Passed (fun q => put (I := I.or J) (.inl q)) asked log ↔ log = asked.map .inLeft := by
  induction asked generalizing log with
  | nil => exact ⟨fun h => by cases h; rfl, fun h => h ▸ .nil⟩
  | cons e rest ih =>
    constructor
    · rintro (_ | ⟨h, hrest⟩)
      rw [ends_put.mp h, ih.mp hrest]
      rfl
    · rintro rfl
      have here : (put (I := I.or J) (.inl e.question)).Ends [e.inLeft] e.answer :=
        ends_put.mpr rfl
      exact .cons here (ih.mpr rfl)

theorem passed_inRight {asked : List (Exchange J)} {log : List (Exchange (I.or J))} :
    Passed (fun q => put (I := I.or J) (.inr q)) asked log ↔ log = asked.map .inRight := by
  induction asked generalizing log with
  | nil => exact ⟨fun h => by cases h; rfl, fun h => h ▸ .nil⟩
  | cons e rest ih =>
    constructor
    · rintro (_ | ⟨h, hrest⟩)
      rw [ends_put.mp h, ih.mp hrest]
      rfl
    · rintro rfl
      have here : (put (I := I.or J) (.inr e.question)).Ends [e.inRight] e.answer :=
        ends_put.mpr rfl
      exact .cons here (ih.mpr rfl)

theorem ends_inLeft {x : Inquiry I α} {log : List (Exchange (I.or J))} {a : α} :
    (x.inLeft : Inquiry (I.or J) α).Ends log a ↔
      ∃ asked, x.Ends asked a ∧ log = asked.map .inLeft := by
  unfold inLeft
  simp only [ends_through, passed_inLeft]

theorem ends_inRight {x : Inquiry J α} {log : List (Exchange (I.or J))} {a : α} :
    (x.inRight : Inquiry (I.or J) α).Ends log a ↔
      ∃ asked, x.Ends asked a ∧ log = asked.map .inRight := by
  unfold inRight
  simp only [ends_through, passed_inRight]

/-! ## One way of answering -/

/-- The exchange and the result where questions are answered one after the other from a state. -/
def answered {σ : Type} (answer : (q : I.Question) → StateM σ (I.Answer q)) :
    Inquiry I α → σ → List (Exchange I) × α
  | .done a, _ => ([], a)
  | .note _ rest, s => rest.answered answer s
  | .ask q next, s =>
    let (a, s') := answer q s
    let (log, b) := (next a).answered answer s'
    (⟨q, a⟩ :: log, b)

theorem ends_answered {σ : Type} (answer : (q : I.Question) → StateM σ (I.Answer q)) :
    ∀ (x : Inquiry I α) (s : σ), x.Ends (x.answered answer s).1 (x.answered answer s).2
  | .done a, _ => .done a
  | .note _ rest, s => .note (ends_answered answer rest s)
  | .ask q next, s => .ask _ (ends_answered answer (next (answer q s).1) (answer q s).2)

/-- The exchange and the result where every question has one answer. -/
def known (answer : (q : I.Question) → I.Answer q) (x : Inquiry I α) : List (Exchange I) × α :=
  x.answered (σ := Unit) (fun q => pure (answer q)) ()

theorem ends_known (answer : (q : I.Question) → I.Answer q) (x : Inquiry I α) :
    x.Ends (x.known answer).1 (x.known answer).2 :=
  ends_answered _ x ()

/-- What was answered is the one answer to the question. -/
theorem answer_of_mem_known {answer : (q : I.Question) → I.Answer q} {e : Exchange I} :
    ∀ {x : Inquiry I α}, e ∈ (x.known answer).1 → e.answer = answer e.question
  | .done a, h => absurd h List.not_mem_nil
  | .note n rest, h => answer_of_mem_known (x := rest) h
  | .ask q next, h => by
    cases List.mem_cons.mp h with
    | inl here => rw [here]
    | inr later => exact answer_of_mem_known (x := next (answer q)) later

/-- There is no other ending with these answers. -/
theorem Ends.eq_known {answer : (q : I.Question) → I.Answer q} {x : Inquiry I α}
    {log : List (Exchange I)} {a : α} (h : x.Ends log a)
    (hlog : ∀ e ∈ log, e.answer = answer e.question) : x.known answer = (log, a) := by
  induction h with
  | done a => rfl
  | note _ ih => exact ih hlog
  | @ask q next log b given _ ih =>
    obtain ⟨hfirst, hrest⟩ := List.forall_mem_cons.mp hlog
    obtain rfl : given = answer q := hfirst
    show (_ :: ((next (answer q)).known answer).1, ((next (answer q)).known answer).2) = _
    rw [ih hrest]

end Inquiry

namespace Attempt

variable {I J : Interface} {α β : Type}

/-- The attempt ends with this result or fault after this exchange. -/
def Ends (x : Attempt I α) (log : List (Exchange I)) (r : Except Fault α) : Prop :=
  x.outcome.Ends log r

variable {x : Attempt I α} {log : List (Exchange I)}

theorem ends_ofExcept {r r' : Except Fault α} :
    (ofExcept r : Attempt I α).Ends log r' ↔ log = [] ∧ r' = r :=
  Inquiry.ends_pure

theorem ends_pure {a : α} {r : Except Fault α} :
    (pure a : Attempt I α).Ends log r ↔ log = [] ∧ r = .ok a :=
  Inquiry.ends_pure

theorem ends_throw {fault : Fault} {r : Except Fault α} :
    (throw fault : Attempt I α).Ends log r ↔ log = [] ∧ r = .error fault :=
  Inquiry.ends_pure

theorem ends_ofInquiry {y : Inquiry I α} {r : Except Fault α} :
    (ofInquiry y).Ends log r ↔ ∃ a, y.Ends log a ∧ r = .ok a :=
  Inquiry.ends_map

theorem ends_tell {n : Notice} {r : Except Fault Unit} :
    (tell n : Attempt I Unit).Ends log r ↔ log = [] ∧ r = .ok () := by
  rw [tell, ends_ofInquiry]
  simp only [Inquiry.ends_tell]
  exact ⟨fun ⟨_, h, e⟩ => ⟨h, e⟩, fun ⟨h, e⟩ => ⟨(), h, e⟩⟩

/-- A step that fails is the last. -/
theorem ends_bind {f : α → Attempt I β} {r : Except Fault β} :
    (x >>= f).Ends log r ↔
      (∃ fault, r = .error fault ∧ x.Ends log (.error fault)) ∨
      ∃ first a rest, log = first ++ rest ∧ x.Ends first (.ok a) ∧ (f a).Ends rest r := by
  show (x.outcome >>= ExceptT.bindCont f).Ends log r ↔ _
  rw [Inquiry.ends_bind]
  constructor
  · rintro ⟨first, a, rest, rfl, hx, h⟩
    cases a with
    | error fault =>
      obtain ⟨rfl, rfl⟩ := Inquiry.ends_pure.mp h
      exact .inl ⟨fault, rfl, by rwa [List.append_nil]⟩
    | ok a => exact .inr ⟨first, a, rest, rfl, hx, h⟩
  · rintro (⟨fault, rfl, hx⟩ | ⟨first, a, rest, rfl, hx, h⟩)
    · exact ⟨log, _, [], (List.append_nil log).symm, hx, .done _⟩
    · exact ⟨first, _, rest, rfl, hx, h⟩

theorem Ends.bind {f : α → Attempt I β} {a : α} {first rest : List (Exchange I)}
    {r : Except Fault β} (hx : x.Ends first (.ok a)) (h : (f a).Ends rest r) :
    (x >>= f).Ends (first ++ rest) r :=
  ends_bind.mpr (.inr ⟨first, a, rest, rfl, hx, h⟩)

/-- Of an attempt that goes through, each step did. -/
theorem Ends.bind_ok {f : α → Attempt I β} {b : β} (h : (x >>= f).Ends log (.ok b)) :
    ∃ first a rest, log = first ++ rest ∧ x.Ends first (.ok a) ∧ (f a).Ends rest (.ok b) := by
  rcases ends_bind.mp h with ⟨_, e, -⟩ | hsteps
  · cases e
  · exact hsteps

/-- What is made of the end of an attempt adds nothing to its exchange. -/
theorem Ends.of_bind_pure {f : α → β} {r : Except Fault β}
    (h : (x >>= fun a => pure (f a)).Ends log r) : ∃ r', x.Ends log r' ∧ r = r'.map f := by
  rcases ends_bind.mp h with ⟨fault, rfl, hx⟩ | ⟨first, a, rest, rfl, hx, hlast⟩
  · exact ⟨_, hx, rfl⟩
  · obtain ⟨rfl, rfl⟩ := ends_pure.mp hlast
    exact ⟨_, (List.append_nil first).symm ▸ hx, rfl⟩

/-- What the first step exchanged is part of the whole exchange. -/
theorem Ends.first {f : α → Attempt I β} {r : Except Fault β} (h : (x >>= f).Ends log r) :
    ∃ first r', x.Ends first r' ∧ ∀ e ∈ first, e ∈ log := by
  rcases ends_bind.mp h with ⟨fault, -, hx⟩ | ⟨first, a, rest, rfl, hx, -⟩
  · exact ⟨log, _, hx, fun e he => he⟩
  · exact ⟨first, _, hx, fun e he => List.mem_append_left rest he⟩

theorem ends_put_bind {q : I.Question} {f : I.Answer q → Attempt I β} {r : Except Fault β} :
    ((ofInquiry (.put q) : Attempt I _) >>= f).Ends log r ↔
      ∃ a rest, log = ⟨q, a⟩ :: rest ∧ (f a).Ends rest r :=
  Inquiry.ends_put_bind

theorem ends_tell_bind {n : Notice} {f : Unit → Attempt I β} {r : Except Fault β} :
    ((tell n : Attempt I Unit) >>= f).Ends log r ↔ (f ()).Ends log r :=
  Inquiry.ends_tell_bind

theorem ends_tellAll_bind {notices : List Notice} {f : Unit → Attempt I β} {r : Except Fault β} :
    ((ofInquiry (.tellAll notices) : Attempt I Unit) >>= f).Ends log r ↔ (f ()).Ends log r := by
  induction notices with
  | nil => exact Iff.rfl
  | cons n rest ih => exact (Iff.intro (fun (.note h) => h) .note).trans ih

theorem ends_tell_pure {n : Notice} {a : α} {r : Except Fault α} :
    ((tell n : Attempt I Unit) >>= fun _ => pure a).Ends log r ↔ log = [] ∧ r = .ok a :=
  ends_tell_bind.trans ends_pure

theorem ends_through {answer : (q : I.Question) → Inquiry J (I.Answer q)}
    {log : List (Exchange J)} {r : Except Fault α} :
    (x.through answer).Ends log r ↔ ∃ asked, x.Ends asked r ∧ Inquiry.Passed answer asked log :=
  Inquiry.ends_through

theorem ends_inLeft {log : List (Exchange (I.or J))} {r : Except Fault α} :
    (inLeft x : Attempt (I.or J) α).Ends log r ↔ ∃ asked, x.Ends asked r ∧
      log = asked.map .inLeft :=
  Inquiry.ends_inLeft

theorem ends_inRight {x : Attempt J α} {log : List (Exchange (I.or J))} {r : Except Fault α} :
    (inRight x : Attempt (I.or J) α).Ends log r ↔ ∃ asked, x.Ends asked r ∧
      log = asked.map .inRight :=
  Inquiry.ends_inRight

/-! ## What is asked -/

section Asking

variable {P : I.Question → Prop}

/-- The attempt asks such questions only, whatever it is answered. -/
def AsksOnly (P : I.Question → Prop) (x : Attempt I α) : Prop :=
  ∀ log r, x.Ends log r → ∀ e ∈ log, P e.question

theorem AsksOnly.of_nil {x : Attempt I α} (h : ∀ log r, x.Ends log r → log = []) :
    AsksOnly P x := by
  intro log r hends
  rw [h log r hends]
  exact nofun

theorem AsksOnly.pure' (a : α) : AsksOnly P (pure a : Attempt I α) :=
  of_nil fun _ _ h => (ends_pure.mp h).1

theorem AsksOnly.throw' (fault : Fault) : AsksOnly P (throw fault : Attempt I α) :=
  of_nil fun _ _ h => (ends_throw.mp h).1

theorem AsksOnly.ofExcept (r : Except Fault α) : AsksOnly P (ofExcept r : Attempt I α) :=
  of_nil fun _ _ h => (ends_ofExcept.mp h).1

theorem AsksOnly.tell (n : Notice) : AsksOnly P (Attempt.tell n : Attempt I Unit) :=
  of_nil fun _ _ h => (ends_tell.mp h).1

theorem AsksOnly.put {q : I.Question} (h : P q) :
    AsksOnly P (ofInquiry (.put q) : Attempt I (I.Answer q)) := by
  intro log r hends
  obtain ⟨a, hput, -⟩ := ends_ofInquiry.mp hends
  rw [Inquiry.ends_put.mp hput]
  exact fun e he => List.mem_singleton.mp he ▸ h

theorem AsksOnly.bind {x : Attempt I α} {f : α → Attempt I β} (hx : AsksOnly P x)
    (hf : ∀ a, AsksOnly P (f a)) : AsksOnly P (x >>= f) := by
  intro log r hends
  rcases ends_bind.mp hends with ⟨_, -, h⟩ | ⟨_, a, _, rfl, hfirst, hrest⟩
  · exact hx _ _ h
  · intro e he
    cases List.mem_append.mp he with
    | inl h => exact hx _ _ hfirst e h
    | inr h => exact hf a _ _ hrest e h

theorem AsksOnly.ofOutcome {x : Attempt I α} (hx : AsksOnly P x) :
    AsksOnly P (ofInquiry x.outcome) := by
  intro log r hends
  obtain ⟨y, h, -⟩ := ends_ofInquiry.mp hends
  exact hx _ _ h

theorem AsksOnly.mono {x : Attempt I α} {Q : I.Question → Prop} (hx : AsksOnly P x)
    (h : ∀ q, P q → Q q) : AsksOnly Q x := by
  intro log r hends e he
  exact h _ (hx log r hends e he)

theorem AsksOnly.inLeft {Q : (I.or J).Question → Prop} {x : Attempt I α}
    (hx : AsksOnly (fun q => Q (.inl q)) x) : AsksOnly Q (inLeft x : Attempt (I.or J) α) := by
  intro log r hends e he
  obtain ⟨asked, hasked, rfl⟩ := ends_inLeft.mp hends
  obtain ⟨d, hd, rfl⟩ := List.mem_map.mp he
  exact hx _ _ hasked d hd

theorem AsksOnly.inRight {Q : (J.or I).Question → Prop} {x : Attempt I α}
    (hx : AsksOnly (fun q => Q (.inr q)) x) : AsksOnly Q (inRight x : Attempt (J.or I) α) := by
  intro log r hends e he
  obtain ⟨asked, hasked, rfl⟩ := ends_inRight.mp hends
  obtain ⟨d, hd, rfl⟩ := List.mem_map.mp he
  exact hx _ _ hasked d hd

/-- What is asked in the end is asked for questions that are passed on. -/
theorem AsksOnly.through {Q : J.Question → Prop} {x : Attempt I α}
    {answer : (q : I.Question) → Inquiry J (I.Answer q)} (hx : AsksOnly P x)
    (hanswer : ∀ q part a, P q → (answer q).Ends part a → ∀ e ∈ part, Q e.question) :
    AsksOnly Q (x.through answer) := by
  intro log r hends d hd
  obtain ⟨asked, hasked, hpassed⟩ := ends_through.mp hends
  obtain ⟨e, he, part, hpart, hfrom⟩ := hpassed.exists_of_mem_log hd
  exact hanswer _ part _ (hx _ _ hasked e he) hfrom d hpart

end Asking

end Attempt

end LeastPrivilege
