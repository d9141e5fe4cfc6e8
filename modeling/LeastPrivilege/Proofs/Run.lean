import LeastPrivilege.Proofs.Ending

/-!
Running programs. A run goes through an inquiry one question at a time, so it is a morphism of
monads: what a sequence of steps does is what the steps do, one after the other (`run_bind`), and
an inquiry whose questions are answered by other inquiries runs as if those had been asked
directly (`run_through`). The same laws for attempts say where a fault ends a run. They hold for
every way of answering, so they serve fixed tables and stateful outsides alike. A run among fixed
answers is an ending of the program (`run_eq_known`).
-/

namespace LeastPrivilege

theorem ok_of_toOption {ε α : Type} {r : Except ε α} {a : α} (h : r.toOption = some a) :
    r = .ok a := by
  cases r with
  | error e => cases h
  | ok found =>
    obtain rfl : found = a := Option.some.inj h
    rfl

/-- What a step that went through leaves to the next. -/
theorem bind_ok {ε α β : Type} {x : Except ε α} {f : α → Except ε β} {b : β}
    (h : x >>= f = .ok b) : ∃ a, x = .ok a ∧ f a = .ok b := by
  cases x with
  | error e => cases h
  | ok a => exact ⟨a, rfl, h⟩

/-- Where steps that did not go through failed. -/
theorem bind_error {ε α β : Type} {x : Except ε α} {f : α → Except ε β} {e : ε}
    (h : x >>= f = .error e) : x = .error e ∨ ∃ a, x = .ok a ∧ f a = .error e := by
  cases x with
  | error other => exact .inl (congrArg _ (Except.error.inj h))
  | ok a => exact .inr ⟨a, rfl, h⟩

namespace Inquiry

variable {I J : Interface} {α β : Type} {m : Type → Type} [Monad m] [LawfulMonad m]
variable (answer : (q : I.Question) → m (I.Answer q)) (keep : Notice → m Unit)

theorem run_bind (x : Inquiry I α) (f : α → Inquiry I β) :
    (x >>= f).run answer keep = x.run answer keep >>= fun a => (f a).run answer keep := by
  induction x with
  | done a =>
    simp only [run, pure_bind]
    rfl
  | note n rest ih =>
    show (keep n >>= fun _ => (rest >>= f).run answer keep) = _
    simp only [run, ih, bind_assoc]
  | ask q next ih =>
    show (answer q >>= fun a => (next a >>= f).run answer keep) = _
    simp only [run, ih, bind_assoc]

theorem run_put (q : I.Question) : (put q).run answer keep = answer q := by
  simp [put, run]

theorem run_tell (n : Notice) : (tell n : Inquiry I Unit).run answer keep = keep n := by
  simp [tell, run]

/-- Questions that are passed on are answered as if they had been asked directly. -/
theorem run_through (step : (q : J.Question) → Inquiry I (J.Answer q)) (x : Inquiry J α) :
    (x.through step).run answer keep = x.run (fun q => (step q).run answer keep) keep := by
  induction x with
  | done a => rfl
  | note n rest ih =>
    show (tell n >>= fun _ => rest.through step).run answer keep = _
    rw [run_bind, run_tell, ih]
    rfl
  | ask q next ih =>
    show (step q >>= fun a => (next a).through step).run answer keep = _
    rw [run_bind]
    simp only [run, ih]

/-- Answers that are known beforehand, with notices dropped, do nothing else. -/
theorem run_pure (known : (q : I.Question) → I.Answer q) (x : Inquiry I α) :
    x.run (fun q => pure (known q)) (fun _ => pure ()) =
      (pure (x.run (m := Id) known fun _ => ()) : m α) := by
  induction x with
  | done a => rfl
  | note n rest ih =>
    simp only [run, pure_bind, ih]
    rfl
  | ask q next ih =>
    simp only [run, pure_bind, ih]
    rfl

/-- A run among fixed answers is the one ending with these answers. -/
theorem run_eq_known (answer : (q : I.Question) → I.Answer q) : ∀ x : Inquiry I α,
    x.run (m := Id) answer (fun _ => pure ()) = (x.known answer).2
  | .done _ => rfl
  | .note _ rest => run_eq_known answer rest
  | .ask q next => run_eq_known answer (next (answer q))

end Inquiry

namespace Attempt

variable {I J : Interface} {α β : Type} {m : Type → Type} [Monad m]

/-- Runs an attempt to its result or its fault. -/
def runWith (answer : (q : I.Question) → m (I.Answer q)) (keep : Notice → m Unit)
    (x : Attempt I α) : m (Except Fault α) :=
  x.outcome.run answer keep

variable (answer : (q : I.Question) → m (I.Answer q)) (keep : Notice → m Unit)

variable [LawfulMonad m]

/-- A step that fails ends the run; what follows it is not asked. -/
theorem runWith_bind (x : Attempt I α) (f : α → Attempt I β) :
    (x >>= f).runWith answer keep = x.runWith answer keep >>= fun
      | .ok a => (f a).runWith answer keep
      | .error fault => pure (.error fault) := by
  show (x.outcome >>= ExceptT.bindCont f).run answer keep = _
  rw [Inquiry.run_bind]
  congr 1
  funext r
  cases r <;> rfl

theorem runWith_ofInquiry (x : Inquiry I α) :
    (ofInquiry x).runWith answer keep = Except.ok <$> x.run answer keep := by
  show (x >>= fun a => Inquiry.done (Except.ok a)).run answer keep = _
  rw [Inquiry.run_bind, map_eq_pure_bind]
  rfl

/-- An attempt whose fault is looked at does not fail. -/
theorem runWith_outcome (x : Attempt I α) :
    (ofInquiry x.outcome).runWith answer keep = Except.ok <$> x.runWith answer keep :=
  runWith_ofInquiry answer keep x.outcome

theorem runWith_inLeft (answer : (q : (I.or J).Question) → m ((I.or J).Answer q))
    (x : Attempt I α) :
    (inLeft x : Attempt (I.or J) α).runWith answer keep
      = x.runWith (fun q => answer (.inl q)) keep := by
  show (x.outcome.through _).run answer keep = _
  rw [Inquiry.run_through]
  simp only [Inquiry.run_put]
  rfl

theorem runWith_inRight (answer : (q : (I.or J).Question) → m ((I.or J).Answer q))
    (x : Attempt J α) :
    (inRight x : Attempt (I.or J) α).runWith answer keep
      = x.runWith (fun q => answer (.inr q)) keep := by
  show (x.outcome.through _).run answer keep = _
  rw [Inquiry.run_through]
  simp only [Inquiry.run_put]
  rfl

/-! ## Answers that stand still -/

/-- What an attempt comes to where every question has one answer. -/
def evalBy (x : Attempt I α) (known : (q : I.Question) → I.Answer q) : Except Fault α :=
  Id.run (x.runWith (m := Id) known fun _ => pure ())

theorem ends_evalBy (x : Attempt I α) (known : (q : I.Question) → I.Answer q) :
    ∃ log, x.Ends log (x.evalBy known) ∧ ∀ e ∈ log, e.answer = known e.question := by
  refine ⟨(x.outcome.known known).1, ?_, fun e he => Inquiry.answer_of_mem_known he⟩
  have hrun : x.evalBy known = (x.outcome.known known).2 := Inquiry.run_eq_known known x.outcome
  rw [hrun]
  exact Inquiry.ends_known known x.outcome

theorem evalBy_bind (x : Attempt I α) (f : α → Attempt I β)
    (known : (q : I.Question) → I.Answer q) :
    (x >>= f).evalBy known = x.evalBy known >>= fun a => (f a).evalBy known := by
  show Id.run ((x >>= f).runWith (m := Id) known _) = _
  rw [runWith_bind]
  show Id.run (match x.runWith (m := Id) known fun _ => pure () with
    | .ok a => (f a).runWith (m := Id) known fun _ => pure ()
    | .error fault => pure (.error fault)) = _
  simp only [evalBy]
  cases x.runWith (m := Id) known fun _ => pure () <;> rfl

theorem evalBy_tellAll (notices : List Notice) (known : (q : I.Question) → I.Answer q) :
    (ofInquiry (.tellAll notices) : Attempt I Unit).evalBy known = .ok () := by
  induction notices with
  | nil => rfl
  | cons n rest ih => exact ih

/-! ## Runs that change a state -/

variable {σ : Type}

/-- Runs an attempt from a state to its result or its fault, and to the state afterwards. -/
def runOn (answer : (q : I.Question) → StateM σ (I.Answer q)) (x : Attempt I α) (s : σ) :
    Except Fault α × σ :=
  x.runWith (m := StateM σ) answer (fun _ => pure ()) s

variable (answer : (q : I.Question) → StateM σ (I.Answer q)) (s : σ)

@[simp] theorem runOn_ofExcept (r : Except Fault α) :
    (ofExcept r : Attempt I α).runOn answer s = (r, s) :=
  rfl

@[simp] theorem runOn_put (q : I.Question) :
    (ofInquiry (.put q) : Attempt I _).runOn answer s = ((.ok (answer q s).1), (answer q s).2) :=
  rfl

@[simp] theorem runOn_bind (x : Attempt I α) (f : α → Attempt I β) :
    (x >>= f).runOn answer s = match x.runOn answer s with
      | (.ok a, next) => (f a).runOn answer next
      | (.error fault, next) => (.error fault, next) := by
  show ((x >>= f).runWith (m := StateM σ) answer _) s = _
  rw [runWith_bind]
  show (match x.runOn answer s with
    | (r, next) => (match r with
      | .ok a => (f a).runWith (m := StateM σ) answer fun _ => pure ()
      | .error fault => pure (.error fault)) next) = _
  rcases x.runOn answer s with ⟨r, next⟩
  cases r <;> rfl

@[simp] theorem runOn_outcome (x : Attempt I α) :
    (ofInquiry x.outcome).runOn answer s = (.ok (x.runOn answer s).1, (x.runOn answer s).2) := by
  show ((ofInquiry x.outcome).runWith (m := StateM σ) answer _) s = _
  rw [runWith_outcome]
  rfl

/-- Answers that are known beforehand leave the state as it is. -/
theorem runOn_known (known : (q : I.Question) → I.Answer q) (x : Attempt I α) :
    x.runOn (fun q => pure (known q)) s
      = (Id.run (x.runWith (m := Id) known fun _ => pure ()), s) :=
  congrFun (Inquiry.run_pure (m := StateM σ) known x.outcome) s

theorem runOn_inLeft (answer : (q : (I.or J).Question) → StateM σ ((I.or J).Answer q))
    (x : Attempt I α) :
    (inLeft x : Attempt (I.or J) α).runOn answer s = x.runOn (fun q => answer (.inl q)) s :=
  congrFun (runWith_inLeft (m := StateM σ) (fun _ => pure ()) answer x) s

theorem runOn_inRight (answer : (q : (I.or J).Question) → StateM σ ((I.or J).Answer q))
    (x : Attempt J α) :
    (inRight x : Attempt (I.or J) α).runOn answer s = x.runOn (fun q => answer (.inr q)) s :=
  congrFun (runWith_inRight (m := StateM σ) (fun _ => pure ()) answer x) s

end Attempt

end LeastPrivilege
