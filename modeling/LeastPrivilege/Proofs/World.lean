import LeastPrivilege.Lookup
import LeastPrivilege.Proofs.Run

/-!
Worlds. A world is what lookups find, as one table for each kind of lookup: a value, nothing, or
one of the program's own faults. `World.eval` runs an attempt to its end in a world that stands
still. It obeys the laws of `Except`, so generation in a world can be read off its steps, and
`OwnFailures` collects the attempts that end, if they fail, with a fault that callers are prepared
for.
-/

namespace LeastPrivilege

/-- A fault of the program's own kinds, which is all that a lookup fails with. -/
structure OwnFault where
  fault : Fault
  isOperational : fault.isOperational = true

/-- The result of a lookup, with its fault as any other. -/
def OwnFault.plain {α : Type} (r : Except OwnFault α) : Except Fault α :=
  r.mapError (·.fault)

/-- The recorded world: what each lookup finds. -/
structure World where
  flows : Text → Except OwnFault (List Record)
  podAt : Text → Except OwnFault (Option Pod)
  serviceAt : Text → Except OwnFault (Option Service)
  controller : Text → Text → Text → Except OwnFault (Option Controller)
  pod : Text → Text → Except OwnFault (Option Pod)

namespace World

variable {α β : Type}

/-- Answers a lookup from the tables. -/
def answer (w : World) : (q : Lookup) → q.Answer
  | .flows pod => OwnFault.plain (w.flows pod)
  | .podAt ip => OwnFault.plain (w.podAt ip)
  | .serviceAt ip => OwnFault.plain (w.serviceAt ip)
  | .controller ns kind name => OwnFault.plain (w.controller ns kind name)
  | .pod ns name => OwnFault.plain (w.pod ns name)

/-- What an attempt comes to in a world. -/
def eval (w : World) (x : Attempt lookups α) : Except Fault α :=
  Id.run (x.runWith (m := Id) w.answer fun _ => pure ())

variable (w : World)

@[simp] theorem eval_pure (a : α) : w.eval (pure a) = .ok a :=
  rfl

@[simp] theorem eval_throw (fault : Fault) :
    w.eval (throw fault : Attempt lookups α) = .error fault :=
  rfl

@[simp] theorem eval_ofExcept (r : Except Fault α) : w.eval (Attempt.ofExcept r) = r :=
  rfl

@[simp] theorem eval_bind (x : Attempt lookups α) (f : α → Attempt lookups β) :
    w.eval (x >>= f) = w.eval x >>= fun a => w.eval (f a) :=
  Attempt.evalBy_bind x f w.answer

@[simp] theorem eval_outcome (x : Attempt lookups α) :
    w.eval (Attempt.ofInquiry x.outcome) = .ok (w.eval x) := by
  show Id.run ((Attempt.ofInquiry x.outcome).runWith (m := Id) w.answer _) = _
  rw [Attempt.runWith_outcome]
  rfl

@[simp] theorem eval_getFlows (pod : Text) :
    w.eval (Lookup.getFlows pod) = OwnFault.plain (w.flows pod) :=
  rfl

@[simp] theorem eval_getPodAt (ip : Text) :
    w.eval (Lookup.getPodAt ip) = OwnFault.plain (w.podAt ip) :=
  rfl

@[simp] theorem eval_getServiceAt (ip : Text) :
    w.eval (Lookup.getServiceAt ip) = OwnFault.plain (w.serviceAt ip) :=
  rfl

@[simp] theorem eval_getPod (ns name : Text) :
    w.eval (Lookup.getPod ns name) = OwnFault.plain (w.pod ns name) :=
  rfl

/-! ## Attempts that fail with the program's own faults -/

/-- If the attempt fails, then with one of the program's own faults. -/
def OwnFailures (x : Attempt lookups α) : Prop :=
  ∀ fault, w.eval x = .error fault → fault.isOperational = true

end World

theorem OwnFault.isOperational_of_plain {α : Type} {r : Except OwnFault α} {fault : Fault}
    (h : OwnFault.plain r = .error fault) : fault.isOperational = true := by
  cases r with
  | ok a => cases h
  | error own =>
    obtain rfl : own.fault = fault := Except.error.inj h
    exact own.isOperational

theorem OwnFault.ok_of_plain {α : Type} {r : Except OwnFault α} {a : α}
    (h : OwnFault.plain r = .ok a) : r = .ok a := by
  cases r with
  | ok b =>
    cases h
    rfl
  | error own => cases h

theorem OwnFault.toOption_plain {α : Type} (r : Except OwnFault α) :
    (OwnFault.plain r).toOption = r.toOption := by
  cases r <;> rfl

namespace World.OwnFailures

variable {α β : Type} {w : World}

theorem pure' (a : α) : w.OwnFailures (pure a) := by
  intro fault h
  simp at h

theorem throw' {fault : Fault} (h : fault.isOperational = true) :
    w.OwnFailures (throw fault : Attempt lookups α) := by
  intro other e
  simp at e
  rwa [← e]

theorem bind {x : Attempt lookups α} {f : α → Attempt lookups β}
    (hx : w.OwnFailures x) (hf : ∀ a, w.OwnFailures (f a)) : w.OwnFailures (x >>= f) := by
  intro fault h
  rw [eval_bind] at h
  cases e : w.eval x with
  | error other =>
    rw [e] at h
    obtain rfl : other = fault := Except.error.inj h
    exact hx _ e
  | ok a =>
    rw [e] at h
    exact hf a fault h

theorem getController (ns kind name : Text) :
    w.OwnFailures (Lookup.getController ns kind name) :=
  fun _ h => OwnFault.isOperational_of_plain h

theorem getPodAt (ip : Text) : w.OwnFailures (Lookup.getPodAt ip) :=
  fun _ h => OwnFault.isOperational_of_plain h

theorem getServiceAt (ip : Text) : w.OwnFailures (Lookup.getServiceAt ip) :=
  fun _ h => OwnFault.isOperational_of_plain h

theorem getPod (ns name : Text) : w.OwnFailures (Lookup.getPod ns name) :=
  fun _ h => OwnFault.isOperational_of_plain h

end World.OwnFailures

/-- A small world: a web pod that was reached from one address and that asked for a database behind
a service. -/
def World.shop : World where
  flows pod := .ok (if pod = "web" then [
    { targetIp := "10.0.0.7", peerIp := "192.0.2.4", direction := "ingress", targetPort := "8080" },
    { targetIp := "10.0.0.7", peerIp := "10.0.0.5", direction := "egress", peerPort := "5432" }]
    else [])
  podAt ip := .ok (if ip = "10.0.0.7" then
    some { ns := "shop", name := "web", ip := "10.0.0.7", labels := [label "app" "web"] } else none)
  serviceAt ip := .ok (if ip = "10.0.0.5" then
    some { ns := "data", name := "db", selector := [label "app" "db"] } else none)
  controller _ _ _ := .ok none
  pod _ _ := .ok none

end LeastPrivilege
