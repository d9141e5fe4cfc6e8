import LeastPrivilege.Cluster.Access
import LeastPrivilege.Proofs.Ending

/-!
Access to the cluster, by its endings. Each step makes one request at most, so what it gives is read
off the reply; what goes wrong is a fault of the program's own.
-/

namespace LeastPrivilege.Cluster

theorem found_ok_some {α : Type} {action : ClusterAction} {reply : Except ApiFailure α} {a : α}
    (h : found action reply = .ok (some a)) : reply = .ok a := by
  cases reply with
  | ok b =>
    obtain rfl : b = a := Option.some.inj (Except.ok.inj h)
    rfl
  | error failure =>
    cases failure with
    | refused status reason =>
      change (if status = notFound then Except.ok none else _) = Except.ok (some a) at h
      by_cases hmissing : status = notFound
      · rw [if_pos hmissing] at h
        cases h
      · rw [if_neg hmissing] at h
        cases h
    | unreachable reason => cases h

/-- What was made of an object that was found was made of the one in the reply. -/
theorem found_map_ok_some {α β : Type} {action : ClusterAction} {reply : Except ApiFailure α}
    {f : α → β} {b : β} (h : .ok (some b) = (found action reply).map (Option.map f)) :
    ∃ a, reply = .ok a ∧ b = f a := by
  cases hfound : found action reply with
  | error fault =>
    rw [hfound] at h
    cases h
  | ok object =>
    rw [hfound] at h
    cases object with
    | none => cases h
    | some a => exact ⟨a, found_ok_some hfound, Option.some.inj (Except.ok.inj h)⟩

theorem found_operational {α : Type} {action : ClusterAction} {reply : Except ApiFailure α}
    {fault : Fault} (h : found action reply = .error fault) : fault.isOperational = true := by
  cases reply with
  | ok a => cases h
  | error failure =>
    cases failure with
    | refused status reason =>
      change (if status = notFound then _ else _) = _ at h
      split at h
      · cases h
      · cases h
        rfl
    | unreachable reason =>
      cases h
      rfl

variable {timeout : Double} {ns name : Text} {log : List (Exchange cluster)}

theorem ends_getPod {x : Except Fault (Option Pod)} (h : (getPod timeout ns name).Ends log x) :
    ∃ reply : Except ApiFailure PodObject, log = [⟨.request timeout (.pod ns name), reply⟩] ∧
      x = (found (.readObject "pod" ns name) reply).map (Option.map podOf) := by
  obtain ⟨reply, rest, rfl, hreply⟩ := Attempt.ends_put_bind.mp h
  rcases Attempt.ends_bind.mp hreply with ⟨fault, rfl, hfault⟩ | ⟨_, object, _, rfl, hfound, hdone⟩
  · obtain ⟨rfl, e⟩ := Attempt.ends_ofExcept.mp hfault
    exact ⟨reply, rfl, by rw [← e]; rfl⟩
  · obtain ⟨rfl, e⟩ := Attempt.ends_ofExcept.mp hfound
    obtain ⟨rfl, rfl⟩ := Attempt.ends_pure.mp hdone
    exact ⟨reply, rfl, by rw [← e]; rfl⟩

/-- A controller of an unknown kind is not asked for. -/
theorem ends_getController {kind : Text} {x : Except Fault (Option Controller)}
    (h : (getController timeout ns kind name).Ends log x) :
    (ControllerKind.ofName? kind = none ∧ log = [] ∧
      x = .error (.cluster (.unknownOwnerKind kind))) ∨
    ∃ k, ∃ reply : Except ApiFailure ControllerObject, ControllerKind.ofName? kind = some k ∧
      log = [⟨.request timeout (.controller k ns name), reply⟩] ∧
      x = (found (.readObject kind ns name) reply).map
        (Option.map (controllerOf kind ns name)) := by
  unfold getController at h
  cases hkind : ControllerKind.ofName? kind with
  | none =>
    rw [hkind] at h
    exact .inl ⟨rfl, Attempt.ends_throw.mp h⟩
  | some k =>
    rw [hkind] at h
    obtain ⟨reply, rest, rfl, hreply⟩ := Attempt.ends_put_bind.mp h
    rcases Attempt.ends_bind.mp hreply with
      ⟨fault, rfl, hfault⟩ | ⟨_, object, last, rfl, hfound, hdone⟩
    · obtain ⟨rfl, e⟩ := Attempt.ends_ofExcept.mp hfault
      exact .inr ⟨k, reply, rfl, rfl, by rw [← e]; rfl⟩
    · obtain ⟨rfl, e⟩ := Attempt.ends_ofExcept.mp hfound
      have hend : last = [] ∧ x = .ok (object.map (controllerOf kind ns name)) := by
        cases object with
        | some object => exact Attempt.ends_pure.mp hdone
        | none => exact Attempt.ends_tell_pure.mp hdone
      obtain ⟨rfl, rfl⟩ := hend
      exact .inr ⟨k, reply, rfl, rfl, by rw [← e]; rfl⟩

/-- A controller is found, or not for a fault of the program's own. -/
theorem getController_operational {kind : Text} {fault : Fault}
    (h : (getController timeout ns kind name).Ends log (.error fault)) :
    fault.isOperational = true := by
  rcases ends_getController h with ⟨-, -, e⟩ | ⟨k, reply, -, -, e⟩
  · cases e
    rfl
  · cases hreply : found (.readObject kind ns name) reply with
    | ok object =>
      rw [hreply] at e
      cases e
    | error other =>
      rw [hreply] at e
      cases e
      exact found_operational hreply

/-- The running pods among some objects. -/
def running (objects : List PodObject) : List Pod :=
  (objects.filter isRunning).map podOf

theorem ends_listRunningPods {ns : Option Text} {x : Except Fault (List Pod)}
    (h : (listRunningPods timeout ns).Ends log x) :
    ∃ reply : Except ApiFailure (List PodObject), log = [⟨.request timeout (.pods ns), reply⟩] ∧
      x = (reply.mapError (faultOf .listPods)).map running := by
  obtain ⟨reply, rest, rfl, hreply⟩ := Attempt.ends_put_bind.mp h
  cases reply with
  | error failure =>
    obtain ⟨rfl, e⟩ := Attempt.ends_throw.mp hreply
    exact ⟨_, rfl, e⟩
  | ok objects =>
    obtain ⟨rfl, e⟩ := Attempt.ends_tell_pure.mp hreply
    exact ⟨_, rfl, e⟩

end LeastPrivilege.Cluster
