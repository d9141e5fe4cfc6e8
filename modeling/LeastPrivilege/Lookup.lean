import LeastPrivilege.Flow
import LeastPrivilege.Identity
import LeastPrivilege.Inquiry

/-!
Lookups: what generating a policy asks of the recorded world. Each gives a value, nothing, or a
fault.
-/

namespace LeastPrivilege

/-- A lookup. -/
inductive Lookup where
  | flows (pod : Text)
  | podAt (ip : Text)
  | serviceAt (ip : Text)
  | controller (ns kind name : Text)
  | pod (ns name : Text)
  deriving DecidableEq, Repr

/-- What a lookup gives. -/
def Lookup.Answer : Lookup → Type
  | flows _ => Except Fault (List Record)
  | podAt _ => Except Fault (Option Pod)
  | serviceAt _ => Except Fault (Option Service)
  | controller .. => Except Fault (Option Controller)
  | pod .. => Except Fault (Option Pod)

/-- The interface of lookups. -/
abbrev lookups : Interface := ⟨Lookup, Lookup.Answer⟩

namespace Lookup

/-- The recorded flows of a pod. -/
def getFlows (pod : Text) : Attempt lookups (List Record) :=
  ExceptT.mk (Inquiry.put (I := lookups) (.flows pod))

/-- The pod that owns an address. -/
def getPodAt (ip : Text) : Attempt lookups (Option Pod) :=
  ExceptT.mk (Inquiry.put (I := lookups) (.podAt ip))

/-- The service that owns an address. -/
def getServiceAt (ip : Text) : Attempt lookups (Option Service) :=
  ExceptT.mk (Inquiry.put (I := lookups) (.serviceAt ip))

/-- A controller by kind and name. -/
def getController (ns kind name : Text) : Attempt lookups (Option Controller) :=
  ExceptT.mk (Inquiry.put (I := lookups) (.controller ns kind name))

/-- A pod by name. -/
def getPod (ns name : Text) : Attempt lookups (Option Pod) :=
  ExceptT.mk (Inquiry.put (I := lookups) (.pod ns name))

end Lookup

end LeastPrivilege
