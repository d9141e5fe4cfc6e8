import LeastPrivilege.Value

/-!
Identities: what the cluster knows about the pod or the service behind an address, and the
controllers that own pods.
-/

namespace LeastPrivilege

/-- The nearest controller of an object. -/
structure OwnerRef where
  kind : Text
  name : Text
  deriving DecidableEq, Repr, Inhabited

/-- A pod. Its labels may hold values of any shape when they were read from the broker. -/
structure Pod where
  ns : Text
  name : Text
  ip : Text := ""
  labels : Labels := []
  owner : Option OwnerRef := none
  hostNetwork : Bool := false
  deriving Repr, Inhabited

/-- A service. -/
structure Service where
  ns : Text
  name : Text
  ip : Text := ""
  selector : Labels := []
  deriving Repr, Inhabited

/-- What can own an address. -/
inductive Identity where
  | pod (p : Pod)
  | service (s : Service)
  deriving Repr

/-- The name of a pod or a service. -/
def Identity.name : Identity → Text
  | pod p => p.name
  | service s => s.name

/-- A controller, reduced to its selector and its own owner. -/
structure Controller where
  kind : Text
  name : Text
  ns : Text
  matchLabels : Labels := []
  owner : Option OwnerRef := none
  deriving Repr, Inhabited

/-- The pair of a label with text on both sides. -/
def label (name value : Text) : Scalar × Value :=
  (.text name, .text value)

end LeastPrivilege
