import LeastPrivilege.Fault
import LeastPrivilege.Flow
import LeastPrivilege.Identity
import LeastPrivilege.Json.Reader
import LeastPrivilege.Value.Shown

/-!
Flows and identities read from received documents, which can hold anything in any place. A field
that is missing or none reads as empty; a part that counts as false reads as an empty map or list;
a part of another shape than its place asks for is a fault, and the first such part met decides
which.
-/

namespace LeastPrivilege

namespace Value

/-- The value of a JSON document. -/
def ofJson (text : Text) : Except Fault Value :=
  match Json.read text with
  | .ok v => .ok v
  | .error ⟨.tooManyDigits count, _⟩ => .error (.value (.tooManyDigits count))
  | .error ⟨.tooDeep, _⟩ => .error .tooDeep
  | .error failure => .error (.notJson (failure.message text))

/-- The member of a map; none when it is missing. -/
def member (v : Value) (key : Text) : Except Fault Value :=
  match v with
  | map entries => .ok ((getKey? (.text key) entries).getD null)
  | _ => .error (.shape .noMembers)

/-- The value where it counts as true, an empty map otherwise. -/
def orEmptyMap (v : Value) : Value :=
  if v.isTruthy then v else map []

/-- A member that stands for a map, empty where it counts as false. -/
def part (v : Value) (key : Text) : Except Fault Value := do
  return (← v.member key).orEmptyMap

/-- The text of a member, empty when it is missing or none. -/
def field (v : Value) (key : Text) : Except Fault Text := do
  return (← v.member key).fieldText

/-- The text, or the text of a member where it is empty. -/
def fieldUnless (given : Text) (v : Value) (key : Text) : Except Fault Text :=
  if given.isEmpty then v.field key else .ok given

/-- The items that going through a value gives: the items of a list, the keys of a map, the
characters of a text. -/
def items? : Value → Option (List Value)
  | list items => some items
  | map entries => some (entries.map fun e => scalar e.1)
  | scalar (.text s) => some (s.map fun c => text [c])
  | scalar _ => none

/-- One entry from something that has two items. -/
def pairAt (index : Nat) (v : Value) : Except Fault (Scalar × Value) :=
  match v.items? with
  | none => .error (.shape .noItems)
  | some [scalar key, w] => .ok (key, w)
  | some [_, _] => .error (.shape .noItems)
  | some items => .error (.value (.notAPair index items.length))

/-- Entries from items in order, counted from `index`. -/
def pairsFrom : Nat → List (Scalar × Value) → List Value → Except Fault (List (Scalar × Value))
  | _, acc, [] => .ok acc
  | index, acc, v :: rest => do
    let (key, w) ← pairAt index v
    pairsFrom (index + 1) (setKey key w acc) rest

/-- The entries of a value: those of a map, or those that a list of pairs spells. -/
def entries (v : Value) : Except Fault (List (Scalar × Value)) :=
  match v with
  | map es => .ok es
  | v =>
    match v.items? with
    | none => .error (.shape .noItems)
    | some items => pairsFrom 0 [] items

end Value

/-- The first reference whose `controller` counts as true. -/
def firstControlling : List Value → Except Fault (Option Value)
  | [] => .ok none
  | r :: rest => do
    if (← r.member "controller").isTruthy then return some r
    firstControlling rest

/-- The controlling owner among references: the first one marked so, or else the first. -/
def OwnerRef.ofReferences (refs : Value) : Except Fault (Option OwnerRef) :=
  if !refs.isTruthy then .ok none
  else
    match refs with
    | .map _ => .error (.shape .noFirst)
    | refs =>
      match refs.items? with
      | none => .error (.shape .noItems)
      | some [] => .ok none
      | some (first :: rest) => do
        let chosen := (← firstControlling (first :: rest)).getD first
        return some { kind := ← chosen.field "kind", name := ← chosen.field "name" }

/-- A pod from its document. A name, namespace or address that is already known stands. -/
def Pod.ofDocument (doc : Value) (name ns ip : Text) : Except Fault Pod := do
  let metadata ← doc.part "metadata"
  let spec ← doc.part "spec"
  let status ← doc.part "status"
  let ns ← Value.fieldUnless ns metadata "namespace"
  let name ← Value.fieldUnless name metadata "name"
  let ip ← Value.fieldUnless ip status "podIP"
  let labels ← (← metadata.part "labels").entries
  let owner ← OwnerRef.ofReferences (← metadata.member "ownerReferences")
  let hostNetwork := (← spec.member "hostNetwork").isTruthy
  return { ns, name, ip, labels, owner, hostNetwork }

/-- A pod from the broker's row, which holds the pod's document. -/
def Pod.ofRow (row : Value) : Except Fault Pod := do
  let doc ← row.part "pod_obj"
  let name ← row.field "pod_name"
  let ns ← row.field "pod_namespace"
  let ip ← row.field "pod_ip"
  Pod.ofDocument doc name ns ip

/-- A service from the broker's row, which holds the service's document. -/
def Service.ofRow (row : Value) : Except Fault Service := do
  let doc ← row.part "service_spec"
  let metadata ← doc.part "metadata"
  let spec ← doc.part "spec"
  let ns ← Value.fieldUnless (← row.field "svc_namespace") metadata "namespace"
  let name ← Value.fieldUnless (← row.field "svc_name") metadata "name"
  let ip ← row.field "svc_ip"
  let selector ← (← spec.part "selector").entries
  return { ns, name, ip, selector }

/-- A flow record from the broker's row. -/
def Record.ofRow (row : Value) : Except Fault Record := do
  return {
    targetPod := ← row.field "pod_name"
    targetIp := ← row.field "pod_ip"
    targetNamespace := ← row.field "pod_namespace"
    targetPort := ← row.field "pod_port"
    direction := ← row.field "traffic_type"
    peerIp := ← row.field "traffic_in_out_ip"
    peerPort := ← row.field "traffic_in_out_port"
    protocol := ← row.field "ip_protocol"
    uuid := ← row.field "uuid" }

end LeastPrivilege
