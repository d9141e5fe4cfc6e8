import LeastPrivilege.Value

/-!
Nodes: the tree of a manifest. It differs from a plain value in one thing: a list or map that came
from a peer's labels carries a mark that says which one it is, so that a peer named by two entries
shows the same part twice and the writer can print it once.
-/

namespace LeastPrivilege

/-- A part of the labels of the peer at an address: the way to it, innermost step first. -/
structure Mark where
  peerIp : Text
  path : List Nat
  deriving DecidableEq, Repr

/-- A manifest or a part of one. -/
inductive Node where
  | scalar (s : Scalar)
  | list (mark : Option Mark) (items : List Node)
  | map (mark : Option Mark) (entries : List (Scalar × Node))
  deriving Repr, Inhabited

namespace Node

/-- A text. -/
abbrev text (s : Text) : Node := scalar (.text s)

/-- A list that is written where it stands. -/
abbrev items (ns : List Node) : Node := list none ns

/-- A map with text keys, written where it stands. -/
def fields (entries : List (Text × Node)) : Node :=
  map none (entries.map fun (k, n) => (.text k, n))

/-- The mark of a place, where the owner of the labels is known. -/
def markAt (peerIp : Option Text) (path : List Nat) : Option Mark :=
  peerIp.map fun ip => ⟨ip, path⟩

mutual

/-- The node of a value at a place. -/
def ofValueAt (peerIp : Option Text) (path : List Nat) : Value → Node
  | .scalar s => scalar s
  | .list vs => list (markAt peerIp path) (ofItemsAt peerIp path 0 vs)
  | .map es => map (markAt peerIp path) (ofEntriesAt peerIp path 0 es)

/-- The nodes of items, counted from an index. -/
def ofItemsAt (peerIp : Option Text) (path : List Nat) (index : Nat) : List Value → List Node
  | [] => []
  | v :: rest => ofValueAt peerIp (index :: path) v :: ofItemsAt peerIp path (index + 1) rest

/-- The nodes of entries, counted from an index. -/
def ofEntriesAt (peerIp : Option Text) (path : List Nat) (index : Nat) :
    List (Scalar × Value) → List (Scalar × Node)
  | [] => []
  | (k, v) :: rest =>
    (k, ofValueAt peerIp (index :: path) v) :: ofEntriesAt peerIp path (index + 1) rest

end

/-- The node of labels. -/
def ofLabels (peerIp : Option Text) (labels : Labels) : Node :=
  map none (ofEntriesAt peerIp [] 0 labels)

mutual

/-- The plain value of a node. -/
def value : Node → Value
  | scalar s => .scalar s
  | list _ ns => .list (itemValues ns)
  | map _ es => .map (entryValues es)

/-- The values of items. -/
def itemValues : List Node → List Value
  | [] => []
  | n :: rest => n.value :: itemValues rest

/-- The values of entries. -/
def entryValues : List (Scalar × Node) → List (Scalar × Value)
  | [] => []
  | (k, n) :: rest => (k, n.value) :: entryValues rest

end

mutual

/-- The number of nodes on the longest way into a node, itself counted. -/
def depth : Node → Nat
  | scalar _ => 1
  | list _ ns => itemDepth ns + 1
  | map _ es => entryDepth es + 1

/-- The depth of the deepest item. -/
def itemDepth : List Node → Nat
  | [] => 0
  | n :: rest => max n.depth (itemDepth rest)

/-- The depth of the deepest value of an entry. -/
def entryDepth : List (Scalar × Node) → Nat
  | [] => 0
  | (_, n) :: rest => max n.depth (entryDepth rest)

end

end Node

end LeastPrivilege
