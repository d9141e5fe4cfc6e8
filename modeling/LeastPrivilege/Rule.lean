import LeastPrivilege.Flow
import LeastPrivilege.Identity
import LeastPrivilege.Notice
import LeastPrivilege.Text.Blank
import LeastPrivilege.Text.Case
import LeastPrivilege.Value.Shown
import LeastPrivilege.Number.Reading

/-!
Rules: the ports seen between the profiled pod and one peer in one direction; and the reading of a
flow record as one port of one rule.
-/

namespace LeastPrivilege

/-- A port with its protocol. -/
structure Port where
  number : Int
  protocol : Protocol := .tcp
  deriving DecidableEq, Repr, Inhabited

/-- What a rule admits traffic with: the pods of a namespace that carry some labels, or a block of
addresses. -/
inductive Peer where
  | selector (labels : Labels) (ns : Text)
  | block (cidr : Text)
  deriving Repr

/-- The block that stands for one address. -/
def Peer.ofIp (ip : Text) : Peer :=
  .block (ip ++ "/32")

/-- All ports seen with one peer in one direction, in the order in which they were first seen. -/
structure Rule where
  peerIp : Text
  direction : Direction
  ports : List Port := []
  peer : Option Peer := none
  deriving Repr

/-- Adds a port unless it is there. -/
def addPort (ports : List Port) (p : Port) : List Port :=
  if p ∈ ports then ports else ports ++ [p]

/-! ## Fields of a record -/

/-- The direction that a text names. -/
def Direction.ofText (text : Text) : Except Fault Direction :=
  let word := Text.capitals (Text.trim text)
  if word == "INGRESS" then .ok .ingress
  else if word == "EGRESS" then .ok .egress
  else .error (.record (.unknownDirection text))

/-- The protocol that a text names. -/
def Protocol.ofText? (text : Text) : Option Protocol :=
  let word := Text.capitals (Text.trim text)
  if word == "TCP" then some .tcp
  else if word == "UDP" then some .udp
  else if word == "SCTP" then some .sctp
  else none

/-- The protocol of a record: TCP, with a notice, where the text names none. -/
def Protocol.ofWritten (written : Option Text) : Protocol × List Notice :=
  match Protocol.ofText? (written.getD "") with
  | some p => (p, [])
  | none => (.tcp, [.unknownProtocol written])

/-- A number in the range of ports. -/
def portInRange (n : Int) : Except Fault Int :=
  if n < 1 || 65535 < n then .error (.record (.portOutOfRange n)) else .ok n

/-- The port number that a text spells: ASCII digits, with white space around them at most. -/
def portOfText (text : Text) : Except Fault Int :=
  let digits := Text.trim text
  if digits.isEmpty || !digits.all Text.isDigit then
    .error (.record (.portNotDecimal (Text.quoted text)))
  else if Number.maxDigits < digits.length then .error (.value (.tooManyDigits digits.length))
  else portInRange (Text.digitsValue digits)

/-- The port number that a value stands for. -/
def portOfValue : Value → Except Fault Int
  | .scalar (.bool b) => .error (.record (.portIsFlag (Scalar.bool b).literal))
  | .scalar (.int n) => portInRange n
  | .scalar (.text s) => portOfText s
  | v => .error (.record (.portNotDecimal v.literal))

/-! ## Classification -/

/-- A record reduced to what a rule needs. -/
structure Classified where
  direction : Direction
  peerIp : Text
  port : Port
  deriving DecidableEq, Repr

/-- The port text that matters in a direction. -/
def Record.portText (r : Record) : Direction → Text
  | .ingress => r.targetPort
  | .egress => r.peerPort

/-- What a record says about a pod, with notices: nothing when it names no peer or the pod
itself. -/
def Record.classify (r : Record) (target : Pod) :
    Except Fault (Option Classified × List Notice) := do
  let direction ← Direction.ofText r.direction
  let peerIp := Text.trim r.peerIp
  if peerIp.isEmpty then return (none, [])
  if peerIp == target.ip then return (none, [.ownTraffic peerIp target.ip])
  let number ← portOfText (r.portText direction)
  let (protocol, notices) := Protocol.ofWritten (some r.protocol)
  return (some ⟨direction, peerIp, ⟨number, protocol⟩⟩, notices)

end LeastPrivilege
