import LeastPrivilege.Identity.Reading
import LeastPrivilege.Inquiry
import LeastPrivilege.Json.Reader
import LeastPrivilege.Lookup
import LeastPrivilege.Seccomp.Recorded
import LeastPrivilege.Text.Blank
import LeastPrivilege.Text.Utf8

/-!
The broker: flows, identities and system calls over the web. A request's key fills one segment of
its path, so no two requests share an address. Status 404 means that the broker holds nothing
under the key.
-/

namespace LeastPrivilege

/-- How a request to a web server ended. -/
inductive WebReply where
  | timedOut
  | unreachable (reason : Text)
  | response (status : Int) (body : Text)
  deriving DecidableEq, Repr

/-- What is asked of the web. -/
inductive WebQuestion where
  | fetch (url : Text) (timeout : Double)
  /-- The connection will not be used again. -/
  | close
  deriving DecidableEq, Repr

/-- What the web answers. -/
def WebQuestion.Answer : WebQuestion → Type
  | fetch .. => WebReply
  | close => Unit

/-- The interface of the web. -/
abbrev web : Interface := ⟨WebQuestion, WebQuestion.Answer⟩

/-- What can be requested of the broker. -/
inductive BrokerRequest where
  | flows (pod : Text)
  | podAt (ip : Text)
  | serviceAt (ip : Text)
  | calls (pod : Text)
  deriving DecidableEq, Repr

namespace BrokerRequest

/-- The part of the path in front of the key. -/
def base : BrokerRequest → Text
  | flows _ => "/pod/traffic/"
  | podAt _ => "/pod/ip/"
  | serviceAt _ => "/svc/ip/"
  | calls _ => "/pod/syscalls/"

/-- The key. -/
def key : BrokerRequest → Text
  | flows k | podAt k | serviceAt k | calls k => k

/-- The path of a request. -/
def path (r : BrokerRequest) : Text :=
  r.base ++ Text.percentEncode r.key

end BrokerRequest

/-- A broker, by its address without slashes at the end. -/
structure Broker where
  baseUrl : Text
  timeout : Double
  deriving DecidableEq, Repr

namespace Broker

/-- The broker at an address. -/
def ofUrl (url : Text) (timeout : Double) : Broker :=
  ⟨Text.dropTrailing '/' url, timeout⟩

/-- The address of a request. -/
def url (b : Broker) (r : BrokerRequest) : Text :=
  b.baseUrl ++ r.path

/-- The document of a reply. -/
def readReply (b : Broker) (url : Text) : WebReply → Except Fault Value
  | .timedOut => .error (.broker (.timedOut b.timeout url))
  | .unreachable reason => .error (.broker (.unreachable url reason))
  | .response status body =>
    if status = 404 then .ok .null
    else if status ≠ 200 then .error (.broker (.badStatus status url))
    else
      match Json.read body with
      | .ok v => .ok v
      | .error ⟨.tooDeep, _⟩ => .error .tooDeep
      | .error _ => .error (.broker (.notJson url))

/-- A key with halves cannot be asked for. -/
def checkKey (key : Text) : Except Fault Unit :=
  match Text.halfRun? key with
  | some run => .error (.value (.halves run))
  | none => .ok ()

/-- The broker holds nothing for the request that has this reply. -/
def holdsNone : WebReply → Bool
  | .response status _ => status == 404
  | _ => false

/-- The document that the broker holds for a request, none if it holds nothing. -/
def fetch (b : Broker) (r : BrokerRequest) : Attempt web Value := do
  Attempt.ofExcept (checkKey r.key)
  let reply ← Attempt.ofInquiry (Inquiry.put (I := web) (.fetch (b.url r) b.timeout))
  if holdsNone reply then Attempt.tell (.brokerHasNone r.path)
  Attempt.ofExcept (b.readReply (b.url r) reply)

/-- Gives the connection up. -/
def close (_ : Broker) : Attempt web Unit :=
  Attempt.ofInquiry (Inquiry.put (I := web) .close)

/-- The flow records of a document. Rows that are no maps are passed over. -/
def flowsOf (pod : Text) : Value → Except Fault (List Record)
  | .scalar .null => .ok []
  | .list rows => (rows.filter fun | .map _ => true | _ => false).mapM Record.ofRow
  | _ => .error (.broker (.notAFlowList pod))

/-- The recorded flows of a pod. -/
def getFlows (b : Broker) (pod : Text) : Attempt web (List Record) := do
  let document ← b.fetch (.flows pod)
  let records ← Attempt.ofExcept (flowsOf pod document)
  if !document.isNull then Attempt.tell (.flowsFetched records.length pod)
  return records

/-- What a row holds; nothing, if the document is no row. -/
def rowOf {α : Type} (read : Value → Except Fault α) : Value → Except Fault (Option α)
  | .map entries => (read (.map entries)).map some
  | _ => .ok none

/-- The pod that owns an address. -/
def getPodAt (b : Broker) (ip : Text) : Attempt web (Option Pod) := do
  Attempt.ofExcept (rowOf Pod.ofRow (← b.fetch (.podAt ip)))

/-- The service that owns an address. -/
def getServiceAt (b : Broker) (ip : Text) : Attempt web (Option Service) := do
  Attempt.ofExcept (rowOf Service.ofRow (← b.fetch (.serviceAt ip)))

/-- The first row of a document. -/
def callsOf : Value → Except Fault (Option RecordedCalls)
  | .list (row :: _) => (RecordedCalls.ofRow row).map some
  | _ => .ok none

/-- The recorded system calls of a pod. -/
def getCalls (b : Broker) (pod : Text) : Attempt web (Option RecordedCalls) := do
  Attempt.ofExcept (callsOf (← b.fetch (.calls pod)))

end Broker

end LeastPrivilege
