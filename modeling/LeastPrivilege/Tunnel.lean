import LeastPrivilege.Cluster.Access
import LeastPrivilege.Text.Utf8

/-!
The tunnel to the broker: a process that forwards a local port for as long as the tunnel is open.
Opening it starts the process and waits until the port accepts connections; every way in which that
can fail, and closing, leaves the tunnel without a process.
-/

namespace LeastPrivilege

/-- A started process. -/
structure ProcessRef where
  number : Nat
  deriving DecidableEq, Repr

/-- What a tunnel asks of the system. -/
inductive SystemQuestion where
  /-- The path of the program that forwards ports. -/
  | findForwarder
  | start (command : List Text)
  /-- The exit code of a process, none while it runs. -/
  | poll (process : ProcessRef)
  /-- The bytes that a process reported, none if nothing is kept of them. -/
  | report (process : ProcessRef)
  | connect (host : Text) (port : Int)
  | clock
  /-- Waits a fifth of a second. -/
  | sleep
  | terminate (process : ProcessRef)
  | kill (process : ProcessRef)
  /-- The process ends, within some seconds if there is a limit. -/
  | wait (process : ProcessRef) (limit : Option Nat)
  deriving DecidableEq, Repr

/-- What the system answers. -/
def SystemQuestion.Answer : SystemQuestion → Type
  | findForwarder => Option Text
  | start _ => Except Text ProcessRef
  | poll _ => Option Int
  | report _ => Option (List Nat)
  | connect .. => Bool
  | clock => Double
  | sleep | terminate _ | kill _ => Unit
  | wait .. => Bool

/-- The interface of the system. -/
abbrev system : Interface := ⟨SystemQuestion, SystemQuestion.Answer⟩

/-- What a tunnel asks: the cluster for the service, and the system for the rest. -/
abbrev tunnelWork : Interface := cluster.or system

/-- A tunnel: its process while it is open, and the namespace of the broker once that is known. -/
structure Tunnel where
  process : Option ProcessRef := none
  ns : Option Text := none
  deriving DecidableEq, Repr

namespace Tunnel

/-- The local end of every tunnel. -/
def host : Text := "127.0.0.1"

/-- The address of the broker through the tunnel. -/
def url (s : Settings) : Text :=
  "http://" ++ host ++ ":" ++ Text.ofInt s.brokerPort

/-- The namespaces in which the broker is looked for. -/
def namespaces (s : Settings) : List Text :=
  if s.fallbackNs = s.brokerNs then [s.brokerNs] else [s.brokerNs, s.fallbackNs]

/-- An option with its value, if there is one. -/
def optionWords (name : Text) (value : Option Text) : List Text :=
  match value.filter (!·.isEmpty) with
  | some v => [name, v]
  | none => []

/-- The command that forwards the port. -/
def command (s : Settings) (forwarder ns : Text) : List Text :=
  let port := Text.ofInt s.brokerPort
  let target : List Text :=
    ["port-forward", "-n", ns, "svc/" ++ s.brokerService, port ++ ":" ++ port]
  [forwarder] ++ optionWords "--context" s.context ++ optionWords "--kubeconfig" s.kubeconfig
    ++ target

/-! ## Waiting -/

/-- How waiting ended. -/
inductive Readiness where
  | ready
  | exited (errors : Text)
  | late
  deriving DecidableEq, Repr

/-- What a process reported, as text. -/
def reportText (bytes : Option (List Nat)) : Text :=
  Text.trim (Text.decodeUtf8 (bytes.getD []))

/-- The units of a fifth of a second. -/
def pauseUnits : Nat := Double.unitsPerOne / 5

/-- The units of a time to wait. There are none in a time below zero, nor in what is no number. -/
def waitUnits : Double → Nat
  | .finite false units => units
  | .infinity false => Double.tooManyUnits
  | _ => 0

/-- A bound on the turns of waiting: twice the number of pauses in the time, for the deadline is a
rounded sum, and three more. -/
def turns (timeout : Double) : Nat :=
  2 * (waitUnits timeout / pauseUnits) + 3

/-- Waits until the port accepts a connection, the process exits, or the deadline has come; none
if the turns are used up before. -/
def waitReady (port : Int) (deadline : Double) (process : ProcessRef) :
    Nat → Inquiry system (Option Readiness)
  | 0 => return none
  | limit + 1 => do
    let now : Double ← Inquiry.put (I := system) .clock
    if !now.lt deadline then return some .late
    match ← Inquiry.put (I := system) (.poll process) with
    | some (_ : Int) =>
      let bytes ← Inquiry.put (I := system) (.report process)
      return some (.exited (reportText bytes))
    | none =>
      let accepted : Bool ← Inquiry.put (I := system) (.connect host port)
      if accepted then
        Inquiry.tell (.tunnelReady host port)
        return some .ready
      Inquiry.put (I := system) .sleep
      waitReady port deadline process limit

/-! ## Opening and closing -/

/-- The seconds that a process is given to end. -/
def graceSeconds : Nat := 5

/-- Ends a process: asks it to, and kills it when it does not. -/
def release (process : ProcessRef) : Inquiry system Unit := do
  Inquiry.put (I := system) (.terminate process)
  let ended : Bool ← Inquiry.put (I := system) (.wait process (some graceSeconds))
  if !ended then
    Inquiry.tell .tunnelKilled
    Inquiry.put (I := system) (.kill process)
    let _ ← Inquiry.put (I := system) (.wait process none)
  Inquiry.tell .tunnelStopped

/-- Closes the tunnel. One that is not open stays as it is. -/
def close (t : Tunnel) : Inquiry system Tunnel := do
  match t.process with
  | none => return t
  | some process =>
    release process
    return { t with process := none }

/-- Waits for a started process, and gives the tunnel that this leaves. -/
def settle (limit : Nat) (s : Settings) (t : Tunnel) (process : ProcessRef) :
    Inquiry system (Except Fault Unit × Tunnel) := do
  let now : Double ← Inquiry.put (I := system) .clock
  match ← waitReady s.brokerPort (now.add s.tunnelTimeout) process limit with
  | some .ready => return (.ok (), { t with process := some process })
  | some (.exited errors) =>
    return (.error (.tunnel (.exitedEarly errors)), { t with process := none })
  | some .late | none =>
    release process
    return (.error (.tunnel (.notReady s.tunnelTimeout)), { t with process := none })

/-- Starts the process for a broker in a namespace. -/
def start (limit : Nat) (s : Settings) (t : Tunnel) (forwarder ns : Text) :
    Inquiry system (Except Fault Unit × Tunnel) := do
  Inquiry.tell (.tunnelStarted ns s.brokerService s.brokerPort)
  match ← Inquiry.put (I := system) (.start (command s forwarder ns)) with
  | .error (reason : Text) => return (.error (.tunnel (.notStarted reason)), t)
  | .ok process => settle limit s t process

/-- The namespace of the broker. -/
def findNs (s : Settings) : Attempt cluster Text := do
  match ← Cluster.findService s.requestTimeout s.brokerService (namespaces s) with
  | some ns => return ns
  | none => throw (.tunnel (.serviceMissing s.brokerService (namespaces s)))

/-- Asks the cluster. -/
def ofCluster {α : Type} (x : Inquiry cluster α) : Inquiry tunnelWork α :=
  x.inLeft

/-- Asks the system. -/
def ofSystem {α : Type} (x : Inquiry system α) : Inquiry tunnelWork α :=
  x.inRight

/-- Opens the tunnel, with this many turns of waiting at most. -/
def openWithin (limit : Nat) (s : Settings) (t : Tunnel) :
    Inquiry tunnelWork (Except Fault Unit × Tunnel) := do
  match ← ofSystem (Inquiry.put (I := system) .findForwarder) with
  | none => return (.error (.tunnel .kubectlMissing), t)
  | some (forwarder : Text) =>
    match ← ofCluster (findNs s).outcome with
    | .error fault => return (.error fault, t)
    | .ok ns => ofSystem (start limit s { t with ns := some ns } forwarder ns)

/-- Opens the tunnel. -/
def openUp (s : Settings) (t : Tunnel) : Inquiry tunnelWork (Except Fault Unit × Tunnel) :=
  openWithin (turns s.tunnelTimeout) s t

/-- Works with the tunnel open, and closes it whatever became of the work. Nothing is done if it
does not open. -/
def during {J : Interface} {α : Type} (limit : Nat) (s : Settings)
    (work : Inquiry J (Except Fault α)) (t : Tunnel) :
    Inquiry (tunnelWork.or J) (Except Fault α × Tunnel) := do
  match ← (openWithin limit s t).inLeft with
  | (.error fault, t) => return (.error fault, t)
  | (.ok (), t) =>
    let result ← work.inRight
    let t ← (ofSystem t.close).inLeft
    return (result, t)

end Tunnel

end LeastPrivilege
