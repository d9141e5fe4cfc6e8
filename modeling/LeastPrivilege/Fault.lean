import LeastPrivilege.Number.Reading
import LeastPrivilege.Number.Shortest
import LeastPrivilege.Text.HalfPair
import LeastPrivilege.Text.Quoted

/-!
What can go wrong, by cause. Each family has its wording in one function. `Fault.kind` sorts the
causes into the kinds that a caller can tell apart; `Fault.isOperational` holds of those that a
batch records for one pod and goes on after.
-/

namespace LeastPrivilege

/-- A flow record that cannot be used. -/
inductive RecordFault where
  | unknownDirection (text : Text)
  | portIsFlag (literal : Text)
  | portNotDecimal (literal : Text)
  | portOutOfRange (port : Int)
  deriving DecidableEq, Repr

/-- The wording of a record fault. -/
def RecordFault.message : RecordFault → Text
  | unknownDirection text => "unknown traffic direction: " ++ Text.quoted text
  | portIsFlag literal => "invalid port " ++ literal
  | portNotDecimal literal => "invalid port format " ++ literal
  | portOutOfRange port => "port number " ++ Text.ofInt port ++ " out of valid range (1-65535)"

/-- An identity for which there is no selector. -/
inductive ResolutionFault where
  | serviceWithoutSelector (ns name : Text)
  | controllerWithoutLabels (kind ns name : Text)
  | unsupportedOwner (kind : Text)
  | missingOwner (kind ns name : Text)
  deriving DecidableEq, Repr

/-- The wording of a resolution fault. -/
def ResolutionFault.message : ResolutionFault → Text
  | serviceWithoutSelector ns name => "Service " ++ ns ++ "/" ++ name ++ " has no selector"
  | controllerWithoutLabels kind ns name =>
    kind ++ " " ++ ns ++ "/" ++ name ++ " has no matchLabels"
  | unsupportedOwner kind => "Unsupported owner kind: " ++ kind
  | missingOwner kind ns name => kind ++ " " ++ ns ++ "/" ++ name ++ " not found"

/-- A request to the broker that gave nothing usable. -/
inductive BrokerFault where
  | timedOut (timeout : Double) (url : Text)
  | unreachable (url reason : Text)
  | badStatus (status : Int) (url : Text)
  | notJson (url : Text)
  | notAFlowList (pod : Text)
  deriving DecidableEq, Repr

/-- The wording of a broker fault. -/
def BrokerFault.message : BrokerFault → Text
  | timedOut timeout url => "Timed out after " ++ timeout.text ++ "s requesting " ++ url
  | unreachable url reason => "Error requesting " ++ url ++ ": " ++ reason
  | badStatus status url => "Broker returned HTTP " ++ Text.ofInt status ++ " for " ++ url
  | notJson url => "Broker returned invalid JSON for " ++ url
  | notAFlowList pod => "Expected a list of flow records for pod " ++ pod

/-- What the cluster was asked to do. -/
inductive ClusterAction where
  | listPods
  | readObject (kind ns name : Text)
  deriving DecidableEq, Repr

/-- The wording of an action. -/
def ClusterAction.text : ClusterAction → Text
  | listPods => "listing pods"
  | readObject kind ns name => "reading " ++ kind ++ " " ++ ns ++ "/" ++ name

/-- A request to the cluster that failed for another reason than a missing object. -/
inductive ClusterFault where
  | configuration (reason : Text)
  | refused (action : ClusterAction) (reason : Text)
  | unreachable (action : ClusterAction) (reason : Text)
  | unknownOwnerKind (kind : Text)
  deriving DecidableEq, Repr

/-- The wording of a cluster fault. -/
def ClusterFault.message : ClusterFault → Text
  | configuration reason => "Failed to load Kubernetes configuration: " ++ reason
  | refused action reason => "Error " ++ action.text ++ ": " ++ reason
  | unreachable action reason => "Kubernetes API unreachable " ++ action.text ++ ": " ++ reason
  | unknownOwnerKind kind => "Cannot look up owner of kind " ++ kind

/-- A tunnel that could not be opened. -/
inductive TunnelFault where
  | kubectlMissing
  | serviceMissing (service : Text) (namespaces : List Text)
  | notStarted (reason : Text)
  | exitedEarly (errors : Text)
  | notReady (timeout : Double)
  deriving DecidableEq, Repr

/-- The wording of a tunnel fault. -/
def TunnelFault.message : TunnelFault → Text
  | kubectlMissing => "kubectl not found on PATH"
  | serviceMissing service namespaces =>
    let places := Text.intercalate ", " namespaces
    "Service " ++ service ++ " not found in namespaces " ++ places
  | notStarted reason => "Failed to start kubectl port-forward: " ++ reason
  | exitedEarly errors => "kubectl port-forward exited early: " ++ errors
  | notReady timeout => "Port-forward not ready after " ++ timeout.text ++ "s"

/-- Why a path could not be used. -/
inductive FileCause where
  | missing
  | exists_
  | notADirectory
  | isADirectory
  | nameTooLong
  | denied
  deriving DecidableEq, Repr

/-- The number that the system gives a cause. -/
def FileCause.number : FileCause → Nat
  | missing => 2
  | exists_ => 17
  | notADirectory => 20
  | isADirectory => 21
  | nameTooLong => 36
  | denied => 13

/-- The system's wording of a cause. -/
def FileCause.text : FileCause → Text
  | missing => "No such file or directory"
  | exists_ => "File exists"
  | notADirectory => "Not a directory"
  | isADirectory => "Is a directory"
  | nameTooLong => "File name too long"
  | denied => "Permission denied"

/-- A path that the file system refused. -/
structure FileFault where
  cause : FileCause
  path : Text
  deriving DecidableEq, Repr

/-- The wording of a file fault. -/
def FileFault.message (f : FileFault) : Text :=
  "[Errno " ++ Text.decimal f.cause.number ++ "] " ++ f.cause.text ++ ": " ++ Text.quoted f.path

/-- Received data that does not have the shape its place asks for. -/
inductive ShapeFault where
  /-- A member or a text operation was asked of something that has none. -/
  | noMembers
  /-- Something without items was gone through, or a key cannot be one. -/
  | noItems
  /-- The first item was asked of something that has no order. -/
  | noFirst
  deriving DecidableEq, Repr

/-- A value that is not one of those allowed. -/
inductive ValueFault where
  | tooManyDigits (count : Nat)
  | notANumber (text : Text)
  | notAnInteger (text : Text)
  | notAPair (index length : Nat)
  | unknownSchema (text : Text)
  | unresolvedPeer (ip : Text)
  | noDefaultAction
  | noArchitecture
  | noSyscallRule
  | nulInPath
  /-- A text with halves has no encoding. -/
  | halves (run : Text.HalfRun)
  deriving DecidableEq, Repr

/-- What is wrong with a text that spells no whole number. -/
def ValueFault.ofInteger (text : Text) : Number.IntegerFault → ValueFault
  | .malformed => notAnInteger text
  | .tooManyDigits count => tooManyDigits count

/-- The wording of a text that has no encoding. -/
def halvesMessage (run : Text.HalfRun) : Text :=
  let place :=
    if run.stop = run.start + 1 then
      "character '" ++ Text.halfEscape run.unit ++ "' in position " ++ Text.decimal run.start
    else "characters in position " ++ Text.decimal run.start ++ "-" ++ Text.decimal (run.stop - 1)
  "'utf-8' codec can't encode " ++ place ++ ": surrogates not allowed"

/-- The wording of a value fault. -/
def ValueFault.message : ValueFault → Text
  | tooManyDigits count =>
    "Exceeds the limit (4300 digits) for integer string conversion: value has "
      ++ Text.decimal count ++ " digits; "
      ++ "use sys.set_int_max_str_digits() to increase the limit"
  | notANumber text => "could not convert string to float: " ++ Text.quoted text
  | notAnInteger text =>
    "invalid literal for int() with base 10: "
      ++ (Text.quoted text).take 200
  | notAPair index length =>
    "dictionary update sequence element #" ++ Text.decimal index ++ " has length "
      ++ Text.decimal length ++ "; 2 is required"
  | unknownSchema text => Text.quoted text ++ " is not a valid Schema"
  | unresolvedPeer ip => "Rule for peer " ++ ip ++ " has not been resolved"
  | noDefaultAction => "default action is required"
  | noArchitecture => "at least one architecture must be specified"
  | noSyscallRule => "at least one syscall rule must be specified"
  | nulInPath => "embedded null byte"
  | halves run => halvesMessage run

/-- Markup that cannot be shown. -/
inductive MarkupFault where
  | nothingToClose (tag : Text)
  | badAction (given : Text)
  deriving DecidableEq, Repr

/-- The wording of a markup fault. -/
def MarkupFault.message : MarkupFault → Text
  | nothingToClose tag => "closing tag " ++ Text.quoted tag ++ " has nothing to close"
  | badAction given => Text.quoted given ++ " is not an action with literal arguments"

/-- The kinds of fault that a caller can tell apart. -/
inductive FaultKind where
  | general
  | resolution
  | noSelector
  | unsupportedOwner
  | missingOwner
  | broker
  | cluster
  | tunnel
  | record
  | configuration
  | file (cause : FileCause)
  | value
  | encoding
  | json
  | depth
  | markup
  | shape (fault : ShapeFault)
  deriving DecidableEq, Repr

/-- The kind belongs to the program's own faults, which a caller of one pod's generation is
prepared for. -/
def FaultKind.isOperational : FaultKind → Bool
  | configuration | file _ | value | encoding | json | depth | markup | shape _ => false
  | _ => true

/-- A cause of failure. -/
inductive Fault where
  | record (fault : RecordFault)
  | resolution (fault : ResolutionFault)
  | broker (fault : BrokerFault)
  | cluster (fault : ClusterFault)
  | tunnel (fault : TunnelFault)
  | noTraffic (pod : Text)
  | unknownTarget (pod ip : Text)
  | noSyscalls (pod : Text)
  | unusableDirectory (directory : Text) (fault : FileFault)
  /-- A failure that a lookup reported in its own words. -/
  | reported (kind : FaultKind) (text : Text)
  | file (fault : FileFault)
  | value (fault : ValueFault)
  | shape (fault : ShapeFault)
  /-- A document that is not JSON, with what is wrong in it. -/
  | notJson (reason : Text)
  /-- Something is nested more deeply than it can be gone through. -/
  | tooDeep
  | markup (fault : MarkupFault)
  /-- The list of contexts could not be read a second time. -/
  | contexts (reason : Text)
  deriving DecidableEq, Repr

namespace Fault

/-- The wording of a fault. Received data of a wrong shape has none of its own. -/
def message : Fault → Text
  | record f => f.message
  | resolution f => f.message
  | broker f => f.message
  | cluster f => f.message
  | tunnel f => f.message
  | noTraffic pod => "No traffic data found for pod " ++ pod
  | unknownTarget pod ip => "Pod details not found for " ++ pod ++ " (IP " ++ ip ++ ")"
  | noSyscalls pod => "No syscall data found for pod " ++ pod
  | unusableDirectory directory f =>
    "Failed to create output directory " ++ directory ++ ": " ++ f.message
  | reported _ text => text
  | file f => f.message
  | value f => f.message
  | shape _ => ""
  | notJson reason => reason
  | tooDeep => "nested too deeply"
  | markup f => f.message
  | contexts reason => reason

/-- The kind of a fault. -/
def kind : Fault → FaultKind
  | record _ => .record
  | resolution (.serviceWithoutSelector ..) => .noSelector
  | resolution (.controllerWithoutLabels ..) => .noSelector
  | resolution (.unsupportedOwner _) => .unsupportedOwner
  | resolution (.missingOwner ..) => .missingOwner
  | broker _ => .broker
  | cluster _ => .cluster
  | tunnel _ => .tunnel
  | noTraffic _ | unknownTarget .. | noSyscalls _ | unusableDirectory .. => .general
  | reported kind _ => kind
  | file f => .file f.cause
  | value (.halves _) => .encoding
  | value _ => .value
  | shape f => .shape f
  | notJson _ => .json
  | tooDeep => .depth
  | markup _ => .markup
  | contexts _ => .configuration

/-- What is wrong with the text of a path: halves that the system cannot read, or the character
that ends a path for it. -/
def ofPathText (text : Text) : Except Fault Unit :=
  match Text.systemHalfRun? text with
  | some run => .error (value (.halves run))
  | none => if text.contains (.char '\x00') then .error (value .nulInPath) else .ok ()

/-- The fault is one of the program's own. -/
def isOperational (f : Fault) : Bool :=
  f.kind.isOperational

/-- The fault is about the file system. -/
def isFile (f : Fault) : Bool :=
  match f.kind with
  | .file _ => true
  | _ => false

/-- The fault is about a value. Record faults count too. -/
def isValue (f : Fault) : Bool :=
  match f.kind with
  | .value | .encoding | .json | .record => true
  | _ => false

end Fault

end LeastPrivilege
