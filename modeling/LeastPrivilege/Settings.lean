import LeastPrivilege.Fault
import LeastPrivilege.FilePath
import LeastPrivilege.Number.Reading
import LeastPrivilege.Text.Blank
import LeastPrivilege.Text.Case

/-!
Settings: where the broker and the cluster are, how long to wait, and what to do with what is
generated. Variables of the environment stand over the defaults; an empty one counts as unset.
-/

namespace LeastPrivilege

/-- The variables of the environment, by name. -/
abbrev Environment := List (Text × Text)

/-- The value of a variable that is set and not empty. -/
def Environment.value? (env : Environment) (name : Text) : Option Text :=
  (env.lookup name).filter (!·.isEmpty)

/-- The settings of a run. -/
structure Settings where
  brokerUrl : Text := "http://127.0.0.1:9090"
  brokerNs : Text := "kube-guardian"
  brokerService : Text := "broker"
  brokerPort : Int := 9090
  /-- The broker is reached through a tunnel. -/
  portForward : Bool := true
  fallbackNs : Text := "kube-system"
  requestTimeout : Double := .ofNat 10
  tunnelTimeout : Double := .ofNat 30
  maxWorkers : Int := 4
  outputDir : Option FilePath := some (.ofText "network-policies")
  dryRun : Bool := true
  kubeconfig : Option Text := none
  context : Option Text := none
  inCluster : Bool := false
  verbose : Bool := false
  debug : Bool := false
  deriving DecidableEq, Repr

namespace Settings

/-- The words that switch something on. -/
def switchWords : List Text := ["1", "true", "yes", "on"]

/-- The double that a variable spells. -/
def readDouble (text : Text) : Except Fault Double :=
  match Number.readDouble? text with
  | some x => .ok x
  | none => .error (.value (.notANumber text))

/-- The whole number that a variable spells. -/
def readInteger (text : Text) : Except Fault Int :=
  (Number.readInteger text).mapError fun fault => .value (.ofInteger text fault)

/-- The settings that the environment gives. A broker named there needs no tunnel. -/
def load (env : Environment) : Except Fault Settings := do
  let url? := env.value? "FLOWPOLICY_BROKER_URL"
  let defaults : Settings := {}
  let requestTimeout ← match env.value? "FLOWPOLICY_REQUEST_TIMEOUT" with
    | some text => readDouble text
    | none => .ok defaults.requestTimeout
  let maxWorkers ← match env.value? "FLOWPOLICY_MAX_WORKERS" with
    | some text => (readInteger text).map (max 1)
    | none => .ok defaults.maxWorkers
  return { defaults with
    brokerUrl := (url?.map (Text.dropTrailing '/')).getD defaults.brokerUrl
    portForward := url?.isNone
    brokerNs := (env.value? "KUBE_GUARDIAN_NAMESPACE").getD defaults.brokerNs
    requestTimeout, maxWorkers
    debug := (env.value? "FLOWPOLICY_DEBUG").any fun w => switchWords.contains (Text.small w) }

end Settings

end LeastPrivilege
