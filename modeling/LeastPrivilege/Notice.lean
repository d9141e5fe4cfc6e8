import LeastPrivilege.Fault

/-!
Notices: what a run reports beside its result. Each has a gravity, and a run tells those that are at
least as grave as it was asked to tell.
-/

namespace LeastPrivilege

/-- How grave a notice is, from least to most: a step taken, something done, something that was
not as expected, or a failure. -/
inductive Gravity where
  | debug
  | info
  | warning
  | error
  deriving DecidableEq, Repr

namespace Gravity

/-- The name of a gravity. -/
def name : Gravity → Text
  | debug => "DEBUG"
  | info => "INFO"
  | warning => "WARNING"
  | error => "ERROR"

/-- The place of a gravity among the others. -/
def rank : Gravity → Nat
  | debug => 0
  | info => 1
  | warning => 2
  | error => 3

/-- What has this gravity is told by a run that tells everything down to another. -/
def reaches (g least : Gravity) : Bool :=
  least.rank ≤ g.rank

end Gravity

/-- How many records were accepted, skipped and invalid. -/
structure Tally where
  accepted : Nat := 0
  skipped : Nat := 0
  invalid : Nat := 0
  deriving DecidableEq, Repr, Inhabited

/-- Something a run reports while it goes on. -/
inductive Notice where
  | invalidRecord (uuid : Text) (fault : Fault)
  | unknownProtocol (written : Option Text)
  | ownTraffic (peerIp podIp : Text)
  | aggregated (pod : Text) (ingress egress : Nat) (tally : Tally)
  | selectorUnresolved (ns pod : Text) (fault : Fault)
  | noSelectorLabels (pod : Text)
  | resolvedThrough (ns pod kind name : Text)
  | serviceFound (ip ns name : Text)
  | serviceUnusable (ip ns name : Text)
  | podFound (ip ns name : Text)
  | podOnHostNetwork (ip ns name : Text)
  | blockUsed (ip : Text)
  | serviceLookupFailed (ip : Text) (fault : Fault)
  | podLookupFailed (ip : Text) (fault : Fault)
  | peerUnresolved (name : Text) (fault : Fault)
  | ownerLookupFailed (name : Text) (fault : Fault)
  | noRules (pod : Text)
  | noTraffic (pod : Text)
  | policyMade (schema policy pod : Text)
  | notApplied (policy : Text)
  | policyFailed (pod : Text) (fault : Fault)
  | batchStarted (schema : Text) (pods : Nat) (workers : Int)
  | batchFailed (failed total : Nat)
  | profileFailed (pod : Text) (fault : Fault)
  | fileWritten (path : Text)
  | flowsFetched (count : Nat) (pod : Text)
  | brokerHasNone (path : Text)
  | podsFound (count : Nat) (ns : Option Text)
  | ownerMissing (kind ns name : Text)
  | serviceMissing (ns name : Text)
  | contextUnreadable (reason : Text)
  | tunnelStarted (ns service : Text) (port : Int)
  | tunnelReady (host : Text) (port : Int)
  | tunnelKilled
  | tunnelStopped
  deriving DecidableEq, Repr

namespace Notice

/-- The gravity of a notice. -/
def gravity : Notice → Gravity
  | policyFailed .. | profileFailed .. => .error
  | invalidRecord .. | unknownProtocol _ | selectorUnresolved .. | noSelectorLabels _ | noRules _
  | noTraffic _ | notApplied _ | batchFailed .. | contextUnreadable _ | tunnelKilled => .warning
  | aggregated .. | policyMade .. | batchStarted .. | fileWritten _ | podsFound ..
  | tunnelStarted .. => .info
  | ownTraffic .. | resolvedThrough .. | serviceFound .. | serviceUnusable .. | podFound ..
  | podOnHostNetwork .. | blockUsed _ | serviceLookupFailed .. | podLookupFailed ..
  | peerUnresolved .. | ownerLookupFailed .. | flowsFetched .. | brokerHasNone _ | ownerMissing ..
  | serviceMissing .. | tunnelReady .. | tunnelStopped => .debug

/-- An object by its namespace and its name. -/
def inNs (ns name : Text) : Text :=
  ns ++ "/" ++ name

/-- The counts of records. -/
def tallied (t : Tally) : Text :=
  Text.decimal t.accepted ++ " accepted, " ++ Text.decimal t.skipped ++ " skipped, "
    ++ Text.decimal t.invalid ++ " invalid"

/-- The wording of a notice. -/
def message : Notice → Text
  | invalidRecord uuid fault => "Skipping invalid traffic record " ++ uuid ++ ": " ++ fault.message
  | unknownProtocol written =>
    let shown := written.getD "None"
    "Unknown protocol '" ++ shown ++ "', defaulting to TCP"
  | ownTraffic peerIp podIp =>
    "Skipping self-traffic (peer " ++ peerIp ++ " == pod IP " ++ podIp ++ ")"
  | aggregated pod ingress egress tally =>
    "Aggregated " ++ Text.decimal ingress ++ " ingress and " ++ Text.decimal egress
      ++ " egress rules for pod " ++ pod ++ " (" ++ tallied tally ++ ")"
  | selectorUnresolved ns pod fault =>
    "Could not resolve selector for pod " ++ inNs ns pod ++ " (" ++ fault.message
      ++ "), using app=" ++ pod
  | noSelectorLabels pod => "No selector labels found for pod " ++ pod ++ ", using app=" ++ pod
  | resolvedThrough ns pod kind name =>
    "Pod " ++ inNs ns pod ++ " resolved through " ++ kind ++ " " ++ name
  | serviceFound ip ns name => "Resolved IP " ++ ip ++ " to service " ++ inNs ns name
  | serviceUnusable ip ns name =>
    "Service " ++ inNs ns name ++ " found for IP " ++ ip
      ++ " but has no usable selector, trying pod"
  | podFound ip ns name => "Resolved IP " ++ ip ++ " to pod " ++ inNs ns name
  | podOnHostNetwork ip ns name =>
    "Pod " ++ inNs ns name ++ " uses hostNetwork, treating " ++ ip ++ " as a node IP"
  | blockUsed ip => "Using CIDR block for peer " ++ ip
  | serviceLookupFailed ip fault => "Service lookup failed for IP " ++ ip ++ ": " ++ fault.message
  | podLookupFailed ip fault => "Pod lookup failed for IP " ++ ip ++ ": " ++ fault.message
  | peerUnresolved name fault => "Could not resolve selector for " ++ name ++ ": " ++ fault.message
  | ownerLookupFailed name fault => "Owner lookup failed for " ++ name ++ ": " ++ fault.message
  | noRules pod => "No valid ingress or egress rules for pod " ++ pod ++ ", generating default-deny"
  | noTraffic pod => "No traffic data for pod " ++ pod ++ ", generating default-deny"
  | policyMade schema policy pod =>
    "Generated " ++ schema ++ " policy " ++ policy ++ " for pod " ++ pod
  | notApplied policy =>
    "Applying network policies is not implemented, " ++ policy ++ " was only generated"
  | policyFailed pod fault => "Error generating policy for pod " ++ pod ++ ": " ++ fault.message
  | batchStarted schema pods workers =>
    "Generating " ++ schema ++ " policies for " ++ Text.decimal pods ++ " pods with "
      ++ Text.ofInt workers ++ " workers"
  | batchFailed failed total =>
    "Failed to generate policies for " ++ Text.decimal failed ++ " of " ++ Text.decimal total
      ++ " pods"
  | profileFailed pod fault =>
    "Error generating seccomp profile for pod " ++ pod ++ ": " ++ fault.message
  | fileWritten path => "Wrote " ++ path
  | flowsFetched count pod =>
    "Fetched " ++ Text.decimal count ++ " flow records for pod " ++ pod
  | brokerHasNone path => "Broker has no data for " ++ path
  | podsFound count ns =>
    let place : Text := match ns.filter (!·.isEmpty) with
      | some ns => "namespace " ++ ns
      | none => "all namespaces"
    "Found " ++ Text.decimal count ++ " running pods in " ++ place
  | ownerMissing kind ns name => kind ++ " " ++ inNs ns name ++ " not found"
  | serviceMissing ns name => "Service " ++ name ++ " not found in " ++ ns
  | contextUnreadable reason => "Failed to read namespace from current context: " ++ reason
  | tunnelStarted ns service port =>
    "Starting port-forward to " ++ inNs ns service ++ " on port " ++ Text.ofInt port
  | tunnelReady host port => "Port-forward ready on " ++ host ++ ":" ++ Text.ofInt port
  | tunnelKilled => "Port-forward did not exit, killing it"
  | tunnelStopped => "Port-forward stopped"

/-- The line of a log that a notice makes. -/
def line (n : Notice) : Text :=
  "[" ++ n.gravity.name ++ "] " ++ n.message

end Notice

end LeastPrivilege
