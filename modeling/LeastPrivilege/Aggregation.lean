import LeastPrivilege.Rule

/-!
Aggregation: records folded, one at a time, into one rule for each peer and direction. Records
that are skipped or invalid change no rule, and every record is counted once.
-/

namespace LeastPrivilege

/-- Rules so far, in the order in which their peers were first seen, and the counts of records. -/
structure Aggregation where
  ingress : List Rule := []
  egress : List Rule := []
  tally : Tally := {}
  deriving Repr, Inhabited

/-- Adds a port to the rule of its peer, or a new rule at the end. -/
def addToRules (direction : Direction) (peerIp : Text) (port : Port) : List Rule → List Rule
  | [] => [{ peerIp, direction, ports := [port] }]
  | rule :: rest =>
    if rule.peerIp = peerIp then { rule with ports := addPort rule.ports port } :: rest
    else rule :: addToRules direction peerIp port rest

namespace Aggregation

/-- The rules of a direction. -/
def rules (a : Aggregation) : Direction → List Rule
  | .ingress => a.ingress
  | .egress => a.egress

/-- Accepts a classified record. -/
def accept (a : Aggregation) (c : Classified) : Aggregation :=
  let a := { a with tally.accepted := a.tally.accepted + 1 }
  match c.direction with
  | .ingress => { a with ingress := addToRules .ingress c.peerIp c.port a.ingress }
  | .egress => { a with egress := addToRules .egress c.peerIp c.port a.egress }

/-- Folds in one record. A record that cannot be used leaves a notice; any other fault stops the
aggregation. -/
def observe (target : Pod) (a : Aggregation) (r : Record) :
    Except Fault (Aggregation × List Notice) :=
  match r.classify target with
  | .ok (none, notices) => .ok ({ a with tally.skipped := a.tally.skipped + 1 }, notices)
  | .ok (some c, notices) => .ok (a.accept c, notices)
  | .error (.record fault) =>
    .ok ({ a with tally.invalid := a.tally.invalid + 1 }, [.invalidRecord r.uuid (.record fault)])
  | .error fault => .error fault

/-- Folds in records in order, and stops at the first fault. The notices so far stand. -/
def observeAll (target : Pod) : Aggregation → List Record → Except Fault Aggregation × List Notice
  | a, [] => (.ok a, [])
  | a, r :: rest =>
    match a.observe target r with
    | .ok (a, notices) =>
      let (result, more) := a.observeAll target rest
      (result, notices ++ more)
    | .error fault => (.error fault, [])

end Aggregation

/-- The notice of an aggregation that is complete. -/
def Aggregation.notice (a : Aggregation) (target : Pod) : Notice :=
  .aggregated target.name a.ingress.length a.egress.length a.tally

/-- The rules of a list of records, from no rules. -/
def aggregate (records : List Record) (target : Pod) : Except Fault Aggregation × List Notice :=
  match Aggregation.observeAll target {} records with
  | (.ok a, notices) => (.ok a, notices ++ [a.notice target])
  | (.error fault, notices) => (.error fault, notices)

end LeastPrivilege
