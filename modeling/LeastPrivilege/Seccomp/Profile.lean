import LeastPrivilege.Json.Writer
import LeastPrivilege.Seccomp.Recorded
import LeastPrivilege.Text.Case

/-!
Seccomp profiles: a default action, the architectures, and rules that give an action to system
calls by name. A profile built from recorded calls allows exactly these.
-/

namespace LeastPrivilege.Seccomp

/-- An action for system calls by name. -/
structure CallRule where
  names : List Text
  action : Text
  deriving DecidableEq, Repr

/-- A profile. -/
structure Profile where
  defaultAction : Text
  architectures : List Text := []
  rules : List CallRule := []
  deriving DecidableEq, Repr

/-- The action that lets a call through. -/
def allowAction : Text := "SCMP_ACT_ALLOW"

/-- The actions offered for calls that were never recorded; the first is taken by default. -/
def defaultActions : List Text := ["SCMP_ACT_ERRNO", "SCMP_ACT_KILL", "SCMP_ACT_LOG"]

/-- The default action that is taken when none is chosen. -/
def standardAction : Text := "SCMP_ACT_ERRNO"

/-- The architectures that a machine name stands for, in any case. -/
def architecturesOf (arch : Text) : List Text :=
  let name := Text.small arch
  if name == "x86_64" || name == "amd64" then ["SCMP_ARCH_X86_64"]
  else if name == "arm64" || name == "aarch64" then ["SCMP_ARCH_ARM64"]
  else []

namespace Profile

/-- The profile that allows exactly the recorded calls. -/
def ofRecorded (calls : RecordedCalls) (defaultAction : Text) : Profile :=
  let names := mergeNames [calls.names]
  { defaultAction
    architectures := architecturesOf calls.arch
    rules := if names.isEmpty then [] else [⟨names, allowAction⟩] }

/-- A list of texts as a value. -/
def texts (ss : List Text) : Value :=
  .list (ss.map Value.text)

/-- The profile as a document. -/
def document (p : Profile) : Value :=
  .map [(.text "defaultAction", .text p.defaultAction),
    (.text "architectures", texts p.architectures),
    (.text "syscalls", .list (p.rules.map fun r =>
      .map [(.text "names", texts r.names), (.text "action", .text r.action)]))]

/-- The text of the profile's document. -/
def text (p : Profile) : Text :=
  Json.writeIndented 4 p.document

/-- A profile is complete when it has a default action, an architecture and a rule; the first that
is missing is reported. -/
def check (p : Profile) : Except Fault Unit :=
  if p.defaultAction.isEmpty then .error (.value .noDefaultAction)
  else if p.architectures.isEmpty then .error (.value .noArchitecture)
  else if p.rules.isEmpty then .error (.value .noSyscallRule)
  else .ok ()

end Profile

end LeastPrivilege.Seccomp
