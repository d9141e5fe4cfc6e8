import LeastPrivilege.Command.Run

/-!
The program: a run over the real environment, directories and streams. It has no connection of its
own to a cluster or the web, so a cluster's configuration cannot be loaded here; what needs one says
so and ends.
-/

namespace LeastPrivilege.Main

/-- What is said where a connection would be needed. -/
def noConnection : Text := "no connection is available"

/-- The cause behind a failed operation on a file. -/
def causeOf : IO.Error → FileCause
  | .noFileOrDirectory .. => .missing
  | .alreadyExists .. => .exists_
  | .inappropriateType _ code _ => if code = 21 then .isADirectory else .notADirectory
  | .invalidArgument (some _) 36 _ => .nameTooLong
  | _ => .denied

/-- Does something to a file. -/
def attempt (act : IO Unit) : IO (Except FileCause Unit) := do
  try
    act
    return .ok ()
  catch e =>
    return .error (causeOf e)

/-- Questions about the cluster. -/
def answerCluster : (q : ClusterQuestion) → IO q.Answer
  | .request _ (.pods _) => return .error (.unreachable noConnection)
  | .request _ (.pod ..) => return .error (.unreachable noConnection)
  | .request _ (.controller ..) => return .error (.unreachable noConnection)
  | .request _ (.service ..) => return .error (.unreachable noConnection)
  | .loadInCluster | .loadFile .. | .contexts _ => return .error noConnection

/-- Questions to the system. No process is ever started. -/
def answerSystem : (q : SystemQuestion) → IO q.Answer
  | .findForwarder => return none
  | .start _ => return .error noConnection
  | .poll _ => return some 0
  | .report _ => return none
  | .connect .. => return false
  | .clock => return .ofRatio false (← IO.monoMsNow) 1000
  | .sleep => IO.sleep 200
  | .terminate _ | .kill _ => return ()
  | .wait .. => return true

/-- Questions to the web. -/
def answerWeb : (q : WebQuestion) → IO q.Answer
  | .fetch .. => return .unreachable noConnection
  | .close => return ()

/-- Output. -/
def answerOutlet : (q : OutletQuestion) → IO q.Answer
  | .makeDirectory path => attempt (IO.FS.createDir path.text.escapedString)
  | .isDirectory path => do
    -- A directory, and nothing else, already holds the name for itself.
    match ← attempt (IO.FS.createDir (path.text.escapedString ++ "/.")) with
    | .error .exists_ => return true
    | _ => return false
  | .write path text => attempt (IO.FS.writeFile path.text.escapedString text.escapedString)
  | .print text => do (← IO.getStdout).putStr text.escapedString
  | .say line => do (← IO.getStderr).putStrLn line.escapedString

/-- A notice, on the error stream, if it is grave enough. -/
def keep (least : Gravity) (n : Notice) : IO Unit := do
  if n.gravity.reaches least then (← IO.getStderr).putStrLn n.line.escapedString

/-- Questions to everything outside. -/
def answer : (q : outside.Question) → IO (outside.Answer q)
  | .inl (.inl q) => answerCluster q
  | .inl (.inr q) => answerSystem q
  | .inr (.inl q) => answerWeb q
  | .inr (.inr q) => answerOutlet q

/-- The names that are looked at in the environment. -/
def environmentNames : List String :=
  ["FLOWPOLICY_BROKER_URL", "FLOWPOLICY_REQUEST_TIMEOUT", "FLOWPOLICY_MAX_WORKERS",
    "FLOWPOLICY_DEBUG", "KUBE_GUARDIAN_NAMESPACE", "POD_NAMESPACE", "COLUMNS"]

/-- The environment, as far as it is looked at. -/
def environment : IO Environment :=
  environmentNames.filterMapM fun name => do
    return (← IO.getEnv name).map fun value => (Text.ofString name, Text.ofString value)

/-- Runs a command line. -/
def run (words : List Text) : IO UInt32 := do
  let env ← environment
  let (task, least) := Task.ofWords env words
  let ending ← (Run.ofTask env task).run (I := outside) answer (keep least)
  match ending.escaped with
  | some fault => (← IO.getStderr).putStrLn fault.message.escapedString
  | none => pure ()
  return ending.status.toUInt32

end LeastPrivilege.Main

/-- The program. -/
def main (words : List String) : IO UInt32 :=
  LeastPrivilege.Main.run (words.map LeastPrivilege.Text.ofString)
