import LeastPrivilege.Command.Session
import LeastPrivilege.Proofs.Ending

/-!
Outsides that stand still: a cluster and a web, each with one answer to each question, on a system
that forwards no ports and takes all output. Where nothing changes, everything that was asked was
answered from the tables (`Inquiry.answer_of_mem_known`), so what holds of the tables holds of a
whole run.
-/

namespace LeastPrivilege

/-- An outside that stands still. -/
structure StillOutside where
  cluster : (q : ClusterQuestion) → q.Answer
  web : (q : WebQuestion) → q.Answer

namespace StillOutside

/-- A cluster that cannot be reached. -/
def noCluster : (q : ClusterQuestion) → q.Answer
  | .request _ (.pods _) | .request _ (.pod ..) | .request _ (.controller ..)
  | .request _ (.service ..) => .error (.unreachable "no route to host")
  | .loadInCluster | .loadFile .. | .contexts _ => .error "no configuration"

/-- A system that forwards no ports. -/
def noForwarder : (q : SystemQuestion) → q.Answer
  | .findForwarder | .poll _ | .report _ => none
  | .start _ => .error "no such program"
  | .connect .. | .wait .. => false
  | .clock => Double.nan
  | .sleep | .terminate _ | .kill _ => ()

/-- An outlet that takes all output. -/
def allTaken : (q : OutletQuestion) → q.Answer
  | .makeDirectory _ | .write .. => .ok ()
  | .isDirectory _ => true
  | .print _ | .say _ => ()

/-- The answers of the outside. -/
def answer (o : StillOutside) : (q : outside.Question) → outside.Answer q
  | .inl (.inl q) => o.cluster q
  | .inl (.inr q) => noForwarder q
  | .inr (.inl q) => o.web q
  | .inr (.inr q) => allTaken q

end StillOutside

end LeastPrivilege
