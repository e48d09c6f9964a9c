import QfwSlurm.Interaction.Interleaving
import QfwSlurm.Gateway.Run

/-!
# Tasks

What runs in a gateway, as one kind of program: the handlers of requests and the operator's
`retry_release`.  Tasks run side by side on one journal, or one after the other as the steps of a
run; `Step.upTo` is the world in the middle of a step.
-/

namespace QfwSlurm

open Interaction

/-- The handler of a request, or an operator's `retry_release`. -/
inductive Task where
  | handle (request : Request) (senderUid : ℤ)
  | retry (request : ReleaseRequest)

/-- The computation of a task. -/
def Task.program (sha256 : Document → String) : Task → Program Query Answer (Except PyError Response)
  | .handle request senderUid => do return .ok (← QfwSlurm.handle sha256 request senderUid)
  | .retry request => do return (← ExceptT.run (retryRelease request)).map .release

/-- The operation a task is journalled as. -/
def Task.operationKey : Task → Option OperationKey
  | .handle (.evaluate request) senderUid =>
    some (request.toReserveRequest.operationKey .evaluate senderUid)
  | .handle (.reserve request) senderUid => some (request.operationKey .reserve senderUid)
  | .handle (.release request) senderUid => some (request.operationKey senderUid)
  | .handle (.getReservations _) _ => none
  | .retry _ => none

/-- The document whose fingerprint stands for the content of a task's request. -/
def Task.document : Task → Option Document
  | .handle (.evaluate request) _ => some (.request request.toReserveRequest)
  | .handle (.reserve request) _ => some (.request request)
  | .handle (.release request) _ => some (.release request)
  | .handle (.getReservations _) _ => none
  | .retry _ => none

/-- Tasks side by side on one journal.  Each has its own answers of the verifier and the adapter and
its own failing journal calls; a task that is stopped is not in the schedule any more. -/
def sideBySide {ι : Type} [DecidableEq ι] (sha256 : Document → String) (task : ι → Task)
    (oracle : ι → Oracle) (faults : ι → Faults) (j : Journal) (schedule : List ι) :
    Pool ι Journal Query Answer (Except PyError Response) :=
  after (Pool.step fun i => surroundings (oracle i) (faults i))
    (Pool.start j fun i => (task i).program sha256) schedule

/-! ### Steps in the middle -/

/-- The task of a step. -/
def Step.task : Step → Task
  | .handle request _ senderUid _ => .handle request senderUid
  | .retry request _ => .retry request

/-- The answers given to a step. -/
def Step.oracle : Step → Oracle
  | .handle _ _ _ oracle => oracle
  | .retry _ oracle => oracle

/-- What is left of a step after `n` of its questions, and the world then. -/
def Step.upTo (sha256 : Document → String) (j : Journal) (step : Step) (n : ℕ) :
    Program Query Answer (Except PyError Response) × GatewayWorld :=
  (step.task.program sha256).runFor (surroundings step.oracle noFaults) n ⟨j, []⟩

/-- A step is the run of its task. -/
lemma Step.run_task (sha256 : Document → String) (j : Journal) (step : Step) :
    ((step.task.program sha256).run (surroundings step.oracle noFaults) ⟨j, []⟩).2 =
      step.world sha256 j := by
  cases step with
  | handle request valid senderUid oracle =>
    rw [Step.task, Task.program, Program.run_bind]
    rfl
  | retry request oracle =>
    rw [Step.task, Task.program, Program.run_bind]
    rfl

/-- What is left of a step leads to its end. -/
lemma Step.run_upTo (sha256 : Document → String) (j : Journal) (step : Step) (n : ℕ) :
    ((step.upTo sha256 j n).1.run (surroundings step.oracle noFaults) (step.upTo sha256 j n).2).2 =
      step.world sha256 j := by
  rw [Step.upTo, Program.run_runFor, Step.run_task]

/-- The end of a step is one of its points. -/
lemma Step.exists_upTo (sha256 : Document → String) (j : Journal) (step : Step) :
    ∃ n, (step.upTo sha256 j n).2 = step.world sha256 j := by
  obtain ⟨n, hn⟩ := Program.exists_runFor (surroundings step.oracle noFaults)
    (step.task.program sha256) ⟨j, []⟩
  exact ⟨n, by rw [Step.upTo, hn, Step.run_task]⟩

end QfwSlurm
