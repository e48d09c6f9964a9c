import QfwSlurm.Interaction.EventLoop
import QfwSlurm.Gateway.AllocationLocks
import QfwSlurm.Gateway.Isolation

/-!
# One request at a time

The event loop of a gateway: requests and operator commands arrive, wait for the lock of their
allocation, are answered question by question while those of other allocations go on, and complete
or are cancelled.  Nothing of this can be told from the journal: its rows are those that are left
when the requests are processed one after the other, in the order in which they got their locks, the
cancelled ones as far as they came.  What is true of every run of steps is so true of a gateway that
serves many clients at once.

Lookups are beside this order: they write nothing, and one of a heterogeneous component waits for
another lock than the allocation it reads.
-/

namespace QfwSlurm

open Interaction

/-! ### The tasks -/

/-- The task only looks a job's reservations up. -/
def Task.isLookup : Task → Bool
  | .handle (.getReservations _) _ => true
  | _ => false

/-- The rows of an allocation, with the operations of the tasks that wait for its lock. -/
def lockedCells (task : ℕ → Task) (key : AllocationKey) : Cell → Prop :=
  Cell.Within (fun operation => ∃ i, (task i).operationKey = some operation ∧
    (task i).lockKey = key) (· = key)

variable {sha256 : Document → String}

/-- The questions of a lookup leave the journal alone. -/
lemma asks_lookup (request : GetReservationsRequest) (senderUid : ℤ) (oracle : Oracle)
    (faults : Faults) : Procedure.Asks (fun q => ∀ w, (surroundings oracle faults q w).2 = w.state)
      (getReservationsTry request senderUid) := by
  refine .bind ⟨fun w => rfl, fun _ => trivial⟩ fun job => .bind (asks_transact fun w => ?_)
    fun _ => Procedure.asks_pure _ _
  simp only [surroundings, Transaction.apply]
  cases faults w.trace.length _ with
  | some fault => rfl
  | none =>
    cases hread : w.state.reservationContext ⟨request.clusterName, job.canonicalJobId⟩ job.uid
        job.gid with
    | error e => rfl
    | ok records => rfl

/-- A lookup writes nothing. -/
lemma Task.observes {task : Task} (h : task.isLookup = true) (oracle : Oracle) (faults : Faults) :
    (task.program sha256).Observes (surroundings oracle faults) := by
  obtain ⟨request, senderUid⟩ | request := task
  swap
  · simp [Task.isLookup] at h
  cases request with
  | getReservations request =>
    exact Program.Asks.bind (asks_answer (asks_lookup request senderUid oracle faults) _ _)
      fun _ => trivial
  | evaluate request => simp [Task.isLookup] at h
  | reserve request => simp [Task.isLookup] at h
  | release request => simp [Task.isLookup] at h

/-- Every other task keeps to the rows of its allocation and its own operation. -/
lemma Task.keepsTo (task : ℕ → Task) {i : ℕ} (h : (task i).isLookup = false) (oracle : Oracle)
    (faults : Faults) : ((task i).program sha256).KeepsTo Journal.cell
      (lockedCells task (task i).lockKey) (surroundings oracle faults) := by
  refine ⟨_, confined_surroundings True oracle faults, ?_⟩
  have hkey {operation : OperationKey} (h : (task i).operationKey = some operation) :
      ∃ k, (task k).operationKey = some operation ∧ (task k).lockKey = (task i).lockKey :=
    ⟨i, h, rfl⟩
  generalize task i = t at h hkey
  obtain ⟨request, senderUid⟩ | request := t
  · refine Program.Asks.bind ?_ fun _ => trivial
    cases request with
    | evaluate request =>
      exact asks_answer
        (within_evaluateTry sha256 senderUid request.toReserveRequest (hkey rfl)) _ _
    | reserve request =>
      refine asks_answer (within_reserveTry sha256 senderUid request ?_ ?_) _ _
      · exact hkey rfl
      · rfl
    | release request =>
      refine asks_answer (within_releaseTry sha256 senderUid request ?_ ?_) _ _
      · exact hkey rfl
      · rfl
    | getReservations request => simp [Task.isLookup] at h
  · refine Program.Asks.bind (within_retryRelease (V := True) ?_) fun _ => trivial
    rfl

/-- A lookup leaves the journal as it is. -/
lemma Step.next_of_lookup {step : Step} (h : step.task.isLookup = true) (j : Journal) :
    step.next sha256 j = j := by
  obtain ⟨request, valid, senderUid, oracle⟩ | ⟨request, oracle⟩ := step
  · cases request with
    | getReservations request => exact (lookup_serve sha256 j request senderUid oracle).1
    | evaluate request => cases h
    | reserve request => cases h
    | release request => cases h
  · cases h

/-- A run leaves the same journal without its lookups. -/
lemma journalAfter_without_lookups (steps : List Step) (j : Journal) :
    journalAfter sha256 j (steps.filter fun step => !step.task.isLookup) =
      journalAfter sha256 j steps := by
  induction steps generalizing j with
  | nil => rfl
  | cons step steps ih =>
    by_cases hlookup : step.task.isLookup = true
    · rw [List.filter_cons_of_neg (by simp [hlookup]), ih, journalAfter, journalAfter, after_cons,
        Step.next_of_lookup hlookup]
    · rw [List.filter_cons_of_pos (by simp [hlookup]), journalAfter, after_cons]
      exact ih _

/-! ### The loop of a gateway -/

/-- What is left of the programs of the steps that arrive, one after the other, and of the journal,
when something has happened in the loop.  A task has its own answers of the verifier and the adapter
and its own failing journal calls. -/
def gatewayLoop (sha256 : Document → String) (steps : ℕ → Step) (faults : ℕ → Faults) (j : Journal)
    (happenings : List (Happening AllocationKey)) :
    Option (EventLoop Task AllocationKey Journal Query Answer (Except PyError Response)) :=
  EventLoop.run Task.lockKey (fun i => (steps i).task)
    (fun i => surroundings (steps i).oracle (faults i)) happenings
    (EventLoop.start j fun i => (steps i).task.program sha256)

/-- The tasks that got their locks, in this order, without the lookups. -/
def servedOrder (steps : ℕ → Step) (happenings : List (Happening AllocationKey)) : List ℕ :=
  (EventLoop.entered happenings).filter fun i => !(steps i).task.isLookup

/-- What a step returns or raises. -/
def Step.outcome (sha256 : Document → String) (j : Journal) (step : Step) :
    Except PyError Response :=
  ((step.task.program sha256).run (surroundings step.oracle noFaults) ⟨j, []⟩).1

/-- Steps that run one after the other. -/
lemma serially_program (steps : ℕ → Step) (j : Journal) (order : List ℕ) :
    serially (fun i => surroundings (steps i).oracle noFaults)
        (fun i => (steps i).task.program sha256) j order =
      journalAfter sha256 j (order.map steps) := by
  induction order generalizing j with
  | nil => rfl
  | cons i order ih =>
    have hnext : (((steps i).task.program sha256).run (surroundings (steps i).oracle noFaults)
        ⟨j, []⟩).2.state = (steps i).next sha256 j := by
      rw [Step.run_task, Step.next]
    rw [serially, after_cons, hnext]
    exact ih _

section Loops

variable {steps : ℕ → Step} {faults : ℕ → Faults} {j : Journal}
  {happenings : List (Happening AllocationKey)}
  {m : EventLoop Task AllocationKey Journal Query Answer (Except PyError Response)}

/-- The pool of a gateway's loop is as when its tasks run one after the other, each as far as it
came. -/
lemma gatewayLoop_inTurn
    (hkeys : ∀ i k key, (steps i).task.operationKey = some key →
      (steps k).task.operationKey = some key → (steps i).task.lockKey = (steps k).task.lockKey)
    (hrun : gatewayLoop sha256 steps faults j happenings = some m) :
    m.pool.InTurn Journal.cell (fun i => surroundings (steps i).oracle (faults i))
      (fun i => (steps i).task.program sha256) ((EventLoop.proceeded happenings).count ·) j
      (servedOrder steps happenings) := by
  obtain ⟨horderly, hpool⟩ := EventLoop.run_orderly EventLoop.orderly_empty rfl hrun
  rw [List.nil_append, List.nil_append] at horderly
  rw [List.nil_append] at hpool
  rw [hpool]
  refine Pool.as_inTurn (lockedCells fun i => (steps i).task) (fun i => (steps i).task.lockKey) ?_ j
    (fun i hi => ?_) (horderly.nodup.filter _) (fun i hi => ?_) fun i k hkey hik => ?_
  · -- no cell belongs to two allocations
    intro key key' c hne hc hc'
    cases c with
    | operation operation =>
      obtain ⟨i, hi, rfl⟩ := hc
      obtain ⟨k, hk, rfl⟩ := hc'
      exact hne (hkeys i k operation hi hk)
    | allocation key'' => exact hne (hc.symm.trans hc')
    | reservation key'' s => exact hne (hc.symm.trans hc')
  · have hnot : (steps i).task.isLookup = false := by simpa using (List.mem_filter.mp hi).2
    exact Task.keepsTo (fun i => (steps i).task) hnot _ _
  · by_cases hlookup : (steps i).task.isLookup = true
    · exact .inr (Task.observes hlookup _ _)
    · exact .inl (List.mem_filter.mpr ⟨horderly.scheduled i hi, by simpa using hlookup⟩)
  · exact horderly.turns i k hkey (hik.trans List.filter_sublist)

/-- When the tasks of a gateway's loop have completed and no journal call failed, the rows are those
of the run of their steps, and each has ended as it does there. -/
lemma gatewayLoop_ends
    (hkeys : ∀ i k key, (steps i).task.operationKey = some key →
      (steps k).task.operationKey = some key → (steps i).task.lockKey = (steps k).task.lockKey)
    (hrun : gatewayLoop sha256 steps (fun _ => noFaults) j happenings = some m)
    (hover : ∀ i ∈ servedOrder steps happenings, .cancel i ∉ happenings ∧
      (m.table.calls[i]?).map (·.stage) = some .over) :
    (∀ key, m.pool.state.operation key =
      (journalAfter sha256 j ((servedOrder steps happenings).map steps)).operation key) ∧
    (∀ key, SameRows (journalAfter sha256 j ((servedOrder steps happenings).map steps))
      m.pool.state key) ∧
    ∀ before i rest, servedOrder steps happenings = before ++ i :: rest →
      (m.pool.thread i).left.result =
        some ((steps i).outcome sha256 (journalAfter sha256 j (before.map steps))) := by
  have hended : ∀ i ∈ servedOrder steps happenings,
      (m.pool.thread i).left.result.isSome = true := by
    intro i hi
    obtain ⟨hcancel, hstage⟩ := hover i hi
    obtain ⟨c, hc, hstage⟩ := Option.map_eq_some_iff.mp hstage
    have hstart : (EventLoop.start (τ := Task) (κ := AllocationKey) j fun i =>
        (steps i).task.program sha256).Ended i := by
      intro c hc
      simp [EventLoop.start] at hc
    exact EventLoop.run_ended hstart hcancel hrun c hc hstage
  obtain ⟨hresults, hcells⟩ := (gatewayLoop_inTurn hkeys hrun).serially hended
  refine ⟨fun key => ?_, fun key => ⟨?_, fun s => ?_⟩, fun before i rest horder => ?_⟩
  · exact (hcells (.operation key)).trans (by rw [serially_program]; rfl)
  · exact (hcells (.allocation key)).trans (by rw [serially_program]; rfl)
  · exact (hcells (.reservation key s)).trans (by rw [serially_program]; rfl)
  · rw [(hresults before i rest horder).1, serially_program, Step.outcome]

end Loops

/-- Two reserve requests for different jobs, and then the operator's command to release the first
one's reservation. -/
def sampleArriving : ℕ → Step
  | 0 => .handle (.reserve (sampleReserve 1 ["qpm-a"])) sampleReserve_valid 1000 obliging
  | 1 => .handle (.reserve { sampleReserve 2 ["qpm-a"] with canonicalJobId := 8 })
    sampleReserve_valid 1000 obliging
  | _ => .retry (sampleRelease 3) obliging

/-- The requests take turns, and the command waits for the first one's lock. -/
def sampleHappenings : List (Happening AllocationKey) :=
  ([.arrive, .arrive, .arrive, .enter 0, .proceed 0, .enter 1] : List (Happening AllocationKey)) ++
    (List.replicate 9 ([.proceed 1, .proceed 0] : List (Happening AllocationKey))).flatten ++
    ([.complete 0, .enter 2] : List (Happening AllocationKey)) ++
    List.replicate 6 (.proceed 2 : Happening AllocationKey) ++
    ([.complete 1, .complete 2] : List (Happening AllocationKey))

/-- The two requests name different operations, and the command none. -/
lemma sampleArriving_keys (i k : ℕ) (key : OperationKey)
    (hi : (sampleArriving i).task.operationKey = some key)
    (hk : (sampleArriving k).task.operationKey = some key) :
    (sampleArriving i).task.lockKey = (sampleArriving k).task.lockKey := by
  have hkeys := hi.trans hk.symm
  rcases i with _ | _ | i
  · rcases k with _ | _ | k
    · rfl
    · exact absurd hkeys (by decide)
    · exact absurd hk (Option.some_ne_none key).symm
  · rcases k with _ | _ | k
    · exact absurd hkeys (by decide)
    · rfl
    · exact absurd hk (Option.some_ne_none key).symm
  · exact absurd hi (Option.some_ne_none key).symm

end QfwSlurm
