import QfwSlurm.Interaction.WeakLocks
import QfwSlurm.Gateway.Tasks

/-!
# The lock of an allocation

`GatewayService._locks` and what holds on to its locks: the handlers of requests and the operator's
`retry_release` in one event loop.  A task asks `_allocation_lock` for its lock when it starts and
runs in an `async with` block of it; `asyncio.Lock` is the mutex of `WeakLocks`.
-/

namespace QfwSlurm

/-- `key` in `handle`: a query names the job that is observed. -/
def Request.lockKey : Request → AllocationKey
  | .evaluate request => request.toReserveRequest.key
  | .reserve request => request.key
  | .release request => request.key
  | .getReservations request => ⟨request.clusterName, request.observedJobId⟩

/-- `key` in `handle` and in `retry_release` -/
def Task.lockKey : Task → AllocationKey
  | .handle request _ => request.lockKey
  | .retry request => request.key

/-- The tasks of a service and `_locks`. -/
abbrev LockTable := WeakLocks.Loop Task AllocationKey

/-- `GatewayService._allocation_lock` -/
def allocationLock (s : LockTable) (key : AllocationKey) : ℕ × LockTable := s.obtain key

/-- Whatever arrives, ends and is cancelled, and whenever locks are collected: at most one task of
an allocation is inside, and while one waits or is inside, `_allocation_lock` returns its lock to
every task of the allocation that arrives. -/
theorem one_inside_per_allocation {actions : List (WeakLocks.Action Task AllocationKey)}
    {s : LockTable} (hrun : WeakLocks.run Task.lockKey actions {} = some s) :
    (∀ (i j : ℕ) (c d : WeakLocks.Call Task), s.calls[i]? = some c → s.calls[j]? = some d →
      c.stage = .inside → d.stage = .inside → c.task.lockKey = d.task.lockKey → i = j) ∧
    ∀ c ∈ s.calls, c.stage ≠ .over → allocationLock s c.task.lockKey = (c.lock, s) ∧
      ∀ task : Task, task.lockKey = c.task.lockKey →
        WeakLocks.step Task.lockKey s (.arrive task) =
          some { s with calls := s.calls ++ [⟨task, c.lock, .waiting⟩] } := by
  have hheld : s.Held Task.lockKey := WeakLocks.run_held WeakLocks.held_empty hrun
  constructor
  · intro i j c d hc hd hcin hdin hkey
    exact hheld.exclusive hc hd hcin hdin hkey
  · intro c hc hactive
    obtain ⟨i, hi⟩ := List.mem_iff_getElem?.mp hc
    have hlock : s.obtain c.task.lockKey = (c.lock, s) := hheld.shared hi hactive
    refine ⟨hlock, fun task htask => ?_⟩
    rw [WeakLocks.step, htask, hlock]

/-- Two tasks of one allocation, of which the first is cancelled inside and the second completes;
their lock is collected, and a third task makes another one. -/
def sampleArrivals : List (WeakLocks.Action Task AllocationKey) :=
  [.arrive (.handle (.reserve (sampleReserve 1 ["qpm-a"])) 1000),
    .arrive (.retry (sampleRelease 2)), .enter 0, .cancel 0, .enter 1, .complete 1, .collect 0,
    .arrive (.handle (.release (sampleRelease 3)) 1000), .enter 2]

theorem one_inside_per_allocation_sample : ∃ s : LockTable,
    WeakLocks.run Task.lockKey sampleArrivals {} = some s ∧ s.calls.map (·.lock) = [0, 0, 1] ∧
    ∀ (i j : ℕ) (c d : WeakLocks.Call Task), s.calls[i]? = some c → s.calls[j]? = some d →
      c.stage = .inside → d.stage = .inside → c.task.lockKey = d.task.lockKey → i = j :=
  ⟨_, rfl, rfl, (@one_inside_per_allocation sampleArrivals _ rfl).1⟩

/-- Tasks of different allocations do not wait for each other, and no lock stays held: a task can
enter as soon as no other one of its allocation is inside. -/
theorem enters_when_alone {actions : List (WeakLocks.Action Task AllocationKey)} {s : LockTable}
    (hrun : WeakLocks.run Task.lockKey actions {} = some s) {i : ℕ} {c : WeakLocks.Call Task}
    (hc : s.calls[i]? = some c) (hwaiting : c.stage = .waiting) :
    (WeakLocks.step Task.lockKey s (.enter i)).isSome = true ↔
      ∀ d ∈ s.calls, d.task.lockKey = c.task.lockKey → d.stage ≠ .inside :=
  (WeakLocks.run_held WeakLocks.held_empty hrun).enter_iff hc hwaiting

end QfwSlurm
