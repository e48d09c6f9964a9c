import QfwSlurm.Gateway.Operations

/-!
# After an incomplete rollback

A first attempt whose rollback is incomplete leaves its allocation `rolling-back`, and
`begin_allocation` refuses every reserve request for it until a release takes the allocation out of
that state.  An extension takes another branch: the accepted set it started from is restored, and
with it the allocation accepts further extensions.
-/

namespace QfwSlurm

open Interaction

/-- The step is a release of the allocation. -/
def Step.ReleasesKey (key : AllocationKey) : Step → Prop
  | .handle (.release request) _ _ _ => request.key = key
  | .retry request _ => request.key = key
  | _ => False

instance (key : AllocationKey) : DecidablePred (Step.ReleasesKey key) := fun step =>
  match step with
  | .handle (.release request) _ _ _ => inferInstanceAs (Decidable (request.key = key))
  | .retry request _ => inferInstanceAs (Decidable (request.key = key))
  | .handle (.evaluate _) _ _ _ => isFalse id
  | .handle (.reserve _) _ _ _ => isFalse id
  | .handle (.getReservations _) _ _ _ => isFalse id

/-- The states in which `begin_allocation` refuses whatever is requested. -/
def AllocationState.isClosed : AllocationState → Bool
  | .reserving | .extending | .rollingBack | .released => true
  | _ => false

/-- The allocation is in the middle of a rollback. -/
def RollingBack (key : AllocationKey) (j : Journal) : Prop :=
  ∃ row, j.allocation key = some row ∧ row.state = .rollingBack

section Steps

variable {sha256 : Document → String} {j j' : Journal} {calls : List Event} {key : AllocationKey}

lemma RollingBack.congr (h : RollingBack key j) (hrows : SameRows j j' key) : RollingBack key j' := by
  unfold RollingBack
  rw [hrows.allocation_eq]
  exact h

/-- An allocation in one of the closed states refuses every reserve request. -/
lemma Reserves.of_closed {request : ReserveRequest} {senderUid : ℤ}
    {result : Except PyError ReserveResponse}
    (h : Reserves sha256 request senderUid j result j' calls) {row : AllocationRow}
    (hrow : j.allocation request.key = some row) (hclosed : row.state.isClosed = true) :
    SameRows j j' request.key ∧ calls = [] := by
  have hstate {state : AllocationState} (hstate : row.state = state)
      (hopen : state.isClosed = false) : False := by
    rw [hstate, hopen] at hclosed
    cases hclosed
  have hextends {other : AllocationRow} {stored : Json}
      (h : Extends sha256 request j other stored) : False := by
    cases hrow.symm.trans h.allocation_eq
    exact hstate h.state_eq rfl
  have hrecalls {other : AllocationRow} {stored : Json}
      (h : Recalls sha256 request j other stored) : False := by
    cases hrow.symm.trans h.allocation_eq
    rcases h.state_eq with hother | hother <;> exact hstate hother rfl
  cases h with
  | conflicting operation hoperation hne => exact ⟨SameRows.refl j _, rfl⟩
  | replayed operation result hoperation hfingerprint hcomplete h => exact ⟨SameRows.refl j _, rfl⟩
  | refused error hbegin h => exact ⟨⟨rfl, fun _ => rfl⟩, rfl⟩
  | reused other stored response hbegin hplan h =>
    exact (hplan.elim (fun h => hextends h.1) hrecalls).elim
  | misread other stored error hbegin hplan h herror =>
    exact (hplan.elim (fun h => hextends h.1) hrecalls).elim
  | attempted job a hbegin hrestart hfor hfaultless j' hj =>
    rcases (hrestart row hrow).2 with hd | hd | ⟨hd | hd | ⟨hd, -⟩, -⟩ <;>
      exact (hstate hd rfl).elim
  | extended job a other stored previous hbegin h hm hp hfor hfaultless j' hj =>
    exact (hextends h).elim
  | stranded job a other stored error hbegin h hm hs hp he hfor j' hj => exact (hextends h).elim

/-- An allocation that is rolling back refuses every reserve request. -/
lemma Reserves.of_rollingBack {request : ReserveRequest} {senderUid : ℤ}
    {result : Except PyError ReserveResponse}
    (h : Reserves sha256 request senderUid j result j' calls) (hj : RollingBack request.key j) :
    SameRows j j' request.key ∧ calls = [] := by
  obtain ⟨row, hrow, hstate⟩ := hj
  exact h.of_closed hrow (by rw [hstate]; rfl)

/-- No step but a release takes an allocation out of its rollback. -/
lemma RollingBack.step (h : RollingBack key j) {step : Step} (hstep : ¬ step.ReleasesKey key) :
    RollingBack key (step.next sha256 j) := by
  by_cases hk : step.key = some key
  swap
  · exact h.congr (step.sameRows hk)
  cases step with
  | handle request valid senderUid oracle =>
    cases request with
    | evaluate request => cases hk
    | getReservations request => cases hk
    | reserve request =>
      obtain rfl : request.key = key := Option.some.inj hk
      rcases serve_reserve_cases sha256 j valid senderUid oracle with ⟨-, -, hstate, -⟩ | hreserves
      · rw [Step.next, Step.world, hstate]
        exact h
      · exact h.congr (hreserves.of_rollingBack h).1
    | release request => exact absurd (Option.some.inj hk) hstep
  | retry request oracle => exact absurd (Option.some.inj hk) hstep

/-- Nor does a run. -/
lemma RollingBack.run (h : RollingBack key j) {steps : List Step}
    (hsteps : ∀ step ∈ steps, ¬ step.ReleasesKey key) :
    RollingBack key (journalAfter sha256 j steps) := by
  induction steps generalizing j with
  | nil => exact h
  | cons step steps ih =>
    exact ih (h.step (hsteps step List.mem_cons_self))
      fun other hother => hsteps other (List.mem_cons_of_mem step hother)

end Steps

/-- A reserve request that ends with an incomplete rollback, on an allocation that was not accepted
when it began, blocks every later reserve request for the allocation until it is released: none of
them asks a QPM for a reservation. -/
theorem blocked_of_incomplete (sha256 : Document → String) (steps : List Step)
    (request : ReserveRequest) (valid : (Request.reserve request).Valid) (senderUid : ℤ)
    (oracle : Oracle)
    (hincomplete : EndsIncomplete sha256 (journalAfter sha256 Journal.empty steps) request senderUid
      oracle)
    (hnot : ∀ row, (journalAfter sha256 Journal.empty steps).allocation request.key = some row →
      row.state ≠ .accepted)
    (later : List Step) (hlater : ∀ step ∈ later, ¬ step.ReleasesKey request.key)
    (again : ReserveRequest) (validAgain : (Request.reserve again).Valid)
    (hkey : again.key = request.key) (senderUidAgain : ℤ) (oracleAgain : Oracle) :
    asked (serve sha256 (journalAfter sha256
      (serve sha256 (journalAfter sha256 Journal.empty steps) (.reserve request) senderUid
        oracle).2.state later) (.reserve again) senderUidAgain oracleAgain).2.trace = [] := by
  obtain ⟨-, -, ⟨-, hrolling⟩ | ⟨row, stored, hextends, -⟩⟩ :=
    hincomplete.cases ⟨steps, rfl⟩ valid
  swap
  · exact absurd hextends.state_eq (hnot row hextends.allocation_eq)
  have hblocked : RollingBack request.key (journalAfter sha256 _ later) :=
    RollingBack.run hrolling hlater
  rw [← hkey] at hblocked
  rw [← asked_adapterCalls]
  rcases serve_reserve_cases sha256 _ validAgain senderUidAgain oracleAgain with
    ⟨-, -, -, hcalls⟩ | hreserves
  · rw [hcalls]
    rfl
  · rw [(hreserves.of_rollingBack hblocked).2]
    rfl

/-- A first attempt with an incomplete rollback, and another request after it. -/
theorem blocked_of_incomplete_first :
    asked (serve sampleDigest (serve sampleDigest Journal.empty
      (.reserve (sampleReserve 1 ["qpm-b", "qpm-c"])) 1000 stubborn).2.state
      (.reserve (sampleReserve 2 ["qpm-d"])) 1000 obliging).2.trace = [] :=
  blocked_of_incomplete sampleDigest [] (sampleReserve 1 ["qpm-b", "qpm-c"]) (by decide) 1000
    stubborn ⟨_, rfl, by decide⟩ (fun row h => nomatch h) [] (fun step h => nomatch h)
    (sampleReserve 2 ["qpm-d"]) (by decide) rfl 1000 obliging

/-- An extension with an incomplete rollback, and another request after it, which is granted the
reservation again whose release has failed. -/
theorem extension_not_blocked :
    EndsIncomplete sampleDigest sampleAccepted (sampleReserve 2 ["qpm-b", "qpm-c"]) 1000 stubborn ∧
    (sampleReserve 3 ["qpm-b"]).key = (sampleReserve 2 ["qpm-b", "qpm-c"]).key ∧
    asked (serve sampleDigest (serve sampleDigest sampleAccepted
      (.reserve (sampleReserve 2 ["qpm-b", "qpm-c"])) 1000 stubborn).2.state
      (.reserve (sampleReserve 3 ["qpm-b"])) 1000 obliging).2.trace = ["qpm-b"] :=
  ⟨⟨_, rfl, by decide⟩, rfl, by decide⟩

end QfwSlurm
