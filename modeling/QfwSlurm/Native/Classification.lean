import QfwSlurm.Gateway.Service
import QfwSlurm.Native.Operations

/-!
# Three classifications of a release

The outcome of a release is decided three times: `_release` and `retry_release` choose the state
they journal from the list of results, and the native client classifies the response once it has
been encoded and decoded.  The gateway's two classifiers count different states, so the three agree
on the responses that can be put on the wire in which as many results are stale runtimes as are
authorization failures (`releaseClassifiersAgree_iff`), and on no others.
-/

namespace QfwSlurm.Native

open Wire

/-! ### The client's view of a response -/

/-- What the client makes of a response of the gateway: encoded, decoded and processed.  `none`
when the encoder or the decoder refuses. -/
def clientRelease (request : QsgpReleaseRequest) (response : ReleaseResponse)
    (correlationId : ℤ) : Option ReleaseOperationResult :=
  match encodeReleaseResponse response correlationId with
  | .error _ => none
  | .ok bytes =>
    match qsgpDecodeReleaseResponse bytes with
    | .error _ => none
    | .ok (_, received) => some (qfwReleaseResponseProcess request received {})

/-- The number of results that a classifier counts as unresolved. -/
def unresolvedCount (unresolved : ReservationState → Bool) (results : List ReleaseResult) : ℕ :=
  results.countP fun item => unresolved item.state

/-- The client's two tests on the codes are the gateway's test on the states. -/
lemma unresolvedReleaseState_code (state : ReservationState) :
    unresolvedReleaseState state.code.toNat = state.isUnresolved ∧
      terminalReleaseState state.code.toNat = !state.isUnresolved := by
  cases state <;> decide

/-- The loop of the client counts what `_release` counts. -/
lemma countUnresolved_received (items : List ReleaseResult) (result : ReleaseOperationResult) :
    ∃ result', countUnresolved (items.map received) result = .ok result' ∧
      result'.unresolvedCount =
        result.unresolvedCount + unresolvedCount ReservationState.isUnresolved items := by
  induction items generalizing result with
  | nil => exact ⟨result, rfl, rfl⟩
  | cons item items ih =>
    have hstate : (received item).state = item.state.code.toNat := rfl
    obtain ⟨hunresolved, hterminal⟩ := unresolvedReleaseState_code item.state
    rw [List.map_cons, countUnresolved, hstate, hterminal, hunresolved]
    cases hcounted : item.state.isUnresolved with
    | false =>
      obtain ⟨result', hloop, hcount⟩ := ih result
      refine ⟨result', by simpa using hloop, ?_⟩
      simpa [unresolvedCount, hcounted] using hcount
    | true =>
      obtain ⟨result', hloop, hcount⟩ := ih
        { result with
          unresolvedCount := result.unresolvedCount + 1
          diagnostic :=
            if result.diagnostic = [] ∧ (received item).hasDiagnostic then
              setDiagnostic (received item).diagnostic
            else result.diagnostic }
      refine ⟨result', by simpa using hloop, ?_⟩
      simp only [unresolvedCount, List.countP_cons, hcounted, if_true] at hcount ⊢
      omega

section Client

variable {request : QsgpReleaseRequest} {response : ReleaseResponse} {correlationId : ℤ}

/-- A response that cannot be put on the wire never reaches the client. -/
lemma clientRelease_eq_none
    (h : ¬ (response.Sendable ∧ 0 < correlationId ∧ correlationId < 2 ^ 64)) :
    clientRelease request response correlationId = none := by
  cases hencode : encodeReleaseResponse response correlationId with
  | error error => simp [clientRelease, hencode]
  | ok bytes =>
    obtain ⟨hsendable, hcorrelation, -⟩ := encodeReleaseResponse_eq_ok_iff.mp hencode
    exact absurd ⟨hsendable, hcorrelation⟩ h

/-- What the client reports on a response that can be put on the wire. -/
lemma clientRelease_eq_some (hsendable : response.Sendable)
    (hcorrelation : 0 < correlationId ∧ correlationId < 2 ^ 64)
    (hid : request.requestId = response.requestId.toNat) :
    ∃ result, clientRelease request response correlationId = some result ∧
      result.unresolvedCount = unresolvedCount ReservationState.isUnresolved response.results ∧
      result.state = if unresolvedCount ReservationState.isUnresolved response.results = 0 then
        .released else .releaseUnresolved := by
  have hencode : encodeReleaseResponse response correlationId = .ok _ :=
    encodeReleaseResponse_eq_ok_iff.mpr ⟨hsendable, hcorrelation, rfl⟩
  have hdecode := qsgpDecodeReleaseResponse_encode hencode
  obtain ⟨result, hloop, hcount⟩ := countUnresolved_received response.results
    { response := receivedRelease response }
  have hcount : result.unresolvedCount =
      unresolvedCount ReservationState.isUnresolved response.results := by simpa using hcount
  have hclient : clientRelease request response correlationId =
      some (qfwReleaseResponseProcess request (receivedRelease response) {}) := by
    simp only [clientRelease, hencode, hdecode]
  have hroom : ¬ maxServices < (receivedRelease response).results.length := by
    simpa [receivedRelease] using hsendable.count
  have hsame : ¬ (receivedRelease response).requestId ≠ request.requestId := by
    simp [receivedRelease, hid]
  have hresults : (receivedRelease response).results = response.results.map received := rfl
  rw [hclient, qfwReleaseResponseProcess]
  simp only [if_neg hsame, if_neg hroom]
  rw [hresults, hloop]
  exact ⟨_, rfl, hcount, by rw [← hcount]⟩

end Client

/-! ### Agreement -/

/-- The three classifiers agree on a response: both procedures of the gateway journal `released`
exactly when the client reports a release, and `release-incomplete` exactly when it reports as many
unresolved reservations as the procedure counts. -/
structure ReleaseClassifiersAgree (results : List ReleaseResult)
    (client : Option ReleaseOperationResult) : Prop where
  released : releasedState ReservationState.isUnresolved results = .released ↔
    client.map ReleaseOperationResult.state = some .released
  retryReleased : releasedState ReservationState.isRetryUnresolved results = .released ↔
    client.map ReleaseOperationResult.state = some .released
  incomplete : releasedState ReservationState.isUnresolved results = .releaseIncomplete ↔
    client.map (fun result => (result.state, result.unresolvedCount)) =
      some (.releaseUnresolved, unresolvedCount ReservationState.isUnresolved results)
  retryIncomplete : releasedState ReservationState.isRetryUnresolved results = .releaseIncomplete ↔
    client.map (fun result => (result.state, result.unresolvedCount)) =
      some (.releaseUnresolved, unresolvedCount ReservationState.isRetryUnresolved results)

/-- A pass is journalled as released when nothing is counted. -/
lemma releasedState_eq (unresolved : ReservationState → Bool) (results : List ReleaseResult) :
    releasedState unresolved results =
      if unresolvedCount unresolved results = 0 then .released else .releaseIncomplete := by
  have hany : (results.any fun item => unresolved item.state) = true ↔
      unresolvedCount unresolved results ≠ 0 := by
    rw [unresolvedCount, Ne, List.countP_eq_zero]
    simp
  by_cases hcount : unresolvedCount unresolved results = 0
  · rw [releasedState, if_neg (fun h => hany.mp h hcount), if_pos hcount]
  · rw [releasedState, if_pos (hany.mpr hcount), if_neg hcount]

/-- The number of results with a state. -/
def stateCount (state : ReservationState) (results : List ReleaseResult) : ℕ :=
  results.countP fun item => item.state = state

/-- `_release` counts authorization failures where `retry_release` counts stale runtimes. -/
lemma unresolvedCount_add (results : List ReleaseResult) :
    unresolvedCount ReservationState.isUnresolved results + stateCount .staleRuntime results =
      unresolvedCount ReservationState.isRetryUnresolved results +
        stateCount .authorizationFailure results := by
  induction results with
  | nil => rfl
  | cons item results ih =>
    have hitem : ∀ state : ReservationState,
        (if state.isUnresolved then 1 else 0) + (if decide (state = .staleRuntime) then 1 else 0) =
          (if state.isRetryUnresolved then 1 else 0) +
            if decide (state = .authorizationFailure) then 1 else 0 := by
      intro state
      cases state <;> decide
    have hfirst := hitem item.state
    simp only [unresolvedCount, stateCount, List.countP_cons] at ih ⊢
    omega

/-- The classifiers agree exactly on the responses that can be put on the wire and hold as many
stale runtimes as authorization failures. -/
theorem releaseClassifiersAgree_iff (request : QsgpReleaseRequest) (response : ReleaseResponse)
    (correlationId : ℤ) (hid : request.requestId = response.requestId.toNat)
    (hcorrelation : 0 < correlationId ∧ correlationId < 2 ^ 64) :
    ReleaseClassifiersAgree response.results (clientRelease request response correlationId) ↔
      response.Sendable ∧ stateCount .staleRuntime response.results =
        stateCount .authorizationFailure response.results := by
  have hadd := unresolvedCount_add response.results
  have hstate := releasedState_eq ReservationState.isUnresolved response.results
  have hretry := releasedState_eq ReservationState.isRetryUnresolved response.results
  by_cases hsendable : response.Sendable
  swap
  · -- the client sees nothing, and the gateway journals one of the two states
    have hnone : clientRelease request response correlationId = none :=
      clientRelease_eq_none fun h => hsendable h.1
    rw [hnone]
    refine ⟨fun h => absurd h ?_, fun h => absurd h.1 hsendable⟩
    rintro ⟨hreleased, -, hincomplete, -⟩
    rw [hstate] at hreleased hincomplete
    split_ifs at hreleased hincomplete
    · simp at hreleased
    · simp at hincomplete
  obtain ⟨result, hclient, hcount, hresult⟩ := clientRelease_eq_some hsendable hcorrelation hid
  rw [hclient]
  have hcounts : stateCount .staleRuntime response.results =
      stateCount .authorizationFailure response.results ↔
        unresolvedCount ReservationState.isRetryUnresolved response.results =
          unresolvedCount ReservationState.isUnresolved response.results := by omega
  constructor
  · rintro ⟨hreleased, hretryReleased, hincomplete, hretryIncomplete⟩
    refine ⟨hsendable, hcounts.mpr ?_⟩
    rw [hretry, Option.map_some, hresult, hcount] at hretryIncomplete
    rw [hretry, Option.map_some, hresult] at hretryReleased
    by_cases hzero : unresolvedCount ReservationState.isUnresolved response.results = 0
    · rw [if_pos hzero] at hretryReleased
      split_ifs at hretryReleased with hretryZero
      · omega
      · simp at hretryReleased
    · rw [if_neg hzero] at hretryReleased hretryIncomplete
      split_ifs at hretryReleased hretryIncomplete with hretryZero
      · simp at hretryReleased
      · simpa using (hretryIncomplete.mp rfl).symm
  · rintro ⟨-, hsame⟩
    have hsame := hcounts.mp hsame
    refine ⟨?_, ?_, ?_, ?_⟩ <;>
      simp only [hstate, hretry, hsame, Option.map_some, hresult, hcount] <;>
      split_ifs <;> simp

/-- A response to request 2 with a reservation that was released and one that was not. -/
def mixedRelease : ReleaseResponse :=
  ⟨2, [{ serviceId := "qpm-a", reservationId := 11, state := .released },
    { serviceId := "qpm-b", reservationId := 12, state := .qpmFailure, gatewayError := some .qpm
      diagnostic := some "QPM did not answer" }]⟩

theorem releaseClassifiersAgree_iff_mixed :
    clientRelease ⟨2, [], 7, 0⟩ mixedRelease 5 ≠ none ∧
      ReleaseClassifiersAgree mixedRelease.results
        (clientRelease ⟨2, [], 7, 0⟩ mixedRelease 5) :=
  ⟨by decide +kernel,
    (releaseClassifiersAgree_iff ⟨2, [], 7, 0⟩ mixedRelease 5 rfl (by decide)).mpr (by decide)⟩

/-- A response to request 2 for a reservation whose QPM has restarted. -/
def staleRelease : ReleaseResponse :=
  ⟨2, [{ serviceId := "qpm-a", reservationId := 11, state := .staleRuntime,
         diagnostic := some "QPM incarnation differs from reservation journal" }]⟩

/-- The client and `_release` take the reservation for released, `retry_release` does not. -/
theorem stale_runtime_classified_differently :
    (clientRelease ⟨2, [], 7, 0⟩ staleRelease 5).map ReleaseOperationResult.state =
      some .released ∧
    ¬ ReleaseClassifiersAgree staleRelease.results
      (clientRelease ⟨2, [], 7, 0⟩ staleRelease 5) := by
  have hclient : (clientRelease ⟨2, [], 7, 0⟩ staleRelease 5).map ReleaseOperationResult.state =
      some .released := by decide +kernel
  refine ⟨hclient, fun h => ?_⟩
  have hretry : releasedState ReservationState.isRetryUnresolved staleRelease.results =
      .releaseIncomplete := by decide
  have hreleased := h.retryReleased.mpr hclient
  rw [hretry] at hreleased
  exact (nomatch hreleased)

end QfwSlurm.Native
