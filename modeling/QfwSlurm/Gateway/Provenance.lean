import QfwSlurm.Gateway.Lookups
import QfwSlurm.Gateway.Polls
import QfwSlurm.Gateway.Released

/-!
# Where reservation ids come from

A reservation id enters the gateway when a QPM grants it to an allocation.  From there it goes to a
reservation row, to the stored response of the allocation, to the stored responses of operations and
to the answers of the gateway.  This module follows it.

`Effect` says, in one form for all requests, what a request may do with ids: those in the rows and
the response of an allocation, in the operations, in the answer and in the calls to
`adapter.release` were known for an allocation that the request has a warrant for, or were granted
to it just now, or were replayed from the operation of the request.  What a warrant is does not
matter here.  The lemmas at the end derive the effect of each request from the ways it can end.

An allocation keeps its owner for ever: `begin_allocation` refuses any other.
-/

namespace QfwSlurm

open Interaction

/-! ### Ids in responses -/

/-- The reservations a response to an admission request names. -/
def ReserveResponse.reservations (response : ReserveResponse) : List (String × ℤ) :=
  response.results.filterMap fun item => item.reservationId.map fun id => (item.serviceId, id)

/-- The reservations a response to a release request names. -/
def ReleaseResponse.reservations (response : ReleaseResponse) : List (String × ℤ) :=
  response.results.map fun item => (item.serviceId, item.reservationId)

/-- The reservations an answer of the gateway names. -/
def Response.reservationIds : Response → List (String × ℤ)
  | .evaluate response => response.toReserveResponse.reservations
  | .reserve response => response.reservations
  | .release response => response.reservations
  | .getReservations response =>
    response.reservations.map fun item => (item.serviceId, item.reservationId)
  | .error _ => []

lemma ReserveResponse.mem_reservations {response : ReserveResponse} {pair : String × ℤ} :
    pair ∈ response.reservations ↔
      ∃ item ∈ response.results, item.serviceId = pair.1 ∧ item.reservationId = some pair.2 := by
  simp only [ReserveResponse.reservations, List.mem_filterMap, Option.map_eq_some_iff]
  constructor
  · rintro ⟨item, hitem, id, hid, rfl⟩
    exact ⟨item, hitem, rfl, hid⟩
  · rintro ⟨item, hitem, hservice, hid⟩
    exact ⟨item, hitem, pair.2, hid, by rw [hservice]⟩

/-- A response without ids names no reservation. -/
lemma ReserveResponse.reservations_eq_nil {response : ReserveResponse}
    (h : ∀ item ∈ response.results, item.reservationId = none) : response.reservations = [] := by
  refine List.filterMap_eq_nil_iff.mpr fun item hitem => ?_
  rw [h item hitem]
  rfl

/-- The reservations a stored response names. -/
def storedIds (stored : Option Json) : List (String × ℤ) :=
  stored.elim [] fun value =>
    match responseFromDict value with
    | .ok response => response.reservationIds
    | .error _ => []

@[simp] lemma storedIds_none : storedIds none = [] := rfl

@[simp] lemma storedIds_responseToDict (response : Response) :
    storedIds (some (responseToDict response)) = response.reservationIds := by
  simp [storedIds]

/-- The ids of a stored response that is read as one of a reserve. -/
lemma storedIds_of_storedReserve {stored : Option Json} {response : ReserveResponse}
    (h : storedReserve stored = some response) : storedIds stored = response.reservations := by
  cases stored with
  | none => cases h
  | some value =>
    simp only [storedReserve, Option.bind_some] at h
    simp only [storedIds, Option.elim_some]
    cases hread : responseFromDict value with
    | error error => simp [hread] at h
    | ok read =>
      rw [hread] at h
      cases read with
      | reserve found =>
        cases h
        rfl
      | evaluate found =>
        cases h
        rfl
      | _ => cases h

/-! ### Ids in histories and journals -/

/-- A QPM granted the reservation to the allocation. -/
def GrantedTo (history : List Event) (key : AllocationKey) (pair : String × ℤ) : Prop :=
  ∃ event ∈ history, Event.ReservesFor key event ∧ Event.granted event = some pair

lemma GrantedTo.mono {history more : List Event} {key : AllocationKey} {pair : String × ℤ}
    (h : GrantedTo history key pair) (hsub : history ⊆ more) : GrantedTo more key pair := by
  obtain ⟨event, hevent, hfor, hgranted⟩ := h
  exact ⟨event, hsub hevent, hfor, hgranted⟩

/-- The journal knows the allocation as one of the owner. -/
def OwnedBy (j : Journal) (key : AllocationKey) (owner : ℤ) : Prop :=
  ∃ row, j.allocation key = some row ∧ row.jobUid = owner

/-- An allocation has one owner. -/
lemma OwnedBy.unique {j : Journal} {key : AllocationKey} {owner other : ℤ}
    (h : OwnedBy j key owner) (h' : OwnedBy j key other) : owner = other := by
  obtain ⟨row, hrow, rfl⟩ := h
  obtain ⟨row', hrow', rfl⟩ := h'
  cases hrow.symm.trans hrow'
  rfl

/-- The journal names the reservation for the allocation: in a row, or in the stored response. -/
def Known (j : Journal) (key : AllocationKey) (pair : String × ℤ) : Prop :=
  (∃ row, j.reservation key pair.1 = some row ∧ row.reservationId = some pair.2) ∨
    ∃ row, j.allocation key = some row ∧ pair ∈ storedIds row.responseJson

/-! ### The effect of a request -/

section Effects

variable (j j' : Journal) (calls : List Event) (warrant : AllocationKey → ℤ → Prop)
  (operation : Option (OperationKey × String))

/-- The reservation is one of an allocation that the request has a warrant for. -/
def Entitled (pair : String × ℤ) : Prop :=
  ∃ key owner, warrant key owner ∧ OwnedBy j' key owner ∧
    (Known j key pair ∨ GrantedTo calls key pair)

/-- What a request does with reservation ids.  Its operation is given by its key and the fingerprint
of the request. -/
structure Effect (answered : List (String × ℤ)) : Prop where
  /-- Every allocation keeps its owner. -/
  owners : ∀ key owner, OwnedBy j key owner → OwnedBy j' key owner
  /-- What the journal knows for an allocation it knew before, or it was granted just now. -/
  known : ∀ key pair, Known j' key pair → Known j key pair ∨
    GrantedTo calls key pair ∧ ∃ owner, warrant key owner ∧ OwnedBy j' key owner
  /-- An operation whose stored response names reservations is an old one or that of the request. -/
  operations : ∀ key row, j'.operation key = some row → ∀ pair ∈ storedIds row.responseJson,
    j.operation key = some row ∨
      operation = some (key, row.fingerprint) ∧ Entitled j j' calls warrant pair
  /-- The answer names reservations of the request's own, or replays its operation. -/
  answers : ∀ pair ∈ answered, Entitled j j' calls warrant pair ∨
    ∃ key row, operation = some (key, row.fingerprint) ∧ j.operation key = some row ∧
      pair ∈ storedIds row.responseJson
  /-- Only reservations of the request's own are released. -/
  releases : ∀ s id, (s, some id) ∈ returned calls → Entitled j j' calls warrant (s, id)

end Effects

section Effects

variable {j j' : Journal} {calls : List Event} {warrant : AllocationKey → ℤ → Prop}
  {operation : Option (OperationKey × String)}

/-- A request that touches operations alone and releases nothing. -/
lemma Effect.of_sameRows {answered : List (String × ℤ)} (hsame : ∀ key, SameRows j j' key)
    (hcalls : returned calls = [])
    (hoperations : ∀ key row, j'.operation key = some row → ∀ pair ∈ storedIds row.responseJson,
      j.operation key = some row ∨
        operation = some (key, row.fingerprint) ∧ Entitled j j' calls warrant pair)
    (hanswers : ∀ pair ∈ answered, Entitled j j' calls warrant pair ∨
      ∃ key row, operation = some (key, row.fingerprint) ∧ j.operation key = some row ∧
        pair ∈ storedIds row.responseJson) :
    Effect j j' calls warrant operation answered where
  owners key owner howned := by
    obtain ⟨row, hrow, howner⟩ := howned
    exact ⟨row, by rw [(hsame key).allocation_eq, hrow], howner⟩
  known key pair hknown := by
    refine .inl ?_
    unfold Known at hknown ⊢
    rwa [(hsame key).allocation_eq, (hsame key).reservation_eq] at hknown
  operations := hoperations
  answers := hanswers
  releases s id hreturned := by
    rw [hcalls] at hreturned
    cases hreturned

/-- A request that changes nothing. -/
lemma Effect.of_eq {answered : List (String × ℤ)} (hcalls : returned calls = [])
    (hanswers : ∀ pair ∈ answered, Entitled j j calls warrant pair ∨
      ∃ key row, operation = some (key, row.fingerprint) ∧ j.operation key = some row ∧
        pair ∈ storedIds row.responseJson) : Effect j j calls warrant operation answered :=
  Effect.of_sameRows (SameRows.refl j) hcalls (fun _ _ hrow _ _ => .inl hrow) hanswers

/-- A request that writes its operation and is answered with what it writes. -/
lemma Effect.of_operation (operationKey : OperationKey) (row : OperationRow)
    (hsame : ∀ key, SameRows j j' key) (hcalls : returned calls = [])
    (hput : ∀ key, j'.operation key = if key = operationKey then some row else j.operation key)
    (hoperation : operation = some (operationKey, row.fingerprint))
    (hrow : ∀ pair ∈ storedIds row.responseJson, Entitled j j' calls warrant pair) :
    Effect j j' calls warrant operation (storedIds row.responseJson) := by
  refine Effect.of_sameRows hsame hcalls (fun key found hfound pair hpair => ?_)
    fun pair hpair => .inl (hrow pair hpair)
  rw [hput] at hfound
  split_ifs at hfound with hkey
  · subst hkey
    cases hfound
    exact .inr ⟨hoperation, hrow pair hpair⟩
  · exact .inl hfound

/-- A request that begins its operation and goes no further. -/
lemma Effect.begun (operationKey : OperationKey) (fingerprint : String) :
    Effect j (j.putOperation operationKey (begunRow fingerprint)) [] warrant
      (some (operationKey, fingerprint)) [] :=
  Effect.of_operation operationKey (begunRow fingerprint) (fun _ => ⟨rfl, fun _ => rfl⟩) rfl
    (fun _ => Journal.operation_putOperation _ _ _ _) rfl fun _ hpair => (nomatch hpair)

/-- A request that replaces the rows of its operation and its allocation, and writes reservation
rows of the allocation. -/
lemma Effect.of_updated (owner : ℤ) {answered : List (String × ℤ)} {operationKey : OperationKey}
    {row : OperationRow} {key : AllocationKey} {allocation : AllocationRow}
    {writes : List (String × ReservationRow)}
    (hj : Updated j operationKey row key allocation writes j') (hwarrant : warrant key owner)
    (howner : allocation.jobUid = owner)
    (hkept : ∀ old, j.allocation key = some old → old.jobUid = owner)
    (hoperation : operation = some (operationKey, row.fingerprint))
    (hrow : ∀ pair ∈ storedIds row.responseJson, Known j key pair ∨ GrantedTo calls key pair)
    (hallocation : ∀ pair ∈ storedIds allocation.responseJson,
      Known j key pair ∨ GrantedTo calls key pair)
    (hwrites : ∀ write ∈ writes, ∀ id, write.2.reservationId = some id →
      Known j key (write.1, id) ∨ GrantedTo calls key (write.1, id))
    (hanswers : ∀ pair ∈ answered, Known j key pair ∨ GrantedTo calls key pair)
    (hreturned : ∀ s id, (s, some id) ∈ returned calls →
      Known j key (s, id) ∨ GrantedTo calls key (s, id)) :
    Effect j j' calls warrant operation answered := by
  have howned : OwnedBy j' key owner := ⟨allocation, by rw [hj.allocation_eq, if_pos rfl], howner⟩
  have hentitled (pair : String × ℤ) (h : Known j key pair ∨ GrantedTo calls key pair) :
      Entitled j j' calls warrant pair := ⟨key, owner, hwarrant, howned, h⟩
  have hnew (pair : String × ℤ) (h : Known j key pair ∨ GrantedTo calls key pair) :
      Known j key pair ∨
        GrantedTo calls key pair ∧ ∃ owner, warrant key owner ∧ OwnedBy j' key owner :=
    h.imp_right fun hgranted => ⟨hgranted, owner, hwarrant, howned⟩
  refine ⟨fun k o h => ?_, fun k pair h => ?_, fun k found hfound pair hpair => ?_,
    fun pair hpair => .inl (hentitled pair (hanswers pair hpair)),
    fun s id h => hentitled (s, id) (hreturned s id h)⟩
  · obtain ⟨old, hold, rfl⟩ := h
    by_cases hk : k = key
    · subst hk
      rw [hkept old hold]
      exact howned
    · exact ⟨old, by rw [hj.allocation_eq, if_neg hk, hold], rfl⟩
  · by_cases hk : k = key
    · subst hk
      rcases h with ⟨found, hfound, hid⟩ | ⟨found, hfound, hpair⟩
      · rw [hj.reservation_eq, if_pos rfl] at hfound
        rcases Option.or_eq_some_iff.mp hfound with hwritten | ⟨-, hold⟩
        · exact hnew pair (hwrites _ (mem_of_written hwritten) pair.2 hid)
        · exact .inl (.inl ⟨found, hold, hid⟩)
      · rw [hj.allocation_eq, if_pos rfl] at hfound
        cases hfound
        exact hnew pair (hallocation pair hpair)
    · unfold Known at h
      rw [hj.reservation_eq, if_neg hk, hj.allocation_eq, if_neg hk] at h
      exact .inl h
  · rw [hj.operation_eq] at hfound
    split_ifs at hfound with hk
    · subst hk
      cases hfound
      exact .inr ⟨hoperation, hentitled pair (hrow pair hpair)⟩
    · exact .inl hfound

end Effects

/-! ### Attempts -/

section Attempts

variable {sha256 : Document → String} {request : ReserveRequest} {job : VerifiedJob}
  {fingerprint : String} {a : Attempt} {serviceIds : List String}

/-- The reservations granted in the calls of a request are granted to its allocation. -/
lemma grantedTo_of_calls {events : List Event} {key : AllocationKey} {pair : String × ℤ}
    (hkey : ∀ event ∈ events, ∀ binding other job answer,
      event = ⟨.call (.reserve binding other job), answer⟩ → other.key = key)
    (h : pair ∈ granted events) : GrantedTo (adapterCalls events) key pair := by
  obtain ⟨event, hevent, hgranted⟩ := List.mem_filterMap.mp h
  obtain ⟨t | c, answer⟩ := event
  · cases hgranted
  · cases c with
    | reserve binding other job =>
      exact ⟨_, List.mem_filter.mpr ⟨hevent, rfl⟩, hkey _ hevent _ _ _ _ rfl, hgranted⟩
    | _ => cases hgranted

/-- The reserve calls of a contact carry the request. -/
lemma Contact.reserve_eq {c : Contact} {serviceId : String} {event : Event}
    (hevent : event ∈ c.events request job fingerprint serviceId) {binding : QPMBinding}
    {other : ReserveRequest} {verified : VerifiedJob} {answer : Except AdapterFailure ReserveReply}
    (h : event = ⟨.call (.reserve binding other verified), answer⟩) : other = request := by
  subst h
  cases c <;> simp_all [Contact.events, recordEvent]

/-- The contact that ended an attempt writes no reservation id. -/
lemma Contact.reservationId_of_not_accepts {c : Contact} (hc : c.accepts = false)
    {serviceId : String} {write : String × ReservationRow}
    (hwrite : write ∈ c.writes fingerprint serviceId) : write.2.reservationId = none := by
  cases c with
  | answered qpm reply =>
    rcases List.mem_cons.mp hwrite with rfl | hwrite
    · rfl
    · rw [List.mem_singleton.mp hwrite]
      exact (Contact.row_of_not_accepts hc rfl).1
  | unanswered qpm failure =>
    rw [List.mem_singleton.mp hwrite]
    rfl
  | unrecorded qpm reply fault =>
    rw [List.mem_singleton.mp hwrite]
    rfl
  | _ => cases hwrite

/-- The grants of an attempt are grants to the allocation of its request. -/
lemma Attempt.grantedTo (hfor : a.For serviceIds) (hfaultless : a.Faultless) {g : Grant}
    (hg : g ∈ a.grants) :
    GrantedTo (adapterCalls (a.events sha256 request job fingerprint)) request.key g.pair := by
  refine grantedTo_of_calls (fun event hevent binding other verified answer h => ?_) ?_
  · rcases List.mem_append.mp hevent with hevent | hevent
    · obtain ⟨g, -, hevent⟩ := List.mem_flatMap.mp hevent
      rw [Contact.reserve_eq hevent h]
    · cases hstop : a.stop with
      | none =>
        rw [hstop] at hevent
        cases hevent
      | some stop =>
        rw [hstop] at hevent
        rcases List.mem_append.mp hevent with hevent | hevent
        · rw [Contact.reserve_eq hevent h]
        · subst h
          rcases List.mem_cons.mp hevent with hmark | hevent
          · cases hmark
          · obtain ⟨u, -, hevent⟩ := List.mem_flatMap.mp hevent
            simp [Undo.events, recordEvent] at hevent
  · rw [Attempt.granted_events sha256 request hfor hfaultless]
    exact List.mem_map_of_mem hg

/-- A row that an attempt writes with a reservation id is that of a grant. -/
lemma Attempt.grantedTo_of_mem_writes (hfor : a.For serviceIds) (hfaultless : a.Faultless)
    {write : String × ReservationRow}
    (hwrite : write ∈ a.writes sha256 request fingerprint) {id : ℤ}
    (hid : write.2.reservationId = some id) :
    GrantedTo (adapterCalls (a.events sha256 request job fingerprint)) request.key
      (write.1, id) := by
  have hgrantedTo {g : Grant} (hg : g ∈ a.grants) (hpair : g.pair = (write.1, id)) :
      GrantedTo (adapterCalls (a.events sha256 request job fingerprint)) request.key
        (write.1, id) := hpair ▸ Attempt.grantedTo hfor hfaultless hg
  rcases List.mem_append.mp hwrite with hwrite | hwrite
  · obtain ⟨g, hg, hwrite⟩ := List.mem_flatMap.mp hwrite
    rcases List.mem_cons.mp hwrite with rfl | hwrite
    · cases hid
    · cases List.mem_singleton.mp hwrite
      refine hgrantedTo hg ?_
      exact Prod.ext rfl (Option.some.inj (g.reservationId_eq.symm.trans hid))
  · cases hstop : a.stop with
    | none =>
      rw [hstop] at hwrite
      cases hwrite
    | some stop =>
      have hundos := Attempt.undos_eq hfor hfaultless hstop
      simp only [Attempt.For, hstop] at hfor
      rw [hstop] at hwrite
      rcases List.mem_append.mp hwrite with hwrite | hwrite
      · -- the service that ended the attempt granted nothing
        rw [Contact.reservationId_of_not_accepts hfor.2.1 hwrite] at hid
        cases hid
      · obtain ⟨u, hu, hwrite⟩ := List.mem_flatMap.mp hwrite
        have hgrant : u.grant ∈ a.grants.reverse := hundos ▸ List.mem_map_of_mem hu
        unfold Undo.writes at hwrite
        split at hwrite
        · cases List.mem_singleton.mp hwrite
          exact hgrantedTo (List.mem_reverse.mp hgrant) (Prod.ext rfl (Option.some.inj hid))
        · cases hwrite

/-- The reservations that a response of an attempt names are its grants. -/
lemma Attempt.grant_of_mem_result (request : ReserveRequest) (job : VerifiedJob)
    (fingerprint : String) (hfor : a.For serviceIds) {requestId : ℤ} {response : ReserveResponse}
    (hresult : a.result requestId = .ok response) {pair : String × ℤ}
    (hpair : pair ∈ response.reservations) : ∃ g ∈ a.grants, g.pair = pair := by
  cases hstop : a.stop with
  | none =>
    rw [Attempt.result, hstop] at hresult
    cases hresult
    obtain ⟨item, hitem, hservice, hid⟩ := ReserveResponse.mem_reservations.mp hpair
    obtain ⟨g, hg, rfl⟩ := List.mem_map.mp hitem
    exact ⟨g, hg, Prod.ext hservice (Option.some.inj (g.result_reservationId.symm.trans hid))⟩
  | some stop =>
    simp only [Attempt.For, hstop] at hfor
    rw [Attempt.result, hstop] at hresult
    have hitems := (Stop.result_ok request job fingerprint a.grants hfor.2.1 hresult).2
    rw [ReserveResponse.reservations_eq_nil fun item hitem => (hitems item hitem).1] at hpair
    cases hpair

/-- An attempt passes nothing but its grants to `adapter.release`. -/
lemma Attempt.grantedTo_of_mem_returned (hfor : a.For serviceIds) (hfaultless : a.Faultless)
    {s : String} {id : ℤ}
    (h : (s, some id) ∈ returned (adapterCalls (a.events sha256 request job fingerprint))) :
    GrantedTo (adapterCalls (a.events sha256 request job fingerprint)) request.key (s, id) := by
  rw [returned_adapterCalls, Attempt.returned_events] at h
  cases hstop : a.stop with
  | none =>
    rw [hstop] at h
    cases h
  | some stop =>
    rw [hstop, Option.elim_some, Attempt.undos_eq hfor hfaultless hstop] at h
    obtain ⟨g, hg, heq⟩ := List.mem_map.mp h
    cases heq
    exact Attempt.grantedTo hfor hfaultless (List.mem_reverse.mp hg)

end Attempts

/-! ### Reservation requests -/

section Reserving

variable {sha256 : Document → String} {request : ReserveRequest} {senderUid : ℤ} {j j' : Journal}
  {result : Except PyError ReserveResponse} {calls : List Event}
  {warrant : AllocationKey → ℤ → Prop}

/-- The reservations that a reserve request is answered with. -/
def resultIds : Except PyError ReserveResponse → List (String × ℤ)
  | .ok response => response.reservations
  | .error _ => []

lemma storedIds_failureJson (request : ReserveRequest) (error : PyError) :
    storedIds (some (failureJson request error)) = [] := by
  obtain ⟨response, hresponse⟩ := operationError_eq "reserve" request.requestId error
  rw [failureJson, hresponse, storedIds_responseToDict]
  rfl

/-- The operation of a reserve request stores what the request is answered with. -/
lemma storedIds_operationAfter (result : Except PyError ReserveResponse) :
    storedIds (operationAfter sha256 request result).responseJson = resultIds result := by
  cases result with
  | ok response => exact storedIds_responseToDict _
  | error error =>
    simp only [operationAfter, operationOutcome]
    split_ifs
    · rfl
    · exact storedIds_failureJson request error

/-- So does the allocation after a first attempt. -/
lemma storedIds_allocationAfter (result : Except PyError ReserveResponse) :
    storedIds (allocationAfter sha256 request result).responseJson = resultIds result := by
  cases result with
  | ok response => exact storedIds_responseToDict _
  | error error =>
    simp only [allocationAfter, allocationOutcome]
    split_ifs
    · rfl
    · exact storedIds_failureJson request error

/-- The allocation of an extension stores what the request is answered with, or what it stored
before. -/
lemma storedIds_extensionAfter (row : AllocationRow) (stored : Json)
    (result : Except PyError ReserveResponse) {pair : String × ℤ}
    (h : pair ∈ storedIds (extensionAfter sha256 request row stored result).responseJson) :
    pair ∈ resultIds result ∨ pair ∈ storedIds (some stored) := by
  cases result with
  | ok response =>
    simp only [extensionAfter] at h
    split_ifs at h
    · exact .inl (by rwa [storedIds_responseToDict] at h)
    · exact .inr h
  | error error => exact .inr h

/-- An extension leaves the owner alone. -/
lemma extensionAfter_jobUid (row : AllocationRow) (stored : Json)
    (result : Except PyError ReserveResponse) :
    (extensionAfter sha256 request row stored result).jobUid = row.jobUid := by
  cases result with
  | ok response =>
    simp only [extensionAfter]
    split_ifs <;> rfl
  | error error => rfl

/-- `accepted_allocation` returns the stored response of an allocation with the identity given. -/
lemma row_of_acceptedAllocation {key : AllocationKey} {jobUid jobGid : ℤ} {serviceIds : List String}
    {stored : Json}
    (h : j.acceptedAllocation key jobUid jobGid serviceIds = .ok (some stored)) :
    ∃ row, j.allocation key = some row ∧ row.jobUid = jobUid ∧ row.responseJson = some stored := by
  unfold Journal.acceptedAllocation at h
  cases hrow : j.allocation key with
  | none =>
    rw [hrow] at h
    cases h
  | some row =>
    rw [hrow] at h
    dsimp only at h
    split_ifs at h with hidentity hservices hstate
    · cases h
    · push Not at hidentity
      exact ⟨row, rfl, hidentity.1, Except.ok.inj h⟩

/-- The response of an extension names what the set named before and what was granted. -/
lemma mem_extensionResult {a : Attempt} {serviceIds : List String} (hfor : a.For serviceIds)
    {stored : Json} {previous : ReserveResponse}
    (hprevious : a.stop = none → storedReserve (some stored) = some previous) {pair : String × ℤ}
    (h : pair ∈ resultIds (extensionResult request previous (a.result request.requestId))) :
    pair ∈ storedIds (some stored) ∨ pair ∈ resultIds (a.result request.requestId) := by
  cases hresult : a.result request.requestId with
  | error error =>
    rw [hresult] at h
    cases h
  | ok response =>
    rw [hresult] at h
    simp only [extensionResult] at h
    split_ifs at h with hdecision
    · have hstop := (Attempt.accepted_iff hfor request.requestId).mp ⟨response, hresult, hdecision⟩
      obtain ⟨item, hitem, hpair⟩ := ReserveResponse.mem_reservations.mp h
      have hitem : item ∈ previous.results ++ response.results :=
        (List.mem_insertionSort _).mp hitem
      rcases List.mem_append.mp hitem with hitem | hitem
      · rw [storedIds_of_storedReserve (hprevious hstop)]
        exact .inl (ReserveResponse.mem_reservations.mpr ⟨item, hitem, hpair⟩)
      · exact .inr (ReserveResponse.mem_reservations.mpr ⟨item, hitem, hpair⟩)
    · exact .inr h

/-- The reservations an attempt names are granted to the allocation. -/
lemma Attempt.grantedTo_of_mem_result {a : Attempt} {serviceIds : List String}
    (hfor : a.For serviceIds) (hfaultless : a.Faultless) (job : VerifiedJob) {fingerprint : String}
    {pair : String × ℤ} (h : pair ∈ resultIds (a.result request.requestId)) :
    GrantedTo (adapterCalls (a.events sha256 request job fingerprint)) request.key pair := by
  cases hresult : a.result request.requestId with
  | error error =>
    rw [hresult] at h
    cases h
  | ok response =>
    rw [hresult] at h
    obtain ⟨g, hg, rfl⟩ := Attempt.grant_of_mem_result request job fingerprint hfor hresult h
    exact Attempt.grantedTo hfor hfaultless hg

/-- The effect of an attempt: what it writes and gives back was granted to it. -/
lemma Effect.of_attempt {a : Attempt} {serviceIds : List String} (hfor : a.For serviceIds)
    (hfaultless : a.Faultless) (job : VerifiedJob) {fingerprint : String}
    {operation : OperationRow} {allocation : AllocationRow} {answered : List (String × ℤ)}
    (hj : Updated j (request.reserveKey senderUid) operation request.key allocation
      (a.writes sha256 request fingerprint) j')
    (hwarrant : warrant request.key request.jobUid) (howner : allocation.jobUid = request.jobUid)
    (hkept : ∀ old, j.allocation request.key = some old → old.jobUid = request.jobUid)
    (hfingerprint : operation.fingerprint = request.fingerprint sha256)
    (hoperation : ∀ pair ∈ storedIds operation.responseJson, Known j request.key pair ∨
      GrantedTo (adapterCalls (a.events sha256 request job fingerprint)) request.key pair)
    (hallocation : ∀ pair ∈ storedIds allocation.responseJson, Known j request.key pair ∨
      GrantedTo (adapterCalls (a.events sha256 request job fingerprint)) request.key pair)
    (hanswers : ∀ pair ∈ answered, Known j request.key pair ∨
      GrantedTo (adapterCalls (a.events sha256 request job fingerprint)) request.key pair) :
    Effect j j' (adapterCalls (a.events sha256 request job fingerprint)) warrant
      (some (request.reserveKey senderUid, request.fingerprint sha256)) answered := by
  refine Effect.of_updated request.jobUid hj hwarrant howner hkept (by rw [hfingerprint])
    hoperation hallocation ?_ hanswers ?_
  · intro write hwrite id hid
    exact .inr (Attempt.grantedTo_of_mem_writes hfor hfaultless hwrite hid)
  · intro s id hs
    exact .inr (Attempt.grantedTo_of_mem_returned hfor hfaultless hs)

/-- A replay names what the operation stored, or what the allocation stores now. -/
lemma Replays.mem_resultIds {row : OperationRow} (h : Replays request j row result)
    {pair : String × ℤ} (hpair : pair ∈ resultIds result) :
    pair ∈ storedIds row.responseJson ∨ ∃ found, j.allocation request.key = some found ∧
      found.jobUid = request.jobUid ∧ pair ∈ storedIds found.responseJson := by
  cases h with
  | settled response hstate h hdecision =>
    rw [storedIds_of_storedReserve h]
    exact .inl hpair
  | gone response hstate h hdecision hallocation =>
    rw [storedIds_of_storedReserve h]
    exact .inl hpair
  | current response now stored hstate h hdecision hallocation hnow =>
    obtain ⟨found, hfound, howner, hstored⟩ := row_of_acceptedAllocation hallocation
    refine .inr ⟨found, hfound, howner, ?_⟩
    rw [hstored, storedIds_of_storedReserve hnow]
    exact hpair
  | _ => cases hpair

/-- The effect of a reserve request. -/
theorem Reserves.effect (h : Reserves sha256 request senderUid j result j' calls)
    (hwarrant : warrant request.key request.jobUid) :
    Effect j j' calls warrant
      (some (request.reserveKey senderUid, request.fingerprint sha256)) (resultIds result) := by
  -- the ids of an allocation that is the request's
  have hown {row : AllocationRow} {pair : String × ℤ} (hrow : j.allocation request.key = some row)
      (howner : row.jobUid = request.jobUid) (hpair : pair ∈ storedIds row.responseJson) :
      Entitled j j calls warrant pair :=
    ⟨request.key, request.jobUid, hwarrant, ⟨row, hrow, howner⟩, .inl (.inr ⟨row, hrow, hpair⟩)⟩
  cases h with
  | conflicting row hrow hne => exact Effect.of_eq rfl fun pair hpair => absurd hpair List.not_mem_nil
  | replayed row result hrow hfingerprint hstate h =>
    refine Effect.of_eq rfl fun pair hpair => ?_
    rcases h.mem_resultIds hpair with hstored | ⟨found, hfound, howner, hstored⟩
    · exact .inr ⟨_, row, by rw [hfingerprint], hrow, hstored⟩
    · exact .inl (hown hfound howner hstored)
  | refused error hbegin h => exact Effect.begun _ _
  | misread row stored error hbegin hplan h herror => exact Effect.begun _ _
  | reused row stored response hbegin hplan h =>
    obtain ⟨hrow, howner, hstored⟩ : j.allocation request.key = some row ∧
        row.jobUid = request.jobUid ∧ row.responseJson = some stored := by
      rcases hplan with ⟨hplan, -⟩ | hplan
      · exact ⟨hplan.allocation_eq, hplan.identity.1, hplan.response_eq⟩
      · exact ⟨hplan.allocation_eq, hplan.identity.1, hplan.response_eq⟩
    have hids : response.reservations = storedIds (some (responseToDict (.reserve
        { response with requestId := request.requestId }))) := by
      rw [storedIds_responseToDict]
      rfl
    change Effect _ _ _ _ _ response.reservations
    rw [hids]
    refine Effect.of_operation _ ⟨request.fingerprint sha256, .complete, some _⟩
      (fun _ => ⟨rfl, fun _ => rfl⟩) rfl (fun key => ?_) rfl fun pair hpair => ?_
    · rw [Journal.operation_putOperation, ReserveRequest.begun, Journal.operation_putOperation]
      split_ifs <;> rfl
    · refine hown hrow howner ?_
      rw [hstored, storedIds_of_storedReserve h, hids]
      exact hpair
  | attempted job a hbegin h hfor hfaultless j' hj =>
    apply Effect.of_attempt hfor hfaultless job hj hwarrant rfl
    · exact fun old hold => (h old hold).1.1
    · rfl
    · intro pair hpair
      rw [storedIds_operationAfter] at hpair
      exact .inr (Attempt.grantedTo_of_mem_result hfor hfaultless job hpair)
    · intro pair hpair
      rw [storedIds_allocationAfter] at hpair
      exact .inr (Attempt.grantedTo_of_mem_result hfor hfaultless job hpair)
    · exact fun pair hpair => .inr (Attempt.grantedTo_of_mem_result hfor hfaultless job hpair)
  | extended job a row stored previous hbegin h hmissing hprevious hfor hfaultless j' hj =>
    have hstored (pair : String × ℤ) (hpair : pair ∈ storedIds (some stored)) :
        Known j request.key pair := .inr ⟨row, h.allocation_eq, by rwa [h.response_eq]⟩
    have hresult (pair : String × ℤ) (hpair : pair ∈ resultIds (extensionResult request previous
        (a.result request.requestId))) : Known j request.key pair ∨ GrantedTo
          (adapterCalls (a.events sha256 request job (request.reservationFingerprint sha256)))
          request.key pair :=
      (mem_extensionResult hfor hprevious hpair).imp (hstored pair)
        (Attempt.grantedTo_of_mem_result hfor hfaultless job)
    apply Effect.of_attempt hfor hfaultless job hj hwarrant
    · rw [extensionAfter_jobUid, h.identity.1]
    · intro old hold
      cases h.allocation_eq.symm.trans hold
      exact h.identity.1
    · rfl
    · intro pair hpair
      rw [storedIds_operationAfter] at hpair
      exact hresult pair hpair
    · intro pair hpair
      rcases storedIds_extensionAfter row stored _ hpair with hpair | hpair
      · exact hresult pair hpair
      · exact .inl (hstored pair hpair)
    · exact hresult
  | stranded job a row stored error hbegin h hmissing hstop hprevious herror hfor j' hj =>
    have hfaultless : a.Faultless := by
      intro stop hstopped
      cases hstop.symm.trans hstopped
    apply Effect.of_attempt hfor hfaultless job hj hwarrant h.identity.1
    · intro old hold
      cases h.allocation_eq.symm.trans hold
      exact h.identity.1
    · rfl
    · exact fun _ hpair => absurd hpair List.not_mem_nil
    · exact fun pair hpair => .inl (.inr ⟨row, h.allocation_eq, hpair⟩)
    · exact fun _ hpair => absurd hpair List.not_mem_nil

end Reserving

/-! ### Release requests -/

section Releasing

variable {sha256 : Document → String} {request : ReleaseRequest} {senderUid : ℤ} {j j' : Journal}
  {key : AllocationKey} {visits : List Visit} {calls : List Event}
  {warrant : AllocationKey → ℤ → Prop}

/-- The reservations that a release request is answered with. -/
def releasedIds : Except PyError ReleaseResponse → List (String × ℤ)
  | .ok response => response.reservations
  | .error _ => []

/-- A visit is one of a reservation that the journal knows. -/
lemma Passes.known (h : Passes (j.reservations key) visits) {v : Visit} (hv : v ∈ visits) :
    ∃ id, v.record.reservationId = some id ∧ Known j key (v.record.serviceId, id) := by
  have hrecord : v.record ∈ (j.reservations key).filter (·.reservationId ≠ none) :=
    h.1 ▸ List.mem_map_of_mem hv
  obtain ⟨hin, hid⟩ := List.mem_filter.mp hrecord
  obtain ⟨id, hid⟩ := Option.ne_none_iff_exists'.mp (of_decide_eq_true hid)
  obtain ⟨row, hrow, heq⟩ := Journal.mem_reservations.mp hin
  have hsame : row.reservationId = v.record.reservationId := by
    rw [← heq]
    rfl
  exact ⟨id, hid, .inl ⟨row, hrow, hsame.trans hid⟩⟩

/-- The rows a pass writes are of reservations that the journal knows. -/
lemma Passes.known_of_mem_writes (h : Passes (j.reservations key) visits)
    {write : String × ReservationRow} (hwrite : write ∈ visits.flatMap Visit.writes) {id : ℤ}
    (hid : write.2.reservationId = some id) : Known j key (write.1, id) := by
  obtain ⟨v, hv, hwrite⟩ := List.mem_flatMap.mp hwrite
  obtain ⟨found, hfound, hknown⟩ := h.known hv
  unfold Visit.writes at hwrite
  split at hwrite
  · cases hwrite
  · cases List.mem_singleton.mp hwrite
    cases hfound.symm.trans hid
    exact hknown

/-- So are the reservations that the response of a pass names. -/
lemma Passes.known_of_mem_response (h : Passes (j.reservations key) visits) {pair : String × ℤ}
    (hpair : pair ∈ (request.response visits).reservations) : Known j key pair := by
  obtain ⟨item, hitem, rfl⟩ := List.mem_map.mp hpair
  obtain ⟨v, hv, rfl⟩ := List.mem_map.mp hitem
  obtain ⟨id, hid, hknown⟩ := h.known hv
  have hresult : v.result.serviceId = v.record.serviceId ∧ v.result.reservationId = id := by
    unfold Visit.result
    split <;> simp [hid]
  rw [hresult.1, hresult.2]
  exact hknown

/-- So are the reservations that a pass gives to `adapter.release`. -/
lemma Passes.known_of_mem_returned (h : Passes (j.reservations key) visits) {s : String} {id : ℤ}
    (hreturned : (s, some id) ∈ returned (visits.flatMap (Visit.calls · request))) :
    Known j key (s, id) := by
  obtain ⟨event, hevent, hreturned⟩ := List.mem_filterMap.mp hreturned
  obtain ⟨v, hv, hevent⟩ := List.mem_flatMap.mp hevent
  obtain ⟨found, hfound, hknown⟩ := h.known hv
  have hrecord : some (v.record.serviceId, some found) = some (s, some id) := by
    rw [← hreturned, ← hfound]
    unfold Visit.calls at hevent
    cases hd : v.disposal with
    | none =>
      rw [hd] at hevent
      cases hevent
    | some d =>
      rw [hd] at hevent
      cases d with
      | unresolved failure =>
        rw [List.mem_singleton.mp hevent] at hreturned
        cases hreturned
      | restarted qpm =>
        rw [List.mem_singleton.mp hevent] at hreturned
        cases hreturned
      | failed qpm failure =>
        rcases List.mem_cons.mp hevent with rfl | hevent
        · cases hreturned
        · rw [List.mem_singleton.mp hevent]
          rfl
      | answered qpm reply =>
        rcases List.mem_cons.mp hevent with rfl | hevent
        · cases hreturned
        · rw [List.mem_singleton.mp hevent]
          rfl
  cases hrecord
  exact hknown

/-- The effect of a release request, where the journal has an owner for every reservation. -/
theorem Releases.effect {result : Except PyError ReleaseResponse}
    (h : Releases sha256 request senderUid j result j' calls)
    (howned : ∀ pair, Known j request.key pair → ∃ owner, OwnedBy j request.key owner)
    (hwarrant : j.MayBegin (request.operationKey senderUid) (request.fingerprint sha256) →
      ∀ owner, OwnedBy j request.key owner → warrant request.key owner) :
    Effect j j' calls warrant
      (some (request.operationKey senderUid, request.fingerprint sha256)) (releasedIds result) := by
  cases h with
  | conflicting row hrow hne => exact Effect.of_eq rfl fun pair hpair => (nomatch hpair)
  | replayed row result hrow hfingerprint hstate h =>
    refine Effect.of_eq rfl fun pair hpair => ?_
    cases h with
    | stored value response hstate hvalue h =>
      refine .inr ⟨_, row, by rw [hfingerprint], hrow, ?_⟩
      rw [hvalue, storedIds, Option.elim_some, h]
      exact hpair
    | _ => cases hpair
  | unverified failure hbegin => exact Effect.begun _ _
  | unknown visits hbegin hpass hallocation j' hj =>
    -- no row has a reservation id, as the allocation has no owner
    have hnone : visits = [] := by
      refine List.eq_nil_iff_forall_not_mem.mpr fun v hv => ?_
      obtain ⟨id, -, hknown⟩ := hpass.known hv
      obtain ⟨owner, row, hrow, -⟩ := howned _ hknown
      cases hallocation.symm.trans hrow
    subst hnone hj
    exact Effect.begun _ _
  | released row visits hbegin hpass hallocation j' hj =>
    have hrow : OwnedBy j request.key row.jobUid := ⟨row, hallocation, rfl⟩
    have hresponse (pair : String × ℤ) (hpair : pair ∈ (request.response visits).reservations) :
        Known j request.key pair ∨
          GrantedTo (visits.flatMap (Visit.calls · request)) request.key pair :=
      .inl (hpass.known_of_mem_response hpair)
    refine Effect.of_updated row.jobUid hj (hwarrant hbegin _ hrow) rfl (fun old hold => ?_) rfl
      (fun pair hpair => hresponse pair ?_) (fun pair hpair => hresponse pair ?_) ?_ hresponse ?_
    · cases hallocation.symm.trans hold
      rfl
    · rwa [storedIds_responseToDict] at hpair
    · rwa [releasedRow, storedIds_responseToDict] at hpair
    · exact fun write hwrite id hid => .inl (hpass.known_of_mem_writes hwrite hid)
    · exact fun s id hs => .inl (hpass.known_of_mem_returned hs)

end Releasing

/-! ### Evaluations and lookups -/

section Reading

variable {sha256 : Document → String} {senderUid : ℤ} {j j' : Journal} {calls : List Event}
  {warrant : AllocationKey → ℤ → Prop}

/-- The reservations that an evaluate request is answered with. -/
def evaluatedIds : Except PyError EvaluateResponse → List (String × ℤ)
  | .ok response => response.reservations
  | .error _ => []

/-- An evaluation that returns found no reservation id. -/
lemma Estimates.reservationId_eq_none {request : ReserveRequest} {job : VerifiedJob}
    {serviceIds : List String} {outcome : Except PyError (List ServiceResult)}
    (h : Estimates request job serviceIds outcome calls) {results : List ServiceResult}
    (houtcome : outcome = .ok results) : ∀ item ∈ results, item.reservationId = none := by
  induction h generalizing results with
  | done =>
    cases houtcome
    exact fun item hitem => (nomatch hitem)
  | answered s rest qpm admission hnone outcome calls hrest ih =>
    cases houtcome' : outcome with
    | error error =>
      rw [houtcome'] at houtcome
      cases houtcome
    | ok others =>
      rw [houtcome'] at houtcome
      cases houtcome
      intro item hitem
      rcases List.mem_cons.mp hitem with rfl | hitem
      · exact hnone
      · exact ih houtcome' item hitem
  | _ => cases houtcome

/-- The effect of an evaluate request. -/
theorem Polls.effect {request : ReserveRequest} {job : VerifiedJob}
    {result : Except PyError EvaluateResponse}
    (h : Polls sha256 request senderUid job j result j' calls) :
    Effect j j' calls warrant
      (some (request.operationKey .evaluate senderUid, sha256 (.request request)))
      (evaluatedIds result) := by
  cases h with
  | conflicting row hrow hne => exact Effect.of_eq rfl fun pair hpair => (nomatch hpair)
  | replayed row result hrow hfingerprint hstate h =>
    refine Effect.of_eq rfl fun pair hpair => ?_
    cases h with
    | stored value response hstate hvalue h =>
      refine .inr ⟨_, row, by rw [hfingerprint], hrow, ?_⟩
      rw [hvalue, storedIds, Option.elim_some, h]
      exact hpair
    | _ => cases hpair
  | evaluated outcome calls hbegin h =>
    have hcalls := (projections_of_isEstimate h.isEstimate).2.2.1
    have hids : evaluatedIds (outcome.map (evaluateResponse request)) = [] := by
      cases outcome with
      | error error => rfl
      | ok results => exact ReserveResponse.reservations_eq_nil (h.reservationId_eq_none rfl)
    have hstored : storedIds (some
        (evaluationOutcome request (outcome.map (evaluateResponse request))).2) = [] := by
      cases outcome with
      | error error =>
        obtain ⟨response, hresponse⟩ := operationError_eq "evaluate" request.requestId error
        simp only [Except.map, evaluationOutcome, hresponse, storedIds_responseToDict]
        rfl
      | ok results =>
        simp only [Except.map, evaluationOutcome, storedIds_responseToDict]
        exact hids
    rw [hids, ← hstored]
    refine Effect.of_operation _ ⟨sha256 (.request request),
      (evaluationOutcome request (outcome.map (evaluateResponse request))).1,
      some (evaluationOutcome request (outcome.map (evaluateResponse request))).2⟩
      (fun _ => ⟨rfl, fun _ => rfl⟩) hcalls (fun key => ?_) rfl fun pair hpair => ?_
    · rw [Journal.operation_putOperation, Journal.operation_putOperation]
      split_ifs <;> rfl
    · rw [hstored] at hpair
      cases hpair

/-- The records a lookup reads are known for the allocation, and the allocation is the owner's. -/
lemma known_of_reservationContext {key : AllocationKey} {jobUid jobGid : ℤ}
    {records : List ReservationRecord}
    (h : j.reservationContext key jobUid jobGid = .ok records) :
    OwnedBy j key jobUid ∧ ∀ item ∈ records, ∀ id, item.reservationId = some id →
      Known j key (item.serviceId, id) := by
  unfold Journal.reservationContext at h
  cases hrow : j.allocation key with
  | none =>
    rw [hrow] at h
    cases h
  | some row =>
    rw [hrow] at h
    dsimp only at h
    split_ifs at h with hidentity
    push Not at hidentity
    refine ⟨⟨row, hrow, hidentity.1⟩, fun item hitem id hid => ?_⟩
    obtain ⟨hrecords, -, -⟩ := records_of_checkContext h
    rw [hrecords] at hitem
    obtain ⟨found, hfound, -, hsame⟩ := row_of_mem_reservations (List.mem_filter.mp hitem).1
    exact .inl ⟨found, hfound, hsame.trans hid⟩

end Reading

end QfwSlurm
