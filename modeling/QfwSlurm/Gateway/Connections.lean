import QfwSlurm.Gateway.Serializable
import QfwSlurm.Native.Network

/-!
# The service behind the server

Whatever arrives on the connections of a gateway, however often and in whatever order: what the
service processes are valid requests, each in a credential that a user whom the gateway accepts has
put it into, one after the other in the order of their connections (`connections_refine_steps`).
Connections without one are as if they had not been.  The event loop of the server serves the
connections side by side, and leaves the same rows (`connections_side_by_side`).
-/

namespace QfwSlurm

open Wire Native Interaction

/-- A request that the service processes, for a user and with a deadline. -/
structure Handled where
  request : Request
  valid : request.Valid
  senderUid : ℕ
  oracle : Oracle
  deadline : Option ℕ

/-- The journal after a request. -/
def Handled.next (sha256 : Document → String) (j : Journal) (handled : Handled) : Journal :=
  (handleWithin sha256 j handled.request handled.senderUid handled.oracle
    handled.deadline).2.state

/-- A request whose deadline does not pass, as a step of the gateway. -/
def Handled.step (handled : Handled) : Step :=
  .handle handled.request handled.valid handled.senderUid handled.oracle

/-- The request that a connection carries. -/
def Connection.handled (config : GatewayConfig) (connection : Connection) : Option Handled :=
  match authenticate config connection.munge connection.reader with
  | .error _ => none
  | .ok (identity, frame) =>
    match hdecode : decodeRequest frame with
    | .error _ => none
    | .ok (_, request) => some
      ⟨request, (decodeRequest_ok hdecode).1, identity.uid, connection.oracle, connection.deadline⟩

/-- The requests of a run. -/
def handledIn (config : GatewayConfig) :
    List (Occurrence Connection ℕ (List UInt8) (List UInt8)) → List Handled
  | [] => []
  | .issues _ :: run => handledIn config run
  | .connects connection :: run => (connection.handled config).toList ++ handledIn config run

section Connections

variable {sha256 : Document → String} {config : GatewayConfig} {j : Journal}
  {connection : Connection}

/-- The request that a connection carries was found in a frame. -/
lemma Connection.handled_eq_some {handled : Handled}
    (h : connection.handled config = some handled) :
    ∃ identity frame header, authenticate config connection.munge connection.reader =
        .ok (identity, frame) ∧ decodeRequest frame = .ok (header, handled.request) ∧
      handled.senderUid = identity.uid ∧ handled.deadline = connection.deadline := by
  unfold Connection.handled at h
  split at h
  · cases h
  next identity frame hopened =>
    split at h
    · cases h
    next header request hdecode =>
      obtain rfl := Option.some.inj h
      exact ⟨identity, frame, header, hopened, hdecode, rfl, rfl⟩

/-- The request is served in the surroundings of the connection. -/
lemma Connection.oracle_of_handled {handled : Handled}
    (h : connection.handled config = some handled) : handled.oracle = connection.oracle := by
  unfold Connection.handled at h
  split at h
  · cases h
  next identity frame hopened =>
    split at h
    · cases h
    next header request hdecode =>
      obtain rfl := Option.some.inj h
      rfl

/-- A connection leads to the journal that the request on it leads to. -/
lemma gatewayServe_state (sha256 : Document → String) (config : GatewayConfig) (j : Journal)
    (connection : Connection) : (gatewayServe sha256 config j connection).2 =
      after (Handled.next sha256) j (connection.handled config).toList := by
  rw [gatewayServe, client]
  unfold Connection.handled
  rcases authenticate config connection.munge connection.reader with
    dropped | ⟨identity, frame⟩
  · rfl
  dsimp only
  split
  next error herror =>
    split
    · rfl
    next header request hdecode => cases herror.symm.trans hdecode
  next header request hdecode =>
    split
    next error herror => cases herror.symm.trans hdecode
    next header' request' hdecode' =>
      obtain ⟨-, rfl⟩ := Prod.mk.inj (Except.ok.inj (hdecode.symm.trans hdecode'))
      rfl

end Connections

section Runs

variable {sha256 : Document → String} {config : GatewayConfig} {gatewayUid : ℕ} {j : Journal}
  {run : List (Occurrence Connection ℕ (List UInt8) (List UInt8))}

lemma mem_handledIn {handled : Handled} : handled ∈ handledIn config run ↔
    ∃ connection, .connects connection ∈ run ∧ connection.handled config = some handled := by
  induction run with
  | nil => simp [handledIn]
  | cons occurrence run ih =>
    cases occurrence with
    | issues credential => simp [handledIn, ih]
    | connects connection =>
      simp only [handledIn, List.mem_append, Option.mem_toList, ih,
        List.mem_cons, Occurrence.connects.injEq]
      constructor
      · rintro (hfirst | ⟨other, hother, hhandled⟩)
        · exact ⟨connection, .inl rfl, hfirst⟩
        · exact ⟨other, .inr hother, hhandled⟩
      · rintro ⟨other, rfl | hother, hhandled⟩
        · exact .inl hhandled
        · exact .inr ⟨other, hother, hhandled⟩

/-- The journal after a run is that of the requests in it. -/
lemma networkAfter_state (run : List (Occurrence Connection ℕ (List UInt8) (List UInt8)))
    (realm : Realm Journal ℕ (List UInt8) (List UInt8)) :
    (after (Realm.next gatewayUid (gatewayServe sha256 config)) realm run).state =
      after (Handled.next sha256) realm.state (handledIn config run) := by
  induction run generalizing realm with
  | nil => rfl
  | cons occurrence run ih =>
    rw [after_cons, ih]
    cases occurrence with
    | issues credential => rfl
    | connects connection =>
      rw [Realm.next, gatewayServe_state, handledIn, after_append]

/-- A request whose deadline does not pass leads to the journal of its step. -/
lemma Handled.next_eq {handled : Handled} (hdeadline : handled.deadline = none) (j : Journal) :
    handled.next sha256 j = handled.step.next sha256 j := by
  rw [Handled.next, hdeadline]
  rfl

/-- When no deadline passes, the requests of a run are a run of steps. -/
lemma networkAfter_steps (hdeadline : ∀ handled ∈ handledIn config run, handled.deadline = none) :
    (networkAfter sha256 config gatewayUid j run).state =
      journalAfter sha256 j ((handledIn config run).map Handled.step) := by
  rw [networkAfter, networkAfter_state]
  dsimp only
  revert hdeadline
  generalize handledIn config run = all
  intro hdeadline
  induction all generalizing j with
  | nil => rfl
  | cons handled all ih =>
    obtain ⟨hfirst, hrest⟩ := List.forall_mem_cons.mp hdeadline
    rw [List.map_cons, after_cons, Handled.next_eq hfirst]
    exact ih hrest

lemma handledIn_append
    (before rest : List (Occurrence Connection ℕ (List UInt8) (List UInt8))) :
    handledIn config (before ++ rest) = handledIn config before ++ handledIn config rest := by
  induction before with
  | nil => rfl
  | cons occurrence before ih =>
    cases occurrence with
    | issues credential => exact ih
    | connects connection => rw [List.cons_append, handledIn, handledIn, ih, List.append_assoc]

/-- A request of a run came on one of its connections. -/
lemma exists_connection_of_handledIn {done later : List Handled} {handled : Handled}
    (h : handledIn config run = done ++ handled :: later) :
    ∃ before connection rest, run = before ++ Occurrence.connects connection :: rest ∧
      connection.handled config = some handled ∧ handledIn config before = done := by
  induction run generalizing done with
  | nil => simp [handledIn] at h
  | cons occurrence run ih =>
    rcases occurrence with credential | connection
    · obtain ⟨before, connection, rest, rfl, hhandled, hdone⟩ := ih h
      exact ⟨.issues credential :: before, connection, rest, rfl, hhandled, hdone⟩
    rw [handledIn] at h
    rcases hfirst : connection.handled config with - | first
    · rw [hfirst] at h
      obtain ⟨before, other, rest, rfl, hhandled, hdone⟩ := ih h
      refine ⟨.connects connection :: before, other, rest, rfl, hhandled, ?_⟩
      rw [handledIn, hfirst]
      exact hdone
    · rw [hfirst] at h
      rcases done with - | ⟨second, done⟩
      · obtain ⟨rfl, -⟩ := List.cons.inj h
        exact ⟨[], connection, run, rfl, hfirst, rfl⟩
      · obtain ⟨rfl, hrest⟩ := List.cons.inj h
        obtain ⟨before, other, rest, rfl, hhandled, hdone⟩ := ih hrest
        refine ⟨.connects connection :: before, other, rest, rfl, hhandled, ?_⟩
        rw [handledIn, hfirst, hdone]
        rfl

/-- When no deadline passes, every journal on the way is reachable. -/
lemma reachable_networkAfter (hdeadline : ∀ handled ∈ handledIn config run, handled.deadline = none)
    {before rest : List (Occurrence Connection ℕ (List UInt8) (List UInt8))}
    (h : run = before ++ rest) :
    Reachable sha256 (networkAfter sha256 config gatewayUid Journal.empty before).state := by
  refine ⟨(handledIn config before).map Handled.step,
    (networkAfter_steps fun handled hmem => ?_).symm⟩
  rw [h, handledIn_append] at hdeadline
  exact hdeadline handled (List.mem_append_left _ hmem)

/-- Every request of a run was in a credential that an accepted user had issued before. -/
lemma issued_of_handled
    (hrun : Meets (Realm.next gatewayUid (gatewayServe sha256 config)) OpensIssued ⟨j, []⟩ run)
    {handled : Handled} (h : handled ∈ handledIn config run) :
    handled.senderUid ∈ config.acceptedUids ∧
      ∃ credential ∈ (networkAfter sha256 config gatewayUid j run).issued,
        credential.principal = handled.senderUid ∧
        ∃ header, decodeRequest credential.message = .ok (header, handled.request) := by
  obtain ⟨connection, hmem, hhandled⟩ := mem_handledIn.mp h
  obtain ⟨before, rest, rfl⟩ := List.append_of_mem hmem
  have hgenuine : Genuine (networkAfter sha256 config gatewayUid j before).issued
      connection.munge.opening := (Meets.rest _ hrun).1
  obtain ⟨identity, frame, header, hopened, hdecode, huid, -⟩ :=
    Connection.handled_eq_some hhandled
  obtain ⟨text, -, -, hmunge, haccepted, -⟩ := authenticate_eq_ok config hopened
  have hopening : connection.munge.opening text = some (identity.uid, frame) := by
    rw [Munge.opening, hmunge]
    rfl
  refine ⟨huid ▸ haccepted, ⟨identity.uid, frame, text⟩, ?_, huid.symm, header, hdecode⟩
  rw [networkAfter, after_append]
  exact Realm.issued_subset_after gatewayUid _ _ _ (hgenuine _ _ _ hopening)

/-- The event loop of `server.py` serves its connections side by side.  When its tasks are those of
the requests of a run that change the journal, have got their locks in the order of the connections
and have completed, the rows are those of the run. -/
theorem connections_side_by_side
    (hdeadline : ∀ handled ∈ handledIn config run, handled.deadline = none) {steps : ℕ → Step}
    {happenings : List (Happening AllocationKey)}
    {m : EventLoop Task AllocationKey Journal Query Answer (Except PyError Response)}
    (hkeys : ∀ i k key, (steps i).task.operationKey = some key →
      (steps k).task.operationKey = some key → (steps i).task.lockKey = (steps k).task.lockKey)
    (hloop : gatewayLoop sha256 steps (fun _ => noFaults) j happenings = some m)
    (hover : ∀ i ∈ servedOrder steps happenings, .cancel i ∉ happenings ∧
      (m.table.calls[i]?).map (·.stage) = some .over)
    (horder : (servedOrder steps happenings).map steps =
      ((handledIn config run).map Handled.step).filter fun step => !step.task.isLookup) :
    (∀ key, m.pool.state.operation key =
      (networkAfter sha256 config gatewayUid j run).state.operation key) ∧
    ∀ key, SameRows (networkAfter sha256 config gatewayUid j run).state m.pool.state key := by
  obtain ⟨hoperations, hrows, -⟩ := gatewayLoop_ends hkeys hloop hover
  rw [networkAfter_steps hdeadline]
  rw [horder, journalAfter_without_lookups] at hoperations hrows
  exact ⟨hoperations, hrows⟩

end Runs

/-- Whatever arrives on the connections of a gateway, its journal is that of the requests on them,
one after the other in this order; each is valid and was in a credential that an accepted user had
issued.  When no deadline passes, this is a run of steps of the service. -/
theorem connections_refine_steps (sha256 : Document → String) (config : GatewayConfig)
    (gatewayUid : ℕ) (j : Journal)
    (run : List (Occurrence Connection ℕ (List UInt8) (List UInt8)))
    (hrun : Meets (Realm.next gatewayUid (gatewayServe sha256 config)) OpensIssued ⟨j, []⟩ run) :
    (networkAfter sha256 config gatewayUid j run).state =
      after (Handled.next sha256) j (handledIn config run) ∧
    (∀ handled ∈ handledIn config run, handled.request.Valid ∧
      handled.senderUid ∈ config.acceptedUids ∧
      ∃ credential ∈ (networkAfter sha256 config gatewayUid j run).issued,
        credential.principal = handled.senderUid ∧
        ∃ header, decodeRequest credential.message = .ok (header, handled.request)) ∧
    ((∀ handled ∈ handledIn config run, handled.deadline = none) →
      (networkAfter sha256 config gatewayUid j run).state =
        journalAfter sha256 j ((handledIn config run).map Handled.step)) := by
  exact ⟨networkAfter_state run _, fun handled h => ⟨handled.valid, issued_of_handled hrun h⟩,
    networkAfter_steps⟩

/-- The request of a run is served for its sender, and is the only step. -/
theorem connections_refine_steps_sample :
    (networkAfter sampleDigest sampleGatewayConfig 991 Journal.empty sampleNetworkRun).state =
      after (Handled.next sampleDigest) Journal.empty
        (handledIn sampleGatewayConfig sampleNetworkRun) ∧
    (∃ handled ∈ handledIn sampleGatewayConfig sampleNetworkRun, handled.request.Valid ∧
      ∃ credential ∈ (networkAfter sampleDigest sampleGatewayConfig 991 Journal.empty
          sampleNetworkRun).issued, credential.principal = 990 ∧
        ∃ header, decodeRequest credential.message = .ok (header, handled.request)) ∧
    (networkAfter sampleDigest sampleGatewayConfig 991 Journal.empty sampleNetworkRun).state =
      journalAfter sampleDigest Journal.empty
        ((handledIn sampleGatewayConfig sampleNetworkRun).map Handled.step) := by
  have hrun : Meets (Realm.next 991 (gatewayServe sampleDigest sampleGatewayConfig)) OpensIssued
      ⟨Journal.empty, []⟩ sampleNetworkRun :=
    ⟨trivial, genuine_sampleMunge [sampleCredential] 991, trivial⟩
  have hsenders : (handledIn sampleGatewayConfig sampleNetworkRun).map
      (fun handled => (handled.senderUid, handled.deadline)) = [(990, none)] := by
    decide +kernel
  obtain ⟨handled, hhandled, hsender⟩ := List.map_eq_singleton_iff.mp hsenders
  obtain ⟨hstate, hissued, hsteps⟩ := connections_refine_steps sampleDigest sampleGatewayConfig 991
    Journal.empty sampleNetworkRun hrun
  have hmem : handled ∈ handledIn sampleGatewayConfig sampleNetworkRun :=
    hhandled ▸ List.mem_singleton_self handled
  obtain ⟨hvalid, -, credential, hcredential, hprincipal, hheader⟩ := hissued handled hmem
  refine ⟨hstate, ⟨handled, hmem, hvalid, credential, hcredential, ?_, hheader⟩,
    hsteps fun other hother => ?_⟩
  · rw [hprincipal]
    exact congrArg Prod.fst hsender
  · rw [hhandled] at hother
    rw [List.mem_singleton.mp hother]
    exact congrArg Prod.snd hsender

end QfwSlurm
