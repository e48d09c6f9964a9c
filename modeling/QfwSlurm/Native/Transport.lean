import QfwSlurm.Interaction.Transfer
import QfwSlurm.Native.Decode
import QfwSlurm.Wire.Delimited

/-!
# Credentials on a socket

`src/protocol/qsgp_io.c`: a credential is sent behind its length through a socket that does not
block, and received up to a limit.  The kernel may take and give any number of bytes at a time,
interrupt, wake up for nothing and fail, and the deadline may pass at any point.

However the two ends are served, and wherever the stream between them is cut off, what is received
is a first part of what was sent, each credential whole (`credentials_cross_intact`).
-/

namespace QfwSlurm.Native

open Wire Transfer

/-! ### The functions -/

/-- `QSGP_MAX_CREDENTIAL_SIZE` -/
def maxCredentialSize : ℕ := 512 * 1024

/-- A connected socket: the bytes that still arrive, those that were sent, and the kernel's
answers. -/
structure Socket where
  incoming : List UInt8 := []
  sent : List UInt8 := []
  rounds : List Round := []

/-- The status of a transfer that stopped. -/
def transferStatus : Failure → Status
  | .timeout => .timeout
  | .io => .io

/-- `qsgp_write_all` -/
def qsgpWriteAll (data : List UInt8) (socket : Socket) : Except Status Unit × Socket :=
  let pumped := pump socket.rounds data.length data
  (pumped.result.mapError transferStatus,
    { socket with sent := socket.sent ++ pumped.moved, rounds := pumped.left })

/-- `qsgp_read_exact` -/
def qsgpReadExact (size : ℕ) (socket : Socket) : Except Status (List UInt8) × Socket :=
  let pumped := pump socket.rounds size socket.incoming
  ((pumped.result.mapError transferStatus).map fun _ => pumped.moved,
    { socket with
      incoming := socket.incoming.drop pumped.moved.length
      rounds := pumped.left })

/-- `qsgp_send_credential` -/
def qsgpSendCredential (credential : List UInt8) (socket : Socket) : Except Status Unit × Socket :=
  if credential = [] ∨ maxCredentialSize < credential.length ∨ 2 ^ 32 - 1 < credential.length then
    (.error .invalid, socket)
  else
    match qsgpWriteAll (bigEndian 4 credential.length) socket with
    | (.error status, socket) => (.error status, socket)
    | (.ok (), socket) => qsgpWriteAll credential socket

/-- `qsgp_receive_credential`; `malloc` may fail. -/
def qsgpReceiveCredential (maximumSize : ℕ) (allocates : Bool) (socket : Socket) :
    Except Status (List UInt8) × Socket :=
  if maximumSize = 0 ∨ maxCredentialSize < maximumSize then (.error .invalid, socket)
  else
    match qsgpReadExact 4 socket with
    | (.error status, socket) => (.error status, socket)
    | (.ok encodedSize, socket) =>
      if ofBigEndian encodedSize = 0 ∨ maximumSize < ofBigEndian encodedSize then
        (.error .bounds, socket)
      else if allocates = false then (.error .nomem, socket)
      else qsgpReadExact (ofBigEndian encodedSize) socket

/-! ### What a call sends -/

/-- The sender takes the credential. -/
def Sendable (credential : List UInt8) : Prop :=
  credential ≠ [] ∧ credential.length ≤ maxCredentialSize

section Sending

variable (data credential : List UInt8) (socket : Socket)

/-- What `qsgp_write_all` sends is a first part of the data, and all of it if it succeeds. -/
lemma qsgpWriteAll_spec : ∃ piece, (qsgpWriteAll data socket).2.sent = socket.sent ++ piece ∧
    piece <+: data ∧ ((qsgpWriteAll data socket).1 = .ok () → piece = data) := by
  refine ⟨_, rfl, pump_prefix _ _ _, fun h => ?_⟩
  have hok : (pump socket.rounds data.length data).result = .ok () := by
    rw [qsgpWriteAll] at h
    cases hresult : (pump socket.rounds data.length data).result with
    | error failure =>
      rw [hresult] at h
      cases h
    | ok u => rfl
  rw [((pump_ok_iff _ _ _).mp hok).1, List.take_length]

/-- What `qsgp_send_credential` sends is a first part of the credential behind its length, and all
of it if it succeeds. -/
lemma qsgpSendCredential_spec :
    (Sendable credential ∨ (qsgpSendCredential credential socket).1 = .error .invalid ∧
      (qsgpSendCredential credential socket).2 = socket) ∧
    ∃ piece, (qsgpSendCredential credential socket).2.sent = socket.sent ++ piece ∧
      piece <+: delimited credential ∧
      ((qsgpSendCredential credential socket).1 = .ok () → piece = delimited credential) := by
  by_cases hinvalid : credential = [] ∨ maxCredentialSize < credential.length ∨
      2 ^ 32 - 1 < credential.length
  · rw [qsgpSendCredential, if_pos hinvalid]
    exact ⟨.inr ⟨rfl, rfl⟩, [], (List.append_nil _).symm, List.nil_prefix, by simp⟩
  obtain ⟨hne, hsize⟩ := not_or.mp hinvalid
  refine ⟨.inl ⟨hne, by omega⟩, ?_⟩
  obtain ⟨head, hhead, hheadprefix, hheadok⟩ :=
    qsgpWriteAll_spec (bigEndian 4 credential.length) socket
  rw [qsgpSendCredential, if_neg hinvalid]
  rcases hwrite : qsgpWriteAll (bigEndian 4 credential.length) socket with ⟨result, socket'⟩
  rw [hwrite] at hhead hheadok
  cases result with
  | error status =>
    exact ⟨head, hhead, hheadprefix.trans (List.prefix_append _ _), by simp⟩
  | ok u =>
    obtain ⟨body, hbody, hbodyprefix, hbodyok⟩ := qsgpWriteAll_spec credential socket'
    obtain rfl := hheadok rfl
    refine ⟨bigEndian 4 credential.length ++ body, ?_, ?_, fun hok => ?_⟩
    · rw [hbody, hhead, List.append_assoc]
    · exact (List.prefix_append_right_inj _).mpr hbodyprefix
    · rw [hbodyok hok, delimited]

end Sending

/-! ### What a call receives -/

section Receiving

variable {size maximumSize : ℕ} {allocates : Bool} {socket socket' : Socket}
  {bytes credential : List UInt8}

/-- What `qsgp_read_exact` returns is as much of the stream as is wanted. -/
lemma qsgpReadExact_ok (h : qsgpReadExact size socket = (.ok bytes, socket')) :
    size ≤ socket.incoming.length ∧ bytes = socket.incoming.take size ∧
      socket'.incoming = socket.incoming.drop size ∧ socket'.sent = socket.sent := by
  obtain ⟨hresult, rfl⟩ := Prod.mk.inj h
  have hok : (pump socket.rounds size socket.incoming).result = .ok () := by
    cases hpump : (pump socket.rounds size socket.incoming).result with
    | error failure =>
      rw [hpump] at hresult
      cases hresult
    | ok u => rfl
  obtain ⟨hmoved, hlength⟩ := (pump_ok_iff _ _ _).mp hok
  rw [hok] at hresult
  obtain rfl : (pump socket.rounds size socket.incoming).moved = bytes := Except.ok.inj hresult
  refine ⟨hlength, hmoved, ?_, rfl⟩
  dsimp only
  rw [hmoved, List.length_take, min_eq_left hlength]

/-- `qsgp_read_exact` fails as the transfer does. -/
lemma qsgpReadExact_error {status : Status} (h : (qsgpReadExact size socket).1 = .error status) :
    status = .timeout ∨ status = .io := by
  rw [qsgpReadExact] at h
  cases hpump : (pump socket.rounds size socket.incoming).result with
  | ok u =>
    rw [hpump] at h
    cases h
  | error failure =>
    rw [hpump] at h
    obtain rfl : transferStatus failure = status := Except.error.inj h
    cases failure <;> simp [transferStatus]

/-- The ways `qsgp_receive_credential` ends within a valid limit. -/
lemma qsgpReceiveCredential_cases (hmaximum : maximumSize ≠ 0)
    (hlimit : maximumSize ≤ maxCredentialSize) (allocates : Bool) (socket : Socket) :
    (∃ credential, (qsgpReceiveCredential maximumSize allocates socket).1 = .ok credential ∧
        (qsgpReceiveCredential maximumSize allocates socket).2.sent = socket.sent ∧
        nextDelimited maximumSize socket.incoming = some (credential,
          (qsgpReceiveCredential maximumSize allocates socket).2.incoming)) ∨
      ((qsgpReceiveCredential maximumSize allocates socket).1 = .error .timeout ∨
        (qsgpReceiveCredential maximumSize allocates socket).1 = .error .io) ∨
      ((qsgpReceiveCredential maximumSize allocates socket).1 = .error .nomem ∧
        allocates = false) ∨
      (qsgpReceiveCredential maximumSize allocates socket).1 = .error .bounds ∧
        4 ≤ socket.incoming.length ∧ (ofBigEndian (socket.incoming.take 4) = 0 ∨
          maximumSize < ofBigEndian (socket.incoming.take 4)) := by
  have hvalid : ¬ (maximumSize = 0 ∨ maxCredentialSize < maximumSize) := by omega
  rw [qsgpReceiveCredential, if_neg hvalid]
  rcases hread : qsgpReadExact 4 socket with ⟨status | encodedSize, socket'⟩
  · have hstatus := qsgpReadExact_error (congrArg Prod.fst hread)
    exact .inr (.inl (hstatus.imp (congrArg Except.error) (congrArg Except.error)))
  obtain ⟨hlong, rfl, hrest, hsent⟩ := qsgpReadExact_ok hread
  dsimp only
  split_ifs with hsize hallocates
  · exact .inr (.inr (.inr ⟨rfl, hlong, hsize⟩))
  · exact .inr (.inr (.inl ⟨rfl, hallocates⟩))
  rcases hbody : qsgpReadExact (ofBigEndian (socket.incoming.take 4)) socket' with
    ⟨status | credential, socket''⟩
  · have hstatus := qsgpReadExact_error (congrArg Prod.fst hbody)
    exact .inr (.inl (hstatus.imp (congrArg Except.error) (congrArg Except.error)))
  · obtain ⟨hthere, rfl, hrest', hsent'⟩ := qsgpReadExact_ok hbody
    refine .inl ⟨_, rfl, hsent'.trans hsent, ?_⟩
    rw [hrest] at hthere hrest' ⊢
    rw [nextDelimited, if_neg (not_lt.mpr hlong), if_neg hsize, if_neg (not_lt.mpr hthere), hrest']

/-- What `qsgp_receive_credential` returns is the next credential of the stream. -/
lemma qsgpReceiveCredential_ok
    (h : qsgpReceiveCredential maximumSize allocates socket = (.ok credential, socket')) :
    maximumSize ≤ maxCredentialSize ∧
      nextDelimited maximumSize socket.incoming = some (credential, socket'.incoming) := by
  by_cases hvalid : maximumSize = 0 ∨ maxCredentialSize < maximumSize
  · rw [qsgpReceiveCredential, if_pos hvalid] at h
    simp at h
  have hlimit : maximumSize ≤ maxCredentialSize := by omega
  rcases qsgpReceiveCredential_cases (fun hzero => hvalid (.inl hzero)) hlimit allocates socket with
    ⟨received, hok, -, hnext⟩ | (hstopped | hstopped) | ⟨hstopped, -⟩ | ⟨hstopped, -⟩
  all_goals rw [h] at *
  · obtain rfl := Except.ok.inj hok
    exact ⟨hlimit, hnext⟩
  all_goals simp at hstopped

end Receiving

/-! ### One credential after the other -/

/-- Send credentials, up to the first that fails. -/
def sendCredentials : List (List UInt8) → Socket → Except Status Unit × Socket
  | [], socket => (.ok (), socket)
  | credential :: credentials, socket =>
    match qsgpSendCredential credential socket with
    | (.error status, socket) => (.error status, socket)
    | (.ok (), socket) => sendCredentials credentials socket

/-- Receive credentials, up to the first that fails; `malloc` may fail each time. -/
def receiveCredentials (maximumSize : ℕ) : List Bool → Socket → List (List UInt8) × Socket
  | [], socket => ([], socket)
  | allocates :: more, socket =>
    match qsgpReceiveCredential maximumSize allocates socket with
    | (.error _, socket) => ([], socket)
    | (.ok credential, socket) =>
      (credential :: (receiveCredentials maximumSize more socket).1,
        (receiveCredentials maximumSize more socket).2)

/-- What is sent is a first part of the stream of a first part of the credentials. -/
lemma sendCredentials_spec (credentials : List (List UInt8)) (socket : Socket) :
    ∃ begun piece, (sendCredentials credentials socket).2.sent = socket.sent ++ piece ∧
      begun <+: credentials ∧ (∀ credential ∈ begun, Sendable credential) ∧
      piece <+: begun.flatMap delimited ∧
      ((sendCredentials credentials socket).1 = .ok () →
        begun = credentials ∧ piece = credentials.flatMap delimited) := by
  induction credentials generalizing socket with
  | nil => exact ⟨[], [], by simp [sendCredentials]⟩
  | cons credential credentials ih =>
    obtain ⟨hsendable, first, hfirst, hprefix, hok⟩ := qsgpSendCredential_spec credential socket
    rw [sendCredentials]
    rcases hsend : qsgpSendCredential credential socket with ⟨status | u, socket'⟩
    · rw [hsend] at hsendable hfirst
      rcases hsendable with hsendable | ⟨-, hsame⟩
      · refine ⟨[credential], first, hfirst, ⟨credentials, rfl⟩, by simpa using hsendable,
          by simpa using hprefix, by simp⟩
      · obtain rfl : socket' = socket := hsame
        exact ⟨[], [], by simp⟩
    · rw [hsend] at hsendable hfirst hok
      obtain rfl := hok rfl
      obtain ⟨begun, piece, hpiece, hbegun, hall, hcut, hdone⟩ := ih socket'
      refine ⟨credential :: begun, delimited credential ++ piece, ?_, ?_, ?_, ?_, fun h => ?_⟩
      · dsimp only at hpiece hfirst ⊢
        rw [hpiece, hfirst, List.append_assoc]
      · exact List.cons_prefix_cons.mpr ⟨rfl, hbegun⟩
      · exact List.forall_mem_cons.mpr ⟨hsendable.resolve_right (by simp), hall⟩
      · rw [List.flatMap_cons]
        exact (List.prefix_append_right_inj _).mpr hcut
      · obtain ⟨rfl, rfl⟩ := hdone h
        exact ⟨rfl, List.flatMap_cons.symm⟩

/-- What is received from a stream that was cut off somewhere is a first part of the credentials. -/
lemma receiveCredentials_isPrefix (maximumSize : ℕ) (allocations : List Bool)
    {credentials : List (List UInt8)} (hall : ∀ credential ∈ credentials, Sendable credential)
    {socket : Socket} (hstream : socket.incoming <+: credentials.flatMap delimited) :
    (receiveCredentials maximumSize allocations socket).1 <+: credentials := by
  induction allocations generalizing credentials socket with
  | nil => exact List.nil_prefix
  | cons allocates allocations ih =>
    rw [receiveCredentials]
    rcases hreceive : qsgpReceiveCredential maximumSize allocates socket with
      ⟨status | received, socket'⟩
    · exact List.nil_prefix
    obtain ⟨hlimit, hnext⟩ := qsgpReceiveCredential_ok hreceive
    have hsmall : maxCredentialSize < 256 ^ 4 := by decide
    cases credentials with
    | nil =>
      rw [List.flatMap_nil, List.prefix_nil] at hstream
      rw [hstream] at hnext
      cases hnext
    | cons credential credentials =>
      obtain ⟨hthis, hmore⟩ := List.forall_mem_cons.mp hall
      rw [List.flatMap_cons] at hstream
      obtain ⟨rfl, hrest⟩ := nextDelimited_of_prefix (by omega) (hthis.2.trans_lt hsmall) hstream
        hnext
      exact List.cons_prefix_cons.mpr ⟨rfl, ih hmore hrest⟩

/-! ### Sockets that are served -/

/-- No answer of the kernel breaks a call off, and enough of them move something to move the
bytes one by one. -/
def Socket.Serves (socket : Socket) (size : ℕ) : Prop :=
  (∀ round ∈ socket.rounds, round.Willing) ∧ size ≤ socket.rounds.countP (·.Moves)

section Served

variable {socket : Socket} {more maximumSize : ℕ}

/-- A write through a socket that is served succeeds. -/
lemma qsgpWriteAll_served {data : List UInt8} (h : socket.Serves (data.length + more)) :
    (qsgpWriteAll data socket).1 = .ok () ∧
      (qsgpWriteAll data socket).2.sent = socket.sent ++ data ∧
      (qsgpWriteAll data socket).2.Serves more := by
  obtain ⟨hresult, hwilling, hcount⟩ :=
    pump_of_willing h.1 ((Nat.le_add_right _ more).trans h.2) le_rfl
  have hmoved := ((pump_ok_iff _ _ _).mp hresult).1
  rw [List.take_length] at hmoved
  rw [qsgpWriteAll, hresult, hmoved]
  have hmore := h.2
  exact ⟨rfl, rfl, hwilling, by dsimp only; omega⟩

/-- So does a read, when the stream is long enough. -/
lemma qsgpReadExact_served {size : ℕ} (h : socket.Serves (size + more))
    (hlength : size ≤ socket.incoming.length) :
    (qsgpReadExact size socket).1 = .ok (socket.incoming.take size) ∧
      (qsgpReadExact size socket).2.incoming = socket.incoming.drop size ∧
      (qsgpReadExact size socket).2.Serves more := by
  obtain ⟨hresult, hwilling, hcount⟩ :=
    pump_of_willing h.1 ((Nat.le_add_right _ more).trans h.2) hlength
  have hmoved := ((pump_ok_iff _ _ _).mp hresult).1
  have hmore := h.2
  rw [qsgpReadExact, hresult, hmoved, List.length_take, min_eq_left hlength]
  exact ⟨rfl, rfl, hwilling, by dsimp only; omega⟩

/-- A credential is sent. -/
lemma qsgpSendCredential_served {credential : List UInt8} (hsendable : Sendable credential)
    (h : socket.Serves ((delimited credential).length + more)) :
    (qsgpSendCredential credential socket).1 = .ok () ∧
      (qsgpSendCredential credential socket).2.sent = socket.sent ++ delimited credential ∧
      (qsgpSendCredential credential socket).2.Serves more := by
  have hsmall : maxCredentialSize < 2 ^ 32 - 1 := by decide
  have hvalid : ¬ (credential = [] ∨ maxCredentialSize < credential.length ∨
      2 ^ 32 - 1 < credential.length) := by
    rintro (hempty | hlong | hlong)
    · exact hsendable.1 hempty
    · exact absurd hsendable.2 (by omega)
    · exact absurd hsendable.2 (by omega)
  rw [length_delimited, add_assoc] at h
  have hfirst : socket.Serves ((bigEndian 4 credential.length).length +
      (credential.length + more)) := by rwa [length_bigEndian]
  obtain ⟨hhead, hsent, hserves⟩ := qsgpWriteAll_served hfirst
  rw [qsgpSendCredential, if_neg hvalid]
  rcases hwrite : qsgpWriteAll (bigEndian 4 credential.length) socket with ⟨result, socket'⟩
  rw [hwrite] at hhead hsent hserves
  obtain rfl : result = .ok () := hhead
  obtain ⟨hbody, hsent', hserves'⟩ := qsgpWriteAll_served hserves
  refine ⟨hbody, ?_, hserves'⟩
  dsimp only at hsent
  rw [hsent', hsent, delimited, List.append_assoc]

/-- A credential is received. -/
lemma qsgpReceiveCredential_served {credential rest : List UInt8} (hne : credential ≠ [])
    (hlength : credential.length ≤ maximumSize) (hlimit : maximumSize ≤ maxCredentialSize)
    (hincoming : socket.incoming = delimited credential ++ rest)
    (h : socket.Serves ((delimited credential).length + more)) :
    (qsgpReceiveCredential maximumSize true socket).1 = .ok credential ∧
      (qsgpReceiveCredential maximumSize true socket).2.incoming = rest ∧
      (qsgpReceiveCredential maximumSize true socket).2.Serves more := by
  have hpos : 0 < credential.length := List.length_pos_iff.mpr hne
  have hsmall : maxCredentialSize < 256 ^ 4 := by decide
  have hvalid : ¬ (maximumSize = 0 ∨ maxCredentialSize < maximumSize) := by omega
  have hread : ofBigEndian (bigEndian 4 credential.length) = credential.length :=
    ofBigEndian_bigEndian (by omega)
  rw [length_delimited, add_assoc] at h
  obtain ⟨hhead, hrest, hserves⟩ := qsgpReadExact_served h (by
    rw [hincoming, List.length_append, length_delimited]
    omega)
  rw [hincoming, take_delimited] at hhead
  rw [hincoming, drop_delimited] at hrest
  rw [qsgpReceiveCredential, if_neg hvalid]
  rcases hfirst : qsgpReadExact 4 socket with ⟨result, socket'⟩
  rw [hfirst] at hhead hrest hserves
  obtain rfl : result = .ok (bigEndian 4 credential.length) := hhead
  dsimp only at hrest hserves ⊢
  rw [hread, if_neg (by omega), if_neg (by simp)]
  obtain ⟨hbody, hrest', hserves'⟩ := qsgpReadExact_served hserves (by rw [hrest]; simp)
  rw [hrest] at hbody hrest'
  rw [List.take_left] at hbody
  rw [List.drop_left] at hrest'
  exact ⟨hbody, hrest', hserves'⟩

/-- Credentials are sent. -/
lemma sendCredentials_served {credentials : List (List UInt8)}
    (hall : ∀ credential ∈ credentials, Sendable credential)
    (h : socket.Serves (credentials.flatMap delimited).length) :
    (sendCredentials credentials socket).1 = .ok () := by
  induction credentials generalizing socket with
  | nil => rfl
  | cons credential credentials ih =>
    obtain ⟨hthis, hmore⟩ := List.forall_mem_cons.mp hall
    rw [List.flatMap_cons, List.length_append] at h
    obtain ⟨hok, -, hserves⟩ := qsgpSendCredential_served hthis h
    rw [sendCredentials]
    rcases hsend : qsgpSendCredential credential socket with ⟨result, socket'⟩
    rw [hsend] at hok hserves
    obtain rfl : result = .ok () := hok
    exact ih hmore hserves

/-- Credentials are received. -/
lemma receiveCredentials_served {credentials : List (List UInt8)}
    (hall : ∀ credential ∈ credentials, credential ≠ [] ∧ credential.length ≤ maximumSize)
    (hlimit : maximumSize ≤ maxCredentialSize)
    (hincoming : socket.incoming = credentials.flatMap delimited)
    (h : socket.Serves (credentials.flatMap delimited).length) :
    (receiveCredentials maximumSize (List.replicate credentials.length true) socket).1 =
      credentials := by
  induction credentials generalizing socket with
  | nil => rfl
  | cons credential credentials ih =>
    obtain ⟨hthis, hmore⟩ := List.forall_mem_cons.mp hall
    rw [List.flatMap_cons] at hincoming
    rw [List.flatMap_cons, List.length_append] at h
    obtain ⟨hok, hrest, hserves⟩ :=
      qsgpReceiveCredential_served hthis.1 hthis.2 hlimit hincoming h
    rw [List.length_cons, List.replicate_succ, receiveCredentials]
    rcases hreceive : qsgpReceiveCredential maximumSize true socket with ⟨result, socket'⟩
    rw [hreceive] at hok hrest hserves
    obtain rfl : result = .ok credential := hok
    exact congrArg (credential :: ·) (ih hmore hrest hserves)

end Served

/-- Credentials are sent through a socket and received from another one, whatever the kernels
answer and wherever the stream between them is cut off: what is received is a first part of what was
sent, each credential whole.  When no answer breaks a call off, nothing is lost on the way and the
credentials are within the receiver's limit, all are sent and received. -/
theorem credentials_cross_intact (credentials : List (List UInt8)) (sender receiver : Socket)
    (maximumSize : ℕ) (allocations : List Bool) (hsent : sender.sent = [])
    (hstream : receiver.incoming <+: (sendCredentials credentials sender).2.sent) :
    (receiveCredentials maximumSize allocations receiver).1 <+: credentials ∧
    ((∀ credential ∈ credentials, credential ≠ [] ∧ credential.length ≤ maximumSize) →
      maximumSize ≤ maxCredentialSize →
      sender.Serves (credentials.flatMap delimited).length →
      receiver.Serves (credentials.flatMap delimited).length →
      receiver.incoming = (sendCredentials credentials sender).2.sent →
      allocations = List.replicate credentials.length true →
      (sendCredentials credentials sender).1 = .ok () ∧
        (receiveCredentials maximumSize allocations receiver).1 = credentials) := by
  obtain ⟨begun, piece, hpiece, hbegun, hall, hcut, hdone⟩ :=
    sendCredentials_spec credentials sender
  rw [hsent, List.nil_append] at hpiece
  rw [hpiece] at hstream ⊢
  refine ⟨(receiveCredentials_isPrefix maximumSize allocations hall (hstream.trans hcut)).trans
    hbegun, fun hsizes hlimit hsender hreceiver hincoming hallocations => ?_⟩
  have hok := sendCredentials_served (fun credential hmem =>
    ⟨(hsizes credential hmem).1, (hsizes credential hmem).2.trans hlimit⟩) hsender
  rw [hallocations]
  rw [(hdone hok).2] at hincoming
  exact ⟨hok, receiveCredentials_served hsizes hlimit hincoming hreceiver⟩

/-- Up to two bytes are moved at a time, with a spurious wake-up, an interrupt and a call to be
repeated before each. -/
def sampleSocket (incoming : List UInt8) : Socket where
  incoming := incoming
  rounds := (List.replicate 11 [⟨[.ready false true], .again⟩,
    ⟨[.interrupted, .ready false false, .ready false true], .moved 2⟩]).flatten

theorem credentials_cross_intact_sample :
    (receiveCredentials 4 [true, true] (sampleSocket
        (sendCredentials [[1], [2, 3]] (sampleSocket [])).2.sent)).1 = [[1], [2, 3]] :=
  ((credentials_cross_intact [[1], [2, 3]] (sampleSocket []) (sampleSocket
      (sendCredentials [[1], [2, 3]] (sampleSocket [])).2.sent) 4 [true, true] rfl
    (List.prefix_refl _)).2 (by decide) (by decide) ⟨by decide, by decide⟩ ⟨by decide, by decide⟩
      rfl rfl).2

end QfwSlurm.Native
