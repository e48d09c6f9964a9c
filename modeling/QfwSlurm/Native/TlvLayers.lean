import QfwSlurm.Native.Loops
import QfwSlurm.Wire.Cursor

/-!
# The two cursors over fields

`qsgp_cursor_next` and the generator `_tlvs` move an offset over the bytes of a payload.  Both are
written here with their reads; they do what the readers of the decoders do on the rest of the
payload, so they deliver the same fields, succeed on the same payloads and read nothing outside of
them.  The generator shows the field of a known type, and of an unknown type nothing but that it is
unknown.
-/

namespace QfwSlurm.Native

open Wire

/-- `qsgp_cursor_next` -/
def qsgpCursorNext (data : List UInt8) (offset : ℕ) : Advance Status Tlv :=
  if offset = data.length then .finished
  else if data.length < offset ∨ data.length - offset < tlvHeaderSize then .failed .bounds
  else
    match peek data offset 2, peek data (offset + 2) 2, peek data (offset + 4) 4 with
    | some type, some flags, some length =>
      let type := ofBigEndian type
      let flags := ofBigEndian flags
      let length := ofBigEndian length
      let offset := offset + tlvHeaderSize
      if sizeMax - padding length < length then .failed .bounds
      else if data.length - offset < length + padding length then .failed .bounds
      else
        match peek data offset length, peek data (offset + length) (padding length) with
        | some value, some zeros =>
          if zeros.any (· ≠ 0) then .failed .invalid
          else if flags &&& (2 ^ 32 - 1 - tlvRequired) ≠ 0 then .failed .invalid
          else if ¬ knownTlv type ∧ flags &&& tlvRequired ≠ 0 then .failed .version
          else .item ⟨type, flags, value⟩ (offset + (length + padding length))
        | _, _ => .stray
    | _, _, _ => .stray

/-- What `_tlvs` yields of a field. -/
@[reducible] def YieldedTlv : Type := Option Field × ℕ × List UInt8

/-- One round of `_tlvs`; a slice that Python would have to clamp counts as a read outside. -/
def tlvsNext (payload : List UInt8) (offset : ℕ) : Advance PyError YieldedTlv :=
  if offset < payload.length then
    if payload.length - offset < tlvHeaderSize then
      .failed (protocolError "truncated QSGP TLV header")
    else
      match peek payload offset 2, peek payload (offset + 2) 2, peek payload (offset + 4) 4 with
      | some rawType, some flags, some length =>
        let rawType := ofBigEndian rawType
        let flags := ofBigEndian flags
        let length := ofBigEndian length
        let offset := offset + tlvHeaderSize
        if flags &&& (2 ^ 16 - 1 - tlvRequired) ≠ 0 then
          .failed (protocolError "QSGP TLV flags are unsupported")
        else
          let stop := offset + length
          let paddedStop := stop + padding length
          if stop < offset ∨ payload.length < paddedStop then
            .failed (protocolError "truncated QSGP TLV value")
          else
            match peek payload offset length, peek payload stop (padding length) with
            | some value, some zeros =>
              if zeros.any (· ≠ 0) then .failed (protocolError "QSGP TLV padding must be zero")
              else
                match Field.ofCode rawType with
                | some field => .item (some field, flags, value) paddedStop
                | none =>
                  if flags &&& tlvRequired ≠ 0 then
                    .failed (protocolError "unknown required QSGP field")
                  else .item (none, flags, value) paddedStop
            | _, _ => .stray
      | _, _, _ => .stray
  else .finished

/-- A field as `_tlvs` yields it. -/
def yielded (tlv : Tlv) : YieldedTlv := (Field.ofCode tlv.type, tlv.flags, tlv.value)

/-! ### The reads -/

section Reads

variable {bytes : List UInt8} {offset width : ℕ}

lemma peek_eq_some (h : offset + width ≤ bytes.length) :
    peek bytes offset width = some (slice offset width bytes) := if_pos h

lemma slice_drop (start : ℕ) : slice start width (bytes.drop offset) =
    slice (offset + start) width bytes := by
  rw [slice, slice, List.drop_drop]

end Reads

/-- The parts of a field behind its header, and the offset behind the field. -/
lemma rest_parts {bytes : List UInt8} {offset length : ℕ} (hheader : 8 ≤ bytes.length - offset)
    (hroom : length + padding length ≤ bytes.length - (offset + tlvHeaderSize)) :
    ((bytes.drop offset).drop tlvHeaderSize).take length =
        slice (offset + tlvHeaderSize) length bytes ∧
      slice length (padding length) ((bytes.drop offset).drop tlvHeaderSize) =
        slice (offset + tlvHeaderSize + length) (padding length) bytes ∧
      bytes.length - (((bytes.drop offset).drop tlvHeaderSize).drop
        (length + padding length)).length = offset + tlvHeaderSize + (length + padding length) := by
  rw [List.drop_drop]
  refine ⟨rfl, slice_drop length, ?_⟩
  rw [List.length_drop, List.length_drop]
  rw [tlvHeaderSize] at hroom ⊢
  omega

/-- The C cursor does what the reader of the decoders does. -/
lemma tracks_qsgpCursorNext (data : List UInt8) :
    Tracks (qsgpCursorNext data) cursorNext id data := by
  intro offset hoffset
  have hlength : (data.drop offset).length = data.length - offset := List.length_drop
  unfold qsgpCursorNext cursorNext
  by_cases hend : offset = data.length
  · have hnil : data.drop offset = [] := List.drop_eq_nil_of_le hend.ge
    rw [if_pos hend, if_pos hnil]
  have hne : data.drop offset ≠ [] := by
    rw [← List.length_pos_iff, hlength]
    omega
  rw [if_neg hend, if_neg hne, hlength]
  by_cases hheader : data.length - offset < tlvHeaderSize
  · rw [if_pos (.inr hheader), if_pos hheader]
  rw [if_neg (not_or.mpr ⟨not_lt.mpr hoffset, hheader⟩), if_neg hheader]
  rw [tlvHeaderSize, not_lt] at hheader
  rw [peek_eq_some (by omega), peek_eq_some (by omega), peek_eq_some (by omega), slice_drop,
    slice_drop, slice_drop, Nat.add_zero]
  dsimp only
  generalize ofBigEndian (slice offset 2 data) = type
  generalize ofBigEndian (slice (offset + 2) 2 data) = flags
  generalize ofBigEndian (slice (offset + 4) 4 data) = length
  have hrest : ((data.drop offset).drop tlvHeaderSize).length =
      data.length - (offset + tlvHeaderSize) := by
    rw [List.drop_drop, List.length_drop]
  rw [hrest]
  by_cases hmax : sizeMax - padding length < length
  · rw [if_pos hmax, if_pos hmax]
  rw [if_neg hmax, if_neg hmax]
  by_cases hroom : data.length - (offset + tlvHeaderSize) < length + padding length
  · rw [if_pos hroom, if_pos hroom]
  rw [if_neg hroom, if_neg hroom]
  obtain ⟨hvalue, hzeros, hnext⟩ := rest_parts hheader (not_lt.mp hroom)
  rw [hvalue, hzeros, peek_eq_some (by omega), peek_eq_some (by omega)]
  dsimp only
  by_cases hpadding : (slice (offset + tlvHeaderSize + length) (padding length) data).any (· ≠ 0)
  · rw [if_pos hpadding, if_pos hpadding]
  rw [if_neg hpadding, if_neg hpadding]
  by_cases hflags : flags &&& (2 ^ 32 - 1 - tlvRequired) ≠ 0
  · rw [if_pos hflags, if_pos hflags]
  rw [if_neg hflags, if_neg hflags]
  by_cases hknown : ¬ knownTlv type ∧ flags &&& tlvRequired ≠ 0
  · rw [if_pos hknown, if_pos hknown]
  · rw [if_neg hknown, if_neg hknown]
    dsimp only
    rw [hnext]
    rfl

/-- The generator does what the reader of the decoders does. -/
lemma tracks_tlvsNext (payload : List UInt8) :
    Tracks (tlvsNext payload) tlvNext yielded payload := by
  intro offset hoffset
  have hlength : (payload.drop offset).length = payload.length - offset := List.length_drop
  unfold tlvsNext tlvNext
  by_cases hend : payload.length ≤ offset
  · have hnil : payload.drop offset = [] := List.drop_eq_nil_of_le hend
    rw [if_neg (not_lt.mpr hend), if_pos hnil]
  have hne : payload.drop offset ≠ [] := by
    rw [← List.length_pos_iff, hlength]
    omega
  rw [if_pos (not_le.mp hend), if_neg hne, hlength]
  by_cases hheader : payload.length - offset < tlvHeaderSize
  · rw [if_pos hheader, if_pos hheader]
  rw [if_neg hheader, if_neg hheader]
  rw [tlvHeaderSize, not_lt] at hheader
  rw [peek_eq_some (by omega), peek_eq_some (by omega), peek_eq_some (by omega), slice_drop,
    slice_drop, slice_drop, Nat.add_zero]
  dsimp only
  generalize ofBigEndian (slice offset 2 payload) = type
  generalize ofBigEndian (slice (offset + 2) 2 payload) = flags
  generalize ofBigEndian (slice (offset + 4) 4 payload) = length
  by_cases hflags : flags &&& (2 ^ 16 - 1 - tlvRequired) ≠ 0
  · rw [if_pos hflags, if_pos hflags]
  rw [if_neg hflags, if_neg hflags]
  have hrest : ((payload.drop offset).drop tlvHeaderSize).length =
      payload.length - (offset + tlvHeaderSize) := by
    rw [List.drop_drop, List.length_drop]
  rw [hrest]
  by_cases hroom : payload.length - (offset + tlvHeaderSize) < length + padding length
  · have hstop : offset + tlvHeaderSize + length < offset + tlvHeaderSize ∨
        payload.length < offset + tlvHeaderSize + length + padding length := by
      rw [tlvHeaderSize] at hroom ⊢
      omega
    rw [if_pos hroom, if_pos hstop]
  have hstop : ¬ (offset + tlvHeaderSize + length < offset + tlvHeaderSize ∨
      payload.length < offset + tlvHeaderSize + length + padding length) := by
    rw [tlvHeaderSize] at hroom ⊢
    omega
  rw [if_neg hroom, if_neg hstop]
  obtain ⟨hvalue, hzeros, hnext⟩ := rest_parts hheader (not_lt.mp hroom)
  rw [hvalue, hzeros, peek_eq_some (by omega), peek_eq_some (by omega)]
  dsimp only
  by_cases hpadding : (slice (offset + tlvHeaderSize + length) (padding length) payload).any (· ≠ 0)
  · rw [if_pos hpadding, if_pos hpadding]
  rw [if_neg hpadding, if_neg hpadding]
  rw [← Nat.add_assoc] at hnext
  rcases hfield : Field.ofCode type with _ | field
  · by_cases hrequired : flags &&& tlvRequired ≠ 0
    · have hunknown : (none : Option Field) = none ∧ flags &&& tlvRequired ≠ 0 := ⟨rfl, hrequired⟩
      rw [if_pos hunknown]
      exact if_pos hrequired
    · have hoptional : ¬ ((none : Option Field) = none ∧ flags &&& tlvRequired ≠ 0) :=
        fun h => hrequired h.2
      rw [if_neg hoptional]
      dsimp only
      rw [if_neg hrequired, hnext, yielded, hfield]
  · have hknown : ¬ (some field = none ∧ flags &&& tlvRequired ≠ 0) :=
      fun h => Option.some_ne_none field h.1
    rw [if_neg hknown]
    dsimp only
    rw [hnext, yielded, hfield]

/-! ### What both deliver -/

/-- The encoding of a field that is as the wire format asks for: the flags are zero or the required
bit, and zero where the type is unknown. -/
structure WellFormedTlv (tlv : Tlv) : Prop where
  fits : tlv.Fits
  flags : tlv.flags = 0 ∨ tlv.flags = 1
  unknown : ¬ knownTlv tlv.type = true → tlv.flags = 0

lemma readable_iff_wellFormed {tlv : Tlv} : Readable tlv ↔ WellFormedTlv tlv := by
  constructor
  · rintro ⟨hfits, hzero | ⟨hone, hknown⟩⟩
    · exact ⟨hfits, .inl hzero, fun _ => hzero⟩
    · exact ⟨hfits, .inr hone, fun hunknown => absurd hknown hunknown⟩
  · rintro ⟨hfits, hflags, hunknown⟩
    refine ⟨hfits, ?_⟩
    by_cases hknown : knownTlv tlv.type = true
    · exact hflags.imp_right fun h => ⟨h, hknown⟩
    · exact .inl (hunknown hknown)

/-- Both cursors end within the payload, on every payload: they deliver the well-formed fields at its
front, as many as there are, and succeed when nothing follows them.  The generator shows the types
it knows; a list of well-formed fields is determined by its bytes. -/
theorem tlv_layers_coincide (bytes : List UInt8) {rounds : ℕ} (hrounds : bytes.length < rounds) :
    ∃ tlvs : List Tlv, (∀ tlv ∈ tlvs, WellFormedTlv tlv) ∧
      (iterate (qsgpCursorNext bytes) rounds 0).1 = tlvs ∧
      (iterate (tlvsNext bytes) rounds 0).1 = tlvs.map yielded ∧
      encodeAll tlvs <+: bytes ∧
      (if encodeAll tlvs = bytes then
        (iterate (qsgpCursorNext bytes) rounds 0).2 = .finished ∧
          (iterate (tlvsNext bytes) rounds 0).2 = .finished
      else (∃ status, (iterate (qsgpCursorNext bytes) rounds 0).2 = .failed status) ∧
        ∃ error, (iterate (tlvsNext bytes) rounds 0).2 = .failed error) ∧
      ∀ others : List Tlv, (∀ tlv ∈ others, WellFormedTlv tlv) → encodeAll others = bytes →
        others = tlvs ∧ encodeAll tlvs = bytes := by
  have hlegible : Legible = Readable := funext fun tlv => propext readable_iff_legible.symm
  have hreads : Reads tlvNext Readable := hlegible ▸ reads_tlvNext
  have hbound : bytes.length < 0 + rounds := by omega
  obtain ⟨tlvs, rest, hparsed, hitems, hending⟩ :=
    (tracks_qsgpCursorNext bytes).iterate reads_cursorNext (Nat.zero_le _) hbound
  obtain ⟨others, remaining, hothers, hyielded, hpython⟩ :=
    (tracks_tlvsNext bytes).iterate hreads (Nat.zero_le _) hbound
  rw [List.drop_zero] at hparsed hothers
  obtain ⟨rfl, rfl⟩ := hothers.unique hreads hparsed
  have hall : encodeAll others = bytes ↔ remaining = [] := by
    rw [← hparsed.encoded, List.self_eq_append_right]
  refine ⟨others, fun tlv htlv => readable_iff_wellFormed.mp (hparsed.all tlv htlv), ?_, hyielded,
    ⟨remaining, hparsed.encoded⟩, ?_, fun written hgood hbytes => ?_⟩
  · rw [hitems, List.map_id]
  · by_cases hrest : remaining = []
    · rw [if_pos hrest] at hending hpython
      rw [if_pos (hall.mpr hrest)]
      exact ⟨hending, hpython⟩
    · rw [if_neg hrest] at hending hpython
      rw [if_neg fun h => hrest (hall.mp h)]
      exact ⟨hending, hpython⟩
  · have hwritten : Parsed Readable bytes written [] := by
      refine ⟨fun tlv htlv => readable_iff_wellFormed.mpr (hgood tlv htlv), ?_, fun tlv _ h => ?_⟩
      · rw [hbytes, List.append_nil]
      · have hlength := h.length_le
        rw [Tlv.length_encode, tlvHeaderSize, List.length_nil] at hlength
        omega
    obtain ⟨hsame, hrest⟩ := hwritten.unique hreads hparsed
    exact ⟨hsame, hall.mpr hrest.symm⟩

/-- A payload with two optional fields of unknown types. -/
theorem tlv_layers_coincide_sample :
    (iterate (qsgpCursorNext (encodeAll [⟨512, 0, [7]⟩, ⟨513, 0, []⟩])) 21 0).1 =
        [⟨512, 0, [7]⟩, ⟨513, 0, []⟩] ∧
      (iterate (tlvsNext (encodeAll [⟨512, 0, [7]⟩, ⟨513, 0, []⟩])) 21 0).1 =
        [(none, 0, [7]), (none, 0, [])] := by
  have hfields : ∀ tlv ∈ ([⟨512, 0, [7]⟩, ⟨513, 0, []⟩] : List Tlv), WellFormedTlv tlv := by
    simp only [List.forall_mem_cons, List.not_mem_nil, false_implies, implies_true, and_true]
    exact ⟨⟨⟨by decide, by decide, by decide⟩, by decide, by decide⟩,
      ⟨by decide, by decide, by decide⟩, by decide, by decide⟩
  obtain ⟨tlvs, -, hnative, hpython, -, -, honly⟩ :=
    tlv_layers_coincide (encodeAll [⟨512, 0, [7]⟩, ⟨513, 0, []⟩])
      (by decide : (encodeAll [⟨512, 0, [7]⟩, ⟨513, 0, []⟩]).length < 21)
  obtain ⟨rfl, -⟩ := honly _ hfields rfl
  exact ⟨hnative, hpython.trans rfl⟩

/-- The generator succeeds on fields of two unknown types and yields the same for both, without the
type, where the C cursor delivers the types. -/
theorem unknown_types_yielded_alike :
    (∀ type ∈ [512, 513], WellFormedTlv ⟨type, 0, []⟩) ∧
    (∀ type ∈ [512, 513], iterate (tlvsNext (encodeAll [⟨type, 0, []⟩])) 9 0 =
      ([(none, 0, [])], .finished)) ∧
    ∀ type ∈ [512, 513], iterate (qsgpCursorNext (encodeAll [⟨type, 0, []⟩])) 9 0 =
      ([⟨type, 0, []⟩], .finished) := by
  refine ⟨fun type htype => ⟨⟨?_, ?_, ?_⟩, .inl rfl, fun _ => rfl⟩, by decide +kernel,
    by decide +kernel⟩
  · revert type
    decide
  · exact (by decide : 0 < 256 ^ 2)
  · exact (by decide : 0 < 256 ^ 4)

end QfwSlurm.Native
