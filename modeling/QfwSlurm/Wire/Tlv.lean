import QfwSlurm.Wire.Bytes

/-!
# Type-length-value fields

A field is a type, flags and a value; it is written as an eight byte header followed by the value
and zero bytes up to a multiple of four.  A reader takes one field at a time from the front of a
byte string and may fail (`Reader`); `scan` runs it to the end of the string and hands every field
to a step function, as the decoders do in their loops.

A reader that `Accepts` a set of fields turns a scan over the concatenation of their encodings into
a fold over the list of fields (`scan_encodeAll`).  A reader that `Reads` a set of fields accepts
nothing else, so that its scans succeed on the encodings of such lists only (`scan_eq_ok_iff`).

What a list of fields says is, for each type, the values that occur with it (`occurrences`).  A
writer puts down the fields it has a value for in an order of its own.  Inserting fields of other
types, also inside fields whose values are fields in turn (`Extended`), leaves the occurrences of a
type as they are up to what was inserted into them, and permuting fields permutes them.
-/

namespace Wire

/-! ### Fields -/

/-- A field as a reader delivers it. -/
structure Tlv where
  type : ℕ
  flags : ℕ
  value : List UInt8
  deriving DecidableEq

/-- The size of a field's header. -/
def tlvHeaderSize : ℕ := 8

/-- The number of zero bytes after a value. -/
def padding (length : ℕ) : ℕ := (4 - length % 4) % 4

/-- The type and the flags fit two bytes each, the length of the value four. -/
structure Tlv.Fits (tlv : Tlv) : Prop where
  type : tlv.type < 256 ^ 2
  flags : tlv.flags < 256 ^ 2
  length : tlv.value.length < 256 ^ 4

/-- The bytes of a field. -/
def Tlv.encode (tlv : Tlv) : List UInt8 :=
  bigEndian 2 tlv.type ++ (bigEndian 2 tlv.flags ++ (bigEndian 4 tlv.value.length ++
    (tlv.value ++ List.replicate (padding tlv.value.length) 0)))

/-- The bytes of a list of fields. -/
def encodeAll (tlvs : List Tlv) : List UInt8 :=
  tlvs.flatMap Tlv.encode

@[simp] lemma encodeAll_nil : encodeAll [] = [] := rfl

@[simp] lemma encodeAll_cons (tlv : Tlv) (tlvs : List Tlv) :
    encodeAll (tlv :: tlvs) = tlv.encode ++ encodeAll tlvs := rfl

@[simp] lemma encodeAll_append (first second : List Tlv) :
    encodeAll (first ++ second) = encodeAll first ++ encodeAll second :=
  List.flatMap_append

/-- The size of a field on the wire. -/
lemma Tlv.length_encode (tlv : Tlv) :
    tlv.encode.length = tlvHeaderSize + tlv.value.length + padding tlv.value.length := by
  simp [Tlv.encode, tlvHeaderSize]
  omega

/-- A value is no longer than the bytes it is part of. -/
lemma length_value_le {tlvs : List Tlv} {tlv : Tlv} (h : tlv ∈ tlvs) :
    tlv.value.length ≤ (encodeAll tlvs).length := by
  obtain ⟨before, after, rfl⟩ := List.append_of_mem h
  rw [encodeAll_append, encodeAll_cons, List.length_append, List.length_append, Tlv.length_encode]
  omega

/-- Padding adds at most three bytes. -/
lemma padding_le (length : ℕ) : padding length ≤ 3 := by
  unfold padding
  omega

/-! ### Reading the parts of a field -/

section Parts

variable {tlv : Tlv} (rest : List UInt8)

/-- The type of a field that was written. -/
lemma Tlv.Fits.read_type (h : tlv.Fits) :
    ofBigEndian (slice 0 2 (tlv.encode ++ rest)) = tlv.type := by
  rw [Tlv.encode, List.append_assoc, slice_append_left (length_bigEndian _ _),
    ofBigEndian_bigEndian h.type]

/-- The flags of a field that was written. -/
lemma Tlv.Fits.read_flags (h : tlv.Fits) :
    ofBigEndian (slice 2 2 (tlv.encode ++ rest)) = tlv.flags := by
  rw [Tlv.encode, List.append_assoc, slice_append_right (by simp), length_bigEndian,
    List.append_assoc, slice_append_left (length_bigEndian _ _), ofBigEndian_bigEndian h.flags]

/-- The length of a field that was written. -/
lemma Tlv.Fits.read_length (h : tlv.Fits) :
    ofBigEndian (slice 4 4 (tlv.encode ++ rest)) = tlv.value.length := by
  rw [Tlv.encode, List.append_assoc, slice_append_right (by simp), length_bigEndian,
    List.append_assoc, slice_append_right (by simp), length_bigEndian,
    List.append_assoc, slice_append_left (length_bigEndian _ _), ofBigEndian_bigEndian h.length]

/-- What follows the header of a field that was written. -/
lemma Tlv.drop_encode (tlv : Tlv) :
    (tlv.encode ++ rest).drop tlvHeaderSize =
      tlv.value ++ (List.replicate (padding tlv.value.length) 0 ++ rest) := by
  have hheader : (bigEndian 2 tlv.type ++ (bigEndian 2 tlv.flags ++
      bigEndian 4 tlv.value.length)).length = tlvHeaderSize := by
    simp [tlvHeaderSize]
  rw [show tlv.encode ++ rest = (bigEndian 2 tlv.type ++ (bigEndian 2 tlv.flags ++
      bigEndian 4 tlv.value.length)) ++
        (tlv.value ++ (List.replicate (padding tlv.value.length) 0 ++ rest)) by
    simp [Tlv.encode]]
  exact List.drop_left' hheader

end Parts

/-! ### Scanning -/

/-- A reader of one field from the front of a byte string: the field and what follows it, or
`none` at the end of the string. -/
abbrev Reader (ε : Type) := List UInt8 → Except ε (Option (Tlv × List UInt8))

section Scanning

variable {ε σ : Type}

/-- Read fields up to the end and pass each to `step`.  Every field takes at least one byte, so
the length of the string bounds the number of rounds. -/
def scanFor (next : Reader ε) (step : σ → Tlv → Except ε σ) :
    ℕ → List UInt8 → σ → Except ε σ
  | 0, _, state => .ok state
  | fuel + 1, bytes, state =>
    match next bytes with
    | .error status => .error status
    | .ok none => .ok state
    | .ok (some (tlv, rest)) =>
      match step state tlv with
      | .error status => .error status
      | .ok state => scanFor next step fuel rest state

/-- The loop of a decoder over a whole byte string. -/
def scan (next : Reader ε) (step : σ → Tlv → Except ε σ) (bytes : List UInt8) (state : σ) :
    Except ε σ :=
  scanFor next step (bytes.length + 1) bytes state

/-- The reader ends at the end of the string and reads every field of `good` as it was written. -/
structure Accepts (next : Reader ε) (good : Tlv → Prop) : Prop where
  ends : next [] = .ok none
  reads : ∀ tlv rest, good tlv → next (tlv.encode ++ rest) = .ok (some (tlv, rest))

variable {next : Reader ε} {good : Tlv → Prop} (step : σ → Tlv → Except ε σ)

/-- With a round for every field and one for the end, a scan is a fold. -/
lemma Accepts.scanFor (h : Accepts next good) (tlvs : List Tlv) (hgood : ∀ tlv ∈ tlvs, good tlv)
    {fuel : ℕ} (hfuel : tlvs.length < fuel) (state : σ) :
    scanFor next step fuel (encodeAll tlvs) state = tlvs.foldlM step state := by
  induction tlvs generalizing fuel state with
  | nil =>
    obtain ⟨fuel, rfl⟩ := Nat.exists_eq_succ_of_ne_zero (Nat.ne_of_gt hfuel)
    simp [Wire.scanFor, h.ends, pure, Except.pure]
  | cons tlv tlvs ih =>
    obtain ⟨fuel, rfl⟩ := Nat.exists_eq_succ_of_ne_zero (Nat.ne_of_gt (Nat.zero_lt_of_lt hfuel))
    have hread := h.reads tlv (encodeAll tlvs) (hgood tlv List.mem_cons_self)
    rw [encodeAll_cons, Wire.scanFor, hread, List.foldlM_cons]
    cases hstep : step state tlv with
    | error status => simp [hstep, bind, Except.bind]
    | ok state' =>
      have hrest := ih (fun t ht => hgood t (List.mem_cons_of_mem _ ht))
        (Nat.lt_of_succ_lt_succ hfuel) state'
      simpa [hstep, bind, Except.bind] using hrest

/-- There are at most as many fields as bytes. -/
lemma length_le_encodeAll (tlvs : List Tlv) : tlvs.length ≤ (encodeAll tlvs).length := by
  induction tlvs with
  | nil => simp
  | cons tlv tlvs ih =>
    rw [encodeAll_cons, List.length_append, Tlv.length_encode, List.length_cons, tlvHeaderSize]
    omega

/-- A scan over encoded fields is a fold over the fields. -/
theorem scan_encodeAll (h : Accepts next good) (tlvs : List Tlv)
    (hgood : ∀ tlv ∈ tlvs, good tlv) (state : σ) :
    scan next step (encodeAll tlvs) state = tlvs.foldlM step state :=
  h.scanFor step tlvs hgood (Nat.lt_succ_of_le (length_le_encodeAll tlvs)) state

/-- The reader accepts the fields of `good` and reads nothing but such fields and the end. -/
structure Reads (next : Reader ε) (good : Tlv → Prop) : Prop extends Accepts next good where
  empty : ∀ {bytes}, next bytes = .ok none → bytes = []
  exact : ∀ {bytes tlv rest}, next bytes = .ok (some (tlv, rest)) →
    good tlv ∧ bytes = tlv.encode ++ rest

/-- A scan that ends well has read the whole string as fields. -/
lemma Reads.scanFor_eq_ok (h : Reads next good) {fuel : ℕ} {bytes : List UInt8} {state result : σ}
    (hfuel : bytes.length < fuel) (hscan : scanFor next step fuel bytes state = .ok result) :
    ∃ tlvs, (∀ tlv ∈ tlvs, good tlv) ∧ encodeAll tlvs = bytes ∧
      tlvs.foldlM step state = .ok result := by
  induction fuel generalizing bytes state with
  | zero => exact absurd hfuel (Nat.not_lt_zero _)
  | succ fuel ih =>
    rw [Wire.scanFor] at hscan
    split at hscan
    · exact (nomatch hscan)
    · next hend =>
      have hbytes := h.empty hend
      exact ⟨[], by simp, by simp [hbytes], hscan⟩
    · next tlv rest hread =>
      obtain ⟨hgood, rfl⟩ := h.exact hread
      split at hscan
      · exact (nomatch hscan)
      · next next' hstep =>
        rw [List.length_append, Tlv.length_encode, tlvHeaderSize] at hfuel
        obtain ⟨tlvs, hall, rfl, hfold⟩ := ih (by omega) hscan
        refine ⟨tlv :: tlvs, ?_, rfl, ?_⟩
        · exact List.forall_mem_cons.mpr ⟨hgood, hall⟩
        · rw [List.foldlM_cons, hstep]
          exact hfold

/-- The scans that end well are the folds over the fields that the string encodes. -/
theorem Reads.scan_eq_ok_iff (h : Reads next good) {bytes : List UInt8} {state result : σ} :
    scan next step bytes state = .ok result ↔
      ∃ tlvs, (∀ tlv ∈ tlvs, good tlv) ∧ encodeAll tlvs = bytes ∧
        tlvs.foldlM step state = .ok result := by
  constructor
  · exact h.scanFor_eq_ok step (Nat.lt_succ_self _)
  · rintro ⟨tlvs, hgood, rfl, hfold⟩
    rw [scan_encodeAll step h.toAccepts tlvs hgood, hfold]

/-- Scans whose rounds end well in the same way end well in the same way. -/
lemma Reads.scan_eq_ok_congr (h : Reads next good) {step step' : σ → Tlv → Except ε σ}
    (hstep : ∀ s tlv s', step s tlv = .ok s' ↔ step' s tlv = .ok s') {bytes : List UInt8}
    {state result : σ} :
    scan next step bytes state = .ok result ↔ scan next step' bytes state = .ok result := by
  have hfold (tlvs : List Tlv) (s : σ) :
      tlvs.foldlM step s = .ok result ↔ tlvs.foldlM step' s = .ok result := by
    induction tlvs generalizing s with
    | nil => exact Iff.rfl
    | cons tlv tlvs ih =>
      rw [List.foldlM_cons, List.foldlM_cons]
      have hright := hstep s tlv
      cases hfirst : step s tlv with
      | ok s' => rw [(hright s').mp hfirst]; exact ih s'
      | error e =>
        cases hsecond : step' s tlv with
        | ok s' => exact absurd ((hright s').mpr hsecond) (by simp [hfirst])
        | error e' => simp [bind, Except.bind]
  rw [h.scan_eq_ok_iff step, h.scan_eq_ok_iff step']
  simp only [hfold]

end Scanning

/-! ### What a list of fields says -/

/-- The values of the fields of one type, in order. -/
def occurrences (tlvs : List Tlv) (type : ℕ) : List (List UInt8) :=
  (tlvs.filter (·.type = type)).map Tlv.value

@[simp] lemma occurrences_nil (type : ℕ) : occurrences [] type = [] := rfl

lemma occurrences_cons (tlv : Tlv) (tlvs : List Tlv) (type : ℕ) :
    occurrences (tlv :: tlvs) type =
      if tlv.type = type then tlv.value :: occurrences tlvs type else occurrences tlvs type := by
  by_cases h : tlv.type = type <;> simp [occurrences, h]

@[simp] lemma occurrences_append (first second : List Tlv) (type : ℕ) :
    occurrences (first ++ second) type = occurrences first type ++ occurrences second type := by
  simp [occurrences]

/-- Permuting fields permutes the values of each type. -/
lemma occurrences_perm {first second : List Tlv} (h : first.Perm second) (type : ℕ) :
    (occurrences first type).Perm (occurrences second type) :=
  (h.filter _).map _

/-- A value occurs with a type when a field has both. -/
lemma mem_occurrences {tlvs : List Tlv} {type : ℕ} {value : List UInt8} :
    value ∈ occurrences tlvs type ↔ ∃ tlv ∈ tlvs, tlv.type = type ∧ tlv.value = value := by
  simp [occurrences, and_assoc]

/-- The second list is the first with fields of `extra` inserted, between its fields and inside
those fields of the types `container` whose values encode `good` fields. -/
inductive Extended (extra good : Tlv → Prop) (container : ℕ → Prop) : List Tlv → List Tlv → Prop
  | nil : Extended extra good container [] []
  | keep (tlv : Tlv) {first second : List Tlv} (h : Extended extra good container first second) :
      Extended extra good container (tlv :: first) (tlv :: second)
  | insert {tlv : Tlv} (hextra : extra tlv) {first second : List Tlv}
      (h : Extended extra good container first second) :
      Extended extra good container first (tlv :: second)
  | inside {tlv : Tlv} (htype : container tlv.type) {inner inner' : List Tlv}
      (hgood : ∀ field ∈ inner, good field) (hvalue : encodeAll inner = tlv.value)
      (hinner : Extended extra good container inner inner') {first second : List Tlv}
      (h : Extended extra good container first second) :
      Extended extra good container (tlv :: first)
        ({ tlv with value := encodeAll inner' } :: second)

section Extended

variable {extra good : Tlv → Prop} {container : ℕ → Prop} {first second : List Tlv}

/-- Nothing need be inserted. -/
lemma Extended.refl (tlvs : List Tlv) : Extended extra good container tlvs tlvs := by
  induction tlvs with
  | nil => exact .nil
  | cons tlv tlvs ih => exact .keep tlv ih

/-- Fields are only added. -/
lemma Extended.length_le (h : Extended extra good container first second) :
    (encodeAll first).length ≤ (encodeAll second).length := by
  induction h with
  | nil => exact le_rfl
  | keep tlv _ ih =>
    rw [encodeAll_cons, encodeAll_cons, List.length_append, List.length_append]
    omega
  | insert _ _ ih =>
    rw [encodeAll_cons, List.length_append]
    omega
  | @inside tlv _ inner inner' _ hvalue _ _ _ _ ihinner ih =>
    rw [encodeAll_cons, encodeAll_cons, List.length_append, List.length_append,
      Tlv.length_encode, Tlv.length_encode]
    rw [hvalue] at ihinner
    simp only [padding]
    omega

/-- The fields are as good as before, if inserted fields are good and the values of good fields may
be replaced. -/
lemma Extended.forall_good (h : Extended extra good container first second)
    (hextra : ∀ tlv, extra tlv → good tlv)
    (hreplace : ∀ tlv value, good tlv → value.length < 256 ^ 4 →
      good { tlv with value := value })
    (hgood : ∀ tlv ∈ first, good tlv) (hlength : (encodeAll second).length < 256 ^ 4) :
    ∀ tlv ∈ second, good tlv := by
  induction h with
  | nil => simp
  | keep tlv _ ih =>
    rw [encodeAll_cons, List.length_append] at hlength
    obtain ⟨hhead, htail⟩ := List.forall_mem_cons.mp hgood
    exact List.forall_mem_cons.mpr ⟨hhead, ih htail (by omega)⟩
  | insert htlv _ ih =>
    rw [encodeAll_cons, List.length_append] at hlength
    exact List.forall_mem_cons.mpr ⟨hextra _ htlv, ih hgood (by omega)⟩
  | inside _ _ _ _ _ _ ih =>
    rw [encodeAll_cons, List.length_append, Tlv.length_encode] at hlength
    obtain ⟨hhead, htail⟩ := List.forall_mem_cons.mp hgood
    exact List.forall_mem_cons.mpr ⟨hreplace _ _ hhead (by simp only at hlength; omega),
      ih htail (by omega)⟩

/-- The values of a type of which no field is inserted or a container are the same. -/
lemma Extended.occurrences_eq (h : Extended extra good container first second) {type : ℕ}
    (hextra : ∀ tlv, extra tlv → tlv.type ≠ type) (hcontainer : ¬ container type) :
    occurrences second type = occurrences first type := by
  induction h with
  | nil => rfl
  | keep tlv _ ih => rw [occurrences_cons, occurrences_cons, ih]
  | insert htlv _ ih => rw [occurrences_cons, if_neg (hextra _ htlv), ih]
  | @inside tlv htype _ _ _ _ _ _ _ _ _ ih =>
    have hne : tlv.type ≠ type := by
      rintro rfl
      exact hcontainer htype
    rw [occurrences_cons, occurrences_cons, if_neg hne, if_neg hne, ih]

/-- The values of two containers: the same, or one with fields inserted. -/
def ExtendedValue (extra good : Tlv → Prop) (container : ℕ → Prop) (value value' : List UInt8) :
    Prop :=
  value' = value ∨ ∃ inner inner', (∀ field ∈ inner, good field) ∧ encodeAll inner = value ∧
    encodeAll inner' = value' ∧ Extended extra good container inner inner'

/-- The values of a type of which no field is inserted are the same or have fields inserted. -/
lemma Extended.occurrences_forall₂ (h : Extended extra good container first second) {type : ℕ}
    (hextra : ∀ tlv, extra tlv → tlv.type ≠ type) :
    List.Forall₂ (ExtendedValue extra good container) (occurrences first type)
      (occurrences second type) := by
  induction h with
  | nil => exact .nil
  | keep tlv _ ih =>
    rw [occurrences_cons, occurrences_cons]
    by_cases htype : tlv.type = type
    · rw [if_pos htype, if_pos htype]
      exact .cons (.inl rfl) ih
    · rwa [if_neg htype, if_neg htype]
  | insert htlv _ ih => rwa [occurrences_cons, if_neg (hextra _ htlv)]
  | @inside tlv _ inner inner' hgood hvalue hinner _ _ _ _ ih =>
    rw [occurrences_cons, occurrences_cons]
    by_cases htype : tlv.type = type
    · rw [if_pos htype, if_pos htype]
      exact .cons (.inr ⟨inner, inner', hgood, hvalue, rfl, hinner⟩) ih
    · rwa [if_neg htype, if_neg htype]

end Extended

end Wire
