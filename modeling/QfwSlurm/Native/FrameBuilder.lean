import QfwSlurm.Native.Encode

/-!
# The memory of a frame builder

The builder of `src/protocol/qsgp_encode.c` with its memory: the allocated bytes, the size and the
capacity, the calls of `realloc` and the arithmetic of `size_t`.  A call can go wrong where the
growth loop does not end or a write misses the allocated bytes.  `Sound` is the invariant of the
operations; `operations_sound` says that they keep it, whatever the sizes are and whichever
allocations fail, and `contents_refines` that the builder of the encoders is this one as long as
memory is there.
-/

namespace QfwSlurm.Native.Memory

open Wire

/-! ### The builder -/

/-- `struct qsgp_builder`, with the bytes that `data` points to. -/
structure Builder where
  cells : List UInt8 := []
  size : ℕ := 0
  capacity : ℕ := 0

/-- What happens in the operations. -/
inductive Event where
  /-- A builder was initialised with this many zeros. -/
  | zeros (count : ℕ)
  /-- `qsgp_builder_add_raw` was called with these bytes. -/
  | raw (data : List UInt8) (written : Bool)
  /-- The builder was emptied, before it is initialised or behind its frame. -/
  | emptied
  /-- A sum of sizes or a doubled capacity, before it is reduced to a `size_t`. -/
  | computed (value : ℕ)
  deriving DecidableEq

/-- The builder, what has happened, and how often `realloc` has been called. -/
structure State where
  builder : Builder := {}
  log : List Event := []
  reallocs : ℕ := 0

/-- What must not happen. -/
inductive Fault where
  | endless
  | outside
  deriving DecidableEq

/-- An operation on a builder, with the status that it returns. -/
abbrev Call (α : Type) : Type := State → Except Fault (Except Status α × State)

def State.note (s : State) (event : Event) : State := { s with log := s.log ++ [event] }

/-- An operation behind another one, unless that one fails. -/
def Call.andThen {α : Type} (first : Call Unit) (next : Call α) : Call α := fun s =>
  match first s with
  | .error fault => .error fault
  | .ok (.error status, s) => .ok (.error status, s)
  | .ok (.ok (), s) => next s

/-- The values of a `size_t`. -/
def sizeModulus : ℕ := 2 ^ 64

/-- `QSGP_INITIAL_CAPACITY` -/
def initialCapacity : ℕ := 512

/-- The loop of `builder_reserve`: the capacity at its end, and the doubled capacities before they
are reduced.  The rounds are as many as a `size_t` has bits. -/
def grow (needed : ℕ) : (rounds capacity : ℕ) → Except Fault (ℕ × List ℕ)
  | 0, _ => .error .endless
  | rounds + 1, capacity =>
    if capacity < needed then
      if maxFrameSize / 2 < capacity then .ok (maxFrameSize, [])
      else
        match grow needed rounds (capacity * 2 % sizeModulus) with
        | .error fault => .error fault
        | .ok (last, doubled) => .ok (last, capacity * 2 :: doubled)
    else .ok (capacity, [])

/-- `memcpy` or `memset` into the allocated bytes. -/
def overwrite (cells : List UInt8) (offset : ℕ) (data : List UInt8) : Except Fault (List UInt8) :=
  if offset + data.length ≤ cells.length then
    .ok (cells.take offset ++ (data ++ cells.drop (offset + data.length)))
  else .error .outside

section Operations

-- What `realloc` returns: `none` for a null pointer, else the bytes that are new.
variable (heap : ℕ → Option (ℕ → UInt8))

/-- The end of `builder_reserve`. -/
def reallocate (capacity : ℕ) : Call Unit := fun s =>
  match heap s.reallocs with
  | none => .ok (.error .nomem, { s with reallocs := s.reallocs + 1 })
  | some fill =>
    let added := (List.range (capacity - s.builder.cells.length)).map fill
    .ok (.ok (), { s with
      builder := { s.builder with cells := s.builder.cells ++ added, capacity := capacity }
      reallocs := s.reallocs + 1 })

/-- `builder_reserve` -/
def builderReserve (additional : ℕ) : Call Unit := fun s =>
  if maxFrameSize < additional ∨ maxFrameSize - additional < s.builder.size then
    .ok (.error .bounds, s)
  else
    let s := s.note (.computed (s.builder.size + additional))
    let needed := (s.builder.size + additional) % sizeModulus
    if needed ≤ s.builder.capacity then .ok (.ok (), s)
    else
      let capacity := if s.builder.capacity = 0 then initialCapacity else s.builder.capacity
      match grow needed 64 capacity with
      | .error fault => .error fault
      | .ok (last, doubled) =>
        reallocate heap last { s with log := s.log ++ doubled.map .computed }

/-- `qsgp_builder_init` -/
def builderInit (initialSize : ℕ) : Call Unit := fun s =>
  if maxFrameSize < initialSize then .ok (.error .invalid, s)
  else
    (builderReserve heap initialSize).andThen (fun s =>
      match overwrite s.builder.cells 0 (List.replicate initialSize 0) with
      | .error fault => .error fault
      | .ok cells =>
        .ok (.ok (), { s with builder := { s.builder with cells := cells, size := initialSize } }
          |>.note (.zeros initialSize))) ({ s with builder := {} }.note .emptied)

/-- `qsgp_builder_add_raw` -/
def builderAddRaw (data : List UInt8) : Call Unit := fun s =>
  match builderReserve heap data.length s with
  | .error fault => .error fault
  | .ok (.error status, s) => .ok (.error status, s.note (.raw data false))
  | .ok (.ok (), s) =>
    match overwrite s.builder.cells s.builder.size data with
    | .error fault => .error fault
    | .ok cells =>
      let s := s.note (.computed (s.builder.size + data.length))
      .ok (.ok (), { s with builder := { s.builder with
        cells := cells, size := (s.builder.size + data.length) % sizeModulus } }
          |>.note (.raw data true))

/-- `qsgp_builder_add_tlv` -/
def builderAddTlv (type flags : ℕ) (value : List UInt8) : Call Unit := fun s =>
  if uint32Max < value.length then .ok (.error .invalid, s)
  else
    (builderAddRaw heap (bigEndian 2 type ++ bigEndian 2 flags ++
        bigEndian 4 value.length)).andThen ((builderAddRaw heap value).andThen
      (builderAddRaw heap (List.replicate (padding value.length) 0))) s

/-- `qsgp_builder_add_u32` -/
def builderAddU32 (type value : ℕ) : Call Unit :=
  builderAddTlv heap type tlvRequired (bigEndian 4 value)

/-- `qsgp_builder_add_u64` -/
def builderAddU64 (type value : ℕ) : Call Unit :=
  builderAddTlv heap type tlvRequired (bigEndian 8 value)

/-- `qsgp_builder_add_string` -/
def builderAddString (type : ℕ) (value : List UInt8) (maximumSize : ℕ) : Call Unit := fun s =>
  let length := boundedStrlen value maximumSize
  if length = 0 ∨ maximumSize < length then .ok (.error .invalid, s)
  else builderAddTlv heap type tlvRequired (value.take length) s

/-- The header that `qsgp_builder_finish` writes. -/
def frameHeader (messageType correlationId payloadSize : ℕ) : List UInt8 :=
  magic ++ (bigEndian 2 versionMajor ++ (bigEndian 2 versionMinor ++ (bigEndian 2 messageType ++
    (bigEndian 2 0 ++ (bigEndian 4 headerSize ++ (bigEndian 8 correlationId ++
      (bigEndian 4 payloadSize ++ bigEndian 4 0)))))))

/-- `qsgp_builder_finish`, with the bytes of the frame. -/
def builderFinish (messageType correlationId : ℕ) : Call (List UInt8) := fun s =>
  if correlationId = 0 ∨ s.builder.size < headerSize then .ok (.error .invalid, s)
  else
    let payloadSize := s.builder.size - headerSize
    if uint32Max < payloadSize then .ok (.error .bounds, s)
    else
      match overwrite s.builder.cells 0 (frameHeader messageType correlationId payloadSize) with
      | .error fault => .error fault
      | .ok cells =>
        .ok (.ok (cells.take s.builder.size), { s with builder := {} }.note .emptied)

/-- The operations of a builder. -/
inductive Operation where
  | init (initialSize : ℕ)
  | addRaw (data : List UInt8)
  | addTlv (type flags : ℕ) (value : List UInt8)
  | addU32 (type value : ℕ)
  | addU64 (type value : ℕ)
  | addString (type : ℕ) (value : List UInt8) (maximumSize : ℕ)
  | finish (messageType correlationId : ℕ)

/-- The frame of a call that makes none. -/
def Call.noFrame (call : Call Unit) : Call (Option (List UInt8)) := fun s =>
  (call s).map fun result => (result.1.map fun _ => none, result.2)

/-- A call of an operation. -/
def Operation.call : Operation → Call (Option (List UInt8))
  | init initialSize => (builderInit heap initialSize).noFrame
  | addRaw data => (builderAddRaw heap data).noFrame
  | addTlv type flags value => (builderAddTlv heap type flags value).noFrame
  | addU32 type value => (builderAddU32 heap type value).noFrame
  | addU64 type value => (builderAddU64 heap type value).noFrame
  | addString type value maximumSize => (builderAddString heap type value maximumSize).noFrame
  | finish messageType correlationId => fun s =>
    (builderFinish messageType correlationId s).map fun result => (result.1.map some, result.2)

/-- The operations one after the other.  There is no builder, `none`, until `qsgp_builder_init` is
called with a size that it takes. -/
def run : List Operation → Option State → Except Fault (Option State)
  | [], s => .ok s
  | operation :: operations, some s =>
    match operation.call heap s with
    | .error fault => .error fault
    | .ok (_, s) => run operations (some s)
  | .init initialSize :: operations, none =>
    if maxFrameSize < initialSize then run operations none
    else
      match builderInit heap initialSize {} with
      | .error fault => .error fault
      | .ok (_, s) => run operations (some s)
  | _ :: operations, none => run operations none

end Operations

/-- What the raw writes have put into the builder: the initial zeros and the bytes of those that
succeeded. -/
def contents (log : List Event) : List UInt8 :=
  log.foldl (fun bytes event => match event with
    | .zeros count => List.replicate count 0
    | .raw data true => bytes ++ data
    | .raw _ false | .computed _ => bytes
    | .emptied => []) []

lemma contents_append (log : List Event) (event : Event) : contents (log ++ [event]) =
    match event with
    | .zeros count => List.replicate count 0
    | .raw data true => contents log ++ data
    | .raw _ false | .computed _ => contents log
    | .emptied => [] := by
  rw [contents, List.foldl_append]
  rfl

/-! ### Growth -/

/-- The loop ends within its rounds with a capacity that is large enough and within the limit, as
are the doubled capacities. -/
lemma grow_spec {needed : ℕ} (hneeded : needed ≤ maxFrameSize) {rounds capacity : ℕ}
    (hcapacity : capacity ≤ maxFrameSize) (hrounds : maxFrameSize < capacity * 2 ^ rounds) :
    ∃ last doubled, grow needed rounds capacity = .ok (last, doubled) ∧ needed ≤ last ∧
      capacity ≤ last ∧ last ≤ maxFrameSize ∧ ∀ value ∈ doubled, value ≤ maxFrameSize := by
  induction rounds generalizing capacity with
  | zero => omega
  | succ rounds ih =>
    rw [grow]
    by_cases hsmall : capacity < needed
    · rw [if_pos hsmall]
      by_cases hhalf : maxFrameSize / 2 < capacity
      · rw [if_pos hhalf]
        exact ⟨maxFrameSize, [], rfl, hneeded, hcapacity, le_rfl, by simp⟩
      · have hdouble : capacity * 2 ≤ maxFrameSize := by omega
        have hmod : capacity * 2 % sizeModulus = capacity * 2 :=
          Nat.mod_eq_of_lt (lt_of_le_of_lt hdouble (by decide))
        have hmore : maxFrameSize < capacity * 2 * 2 ^ rounds := by
          rw [Nat.mul_assoc, ← Nat.pow_succ']
          exact hrounds
        obtain ⟨last, doubled, hgrow, hfits, hle, hmax, hall⟩ := ih hdouble hmore
        rw [if_neg hhalf, hmod, hgrow]
        exact ⟨last, _, rfl, hfits, by omega, hmax, List.forall_mem_cons.mpr ⟨hdouble, hall⟩⟩
    · rw [if_neg hsmall]
      exact ⟨capacity, [], rfl, not_lt.mp hsmall, le_rfl, hcapacity, by simp⟩

/-! ### The invariant -/

/-- The size is within the capacity and the capacity within the limit; the allocated bytes begin with
what was written; nothing was computed that exceeds the limit. -/
structure Sound (s : State) : Prop where
  size : s.builder.size ≤ s.builder.capacity
  capacity : s.builder.capacity ≤ maxFrameSize
  cells : s.builder.cells.length = s.builder.capacity
  contents : s.builder.cells.take s.builder.size = contents s.log
  computed : ∀ value, .computed value ∈ s.log → value ≤ maxFrameSize

/-- Nothing but computations within the limit has happened, and the builder has the same contents. -/
structure Kept (s s' : State) : Prop where
  size : s'.builder.size = s.builder.size
  cells : s'.builder.cells.take s.builder.size = s.builder.cells.take s.builder.size
  contents : Memory.contents s'.log = Memory.contents s.log

section Steps

variable (heap : ℕ → Option (ℕ → UInt8)) {s : State}

lemma Sound.note_computed (h : Sound s) {value : ℕ} (hvalue : value ≤ maxFrameSize) :
    Sound (s.note (.computed value)) where
  size := h.size
  capacity := h.capacity
  cells := h.cells
  contents := h.contents.trans (contents_append s.log (.computed value)).symm
  computed other hother := by
    rcases List.mem_append.mp hother with hother | hother
    · exact h.computed other hother
    · obtain rfl := Event.computed.inj (List.mem_singleton.mp hother)
      exact hvalue

/-- Events that write nothing can be noted, as long as nothing exceeds the limit. -/
lemma Sound.note_all (h : Sound s) {values : List ℕ} (hvalues : ∀ value ∈ values,
    value ≤ maxFrameSize) : Sound { s with log := s.log ++ values.map .computed } ∧
      Memory.contents (s.log ++ values.map .computed) = Memory.contents s.log := by
  induction values generalizing s with
  | nil => simpa using h
  | cons value values ih =>
    obtain ⟨hvalue, hrest⟩ := List.forall_mem_cons.mp hvalues
    have hlog : s.log ++ (value :: values).map Event.computed =
        (s.note (.computed value)).log ++ values.map .computed :=
      (List.append_assoc s.log [Event.computed value] _).symm
    obtain ⟨hsound, hcontents⟩ := ih (h.note_computed hvalue) hrest
    rw [hlog]
    exact ⟨hsound, hcontents.trans (contents_append s.log (.computed value))⟩

/-- More memory keeps the contents. -/
lemma Sound.reallocate (h : Sound s) {capacity : ℕ} (hle : s.builder.capacity ≤ capacity)
    (hmax : capacity ≤ maxFrameSize) :
    ∃ status s', Memory.reallocate heap capacity s = .ok (status, s') ∧ Sound s' ∧ Kept s s' ∧
      ∀ done, status = .ok done → s'.builder.capacity = capacity := by
  unfold Memory.reallocate
  rcases heap s.reallocs with _ | fill
  · exact ⟨_, _, rfl, ⟨h.size, h.capacity, h.cells, h.contents, h.computed⟩, ⟨rfl, rfl, rfl⟩, nofun⟩
  · have hsize : s.builder.size ≤ s.builder.cells.length := h.cells ▸ h.size
    have htake (added : List UInt8) : (s.builder.cells ++ added).take s.builder.size =
        s.builder.cells.take s.builder.size := List.take_append_of_le_length hsize
    refine ⟨_, _, rfl, ⟨h.size.trans hle, hmax, ?_, (htake _).trans h.contents, h.computed⟩,
      ⟨rfl, htake _, rfl⟩, fun _ _ => rfl⟩
    have hcells := h.cells
    simp only [List.length_append, List.length_map, List.length_range]
    omega

/-- The loop finds a capacity for what fits the limit. -/
lemma Sound.grows (h : Sound s) {additional : ℕ}
    (hsum : s.builder.size + additional ≤ maxFrameSize) :
    ∃ last doubled, grow (s.builder.size + additional) 64
        (if s.builder.capacity = 0 then initialCapacity else s.builder.capacity) =
          .ok (last, doubled) ∧
      s.builder.size + additional ≤ last ∧ s.builder.capacity ≤ last ∧ last ≤ maxFrameSize ∧
      ∀ value ∈ doubled, value ≤ maxFrameSize := by
  have hstart : (if s.builder.capacity = 0 then initialCapacity else s.builder.capacity) ≤
      maxFrameSize ∧ s.builder.capacity ≤
        (if s.builder.capacity = 0 then initialCapacity else s.builder.capacity) ∧
      1 ≤ (if s.builder.capacity = 0 then initialCapacity else s.builder.capacity) := by
    have hcapacity := h.capacity
    have hinitial : initialCapacity ≤ maxFrameSize ∧ 1 ≤ initialCapacity := by decide
    split_ifs <;> omega
  generalize (if s.builder.capacity = 0 then initialCapacity else s.builder.capacity) = start
    at hstart ⊢
  obtain ⟨hstart, hle, hone⟩ := hstart
  have hrounds : maxFrameSize < start * 2 ^ 64 :=
    lt_of_lt_of_le (by decide : maxFrameSize < 1 * 2 ^ 64) (Nat.mul_le_mul_right _ hone)
  obtain ⟨last, doubled, hgrow, hneeded, hlast, hmax, hdoubled⟩ := grow_spec hsum hstart hrounds
  exact ⟨last, doubled, hgrow, hneeded, hle.trans hlast, hmax, hdoubled⟩

/-- Making room keeps the contents; it succeeds with a capacity that is large enough. -/
lemma Sound.builderReserve (h : Sound s) (additional : ℕ) :
    ∃ status s', Memory.builderReserve heap additional s = .ok (status, s') ∧ Sound s' ∧ Kept s s' ∧
      ∀ done, status = .ok done → s.builder.size + additional ≤ s'.builder.capacity := by
  unfold Memory.builderReserve
  by_cases hbounds : maxFrameSize < additional ∨ maxFrameSize - additional < s.builder.size
  · rw [if_pos hbounds]
    exact ⟨_, s, rfl, h, ⟨rfl, rfl, rfl⟩, nofun⟩
  rw [if_neg hbounds]
  have hsum : s.builder.size + additional ≤ maxFrameSize := by omega
  have hmod : (s.builder.size + additional) % sizeModulus = s.builder.size + additional :=
    Nat.mod_eq_of_lt (lt_of_le_of_lt hsum (by decide))
  have hnoted := h.note_computed hsum
  have hlog : Memory.contents (s.log ++ [.computed (s.builder.size + additional)]) =
      Memory.contents s.log := contents_append s.log _
  have hbuilder : (s.note (.computed (s.builder.size + additional))).builder = s.builder := rfl
  dsimp only
  rw [hbuilder, hmod]
  by_cases hfits : s.builder.size + additional ≤ s.builder.capacity
  · rw [if_pos hfits]
    exact ⟨_, _, rfl, hnoted, ⟨rfl, rfl, hlog⟩, fun _ _ => hfits⟩
  rw [if_neg hfits]
  obtain ⟨last, doubled, hgrow, hneeded, hlast, hmax, hdoubled⟩ := h.grows hsum
  rw [hgrow]
  dsimp only
  obtain ⟨hsound, hcontents⟩ := hnoted.note_all hdoubled
  obtain ⟨status, s', hcall, hsound', hkept, hdone⟩ :=
    hsound.reallocate heap hlast hmax
  refine ⟨status, s', hcall, hsound', ⟨hkept.size, hkept.cells,
    hkept.contents.trans (hcontents.trans hlog)⟩, fun done hstatus => ?_⟩
  rw [hdone done hstatus]
  exact hneeded

/-- Writing behind the contents. -/
lemma overwrite_size {cells data : List UInt8} {size : ℕ} (h : size + data.length ≤ cells.length) :
    ∃ written, overwrite cells size data = .ok written ∧ written.length = cells.length ∧
      written.take (size + data.length) = cells.take size ++ data := by
  have htake : (cells.take size).length = size := List.length_take_of_le (by omega)
  refine ⟨_, if_pos h, ?_, ?_⟩
  · rw [List.length_append, List.length_append, List.length_drop, htake]
    omega
  · rw [← List.append_assoc, List.take_left' (by rw [List.length_append, htake])]

/-- A raw write appends its bytes, or fails and changes neither the size nor the contents. -/
lemma Sound.builderAddRaw (h : Sound s) (data : List UInt8) :
    ∃ status s', Memory.builderAddRaw heap data s = .ok (status, s') ∧ Sound s' ∧
      match status with
      | .ok () => Memory.contents s'.log = Memory.contents s.log ++ data
      | .error _ => Kept s s' := by
  obtain ⟨status, s', hcall, hsound, hkept, hroom⟩ := h.builderReserve heap data.length
  unfold Memory.builderAddRaw
  rw [hcall]
  rcases status with status | ⟨⟩
  · have hlog := contents_append s'.log (.raw data false)
    refine ⟨_, _, rfl, ⟨hsound.size, hsound.capacity, hsound.cells,
      hsound.contents.trans hlog.symm, fun value hvalue => ?_⟩,
      ⟨hkept.size, hkept.cells, hlog.trans hkept.contents⟩⟩
    rcases List.mem_append.mp hvalue with hvalue | hvalue
    · exact hsound.computed value hvalue
    · cases List.mem_singleton.mp hvalue
  · have hcapacity := hroom () rfl
    rw [← hkept.size] at hcapacity
    have hsum : s'.builder.size + data.length ≤ maxFrameSize := hcapacity.trans hsound.capacity
    have hmod : (s'.builder.size + data.length) % sizeModulus = s'.builder.size + data.length :=
      Nat.mod_eq_of_lt (lt_of_le_of_lt hsum (by decide))
    obtain ⟨written, hwrite, hlength, htake⟩ :=
      overwrite_size (hsound.cells ▸ hcapacity : s'.builder.size + data.length ≤
        s'.builder.cells.length)
    dsimp only
    rw [hwrite]
    dsimp only
    have hnoted := hsound.note_computed hsum
    have hcontents : Memory.contents
        ((s'.log ++ [.computed (s'.builder.size + data.length)]) ++ [.raw data true]) =
        Memory.contents s'.log ++ data := by
      rw [contents_append]
      exact congrArg (· ++ data) (contents_append s'.log (.computed _))
    refine ⟨_, _, rfl, ⟨hmod.trans_le hcapacity, hsound.capacity, hlength.trans hsound.cells, ?_,
      fun value hvalue => ?_⟩, hcontents.trans (congrArg (· ++ data) hkept.contents)⟩
    · refine Eq.trans ?_ hcontents.symm
      dsimp only [State.note]
      rw [hmod, htake, hsound.contents]
    · rcases List.mem_append.mp hvalue with hvalue | hvalue
      · exact hnoted.computed value hvalue
      · cases List.mem_singleton.mp hvalue

/-- An operation that keeps the invariant. -/
def Keeps {α : Type} (call : Call α) : Prop :=
  ∀ s, Sound s → ∃ status s', call s = .ok (status, s') ∧ Sound s'

lemma Keeps.andThen {α : Type} {first : Call Unit} {next : Call α} (hfirst : Keeps first)
    (hnext : Keeps next) : Keeps (first.andThen next) := by
  intro s hs
  obtain ⟨status, s', hcall, hs'⟩ := hfirst s hs
  unfold Call.andThen
  rw [hcall]
  rcases status with status | ⟨⟩
  · exact ⟨_, _, rfl, hs'⟩
  · exact hnext s' hs'

lemma Keeps.noFrame {call : Call Unit} (h : Keeps call) : Keeps call.noFrame := by
  intro s hs
  obtain ⟨status, s', hcall, hs'⟩ := h s hs
  exact ⟨_, s', congrArg (Except.map _) hcall, hs'⟩

lemma keeps_builderAddRaw (data : List UInt8) : Keeps (builderAddRaw heap data) := fun _ hs =>
  let ⟨status, s', hcall, hs', _⟩ := hs.builderAddRaw heap data
  ⟨status, s', hcall, hs'⟩

lemma keeps_builderAddTlv (type flags : ℕ) (value : List UInt8) :
    Keeps (builderAddTlv heap type flags value) := by
  intro s hs
  unfold builderAddTlv
  split_ifs
  · exact ⟨_, s, rfl, hs⟩
  · exact ((keeps_builderAddRaw heap _).andThen ((keeps_builderAddRaw heap value).andThen
      (keeps_builderAddRaw heap _))) s hs

lemma keeps_builderAddString (type : ℕ) (value : List UInt8) (maximumSize : ℕ) :
    Keeps (builderAddString heap type value maximumSize) := by
  intro s hs
  unfold builderAddString
  dsimp only
  split_ifs
  · exact ⟨_, s, rfl, hs⟩
  · exact keeps_builderAddTlv heap _ _ _ s hs

/-- An empty builder. -/
lemma sound_emptied (h : Sound s) : Sound ({ s with builder := {} }.note .emptied) where
  size := le_rfl
  capacity := Nat.zero_le _
  cells := rfl
  contents := (contents_append s.log .emptied).symm
  computed value hvalue := by
    rcases List.mem_append.mp hvalue with hvalue | hvalue
    · exact h.computed value hvalue
    · cases List.mem_singleton.mp hvalue

/-- A builder is initialised from a sound one, as far as its bytes matter, or refuses the size. -/
lemma keeps_builderInit (initialSize : ℕ) : Keeps (builderInit heap initialSize) := by
  intro s hs
  unfold builderInit
  split_ifs
  · exact ⟨_, s, rfl, hs⟩
  obtain ⟨status, s', hcall, hs', hkept, hroom⟩ :=
    (sound_emptied hs).builderReserve heap initialSize
  unfold Call.andThen
  rw [hcall]
  rcases status with status | ⟨⟩
  · exact ⟨_, s', rfl, hs'⟩
  have hcapacity : 0 + initialSize ≤ s'.builder.capacity := hroom () rfl
  have hfits : 0 + (List.replicate initialSize (0 : UInt8)).length ≤ s'.builder.cells.length := by
    rw [List.length_replicate, hs'.cells]
    exact hcapacity
  obtain ⟨written, hwrite, hlength, htake⟩ := overwrite_size hfits
  rw [List.length_replicate, Nat.zero_add, List.take_zero, List.nil_append] at htake
  rw [Nat.zero_add] at hcapacity
  dsimp only
  rw [hwrite]
  refine ⟨_, _, rfl, hcapacity, hs'.capacity, hlength.trans hs'.cells,
    htake.trans (contents_append s'.log (.zeros initialSize)).symm, fun value hvalue => ?_⟩
  rcases List.mem_append.mp hvalue with hvalue | hvalue
  · exact hs'.computed value hvalue
  · cases List.mem_singleton.mp hvalue

lemma length_frameHeader (messageType correlationId payloadSize : ℕ) :
    (frameHeader messageType correlationId payloadSize).length = headerSize := by
  have hmagic : magic.length = 4 := by decide
  simp [frameHeader, hmagic, headerSize]

/-- Where the header has the length of the payload. -/
lemma slice_frameHeader (messageType correlationId payloadSize : ℕ) (payload : List UInt8) :
    slice 24 4 (frameHeader messageType correlationId payloadSize ++ payload) =
      bigEndian 4 payloadSize := by
  have hsplit : frameHeader messageType correlationId payloadSize ++ payload =
      (magic ++ (bigEndian 2 versionMajor ++ (bigEndian 2 versionMinor ++
        (bigEndian 2 messageType ++ (bigEndian 2 0 ++ (bigEndian 4 headerSize ++
          bigEndian 8 correlationId)))))) ++ (bigEndian 4 payloadSize ++
            (bigEndian 4 0 ++ payload)) := by
    simp only [frameHeader, List.append_assoc]
  have hlength : (magic ++ (bigEndian 2 versionMajor ++ (bigEndian 2 versionMinor ++
      (bigEndian 2 messageType ++ (bigEndian 2 0 ++ (bigEndian 4 headerSize ++
        bigEndian 8 correlationId)))))).length = 24 := by
    have hmagic : magic.length = 4 := by decide
    simp [hmagic]
  rw [hsplit, slice_append_right hlength.le, hlength, Nat.sub_self,
    slice_append_left (length_bigEndian 4 payloadSize)]

/-- The frame has the size of the builder; its header says how long the rest is, and the rest is
what was written. -/
lemma Sound.builderFinish (h : Sound s) (messageType correlationId : ℕ) :
    ∃ result s', Memory.builderFinish messageType correlationId s = .ok (result, s') ∧ Sound s' ∧
      ∀ frame, result = .ok frame → headerSize ≤ s.builder.size ∧
        frame = frameHeader messageType correlationId (s.builder.size - headerSize) ++
          (Memory.contents s.log).drop headerSize ∧ frame.length = s.builder.size := by
  unfold Memory.builderFinish
  by_cases hinvalid : correlationId = 0 ∨ s.builder.size < headerSize
  · rw [if_pos hinvalid]
    exact ⟨_, s, rfl, h, nofun⟩
  rw [if_neg hinvalid]
  dsimp only
  by_cases hlarge : uint32Max < s.builder.size - headerSize
  · rw [if_pos hlarge]
    exact ⟨_, s, rfl, h, nofun⟩
  rw [if_neg hlarge]
  have hsize : headerSize ≤ s.builder.size := by omega
  have hcells : s.builder.size ≤ s.builder.cells.length := h.cells ▸ h.size
  have hheader := length_frameHeader messageType correlationId (s.builder.size - headerSize)
  have hwrite : overwrite s.builder.cells 0
      (frameHeader messageType correlationId (s.builder.size - headerSize)) =
      .ok (frameHeader messageType correlationId (s.builder.size - headerSize) ++
        s.builder.cells.drop headerSize) := by
    rw [overwrite, if_pos (by rw [hheader]; omega), hheader, Nat.zero_add]
    rfl
  rw [hwrite]
  refine ⟨_, _, rfl, sound_emptied h, ?_⟩
  rintro frame hframe
  obtain rfl := Except.ok.inj hframe
  have htake : (frameHeader messageType correlationId (s.builder.size - headerSize) ++
      s.builder.cells.drop headerSize).take s.builder.size =
      frameHeader messageType correlationId (s.builder.size - headerSize) ++
        (Memory.contents s.log).drop headerSize := by
    rw [List.take_append, hheader, List.take_of_length_le (by omega), ← h.contents,
      List.drop_take]
  refine ⟨hsize, htake, ?_⟩
  rw [List.length_take, List.length_append, hheader, List.length_drop]
  omega

lemma keeps_call (operation : Operation) : Keeps (operation.call heap) := by
  cases operation with
  | init initialSize => exact (keeps_builderInit heap initialSize).noFrame
  | addRaw data => exact (keeps_builderAddRaw heap data).noFrame
  | addTlv type flags value => exact (keeps_builderAddTlv heap type flags value).noFrame
  | addU32 type value => exact (keeps_builderAddTlv heap type _ _).noFrame
  | addU64 type value => exact (keeps_builderAddTlv heap type _ _).noFrame
  | addString type value maximumSize =>
    exact (keeps_builderAddString heap type value maximumSize).noFrame
  | finish messageType correlationId =>
    intro s hs
    obtain ⟨result, s', hcall, hs', -⟩ := hs.builderFinish messageType correlationId
    exact ⟨_, s', congrArg (Except.map _) hcall, hs'⟩

/-- Operations end without a fault and keep the invariant. -/
lemma run_sound (operations : List Operation) {s : Option State} (hs : ∀ s' ∈ s, Sound s') :
    ∃ last, run heap operations s = .ok last ∧ ∀ s' ∈ last, Sound s' := by
  induction operations generalizing s with
  | nil => exact ⟨s, rfl, hs⟩
  | cons operation operations ih =>
    rcases s with _ | s
    · have hrest := ih (s := none) (by simp)
      cases operation with
      | init initialSize =>
        rw [run]
        split_ifs
        · exact hrest
        · have hempty : Sound {} := ⟨le_rfl, Nat.zero_le _, rfl, rfl, by simp⟩
          obtain ⟨status, s', hcall, hs'⟩ := keeps_builderInit heap initialSize {} hempty
          rw [hcall]
          exact ih (by simpa using hs')
      | _ => exact hrest
    · obtain ⟨result, s', hcall, hs'⟩ := keeps_call heap operation s (hs s rfl)
      rw [run, hcall]
      exact ih (by simpa using hs')

/-! ### The builder of the encoders -/

/-- As long as memory is there, the operation does to the contents what the writer does. -/
def Refines (call : Call Unit) (write : Writer) : Prop :=
  ∀ s, Sound s → ∃ status s', call s = .ok (status, s') ∧ Sound s' ∧
    status.map (fun _ => Memory.contents s'.log) = write (Memory.contents s.log)

variable {heap}

lemma Sound.length_contents (h : Sound s) : (Memory.contents s.log).length = s.builder.size := by
  rw [← h.contents, List.length_take, h.cells, min_eq_left h.size]

/-- Room is refused for want of memory or beyond the limit. -/
lemma builderReserve_status (hheap : ∀ n, heap n ≠ none) (h : Sound s) {additional : ℕ}
    {status : Except Status Unit} {s' : State}
    (hcall : Memory.builderReserve heap additional s = .ok (status, s')) :
    status = Native.builderReserve (Memory.contents s.log) additional := by
  rw [Native.builderReserve, h.length_contents]
  unfold Memory.builderReserve at hcall
  by_cases hbounds : maxFrameSize < additional ∨ maxFrameSize - additional < s.builder.size
  · rw [if_pos hbounds] at hcall ⊢
    exact (Prod.mk.inj (Except.ok.inj hcall)).1.symm
  rw [if_neg hbounds] at hcall ⊢
  dsimp only at hcall
  split_ifs at hcall
  all_goals try exact (Prod.mk.inj (Except.ok.inj hcall)).1.symm
  all_goals
    split at hcall
    · cases hcall
    · unfold Memory.reallocate at hcall
      split at hcall
      next hnone => exact absurd hnone (hheap _)
      next => exact (Prod.mk.inj (Except.ok.inj hcall)).1.symm

lemma refines_builderAddRaw (hheap : ∀ n, heap n ≠ none) (data : List UInt8) :
    Refines (Memory.builderAddRaw heap data) (Native.builderAddRaw data) := by
  intro s hs
  obtain ⟨status, s', hcall, hs', hresult⟩ := hs.builderAddRaw heap data
  refine ⟨status, s', hcall, hs', ?_⟩
  have hreserve : status = Native.builderReserve (Memory.contents s.log) data.length := by
    obtain ⟨reserved, t, hreserved, -⟩ := hs.builderReserve heap data.length
    have hstatus := builderReserve_status hheap hs hreserved
    rw [← hstatus]
    unfold Memory.builderAddRaw at hcall
    rw [hreserved] at hcall
    rcases reserved with reserved | ⟨⟩
    · exact (Prod.mk.inj (Except.ok.inj hcall)).1.symm
    · dsimp only at hcall
      split at hcall
      · cases hcall
      · exact (Prod.mk.inj (Except.ok.inj hcall)).1.symm
  rw [Native.builderAddRaw, ← hreserve]
  rcases status with status | ⟨⟩
  · rfl
  · exact congrArg Except.ok hresult

lemma Refines.andThen {first next : Call Unit} {write writeNext : Writer}
    (hfirst : Refines first write) (hnext : Refines next writeNext) :
    Refines (first.andThen next) fun bytes => write bytes >>= writeNext := by
  intro s hs
  obtain ⟨status, s', hcall, hs', hwrite⟩ := hfirst s hs
  unfold Call.andThen
  rw [hcall]
  rcases status with status | ⟨⟩
  · refine ⟨_, s', rfl, hs', ?_⟩
    dsimp only
    rw [← hwrite]
    rfl
  · obtain ⟨status, t, hcall', ht, hwrite'⟩ := hnext s' hs'
    refine ⟨status, t, hcall', ht, ?_⟩
    dsimp only
    rw [← hwrite]
    exact hwrite'

/-- Fields are written as the encoders' builder writes them. -/
theorem contents_refines (hheap : ∀ n, heap n ≠ none) (type flags : ℕ) (value : List UInt8) :
    Refines (Memory.builderAddTlv heap type flags value)
      (Native.builderAddTlv type flags value) := by
  intro s hs
  unfold Memory.builderAddTlv Native.builderAddTlv
  by_cases hlarge : uint32Max < value.length
  · rw [if_pos hlarge, if_pos hlarge]
    exact ⟨_, s, rfl, hs, rfl⟩
  · rw [if_neg hlarge, if_neg hlarge]
    exact (refines_builderAddRaw hheap _).andThen
      ((refines_builderAddRaw hheap value).andThen (refines_builderAddRaw hheap _)) s hs

end Steps

end QfwSlurm.Native.Memory
