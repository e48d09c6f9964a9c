import QfwSlurm.Wire.Tlv

/-!
# Cursors over fields

A cursor reads one field at an offset of a byte string and moves the offset.  Each of its reads can
miss the string (`peek`); `iterate` collects what it delivers until it ends.  A cursor that does
what a reader does on the rest of the string (`Tracks`) delivers the fields at the front of the
string, as many as there are (`Parsed`), and never misses it.
-/

namespace Wire

variable {ε α : Type}

/-- The bytes at an offset, if all of them are inside of the string. -/
def peek (bytes : List UInt8) (offset width : ℕ) : Option (List UInt8) :=
  if offset + width ≤ bytes.length then some (slice offset width bytes) else none

/-- What one call of a cursor comes to. -/
inductive Advance (ε α : Type) where
  | finished
  | failed (error : ε)
  /-- A byte outside of the string is read. -/
  | stray
  | item (item : α) (offset : ℕ)

/-- How an iteration ends. -/
inductive Ending (ε : Type) where
  | finished
  | failed (error : ε)
  | stray
  /-- It has not ended in the rounds that it was given. -/
  | unfinished
  deriving DecidableEq

/-- The items that a cursor delivers, and how it ends. -/
def iterate (next : ℕ → Advance ε α) : (rounds offset : ℕ) → List α × Ending ε
  | 0, _ => ([], .unfinished)
  | rounds + 1, offset =>
    match next offset with
    | .finished => ([], .finished)
    | .failed error => ([], .failed error)
    | .stray => ([], .stray)
    | .item item offset => ((iterate next rounds offset).map (item :: ·) id)

/-- The cursor does at each offset what the reader does on the rest of the string, and shows the
fields in its own way. -/
def Tracks (next : ℕ → Advance ε α) (reader : Reader ε) (view : Tlv → α) (bytes : List UInt8) :
    Prop :=
  ∀ offset ≤ bytes.length, next offset =
    match reader (bytes.drop offset) with
    | .error error => .failed error
    | .ok none => .finished
    | .ok (some (tlv, rest)) => .item (view tlv) (bytes.length - rest.length)

/-- The good fields at the front of a byte string, as many as there are, and what follows them. -/
structure Parsed (good : Tlv → Prop) (bytes : List UInt8) (tlvs : List Tlv) (rest : List UInt8) :
    Prop where
  all : ∀ tlv ∈ tlvs, good tlv
  encoded : encodeAll tlvs ++ rest = bytes
  maximal : ∀ tlv, good tlv → ¬ tlv.encode <+: rest

section Parsing

variable {reader : Reader ε} {good : Tlv → Prop} {bytes : List UInt8}

/-- Fields that can be read are read in one way only. -/
theorem Parsed.unique (hreads : Reads reader good) {tlvs others : List Tlv}
    {rest remaining : List UInt8} (h : Parsed good bytes tlvs rest)
    (hothers : Parsed good bytes others remaining) : tlvs = others ∧ rest = remaining := by
  induction tlvs generalizing bytes others with
  | nil =>
    obtain rfl : rest = bytes := h.encoded
    rcases others with _ | ⟨other, others⟩
    · exact ⟨rfl, hothers.encoded.symm⟩
    · have hbytes := hothers.encoded
      rw [encodeAll_cons, List.append_assoc] at hbytes
      exact absurd ⟨_, hbytes⟩ (h.maximal other (hothers.all other List.mem_cons_self))
  | cons tlv tlvs ih =>
    have hbytes := h.encoded
    rw [encodeAll_cons, List.append_assoc] at hbytes
    obtain ⟨hgood, hrest⟩ := List.forall_mem_cons.mp h.all
    rcases others with _ | ⟨other, others⟩
    · obtain rfl : remaining = bytes := hothers.encoded
      exact absurd ⟨_, hbytes⟩ (hothers.maximal tlv hgood)
    · have hother := hothers.encoded
      rw [encodeAll_cons, List.append_assoc] at hother
      obtain ⟨hgood', hrest'⟩ := List.forall_mem_cons.mp hothers.all
      have hread := hreads.reads tlv (encodeAll tlvs ++ rest) hgood
      rw [hbytes, ← hother, hreads.reads other _ hgood'] at hread
      obtain ⟨rfl, hsame⟩ := Prod.mk.inj (Option.some.inj (Except.ok.inj hread))
      obtain ⟨rfl, rfl⟩ := ih ⟨hrest, rfl, h.maximal⟩ ⟨hrest', hsame, hothers.maximal⟩
      exact ⟨rfl, rfl⟩

variable {next : ℕ → Advance ε α} {view : Tlv → α}

/-- A cursor delivers the fields at the front of the string, and succeeds when nothing follows
them. -/
theorem Tracks.iterate (htracks : Tracks next reader view bytes) (hreads : Reads reader good)
    {rounds offset : ℕ} (hoffset : offset ≤ bytes.length) (hrounds : bytes.length < offset + rounds) :
    ∃ tlvs rest, Parsed good (bytes.drop offset) tlvs rest ∧
      (Wire.iterate next rounds offset).1 = tlvs.map view ∧
      if rest = [] then (Wire.iterate next rounds offset).2 = .finished
      else ∃ error, (Wire.iterate next rounds offset).2 = .failed error := by
  induction rounds generalizing offset with
  | zero => omega
  | succ rounds ih =>
    have hnext := htracks offset hoffset
    rw [Wire.iterate, hnext]
    rcases hread : reader (bytes.drop offset) with error | _ | ⟨tlv, rest⟩
    · have hne : bytes.drop offset ≠ [] := by
        intro hnil
        rw [hnil, hreads.ends] at hread
        cases hread
      refine ⟨[], bytes.drop offset, ⟨by simp, rfl, fun tlv hgood hfirst => ?_⟩, rfl, ?_⟩
      · obtain ⟨rest, hrest⟩ := hfirst
        rw [← hrest, hreads.reads tlv rest hgood] at hread
        cases hread
      · rw [if_neg hne]
        exact ⟨error, rfl⟩
    · have hnil := hreads.empty hread
      refine ⟨[], [], ⟨by simp, by rw [hnil]; rfl, fun tlv hgood hfirst => ?_⟩, rfl, ?_⟩
      · have hlength := hfirst.length_le
        rw [Tlv.length_encode, tlvHeaderSize, List.length_nil] at hlength
        omega
      · rw [if_pos rfl]
    · obtain ⟨hgood, hbytes⟩ := hreads.exact hread
      have hlength := congrArg List.length hbytes
      rw [List.length_drop, List.length_append, Tlv.length_encode, tlvHeaderSize] at hlength
      have hdrop : bytes.drop (bytes.length - rest.length) = rest := by
        have hsplit : bytes.drop (bytes.length - rest.length) =
            (bytes.drop offset).drop (bytes.length - rest.length - offset) := by
          rw [List.drop_drop]
          congr 1
          omega
        rw [hsplit, hbytes]
        refine List.drop_left' ?_
        rw [Tlv.length_encode, tlvHeaderSize]
        omega
      obtain ⟨tlvs, remaining, hparsed, hitems, hending⟩ :=
        ih (by omega : bytes.length - rest.length ≤ bytes.length) (by omega)
      rw [hdrop] at hparsed
      refine ⟨tlv :: tlvs, remaining, ⟨List.forall_mem_cons.mpr ⟨hgood, hparsed.all⟩, ?_,
        hparsed.maximal⟩, ?_, hending⟩
      · rw [encodeAll_cons, List.append_assoc, hparsed.encoded, hbytes]
      · exact congrArg (view tlv :: ·) hitems

end Parsing

end Wire
