import QfwSlurm.Wire.Bytes

/-!
# Byte strings behind their lengths

A stream of byte strings, each behind its length as a number of four bytes.  `nextDelimited` takes
the first one off a stream; it takes exactly what `delimited` has written
(`nextDelimited_eq_some_iff`).  A stream that was cut off somewhere gives the byte string that was
written or none, and never a piece of it (`nextDelimited_of_prefix`).
-/

namespace Wire

/-- A byte string behind its length. -/
def delimited (bytes : List UInt8) : List UInt8 := bigEndian 4 bytes.length ++ bytes

/-- The first byte string of a stream, if it is all there, not empty and within the limit, and the
rest of the stream. -/
def nextDelimited (limit : ℕ) (stream : List UInt8) : Option (List UInt8 × List UInt8) :=
  if stream.length < 4 then none
  else if ofBigEndian (stream.take 4) = 0 ∨ limit < ofBigEndian (stream.take 4) then none
  else if (stream.drop 4).length < ofBigEndian (stream.take 4) then none
  else some ((stream.drop 4).take (ofBigEndian (stream.take 4)),
    (stream.drop 4).drop (ofBigEndian (stream.take 4)))

variable {limit : ℕ} {stream bytes rest : List UInt8}

@[simp] lemma length_delimited (bytes : List UInt8) :
    (delimited bytes).length = 4 + bytes.length := by simp [delimited]

lemma take_delimited (bytes rest : List UInt8) :
    (delimited bytes ++ rest).take 4 = bigEndian 4 bytes.length := by
  rw [delimited, List.append_assoc, List.take_left' (length_bigEndian 4 _)]

lemma drop_delimited (bytes rest : List UInt8) :
    (delimited bytes ++ rest).drop 4 = bytes ++ rest := by
  rw [delimited, List.append_assoc, List.drop_left' (length_bigEndian 4 _)]

/-- What is taken off a stream is what was written, and nothing else. -/
lemma nextDelimited_eq_some_iff (hlimit : limit < 256 ^ 4) :
    nextDelimited limit stream = some (bytes, rest) ↔
      bytes ≠ [] ∧ bytes.length ≤ limit ∧ stream = delimited bytes ++ rest := by
  constructor
  · intro h
    unfold nextDelimited at h
    split_ifs at h with hshort hsize hmissing
    obtain ⟨rfl, rfl⟩ := Prod.mk.inj (Option.some.inj h)
    obtain ⟨hpos, hle⟩ := not_or.mp hsize
    have hlength : ((stream.drop 4).take (ofBigEndian (stream.take 4))).length =
        ofBigEndian (stream.take 4) := by rw [List.length_take]; omega
    refine ⟨?_, by omega, ?_⟩
    · rw [← List.length_pos_iff, hlength]
      omega
    · have hhead : bigEndian 4 (ofBigEndian (stream.take 4)) = stream.take 4 := by
        have hread := bigEndian_ofBigEndian (stream.take 4)
        rwa [List.length_take, min_eq_left (not_lt.mp hshort)] at hread
      rw [delimited, hlength, hhead, List.append_assoc, List.take_append_drop,
        List.take_append_drop]
  · rintro ⟨hne, hle, rfl⟩
    have hsize : ofBigEndian (bigEndian 4 bytes.length) = bytes.length :=
      ofBigEndian_bigEndian (by omega)
    have hpos : 0 < bytes.length := List.length_pos_iff.mpr hne
    have hlong : ¬ (delimited bytes ++ rest).length < 4 := by simp; omega
    have hthere : ¬ (bytes ++ rest).length < bytes.length := by simp
    rw [nextDelimited, take_delimited, drop_delimited, hsize, if_neg hlong,
      if_neg (not_or.mpr ⟨hpos.ne', not_lt.mpr hle⟩), if_neg hthere, List.take_left, List.drop_left]

/-- A stream that was cut off gives the byte string that was written, or none. -/
lemma nextDelimited_of_prefix (hlimit : limit < 256 ^ 4) {written : List UInt8}
    (hwritten : written.length < 256 ^ 4) {more : List UInt8}
    (hcut : stream <+: delimited written ++ more)
    (h : nextDelimited limit stream = some (bytes, rest)) : bytes = written ∧ rest <+: more := by
  obtain ⟨hne, hle, rfl⟩ := (nextDelimited_eq_some_iff hlimit).mp h
  obtain ⟨tail, htail⟩ := hcut
  rw [List.append_assoc] at htail
  have hhead : bigEndian 4 bytes.length = bigEndian 4 written.length := by
    rw [← take_delimited bytes (rest ++ tail), htail, take_delimited]
  have hlength : bytes.length = written.length := by
    have hread : ofBigEndian (bigEndian 4 bytes.length) = bytes.length :=
      ofBigEndian_bigEndian (by omega)
    rw [← hread, hhead, ofBigEndian_bigEndian hwritten]
  have hrest : bytes ++ (rest ++ tail) = written ++ more := by
    rw [← drop_delimited bytes, htail, drop_delimited]
  obtain ⟨rfl, rfl⟩ := List.append_inj hrest hlength
  exact ⟨rfl, List.prefix_append rest tail⟩

end Wire
