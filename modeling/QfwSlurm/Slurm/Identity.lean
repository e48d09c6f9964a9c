import QfwSlurm.Inspect.Jobs
import Std.Data.String.ToNat

/-!
# The canonical job identity

The components of a heterogeneous job share the identity of its leader.  It is computed three times:
by `canonical_job_id` of the burst-buffer script, by `SlurmVerifier._canonical_job_id`, and by the
inspection tools from the job that `_job` builds.  Slurm marks an ordinary job by a leader of 0 or by
one of two values at the end of `uint32`; the inspection tools know only the first, so the three
agree on the other two in no case but that of a job with such an id of its own (`sameIdentity_iff`).
-/

namespace QfwSlurm

/-! ### The burst-buffer script -/

/-- `canonical_job_id` of `burst_buffer.lua`; the leader is a number or missing. -/
def luaCanonicalJobId (jobId : ℤ) (hetJobId : Option ℤ) : ℤ :=
  let hetero := hetJobId.getD 0
  if hetero ≠ 0 ∧ hetero ≠ 4294967294 ∧ hetero ≠ 4294967295 then hetero else jobId

/-! ### Records of jobs -/

/-- A number as Slurm prints it: plain, or an object that is set. -/
inductive SlurmNumber (n : ℕ) : SlurmValue → Prop
  | plain : SlurmNumber n (.int n)
  | object (fields : List (String × SlurmValue)) (hset : fields.lookup "set" = some (.bool true))
      (hnumber : fields.lookup "number" = some (.int n)) : SlurmNumber n (.obj fields)

/-- The fields of a record of job `j` whose heterogeneous leader is `h`. -/
structure JobRecord (fields : List (String × SlurmValue)) (j h : ℕ) : Prop where
  jobId : ∃ value, fields.lookup "job_id" = some value ∧ SlurmNumber j value
  hetJobId : ∃ value, fields.lookup "het_job_id" = some value ∧ SlurmNumber h value
  /-- The leader has one name in a record. -/
  single : fields.lookup "heterogeneous_job_id" = none
  offset : ∀ value, fields.lookup "het_job_offset" = some value → ∃ n, SlurmNumber n value
  singleOffset : fields.lookup "heterogeneous_job_offset" = none

/-- The three computations give one identity. -/
structure SameIdentity (host : Host) (numerals : Numerals) (row : SlurmValue) (cluster : String)
    (j h : ℕ) : Prop where
  verifier : canonicalJobId host row = .ok (luaCanonicalJobId j (some h))
  inspected : ∃ job, inspectedJob numerals row cluster = .ok job ∧
    job.canonicalJobId = toString (luaCanonicalJobId j (some h))

section Records

variable {fields : List (String × SlurmValue)} {value : SlurmValue} {j h n : ℕ}

/-- A key that a mapping has is read as its number. -/
lemma numberField_of_lookup (host : Host) (label key : String)
    (hvalue : fields.lookup key = some (.int n)) :
    numberField host label key fields = some (.ok n) := by
  induction fields with
  | nil => cases hvalue
  | cons field fields ih =>
    obtain ⟨name, first⟩ := field
    unfold numberField
    by_cases hname : name = key
    · rw [if_pos hname]
      have hfirst : first = .int n := by simpa [List.lookup_cons, hname] using hvalue
      subst hfirst
      change some (number host label (.int n)) = _
      rw [number]
    · rw [if_neg hname]
      refine ih ?_
      have hne : (key == name) = false := beq_eq_false_iff_ne.mpr (Ne.symm hname)
      rwa [List.lookup_cons, hne] at hvalue

/-- The verifier reads a number in either form. -/
lemma SlurmNumber.number_eq (hvalue : SlurmNumber n value) (host : Host) (label : String) :
    number host label value = .ok (n : ℤ) := by
  cases hvalue with
  | plain => simp only [number]
  | object fields hset hnumber =>
    rw [number, numberField_of_lookup host label "number" hnumber]

/-- The inspection tools print a number in either form. -/
lemma SlurmNumber.identifier_eq (hvalue : SlurmNumber n value) :
    identifier value = toString (n : ℤ) := by
  cases hvalue with
  | plain => simp [identifier, SlurmValue.text, SlurmValue.repr]
  | object fields hset hnumber =>
    simp [identifier, SlurmValue.field, hnumber, SlurmValue.text, SlurmValue.repr]

/-- The text of a number is not empty, and is `0` for zero alone. -/
lemma toString_mem_iff : toString (n : ℤ) ∈ ["", "0"] ↔ n = 0 := by
  have hrepr : toString (n : ℤ) = Nat.repr n := rfl
  have hzero : ("0" : String) = Nat.repr 0 := rfl
  rw [hrepr, List.mem_cons, List.mem_singleton, hzero, Nat.repr_inj]
  refine ⟨fun h => h.resolve_left fun hempty => ?_, .inr⟩
  have hdigits := congrArg String.toList hempty
  rw [Nat.toList_repr] at hdigits
  exact Nat.toDigits_ne_nil hdigits

/-- A leader of zero is dropped, however it is printed. -/
lemma SlurmNumber.optionalIdentifier_eq (hvalue : SlurmNumber n value) :
    optionalIdentifier (value.orElse .null) = if n = 0 then "" else toString (n : ℤ) := by
  have hnumber : optionalIdentifier value = if n = 0 then "" else toString (n : ℤ) := by
    rw [optionalIdentifier, hvalue.identifier_eq]
    simp only [toString_mem_iff]
  by_cases htruthy : value.truthy = true
  · rw [SlurmValue.orElse, if_pos htruthy, hnumber]
  · have hzero : n = 0 := by
      cases hvalue with
      | plain => simpa [SlurmValue.truthy] using htruthy
      | object fields hset hnumber =>
        have hempty : fields = [] := by simpa [SlurmValue.truthy] using htruthy
        subst hempty
        cases hset
    rw [SlurmValue.orElse, if_neg htruthy, if_pos hzero]
    rfl

/-- The verifier's identity. -/
lemma JobRecord.canonicalJobId_eq (hrow : JobRecord fields j h) (host : Host) :
    canonicalJobId host (.obj fields) = .ok (luaCanonicalJobId j (some h)) := by
  obtain ⟨jobValue, hjob, hjobNumber⟩ := hrow.jobId
  obtain ⟨leader, hleader, hleaderNumber⟩ := hrow.hetJobId
  have hjobId : jobNumber host (.obj fields) = .ok (j : ℤ) := by
    simp only [jobNumber, SlurmValue.get, hjob, Option.getD_some, bind, Except.bind]
    exact hjobNumber.number_eq host _
  have hread := hleaderNumber.number_eq host "heterogeneous job ID"
  have hvalue : canonicalJobId host (.obj fields) =
      if (h : ℤ) ∈ [0, 4294967294, 4294967295] then jobNumber host (.obj fields) else .ok (h : ℤ) := by
    unfold canonicalJobId
    simp only [SlurmValue.get, hleader, Option.getD_some, bind, Except.bind]
    cases hleaderNumber <;> (simp only [hread]; rfl)
  rw [hvalue, hjobId, luaCanonicalJobId]
  by_cases hordinary : (h : ℤ) ∈ [0, 4294967294, 4294967295]
  · rw [if_pos hordinary, Option.getD_some, if_neg fun hne => ?_]
    simp only [List.mem_cons, List.not_mem_nil, or_false] at hordinary
    omega
  · rw [if_neg hordinary, Option.getD_some, if_pos]
    simp only [List.mem_cons, List.not_mem_nil, or_false, not_or] at hordinary
    exact hordinary

/-- The job of the inspection tools. -/
lemma JobRecord.inspectedJob_eq (hrow : JobRecord fields j h) (numerals : Numerals)
    (cluster : String) :
    ∃ job, inspectedJob numerals (.obj fields) cluster = .ok job ∧
      job.canonicalJobId = if h = 0 then toString (j : ℤ) else toString (h : ℤ) := by
  obtain ⟨jobValue, hjob, hjobNumber⟩ := hrow.jobId
  obtain ⟨leader, hleader, hleaderNumber⟩ := hrow.hetJobId
  have hjobId : identifier (SlurmValue.field fields "job_id") = toString (j : ℤ) := by
    rw [SlurmValue.field, hjob, Option.getD_some, hjobNumber.identifier_eq]
  have hhetJobId : optionalIdentifier ((SlurmValue.field fields "het_job_id").orElse
      (SlurmValue.field fields "heterogeneous_job_id")) =
        if h = 0 then "" else toString (h : ℤ) := by
    rw [SlurmValue.field, SlurmValue.field, hleader, hrow.single, Option.getD_some, Option.getD_none,
      hleaderNumber.optionalIdentifier_eq]
  have hnonempty (n : ℕ) : toString (n : ℤ) ≠ "" := by
    intro hempty
    have hzero : n = 0 := toString_mem_iff.mp (by rw [hempty]; exact List.mem_cons_self)
    rw [hzero] at hempty
    exact absurd hempty (by decide)
  obtain ⟨offset, hoffset⟩ : ∃ offset, componentOffset numerals ((fields.lookup
      "het_job_offset").getD (SlurmValue.field fields "heterogeneous_job_offset")) = .ok offset := by
    cases hvalue : fields.lookup "het_job_offset" with
    | none => exact ⟨none, by simp [SlurmValue.field, hrow.singleOffset, componentOffset]⟩
    | some value =>
      obtain ⟨n, hn⟩ := hrow.offset value hvalue
      cases hn with
      | plain => exact ⟨some n, rfl⟩
      | object fields hset hnumber =>
        exact ⟨some n, by simp [componentOffset, SlurmValue.field, hnumber]⟩
  unfold inspectedJob
  simp only [hjobId, hnonempty j, if_false, hoffset, hhetJobId, bind, Except.bind]
  refine ⟨_, rfl, ?_⟩
  unfold SlurmJob.canonicalJobId
  dsimp only
  by_cases hzero : h = 0
  · simp [hzero]
  · rw [if_neg hzero, if_neg hzero, if_pos (hnonempty h)]

end Records

/-- The identities agree exactly when the leader is not one of the two values at the end of `uint32`,
or is the job itself. -/
theorem sameIdentity_iff (host : Host) (numerals : Numerals)
    (fields : List (String × SlurmValue)) (cluster : String) (j h : ℕ)
    (hrow : JobRecord fields j h) :
    SameIdentity host numerals (.obj fields) cluster j h ↔
      (h ≠ 4294967294 ∧ h ≠ 4294967295) ∨ h = j := by
  obtain ⟨job, hjob, hidentity⟩ := hrow.inspectedJob_eq numerals cluster
  have htext (m n : ℕ) : toString (m : ℤ) = toString (n : ℤ) ↔ m = n := Nat.repr_inj
  have hagree : SameIdentity host numerals (.obj fields) cluster j h ↔
      (if h = 0 then toString (j : ℤ) else toString (h : ℤ)) =
        toString (luaCanonicalJobId j (some h)) := by
    refine ⟨fun ⟨_, other, hother, hsame⟩ => ?_, fun hsame =>
      ⟨hrow.canonicalJobId_eq host, job, hjob, hidentity.trans hsame⟩⟩
    cases hjob.symm.trans hother
    exact hidentity.symm.trans hsame
  rw [hagree, luaCanonicalJobId, Option.getD_some]
  by_cases hzero : h = 0
  · simp [hzero]
  · rw [if_neg hzero]
    by_cases hordinary : h = 4294967294 ∨ h = 4294967295
    · have hlua : ¬ ((h : ℤ) ≠ 0 ∧ (h : ℤ) ≠ 4294967294 ∧ (h : ℤ) ≠ 4294967295) := by omega
      simp only [if_neg hlua, htext]
      omega
    · have hlua : (h : ℤ) ≠ 0 ∧ (h : ℤ) ≠ 4294967294 ∧ (h : ℤ) ≠ 4294967295 := by omega
      rw [if_pos hlua]
      exact iff_of_true rfl (.inl (not_or.mp hordinary))

/-- A host that knows the digits of ASCII. -/
def asciiHost : Host :=
  ⟨fun c => if c.isDigit then some (c.toNat - 48) else none, id, fun _ => none⟩

/-- Numerals of ASCII, without floats. -/
def asciiNumerals : Numerals := ⟨fun _ => none, fun _ => some none⟩

/-- The record of job 43, a component of job 42. -/
def componentRecord : List (String × SlurmValue) :=
  [("job_id", .int 43),
    ("het_job_id", .obj [("set", .bool true), ("infinite", .bool false), ("number", .int 42)])]

/-- Its identity is that of the leader. -/
theorem sameIdentity_iff_component :
    SameIdentity asciiHost asciiNumerals (.obj componentRecord) "cluster" 43 42 :=
  (sameIdentity_iff asciiHost asciiNumerals componentRecord "cluster" 43 42
    ⟨⟨_, rfl, .plain⟩, ⟨_, rfl, .object _ rfl rfl⟩, rfl, fun _ h => (nomatch h), rfl⟩).mpr
    (by decide)

/-- The record of job 7, which Slurm marks as ordinary by the leader 4294967294. -/
def unsetRecord : List (String × SlurmValue) :=
  [("job_id", .int 7), ("het_job_id", .int 4294967294)]

/-- The inspection tools take it for a component of job 4294967294. -/
theorem unset_leader_differs :
    ¬ SameIdentity asciiHost asciiNumerals (.obj unsetRecord) "cluster" 7 4294967294 := by
  intro hsame
  obtain ⟨job, hjob, hidentity⟩ := hsame.inspected
  have hinspected : (inspectedJob asciiNumerals (.obj unsetRecord) "cluster").toOption.map
      SlurmJob.canonicalJobId = some "4294967294" := by decide
  rw [hjob] at hinspected
  have htext : job.canonicalJobId = "4294967294" := Option.some.inj hinspected
  rw [htext] at hidentity
  revert hidentity
  decide

end QfwSlurm
