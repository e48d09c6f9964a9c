import Mathlib.Data.List.Sort
import QfwSlurm.Native.Frames
import QfwSlurm.Native.OptionSequences
import QfwSlurm.Native.PluginConfig

/-!
# The reserve request of the native client

`qfw_build_reserve_request` maps the requested names to services, and sorts these.  Several names
may stand for one service, and then the request that is built has a service twice, which the encoders
refuse: `built_request_sendable_iff`.
-/

namespace C

/-! ### The order of strings -/

variable {left right : List UInt8}

lemma strcmp_nonpos_iff (hleft : 0 ∉ left) (hright : 0 ∉ right) :
    strcmp left right ≤ 0 ↔ sortKey left ≤ sortKey right := by
  rw [← not_lt, strcmp_pos_iff hleft hright, not_lt]

lemma strcmp_neg_iff (hleft : 0 ∉ left) (hright : 0 ∉ right) :
    strcmp left right < 0 ↔ sortKey left < sortKey right := by
  rw [lt_iff_le_and_ne, strcmp_nonpos_iff hleft hright, ne_eq, strcmp_eq_zero_iff hleft hright,
    lt_iff_le_and_ne, ne_eq, sortKey_injective.eq_iff]

/-- `qsort` of strings with `strcmp`. -/
def sortStrings (texts : List (List UInt8)) : List (List UInt8) :=
  texts.insertionSort fun a b => strcmp a b ≤ 0

lemma perm_sortStrings (texts : List (List UInt8)) : (sortStrings texts).Perm texts :=
  List.perm_insertionSort _ _

/-- Sorted strings are increasing when they are distinct. -/
theorem sortStrings_increasing_iff {texts : List (List UInt8)} (h : ∀ text ∈ texts, 0 ∉ text) :
    (sortStrings texts).Pairwise (fun a b => strcmp a b < 0) ↔ texts.Nodup := by
  have hplain : ∀ text ∈ sortStrings texts, 0 ∉ text := fun text htext =>
    h text ((perm_sortStrings texts).mem_iff.mp htext)
  have hkeys : (sortStrings texts).map sortKey = (texts.map sortKey).insertionSort (· ≤ ·) :=
    List.map_insertionSort _ _ _ _ fun a ha b hb => strcmp_nonpos_iff (h a ha) (h b hb)
  have hsorted : ((sortStrings texts).map sortKey).Pairwise (· ≤ ·) := by
    rw [hkeys]
    exact List.pairwise_insertionSort _ _
  have hle : (sortStrings texts).Pairwise fun a b => sortKey a ≤ sortKey b :=
    List.pairwise_map.mp hsorted
  rw [← (perm_sortStrings texts).nodup_iff]
  constructor
  · intro hincreasing
    refine hincreasing.imp_of_mem fun {a b} ha hb hlt heq => ?_
    rw [strcmp_neg_iff (hplain a ha) (hplain b hb), heq] at hlt
    exact lt_irrefl _ hlt
  · intro hnodup
    refine (hle.and hnodup).imp_of_mem fun {a b} ha hb hab => ?_
    rw [strcmp_neg_iff (hplain a ha) (hplain b hb)]
    exact lt_of_le_of_ne hab.1 fun heq => hab.2 (sortKey_injective heq)

end C

namespace QfwSlurm.Native

/-- `struct qfw_allocation_context` -/
structure AllocationContext where
  clusterName : List UInt8 := []
  canonicalJobId : ℕ := 0
  allocationEpoch : ℕ := 0
  jobUid : ℕ := 0
  jobGid : ℕ := 0
  walltimeNs : ℕ := 0
  heteroJobId : ℕ := 0
  heteroComponent : ℕ := 0
  hasHetero : Bool := false
  deriving DecidableEq

/-- The values of the types in C. -/
structure AllocationContext.Typed (allocation : AllocationContext) : Prop where
  clusterName : 0 ∉ allocation.clusterName
  canonicalJobId : allocation.canonicalJobId < 2 ^ 64
  allocationEpoch : allocation.allocationEpoch < 2 ^ 64
  jobUid : allocation.jobUid < 2 ^ 32
  jobGid : allocation.jobGid < 2 ^ 32
  walltimeNs : allocation.walltimeNs < 2 ^ 64
  heteroJobId : allocation.heteroJobId < 2 ^ 64
  heteroComponent : allocation.heteroComponent < 2 ^ 32

/-- `fnv1a_byte` -/
def fnv1aByte (hash value : ℕ) : ℕ := (hash ^^^ value) * 1099511628211 % 2 ^ 64

/-- `fnv1a_u64` -/
def fnv1aU64 (hash value : ℕ) : ℕ :=
  (List.range 8).foldl (fun hash byte => fnv1aByte hash (value / 2 ^ (8 * byte) % 256)) hash

/-- `qfw_request_id` -/
def qfwRequestId (clusterName : List UInt8) (jobId allocationEpoch operation : ℕ) : ℕ :=
  let hash := clusterName.foldl (fun hash b => fnv1aByte hash b.toNat) 1469598103934665603
  let hash := fnv1aByte hash 0
  let hash := fnv1aU64 (fnv1aU64 (fnv1aU64 hash jobId) allocationEpoch) operation
  if hash = 0 then 2 ^ 64 - 1 else hash

/-- The loop of `qfw_build_reserve_request` over the names. -/
def resolveNames (config : PluginConfig) :
    List (List UInt8) → Except (List UInt8) (List (List UInt8))
  | [] => .ok []
  | name :: names =>
    match qfwPluginConfigServiceId config name with
    | none => .error (utf8 "QPU resource is not configured: " ++ name)
    | some serviceId => do
      return serviceId.take maxServiceId :: (← resolveNames config names)

/-- `qfw_build_reserve_request`, with the fields of the allocation context as its other
arguments. -/
def qfwBuildReserveRequest (config : PluginConfig) (options : QuantumOptions)
    (allocation : AllocationContext) : Except (List UInt8) QsgpReserveRequest :=
  if allocation.clusterName = [] ∨ allocation.canonicalJobId = 0 ∨ allocation.walltimeNs = 0 then
    .error (utf8 "reservation metadata is invalid")
  else
    match qfwQuantumOptionsValidate options with
    | .error message => .error (utf8 message)
    | .ok () =>
      if maxClusterName < allocation.clusterName.length then .error (utf8 "cluster name is too long")
      else do
        let serviceIds ← resolveNames config options.qpuNames
        return {
          requestId := qfwRequestId allocation.clusterName allocation.canonicalJobId
            allocation.allocationEpoch MessageType.reserveRequest.code
          clusterName := allocation.clusterName
          canonicalJobId := allocation.canonicalJobId
          heteroJobId := if allocation.hasHetero then allocation.heteroJobId else 0
          heteroComponent := if allocation.hasHetero then allocation.heteroComponent else 0
          hasHeteroJobId := allocation.hasHetero
          hasHeteroComponent := allocation.hasHetero
          jobUid := allocation.jobUid
          jobGid := allocation.jobGid
          workload := { options.workload with walltimeNs := allocation.walltimeNs }
          hasWorkload := true
          serviceIds := C.sortStrings serviceIds }

/-! ### What is built -/

lemma fnv1aByte_lt (hash value : ℕ) : fnv1aByte hash value < 2 ^ 64 := Nat.mod_lt _ (by decide)

lemma fnv1aU64_lt {hash : ℕ} (h : hash < 2 ^ 64) (value : ℕ) : fnv1aU64 hash value < 2 ^ 64 := by
  have hfold (bytes : List ℕ) : bytes.foldl
      (fun hash byte => fnv1aByte hash (value / 2 ^ (8 * byte) % 256)) hash < 2 ^ 64 := by
    induction bytes using List.reverseRecOn with
    | nil => exact h
    | append_singleton bytes byte =>
      rw [List.foldl_append, List.foldl_cons, List.foldl_nil]
      exact fnv1aByte_lt _ _
  exact hfold (List.range 8)

lemma requestId_bounds (clusterName : List UInt8) (jobId allocationEpoch operation : ℕ) :
    NonzeroWidth 64 (qfwRequestId clusterName jobId allocationEpoch operation) := by
  unfold qfwRequestId
  dsimp only
  have hbound := fnv1aU64_lt (fnv1aU64_lt (fnv1aU64_lt (fnv1aByte_lt
    (clusterName.foldl (fun hash b => fnv1aByte hash b.toNat) 1469598103934665603) 0) jobId)
    allocationEpoch) operation
  generalize fnv1aU64 (fnv1aU64 (fnv1aU64 (fnv1aByte
    (clusterName.foldl (fun hash b => fnv1aByte hash b.toNat) 1469598103934665603) 0) jobId)
    allocationEpoch) operation = hash at hbound ⊢
  split_ifs with hzero
  · exact ⟨by decide, by decide⟩
  · exact ⟨Nat.pos_of_ne_zero hzero, hbound⟩

/-- The services are those of the names, one for each. -/
lemma resolveNames_eq_ok {config : PluginConfig} (hconfig : config.Loaded)
    {names serviceIds : List (List UInt8)} (h : resolveNames config names = .ok serviceIds) :
    serviceIds.map some = names.map (qfwPluginConfigServiceId config) ∧
      ∀ serviceId ∈ serviceIds, CharsFit serviceId maxServiceId := by
  induction names generalizing serviceIds with
  | nil =>
    obtain rfl := Except.ok.inj h
    exact ⟨rfl, fun serviceId h => absurd h List.not_mem_nil⟩
  | cons name names ih =>
    rw [resolveNames] at h
    rcases hfound : qfwPluginConfigServiceId config name with - | serviceId
    · rw [hfound] at h
      cases h
    · rw [hfound] at h
      obtain ⟨rest, hrest, h⟩ := bind_eq_ok_iff.mp h
      obtain rfl := Except.ok.inj h
      obtain ⟨hservices, hfit⟩ := ih hrest
      obtain ⟨before, resource, after, hsplit, rfl, -⟩ := serviceIdOf_eq_some_iff.mp hfound
      have hmem : resource ∈ config.resources := by
        rw [hsplit]
        exact List.mem_append_right _ List.mem_cons_self
      obtain ⟨hlength, hplain⟩ := (hconfig.each resource hmem).serviceId
      rw [List.take_of_length_le hlength, List.map_cons, List.map_cons, hfound, hservices]
      exact ⟨rfl, List.forall_mem_cons.mpr
        ⟨⟨hconfig.serviceIds resource hmem, hlength, hplain⟩, hfit⟩⟩

/-- What is built, when the request is built. -/
lemma build_eq_ok {config : PluginConfig} {options : QuantumOptions} {allocation : AllocationContext}
    {request : QsgpReserveRequest}
    (h : qfwBuildReserveRequest config options allocation = .ok request) :
    (allocation.clusterName ≠ [] ∧ allocation.clusterName.length ≤ maxClusterName) ∧
      allocation.canonicalJobId ≠ 0 ∧ allocation.walltimeNs ≠ 0 ∧
      qfwQuantumOptionsValidate options = .ok () ∧
      ∃ serviceIds, resolveNames config options.qpuNames = .ok serviceIds ∧ request = {
        requestId := qfwRequestId allocation.clusterName allocation.canonicalJobId
          allocation.allocationEpoch MessageType.reserveRequest.code
        clusterName := allocation.clusterName
        canonicalJobId := allocation.canonicalJobId
        heteroJobId := if allocation.hasHetero then allocation.heteroJobId else 0
        heteroComponent := if allocation.hasHetero then allocation.heteroComponent else 0
        hasHeteroJobId := allocation.hasHetero
        hasHeteroComponent := allocation.hasHetero
        jobUid := allocation.jobUid
        jobGid := allocation.jobGid
        workload := { options.workload with walltimeNs := allocation.walltimeNs }
        hasWorkload := true
        serviceIds := C.sortStrings serviceIds } := by
  unfold qfwBuildReserveRequest at h
  split at h
  · cases h
  rename_i hmetadata
  rw [not_or, not_or] at hmetadata
  split at h
  · cases h
  rename_i hvalid
  split at h
  · cases h
  rename_i hlength
  obtain ⟨serviceIds, hserviceIds, h⟩ := bind_eq_ok_iff.mp h
  exact ⟨⟨hmetadata.1, not_lt.mp hlength⟩, hmetadata.2.1, hmetadata.2.2, hvalid, serviceIds,
    hserviceIds, (Except.ok.inj h).symm⟩

/-- The numbers of the options are within the types of their fields. -/
lemma Records.number_lt {options : QuantumOptions} {done : List SetCall}
    (h : Records options done) (hregular : options.Regular) {field : OptionField}
    (hfield : field ≠ .qpu ∧ field ≠ .workloadKind) :
    options.workload.number field < 2 ^ 64 ∧
      (field = .maxQubits → options.workload.number field < 2 ^ 32) := by
  have hvalue : options.value field = .number (options.workload.number field) := by
    obtain ⟨hqpu, hkind⟩ := hfield
    cases field with
    | qpu => exact absurd rfl hqpu
    | workloadKind => exact absurd rfl hkind
    | _ => rfl
  by_cases hmem : field ∈ options.presentFields
  · obtain ⟨first, hfirst⟩ := (h.present field).mp hmem
    obtain ⟨haccepts, hmeant⟩ := h.value field first hfirst
    obtain ⟨hqpu, hkind⟩ := hfield
    rw [hvalue] at hmeant
    cases field with
    | qpu => exact absurd rfl hqpu
    | workloadKind => exact absurd rfl hkind
    | maxQubits =>
      rw [OptionValue.number.inj hmeant]
      exact ⟨haccepts.2.trans (by decide), fun _ => haccepts.2⟩
    | _ =>
      rw [OptionValue.number.inj hmeant]
      exact ⟨haccepts.2, nofun⟩
  · have hinitial := hregular.initial field hmem
    rw [hvalue] at hinitial
    have hzero : options.workload.number field = 0 := by
      obtain ⟨hqpu, hkind⟩ := hfield
      cases field with
      | qpu => exact absurd rfl hqpu
      | workloadKind => exact absurd rfl hkind
      | _ => exact OptionValue.number.inj hinitial
    rw [hzero]
    exact ⟨by decide, fun _ => by decide⟩

/-- What a valid set of options holds, once one of them is set. -/
structure Requested (options : QuantumOptions) : Prop where
  names : options.qpuNames ≠ [] ∧ options.qpuNames.length ≤ maxServices
  kind : 1 ≤ options.workload.kind ∧ options.workload.kind ≤ 2
  nonzero : ∀ field ∈ requiredOptions, field ≠ .qpu → field ≠ .workloadKind →
    options.workload.number field ≠ 0

lemma requested_of_valid {options : QuantumOptions} {done : List SetCall}
    (h : Records options done) (hregular : options.Regular) (hactive : options.active = true)
    (hvalid : qfwQuantumOptionsValidate options = .ok ()) : Requested options := by
  have hdone : done ≠ [] := by
    rintro rfl
    have hempty : options.presentFields = ∅ :=
      Finset.eq_empty_of_forall_notMem fun field hfield => by
        obtain ⟨first, hfirst⟩ := (h.present field).mp hfield
        cases hfirst
    rw [hregular.active, hempty] at hactive
    exact absurd hactive (by decide)
  have hrequired := ((h.validate_iff hregular).mp hvalid).resolve_left hdone
  have hvalue (field : OptionField) (hfield : field ∈ requiredOptions) :
      ∃ first, field.Accepts first ∧ options.value field = field.meaning first ∧
        options.value field ≠ .number 0 := by
    obtain ⟨first, parsed, hfirst, hparse, hne⟩ := hrequired field hfield
    obtain ⟨haccepts, hmeant⟩ := h.value field first hfirst
    exact ⟨first, haccepts, hmeant, hmeant ▸ (parse_eq_some_iff.mp hparse).2 ▸ hne⟩
  refine ⟨?_, ?_, fun field hfield hqpu hkind => ?_⟩
  · obtain ⟨first, haccepts, hmeant, -⟩ := hvalue .qpu (by decide)
    rw [OptionValue.names.inj hmeant]
    exact ⟨linesOf_ne_nil haccepts.ne_nil, haccepts.count⟩
  · obtain ⟨first, -, hmeant, -⟩ := hvalue .workloadKind (by decide)
    rw [OptionValue.number.inj hmeant]
    split_ifs <;> decide
  · obtain ⟨first, -, -, hne⟩ := hvalue field hfield
    intro hzero
    refine hne ?_
    cases field with
    | qpu => exact absurd rfl hqpu
    | workloadKind => exact absurd rfl hkind
    | _ => exact congrArg OptionValue.number hzero

/-- A request that is built from options that have been set can be sent when its services are
distinct. -/
lemma sendable_of_build {config : PluginConfig} (hconfig : config.Loaded) {calls : List SetCall}
    (hactive : (({} : QuantumOptions).after calls).active = true)
    {allocation : AllocationContext} (hallocation : allocation.Typed) {request : QsgpReserveRequest}
    (hbuild : qfwBuildReserveRequest config (({} : QuantumOptions).after calls) allocation =
      .ok request) :
    ∃ serviceIds,
      serviceIds.map some = (({} : QuantumOptions).after calls).qpuNames.map
        (qfwPluginConfigServiceId config) ∧
      (∀ serviceId ∈ serviceIds, 0 ∉ serviceId) ∧
      request.serviceIds = C.sortStrings serviceIds ∧ request.Typed ∧
      (serviceIds.Nodup → request.Sendable) := by
  have hregular := regular_init.after calls
  have hrecords := records_after calls
  obtain ⟨hcluster, hjob, hwalltime, hvalid, serviceIds, hresolve, rfl⟩ := build_eq_ok hbuild
  obtain ⟨hservices, hfit⟩ := resolveNames_eq_ok hconfig hresolve
  obtain ⟨hnames, hkind, hnonzero⟩ := requested_of_valid hrecords hregular hactive hvalid
  have hnumber (field : OptionField) (hqpu : field ≠ .qpu) (hother : field ≠ .workloadKind) :=
    hrecords.number_lt hregular (⟨hqpu, hother⟩ : field ≠ .qpu ∧ field ≠ .workloadKind)
  have hid := requestId_bounds allocation.clusterName allocation.canonicalJobId
    allocation.allocationEpoch MessageType.reserveRequest.code
  have hsorted {serviceId : List UInt8} (h : serviceId ∈ C.sortStrings serviceIds) :
      CharsFit serviceId maxServiceId :=
    hfit serviceId ((C.perm_sortStrings serviceIds).mem_iff.mp h)
  have hcircuits := hnumber .circuitCount (by decide) (by decide)
  have hqubits := hnumber .maxQubits (by decide) (by decide)
  have hdepth := hnumber .maxDepth (by decide) (by decide)
  have hshots := hnumber .maxShots (by decide) (by decide)
  have honeq := hnumber .maxOneQGates (by decide) (by decide)
  have htwoq := hnumber .maxTwoQGates (by decide) (by decide)
  have hmeasured := hnumber .maxMeasurements (by decide) (by decide)
  generalize qfwRequestId allocation.clusterName allocation.canonicalJobId
    allocation.allocationEpoch MessageType.reserveRequest.code = requestId at hid
  generalize ({} : QuantumOptions).after calls = options at *
  have htyped : QsgpWorkload.Typed { options.workload with walltimeNs := allocation.walltimeNs } :=
    ⟨lt_of_le_of_lt hkind.2 (by decide), hallocation.walltimeNs, hcircuits.1, hqubits.2 rfl,
      hdepth.1, hshots.1, honeq.1, htwoq.1, hmeasured.1⟩
  have hhetero {has : Bool} {n bound : ℕ} (hn : n < bound) (hpos : 0 < bound) :
      (if has = true then n else 0) < bound := by
    split_ifs
    · exact hn
    · exact hpos
  refine ⟨serviceIds, hservices, fun serviceId h => (hfit serviceId h).plain, rfl, ?_, fun hnodup => ?_⟩
  · exact ⟨hid.2, hallocation.clusterName, hallocation.canonicalJobId,
      hhetero hallocation.heteroJobId (by decide), hhetero hallocation.heteroComponent (by decide),
      hallocation.jobUid, hallocation.jobGid, htyped, fun serviceId h => (hsorted h).plain⟩
  · have hlength : (C.sortStrings serviceIds).length = options.qpuNames.length := by
      rw [(C.perm_sortStrings serviceIds).length_eq]
      have hlengths := congrArg List.length hservices
      rw [List.length_map, List.length_map] at hlengths
      exact hlengths
    exact {
      requestId := hid
      clusterName := ⟨hcluster.1, hcluster.2, hallocation.clusterName⟩
      canonicalJobId := ⟨Nat.pos_of_ne_zero hjob, hallocation.canonicalJobId⟩
      together := rfl
      heteroJobId := fun _ => hhetero hallocation.heteroJobId (by decide)
      heteroComponent := fun _ => hhetero hallocation.heteroComponent (by decide)
      jobUid := hallocation.jobUid
      jobGid := hallocation.jobGid
      hasWorkload := rfl
      workload := {
        kind := hkind
        walltimeNs := ⟨Nat.pos_of_ne_zero hwalltime, hallocation.walltimeNs⟩
        circuitCount := ⟨Nat.pos_of_ne_zero
          (hnonzero .circuitCount (by decide) (by decide) (by decide)), hcircuits.1⟩
        maxQubits := ⟨Nat.pos_of_ne_zero
          (hnonzero .maxQubits (by decide) (by decide) (by decide)), hqubits.2 rfl⟩
        maxDepth := ⟨Nat.pos_of_ne_zero
          (hnonzero .maxDepth (by decide) (by decide) (by decide)), hdepth.1⟩
        maxShots := ⟨Nat.pos_of_ne_zero
          (hnonzero .maxShots (by decide) (by decide) (by decide)), hshots.1⟩
        maxOneQGates := fun _ => honeq.1
        maxTwoQGates := fun _ => htwoq.1
        maxMeasurements := fun _ => hmeasured.1 }
      count := by
        rw [hlength]
        exact ⟨List.length_pos_of_ne_nil hnames.1, hnames.2⟩
      distinct := (C.perm_sortStrings serviceIds).nodup_iff.mpr hnodup
      services := fun serviceId h => hsorted h }

/-- For a loaded configuration and options that have been set and are valid, the services of a
request that is built are increasing and both encoders accept it, if and only if no two requested
names stand for one service. -/
theorem built_request_sendable_iff (getpwnam : List UInt8 → Option ℕ) (file : Option ConfigFile)
    (config : PluginConfig) (hload : qfwPluginConfigLoad getpwnam file = .ok config)
    (calls : List SetCall) (hactive : (({} : QuantumOptions).after calls).active = true)
    (allocation : AllocationContext) (hallocation : allocation.Typed) (request : QsgpReserveRequest)
    (hbuild : qfwBuildReserveRequest config (({} : QuantumOptions).after calls) allocation =
      .ok request) :
    (request.serviceIds.Pairwise (fun a b => C.strcmp a b < 0) ∧
      ∀ correlationId, correlationId ≠ 0 →
        (∃ bytes, qsgpEncodeReserveRequest request correlationId = .ok bytes) ∧
        ∃ bytes, qsgpEncodeEvaluateRequest request correlationId = .ok bytes) ↔
      ((({} : QuantumOptions).after calls).qpuNames.map
        (qfwPluginConfigServiceId config)).Nodup := by
  obtain ⟨serviceIds, hservices, hplain, hsorted, htyped, hsendable⟩ :=
    sendable_of_build (loaded_of_load hload) hactive hallocation hbuild
  have hnodup : serviceIds.Nodup ↔ ((({} : QuantumOptions).after calls).qpuNames.map
      (qfwPluginConfigServiceId config)).Nodup := by
    rw [← hservices]
    exact (List.nodup_map_iff (Option.some_injective _)).symm
  rw [← hnodup, hsorted, C.sortStrings_increasing_iff hplain]
  constructor
  · exact And.left
  · intro hdistinct
    refine ⟨hdistinct, fun correlationId hcorrelation => ⟨?_, ?_⟩⟩
    · exact ⟨_, (qsgpEncodeReserveRequest_eq_ok_iff htyped).mpr
        ⟨hsendable hdistinct, hcorrelation, rfl⟩⟩
    · exact ⟨_, (qsgpEncodeEvaluateRequest_eq_ok_iff htyped).mpr
        ⟨hsendable hdistinct, hcorrelation, rfl⟩⟩

/-- Calls for the required options, with these names. -/
def sampleCalls (names : String) : List SetCall :=
  [⟨1, utf8 names⟩, ⟨2, utf8 "hybrid"⟩, ⟨4, utf8 "20"⟩, ⟨8, utf8 "5"⟩, ⟨16, utf8 "120"⟩,
    ⟨32, utf8 "1024"⟩]

/-- An allocation of one second. -/
def sampleAllocation : AllocationContext where
  clusterName := utf8 "c"
  canonicalJobId := 7
  allocationEpoch := 1
  jobUid := 1000
  jobGid := 1000
  walltimeNs := 1000000000

/-- The request for this allocation, with these services. -/
def sampleBuilt (serviceIds : List (List UInt8)) : QsgpReserveRequest where
  requestId := qfwRequestId (utf8 "c") 7 1 MessageType.reserveRequest.code
  clusterName := utf8 "c"
  canonicalJobId := 7
  jobUid := 1000
  jobGid := 1000
  workload := {
    kind := 2, walltimeNs := 1000000000, circuitCount := 20, maxQubits := 5, maxDepth := 120,
    maxShots := 1024 }
  hasWorkload := true
  serviceIds := serviceIds

lemma typed_sampleAllocation : sampleAllocation.Typed := by
  constructor <;> decide +kernel

/-- A request for two resources, which stand for services with other names and in the other order. -/
theorem built_request_sendable_sample :
    ((sampleBuilt [utf8 "s", utf8 "t"]).serviceIds.Pairwise (fun a b => C.strcmp a b < 0) ∧
      ∀ correlationId, correlationId ≠ 0 →
        (∃ bytes, qsgpEncodeReserveRequest (sampleBuilt [utf8 "s", utf8 "t"]) correlationId =
          .ok bytes) ∧
        ∃ bytes, qsgpEncodeEvaluateRequest (sampleBuilt [utf8 "s", utf8 "t"]) correlationId =
          .ok bytes) ↔
      ((({} : QuantumOptions).after (sampleCalls "a,b")).qpuNames.map (qfwPluginConfigServiceId
        (sampleConfig [⟨utf8 "a", utf8 "t"⟩, ⟨utf8 "b", utf8 "s"⟩]))).Nodup :=
  built_request_sendable_iff (fun _ => none)
    (some (sampleConfigFile "[resource \"a\"]\nservice_id=t\n[resource \"b\"]\nservice_id=s\n"))
    (sampleConfig [⟨utf8 "a", utf8 "t"⟩, ⟨utf8 "b", utf8 "s"⟩]) (by decide +kernel)
    (sampleCalls "a,b") (by decide +kernel) sampleAllocation typed_sampleAllocation
    (sampleBuilt [utf8 "s", utf8 "t"]) (by decide +kernel)

/-- Two names of one service are both requested. -/
theorem shared_service_differs :
    ¬ ∀ (getpwnam : List UInt8 → Option ℕ) (file : Option ConfigFile) (config : PluginConfig),
      qfwPluginConfigLoad getpwnam file = .ok config → ∀ calls : List SetCall,
      (({} : QuantumOptions).after calls).active = true →
      ∀ allocation : AllocationContext, allocation.Typed → ∀ request : QsgpReserveRequest,
      qfwBuildReserveRequest config (({} : QuantumOptions).after calls) allocation = .ok request →
      request.serviceIds.Pairwise (fun a b => C.strcmp a b < 0) ∧
        ∀ correlationId, correlationId ≠ 0 →
          (∃ bytes, qsgpEncodeReserveRequest request correlationId = .ok bytes) ∧
          ∃ bytes, qsgpEncodeEvaluateRequest request correlationId = .ok bytes := by
  intro hclaim
  have hsorted := (hclaim (fun _ => none)
    (some (sampleConfigFile "[resource \"a\"]\nservice_id=s\n[resource \"b\"]\nservice_id=s\n"))
    (sampleConfig [⟨utf8 "a", utf8 "s"⟩, ⟨utf8 "b", utf8 "s"⟩]) (by decide +kernel)
    (sampleCalls "a,b") (by decide +kernel) sampleAllocation typed_sampleAllocation
    (sampleBuilt [utf8 "s", utf8 "s"]) (by decide +kernel)).1
  exact absurd hsorted (by decide +kernel)

end QfwSlurm.Native
