import Mathlib.Data.List.DropRight
import QfwSlurm.C.Strings
import QfwSlurm.Native.Options

/-!
# The configuration of the plugin

`qfw_plugin_config_load` reads sections and keys line by line, and checks the result.
`loaded_of_load` says what holds of a configuration that it accepts.  The table of resources maps a
public name to a service id, and a service id is mapped to itself where no earlier resource has it
as its name; `resolves_twice_iff` says for which tables that is always so.
-/

namespace QfwSlurm.Native

/-- `struct qfw_resource_mapping` -/
structure ResourceMapping where
  name : List UInt8
  serviceId : List UInt8 := []
  deriving DecidableEq

/-- `struct qfw_plugin_config`, as `qfw_plugin_config_init` leaves it. -/
structure PluginConfig where
  gatewayHost : List UInt8 := []
  gatewayPort : List UInt8 := []
  connectTimeoutMs : ℕ := 5000
  requestTimeoutMs : ℕ := 120000
  maxCredentialBytes : ℕ := 512 * 1024
  expectedMungeUid : ℕ := 2 ^ 32 - 1
  resources : List ResourceMapping := []
  deriving DecidableEq

/-- The file behind the path: what `open`, `fstat` and `fdopen` say of it, and what is read. -/
structure ConfigFile where
  isRegular : Bool := true
  ownerUid : ℕ := 0
  /-- `S_IWGRP` or `S_IWOTH` -/
  isWritable : Bool := false
  opens : Bool := true
  readFails : Bool := false
  content : List UInt8

/-- `isspace` -/
def isSpaceByte (b : UInt8) : Bool := b = 32 || (9 ≤ b.toNat && b.toNat ≤ 13)

/-- `trim` -/
def trim (value : List UInt8) : List UInt8 := (value.dropWhile isSpaceByte).rdropWhile isSpaceByte

/-- `copy_value` -/
def copyValue (capacity : ℕ) (value : List UInt8) : Option (List UInt8) :=
  if value.length = 0 ∨ capacity ≤ value.length then none else some value

/-- `strtoull` on a whole string, which may have a sign; a negative number wraps. -/
def strtoull (value : List UInt8) : Option ℕ :=
  let text := value.dropWhile isSpaceByte
  let digits := match text with
    | 43 :: rest | 45 :: rest => rest
    | rest => rest
  if digits = [] ∨ ¬ digits.all isDigitByte then none
  else if 2 ^ 64 ≤ decimalValue digits then none
  else if text.head? = some 45 then some ((2 ^ 64 - decimalValue digits) % 2 ^ 64)
  else some (decimalValue digits)

/-- `parse_u32` of the configuration. -/
def parseConfigU32 (value : List UInt8) : Option ℕ :=
  match strtoull value with
  | some parsed => if parsed < 2 ^ 32 then some parsed else none
  | none => none

/-- `parse_expected_uid` -/
def parseExpectedUid (getpwnam : List UInt8 → Option ℕ) (value : List UInt8) : Option ℕ :=
  match parseConfigU32 value with
  | some numeric => some numeric
  | none => getpwnam value

/-- `parse_resource_header`, for what stands between the brackets. -/
def parseResourceHeader (line : List UInt8) : Option (List UInt8) :=
  let start := utf8 "resource \""
  if line.length ≤ start.length + 1 ∨ ¬ start <+: line ∨ line.getLast? ≠ some 34 then none
  else
    let name := (line.drop start.length).dropLast
    if name.length = 0 ∨ maxResourceName + 1 ≤ name.length then none else some name

/-- `section` of `qfw_plugin_config_load`; the resource of a section is the last one. -/
inductive ConfigSection where
  | none
  | gateway
  | resource
  deriving DecidableEq

/-- A key of the gateway section. -/
def readGatewayKey (getpwnam : List UInt8 → Option ℕ) (config : PluginConfig)
    (key value : List UInt8) : Option PluginConfig :=
  if key = utf8 "host" then (copyValue 257 value).map ({ config with gatewayHost := · })
  else if key = utf8 "port" then (copyValue 17 value).map ({ config with gatewayPort := · })
  else if key = utf8 "connect_timeout_ms" then
    (parseConfigU32 value).map ({ config with connectTimeoutMs := · })
  else if key = utf8 "request_timeout_ms" then
    (parseConfigU32 value).map ({ config with requestTimeoutMs := · })
  else if key = utf8 "max_credential_bytes" then
    (strtoull value).map ({ config with maxCredentialBytes := · })
  else if key = utf8 "expected_munge_uid" then
    (parseExpectedUid getpwnam value).map ({ config with expectedMungeUid := · })
  else none

/-- A key of the section of the last resource. -/
def readResourceKey (config : PluginConfig) (key value : List UInt8) : Option PluginConfig :=
  match config.resources.getLast? with
  | none => none
  | some resource =>
    if key ≠ utf8 "service_id" ∨ resource.serviceId ≠ [] then none
    else (copyValue (maxServiceId + 1) value).map fun value =>
      { config with
        resources := config.resources.dropLast ++ [{ resource with serviceId := value }] }

/-- A section header; `key` begins with a bracket. -/
def readHeader (config : PluginConfig) (key : List UInt8) : Option (ConfigSection × PluginConfig) :=
  if key.length < 3 ∨ key.getLast? ≠ some 93 then none
  else
    let header := (key.drop 1).dropLast
    if header = utf8 "gateway" then some (.gateway, config)
    else if maxServices ≤ config.resources.length then none
    else (parseResourceHeader header).map fun name =>
      (.resource, { config with resources := config.resources ++ [{ name := name }] })

/-- The body of the loop of `qfw_plugin_config_load`, `none` for an invalid line. -/
def readConfigLine (getpwnam : List UInt8 → Option ℕ) (state : ConfigSection × PluginConfig)
    (line : List UInt8) : Option (ConfigSection × PluginConfig) :=
  let (current, config) := state
  let key := trim line
  if key = [] ∨ key.head? = some 35 ∨ key.head? = some 59 then some state
  else if key.head? = some 91 then readHeader config key
  else if 61 ∉ key then none
  else
    let value := trim ((key.dropWhile (· ≠ 61)).drop 1)
    let key := trim (key.takeWhile (· ≠ 61))
    if key = [] ∨ value = [] then none
    else
      match current with
      | .gateway => (readGatewayKey getpwnam config key value).map (current, ·)
      | .resource => (readResourceKey config key value).map (current, ·)
      | .none => none

/-- The loop of `qfw_plugin_config_load`; a line is a string, so it ends at a NUL byte. -/
def readConfigLines (getpwnam : List UInt8 → Option ℕ) (number : ℕ)
    (state : ConfigSection × PluginConfig) : List (List UInt8) → Except String PluginConfig
  | [] => .ok state.2
  | line :: lines =>
    match readConfigLine getpwnam state (C.stringOf line) with
    | none => .error s!"invalid plugin configuration at line {number}"
    | some state => readConfigLines getpwnam (number + 1) state lines

/-- The check of the resources, each with those before it. -/
def checkResources (before : List ResourceMapping) : List ResourceMapping → Except String Unit
  | [] => .ok ()
  | resource :: resources =>
    if resource.serviceId = [] then .error "resource is missing service_id"
    else if resource.name ∈ before.map ResourceMapping.name then
      .error "resource names must be unique"
    else checkResources (before ++ [resource]) resources

/-- `validate_config` -/
def validateConfig (config : PluginConfig) : Except String Unit :=
  if config.gatewayHost = [] ∨ config.gatewayPort = [] then
    .error "gateway host and port are required"
  else if config.connectTimeoutMs = 0 ∨ config.requestTimeoutMs = 0 ∨
      config.requestTimeoutMs < config.connectTimeoutMs then
    .error "gateway timeouts are invalid"
  else if config.maxCredentialBytes = 0 ∨ 512 * 1024 < config.maxCredentialBytes then
    .error "credential size limit is invalid"
  else if config.expectedMungeUid = 2 ^ 32 - 1 then .error "expected_munge_uid is required"
  else if config.resources.length = 0 then .error "at least one resource is required"
  else .ok ()

/-- `qfw_plugin_config_load`; the file is `none` when it cannot be opened. -/
def qfwPluginConfigLoad (getpwnam : List UInt8 → Option ℕ) (file : Option ConfigFile) :
    Except String PluginConfig :=
  match file with
  | none => .error "plugin configuration must be a protected root-owned file"
  | some file =>
    if ¬ file.isRegular ∨ file.ownerUid ≠ 0 ∨ file.isWritable then
      .error "plugin configuration must be a protected root-owned file"
    else if ¬ file.opens then .error "cannot open plugin configuration"
    else do
      let config ← readConfigLines getpwnam 1 (.none, {}) (Sequence.linesOf (· = 10) file.content)
      if file.readFails then .error "cannot read plugin configuration"
      else do
        checkResources [] config.resources
        validateConfig config
        return config

/-- The loop of `qfw_plugin_config_service_id`. -/
def serviceIdOf (name : List UInt8) : List ResourceMapping → Option (List UInt8)
  | [] => none
  | resource :: resources =>
    if resource.name = name then some resource.serviceId
    else if resource.serviceId = name then some resource.serviceId
    else serviceIdOf name resources

/-- `qfw_plugin_config_service_id` -/
def qfwPluginConfigServiceId (config : PluginConfig) (name : List UInt8) : Option (List UInt8) :=
  serviceIdOf name config.resources

/-! ### What is loaded -/

/-- The resources as far as the file is read: names and service ids fit their arrays, and are
strings. -/
structure ResourceMapping.Fits (resource : ResourceMapping) : Prop where
  name : resource.name ≠ [] ∧ resource.name.length ≤ maxResourceName ∧ 0 ∉ resource.name
  serviceId : resource.serviceId.length ≤ maxServiceId ∧ 0 ∉ resource.serviceId

/-- The invariant of the loop. -/
structure PluginConfig.Fits (config : PluginConfig) : Prop where
  count : config.resources.length ≤ maxServices
  each : ∀ resource ∈ config.resources, resource.Fits

/-- A configuration that is loaded. -/
structure PluginConfig.Loaded (config : PluginConfig) : Prop extends config.Fits where
  ne_nil : config.resources ≠ []
  names : (config.resources.map ResourceMapping.name).Nodup
  serviceIds : ∀ resource ∈ config.resources, resource.serviceId ≠ []

lemma mem_of_mem_trim {value : List UInt8} {b : UInt8} (h : b ∈ trim value) : b ∈ value :=
  (List.dropWhile_suffix isSpaceByte).subset ((List.rdropWhile_prefix isSpaceByte _).subset h)

lemma zero_notMem_stringOf (line : List UInt8) : 0 ∉ C.stringOf line := by
  intro hmem
  exact absurd (List.mem_takeWhile_imp hmem) (by decide)

lemma parseResourceHeader_eq_some {line name : List UInt8} (h : parseResourceHeader line = some name) :
    name ≠ [] ∧ name.length ≤ maxResourceName ∧ ∀ b ∈ name, b ∈ line := by
  unfold parseResourceHeader at h
  dsimp only at h
  split at h
  · cases h
  split at h
  · cases h
  rename_i hlength
  obtain rfl := Option.some.inj h
  rw [not_or, not_le] at hlength
  refine ⟨fun hnil => hlength.1 (by rw [hnil]; rfl), by omega, fun b hb => ?_⟩
  exact List.mem_of_mem_drop (List.mem_of_mem_dropLast hb)

/-- One line keeps the invariant. -/
lemma PluginConfig.Fits.readConfigLine {getpwnam : List UInt8 → Option ℕ}
    {state next : ConfigSection × PluginConfig} {line : List UInt8} (h : state.2.Fits)
    (hline : 0 ∉ line) (hread : readConfigLine getpwnam state line = some next) : next.2.Fits := by
  obtain ⟨current, config⟩ := state
  have hkey : 0 ∉ trim line := fun hmem => hline (mem_of_mem_trim hmem)
  unfold QfwSlurm.Native.readConfigLine at hread
  dsimp only at hread
  split at hread
  · obtain rfl := Option.some.inj hread
    exact h
  split at hread
  · -- A section header adds a resource at most.
    unfold readHeader at hread
    dsimp only at hread
    split at hread
    · cases hread
    split at hread
    · obtain rfl := Option.some.inj hread
      exact h
    split at hread
    · cases hread
    rename_i hcount
    obtain ⟨name, hname, rfl⟩ := Option.map_eq_some_iff.mp hread
    obtain ⟨hne, hlength, hmem⟩ := parseResourceHeader_eq_some hname
    refine ⟨?_, fun resource hresource => ?_⟩
    · rw [List.length_append, List.length_singleton]
      omega
    · rcases List.mem_append.mp hresource with hresource | hresource
      · exact h.each resource hresource
      · rw [List.mem_singleton.mp hresource]
        refine ⟨⟨hne, hlength, fun hzero => hkey ?_⟩, Nat.zero_le _, List.not_mem_nil⟩
        exact List.mem_of_mem_drop (List.mem_of_mem_dropLast (hmem 0 hzero))
  split at hread
  · cases hread
  split at hread
  · cases hread
  rename_i hvalue
  split at hread
  · -- The keys of the gateway leave the resources.
    obtain ⟨changed, hchanged, rfl⟩ := Option.map_eq_some_iff.mp hread
    have hresources : changed.resources = config.resources := by
      unfold readGatewayKey at hchanged
      split_ifs at hchanged
      all_goals
        obtain ⟨_, -, rfl⟩ := Option.map_eq_some_iff.mp hchanged
        rfl
    exact ⟨hresources ▸ h.count, hresources ▸ h.each⟩
  · obtain ⟨changed, hchanged, rfl⟩ := Option.map_eq_some_iff.mp hread
    unfold readResourceKey at hchanged
    split at hchanged
    · cases hchanged
    rename_i resource hlast
    split at hchanged
    · cases hchanged
    obtain ⟨serviceId, hcopy, rfl⟩ := Option.map_eq_some_iff.mp hchanged
    have hsplit : config.resources.dropLast ++ [resource] = config.resources :=
      List.dropLast_append_getLast? resource hlast
    unfold copyValue at hcopy
    split at hcopy
    · cases hcopy
    rename_i hlength
    obtain rfl := Option.some.inj hcopy
    rw [not_or, not_le] at hlength
    refine ⟨?_, fun changed hchanged => ?_⟩
    · have hcount := h.count
      rw [← hsplit, List.length_append, List.length_singleton] at hcount
      rw [List.length_append, List.length_singleton]
      exact hcount
    · rcases List.mem_append.mp hchanged with hchanged | hchanged
      · exact h.each changed (List.dropLast_subset _ hchanged)
      · rw [List.mem_singleton.mp hchanged]
        refine ⟨(h.each resource (List.mem_of_getLast? hlast)).name,
          Nat.lt_succ_iff.mp hlength.2, fun hzero => ?_⟩
        have hmem := mem_of_mem_trim hzero
        exact hkey ((List.dropWhile_suffix _).subset (List.mem_of_mem_drop hmem))
  · cases hread

lemma PluginConfig.Fits.readConfigLines {getpwnam : List UInt8 → Option ℕ} {number : ℕ}
    {state : ConfigSection × PluginConfig} {lines : List (List UInt8)} {config : PluginConfig}
    (h : state.2.Fits) (hread : readConfigLines getpwnam number state lines = .ok config) :
    config.Fits := by
  induction lines generalizing number state with
  | nil =>
    obtain rfl := Except.ok.inj hread
    exact h
  | cons line lines ih =>
    rw [QfwSlurm.Native.readConfigLines] at hread
    rcases hline : QfwSlurm.Native.readConfigLine getpwnam state (C.stringOf line) with - | next
    · rw [hline] at hread
      cases hread
    · rw [hline] at hread
      exact ih (h.readConfigLine (zero_notMem_stringOf line) hline) hread

lemma checkResources_eq_ok_iff {before resources : List ResourceMapping} :
    checkResources before resources = .ok () ↔
      (∀ resource ∈ resources, resource.serviceId ≠ []) ∧
        (resources.map ResourceMapping.name).Nodup ∧
        ∀ resource ∈ resources, resource.name ∉ before.map ResourceMapping.name := by
  induction resources generalizing before with
  | nil =>
    refine iff_of_true rfl ⟨fun _ h => absurd h List.not_mem_nil, List.nodup_nil,
      fun _ h => absurd h List.not_mem_nil⟩
  | cons resource resources ih =>
    rw [checkResources, List.forall_mem_cons, List.forall_mem_cons, List.map_cons, List.nodup_cons]
    by_cases hempty : resource.serviceId = []
    · rw [if_pos hempty]
      exact iff_of_false nofun fun h => h.1.1 hempty
    · rw [if_neg hempty]
      by_cases hmem : resource.name ∈ before.map ResourceMapping.name
      · rw [if_pos hmem]
        exact iff_of_false nofun fun h => h.2.2.1 hmem
      · rw [if_neg hmem, ih]
        simp only [List.map_append, List.map_cons, List.map_nil, List.mem_append,
          List.mem_singleton, not_or]
        constructor
        · rintro ⟨hids, hnodup, hnew⟩
          refine ⟨⟨hempty, hids⟩, ⟨fun hagain => ?_, hnodup⟩, hmem, fun other h => (hnew other h).1⟩
          obtain ⟨other, hother, hname⟩ := List.mem_map.mp hagain
          exact (hnew other hother).2 hname
        · rintro ⟨⟨-, hids⟩, ⟨hfresh, hnodup⟩, -, hnew⟩
          refine ⟨hids, hnodup, fun other hother => ⟨hnew other hother, fun hname => hfresh ?_⟩⟩
          rw [← hname]
          exact List.mem_map_of_mem hother

/-- What holds of a configuration that is loaded. -/
theorem loaded_of_load {getpwnam : List UInt8 → Option ℕ} {file : Option ConfigFile}
    {config : PluginConfig} (h : qfwPluginConfigLoad getpwnam file = .ok config) : config.Loaded := by
  unfold qfwPluginConfigLoad at h
  split at h
  · cases h
  split at h
  · cases h
  split at h
  · cases h
  obtain ⟨read, hread, h⟩ := bind_eq_ok_iff.mp h
  split at h
  · cases h
  obtain ⟨_, hcheck, h⟩ := bind_eq_ok_iff.mp h
  obtain ⟨_, hvalidate, h⟩ := bind_eq_ok_iff.mp h
  obtain rfl := Except.ok.inj h
  have hempty : ({} : PluginConfig).Fits :=
    ⟨Nat.zero_le _, fun resource hresource => absurd hresource List.not_mem_nil⟩
  obtain ⟨hids, hnames, -⟩ := checkResources_eq_ok_iff.mp hcheck
  refine ⟨hempty.readConfigLines hread, fun hnil => ?_, hnames, hids⟩
  unfold validateConfig at hvalidate
  have hzero : read.resources.length = 0 := by rw [hnil]; rfl
  split_ifs at hvalidate

/-! ### Resources -/

/-- What a text is compared with. -/
def ResourceMapping.Matches (name : List UInt8) (resource : ResourceMapping) : Prop :=
  resource.name = name ∨ resource.serviceId = name

instance (name : List UInt8) (resource : ResourceMapping) : Decidable (resource.Matches name) :=
  inferInstanceAs (Decidable (_ ∨ _))

/-- The loop finds the first resource that matches. -/
lemma serviceIdOf_eq_find (name : List UInt8) (resources : List ResourceMapping) :
    serviceIdOf name resources =
      (resources.find? fun resource => resource.Matches name).map ResourceMapping.serviceId := by
  induction resources with
  | nil => rfl
  | cons resource resources ih =>
    rw [serviceIdOf, List.find?_cons]
    by_cases hmatch : resource.Matches name
    · rw [decide_eq_true hmatch, ← ite_or]
      exact if_pos hmatch
    · rw [decide_eq_false hmatch, ← ite_or, ← ih]
      exact if_neg hmatch

/-- The first of the resources that match a text. -/
lemma exists_first_match {name : List UInt8} {resources : List ResourceMapping}
    (h : ∃ resource ∈ resources, resource.Matches name) : ∃ before resource after,
      resources = before ++ resource :: after ∧ resource.Matches name ∧
        ∀ earlier ∈ before, ¬ earlier.Matches name := by
  have hsome : (resources.find? fun resource => resource.Matches name).isSome = true := by
    rw [List.find?_isSome]
    simpa using h
  obtain ⟨resource, hfind⟩ := Option.isSome_iff_exists.mp hsome
  obtain ⟨hmatch, before, after, hsplit, hbefore⟩ := List.find?_eq_some_iff_append.mp hfind
  exact ⟨before, resource, after, hsplit, of_decide_eq_true hmatch, by simpa using hbefore⟩

/-- The service id that is found is that of the first resource that matches. -/
lemma serviceIdOf_eq_some_iff {name serviceId : List UInt8} {resources : List ResourceMapping} :
    serviceIdOf name resources = some serviceId ↔ ∃ before resource after,
      resources = before ++ resource :: after ∧ resource.serviceId = serviceId ∧
        resource.Matches name ∧ ∀ earlier ∈ before, ¬ earlier.Matches name := by
  rw [serviceIdOf_eq_find, Option.map_eq_some_iff]
  constructor
  · rintro ⟨resource, hfind, hid⟩
    obtain ⟨hmatch, before, after, hsplit, hbefore⟩ := List.find?_eq_some_iff_append.mp hfind
    exact ⟨before, resource, after, hsplit, hid, of_decide_eq_true hmatch, by simpa using hbefore⟩
  · rintro ⟨before, resource, after, hsplit, hid, hmatch, hbefore⟩
    refine ⟨resource, List.find?_eq_some_iff_append.mpr ⟨decide_eq_true hmatch, before, after,
      hsplit, ?_⟩, hid⟩
    simpa using hbefore

/-- A name is mapped to the service id of its resource where no earlier one has it as service id. -/
lemma serviceIdOf_name {before after : List ResourceMapping} {resource : ResourceMapping}
    (hnodup : ((before ++ resource :: after).map ResourceMapping.name).Nodup)
    (hbefore : ∀ earlier ∈ before, earlier.serviceId ≠ resource.name) :
    serviceIdOf resource.name (before ++ resource :: after) = some resource.serviceId := by
  refine serviceIdOf_eq_some_iff.mpr ⟨before, resource, after, rfl, rfl, .inl rfl, ?_⟩
  rintro earlier hearlier (hname | hid)
  · rw [List.map_append, List.map_cons, List.nodup_append] at hnodup
    exact hnodup.2.2 _ (List.mem_map_of_mem hearlier) _ List.mem_cons_self hname
  · exact hbefore earlier hearlier hid

/-- Where the name of a resource with another service id is the service id of a later resource,
either a resource before both has it as its service id, or the name of the later one is a service
id itself, of a resource before it. -/
def ServiceIdsKept (resources : List ResourceMapping) : Prop :=
  ∀ before resource between target after,
    resources = before ++ resource :: (between ++ target :: after) →
    target.serviceId = resource.name → resource.serviceId ≠ resource.name →
    (∃ earlier ∈ before, earlier.serviceId = resource.name) ∨
      ∃ earlier ∈ before ++ resource :: between, earlier.serviceId = target.name

section Resources

variable {resources : List ResourceMapping}

/-- Where service ids are mapped to themselves, none is hidden: the service id of the later resource
would be mapped to that of the earlier one. -/
lemma serviceIdsKept_of_resolves (hnodup : (resources.map ResourceMapping.name).Nodup)
    (htwice : ∀ name serviceId, serviceIdOf name resources = some serviceId →
      serviceIdOf serviceId resources = some serviceId) : ServiceIdsKept resources := by
  rintro before resource between target after rfl htarget hother
  by_contra hnone
  rw [not_or, not_exists, not_exists] at hnone
  obtain ⟨hbefore, hbetween⟩ := hnone
  have hmapped := serviceIdOf_name hnodup fun earlier hmem hid => hbefore earlier ⟨hmem, hid⟩
  have hfound : serviceIdOf target.name (before ++ resource :: (between ++ target :: after)) =
      some target.serviceId := by
    rw [← List.cons_append, ← List.append_assoc] at hnodup ⊢
    exact serviceIdOf_name hnodup fun earlier hmem hid => hbetween earlier ⟨hmem, hid⟩
  have hagain := htwice target.name target.serviceId hfound
  rw [htarget, hmapped] at hagain
  exact hother (Option.some.inj hagain)

/-- Where none is hidden, a service id that is found is mapped to itself: to its resource, or to an
earlier one, which has this service id too. -/
lemma resolves_of_serviceIdsKept (hkept : ServiceIdsKept resources) {name serviceId : List UInt8}
    (hname : serviceIdOf name resources = some serviceId) :
    serviceIdOf serviceId resources = some serviceId := by
  obtain ⟨before, target, after, hsplit, htarget, hmatch, hbefore⟩ :=
    serviceIdOf_eq_some_iff.mp hname
  by_cases hhidden : ∃ earlier ∈ before, earlier.Matches serviceId
  swap
  · refine serviceIdOf_eq_some_iff.mpr ⟨before, target, after, hsplit, htarget, .inr htarget, ?_⟩
    exact fun earlier hmem hearlier => hhidden ⟨earlier, hmem, hearlier⟩
  obtain ⟨first, resource, between, rfl, hresource, hfirst⟩ := exists_first_match hhidden
  rw [List.append_assoc, List.cons_append] at hsplit
  refine serviceIdOf_eq_some_iff.mpr ⟨first, resource, _, hsplit, ?_, hresource, hfirst⟩
  by_contra hne
  have hresourceName : resource.name = serviceId := hresource.resolve_right hne
  -- The resource hides the service id behind its name, so an earlier one gives it away.
  rcases hkept first resource between target after hsplit (htarget.trans hresourceName.symm)
      (fun heq => hne (heq.trans hresourceName)) with
    ⟨earlier, hmem, hid⟩ | ⟨earlier, hmem, hid⟩
  · exact hfirst earlier hmem (.inr (hid.trans hresourceName))
  · rcases hmatch with htargetName | htargetId
    · exact hbefore earlier hmem (.inr (hid.trans htargetName))
    · refine hbefore resource (List.mem_append_right _ List.mem_cons_self) (.inl ?_)
      rw [hresourceName, ← htarget, htargetId]

end Resources

/-- In a configuration that is loaded, every text is mapped to a service id that is mapped to itself
if and only if no resource hides a service id behind its name. -/
theorem resolves_twice_iff (getpwnam : List UInt8 → Option ℕ) (file : Option ConfigFile)
    (config : PluginConfig) (h : qfwPluginConfigLoad getpwnam file = .ok config) :
    (∀ name serviceId, qfwPluginConfigServiceId config name = some serviceId →
        qfwPluginConfigServiceId config serviceId = some serviceId) ↔
      ServiceIdsKept config.resources := by
  have hnodup := (loaded_of_load h).names
  unfold qfwPluginConfigServiceId
  constructor
  · intro htwice
    exact serviceIdsKept_of_resolves hnodup htwice
  · intro hkept name serviceId hname
    exact resolves_of_serviceIdsKept hkept hname

/-- A configuration file that is accepted, with the resources that are given. -/
def sampleConfigFile (resources : String) : ConfigFile where
  content := utf8 ("[gateway]\nhost=h\nport=1\nexpected_munge_uid=0\n" ++ resources)

/-- The configuration in such a file. -/
def sampleConfig (resources : List ResourceMapping) : PluginConfig where
  gatewayHost := utf8 "h"
  gatewayPort := utf8 "1"
  expectedMungeUid := 0
  resources := resources

/-- Two resources that stand for services with other names. -/
def sampleTwoResources : PluginConfig :=
  sampleConfig [⟨utf8 "a", utf8 "s"⟩, ⟨utf8 "b", utf8 "t"⟩]

theorem resolves_twice_iff_sample :
    (∀ name serviceId, qfwPluginConfigServiceId sampleTwoResources name = some serviceId →
        qfwPluginConfigServiceId sampleTwoResources serviceId = some serviceId) ↔
      ServiceIdsKept sampleTwoResources.resources :=
  resolves_twice_iff (fun _ => none)
    (some (sampleConfigFile "[resource \"a\"]\nservice_id=s\n[resource \"b\"]\nservice_id=t\n"))
    sampleTwoResources (by decide +kernel)

/-- The service of the second resource is the name of the first one. -/
theorem hidden_service_differs :
    ¬ ∀ (getpwnam : List UInt8 → Option ℕ) (file : Option ConfigFile) (config : PluginConfig),
      qfwPluginConfigLoad getpwnam file = .ok config →
      ∀ name serviceId, qfwPluginConfigServiceId config name = some serviceId →
        qfwPluginConfigServiceId config serviceId = some serviceId := by
  intro hclaim
  have hagain := hclaim (fun _ => none)
    (some (sampleConfigFile "[resource \"b\"]\nservice_id=c\n[resource \"a\"]\nservice_id=b\n"))
    (sampleConfig [⟨utf8 "b", utf8 "c"⟩, ⟨utf8 "a", utf8 "b"⟩]) (by decide +kernel)
    (utf8 "a") (utf8 "b") (by decide +kernel)
  have hdiffers : qfwPluginConfigServiceId
      (sampleConfig [⟨utf8 "b", utf8 "c"⟩, ⟨utf8 "a", utf8 "b"⟩]) (utf8 "b") = some (utf8 "c") := by
    decide +kernel
  rw [hdiffers] at hagain
  exact absurd hagain (by decide +kernel)

end QfwSlurm.Native
