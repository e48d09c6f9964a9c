import QfwSlurm.Interaction.Machine
import QfwSlurm.Slurm.Helper

/-!
# What the teardown releases

At its end every component of an allocation is torn down: the helper releases by the state file of
the component.  Something may be held after a `reserve` that was accepted or whose end is not known,
until a release is answered by `released`.  The teardown calls the driver's `release` for the
allocation if the canonical state file is missing, or if some component has a record of the
allocation that can be released; the state files are `Covered` then.  A step may end this: an
evaluation, or a reservation that is not accepted, that writes over the record by which the
allocation would be released, and a reservation of unknown end that leaves no such record.
-/

namespace QfwSlurm.Helper

open Interaction

/-! ### What may be held -/

/-- Whether the gateway may have reserved when `reserve` ends so. -/
def DriverAnswer.mayReserve : DriverAnswer → Bool
  | .notStarted _ => false
  | .result value => value.state ≠ .text "delayed" && value.state ≠ .text "rejected"
  | _ => true

def DriverAnswer.releases : DriverAnswer → Bool
  | .result value => value.state = .text "released"
  | _ => false

namespace Allocation

variable (a : Allocation)

/-- Whether something may be held after one more call of the driver. -/
def heldAfter (held : Bool) (call : DriverCall) : Bool :=
  if call.jobId ≠ a.canonicalJobId then held
  else
    match call.operation with
    | .evaluate => held
    | .reserve => held || call.answer.mayReserve
    | .release => held && !call.answer.releases

/-- Whether the allocation may hold a reservation. -/
def mayHold (w : World) : Bool := w.calls.foldl a.heldAfter false

variable {a}

lemma mayHold_call (w : World) (call : DriverCall) :
    a.mayHold (w.call call) = a.heldAfter (a.mayHold w) call := by
  unfold mayHold
  rw [World.calls_call, List.foldl_append]
  rfl

variable (a)

/-- The teardown of this component calls `release` for the allocation. -/
def Covers (files : StateFiles) (component : ℤ) : Prop :=
  ∃ record, files.read ⟨a.cluster, component⟩ = some record ∧
    record.canonicalJobId = a.canonicalJobId ∧ record.state ∈ releasableStates

/-- The teardown of one of the components calls `release` for the allocation. -/
def Covered (components : List ℤ) (files : StateFiles) : Prop :=
  files.read a.file = none ∨ ∃ component ∈ components, a.Covers files component

/-- Also without the canonical state file the teardown calls `release` for the allocation. -/
def CoveredElsewhere (components : List ℤ) (files : StateFiles) : Prop :=
  ∃ component ∈ components, component ≠ a.canonicalJobId ∧ a.Covers files component

/-- A run for a component of the allocation, with the configured name of the cluster. -/
structure ComponentRun (components : List ℤ) (run : Run) : Prop where
  cluster : run.args.cluster = a.cluster
  canonical : run.args.canonicalJobId = a.canonicalJobId ∨
    run.operation = .release ∧ run.args.canonicalJobId = run.args.jobId
  component : run.args.jobId ∈ components

end Allocation

/-- The steps after which the teardown still releases what may be held. -/
structure Careful (a : Allocation) (components : List ℤ) (w : World) (run : Run) : Prop where
  evaluate : run.operation = .evaluate → a.mayHold w = true →
    ∀ result, run.answer = .result result → a.CoveredElsewhere components w.files
  exhausted : run.operation = .reserve → a.mayHold w = true →
    run.args.maxReservationAttempts ≤ w.files.attempts a.file →
    a.CoveredElsewhere components w.files
  declined : run.operation = .reserve → a.mayHold w = true ∨ run.answer.mayReserve = true →
    w.files.attempts a.file < run.args.maxReservationAttempts →
    ∀ result, run.answer = .result result → result.state ≠ .text "accepted" →
    a.CoveredElsewhere components w.files
  lost : run.operation = .reserve → run.answer.mayReserve = true →
    w.files.attempts a.file < run.args.maxReservationAttempts → ¬ run.answer.Recorded →
    a.Covered components w.files

/-! ### The invariant -/

variable {a : Allocation} {components : List ℤ}

/-- A write of another file keeps the record of a component. -/
lemma Allocation.Covers.write {files : StateFiles} {component : ℤ}
    (h : a.Covers files component) {name : FileName} (hname : (⟨a.cluster, component⟩ : FileName) ≠ name)
    (record : StateRecord) : a.Covers (files.write name record) component := by
  obtain ⟨found, hread, hrest⟩ := h
  refine ⟨found, ?_, hrest⟩
  rw [StateFiles.read_write, if_neg hname]
  exact hread

lemma Allocation.file_ne {component : ℤ} (h : component ≠ a.canonicalJobId) :
    (⟨a.cluster, component⟩ : FileName) ≠ a.file :=
  fun heq => h (congrArg FileName.jobId heq)

/-- A write of the canonical file leaves the records of the other components. -/
lemma Allocation.CoveredElsewhere.write {files : StateFiles}
    (h : a.CoveredElsewhere components files) (record : StateRecord) :
    a.Covered components (files.write a.file record) := by
  obtain ⟨component, hmem, hother, hcovers⟩ := h
  exact .inr ⟨component, hmem, hcovers.write (Allocation.file_ne hother) record⟩

/-- What holds between the steps of careful runs. -/
structure Secured (a : Allocation) (components : List ℤ) (w : World) : Prop where
  owned : ∀ file ∈ w.files, a.Owns file
  covered : a.mayHold w = true → a.Covered components w.files

lemma owned_write {files : StateFiles} (h : ∀ file ∈ files, a.Owns file) {name : FileName}
    {record : StateRecord} (howns : a.Owns (name, record)) :
    ∀ file ∈ files.write name record, a.Owns file := by
  intro file hfile
  rcases StateFiles.mem_write hfile with rfl | hmem
  · exact howns
  · exact h file hmem

variable {w w' : World} {run : Run} {args : Args} {path : FileName}

lemma secured_of_evaluated (hsecured : Secured a components w)
    (hlocated : a.Located w.files run args path) (hpath : path = a.file)
    (hcareful : Careful a components w run) (hoperation : run.operation = .evaluate)
    (h : Evaluated args path run.answer w w') : Secured a components w' := by
  have hheld (command : List String) :
      a.mayHold (w.call ⟨.evaluate, args.canonicalJobId, command, run.answer⟩) = a.mayHold w := by
    rw [Allocation.mayHold_call, Allocation.heldAfter]
    exact ite_self _
  rcases h with - | command | ⟨command, result, epoch, attempts, hresult, -⟩
  · exact hsecured
  · exact ⟨hsecured.owned, fun hhold => hsecured.covered (hheld command ▸ hhold)⟩
  · refine ⟨owned_write hsecured.owned (hlocated.owns rfl rfl), fun hhold => ?_⟩
    have helsewhere := hcareful.evaluate hoperation (hheld command ▸ hhold) result hresult
    rw [hpath]
    exact helsewhere.write _

lemma secured_of_reserved (hsecured : Secured a components w)
    (hlocated : a.Located w.files run args path) (hpath : path = a.file)
    (hcanonical : args.canonicalJobId = a.canonicalJobId)
    (hcomponents : a.canonicalJobId ∈ components)
    (hcareful : Careful a components w run) (hoperation : run.operation = .reserve)
    (h : Reserved args path run.answer w w') : Secured a components w' := by
  have hheld (command : List String) :
      a.mayHold (w.call ⟨.reserve, args.canonicalJobId, command, run.answer⟩) =
        (a.mayHold w || run.answer.mayReserve) := by
    rw [Allocation.mayHold_call, Allocation.heldAfter, if_neg (not_not.mpr hcanonical)]
  have hlimit := hlocated.limit
  rcases h with - | ⟨epoch, attempts, hattempts, hexhausted⟩ |
    ⟨command, attempts, hattempts, hbelow, hlost⟩ |
    ⟨command, result, epoch, attempts, hattempts, hbelow, hresult, hstate⟩ |
    ⟨command, result, epoch, attempts, reservations, hattempts, hbelow, hresult, hstate, -, -⟩
  · exact hsecured
  · refine ⟨owned_write hsecured.owned (hlocated.owns rfl rfl), fun hhold => ?_⟩
    have hcount := attempts_of_ok hattempts
    rw [hpath] at hcount
    have helsewhere := hcareful.exhausted hoperation hhold (by omega)
    rw [hpath]
    exact helsewhere.write _
  · refine ⟨hsecured.owned, fun hhold => ?_⟩
    rw [hheld] at hhold
    have hcount := attempts_of_ok hattempts
    rw [hpath] at hcount
    rcases Bool.or_eq_true_iff.mp hhold with hbefore | hmay
    · exact hsecured.covered hbefore
    · exact hcareful.lost hoperation hmay (by omega) hlost
  · refine ⟨owned_write hsecured.owned (hlocated.owns rfl rfl), fun hhold => ?_⟩
    have hmay := Bool.or_eq_true_iff.mp ((hheld command).symm.trans hhold)
    have hcount := attempts_of_ok hattempts
    rw [hpath] at hcount
    have helsewhere := hcareful.declined hoperation hmay (by omega) result hresult hstate
    rw [hpath]
    exact helsewhere.write _
  · have howns : a.Owns (path, acceptedRecord args result epoch (attempts + 1) reservations) :=
      hlocated.owns rfl rfl
    have hreleasable : (acceptedRecord args result epoch (attempts + 1) reservations).state ∈
        releasableStates := by
      have hname : (acceptedRecord args result epoch (attempts + 1) reservations).state =
          "reservation-" ++ result.state.shown := rfl
      rw [hname, hstate]
      decide
    obtain hstore | ⟨hcomponent, hstore⟩ := storeAccepted_cases args path
      (acceptedRecord args result epoch (attempts + 1) reservations)
      (w.call ⟨.reserve, args.canonicalJobId, command, run.answer⟩)
    · rw [hstore]
      refine ⟨owned_write hsecured.owned howns, fun _ => .inr ⟨_, hcomponents, _, ?_, hcanonical,
        hreleasable⟩⟩
      rw [World.files_write, StateFiles.read_write]
      exact if_pos hpath.symm
    · rw [hstore]
      have hnamed : a.Owns ((⟨args.cluster, args.jobId⟩ : FileName), 
          acceptedRecord args result epoch (attempts + 1) reservations) :=
        ⟨hlocated.cluster, hlocated.cluster, .inl hcanonical⟩
      refine ⟨owned_write (owned_write hsecured.owned howns) hnamed, fun _ =>
        .inr ⟨_, hcomponents, _, ?_, hcanonical, hreleasable⟩⟩
      have hother : (⟨a.cluster, a.canonicalJobId⟩ : FileName) ≠ ⟨args.cluster, args.jobId⟩ :=
        fun heq => hcomponent ((congrArg FileName.jobId heq).symm.trans hcanonical.symm)
      rw [World.files_write, StateFiles.read_write, if_neg hother, World.files_write,
        StateFiles.read_write]
      exact if_pos hpath.symm

/-! ### Releases -/

/-- The file that a release has found, with the one that it stores into as well: either they belong
to the allocation, or a component on its own is released. -/
structure Targets (a : Allocation) (files : StateFiles) (path canonicalPath : FileName)
    (current : StateRecord) : Prop where
  owned : a.Owns (path, current)
  canonicalPath_eq : canonicalPath = ⟨a.cluster, current.canonicalJobId⟩
  read_path : files.read path = none ∧ canonicalPath = path ∨ files.read path = some current

lemma targets_of_releaseTarget (howned : ∀ file ∈ w.files, a.Owns file)
    (hlocated : a.Located w.files run args path) {target : Args} {canonicalPath : FileName}
    {current : StateRecord}
    (htarget : releaseTarget args path w.files = .ok (target, canonicalPath, current)) :
    Targets a w.files path canonicalPath current ∧
      target.canonicalJobId = current.canonicalJobId := by
  unfold releaseTarget at htarget
  rcases hread : w.files.read path with - | record
  · rw [hread] at htarget
    obtain ⟨epoch, -, hreturn⟩ := bind_eq_ok_iff.mp htarget
    obtain ⟨rfl, hrest⟩ := Prod.mk.inj (Except.ok.inj hreturn)
    obtain ⟨rfl, rfl⟩ := Prod.mk.inj hrest
    exact ⟨⟨hlocated.owns rfl rfl, hlocated.path_eq, .inl ⟨hread, rfl⟩⟩, rfl⟩
  · rw [hread] at htarget
    obtain ⟨found, hfound, hreturn⟩ := bind_eq_ok_iff.mp htarget
    obtain ⟨rfl, hrest⟩ := Prod.mk.inj (Except.ok.inj hreturn)
    obtain ⟨rfl, rfl⟩ := Prod.mk.inj hrest
    have howns := howned _ (StateFiles.mem_of_read hread)
    have hcluster : record.cluster = a.cluster := howns.cluster
    refine ⟨⟨howns, ?_, .inr hread⟩, rfl⟩
    rw [Allocation.statePath_eq_ok hfound, hcluster]

/-- A record of the allocation is stored into its canonical file. -/
lemma Targets.read_storeRelease {files : StateFiles} {canonicalPath : FileName}
    {current : StateRecord} (h : Targets a files path canonicalPath current)
    (hcanonical : current.canonicalJobId = a.canonicalJobId) (record : StateRecord) (w : World) :
    (storeRelease path canonicalPath record w).files.read a.file = some record := by
  have hfile : a.file = canonicalPath := by
    rw [h.canonicalPath_eq, hcanonical]
    rfl
  unfold storeRelease
  by_cases hpath : canonicalPath ≠ path
  · rw [if_pos hpath, World.files_write, StateFiles.read_write, if_pos hfile]
  · rw [if_neg hpath, World.files_write, StateFiles.read_write,
      if_pos (hfile.trans (not_not.mp hpath))]

/-- The release of a component on its own writes the file of this component only. -/
lemma Targets.storeRelease_eq {files : StateFiles} {canonicalPath : FileName}
    {current : StateRecord} (h : Targets a files path canonicalPath current)
    (hother : current.canonicalJobId ≠ a.canonicalJobId) (record : StateRecord) (w : World) :
    storeRelease path canonicalPath record w = w.write path record ∧
      path = ⟨a.cluster, current.canonicalJobId⟩ := by
  have hown : current.canonicalJobId = path.jobId := h.owned.canonical.resolve_left hother
  have hcluster : path.cluster = a.cluster := h.owned.name
  have hpath : path = ⟨a.cluster, current.canonicalJobId⟩ := by rw [hown, ← hcluster]
  refine ⟨?_, hpath⟩
  unfold storeRelease
  exact if_neg (not_not.mpr (h.canonicalPath_eq.trans hpath.symm))

/-- The file of a component that is released on its own is no record of the allocation. -/
lemma Targets.not_covers {files : StateFiles} {canonicalPath : FileName} {current : StateRecord}
    (h : Targets a files path canonicalPath current)
    (hother : current.canonicalJobId ≠ a.canonicalJobId) {component : ℤ}
    (hcovers : a.Covers files component) : (⟨a.cluster, component⟩ : FileName) ≠ path := by
  obtain ⟨found, hread, hcanonical, -⟩ := hcovers
  rintro hname
  rw [hname] at hread
  rcases h.read_path with ⟨hnone, -⟩ | hsome
  · rw [hnone] at hread
    cases hread
  · rw [hsome] at hread
    obtain rfl := Option.some.inj hread
    exact hother hcanonical

/-- The release of a component on its own keeps what the teardown needs. -/
lemma Targets.covers_write {files : StateFiles} {canonicalPath : FileName} {current : StateRecord}
    (h : Targets a files path canonicalPath current)
    (hother : current.canonicalJobId ≠ a.canonicalJobId) {component : ℤ}
    (hcovers : a.Covers files component) (record : StateRecord) :
    a.Covers (files.write path record) component :=
  hcovers.write (h.not_covers hother hcovers) record

lemma Targets.read_write {files : StateFiles} {canonicalPath : FileName} {current : StateRecord}
    (h : Targets a files path canonicalPath current)
    (hother : current.canonicalJobId ≠ a.canonicalJobId) (record : StateRecord) :
    (files.write path record).read a.file = files.read a.file := by
  have hpath : path = ⟨a.cluster, current.canonicalJobId⟩ :=
    (h.storeRelease_eq hother record {}).2
  have hne : a.file ≠ path := by
    rw [hpath]
    exact (Allocation.file_ne hother).symm
  rw [StateFiles.read_write, if_neg hne]

lemma Targets.owned_storeRelease {canonicalPath : FileName} {current : StateRecord}
    (howned : ∀ file ∈ w.files, a.Owns file) (h : Targets a w.files path canonicalPath current)
    (outcome : Except Failure DriverResult) :
    ∀ file ∈ (storeRelease path canonicalPath (current.afterRelease outcome) w).files,
      a.Owns file := by
  obtain ⟨hcluster, hcanonical, -⟩ := afterRelease_keeps current outcome
  have hpath : a.Owns (path, current.afterRelease outcome) :=
    ⟨h.owned.name, hcluster.trans h.owned.cluster, by rw [hcanonical]; exact h.owned.canonical⟩
  have hcanonicalPath : a.Owns (canonicalPath, current.afterRelease outcome) :=
    ⟨by rw [h.canonicalPath_eq], hcluster.trans h.owned.cluster,
      .inr (by rw [hcanonical, h.canonicalPath_eq])⟩
  unfold storeRelease
  by_cases hname : canonicalPath ≠ path
  · rw [if_pos hname]
    exact owned_write (owned_write howned hpath) hcanonicalPath
  · rw [if_neg hname]
    exact owned_write howned hpath

/-- A release that is not answered by `released` leaves a record that can be released. -/
lemma afterRelease_releasable (current : StateRecord) {outcome : Except Failure DriverResult}
    (h : ∀ result, outcome = .ok result → result.state ≠ .text "released") :
    (current.afterRelease outcome).state ∈ releasableStates := by
  rcases outcome with failure | result
  · exact (by decide : "release-unresolved" ∈ releasableStates)
  · have hstate : (current.afterRelease (.ok result)).state = "release-unresolved" :=
      if_neg (h result rfl)
    rw [hstate]
    decide

lemma DriverAnswer.ne_released {answer : DriverAnswer} (h : answer.releases = false) :
    ∀ result, answer.outcome = .ok result → result.state ≠ .text "released" := by
  intro result houtcome hstate
  obtain rfl := DriverAnswer.outcome_eq_ok houtcome
  exact absurd hstate (of_decide_eq_false h)

lemma secured_of_released (hsecured : Secured a components w)
    (hlocated : a.Located w.files run args path) (hcomponents : a.canonicalJobId ∈ components)
    (h : Released args path run.answer w w') : Secured a components w' := by
  -- What is stored covers the allocation, or is no record of it.
  have hstored {target : Args} {canonicalPath : FileName} {current : StateRecord} (w₁ : World)
      (hfiles : w₁.files = w.files)
      (htarget : releaseTarget args path w.files = .ok (target, canonicalPath, current))
      (outcome : Except Failure DriverResult)
      (hheld : a.mayHold w₁ = true → current.canonicalJobId = a.canonicalJobId →
        ∀ result, outcome = .ok result → result.state ≠ .text "released")
      (hbefore : a.mayHold w₁ = true → a.mayHold w = true) :
      Secured a components
        (storeRelease path canonicalPath (current.afterRelease outcome) w₁) := by
    obtain ⟨htargets, -⟩ := targets_of_releaseTarget hsecured.owned hlocated htarget
    rw [← hfiles] at htargets
    refine ⟨htargets.owned_storeRelease (hfiles.symm ▸ hsecured.owned) outcome, fun hhold => ?_⟩
    have hhold : a.mayHold w₁ = true := by
      rw [← hhold, Allocation.mayHold, Allocation.mayHold, calls_storeRelease]
    by_cases hcanonical : current.canonicalJobId = a.canonicalJobId
    · exact .inr ⟨_, hcomponents, _, htargets.read_storeRelease hcanonical _ _,
        (afterRelease_keeps current outcome).2.1.trans hcanonical,
        afterRelease_releasable current (hheld hhold hcanonical)⟩
    · rw [(htargets.storeRelease_eq hcanonical _ _).1]
      rcases hsecured.covered (hbefore hhold) with hnone | ⟨component, hmem, hcovers⟩
      · refine .inl ?_
        rw [World.files_write, htargets.read_write hcanonical, hfiles]
        exact hnone
      · exact .inr ⟨component, hmem, htargets.covers_write hcanonical (hfiles.symm ▸ hcovers) _⟩
  have hle (call : DriverCall) (hoperation : call.operation = .release)
      (hhold : a.mayHold (w.call call) = true) : a.mayHold w = true := by
    rw [Allocation.mayHold_call, Allocation.heldAfter] at hhold
    split at hhold
    · exact hhold
    · rw [hoperation] at hhold
      exact (Bool.and_eq_true_iff.mp hhold).1
  rcases h with ⟨failure, -⟩ | ⟨target, canonicalPath, current, -, -⟩ |
    ⟨target, canonicalPath, current, htarget, -, failure, -⟩ |
    ⟨target, canonicalPath, current, -, -, command, -⟩ |
    ⟨target, canonicalPath, current, htarget, -, command⟩
  · exact hsecured
  · exact hsecured
  · exact hstored w rfl htarget (.error failure) (fun _ _ result hresult => nomatch hresult) id
  · exact ⟨hsecured.owned, fun hhold => hsecured.covered (hle _ rfl hhold)⟩
  · refine hstored (w.call ⟨.release, target.canonicalJobId, command, run.answer⟩) rfl htarget _
      (fun hhold hcanonical => DriverAnswer.ne_released ?_) (hle _ rfl)
    have htargetId := (targets_of_releaseTarget hsecured.owned hlocated htarget).2
    rw [Allocation.mayHold_call, Allocation.heldAfter,
      if_neg (not_not.mpr (htargetId.trans hcanonical))] at hhold
    exact (Bool.not_eq_true' _).mp (Bool.and_eq_true_iff.mp hhold).2

/-- A careful step keeps the invariant. -/
lemma secured_step {w : World} {run : Run} (hcomponents : a.canonicalJobId ∈ components)
    (hconfigured : a.cluster ≠ "auto") (hsecured : Secured a components w)
    (hrun : a.ComponentRun components run) (hcareful : Careful a components w run) :
    Secured a components (step w run) := by
  have hruns : a.Runs run := ⟨.inl hrun.cluster, hrun.canonical.imp id And.right⟩
  have hauto : run.args.cluster ≠ "auto" := hrun.cluster ▸ hconfigured
  have hdoes := does_step w run
  generalize step w run = w' at hdoes ⊢
  have hlocate {allowMissing : Bool} {args : Args} {path : FileName}
      (h : locateState w.files run.args allowMissing = .ok (args, path)) :
      a.Located w.files run args path ∧ args = run.args := by
    refine ⟨Allocation.located hsecured.owned hruns h, ?_⟩
    unfold locateState at h
    rw [if_pos hauto] at h
    obtain ⟨found, -, hreturn⟩ := bind_eq_ok_iff.mp h
    exact (Prod.mk.inj (Except.ok.inj hreturn)).1.symm
  -- Only a release is given the id of the component.
  have hcanonical (hother : run.operation ≠ .release) :
      run.args.canonicalJobId = a.canonicalJobId :=
    hrun.canonical.resolve_right fun hrelease => hother hrelease.1
  rcases hdoes with - | ⟨args, path, _, hfound, hevaluate, h⟩ |
    ⟨args, path, _, hfound, hreserve, h⟩ | ⟨args, path, _, hfound, -, h⟩
  · exact hsecured
  · obtain ⟨hlocated, rfl⟩ := hlocate hfound
    have hid := hcanonical (by simp [hevaluate])
    exact secured_of_evaluated hsecured hlocated (hlocated.path_eq_file hid) hcareful hevaluate h
  · obtain ⟨hlocated, rfl⟩ := hlocate hfound
    have hid := hcanonical (by simp [hreserve])
    exact secured_of_reserved hsecured hlocated (hlocated.path_eq_file hid) hid hcomponents hcareful
      hreserve h
  · exact secured_of_released hsecured (hlocate hfound).1 hcomponents h

/-! ### The teardown -/

/-- What `slurm_bb_job_teardown` gives the helper for one component. -/
structure Teardown where
  jobId : ℤ
  uid : ℤ
  gid : ℤ
  driver : String
  pluginConfig : String
  maxReservationAttempts : ℤ
  answer : DriverAnswer

/-- The run of the helper: the job information is made up, so that the component is torn down under
its own id. -/
def Teardown.helperRun (a : Allocation) (teardown : Teardown) : Run where
  operation := .release
  args := {
    driver := teardown.driver
    pluginConfig := teardown.pluginConfig
    cluster := a.cluster
    jobId := teardown.jobId
    canonicalJobId := teardown.jobId
    uid := teardown.uid
    gid := teardown.gid
    submitTime := 1
    restartCount := 0
    walltimeSeconds := 60
    maxReservationAttempts := teardown.maxReservationAttempts }
  directive := .error (.helper "--job-script is required")
  answer := teardown.answer

/-- The identity and the limit that the helper accepts. -/
structure Teardown.Valid (teardown : Teardown) : Prop where
  jobId : 0 ≤ teardown.jobId
  uid : 0 ≤ teardown.uid
  gid : 0 ≤ teardown.gid
  limit : 0 < teardown.maxReservationAttempts

/-- The name under which the helper can keep state. -/
structure Allocation.Configured (a : Allocation) : Prop where
  ne_auto : a.cluster ≠ "auto"
  identifier : isIdentifier a.cluster = true

lemma step_teardown (ha : a.Configured) {teardown : Teardown} (h : teardown.Valid) (w : World) :
    step w (teardown.helperRun a) = (release (teardown.helperRun a).args ⟨a.cluster, teardown.jobId⟩
      teardown.answer w).2 := by
  have hjobId := h.jobId
  have huid := h.uid
  have hgid := h.gid
  have hlocated : locateState w.files (teardown.helperRun a).args true =
      .ok ((teardown.helperRun a).args, ⟨a.cluster, teardown.jobId⟩) := by
    have hauto : (teardown.helperRun a).args.cluster ≠ "auto" := ha.ne_auto
    have hidentifier : isIdentifier (teardown.helperRun a).args.cluster = true := ha.identifier
    unfold locateState statePath
    rw [if_pos hauto, if_pos hidentifier]
    rfl
  have hidentity : ¬ ((teardown.helperRun a).args.jobId < 0 ∨
      (teardown.helperRun a).args.canonicalJobId < 0 ∨
      (teardown.helperRun a).args.uid < 0 ∨ (teardown.helperRun a).args.gid < 0) := by
    simp only [Teardown.helperRun]
    omega
  have hlimit : ¬ (teardown.helperRun a).args.maxReservationAttempts ≤ 0 := not_le.mpr h.limit
  rw [step_eq, Run.body, if_neg hidentity, if_neg hlimit]
  have hrelease : decide ((teardown.helperRun a).operation = .release) = true := rfl
  rw [hrelease, hlocated]
  exact congrArg Prod.snd (if_pos rfl)

lemma located_teardown (ha : a.Configured) (teardown : Teardown) (files : StateFiles) :
    a.Located files (teardown.helperRun a) (teardown.helperRun a).args ⟨a.cluster, teardown.jobId⟩ :=
  ⟨rfl, rfl, rfl, rfl, ⟨rfl, rfl⟩, .inr rfl, .inl ⟨ha.ne_auto, rfl⟩⟩

/-- A call of `release` for the allocation. -/
def Allocation.IsRelease (a : Allocation) (call : DriverCall) : Prop :=
  call.operation = .release ∧ call.jobId = a.canonicalJobId

/-- The step of the teardown: it calls `release` for the allocation, or leaves what the teardown of
the other components needs. -/
structure Passes (a : Allocation) (jobId : ℤ) (w w' : World) : Prop where
  owned : ∀ file ∈ w'.files, a.Owns file
  read_file : jobId ≠ a.canonicalJobId → w'.files.read a.file = w.files.read a.file
  covers : ∀ component, component ≠ jobId → a.Covers w.files component →
    a.Covers w'.files component

lemma Passes.refl (howned : ∀ file ∈ w.files, a.Owns file) (jobId : ℤ) : Passes a jobId w w :=
  ⟨howned, fun _ => rfl, fun _ _ hcovers => hcovers⟩

/-- The record of a component that is released on its own is stored. -/
lemma Targets.passes_storeRelease {jobId : ℤ} {canonicalPath : FileName} {current : StateRecord}
    (h : Targets a w.files ⟨a.cluster, jobId⟩ canonicalPath current)
    (howned : ∀ file ∈ w.files, a.Owns file) (hother : current.canonicalJobId ≠ a.canonicalJobId)
    (call : DriverCall) (outcome : Except Failure DriverResult) :
    Passes a jobId w (storeRelease ⟨a.cluster, jobId⟩ canonicalPath (current.afterRelease outcome)
      (w.call call)) := by
  refine ⟨Targets.owned_storeRelease (w := w.call call) howned h outcome, ?_, ?_⟩
  · intro _
    rw [(h.storeRelease_eq hother _ _).1]
    exact h.read_write hother _
  · intro component _ hcovers
    rw [(h.storeRelease_eq hother _ _).1]
    exact h.covers_write hother hcovers _

/-- What is torn down under another id is no record of the allocation. -/
lemma Targets.not_needed {files : StateFiles} {jobId : ℤ} {canonicalPath : FileName}
    {current : StateRecord} (h : Targets a files ⟨a.cluster, jobId⟩ canonicalPath current)
    (hother : current.canonicalJobId ≠ a.canonicalJobId) :
    ¬ a.Covers files jobId ∧ ¬ (jobId = a.canonicalJobId ∧ files.read a.file = none) := by
  refine ⟨fun hcovers => h.not_covers hother hcovers rfl, ?_⟩
  rintro ⟨hid, -⟩
  rcases h.owned.canonical with hcanonical | hcanonical
  · exact hother hcanonical
  · exact hother (hcanonical.trans hid)

/-- The record that is released: the one of the file, or one that is made up and can be released. -/
lemma releaseTarget_cases {args target : Args} {path canonicalPath : FileName} {files : StateFiles}
    {current : StateRecord}
    (h : releaseTarget args path files = .ok (target, canonicalPath, current)) :
    target.submitTime = args.submitTime ∧ target.restartCount = args.restartCount ∧
      (files.read path = some current ∨
        files.read path = none ∧ current.state ∈ releasableStates) := by
  unfold releaseTarget at h
  rcases hread : files.read path with - | record
  · rw [hread] at h
    obtain ⟨epoch, -, hreturn⟩ := bind_eq_ok_iff.mp h
    obtain ⟨rfl, hrest⟩ := Prod.mk.inj (Except.ok.inj hreturn)
    obtain ⟨-, rfl⟩ := Prod.mk.inj hrest
    exact ⟨rfl, rfl, .inr ⟨rfl, (by decide : "release-recovery" ∈ releasableStates)⟩⟩
  · rw [hread] at h
    obtain ⟨found, -, hreturn⟩ := bind_eq_ok_iff.mp h
    obtain ⟨rfl, hrest⟩ := Prod.mk.inj (Except.ok.inj hreturn)
    obtain ⟨-, rfl⟩ := Prod.mk.inj hrest
    exact ⟨rfl, rfl, .inl rfl⟩

/-- A record that is not released any more is not needed. -/
lemma not_needed_of_settled {args target : Args} {jobId : ℤ} {canonicalPath : FileName}
    {files : StateFiles} {current : StateRecord}
    (h : releaseTarget args ⟨a.cluster, jobId⟩ files = .ok (target, canonicalPath, current))
    (hstate : current.state ∉ releasableStates) :
    ¬ a.Covers files jobId ∧ ¬ (jobId = a.canonicalJobId ∧ files.read a.file = none) := by
  have hread := (releaseTarget_cases h).2.2.resolve_right fun hnone => hstate hnone.2
  constructor
  · rintro ⟨found, hfound, -, hreleasable⟩
    obtain rfl := Option.some.inj (hread.symm.trans hfound)
    exact hstate hreleasable
  · rintro ⟨heq, hnone⟩
    rw [Allocation.file, ← heq, hread] at hnone
    cases hnone

/-- The identity of a teardown is valid, and so is the name of every record. -/
lemma releaseTarget_ne_error (ha : a.Configured) (howned : ∀ file ∈ w.files, a.Owns file)
    (teardown : Teardown) (failure : Failure) :
    releaseTarget (teardown.helperRun a).args ⟨a.cluster, teardown.jobId⟩ w.files ≠
      .error failure := by
  intro htarget
  unfold releaseTarget at htarget
  rcases hread : w.files.read ⟨a.cluster, teardown.jobId⟩ with - | record
  · rw [hread] at htarget
    cases htarget
  · rw [hread] at htarget
    have hcluster : record.cluster = a.cluster :=
      (howned _ (StateFiles.mem_of_read hread)).cluster
    simp only [statePath, hcluster, ha.identifier, if_true] at htarget
    cases htarget

/-- The teardown of a component: what it calls, and what it leaves. -/
lemma teardown_cases (ha : a.Configured) {teardown : Teardown} (h : teardown.Valid) {w : World}
    (howned : ∀ file ∈ w.files, a.Owns file) :
    (∃ call, a.IsRelease call ∧ (step w (teardown.helperRun a)).calls = w.calls ++ [call]) ∨
      ¬ a.Covers w.files teardown.jobId ∧
      ¬ (teardown.jobId = a.canonicalJobId ∧ w.files.read a.file = none) ∧
      (∃ calls, (step w (teardown.helperRun a)).calls = w.calls ++ calls) ∧
      Passes a teardown.jobId w (step w (teardown.helperRun a)) := by
  have hlocated := located_teardown ha teardown w.files
  have hreleased := released_release (teardown.helperRun a).args ⟨a.cluster, teardown.jobId⟩
    teardown.answer w
  rw [step_teardown ha h]
  generalize (release (teardown.helperRun a).args ⟨a.cluster, teardown.jobId⟩ teardown.answer w).2 = w'
    at hreleased ⊢
  rcases hreleased with ⟨failure, htarget⟩ | ⟨target, canonicalPath, current, htarget, hstate⟩ |
    ⟨target, canonicalPath, current, htarget, -, failure, hcommand⟩ |
    ⟨target, canonicalPath, current, htarget, -, command, -⟩ |
    ⟨target, canonicalPath, current, htarget, -, command⟩
  · exact absurd htarget (releaseTarget_ne_error ha howned teardown failure)
  · obtain ⟨hnotCovers, hnotMissing⟩ := not_needed_of_settled htarget hstate
    exact .inr ⟨hnotCovers, hnotMissing, ⟨[], (List.append_nil _).symm⟩, .refl howned _⟩
  · -- The times of a teardown have an epoch, so the command of the driver can be built.
    obtain ⟨hsubmit, hrestart, -⟩ := releaseTarget_cases htarget
    have hepoch : allocationEpoch target.submitTime target.restartCount = .ok 1000000 := by
      rw [hsubmit, hrestart]
      rfl
    unfold driverCommand at hcommand
    rw [hepoch] at hcommand
    cases hcommand
  · obtain ⟨htargets, htargetId⟩ := targets_of_releaseTarget howned hlocated htarget
    by_cases hid : current.canonicalJobId = a.canonicalJobId
    · exact .inl ⟨_, ⟨rfl, htargetId.trans hid⟩, rfl⟩
    · obtain ⟨hnotCovers, hnotMissing⟩ := htargets.not_needed hid
      exact .inr ⟨hnotCovers, hnotMissing, ⟨_, rfl⟩, howned, fun _ => rfl,
        fun _ _ hcovers => hcovers⟩
  · obtain ⟨htargets, htargetId⟩ := targets_of_releaseTarget howned hlocated htarget
    by_cases hid : current.canonicalJobId = a.canonicalJobId
    · refine .inl ⟨⟨.release, target.canonicalJobId, command, teardown.answer⟩,
        ⟨rfl, htargetId.trans hid⟩, ?_⟩
      rw [calls_storeRelease]
      rfl
    · obtain ⟨hnotCovers, hnotMissing⟩ := htargets.not_needed hid
      exact .inr ⟨hnotCovers, hnotMissing, ⟨[_], by rw [calls_storeRelease]; rfl⟩,
        htargets.passes_storeRelease howned hid _ _⟩

/-- A run adds to the calls. -/
lemma calls_step (w : World) (run : Run) : ∃ calls, (step w run).calls = w.calls ++ calls := by
  have hdoes := does_step w run
  generalize step w run = w' at hdoes ⊢
  have hsame : ∃ calls, w.calls = w.calls ++ calls := ⟨[], (List.append_nil _).symm⟩
  rcases hdoes with - | ⟨args, path, _, -, -, h⟩ | ⟨args, path, _, -, -, h⟩ |
    ⟨args, path, _, -, -, h⟩
  · exact hsame
  · rcases h with - | command | ⟨command, result, epoch, attempts, -, -⟩
    · exact hsame
    · exact ⟨[_], rfl⟩
    · exact ⟨[_], rfl⟩
  · rcases h with - | - | command | command | ⟨command, result, epoch, attempts, reservations⟩
    · exact hsame
    · exact hsame
    · exact ⟨[_], rfl⟩
    · exact ⟨[_], rfl⟩
    · obtain hstore | ⟨-, hstore⟩ := storeAccepted_cases args path
        (acceptedRecord args result epoch (attempts + 1) reservations)
        (w.call ⟨.reserve, args.canonicalJobId, command, run.answer⟩)
      · rw [hstore]
        exact ⟨[_], rfl⟩
      · rw [hstore]
        exact ⟨[_], rfl⟩
  · rcases h with - | - | - | ⟨target, canonicalPath, current, -, -, command, -⟩ |
      ⟨target, canonicalPath, current, -, -, command⟩
    · exact hsame
    · exact hsame
    · rw [calls_storeRelease]
      exact hsame
    · exact ⟨[_], rfl⟩
    · rw [calls_storeRelease]
      exact ⟨[_], rfl⟩

lemma calls_after (runs : List Run) (w : World) :
    ∃ calls, (after step w runs).calls = w.calls ++ calls := by
  induction runs generalizing w with
  | nil => exact ⟨[], (List.append_nil _).symm⟩
  | cons run runs ih =>
    obtain ⟨calls, hcalls⟩ := calls_step w run
    obtain ⟨more, hmore⟩ := ih (step w run)
    exact ⟨calls ++ more, by rw [after_cons, hmore, hcalls, List.append_assoc]⟩

/-- The teardown of the components that is still to come calls `release` for the allocation. -/
lemma teardown_calls (ha : a.Configured) {teardowns : List Teardown}
    (hteardowns : ∀ teardown ∈ teardowns, teardown.Valid) {w : World}
    (howned : ∀ file ∈ w.files, a.Owns file)
    (hcovered : ∃ teardown ∈ teardowns, a.Covers w.files teardown.jobId ∨
      teardown.jobId = a.canonicalJobId ∧ w.files.read a.file = none) :
    ∃ calls, (after step w (teardowns.map (Teardown.helperRun a))).calls = w.calls ++ calls ∧
      ∃ call ∈ calls, a.IsRelease call := by
  induction teardowns generalizing w with
  | nil =>
    obtain ⟨teardown, hmem, -⟩ := hcovered
    exact absurd hmem List.not_mem_nil
  | cons first rest ih =>
    obtain ⟨hfirst, hrest⟩ := List.forall_mem_cons.mp hteardowns
    rw [List.map_cons, after_cons]
    rcases teardown_cases ha hfirst howned with ⟨call, hcall, hcalls⟩ |
      ⟨hnotCovers, hnotMissing, ⟨calls, hcalls⟩, hpasses⟩
    · obtain ⟨more, hmore⟩ := calls_after (rest.map (Teardown.helperRun a)) (step w (first.helperRun a))
      exact ⟨call :: more, by rw [hmore, hcalls, List.append_assoc]; rfl, call, List.mem_cons_self,
        hcall⟩
    · have hlater : ∃ teardown ∈ rest, a.Covers (step w (first.helperRun a)).files teardown.jobId ∨
          teardown.jobId = a.canonicalJobId ∧ (step w (first.helperRun a)).files.read a.file = none := by
        obtain ⟨teardown, hmem, hneeds⟩ := hcovered
        rcases List.mem_cons.mp hmem with rfl | hmem
        · exact (hneeds.elim hnotCovers hnotMissing).elim
        refine ⟨teardown, hmem, hneeds.imp (fun hcovers => ?_) fun ⟨heq, hnone⟩ => ⟨heq, ?_⟩⟩
        · exact hpasses.covers _ (fun heq => hnotCovers (heq ▸ hcovers)) hcovers
        · rw [hpasses.read_file fun hsame => hnotMissing ⟨hsame, hnone⟩]
          exact hnone
      obtain ⟨more, hmoreCalls, call, hmem, hcall⟩ := ih hrest hpasses.owned hlater
      exact ⟨calls ++ more, by rw [hmoreCalls, hcalls, List.append_assoc], call,
        List.mem_append_right _ hmem, hcall⟩

/-- After careful runs for an allocation that may hold a reservation, the teardown of all its
components calls the driver's `release` for the allocation. -/
theorem teardown_releases (a : Allocation) (components : List ℤ) (ha : a.Configured)
    (hcomponents : a.canonicalJobId ∈ components) (runs : List Run)
    (hruns : ∀ run ∈ runs, a.ComponentRun components run)
    (hcareful : Meets step (Careful a components) {} runs)
    (hheld : a.mayHold (after step {} runs) = true) (teardowns : List Teardown)
    (hteardowns : ∀ teardown ∈ teardowns, teardown.Valid)
    (hall : ∀ component ∈ components, ∃ teardown ∈ teardowns, teardown.jobId = component) :
    ∃ calls, (after step {} (runs ++ teardowns.map (Teardown.helperRun a))).calls =
        (after step {} runs).calls ++ calls ∧
      ∃ call ∈ calls, a.IsRelease call := by
  have hempty : Secured a components {} :=
    ⟨fun file hfile => absurd hfile List.not_mem_nil, fun hhold => absurd hhold Bool.false_ne_true⟩
  have hsecured : Secured a components (after step {} runs) :=
    after_invariant_of_meets step (Secured a components)
      (fun w run hsecured hrun => secured_step hcomponents ha.ne_auto hsecured hrun.1 hrun.2) hempty
      (hcareful.of_forall_mem step hruns)
  rw [after_append]
  refine teardown_calls ha hteardowns hsecured.owned ?_
  rcases hsecured.covered hheld with hnone | ⟨component, hmem, hcovers⟩
  · obtain ⟨teardown, hteardown, heq⟩ := hall _ hcomponents
    exact ⟨teardown, hteardown, .inr ⟨heq, hnone⟩⟩
  · obtain ⟨teardown, hteardown, rfl⟩ := hall _ hmem
    exact ⟨teardown, hteardown, .inl hcovers⟩

/-- A run for job 7, its only component. -/
def onlyRun (operation : DriverCommand) (answer : DriverAnswer) : Run where
  operation := operation
  args := { cluster := "alpha", jobId := 7, canonicalJobId := 7, uid := 1000, gid := 1000,
            submitTime := 1 }
  directive := .ok []
  answer := answer

lemma componentRun_onlyRun (operation : DriverCommand) (answer : DriverAnswer) :
    (⟨"alpha", 7⟩ : Allocation).ComponentRun [7] (onlyRun operation answer) :=
  ⟨rfl, .inl rfl, List.mem_singleton.mpr rfl⟩

/-- The teardown of job 7. -/
def onlyTeardown : Teardown where
  jobId := 7
  uid := 1000
  gid := 1000
  driver := "/usr/bin/qfw-slurm-driver"
  pluginConfig := "/etc/openqse/qfw-slurm/plugin.conf"
  maxReservationAttempts := 8
  answer := .result ⟨.text "released", "2", "", none⟩

lemma valid_onlyTeardown : onlyTeardown.Valid := ⟨by decide, by decide, by decide, by decide⟩

/-- A reservation of a component of job 7. -/
def componentRun (component : ℤ) (answer : DriverAnswer) : Run where
  operation := .reserve
  args := { cluster := "alpha", jobId := component, canonicalJobId := 7, uid := 1000, gid := 1000,
            submitTime := 1 }
  directive := .ok []
  answer := answer

/-- Two components of job 7 reserve: the first is accepted, the second times out. -/
def sampleRuns : List Run :=
  [componentRun 7 (.result ⟨.text "accepted", "1", "", some [.obj [("service_id".toList,
      .str "qpm-a".toList), ("reservation_id".toList, .int 5)]]⟩),
    componentRun 8 (.timeout "timed out")]

/-- What was recorded for the first component is torn down with the second. -/
theorem teardown_releases_timeout :
    ∃ calls, (after step {} (sampleRuns ++ [{ onlyTeardown with jobId := 8 }, onlyTeardown].map
        (Teardown.helperRun ⟨"alpha", 7⟩))).calls = (after step {} sampleRuns).calls ++ calls ∧
      ∃ call ∈ calls, (⟨"alpha", 7⟩ : Allocation).IsRelease call := by
  have hruns : ∀ run ∈ sampleRuns, (⟨"alpha", 7⟩ : Allocation).ComponentRun [7, 8] run := by
    intro run hrun
    rcases List.mem_pair.mp hrun with rfl | rfl
    · exact ⟨rfl, .inl rfl, by decide⟩
    · exact ⟨rfl, .inl rfl, by decide⟩
  have hcareful : Meets step (Careful ⟨"alpha", 7⟩ [7, 8]) {} sampleRuns := by
    refine ⟨⟨fun h => ?_, fun _ h => ?_, fun _ _ _ result h hdeclined => ?_, fun _ _ _ _ => .inl rfl⟩,
      ⟨fun h => ?_, fun _ _ h => ?_, fun _ _ _ result h => ?_, fun _ _ _ _ => ?_⟩, trivial⟩
    · cases h
    · cases h
    · cases h
      exact absurd rfl hdeclined
    · cases h
    · exact absurd h (by decide)
    · cases h
    · exact .inr ⟨7, by decide, _, rfl, by decide, by decide⟩
  apply teardown_releases ⟨"alpha", 7⟩ [7, 8] ⟨by decide, by decide⟩ (by decide) sampleRuns hruns
    hcareful (by decide)
  · intro teardown h
    rcases List.mem_pair.mp h with rfl | rfl
    · exact ⟨by decide, by decide, by decide, by decide⟩
    · exact valid_onlyTeardown
  · intro component h
    rcases List.mem_pair.mp h with rfl | rfl
    · exact ⟨onlyTeardown, by simp, rfl⟩
    · exact ⟨_, List.mem_cons_self, rfl⟩

/-- After an accepted evaluation, a reservation that times out is never released. -/
theorem timeout_not_released :
    ¬ ∀ (a : Allocation) (components : List ℤ), a.Configured → a.canonicalJobId ∈ components →
      ∀ runs : List Run, (∀ run ∈ runs, a.ComponentRun components run) →
      a.mayHold (after step {} runs) = true → ∀ teardowns : List Teardown,
      (∀ teardown ∈ teardowns, teardown.Valid) →
      (∀ component ∈ components, ∃ teardown ∈ teardowns, teardown.jobId = component) →
      ∃ calls, (after step {} (runs ++ teardowns.map (Teardown.helperRun a))).calls =
          (after step {} runs).calls ++ calls ∧
        ∃ call ∈ calls, a.IsRelease call := by
  intro hclaim
  obtain ⟨calls, hcalls, call, hcall, -⟩ := hclaim ⟨"alpha", 7⟩ [7] ⟨by decide, by decide⟩ (by decide)
    [onlyRun .evaluate (.result ⟨.text "accepted", "1", "", none⟩),
      onlyRun .reserve (.timeout "timed out")]
    (fun run hrun => by
      rcases List.mem_pair.mp hrun with rfl | rfl
      · exact componentRun_onlyRun _ _
      · exact componentRun_onlyRun _ _)
    (by decide) [onlyTeardown]
    (fun teardown h => List.mem_singleton.mp h ▸ valid_onlyTeardown)
    (fun component h => ⟨onlyTeardown, List.mem_singleton.mpr rfl, (List.mem_singleton.mp h).symm⟩)
  have hlength := congrArg List.length hcalls
  rw [List.length_append] at hlength
  have hnone : (after step {} ([onlyRun .evaluate (.result ⟨.text "accepted", "1", "", none⟩),
      onlyRun .reserve (.timeout "timed out")] ++
        [onlyTeardown].map (Teardown.helperRun ⟨"alpha", 7⟩))).calls.length = 2 := by decide
  have htwo : (after step {} [onlyRun .evaluate (.result ⟨.text "accepted", "1", "", none⟩),
      onlyRun .reserve (.timeout "timed out")]).calls.length = 2 := by decide
  have hempty : calls = [] := List.eq_nil_of_length_eq_zero (by omega)
  rw [hempty] at hcall
  cases hcall

end QfwSlurm.Helper
