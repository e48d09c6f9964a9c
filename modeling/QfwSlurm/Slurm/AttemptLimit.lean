import QfwSlurm.Interaction.Machine
import QfwSlurm.Slurm.Helper

/-!
# The limit of the reservation attempts

The helper counts the reservation attempts of an allocation in its state file and starts the driver
only below the limit.  An attempt whose end it does not record (a timeout, no output or invalid
output, an accepted result without reservations) is not counted, and a component that is released by
a record of its own writes an older count over the count of the allocation.  In every run without
such steps the driver's `reserve` is started at most as often as the limit says.
-/

namespace QfwSlurm.Helper

open Interaction

variable {a : Allocation}

/-- Whether a call is a `reserve` for the allocation that was started. -/
def Allocation.isReserve (a : Allocation) (call : DriverCall) : Bool :=
  call.operation = .reserve && call.jobId = a.canonicalJobId && call.answer.started

/-- How often the driver's `reserve` was started for the allocation. -/
def Allocation.reserveStarts (a : Allocation) (w : World) : ℕ := w.calls.countP a.isReserve

/-- The steps after which the count of the allocation is right. -/
structure Counts (a : Allocation) (w : World) (run : Run) : Prop where
  /-- An attempt below the limit is recorded. -/
  reserve : run.operation = .reserve →
    w.files.attempts a.file < run.args.maxReservationAttempts →
    run.answer.Recorded ∨ run.answer.started = false
  /-- The record of a component does not have an older count. -/
  release : run.operation = .release → run.args.cluster ≠ "auto" → ∀ record,
    w.files.read ⟨a.cluster, run.args.canonicalJobId⟩ = some record →
    record.canonicalJobId = a.canonicalJobId → record.state ∈ releasableStates →
    w.files.attempts a.file ≤ record.attempts

/-! ### The invariant -/

/-- The state files of the allocation, when `reserve` was started `starts` times. -/
structure Within (a : Allocation) (limit : ℤ) (files : StateFiles) (starts : ℕ) : Prop where
  owned : ∀ file ∈ files, a.Owns file
  attempts_le : ∀ file ∈ files, file.2.attempts ≤ limit.toNat
  counted : starts ≤ files.attempts a.file

lemma attempts_write (files : StateFiles) (name other : FileName) (record : StateRecord) :
    (files.write name record).attempts other =
      if other = name then record.attempts else files.attempts other := by
  unfold StateFiles.attempts
  rw [StateFiles.read_write]
  by_cases hname : other = name
  · rw [if_pos hname, if_pos hname]
  · rw [if_neg hname, if_neg hname]

lemma Within.attempts_file_le {limit : ℤ} {files : StateFiles} {starts : ℕ}
    (h : Within a limit files starts) (name : FileName) : files.attempts name ≤ limit.toNat := by
  unfold StateFiles.attempts
  rcases hread : files.read name with - | record
  · exact Int.natCast_nonneg _
  · exact h.attempts_le _ (StateFiles.mem_of_read hread)

lemma Within.starts_le {limit : ℤ} {files : StateFiles} {starts : ℕ}
    (h : Within a limit files starts) : starts ≤ limit.toNat := by
  have hcounted := h.counted
  have hle := h.attempts_file_le a.file
  omega

/-- A file may be written when it is one of the allocation, and counts the starts if it is the
canonical file. -/
lemma Within.write {limit : ℤ} {files : StateFiles} {starts next : ℕ} {name : FileName}
    {record : StateRecord} (h : Within a limit files starts) (howns : a.Owns (name, record))
    (hattempts : record.attempts ≤ limit.toNat)
    (hcanonical : name = a.file → next ≤ record.attempts)
    (hother : name ≠ a.file → next ≤ starts) : Within a limit (files.write name record) next where
  owned file hfile := by
    rcases StateFiles.mem_write hfile with rfl | hmem
    · exact howns
    · exact h.owned file hmem
  attempts_le file hfile := by
    rcases StateFiles.mem_write hfile with rfl | hmem
    · exact hattempts
    · exact h.attempts_le file hmem
  counted := by
    rw [attempts_write]
    by_cases hname : a.file = name
    · rw [if_pos hname]
      exact hcanonical hname.symm
    · rw [if_neg hname]
      have hcounted := h.counted
      have hnext := hother (Ne.symm hname)
      omega

lemma reserveStarts_call (w : World) (call : DriverCall) :
    a.reserveStarts (w.call call) = a.reserveStarts w + if a.isReserve call then 1 else 0 := by
  unfold Allocation.reserveStarts
  rw [World.calls_call, List.countP_append, List.countP_singleton]

/-- A call that is no start of `reserve` for the allocation leaves the number of the starts. -/
lemma reserveStarts_call_of_not {w : World} {call : DriverCall} (h : ¬ a.isReserve call) :
    a.reserveStarts (w.call call) = a.reserveStarts w := by
  rw [reserveStarts_call, if_neg h, Nat.add_zero]

lemma reserveStarts_call_le (w : World) (call : DriverCall) :
    a.reserveStarts (w.call call) ≤ a.reserveStarts w + 1 := by
  rw [reserveStarts_call]
  split <;> omega

/-! ### The operations -/

variable {limit : ℤ} {w w' : World} {run : Run} {args : Args} {path : FileName}

/-- The invariant of a run. -/
def Kept (a : Allocation) (limit : ℤ) (w : World) : Prop :=
  Within a limit w.files (a.reserveStarts w)

lemma kept_of_evaluated (hkept : Kept a limit w) (hlocated : a.Located w.files run args path)
    (h : Evaluated args path run.answer w w') : Kept a limit w' := by
  have hcall (command : List String) : a.reserveStarts
      (w.call ⟨.evaluate, args.canonicalJobId, command, run.answer⟩) = a.reserveStarts w :=
    reserveStarts_call_of_not (by simp [Allocation.isReserve])
  unfold Kept at hkept ⊢
  rcases h with - | command | ⟨command, result, epoch, attempts, -, hattempts⟩
  · exact hkept
  · rw [hcall]
    exact hkept
  · have hcount := attempts_of_ok hattempts
    have hrecord : (evaluationRecord args result epoch attempts).attempts = attempts := rfl
    refine Within.write hkept (hlocated.owns rfl rfl) ?_ (fun hpath => ?_) fun _ => ?_
    · rw [hrecord, hcount]
      exact hkept.attempts_file_le path
    · have hstarts := hcall command
      have hcounted := hkept.counted
      rw [hpath] at hcount
      rw [hrecord, hcount]
      exact hstarts ▸ hcounted
    · exact (hcall command).le

lemma kept_of_reserved (hkept : Kept a limit w) (hlocated : a.Located w.files run args path)
    (hlimit : run.args.maxReservationAttempts = limit) (hcounts : Counts a w run)
    (hoperation : run.operation = .reserve) (h : Reserved args path run.answer w w') :
    Kept a limit w' := by
  have hlimit : args.maxReservationAttempts = limit := hlocated.limit.trans hlimit
  -- A call counts only for the canonical file.
  have hother {command : List String} (hpath : path ≠ a.file) : a.reserveStarts
      (w.call ⟨.reserve, args.canonicalJobId, command, run.answer⟩) = a.reserveStarts w := by
    refine reserveStarts_call_of_not fun hcall => hpath (hlocated.path_eq_file ?_)
    simp only [Allocation.isReserve, Bool.and_eq_true, decide_eq_true_eq] at hcall
    exact hcall.1.2
  -- A recorded attempt is counted.
  have hrecorded (command : List String) (record : StateRecord) {attempts : ℤ}
      (hattempts : reservationAttempts w.files path = .ok attempts) (hbelow : attempts < limit)
      (hcount : record.attempts = attempts + 1) (howns : a.Owns (path, record)) :
      Within a limit (w.files.write path record) (a.reserveStarts
        (w.call ⟨.reserve, args.canonicalJobId, command, run.answer⟩)) := by
    have hfile := attempts_of_ok hattempts
    refine Within.write hkept howns (by omega) (fun hpath => ?_) fun hpath => (hother hpath).le
    have hcounted := hkept.counted
    have hcall := reserveStarts_call_le (a := a) w
      ⟨.reserve, args.canonicalJobId, command, run.answer⟩
    rw [hpath] at hfile
    omega
  unfold Kept at hkept ⊢
  rcases h with - | ⟨epoch, attempts, hattempts, -⟩ | ⟨command, attempts, hattempts, hbelow, hlost⟩ |
    ⟨command, result, epoch, attempts, hattempts, hbelow, -, -⟩ |
    ⟨command, result, epoch, attempts, reservations, hattempts, hbelow, -, -, -, -⟩
  · exact hkept
  · have hfile := attempts_of_ok hattempts
    have hrecord : (exhaustedRecord args epoch attempts).attempts = attempts := rfl
    refine Within.write hkept (hlocated.owns rfl rfl) ?_ (fun hpath => ?_) fun _ => le_rfl
    · rw [hrecord, hfile]
      exact hkept.attempts_file_le path
    · rw [hrecord, hfile, hpath]
      exact hkept.counted
  · have hstarts : a.reserveStarts
        (w.call ⟨.reserve, args.canonicalJobId, command, run.answer⟩) = a.reserveStarts w := by
      by_cases hpath : path = a.file
      · have hfile := attempts_of_ok hattempts
        rw [hpath] at hfile
        have hbound : w.files.attempts a.file < run.args.maxReservationAttempts := by
          have heq := hlocated.limit
          omega
        have hstarted := (hcounts.reserve hoperation hbound).resolve_left hlost
        exact reserveStarts_call_of_not (by simp [Allocation.isReserve, hstarted])
      · exact hother hpath
    rw [hstarts]
    exact hkept
  · exact hrecorded command _ hattempts (hlimit ▸ hbelow) rfl (hlocated.owns rfl rfl)
  · have hwritten := hrecorded command
      (acceptedRecord args result epoch (attempts + 1) reservations) hattempts (hlimit ▸ hbelow) rfl
      (hlocated.owns rfl rfl)
    obtain hstore | ⟨hcomponent, hstore⟩ := storeAccepted_cases args path
      (acceptedRecord args result epoch (attempts + 1) reservations)
      (w.call ⟨.reserve, args.canonicalJobId, command, run.answer⟩)
    · rw [hstore]
      exact hwritten
    · rw [hstore]
      have hcanonical := hlocated.canonical.resolve_right (Ne.symm hcomponent)
      refine Within.write hwritten ⟨hlocated.cluster, hlocated.cluster, .inl hcanonical⟩ ?_
        (fun hname => ?_) fun _ => le_rfl
      · have hle := hwritten.attempts_le _ List.mem_cons_self
        exact hle
      · have hjob : args.jobId = a.canonicalJobId := congrArg FileName.jobId hname
        exact absurd (hjob.trans hcanonical.symm) hcomponent

/-- Storing a record of the allocation under its name and the canonical one. -/
lemma Within.storeRelease {limit : ℤ} {w : World} {starts : ℕ} {path canonicalPath : FileName}
    {record : StateRecord} (h : Within a limit w.files starts)
    (howns : a.Owns (path, record)) (hcanonicalOwns : a.Owns (canonicalPath, record))
    (hattempts : record.attempts ≤ limit.toNat)
    (hpath : path = a.file → starts ≤ record.attempts)
    (hcanonical : canonicalPath = a.file → starts ≤ record.attempts) :
    Within a limit (storeRelease path canonicalPath record w).files starts := by
  have hwritten := h.write howns hattempts hpath fun _ => le_rfl
  unfold Helper.storeRelease
  by_cases hname : canonicalPath ≠ path
  · rw [if_pos hname]
    exact hwritten.write hcanonicalOwns hattempts hcanonical fun _ => le_rfl
  · rw [if_neg hname]
    exact hwritten

/-- The record that `release` goes by, and where it is stored. -/
lemma Within.releaseTarget {files : StateFiles} {starts : ℕ} (h : Within a limit files starts)
    (hlocated : a.Located files run args path) (hoperation : run.operation = .release)
    (hcounts : Counts a w run) (hfiles : w.files = files) {target : Args}
    {canonicalPath : FileName} {current : StateRecord}
    (htarget : Helper.releaseTarget args path files = .ok (target, canonicalPath, current))
    (hstate : current.state ∈ releasableStates) :
    a.Owns (path, current) ∧ a.Owns (canonicalPath, current) ∧
      current.attempts ≤ limit.toNat ∧ (path = a.file → starts ≤ current.attempts) ∧
      (canonicalPath = a.file → starts ≤ current.attempts) := by
  subst hfiles
  unfold Helper.releaseTarget at htarget
  have hcounted := h.counted
  rcases hread : w.files.read path with - | record
  · rw [hread] at htarget
    obtain ⟨epoch, -, hreturn⟩ := bind_eq_ok_iff.mp htarget
    obtain ⟨rfl, hrest⟩ := Prod.mk.inj (Except.ok.inj hreturn)
    obtain ⟨rfl, rfl⟩ := Prod.mk.inj hrest
    have howns : a.Owns (path, baseState args epoch "0" "local reservation state was unavailable"
        "release-recovery") := hlocated.owns rfl rfl
    have hpath (hpath : path = a.file) : (starts : ℤ) ≤ 0 := by
      rw [hpath] at hread
      rw [StateFiles.attempts, hread] at hcounted
      exact hcounted
    exact ⟨howns, howns, Int.natCast_nonneg _, hpath, hpath⟩
  · rw [hread] at htarget
    obtain ⟨found, hfound, hreturn⟩ := bind_eq_ok_iff.mp htarget
    obtain ⟨rfl, hrest⟩ := Prod.mk.inj (Except.ok.inj hreturn)
    obtain ⟨rfl, rfl⟩ := Prod.mk.inj hrest
    have hmem := StateFiles.mem_of_read hread
    have howns := h.owned _ hmem
    have hfound := Allocation.statePath_eq_ok hfound
    have hself (hpath : path = a.file) : (starts : ℤ) ≤ record.attempts := by
      rw [hpath] at hread
      rw [StateFiles.attempts, hread] at hcounted
      exact hcounted
    refine ⟨howns, ⟨by rw [hfound]; exact howns.cluster, howns.cluster,
      .inr (by rw [hfound])⟩, h.attempts_le _ hmem, hself, fun hcanonical => ?_⟩
    have hcanonicalId : record.canonicalJobId = a.canonicalJobId :=
      congrArg FileName.jobId (hfound.symm.trans hcanonical)
    rcases hlocated.found with ⟨hauto, hgiven⟩ | hpath | hown
    · rw [hlocated.path_eq, hgiven] at hread
      have hle := hcounts.release hoperation hauto record hread hcanonicalId hstate
      omega
    · exact hself hpath
    · refine hself ?_
      rw [hlocated.path_eq, Allocation.file, ← hcanonicalId, hown record hread, hlocated.path_eq]

lemma kept_of_released (hkept : Kept a limit w) (hlocated : a.Located w.files run args path)
    (hcounts : Counts a w run) (hoperation : run.operation = .release)
    (h : Released args path run.answer w w') : Kept a limit w' := by
  have hcall (target : Args) (command : List String) : a.reserveStarts
      (w.call ⟨.release, target.canonicalJobId, command, run.answer⟩) = a.reserveStarts w :=
    reserveStarts_call_of_not (by simp [Allocation.isReserve])
  have hstored (w₁ : World) (hfiles : w₁.files = w.files)
      (hstarts : a.reserveStarts w₁ = a.reserveStarts w) (target : Args)
      (canonicalPath : FileName) (current : StateRecord)
      (htarget : releaseTarget args path w.files = .ok (target, canonicalPath, current))
      (hstate : current.state ∈ releasableStates) (outcome : Except Failure DriverResult) :
      Kept a limit (storeRelease path canonicalPath (current.afterRelease outcome) w₁) := by
    obtain ⟨howns, hcanonicalOwns, hattempts, hself, hcanonical⟩ :=
      Within.releaseTarget hkept hlocated hoperation hcounts rfl htarget hstate
    obtain ⟨hcluster, hcanonicalId, hcount⟩ := afterRelease_keeps current outcome
    have hafter (name : FileName) (h : a.Owns (name, current)) :
        a.Owns (name, current.afterRelease outcome) :=
      ⟨h.name, hcluster.trans h.cluster, by rw [hcanonicalId]; exact h.canonical⟩
    have hbefore : Within a limit w₁.files (a.reserveStarts w) := hfiles ▸ hkept
    have hcalls : a.reserveStarts (storeRelease path canonicalPath (current.afterRelease outcome) w₁) =
        a.reserveStarts w := by
      unfold Allocation.reserveStarts
      rw [calls_storeRelease]
      exact hstarts
    unfold Kept
    rw [hcalls]
    refine hbefore.storeRelease (hafter _ howns) (hafter _ hcanonicalOwns) ?_ ?_ ?_
    · rw [hcount]
      exact hattempts
    · rw [hcount]
      exact hself
    · rw [hcount]
      exact hcanonical
  unfold Kept at hkept
  rcases h with ⟨failure, -⟩ | ⟨target, canonicalPath, current, -, -⟩ |
    ⟨target, canonicalPath, current, htarget, hstate, failure, -⟩ |
    ⟨target, canonicalPath, current, -, -, command, -⟩ |
    ⟨target, canonicalPath, current, htarget, hstate, command⟩
  · exact hkept
  · exact hkept
  · exact hstored w rfl rfl target canonicalPath current htarget hstate _
  · unfold Kept
    rw [hcall]
    exact hkept
  · exact hstored (w.call ⟨.release, target.canonicalJobId, command, run.answer⟩) rfl
      (hcall target command) target canonicalPath current htarget hstate _

/-! ### Runs -/

/-- A step keeps the invariant if the count of the allocation is right after it. -/
lemma kept_step {w : World} {run : Run} (hkept : Kept a limit w)
    (hrun : a.Runs run ∧ run.args.maxReservationAttempts = limit) (hcounts : Counts a w run) :
    Kept a limit (step w run) := by
  have hdoes := does_step w run
  generalize step w run = w' at hdoes ⊢
  have hlocate {allowMissing : Bool} {args : Args} {path : FileName}
      (h : locateState w.files run.args allowMissing = .ok (args, path)) :
      a.Located w.files run args path := Allocation.located hkept.owned hrun.1 h
  rcases hdoes with - | ⟨args, path, _, hfound, -, h⟩ | ⟨args, path, _, hfound, hreserve, h⟩ |
    ⟨args, path, _, hfound, hrelease, h⟩
  · exact hkept
  · exact kept_of_evaluated hkept (hlocate hfound) h
  · exact kept_of_reserved hkept (hlocate hfound) hrun.2 hcounts hreserve h
  · exact kept_of_released hkept (hlocate hfound) hcounts hrelease h

/-- In every sequence of runs for an allocation that keeps its count, the driver's `reserve` is
started at most as often as the limit says. -/
theorem reserveStarts_le_limit (a : Allocation) (limit : ℤ) (runs : List Run)
    (hruns : ∀ run ∈ runs, a.Runs run ∧ run.args.maxReservationAttempts = limit)
    (hcounts : Meets step (Counts a) {} runs) :
    a.reserveStarts (after step {} runs) ≤ limit.toNat := by
  have hempty : Kept a limit {} :=
    ⟨fun file hfile => absurd hfile List.not_mem_nil,
      fun file hfile => absurd hfile List.not_mem_nil, le_rfl⟩
  have hkept : Kept a limit (after step {} runs) :=
    after_invariant_of_meets step (Kept a limit)
      (fun w run hkept hrun => kept_step hkept hrun.1 hrun.2) hempty
      (hcounts.of_forall_mem step hruns)
  exact hkept.starts_le

/-- A reservation for job 7, with a limit of one attempt. -/
def reserveOnce (answer : DriverAnswer) : Run where
  operation := .reserve
  args := { cluster := "alpha", jobId := 7, canonicalJobId := 7, uid := 1000, gid := 1000,
            submitTime := 1, maxReservationAttempts := 1 }
  directive := .ok []
  answer := answer

lemma runs_reserveOnce (answer : DriverAnswer) :
    (⟨"alpha", 7⟩ : Allocation).Runs (reserveOnce answer) := ⟨.inl rfl, .inl rfl⟩

/-- The result of a reservation that is delayed. -/
def delayedAnswer : DriverAnswer := .result ⟨.text "delayed", "1", "", none⟩

/-- After a delayed reservation a second run does not start the driver. -/
theorem reserveStarts_le_limit_delayed :
    (⟨"alpha", 7⟩ : Allocation).reserveStarts
      (after step {} [reserveOnce delayedAnswer, reserveOnce delayedAnswer]) ≤ 1 := by
  have hcounts (w : World) : Counts ⟨"alpha", 7⟩ w (reserveOnce delayedAnswer) :=
    ⟨fun _ _ => .inl fun haccepted => absurd haccepted (by decide), fun hrelease => nomatch hrelease⟩
  refine reserveStarts_le_limit ⟨"alpha", 7⟩ 1 [reserveOnce delayedAnswer, reserveOnce delayedAnswer]
    (fun run hrun => ?_) ⟨hcounts _, hcounts _, trivial⟩
  have heq : run = reserveOnce delayedAnswer := by simpa using hrun
  rw [heq]
  exact ⟨runs_reserveOnce _, rfl⟩

/-- With a limit of one attempt, two runs in which the driver times out start it twice. -/
theorem timeouts_not_counted :
    ¬ ∀ (a : Allocation) (limit : ℤ) (runs : List Run),
      (∀ run ∈ runs, a.Runs run ∧ run.args.maxReservationAttempts = limit) →
      a.reserveStarts (after step {} runs) ≤ limit.toNat := by
  intro hclaim
  have hbound := hclaim ⟨"alpha", 7⟩ 1
    [reserveOnce (.timeout "timed out"), reserveOnce (.timeout "timed out")] fun run hrun => by
      have heq : run = reserveOnce (.timeout "timed out") := by simpa using hrun
      rw [heq]
      exact ⟨runs_reserveOnce _, rfl⟩
  have hstarts : (⟨"alpha", 7⟩ : Allocation).reserveStarts (after step {}
      [reserveOnce (.timeout "timed out"), reserveOnce (.timeout "timed out")]) = 2 := by decide
  rw [hstarts] at hbound
  exact absurd hbound (by decide)

end QfwSlurm.Helper
