import QfwSlurm.Slurm.DriverCommand
import QfwSlurm.Slurm.HelperCommand

/-!
# The walltime from the job record to the request

The time limit of a job is in minutes.  The burst-buffer script turns it into seconds, the helper
passes it on as text, and the driver turns it into the nanoseconds of the request, for which it must
not be longer than `maxWalltimeSeconds`.  `walltime_accepted_iff` follows it through the three
programs.
-/

namespace QfwSlurm

open Helper

/-! ### Digits in Python -/

/-- A run of ASCII digits is a number for `int`. -/
lemma digitGroups_digits (decimal : Char → Option ℕ) {digits : List Char} (hne : digits ≠ [])
    (h : ∀ c ∈ digits, Python.isJsonDigit c = true) :
    Python.digitGroups decimal digits = some (digits.map fun c => c.toNat - 48) := by
  have hvalue {c : Char} (hc : Python.isJsonDigit c = true) :
      Python.digitValue decimal c = some (c.toNat - 48) := by
    have hrange : 48 ≤ c.toNat ∧ c.toNat ≤ 57 := by simpa [Python.isJsonDigit] using hc
    rw [Python.digitValue, if_pos (by omega), if_pos hrange]
  induction digits with
  | nil => exact absurd rfl hne
  | cons c rest ih =>
    obtain ⟨hc, hrest⟩ := List.forall_mem_cons.mp h
    cases rest with
    | nil =>
      rw [Python.digitGroups, hvalue hc]
      rfl
    | cons d rest =>
      have hd : Python.isJsonDigit d = true := hrest d List.mem_cons_self
      have hgroups := ih (List.cons_ne_nil _ _) hrest
      have hunderscore : d ≠ '_' := by
        rintro rfl
        exact absurd hd (by decide)
      rw [Python.digitGroups, hvalue hc, hgroups]
      · rfl
      · exact fun _ _ hd _ => hunderscore hd

/-- `int(str(n))`, within the limit on digits. -/
lemma intOfText_toString (decimal : Char → Option ℕ) {n : ℕ} (hn : n < 2 ^ 64) :
    Python.intOfText decimal (toString (n : ℤ)).toList = some (n : ℤ) := by
  have htext : (toString (n : ℤ)).toList = Python.decimalText n := toList_toString n
  have hdigit : ∀ c ∈ Python.decimalText n, Python.isJsonDigit c = true := fun c hc =>
    Python.isJsonDigit_of_mem hc
  have hne : Python.decimalText n ≠ [] := Nat.toDigits_ne_nil
  have hspace : ∀ c ∈ Python.decimalText n, ¬ Python.isIntSpace c = true := by
    intro c hc hspace
    have hrange : 48 ≤ c.toNat ∧ c.toNat ≤ 57 := by simpa [Python.isJsonDigit] using hdigit c hc
    have hnone : ∀ k ≤ 57, 48 ≤ k → Python.isIntSpace (Char.ofNat k) = false := by decide
    rw [← Char.ofNat_toNat c, hnone c.toNat hrange.2 hrange.1] at hspace
    cases hspace
  have hlength : (Python.decimalText n).length ≤ Python.intMaxStrDigits :=
    (Nat.toDigits_length 10 n 20 (by decide) (hn.trans (by decide))).trans (by decide)
  have hnatural : Python.naturalOfText decimal (Python.decimalText n) = some n := by
    rw [Python.naturalOfText, digitGroups_digits decimal hne hdigit]
    dsimp only [Option.bind_eq_bind, Option.bind_some]
    rw [List.length_map, if_neg (not_lt.mpr hlength), List.foldl_map]
    exact congrArg some (Python.numberOfDigits_decimalText n)
  have hstrip : ((Python.decimalText n).dropWhile Python.isIntSpace).rdropWhile
      Python.isIntSpace = Python.decimalText n := by
    obtain ⟨first, rest, hfirst⟩ := List.exists_cons_of_ne_nil hne
    have hdrop : (Python.decimalText n).dropWhile Python.isIntSpace = Python.decimalText n := by
      rw [hfirst]
      exact List.dropWhile_cons_of_neg (hspace first (hfirst ▸ List.mem_cons_self))
    rw [hdrop, List.rdropWhile_eq_self_iff]
    exact fun h => hspace _ (List.getLast_mem h)
  rw [Python.intOfText, htext, hstrip]
  split
  case h_1 rest hsign =>
    exact absurd (hdigit '+' (hsign ▸ List.mem_cons_self)) (by decide)
  case h_2 rest hsign =>
    exact absurd (hdigit '-' (hsign ▸ List.mem_cons_self)) (by decide)
  case h_3 =>
    rw [hnatural]
    rfl

/-! ### The chain -/

/-- The walltime that a command of the burst-buffer script carries is sixty seconds for each minute
of the time limit, and the helper reads it. -/
lemma walltime_helperCommand {settings : BurstBuffer.Settings ℤ} {operation : String}
    {jobId uid gid : Lua.Value ℤ} {jobScript : Option (Lua.Value ℤ)}
    {jobInfo : BurstBuffer.JobInfo ℤ} {command : List UInt8} {minutes : ℤ}
    (h : BurstBuffer.helperCommand settings operation jobId jobScript uid gid jobInfo = .ok command)
    (hlimit : jobInfo.timeLimit.bind Lua.Value.tonumber = some minutes) :
    0 < minutes ∧ ∃ options, Shell.simpleCommand command =
        some (settings.helper.tostring :: utf8 operation :: BurstBuffer.optionWords options) ∧
      options.lookup "--walltime-seconds" = some (utf8 (toString (minutes * 60))) := by
  obtain ⟨cluster, submitTime, timeLimit, -, -, hminutes, -, hpositive, hcommand⟩ :=
    BurstBuffer.helperCommand_eq_ok h
  obtain rfl := Option.some.inj (hminutes.symm.trans hlimit)
  refine ⟨not_le.mp (of_decide_eq_false hpositive),
    BurstBuffer.helperOptions settings jobId jobScript uid gid jobInfo cluster submitTime timeLimit,
    ?_, ?_⟩
  · rw [hcommand]
    exact BurstBuffer.simpleCommand_options fun option hmem =>
      BurstBuffer.mem_optionNames_of_mem_helperOptions hmem
  · simp [BurstBuffer.helperOptions, List.lookup_cons, Lua.Numbers.tostring, Lua.Numbers.mul,
      Lua.Numbers.ofNat]

/-- The seconds of the time limit reach the driver, which accepts them up to `maxWalltimeSeconds`;
the nanoseconds that it reads are those of the time limit. -/
theorem walltime_accepted_iff (decimal : Char → Option ℕ) {settings : BurstBuffer.Settings ℤ}
    {operation : String} {jobId uid gid : Lua.Value ℤ} {jobScript : Option (Lua.Value ℤ)}
    {jobInfo : BurstBuffer.JobInfo ℤ} {command : List UInt8} {minutes : ℤ}
    (h : BurstBuffer.helperCommand settings operation jobId jobScript uid gid jobInfo = .ok command)
    (hlimit : jobInfo.timeLimit.bind Lua.Value.tonumber = some minutes)
    (hreported : minutes < 2 ^ 32) :
    ∃ options text, Shell.simpleCommand command =
        some (settings.helper.tostring :: utf8 operation :: BurstBuffer.optionWords options) ∧
      options.lookup "--walltime-seconds" = some (utf8 text) ∧
      ∃ seconds, Python.intOfText decimal text.toList = some seconds ∧ seconds = minutes * 60 ∧
      ∀ (args : Args) (driverOperation : DriverCommand) (directive : Directive)
        (words : List String) (epoch : ℤ), driverOperation ≠ .release →
        args.walltimeSeconds = seconds →
        driverCommand args driverOperation (some directive) = .ok (words, epoch) →
        ((∃ read, Driver.parseOptions (words.tail.map utf8) = .ok read) ↔
          minutes * 60 ≤ Driver.maxWalltimeSeconds ∧ Commanded args ∧
            ∃ quantum, Native.setOptions {} (directiveSettings directive) = .ok quantum ∧
              quantum.active = true ∧ Native.qfwQuantumOptionsValidate quantum = .ok ()) ∧
        ∀ read, Driver.parseOptions (words.tail.map utf8) = .ok read →
          (read.allocation.walltimeNs : ℤ) = minutes * 60 * 10 ^ 9 ∧
            read.allocation.walltimeNs < 2 ^ 64 := by
  obtain ⟨hpositive, options, hwords, hlookup⟩ := walltime_helperCommand h hlimit
  obtain ⟨n, hn⟩ : ∃ n : ℕ, minutes * 60 = n := Int.eq_ofNat_of_zero_le (by omega)
  refine ⟨options, toString (minutes * 60), hwords, hlookup, minutes * 60, ?_, rfl, ?_⟩
  · rw [hn]
    exact intOfText_toString decimal (by omega)
  intro args driverOperation directive words epoch hoperation hseconds hcommand
  have hparse := parse_driverCommand hcommand hoperation
  refine ⟨⟨?_, ?_⟩, ?_⟩
  · rintro ⟨read, hread⟩
    obtain ⟨⟨hargs, -, hmax⟩, quantum, hquantum, hactive, hvalid, -⟩ := (hparse read).mp hread
    exact ⟨hseconds ▸ hmax, hargs, quantum, hquantum, hactive, hvalid⟩
  · rintro ⟨hmax, hargs, quantum, hquantum, hactive, hvalid⟩
    exact ⟨_, (hparse _).mpr ⟨⟨hargs, by omega, by omega⟩, quantum, hquantum, hactive, hvalid, rfl⟩⟩
  · intro read hread
    obtain ⟨⟨-, -, hmax⟩, quantum, -, -, -, rfl⟩ := (hparse read).mp hread
    have hvalue : (optionsOf args epoch driverOperation quantum).allocation.walltimeNs =
        args.walltimeSeconds.toNat * 1000000000 := rfl
    have hbound : Driver.maxWalltimeSeconds = 18446744073 := by decide
    rw [hvalue]
    omega

/-- A job without a time limit of its own: Slurm reports the value for an unlimited one. -/
def unlimitedJob : BurstBuffer.JobInfo ℤ :=
  { BurstBuffer.sampleJob with timeLimit := some (.number 4294967295) }

/-- The arguments of the helper for a job with this walltime. -/
def walltimeArgs (walltimeSeconds : ℤ) : Args where
  cluster := "quantum"
  jobId := 42
  canonicalJobId := 41
  uid := 1000
  gid := 1000
  submitTime := 1700000000
  walltimeSeconds := walltimeSeconds
  hetJobId := 41
  hetComponent := 1

def walltimeDirective : Directive :=
  [("qpu", "qpm-a"), ("workload", "quantum"), ("circuits", "1"), ("qubits", "2"), ("depth", "3"),
    ("shots", "4")]

/-- What the driver says to the command for a job with this walltime. -/
def walltimeAccepted (walltimeSeconds : ℤ) : Bool :=
  match driverCommand (walltimeArgs walltimeSeconds) .evaluate (some walltimeDirective) with
  | .ok (words, _) => (Driver.parseOptions (words.tail.map utf8)).toBool
  | .error _ => false

/-- A command is built for an unlimited job, and the driver refuses its walltime, where it accepts
the one of half an hour. -/
theorem unlimited_refused :
    (BurstBuffer.helperCommand BurstBuffer.sampleSettings "evaluate" (.number 42) none
      (.number 1000) (.number 1000) unlimitedJob).toBool = true ∧
    unlimitedJob.timeLimit.bind Lua.Value.tonumber = some (4294967295 : ℤ) ∧
    walltimeAccepted (4294967295 * 60) = false ∧ walltimeAccepted (30 * 60) = true := by
  decide +kernel

theorem walltime_accepted_iff_sample :
    ∃ seconds : ℤ, seconds = 30 * 60 ∧ ∃ words epoch,
      driverCommand (walltimeArgs seconds) .evaluate (some walltimeDirective) = .ok (words, epoch) ∧
      ∀ read, Driver.parseOptions (words.tail.map utf8) = .ok read →
        (read.allocation.walltimeNs : ℤ) = 30 * 60 * 10 ^ 9 ∧
          read.allocation.walltimeNs < 2 ^ 64 := by
  obtain ⟨options, text, -, -, seconds, -, hseconds, h⟩ :=
    @walltime_accepted_iff (fun _ => none) BurstBuffer.sampleSettings "evaluate" (.number 42)
      (.number 1000) (.number 1000) none BurstBuffer.sampleJob
      ((BurstBuffer.helperCommand BurstBuffer.sampleSettings "evaluate" (.number 42) none
        (.number 1000) (.number 1000) BurstBuffer.sampleJob).toOption.getD []) 30
      (by decide +kernel) rfl (by decide)
  subst hseconds
  obtain ⟨words, hwords⟩ : ∃ words, driverCommand (walltimeArgs (30 * 60)) .evaluate
      (some walltimeDirective) = .ok words := ⟨_, rfl⟩
  exact ⟨30 * 60, rfl, words.1, words.2, hwords,
    (h (walltimeArgs (30 * 60)) .evaluate walltimeDirective words.1 words.2 nofun rfl hwords).2⟩

end QfwSlurm
