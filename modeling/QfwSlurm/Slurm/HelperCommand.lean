import QfwSlurm.Lua.Values
import QfwSlurm.Protocol.Decode
import QfwSlurm.Shell.Words
import QfwSlurm.Slurm.PreRun

/-!
# The commands of the burst-buffer script

The script runs the helper and `scontrol` through a shell, as SlurmUser, with texts that come from
the job record.  `helperCommand` builds the line, `quote` is what keeps its values apart, and
`helper_command_one_command` says that the shell reads the values that were given.  The comments that
the pre-run hook puts on jobs are such commands too, in every run of it (`slurmBbPreRun_comments`).
-/

namespace QfwSlurm.BurstBuffer

variable {N : Type} [Lua.Numbers N]

/-! ### The script -/

/-- The settings that the commands are built of. -/
structure Settings (N : Type) where
  helper : Lua.Value N
  driver : Lua.Value N
  pluginConfig : Lua.Value N
  stateDir : Lua.Value N
  scontrol : Lua.Value N
  maxReservationAttempts : Lua.Value N

/-- The fields of a job record that the script reads. -/
structure JobInfo (N : Type) where
  cluster : Option (Lua.Value N)
  submitTime : Option (Lua.Value N)
  restartCnt : Option (Lua.Value N)
  timeLimit : Option (Lua.Value N)
  hetJobId : Option (Lua.Value N)
  hetJobOffset : Option (Lua.Value N)

/-- `quote` -/
def quote (value : Lua.Value N) : List UInt8 := Shell.quote value.tostring

/-- `hetero ~= 0 and hetero ~= 4294967294 and hetero ~= 4294967295` -/
def isHetero (hetero : N) : Bool :=
  !Lua.Numbers.eq hetero (Lua.Numbers.ofNat 0) &&
    !Lua.Numbers.eq hetero (Lua.Numbers.ofNat 4294967294) &&
    !Lua.Numbers.eq hetero (Lua.Numbers.ofNat 4294967295)

/-- `canonical_job_id` -/
def canonicalJobId (jobId : Lua.Value N) (jobInfo : JobInfo N) : Option (Lua.Value N) :=
  let hetero := Lua.numberOr jobInfo.hetJobId (Lua.Numbers.ofNat 0)
  if isHetero hetero then some (.number hetero) else jobId.tonumber.map .number

/-- `helper_command` -/
def helperCommand (settings : Settings N) (operation : String) (jobId : Lua.Value N)
    (jobScript : Option (Lua.Value N)) (uid gid : Lua.Value N) (jobInfo : JobInfo N) :
    Except String (List UInt8) :=
  match jobInfo.cluster, jobInfo.submitTime.bind Lua.Value.tonumber,
    jobInfo.timeLimit.bind Lua.Value.tonumber with
  | some cluster, some submitTime, some timeLimit =>
    if ¬ Lua.isWord cluster.tostring ∨ Lua.Numbers.le timeLimit (Lua.Numbers.ofNat 0) then
      .error "invalid authoritative Slurm job metadata"
    else
      let restartCount := Lua.numberOr jobInfo.restartCnt (Lua.Numbers.ofNat 0)
      let hetero := Lua.numberOr jobInfo.hetJobId (Lua.Numbers.ofNat 0)
      let command := [
        quote settings.helper, Shell.quote (utf8 operation), utf8 "--driver",
        quote settings.driver, utf8 "--plugin-config", quote settings.pluginConfig,
        utf8 "--state-dir", quote settings.stateDir, utf8 "--cluster", quote cluster,
        utf8 "--job-id", quote jobId, utf8 "--canonical-job-id",
        Shell.quote (Lua.tostring (canonicalJobId jobId jobInfo)), utf8 "--uid", quote uid,
        utf8 "--gid", quote gid, utf8 "--submit-time", quote (.number submitTime),
        utf8 "--restart-count",
        quote (.number restartCount), utf8 "--walltime-seconds",
        quote (.number (Lua.Numbers.mul timeLimit (Lua.Numbers.ofNat 60))),
        utf8 "--max-reservation-attempts", quote settings.maxReservationAttempts]
      let command := command ++
        if isHetero hetero then
          [utf8 "--het-job-id", quote (.number hetero), utf8 "--het-component",
            quote (jobInfo.hetJobOffset.getD (.number (Lua.Numbers.ofNat 0)))]
        else []
      let command := command ++
        match jobScript with
        | some script => [utf8 "--job-script", quote script]
        | none => []
      .ok (Lua.concat command (utf8 " "))
  | _, _, _ => .error "invalid authoritative Slurm job metadata"

/-- `status_path` of `run_helper` -/
def statusPath (settings : Settings N) (operation : String) (jobId : Lua.Value N) : List UInt8 :=
  settings.stateDir.tostring ++ utf8 "/.status-" ++ jobId.tostring ++ utf8 "-" ++ utf8 operation

/-- The line that `run_helper` executes. -/
def helperLine (settings : Settings N) (operation : String) (jobId : Lua.Value N)
    (command : List UInt8) : List UInt8 :=
  command ++ utf8 "; qfw_status=$?; printf '%s\\n' \"$\x7bqfw_status\x7d\" > " ++
    Shell.quote (statusPath settings operation jobId)

/-- The line that `comment_job` executes. -/
def commentLine (settings : Settings N) (jobId : Lua.Value N) (message : List UInt8) :
    Option (List UInt8) :=
  if Lua.isNumeric jobId.tostring then
    some (quote settings.scontrol ++ utf8 " update JobId=" ++ jobId.tostring ++ utf8 " " ++
      Shell.quote (utf8 "AdminComment=slurm_bb_pre_run: " ++ message))
  else none

/-! ### What the shell reads -/

/-- The options that are meant, with their values. -/
def helperOptions (settings : Settings N) (jobId : Lua.Value N) (jobScript : Option (Lua.Value N))
    (uid gid : Lua.Value N) (jobInfo : JobInfo N) (cluster : Lua.Value N) (submitTime timeLimit : N) :
    List (String × List UInt8) :=
  let hetero := Lua.numberOr jobInfo.hetJobId (Lua.Numbers.ofNat 0)
  [("--driver", settings.driver.tostring), ("--plugin-config", settings.pluginConfig.tostring),
    ("--state-dir", settings.stateDir.tostring), ("--cluster", cluster.tostring),
    ("--job-id", jobId.tostring),
    ("--canonical-job-id", Lua.tostring (canonicalJobId jobId jobInfo)),
    ("--uid", uid.tostring), ("--gid", gid.tostring),
    ("--submit-time", Lua.Numbers.tostring submitTime),
    ("--restart-count",
      Lua.Numbers.tostring (Lua.numberOr jobInfo.restartCnt (Lua.Numbers.ofNat 0))),
    ("--walltime-seconds",
      Lua.Numbers.tostring (Lua.Numbers.mul timeLimit (Lua.Numbers.ofNat 60))),
    ("--max-reservation-attempts", settings.maxReservationAttempts.tostring)] ++
  (if isHetero hetero then
    [("--het-job-id", Lua.Numbers.tostring hetero),
      ("--het-component",
        (jobInfo.hetJobOffset.getD (.number (Lua.Numbers.ofNat 0))).tostring)]
  else []) ++
  match jobScript with
  | some script => [("--job-script", script.tostring)]
  | none => []

/-- The words of options. -/
def optionWords (options : List (String × List UInt8)) : List (List UInt8) :=
  options.flatMap fun option => [utf8 option.1, option.2]

/-- Options as they are written: the name as it is, the value quoted. -/
def optionArguments (options : List (String × List UInt8)) : List Shell.Argument :=
  options.flatMap fun option => [.bare (utf8 option.1), .quoted option.2]

lemma map_text_optionArguments (options : List (String × List UInt8)) :
    (optionArguments options).map Shell.Argument.text = optionWords options := by
  unfold optionArguments optionWords
  rw [List.map_flatMap]
  rfl

/-- The names of the options of the helper. -/
def optionNames : List String :=
  ["--driver", "--plugin-config", "--state-dir", "--cluster", "--job-id", "--canonical-job-id",
    "--uid", "--gid", "--submit-time", "--restart-count", "--walltime-seconds",
    "--max-reservation-attempts", "--het-job-id", "--het-component", "--job-script"]

lemma safe_optionArguments {options : List (String × List UInt8)}
    (h : ∀ option ∈ options, option.1 ∈ optionNames) :
    ∀ argument ∈ optionArguments options, argument.Safe := by
  have hnonempty : ∀ name ∈ optionNames, utf8 name ≠ [] := by decide +kernel
  have hordinary : ∀ name ∈ optionNames, (utf8 name).all Shell.isOrdinary = true := by
    decide +kernel
  intro argument hmem
  obtain ⟨option, hoption, hmem⟩ := List.mem_flatMap.mp hmem
  rcases List.mem_cons.mp hmem with rfl | hmem
  · exact ⟨hnonempty option.1 (h option hoption),
      List.all_eq_true.mp (hordinary option.1 (h option hoption))⟩
  · obtain rfl := List.mem_singleton.mp hmem
    trivial

lemma mem_optionNames_of_mem_helperOptions {settings : Settings N} {jobId uid gid : Lua.Value N}
    {jobScript : Option (Lua.Value N)} {jobInfo : JobInfo N} {cluster : Lua.Value N}
    {submitTime timeLimit : N} {option : String × List UInt8}
    (h : option ∈ helperOptions settings jobId jobScript uid gid jobInfo cluster submitTime
      timeLimit) : option.1 ∈ optionNames := by
  have hmem := List.mem_map_of_mem (f := Prod.fst) h
  refine (?_ : _ ⊆ optionNames) hmem
  unfold helperOptions
  dsimp only
  rcases jobScript with _ | script
  all_goals
    split_ifs <;> simp only [List.map_append, List.map_cons, List.map_nil] <;> decide

/-- What the command is: the helper, the operation and the options that are meant. -/
lemma helperCommand_eq_ok {settings : Settings N} {operation : String} {jobId uid gid : Lua.Value N}
    {jobScript : Option (Lua.Value N)} {jobInfo : JobInfo N} {command : List UInt8}
    (h : helperCommand settings operation jobId jobScript uid gid jobInfo = .ok command) :
    ∃ cluster submitTime timeLimit, jobInfo.cluster = some cluster ∧
      jobInfo.submitTime.bind Lua.Value.tonumber = some submitTime ∧
      jobInfo.timeLimit.bind Lua.Value.tonumber = some timeLimit ∧
      Lua.isWord cluster.tostring = true ∧
      Lua.Numbers.le timeLimit (Lua.Numbers.ofNat 0) = false ∧
      command = [32].intercalate
        ((Shell.Argument.quoted settings.helper.tostring :: .quoted (utf8 operation) ::
          optionArguments (helperOptions settings jobId jobScript uid gid jobInfo cluster submitTime
            timeLimit)).map Shell.Argument.written) := by
  unfold helperCommand at h
  rcases hcluster : jobInfo.cluster with _ | cluster
  · rw [hcluster] at h
    cases h
  rcases hsubmit : jobInfo.submitTime.bind Lua.Value.tonumber with _ | submitTime
  · rw [hcluster, hsubmit] at h
    cases h
  rcases hlimit : jobInfo.timeLimit.bind Lua.Value.tonumber with _ | timeLimit
  · rw [hcluster, hsubmit, hlimit] at h
    cases h
  rw [hcluster, hsubmit, hlimit] at h
  dsimp only at h
  split at h
  · cases h
  · rename_i hvalid
    obtain ⟨hword, hpositive⟩ := not_or.mp hvalid
    refine ⟨cluster, submitTime, timeLimit, rfl, rfl, rfl, not_not.mp hword,
      Bool.eq_false_iff.mpr hpositive, ?_⟩
    have hspace : utf8 " " = [32] := by decide +kernel
    rw [← Except.ok.inj h, hspace, Lua.concat]
    refine congrArg _ ?_
    unfold helperOptions optionArguments
    dsimp only
    rw [List.flatMap_append, List.flatMap_append]
    split_ifs <;> rcases jobScript with _ | script <;> rfl

/-- The helper, an operation and options are one simple command. -/
lemma simpleCommand_options {name operation : List UInt8} {options : List (String × List UInt8)}
    (h : ∀ option ∈ options, option.1 ∈ optionNames) :
    Shell.simpleCommand ([32].intercalate ((Shell.Argument.quoted name :: .quoted operation ::
        optionArguments options).map Shell.Argument.written)) =
      some (name :: operation :: optionWords options) := by
  have hsafe : ∀ argument ∈ Shell.Argument.quoted operation :: optionArguments options,
      argument.Safe := List.forall_mem_cons.mpr ⟨trivial, safe_optionArguments h⟩
  rw [Shell.simpleCommand_arguments hsafe, List.map_cons, map_text_optionArguments]
  rfl

/-- What stands in the line of `run_helper` between the command and the file for the status. -/
def statusTokens : List Shell.Token := [
  .operator (utf8 ";"),
  .word ((utf8 "qfw_status=").map Shell.Piece.plain ++ [.parameter (utf8 "?") false]),
  .operator (utf8 ";"), .word ((utf8 "printf").map .plain),
  .word (Shell.quotedPieces (utf8 "%s\\n")),
  .word [.quotation, .parameter (utf8 "qfw_status") true], .operator (utf8 ">")]

lemma run_status (path : List UInt8) :
    Shell.run { operator := [59] }
        (utf8 " qfw_status=$?; printf '%s\\n' \"$\x7bqfw_status\x7d\" > " ++ Shell.quote path) >>=
        Shell.State.finish =
      some (statusTokens ++ [.word (Shell.quotedPieces path)]) := by
  have hconstant : Shell.run { operator := [59] }
      (utf8 " qfw_status=$?; printf '%s\\n' \"$\x7bqfw_status\x7d\" > ") =
        some { tokens := statusTokens } := by decide +kernel
  rw [Shell.run_append, hconstant]
  have hquote : (Shell.run { tokens := statusTokens } (Shell.quote path) >>= Shell.State.finish) =
      some (statusTokens ++ [.word (Shell.quotedPieces path)]) := by
    rw [Shell.run_quote rfl rfl]
    exact congrArg some (List.append_nil _)
  exact hquote

/-- The file for the status is one word behind the redirection, and the words of the command stay
what they are. -/
lemma tokenize_helperLine {settings : Settings N} {operation : String} {jobId : Lua.Value N}
    {arguments : List Shell.Argument} (hne : arguments ≠ [])
    (h : ∀ argument ∈ arguments, argument.Safe) :
    Shell.tokenize (helperLine settings operation jobId
        ([32].intercalate (arguments.map Shell.Argument.written))) =
      some (Shell.argumentTokens arguments ++
        (statusTokens ++
          [Shell.Token.word (Shell.quotedPieces (statusPath settings operation jobId))])) := by
  have hsemicolon : utf8 "; qfw_status=$?; printf '%s\\n' \"$\x7bqfw_status\x7d\" > " =
      59 :: utf8 " qfw_status=$?; printf '%s\\n' \"$\x7bqfw_status\x7d\" > " := by decide +kernel
  rw [helperLine, hsemicolon, List.append_assoc, List.cons_append,
    Shell.tokenize_line_append hne h, run_status]
  rfl

/-- The line of `comment_job` is one command with four words. -/
lemma simpleCommand_update {jobId : List UInt8} (h : Lua.isNumeric jobId = true)
    (scontrol message : List UInt8) :
    Shell.simpleCommand (Shell.quote scontrol ++ utf8 " update JobId=" ++ jobId ++ utf8 " " ++
      Shell.quote (utf8 "AdminComment=slurm_bb_pre_run: " ++ message)) =
    some [scontrol, utf8 "update", utf8 "JobId=" ++ jobId,
      utf8 "AdminComment=slurm_bb_pre_run: " ++ message] := by
  obtain ⟨-, hdigits⟩ := Bool.and_eq_true_iff.mp h
  have hjob : ∀ b ∈ utf8 "JobId=" ++ jobId, Shell.isOrdinary b = true := by
    intro b hb
    rcases List.mem_append.mp hb with hb | hb
    · exact (by decide +kernel : ∀ b ∈ utf8 "JobId=", Shell.isOrdinary b = true) b hb
    · have hdigit := List.all_eq_true.mp hdigits b hb
      simp only [Shell.isOrdinary, Shell.isNameByte, hdigit, Bool.or_true, Bool.true_or]
  have hsafe : ∀ argument ∈ [Shell.Argument.bare (utf8 "update"),
      .bare (utf8 "JobId=" ++ jobId),
      .quoted (utf8 "AdminComment=slurm_bb_pre_run: " ++ message)], argument.Safe := by
    have hupdate : utf8 "update" ≠ [] ∧ ∀ b ∈ utf8 "update", Shell.isOrdinary b = true := by
      decide +kernel
    simp only [List.forall_mem_cons, List.not_mem_nil, false_implies, implies_true, and_true]
    exact ⟨hupdate, ⟨List.append_ne_nil_of_left_ne_nil (by decide +kernel) _, hjob⟩, trivial⟩
  have hline : Shell.quote scontrol ++ utf8 " update JobId=" ++ jobId ++ utf8 " " ++
      Shell.quote (utf8 "AdminComment=slurm_bb_pre_run: " ++ message) =
      [32].intercalate ((Shell.Argument.quoted scontrol ::
        [.bare (utf8 "update"), .bare (utf8 "JobId=" ++ jobId),
          .quoted (utf8 "AdminComment=slurm_bb_pre_run: " ++ message)]).map
            Shell.Argument.written) := by
    have hupdate : utf8 " update JobId=" = 32 :: (utf8 "update" ++ 32 :: utf8 "JobId=") := by
      decide +kernel
    have hspace : utf8 " " = [32] := by decide +kernel
    rw [hupdate, hspace]
    simp [List.intercalate_cons_cons, Shell.Argument.written]
  rw [hline, Shell.simpleCommand_arguments hsafe]
  rfl

/-- `quote` on the bytes of a text. -/
lemma utf8_quote (value : String) : utf8 (QfwSlurm.quote value) = Shell.quote (utf8 value) := by
  have hchar (c : Char) : bytesOf (if c = '\'' then "'\\''" else c.toString).toList =
      (String.utf8EncodeChar c).flatMap fun b => if b = 39 then [39, 92, 39, 39] else [b] := by
    by_cases hc : c = '\''
    · rw [if_pos hc, hc]
      decide +kernel
    · have hsame : ∀ b ∈ String.utf8EncodeChar c,
          (if b = 39 then [39, 92, 39, 39] else [b]) = [b] := by
        intro b hb
        refine if_neg fun hquote => hc ?_
        subst hquote
        have hmem : Char.ofNat 39 ∈ [c] :=
          ascii_mem_bytesOf (by decide) (List.mem_flatMap.mpr ⟨c, List.mem_singleton_self c, hb⟩)
        exact (List.mem_singleton.mp hmem).symm
      rw [if_neg hc, List.flatMap_congr hsame, List.flatMap_singleton', Char.toString,
        String.toList_singleton]
      exact List.append_nil _
  have hbody (text : List Char) : bytesOf (String.join (text.map fun c =>
      if c = '\'' then "'\\''" else c.toString)).toList =
      (bytesOf text).flatMap fun b => if b = 39 then [39, 92, 39, 39] else [b] := by
    induction text with
    | nil => rfl
    | cons c text ih =>
      rw [List.map_cons, String.join_cons, String.toList_append, bytesOf_append, hchar, ih]
      exact List.flatMap_append.symm
  have hmark : utf8 "'" = [39] := by decide +kernel
  rw [QfwSlurm.quote, ← bytesOf_toList, String.toList_append, String.toList_append, bytesOf_append,
    bytesOf_append, hbody, bytesOf_toList, bytesOf_toList, hmark]
  rfl

/-- The comment of a failed job is one command, with the message in one argument. -/
lemma simpleCommand_commentJob {settings : HookSettings} {jobId message command : String}
    (h : HookEvent.scontrol command ∈ commentJob settings jobId message) :
    Shell.simpleCommand (utf8 command) = some [utf8 settings.scontrol, utf8 "update",
      utf8 "JobId=" ++ utf8 jobId, utf8 "AdminComment=slurm_bb_pre_run: " ++ utf8 message] := by
  unfold commentJob at h
  split_ifs at h with hnumeric
  · have hjob : Lua.isNumeric (utf8 jobId) = true := by
      obtain ⟨hne, hdigits⟩ := Bool.and_eq_true_iff.mp hnumeric
      have hbytes : utf8 jobId ≠ [] := by
        rw [Ne, utf8_eq_nil_iff]
        rintro rfl
        cases hne
      have hdigit : ∀ b ∈ utf8 jobId, (48 ≤ b.toNat && b.toNat ≤ 57) = true := by
        intro b hb
        rw [utf8_eq_flatMap] at hb
        obtain ⟨c, hc, hb⟩ := List.mem_flatMap.mp hb
        have hrange := of_decide_eq_true (List.all_eq_true.mp hdigits c hc)
        rw [utf8EncodeChar_ascii (by omega), List.mem_singleton] at hb
        have hvalue : b.toNat = c.toNat := by
          rw [hb, UInt8.toNat_ofNat']
          omega
        rw [hvalue, Bool.and_eq_true_iff, decide_eq_true_iff, decide_eq_true_iff]
        exact hrange
      exact Bool.and_eq_true_iff.mpr ⟨decide_eq_true hbytes, List.all_eq_true.mpr hdigit⟩
    obtain rfl := HookEvent.scontrol.inj (List.mem_singleton.mp h)
    rw [utf8_append, utf8_append, utf8_append, utf8_append, utf8_quote, utf8_quote, utf8_append]
    exact simpleCommand_update hjob _ _
  · exact absurd h List.not_mem_nil

/-- What a run of the pre-run hook calls `scontrol` with is one command, and the message with which
the hook fails is one of its arguments. -/
theorem slurmBbPreRun_comments (settings : HookSettings) (time : List HookEvent → Lua.Number)
    (helper : ℕ → HelperOutcome) (jobId : String) {fuel : ℕ} {result : HookResult}
    (h : slurmBbPreRun settings time helper jobId fuel = some (.ok result)) {command : String}
    (hcommand : .scontrol command ∈ result.trace) :
    Shell.simpleCommand (utf8 command) = some [utf8 settings.scontrol, utf8 "update",
      utf8 "JobId=" ++ utf8 jobId,
      utf8 "AdminComment=slurm_bb_pre_run: " ++ utf8 result.message] := by
  obtain ⟨outcome, hreserve, hresult⟩ := Option.map_eq_some_iff.mp h
  cases outcome with
  | error error => cases hresult
  | ok s =>
    -- the loop itself runs nothing but the helper
    have hquiet := quiet_of_reaches (Interaction.leads_of_loop hreserve)
    obtain rfl : conclude settings jobId s = result := Except.ok.inj hresult
    have hlisted : .scontrol command ∈ slurmCommands (conclude settings jobId s).trace :=
      List.mem_filter.mpr ⟨hcommand, rfl⟩
    unfold conclude at hlisted ⊢
    split_ifs at hlisted ⊢ with hstatus
    · rw [hquiet] at hlisted
      cases hlisted
    · simp only [failJob, slurmCommands_append, hquiet, slurmCommands_logInfo,
        List.nil_append] at hlisted
      rcases List.mem_append.mp hlisted with hcomment | hcancel
      · exact simpleCommand_commentJob (List.mem_filter.mp hcomment).1
      · have hmem := (List.mem_filter.mp hcancel).1
        unfold cancelJob at hmem
        split_ifs at hmem
        · cases List.mem_singleton.mp hmem
        · cases hmem

/-- Nothing of the job's metadata becomes code of the shell: the command of `helper_command` is one
simple command with the arguments that are meant, `run_helper` adds the status and one file for it,
and the comment on a job is one argument of `scontrol`. -/
theorem helper_command_one_command (settings : Settings N) :
    (∀ (operation : String) (jobId uid gid : Lua.Value N) (jobScript : Option (Lua.Value N))
        (jobInfo : JobInfo N) (command : List UInt8),
      helperCommand settings operation jobId jobScript uid gid jobInfo = .ok command →
      ∃ cluster submitTime timeLimit, jobInfo.cluster = some cluster ∧
        jobInfo.submitTime.bind Lua.Value.tonumber = some submitTime ∧
        jobInfo.timeLimit.bind Lua.Value.tonumber = some timeLimit ∧
        Shell.simpleCommand command = some (settings.helper.tostring :: utf8 operation ::
          optionWords (helperOptions settings jobId jobScript uid gid jobInfo cluster submitTime
            timeLimit)) ∧
        ∃ words file, Shell.tokenize (helperLine settings operation jobId command) =
            some (words ++ (statusTokens ++ [file])) ∧
          Shell.argumentVector words = Shell.simpleCommand command ∧
          file.text = some (statusPath settings operation jobId)) ∧
    ∀ (jobId : Lua.Value N) (message line : List UInt8),
      commentLine settings jobId message = some line →
      Shell.simpleCommand line = some [settings.scontrol.tostring, utf8 "update",
        utf8 "JobId=" ++ jobId.tostring, utf8 "AdminComment=slurm_bb_pre_run: " ++ message] := by
  refine ⟨fun operation jobId uid gid jobScript jobInfo command h => ?_,
    fun jobId message line h => ?_⟩
  rotate_left
  · unfold commentLine at h
    split_ifs at h with hnumeric
    rw [← Option.some.inj h]
    exact simpleCommand_update hnumeric _ _
  obtain ⟨cluster, submitTime, timeLimit, hcluster, hsubmit, hlimit, -, -, rfl⟩ :=
    helperCommand_eq_ok h
  have hnames : ∀ option ∈ helperOptions settings jobId jobScript uid gid jobInfo cluster submitTime
      timeLimit, option.1 ∈ optionNames := fun option hmem =>
    mem_optionNames_of_mem_helperOptions hmem
  have hsafe : ∀ argument ∈ Shell.Argument.quoted (utf8 operation) ::
      optionArguments (helperOptions settings jobId jobScript uid gid jobInfo cluster submitTime
        timeLimit), argument.Safe :=
    List.forall_mem_cons.mpr ⟨trivial, safe_optionArguments hnames⟩
  have hcommand : Shell.simpleCommand _ =
      some (settings.helper.tostring :: utf8 operation :: _) := simpleCommand_options hnames
  refine ⟨cluster, submitTime, timeLimit, hcluster, hsubmit, hlimit, hcommand,
    Shell.argumentTokens (.quoted settings.helper.tostring :: .quoted (utf8 operation) ::
      optionArguments (helperOptions settings jobId jobScript uid gid jobInfo cluster submitTime
        timeLimit)), .word (Shell.quotedPieces (statusPath settings operation jobId)), ?_, ?_,
    Shell.text_quotedPieces _⟩
  · exact tokenize_helperLine (List.cons_ne_nil _ _) (List.forall_mem_cons.mpr
      ⟨(trivial : (Shell.Argument.quoted settings.helper.tostring).Safe), hsafe⟩)
  · rw [hcommand, Shell.argumentVector_arguments hsafe, List.map_cons, map_text_optionArguments]
    rfl

/-- A job of an allocation with components, whose script has quotes and a command in its name. -/
def sampleSettings : Settings ℤ where
  helper := .text (utf8 "/usr/libexec/qfw-slurm/qfw-slurm-bb")
  driver := .text (utf8 "/usr/bin/qfw-slurm-driver")
  pluginConfig := .text (utf8 "/etc/openqse/qfw-slurm/plugin.conf")
  stateDir := .text (utf8 "/var/lib/qfw slurm")
  scontrol := .text (utf8 "/usr/bin/scontrol")
  maxReservationAttempts := .number 8

def sampleJob : JobInfo ℤ where
  cluster := some (.text (utf8 "quantum"))
  submitTime := some (.number 1700000000)
  restartCnt := none
  timeLimit := some (.number 30)
  hetJobId := some (.number 41)
  hetJobOffset := some (.number 1)

theorem helper_command_one_command_sample :
    (∃ command, Shell.simpleCommand command = some ([
      "/usr/libexec/qfw-slurm/qfw-slurm-bb", "reserve", "--driver", "/usr/bin/qfw-slurm-driver",
      "--plugin-config", "/etc/openqse/qfw-slurm/plugin.conf", "--state-dir", "/var/lib/qfw slurm",
      "--cluster", "quantum", "--job-id", "42", "--canonical-job-id", "41", "--uid", "1000",
      "--gid", "1000", "--submit-time", "1700000000", "--restart-count", "0",
      "--walltime-seconds", "1800", "--max-reservation-attempts", "8", "--het-job-id", "41",
      "--het-component", "1", "--job-script", "/tmp/it's; $(reboot)"].map utf8)) ∧
    ∃ line, Shell.simpleCommand line = some (["/usr/bin/scontrol", "update", "JobId=42",
      "AdminComment=slurm_bb_pre_run: it's over"].map utf8) := by
  obtain ⟨hcommand, hcomment⟩ := helper_command_one_command sampleSettings
  refine ⟨?_, ?_⟩
  · obtain ⟨cluster, submitTime, timeLimit, hcluster, hsubmit, hlimit, h, -⟩ :=
      hcommand "reserve" (.number 42) (.number 1000) (.number 1000)
        (some (.text (utf8 "/tmp/it's; $(reboot)"))) sampleJob
        ((helperCommand sampleSettings "reserve" (.number 42)
          (some (.text (utf8 "/tmp/it's; $(reboot)"))) (.number 1000) (.number 1000)
            sampleJob).toOption.getD []) (by decide +kernel)
    obtain rfl := Option.some.inj hcluster
    obtain rfl := Option.some.inj hsubmit
    obtain rfl := Option.some.inj hlimit
    exact ⟨_, h.trans (by decide +kernel)⟩
  · have h := hcomment (.number 42) (utf8 "it's over")
      ((commentLine sampleSettings (.number 42) (utf8 "it's over")).getD []) (by decide +kernel)
    exact ⟨_, h.trans (by decide +kernel)⟩

end QfwSlurm.BurstBuffer
