import ApiDirectives.Log.Logger
import ApiDirectives.Proofs.Table
import ApiDirectives.Proofs.Text.Blank

/-!
# Where records are written

A set-up leaves one handler for the console and one for the file of its step, whatever was there before.
A record that comes to the shared log is therefore written by the set-up of its own step alone: once on
the console and once at the end of the file, each if it is of the level that the place takes. The way to
the shared log is safe for every stage whose name does not begin with a dot. Behind such a dot the name
of the shared log is passed over, and the record may come out past it.
-/

namespace ApiDirectives

/-! ## Names of logs -/

theorem stageOfLog_below (stage : String) : stageOfLog (sharedLog ++ "." ++ stage) = stage := by
  have hname : Text.dropLiteral? (sharedLog ++ ".").toList (sharedLog ++ "." ++ stage).toList =
      some stage.toList := by
    generalize sharedLog ++ "." = front
    rw [String.toList_append]
    exact Text.dropLiteral?_append _ _
  rw [stageOfLog, hname]
  exact String.ofList_toList

theorem stageOfLog_shared : stageOfLog sharedLog = "main" := by decide

/-- What is shown of a stage is its name. -/
theorem Record.stageName_eq (r : Record) :
    r.stageName = if r.stage.getD "" = "" then "main" else r.stage.getD "" := by
  unfold stageName log
  split
  · rename_i hnone
    rw [hnone]
    exact stageOfLog_shared
  · rename_i hempty
    rw [hempty]
    exact stageOfLog_shared
  · rename_i stage hne hstage
    rw [hstage, Option.getD_some, if_neg hne]
    exact stageOfLog_below stage

/-- The name of the shared log and the dot below it, read backwards. -/
def sharedEnd : List Char := (sharedLog ++ ".").toList.reverse

/-- A name that does not begin with a dot leads to the shared log, whatever logs are in use: where one
of these goes on, its own name begins in the same way. -/
theorem leadsToShared_append (used : List String) :
    (cs : List Char) → cs.getLast? ≠ some '.' → leadsToShared used (cs ++ sharedEnd) = true
  | [], _ => by
    show leadsToShared used ('.' :: 'c' :: "epsgnab".toList) = true
    rw [leadsToShared, if_pos (by decide)]
  | [c], h => by
    have hc : c ≠ '.' := fun hc => h (by rw [hc]; rfl)
    rw [List.singleton_append, leadsToShared.eq_2 _ _ _ fun _ _ hdot _ => hc hdot]
    exact leadsToShared_append used [] (by decide)
  | c :: d :: r, h => by
    have hd : (d :: r).getLast? ≠ some '.' := by
      rwa [List.getLast?_cons_cons] at h
    by_cases hc : c = '.'
    · subst hc
      show leadsToShared used ('.' :: d :: (r ++ sharedEnd)) = true
      rw [leadsToShared]
      split_ifs
      · rfl
      · exact leadsToShared_append used (d :: r) hd
      · refine leadsToShared_append used r fun hr => hd ?_
        rw [List.getLast?_cons, hr]
        rfl
    · show leadsToShared used (c :: (d :: r ++ sharedEnd)) = true
      rw [leadsToShared.eq_2 _ _ _ fun _ _ hdot _ => hc hdot]
      exact leadsToShared_append used (d :: r) hd

/-- The name of the stage does not begin with a dot. -/
def Record.IsPlain (r : Record) : Prop := ∀ stage ∈ r.stage, stage.toList.head? ≠ some '.'

theorem Logging.hears_of_isPlain {r : Record} (h : r.IsPlain) (l : Logging) : l.hears r = true := by
  unfold hears Record.log
  split
  · simp
  · simp
  · rename_i stage _ hstage
    have hlast : stage.toList.reverse.getLast? ≠ some '.' := by
      rw [List.getLast?_reverse]
      exact h stage hstage
    have hway := leadsToShared_append l.used _ hlast
    rw [Bool.or_eq_true]
    right
    rwa [String.toList_append, List.reverse_append]

/-! ## Set-ups -/

namespace Logger

theorem foldl_remove (l : Logger) : l.handlers.foldl remove l = { l with handlers := [] } := by
  obtain ⟨level, handlers⟩ := l
  induction handlers with
  | nil => rfl
  | cons h handlers ih =>
    have hfirst : remove ⟨level, h :: handlers⟩ h = ⟨level, handlers⟩ := by
      rw [remove, List.erase_cons_head]
    rw [List.foldl_cons, hfirst]
    exact ih

end Logger

/-- The handlers of a step: one for the console, and one for its file. -/
def LogStep.handlers (s : LogStep) : List Handler :=
  ⟨.console, s.setup.consoleLevel⟩ :: (s.file.map fun path => ⟨.file path, .debug⟩).toList

/-- A set-up depends on nothing but what its step asks for. -/
theorem Logger.configure_eq (l : Logger) (s : LogStep) :
    l.configure s = ⟨s.setup.level, s.handlers⟩ := by
  have hcleared := foldl_remove { l with level := s.setup.level }
  dsimp only at hcleared
  unfold configure LogStep.handlers
  dsimp only
  rw [hcleared]
  cases s.file with
  | none => rfl
  | some path => rfl

theorem LogStep.length_handlers (s : LogStep) : s.handlers.length = s.setup.sinks := by
  unfold handlers LogSetup.sinks setup
  cases s.file with
  | none => rfl
  | some path => rfl

/-! ## One record -/

theorem Record.not_reaches_of_le {r : Record} {a b : Level} (hle : a.rank ≤ b.rank)
    (h : r.reaches a = false) : r.reaches b = false := by
  unfold reaches at h ⊢
  rw [decide_eq_false_iff_not] at h ⊢
  omega

theorem LogSetup.consoleLevel_rank_le (s : LogSetup) : s.consoleLevel.rank ≤ Level.warning.rank := by
  unfold consoleLevel
  split <;> decide

theorem LogSetup.debug_rank_le (s : LogSetup) : Level.debug.rank ≤ s.consoleLevel.rank := by
  unfold consoleLevel
  split <;> decide

/-- A log lets through whatever one of its handlers takes. -/
theorem LogStep.level_rank_le {s : LogStep} {h : Handler} (hh : h ∈ s.handlers) :
    s.setup.level.rank ≤ h.level.rank := by
  have hconsole := s.setup.debug_rank_le
  unfold handlers at hh
  unfold LogSetup.level
  rcases List.mem_cons.mp hh with rfl | hh
  · split
    · exact hconsole
    · exact Int.le_refl _
  · obtain ⟨path, hfile, rfl⟩ := Option.map_eq_some_iff.mp (Option.mem_toList.mp hh)
    have hto : s.setup.toFile = true := by simp [setup, hfile]
    have hlevel : (if s.setup.toFile then Level.debug else s.setup.consoleLevel) = .debug := if_pos hto
    exact Int.le_of_eq (congrArg Level.rank hlevel)

namespace Logging

variable {time : String} {l : Logging} {r : Record} {s : LogStep}

theorem logger_add (l : Logging) (sink : Sink) (text : String) : (l.add sink text).logger = l.logger := by
  cases sink <;> rfl

theorem logger_configure (l : Logging) (s : LogStep) :
    (l.configure s).logger = ⟨s.setup.level, s.handlers⟩ := by
  rw [← Logger.configure_eq l.logger s]
  unfold configure
  dsimp only
  split
  · rfl
  · exact logger_add _ _ _

theorem logger_foldl_handle (handlers : List Handler) :
    (handlers.foldl (handle time r) l).logger = l.logger := by
  induction handlers generalizing l with
  | nil => rfl
  | cons h handlers ih =>
    rw [List.foldl_cons, ih]
    unfold handle
    split
    · exact logger_add _ _ _
    · rfl

theorem logger_fallBack (l : Logging) (r : Record) : (l.fallBack r).logger = l.logger := by
  unfold fallBack
  split
  · exact logger_add _ _ _
  · rfl

/-- Records do not set the log up. -/
theorem logger_log (l : Logging) (r : Record) : (l.log time r).logger = l.logger := by
  unfold log
  dsimp only
  generalize (if l.hears r then l.logger else {}) = logger
  split
  · split
    · exact logger_fallBack _ _
    · exact logger_foldl_handle _
  · rfl

theorem logger_foldl_log (records : List Record) :
    (records.foldl (log time) l).logger = l.logger := by
  induction records generalizing l with
  | nil => rfl
  | cons r records ih => rw [List.foldl_cons, ih, logger_log]

theorem logger_step (l : Logging) (s : LogStep) :
    (l.step time s).logger = ⟨s.setup.level, s.handlers⟩ := by
  rw [step, logger_foldl_log, logger_configure]

/-- A record that no handler takes leaves no trace. -/
theorem foldl_handle_of_not_reaches {handlers : List Handler}
    (h : ∀ handler ∈ handlers, r.reaches handler.level = false) :
    handlers.foldl (handle time r) l = l := by
  induction handlers with
  | nil => rfl
  | cons handler handlers ih =>
    obtain ⟨hfirst, hrest⟩ := List.forall_mem_cons.mp h
    rw [List.foldl_cons, handle, if_neg (by rw [hfirst]; decide), ih hrest]

/-- A record that comes to a log that was set up is handed to each of its handlers. -/
theorem log_of_hears (hlogger : l.logger = ⟨s.setup.level, s.handlers⟩) (hhears : l.hears r = true) :
    l.log time r = s.handlers.foldl (handle time r) { l with used := r.log :: l.used } := by
  unfold log
  dsimp only
  rw [if_pos hhears, hlogger]
  dsimp only
  split
  · rfl
  · rename_i hlevel
    rw [Bool.not_eq_true] at hlevel
    refine (foldl_handle_of_not_reaches fun handler hhandler => ?_).symm
    exact Record.not_reaches_of_le (LogStep.level_rank_le hhandler) hlevel

/-- On the console a record is written after what is there. -/
theorem err_log_of_hears (hlogger : l.logger = ⟨s.setup.level, s.handlers⟩) (hhears : l.hears r = true) :
    (l.log time r).err = l.err ++ if r.reaches s.setup.consoleLevel then r.consoleLine else "" := by
  have herr : ∀ (k : Logging) (path : FilePath),
      (handle time r k ⟨.file path, .debug⟩).err = k.err := by
    intro k path
    unfold handle
    split <;> rfl
  have hconsole : ∀ k : Logging, (handle time r k ⟨.console, s.setup.consoleLevel⟩).err =
      k.err ++ if r.reaches s.setup.consoleLevel then r.consoleLine else "" := by
    intro k
    unfold handle
    split
    · rfl
    · exact String.append_empty.symm
  rw [log_of_hears hlogger hhears, LogStep.handlers, List.foldl_cons]
  cases s.file with
  | none => exact hconsole _
  | some path => exact (herr _ path).trans (hconsole _)

/-- The file of the step is the only one that changes. -/
theorem files_log_of_hears (hlogger : l.logger = ⟨s.setup.level, s.handlers⟩)
    (hhears : l.hears r = true) :
    (l.log time r).files =
      match s.file with
      | none => l.files
      | some path =>
        if r.reaches .debug then
          l.files.put path ((l.files.get? path).getD "" ++ r.fileLine time)
        else l.files := by
  have hconsole : ∀ k : Logging,
      (handle time r k ⟨.console, s.setup.consoleLevel⟩).files = k.files := by
    intro k
    unfold handle
    split <;> rfl
  have hfile : ∀ (k : Logging) (path : FilePath), (handle time r k ⟨.file path, .debug⟩).files =
      if r.reaches .debug then k.files.put path ((k.files.get? path).getD "" ++ r.fileLine time)
      else k.files := by
    intro k path
    unfold handle
    split <;> rfl
  rw [log_of_hears hlogger hhears, LogStep.handlers, List.foldl_cons]
  cases s.file with
  | none => exact hconsole _
  | some path =>
    refine (hfile _ path).trans ?_
    rw [hconsole]

/-- A record that does not come to the shared log is shown by itself, if it is a warning or worse. -/
theorem log_of_not_hears (hhears : l.hears r = false) :
    l.log time r =
      { l with
        used := r.log :: l.used
        err := l.err ++ if r.reaches .warning then r.text ++ "\n" else "" } := by
  have hmissed : ¬ l.hears r = true := by
    rw [hhears]
    exact Bool.false_ne_true
  have hlevel : ({} : Logger).level = .warning := rfl
  have hnone : ({} : Logger).handlers.isEmpty = true := rfl
  unfold log fallBack
  dsimp only
  rw [if_neg hmissed, hlevel, if_pos hnone]
  split
  · rfl
  · rw [String.append_empty]

end Logging

/-! ## Steps -/

namespace Logging

variable {time : String} {l : Logging} {r : Record} {s : LogStep}

theorem run_concat (l : Logging) (steps : List LogStep) (s : LogStep) :
    l.run time (steps ++ [s]) = (l.run time steps).step time s := by
  rw [run, List.foldl_append]
  rfl

/-- A step with one record more goes on from where the step ends. -/
theorem step_concat (l : Logging) (s : LogStep) (r : Record) :
    l.step time { s with records := s.records ++ [r] } = (l.step time s).log time r := by
  rw [step, List.foldl_append]
  rfl

/-- What the console has of some records, if all of them come to a log that was set up. -/
theorem err_foldl_log {records : List Record} (hlogger : l.logger = ⟨s.setup.level, s.handlers⟩)
    (h : ∀ r ∈ records, r.IsPlain) :
    (records.foldl (log time) l).err = l.err ++ s.setup.console records := by
  -- Over the records: none of them changes the set-up, by which the next one is taken.
  induction records generalizing l with
  | nil => exact String.append_empty.symm
  | cons r records ih =>
    obtain ⟨hr, hrest⟩ := List.forall_mem_cons.mp h
    have hnext : (l.log time r).logger = ⟨s.setup.level, s.handlers⟩ := by rw [logger_log, hlogger]
    have hline : s.setup.console (r :: records) =
        (if r.reaches s.setup.consoleLevel then r.consoleLine else "") ++ s.setup.console records := by
      unfold LogSetup.console
      rw [List.filter_cons]
      split
      · rw [List.map_cons, String.join_cons]
      · rw [String.empty_append]
    rw [List.foldl_cons, ih hnext hrest, err_log_of_hears hlogger (hears_of_isPlain hr l), hline,
      String.append_assoc]

/-- What a log file has of some records is added to what it has. -/
theorem files_foldl_log {records : List Record} {path : FilePath} {files : Table FilePath String}
    {text : String} (hlogger : l.logger = ⟨s.setup.level, s.handlers⟩) (hfile : s.file = some path)
    (hfiles : l.files = files.put path text) (h : ∀ r ∈ records, r.IsPlain) :
    (records.foldl (log time) l).files = files.put path (text ++ logText time records) := by
  induction records generalizing l text with
  | nil =>
    rw [show text ++ logText time [] = text from String.append_empty]
    exact hfiles
  | cons r records ih =>
    obtain ⟨hr, hrest⟩ := List.forall_mem_cons.mp h
    have hnext : (l.log time r).logger = ⟨s.setup.level, s.handlers⟩ := by rw [logger_log, hlogger]
    have hone : (l.log time r).files = _ := files_log_of_hears hlogger (hears_of_isPlain hr l)
    rw [hfile, hfiles] at hone
    dsimp only at hone
    -- What the file gets goes behind what it has by now, not behind what it had before the step.
    rw [Table.get?_put, if_pos rfl, Option.getD_some, Table.put_put] at hone
    rw [List.foldl_cons, logText, List.filter_cons]
    split at hone
    · rename_i hlevel
      rw [ih hnext hone hrest, if_pos hlevel, List.map_cons, String.join_cons, String.append_assoc]
      rfl
    · rename_i hlevel
      rw [ih hnext hone hrest, if_neg hlevel]
      rfl

/-- Without a log file no file changes. -/
theorem files_foldl_log_of_none {records : List Record} (hlogger : l.logger = ⟨s.setup.level, s.handlers⟩)
    (hfile : s.file = none) (h : ∀ r ∈ records, r.IsPlain) :
    (records.foldl (log time) l).files = l.files := by
  induction records generalizing l with
  | nil => rfl
  | cons r records ih =>
    obtain ⟨hr, hrest⟩ := List.forall_mem_cons.mp h
    have hnext : (l.log time r).logger = ⟨s.setup.level, s.handlers⟩ := by rw [logger_log, hlogger]
    have hone : (l.log time r).files = _ := files_log_of_hears hlogger (hears_of_isPlain hr l)
    rw [hfile] at hone
    rw [List.foldl_cons, ih hnext hrest, hone]

/-- A step shows and stores what it says by itself, whatever was set up before it. -/
theorem step_eq (h : ∀ r ∈ s.records, r.IsPlain) :
    (l.step time s).err = l.err ++ s.console ∧ (l.step time s).files = s.store time l.files := by
  have hlogger := logger_configure l s
  have herr : (l.configure s).err = l.err := by
    unfold configure
    split <;> rfl
  refine ⟨by rw [step, err_foldl_log hlogger h, herr]; rfl, ?_⟩
  unfold LogStep.store
  cases hfile : s.file with
  | some path =>
    have hfiles : (l.configure s).files = l.files.put path ((l.files.get? path).getD "") := by
      unfold configure
      rw [hfile]
      show l.files.put path ((l.files.get? path).getD "" ++ "") = _
      rw [String.append_empty]
    exact files_foldl_log hlogger hfile hfiles h
  | none =>
    have hfiles : (l.configure s).files = l.files := by
      unfold configure
      rw [hfile]
    rw [step, files_foldl_log_of_none hlogger hfile h, hfiles]

/-- The log files of a run have what its steps store. -/
theorem files_run {steps : List LogStep} (h : ∀ s ∈ steps, ∀ r ∈ s.records, r.IsPlain) :
    (run time {} steps).files = logFiles time steps := by
  induction steps using List.reverseRecOn with
  | nil => rfl
  | append_singleton steps s ih =>
    obtain ⟨hsteps, hs⟩ := List.forall_mem_append.mp h
    rw [run_concat, (step_eq (hs s List.mem_cons_self)).2, ih hsteps, logFiles, logFiles,
      List.foldl_append]
    rfl

end Logging

/-! ## Routing -/

/-- A record is written where its step says, once in each place and nowhere else: on the console if it is
a warning or worse, or a debug record or worse if the step is verbose, and in the file of the step, if
there is one, if it is a debug record or worse. -/
structure Routed (time : String) (s : LogStep) (r : Record) (before after : Logging) : Prop where
  console : after.err = before.err ++
    if (if s.verbose then Level.debug else .warning).rank ≤ r.level.rank then r.consoleLine else ""
  files : ∀ path, after.files.get? path =
    if s.file = some path ∧ Level.debug.rank ≤ r.level.rank then
      some ((before.files.get? path).getD "" ++ r.fileLine time)
    else before.files.get? path

section Routing

variable {time : String} {l : Logging} {r : Record} {s : LogStep}

theorem routed_of_hears (hlogger : l.logger = ⟨s.setup.level, s.handlers⟩) (hhears : l.hears r = true) :
    Routed time s r l (l.log time r) where
  console := by
    rw [Logging.err_log_of_hears hlogger hhears]
    simp only [Record.reaches, decide_eq_true_eq]
    rfl
  files := by
    intro path
    rw [Logging.files_log_of_hears hlogger hhears]
    cases s.file with
    | none => simp
    | some known =>
      simp only [Record.reaches, decide_eq_true_eq, Option.some.injEq]
      by_cases hlevel : Level.debug.rank ≤ r.level.rank
      · rw [if_pos hlevel, Table.get?_put]
        by_cases hpath : known = path
        · subst hpath
          rw [if_pos rfl, if_pos ⟨rfl, hlevel⟩]
        · rw [if_neg hpath, if_neg fun h => hpath h.1]
      · rw [if_neg hlevel, if_neg fun h => hlevel h.2]

/-- A line on the console is never empty, and says more than the text of its record. -/
theorem Record.consoleLine_ne (r : Record) : r.consoleLine ≠ "" ∧ r.consoleLine ≠ r.text ++ "\n" := by
  have hfront : ∀ front line : String, line.length < (front ++ " " ++ line).length := by
    intro front line
    rw [String.length_append, String.length_append, show " ".length = 1 from rfl]
    omega
  have hlength : (r.text ++ "\n").length < r.consoleLine.length := by
    unfold consoleLine
    rw [String.append_assoc]
    exact hfront _ _
  constructor
  · intro h
    rw [h] at hlength
    exact Nat.not_lt_zero _ hlength
  · intro h
    rw [h] at hlength
    exact Nat.lt_irrefl _ hlength

theorem Record.fileLine_ne (r : Record) (time : String) : r.fileLine time ≠ "" := by
  intro h
  have hlength := congrArg String.length h
  simp only [fileLine, String.length_append] at hlength
  rw [show "\n".length = 1 from rfl, show "".length = 0 from rfl] at hlength
  omega

/-- Where no place takes a record, nothing is written of it. -/
theorem routed_of_not_reaches (hhears : l.hears r = false) (h : r.reaches s.setup.level = false) :
    Routed time s r l (l.log time r) := by
  have hshown : ¬ s.setup.consoleLevel.rank ≤ r.level.rank := by
    have hconsole : r.reaches s.setup.consoleLevel = false :=
      Record.not_reaches_of_le (LogStep.level_rank_le List.mem_cons_self) h
    exact of_decide_eq_false hconsole
  have hwarning : ¬ r.reaches .warning = true := by
    have hlevel := s.setup.consoleLevel_rank_le
    rw [Record.reaches, decide_eq_true_eq]
    omega
  rw [Logging.log_of_not_hears hhears, if_neg hwarning]
  constructor
  · rw [if_neg (show ¬ (if s.verbose then Level.debug else .warning).rank ≤ r.level.rank from hshown)]
  · intro path
    refine (if_neg fun hboth => ?_).symm
    obtain ⟨hfile, hlevel⟩ := hboth
    have hfileLevel : r.reaches .debug = false := by
      refine Record.not_reaches_of_le (LogStep.level_rank_le (h := ⟨.file path, .debug⟩) ?_) h
      rw [LogStep.handlers, hfile]
      exact List.mem_cons_of_mem _ List.mem_cons_self
    exact of_decide_eq_false hfileLevel hlevel

/-- A record that comes past the shared log is written where it should be only if no place takes it. -/
theorem not_reaches_of_routed (hhears : l.hears r = false) (h : Routed time s r l (l.log time r)) :
    r.reaches s.setup.level = false := by
  obtain ⟨hconsole, hfiles⟩ := h
  rw [Logging.log_of_not_hears hhears] at hconsole hfiles
  dsimp only at hconsole hfiles
  rw [String.append_right_inj] at hconsole
  have hshown : ¬ r.reaches s.setup.consoleLevel = true := by
    intro hlevel
    rw [Record.reaches, decide_eq_true_eq] at hlevel
    rw [if_pos (show (if s.verbose then Level.debug else .warning).rank ≤ r.level.rank from hlevel)]
      at hconsole
    split at hconsole
    · exact r.consoleLine_ne.2 hconsole.symm
    · exact r.consoleLine_ne.1 hconsole.symm
  rw [Bool.eq_false_iff]
  unfold LogSetup.level
  split
  · rename_i hto
    obtain ⟨path, hfile⟩ := Option.isSome_iff_exists.mp hto
    intro hlevel
    rw [Record.reaches, decide_eq_true_eq] at hlevel
    -- The file has nothing of the record, and a line is never empty.
    have hpath := hfiles path
    rw [if_pos ⟨hfile, hlevel⟩] at hpath
    rw [hpath, Option.getD_some] at hpath
    have hsame := Option.some.inj hpath
    exact r.fileLine_ne time (String.append_eq_left_iff.mp hsame.symm)
  · exact hshown

/-- In any run of set-ups and records, from whatever was set up before, each set-up leaves one handler, or
two with a file. One record more at the end of any step is written where the step says, once in each place
and nowhere else, exactly if it comes to the shared log or no place takes its level; it is shown with the
name of its stage. It does come there if that name does not begin with a dot. One that does not is in no
file, and alone on the console. -/
theorem records_routed_iff (time : String) (start : Logging) (earlier : List LogStep) (s : LogStep)
    (r : Record) :
    let before := start.run time (earlier ++ [s])
    let after := start.run time (earlier ++ [{ s with records := s.records ++ [r] }])
    ((start.run time earlier).configure s).logger.handlers.length = (if s.file.isSome then 2 else 1) ∧
      (Routed time s r before after ↔
        before.hears r = true ∨ r.reaches s.setup.level = false) ∧
      r.stageName = (if r.stage.getD "" = "" then "main" else r.stage.getD "") ∧
      (r.IsPlain → before.hears r = true) ∧
      (before.hears r = false → after.files = before.files ∧
        after.err = before.err ++ if r.reaches .warning then r.text ++ "\n" else "") := by
  intro before after
  have hlogger : before.logger = ⟨s.setup.level, s.handlers⟩ := by
    rw [show before = _ from Logging.run_concat start earlier s]
    exact Logging.logger_step _ s
  have hafter : after = before.log time r := by
    rw [show before = _ from Logging.run_concat start earlier s, ← Logging.step_concat]
    exact Logging.run_concat start earlier _
  rw [hafter]
  refine ⟨?_, ⟨fun h => ?_, fun h => ?_⟩, r.stageName_eq, fun hplain => ?_, fun hmissed => ?_⟩
  · rw [Logging.logger_configure, LogStep.length_handlers]
    rfl
  · cases hhears : before.hears r with
    | true => exact .inl rfl
    | false => exact .inr (not_reaches_of_routed hhears h)
  · cases hhears : before.hears r with
    | true => exact routed_of_hears hlogger hhears
    | false => exact routed_of_not_reaches hhears (h.resolve_left (by rw [hhears]; decide))
  · exact Logging.hears_of_isPlain hplain before
  · rw [Logging.log_of_not_hears hmissed]
    exact ⟨rfl, rfl⟩

/-- A warning of a stage whose name begins with a dot is shown by itself, without the stage. -/
theorem dotted_stage_misrouted :
    let r : Record := ⟨some ".x", .warning, "m"⟩
    ¬ Routed "" {} r (Logging.run "" {} [{}]) (Logging.run "" {} [{ records := [r] }]) := by
  intro r h
  exact absurd h.console (by decide)

end Routing

end ApiDirectives
