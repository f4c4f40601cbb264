import ApiFlow.CommandLine.Program
import ApiFlow.Proofs.Run.FromFile
import ApiFlow.Proofs.Settings.Loading
import ApiFlow.Proofs.Text.Fields

/-!
# What the program answers

The status of the program is 2 if the variables, the settings or the file that it is given are no good.  Otherwise the
file is run, and the status says what its summary says: 0 if every step has passed, and 1 if one has failed.  This is so
unless a fault comes up, for a fault ends the program without a status.  Bytes that are no text are such a fault,
although the file that holds them cannot be read either.

The reader of configuration files may be any.  As in every run, sleeps are taken to return and the stream to accept what
is printed.

* `Malformed`, `Unusable` : what the status 2 is for.
* `Completed` : how a run comes to a summary, a status and a verdict.
* `Answers` : what the program owes to those who call it.
* `Hazard` : all that keeps it from its answer.
* `run_answers_iff` : the program answers exactly if no hazard comes up.
-/

set_option autoImplicit false

namespace ApiFlow

theorem Text.takeWhile_of_cutAt? {mark : Char} {s key value : Text} (cut : Text.cutAt? mark s = some (key, value)) :
    s.takeWhile (· != mark) = key := by
  obtain ⟨rfl, free⟩ := Text.cutAt?_eq_some_iff.mp cut
  refine (Text.takeWhile_dropWhile_append (fun c listed => ?_) fun c first => ?_).1
  · exact bne_iff_ne.mpr fun same => free (same ▸ listed)
  · cases first
    simp

namespace CommandLine

/-- An entry that gives no variable: it has no equals sign, or nothing but blanks before the first. -/
def Malformed (entry : Text) : Prop := '=' ∉ entry ∨ Text.trim (entry.takeWhile (· != '=')) = []

theorem assignment_error_iff {entry : Text} : (∃ e, assignment entry = .error e) ↔ Malformed entry := by
  unfold assignment Malformed
  cases cut : Text.cutAt? '=' entry with
  | none => simp [Text.cutAt?_eq_none_iff.mp cut]
  | some parts =>
      obtain ⟨key, value⟩ := parts
      have marked : '=' ∈ entry := by
        by_contra absent
        cases cut.symm.trans (Text.cutAt?_eq_none_iff.mpr absent)
      rw [Text.takeWhile_of_cutAt? cut]
      cases blank : Text.trim key <;> simp [blank, marked]

theorem mapM_error_iff {ε α β : Type} {k : α → Except ε β} {l : List α} :
    (∃ e, l.mapM k = .error e) ↔ ∃ a ∈ l, ∃ e, k a = .error e := by
  induction l with
  | nil => simp [pure, Except.pure]
  | cons a rest ih =>
      rw [List.mapM_cons, List.exists_mem_cons_iff, ← ih]
      cases first : k a with
      | error e => simp [bind, Except.bind]
      | ok b => cases rest.mapM k <;> simp [bind, Except.bind, pure, Except.pure]

/-- **Variables are refused exactly if an entry is malformed.** -/
theorem assignments_error_iff {entries : List Text} :
    (∃ e, assignments entries = .error e) ↔ ∃ entry ∈ entries, Malformed entry := by
  have read : (∃ e, assignments entries = .error e) ↔ ∃ e, entries.mapM assignment = .error e := by
    unfold assignments
    cases entries.mapM assignment <;> simp [Except.map]
  simp only [read, mapM_error_iff, assignment_error_iff]

end CommandLine

/-- **A summary ends with the good verdict exactly if nothing has failed.** -/
theorem Summary.passed_suffix_iff (summary : Summary) :
    "All tests passed!".toList <:+ summary.render ↔ summary.failed = 0 := by
  rw [render, Text.join_append _ (by simp [SummaryTable.boxLines]) (List.cons_ne_nil _ _), SummaryTable.verdictLine]
  by_cases passed : summary.failed = 0
  · rw [if_pos passed]
    refine iff_of_true ?_ passed
    exact (show "All tests passed!".toList <:+ "\n✓ All tests passed!".toList from ⟨"\n✓ ".toList, rfl⟩).trans
      (List.suffix_append_of_suffix (List.suffix_append _ _))
  · rw [if_neg passed]
    refine iff_of_false ?_ passed
    rintro ⟨front, ends⟩
    have good : "All tests passed!".toList.getLast? = some '!' := by decide
    have bad : " test(s) failed".toList.getLast? = some 'd' := by decide
    have last := congrArg List.getLast? ends
    simp only [Text.join, List.getLast?_append, good, bad, Option.some_or] at last
    cases last

namespace Program

open CommandLine Running

variable {α : Type} {world : Setup} {env : Table Text} {request : RunRequest} {path : Path} {s t : RunState}
  {vars : Table Text} {settings : Settings}

/-! ## Parts of a command -/

theorem ends_within (act : Running α) (s : RunState) :
    ends (within act) s = match ends act s with
      | (.ok a, t) => (.ok a, t)
      | (.error f, t) => (.error (Stop.ofFault f), t) := by
  change StateT.run (within act).run s = _
  have same : StateT.run act.run s = ends act s := rfl
  rw [within, ExceptT.run_mk, StateT.run_bind, same]
  rcases ends act s with ⟨f | a, t⟩ <;> rfl

theorem returns_within {act : Running α} {a : α} : Returns (within act) s a t ↔ Returns act s a t := by
  unfold Returns
  rw [ends_within]
  rcases ends act s with ⟨f | b, u⟩ <;> simp

theorem stops_within {act : Running α} {stop : Stop} :
    Stops (within act) s stop ↔ ∃ f, Stops act s f ∧ stop = Stop.ofFault f := by
  unfold Stops
  rw [ends_within]
  rcases ends act s with ⟨f | b, u⟩ <;> simp [eq_comm]

/-! ## Runs -/

/-- The loading of the settings of a run: the notes taken, and what comes of it. -/
def loaded (world : Setup) (env : Table Text) (request : RunRequest) : List Note × Except ConfigStop Settings :=
  Settings.load world.files (environmentOf request env) request.config? world.files.work world.configReader

/-- A run gets to its file: its variables are given, its settings are loaded, and its file is there. -/
structure Ready (world : Setup) (env : Table Text) (request : RunRequest) (vars : Table Text) (settings : Settings) :
    Prop where
  given : assignments request.vars = .ok vars
  loaded : (loaded world env request).2 = .ok settings
  file : world.files.isFile request.file = .ok true

/-- The state in which a run gets to its file. -/
def opened (world : Setup) (env : Table Text) (request : RunRequest) (vars : Table Text) (settings : Settings)
    (s : RunState) : RunState :=
  { noted ((sessionLog world.files settings).2 ++ [startNote request.file settings])
      (noted (loaded world env request).1 s) with
    context := Context.ofCommandLine vars
    store? := some {} }

/-- The run of the file of a ready run. -/
def fileRun (world : Setup) (request : RunRequest) (settings : Settings) : Running Summary :=
  Running.runFile (setupOf world settings request) (optionsOf request) request.file

/-- What a run does with its summary: it names the log of its session, if there is one, and has its status. -/
def concluded (world : Setup) (request : RunRequest) (settings : Settings) (summary : Summary) : Acting Nat := do
  if let some path := (sessionLog world.files settings).1 then
    within (Running.say (setupOf world settings request) ("\nSession log: ".toList ++ path.text ++ ['\n']))
  return if summary.allPassed then 0 else 1

/-- Malformed variables refuse a run. -/
theorem stops_of_malformed {e : AssignmentError} (malformed : assignments request.vars = .error e) (s : RunState) :
    Stops (runFile world env request) s (.refused e.message) := by
  rw [runFile, malformed]
  exact stops_throw.mpr rfl

theorem ends_loadSettings (world : Setup) (env : Table Text) (request : RunRequest) (s : RunState) :
    ends (loadSettings world env request) s =
      ((loaded world env request).2.mapError Stop.ofConfig, noted (loaded world env request).1 s) := by
  rcases loading : loaded world env request with ⟨notes, result⟩
  have told := returns_within.mpr (returns_noteAll notes s)
  rw [loaded] at loading
  rw [loadSettings, loading]
  dsimp only
  rw [told.ends_bind]
  cases result <;> rfl

/-- Settings that cannot be loaded stop a run. -/
theorem stops_of_unloaded {e : ConfigStop} (given : assignments request.vars = .ok vars)
    (unloaded : (loaded world env request).2 = .error e) (s : RunState) :
    Stops (runFile world env request) s (Stop.ofConfig e) := by
  have early : Stops (loadSettings world env request) s (Stop.ofConfig e) := by
    rw [Stops, ends_loadSettings, unloaded]
    rfl
  rw [runFile, given]
  exact stops_bind.mpr (.inl early)

theorem returns_loadSettings (loading : (loaded world env request).2 = .ok settings) (s : RunState) :
    Returns (loadSettings world env request) s settings (noted (loaded world env request).1 s) := by
  rw [Returns, ends_loadSettings, loading]
  rfl

/-- A file that is not there, or cannot be looked up, stops a run. -/
theorem stops_of_unchecked {e : Stop} (given : assignments request.vars = .ok vars)
    (loading : (loaded world env request).2 = .ok settings) (unchecked : checkFile world.files request.file = .error e)
    (s : RunState) : Stops (runFile world env request) s e := by
  rw [runFile, given]
  dsimp only
  rw [(returns_loadSettings loading s).stops_bind_iff, unchecked]
  exact stops_throw.mpr rfl

/-- **A ready run runs its file and concludes.** -/
theorem ends_of_ready (ready : Ready world env request vars settings) (s : RunState) :
    ends (runFile world env request) s =
      ends (within (fileRun world request settings) >>= concluded world request settings)
        (opened world env request vars settings s) := by
  have checked : checkFile world.files request.file = .ok () := by rw [checkFile, ready.file]
  have told := returns_within.mpr (returns_noteAll
    ((sessionLog world.files settings).2 ++ [startNote request.file settings])
    (noted (loaded world env request).1 s))
  rw [runFile, ready.given]
  dsimp only
  rw [(returns_loadSettings ready.loaded s).ends_bind, checked]
  dsimp only
  rw [told.ends_bind]
  have written : Returns (modify fun s => { s with context := Context.ofCommandLine vars, store? := some {} } :
      Acting Unit) (noted ((sessionLog world.files settings).2 ++ [startNote request.file settings])
        (noted (loaded world env request).1 s)) () (opened world env request vars settings s) := returns_modify.mpr rfl
  rw [written.ends_bind]
  rfl

/-! ## What is owed -/

/-- A command that cannot be carried out: an entry for a variable is malformed, the settings cannot be loaded, or the
file cannot be read. -/
def Unusable (world : Setup) (env : Table Text) : Command → Prop
  | .run request =>
      (∃ entry ∈ request.vars, Malformed entry) ∨ (∃ e, (loaded world env request).2 = .error e) ∨
        ∃ f, readText world.files request.file = .error f
  | .graph path => ∃ f, readText world.files path = .error f

/-- What may stand behind the summary that a run prints: nothing, or the line about the log of its session. -/
def Behind (text : Text) : Prop :=
  text = [] ∨ ∃ path : Path, text = "\nSession log: ".toList ++ path.text ++ ['\n']

/-- A run has come to a summary: it accounts for the steps in the file, its status says whether one of those that were
executed has failed, and it was printed, with only the line about the log of the session behind it. -/
structure Completed (world : Setup) (env : Table Text) (request : RunRequest) (s t : RunState) (n : Nat)
    (summary : Summary) : Prop where
  ran : ∃ vars settings u, Ready world env request vars settings ∧
    Returns (fileRun world request settings) (opened world env request vars settings s) summary u
  accounted : ∃ content notes work, readText world.files request.file = .ok content ∧
    Work.read request.file content = (notes, .ok work) ∧
    summary.results.map (·.name) ++ summary.skipped = work.names
  passed : n = 0 ↔ ∀ r ∈ summary.results, r.success = true
  failed : n = 1 ↔ ∃ r ∈ summary.results, r.success = false
  printed : ∃ before behind, t.printed = before ++ Report.summary summary ++ behind ∧ Behind behind
  verdict : "All tests passed!".toList <:+ summary.render ↔ n = 0

/-- The flowchart of the document in a file was printed. -/
def Drawn (world : Setup) (path : Path) (s t : RunState) : Prop :=
  ∃ content r, readText world.files path = .ok content ∧ Flow.Reading.ofText content = .ok r ∧
    t.printed = s.printed ++ (Flow.diagram r.document ++ ['\n'])

/-- **What the program owes to those who call it**: it ends with a status, which is 2 exactly if the command cannot be
carried out.  If it can, a run has come to a summary that agrees with the status, and a flowchart is printed with the
status 0. -/
def Answers (world : Setup) (env : Table Text) (s : RunState) (command : Command) (answer : Ending × Session) : Prop :=
  ∃ n, answer.1 = .status n ∧ (n = 2 ↔ Unusable world env command) ∧
    (¬ Unusable world env command → match command with
      | .run request => ∃ summary, Completed world env request s answer.2.run n summary
      | .graph path => n = 0 ∧ Drawn world path s answer.2.run)

/-- What can keep a run from its answer: a fault while its settings are loaded, a part of the path of its file that is
too long, and whatever stops the run of the file. -/
inductive RunHazard (world : Setup) (env : Table Text) (request : RunRequest) (s : RunState) : Fault → Prop
  | settings {vars : Table Text} {f : Fault} (given : assignments request.vars = .ok vars)
      (hazard : Settings.LoadHazard world.configReader world.files (environmentOf request env) request.config?
        world.files.work f) :
      RunHazard world env request s f
  | lookup {vars : Table Text} {settings : Settings} {path : Path} (given : assignments request.vars = .ok vars)
      (loaded : (loaded world env request).2 = .ok settings)
      (bad : world.files.isFile request.file = .error (.refused .nameTooLong path)) :
      RunHazard world env request s (.file (.refused .nameTooLong path))
  | file {vars : Table Text} {settings : Settings} {f : Fault} (ready : Ready world env request vars settings)
      (hazard : FileHazard (setupOf world settings request) (optionsOf request) request.file
        (opened world env request vars settings s) f) : RunHazard world env request s f

/-- What can keep a flowchart from being drawn: a null character in the path, bytes that are no text, and a number in
the document that cannot be read. -/
inductive GraphHazard (world : Setup) (path : Path) : Fault → Prop
  | nullCharacter (bad : world.files.read path = .error .nullCharacter) : GraphHazard world path (.file .nullCharacter)
  | undecodable {bytes : List UInt8} {m : Utf8.Misfit} (found : world.files.read path = .ok bytes)
      (bad : Utf8.decode bytes = .error m) : GraphHazard world path (.encoding m)
  | number {content : Text} {e : Flow.ReadingStopped} (text : readText world.files path = .ok content)
      (bad : Flow.Reading.ofText content = .error e) : GraphHazard world path (.integer e.error)

/-- **What can keep a command from its answer.** -/
def Hazard (world : Setup) (env : Table Text) (s : RunState) : Command → Fault → Prop
  | .run request => RunHazard world env request s
  | .graph path => GraphHazard world path

variable {command : Command}

/-- The answer to a command that is carried out. -/
def answer (world : Setup) (env : Table Text) (s : RunState) (command : Command) : Ending × Session :=
  let (result, t) := ends (perform world env command) s
  ended (logLevel (isVerbose command) env) result t

theorem run_eq_answer {arguments : List Text} (read : Command.read arguments = .ok command) :
    run world env s arguments = answer world env s command := by
  rw [run, read]
  rfl

theorem answer_of_returns {n : Nat} (returned : Returns (perform world env command) s n t) :
    (answer world env s command).1 = .status n ∧ (answer world env s command).2.run = t := by
  rw [answer, show ends (perform world env command) s = (.ok n, t) from returned]
  exact ⟨rfl, rfl⟩

/-- How the program ends if a command stops. -/
def Stop.ending : Stop → Ending
  | .refused _ => .status 2
  | .fault f => .fault f

theorem answer_of_stops {e : Stop} (stopped : Stops (perform world env command) s e) :
    (answer world env s command).1 = e.ending := by
  unfold Stops at stopped
  unfold answer
  rcases ended : ends (perform world env command) s with ⟨e' | n, t⟩
  · rw [ended] at stopped
    cases stopped
    cases e <;> rfl
  · rw [ended] at stopped
    cases stopped

/-- A refusal is the right answer to a command that cannot be carried out. -/
theorem answers_of_refused {message : Text} (refused : Stops (perform world env command) s (.refused message))
    (unusable : Unusable world env command) : Answers world env s command (answer world env s command) :=
  ⟨2, answer_of_stops refused, iff_of_true rfl unusable, fun usable => absurd unusable usable⟩

/-- A command that can be carried out is not answered by stopping. -/
theorem not_answers_of_stops {e : Stop} (stopped : Stops (perform world env command) s e)
    (usable : ¬ Unusable world env command) : ¬ Answers world env s command (answer world env s command) := by
  rintro ⟨n, ended, two, -⟩
  have same := (answer_of_stops stopped).symm.trans ended
  cases e with
  | refused message =>
      cases same
      exact usable (two.mp rfl)
  | fault f => cases same

/-- A fault is no answer. -/
theorem not_answers_of_fault {f : Fault} (fault : Stops (perform world env command) s (.fault f)) :
    ¬ Answers world env s command (answer world env s command) := by
  rintro ⟨n, ended, -⟩
  cases (answer_of_stops fault).symm.trans ended

/-! ## Answers of runs -/

theorem returns_concluded (loud : world.quiet = false) (settings : Settings) (summary : Summary) (u : RunState) :
    ∃ t behind, Returns (concluded world request settings summary) u (if summary.allPassed then 0 else 1) t ∧
      t.printed = u.printed ++ behind ∧ Behind behind := by
  unfold concluded
  cases (sessionLog world.files settings).1 with
  | none => exact ⟨u, [], returns_pure.mpr ⟨rfl, rfl⟩, (List.append_nil _).symm, .inl rfl⟩
  | some path =>
      have said := returns_within.mpr (returns_say (setupOf world settings request)
        ("\nSession log: ".toList ++ path.text ++ ['\n']) u)
      refine ⟨_, _, returns_bind.mpr ⟨(), _, said, returns_pure.mpr ⟨rfl, rfl⟩⟩, ?_, .inr ⟨path, rfl⟩⟩
      simp [afterSaying, setupOf, loud]

/-- The verdict on results. -/
theorem status_iff (summary : Summary) (n : Nat) (status : n = if summary.allPassed then 0 else 1) :
    (n = 0 ↔ ∀ r ∈ summary.results, r.success = true) ∧ (n = 1 ↔ ∃ r ∈ summary.results, r.success = false) := by
  rw [Summary.allPassed_eq] at status
  cases all : summary.results.all (·.success) with
  | true => simp_all
  | false => simp_all

/-- **A ready run whose file comes to a summary is completed.** -/
theorem completed_of_ready (loud : world.quiet = false) (ready : Ready world env request vars settings)
    {summary : Summary} {u : RunState}
    (ran : Returns (fileRun world request settings) (opened world env request vars settings s) summary u) :
    ∃ n t, Returns (runFile world env request) s n t ∧ n ≠ 2 ∧ Completed world env request s t n summary := by
  have aloud : (setupOf world settings request).quiet = false := loud
  obtain ⟨content, notes, work, text, read, named, before, printed⟩ := returns_runFile aloud ran
  obtain ⟨t, behind, concludes, told, line⟩ := returns_concluded loud settings summary u
  have returned : Returns (runFile world env request) s (if summary.allPassed then 0 else 1) t := by
    rw [Returns, ends_of_ready ready]
    exact returns_bind.mpr ⟨summary, u, returns_within.mpr ran, concludes⟩
  refine ⟨_, t, returned, by split <;> simp, ?_⟩
  constructor
  case ran => exact ⟨vars, settings, u, ready, ran⟩
  case accounted => exact ⟨content, notes, work, text, read, named⟩
  case passed => exact (status_iff summary _ rfl).1
  case failed => exact (status_iff summary _ rfl).2
  case printed => exact ⟨before, behind, by rw [told, printed], line⟩
  case verdict =>
    rw [summary.passed_suffix_iff, Summary.allPassed]
    by_cases none : summary.failed = 0 <;> simp [none]

/-- **A ready run answers exactly if the run of its file meets no hazard.** -/
theorem answers_iff_of_ready (loud : world.quiet = false) (ready : Ready world env request vars settings) :
    Answers world env s (.run request) (answer world env s (.run request)) ↔
      ∀ f, ¬ FileHazard (setupOf world settings request) (optionsOf request) request.file
        (opened world env request vars settings s) f := by
  have wellFormed : ¬ ∃ entry ∈ request.vars, Malformed entry := by
    intro malformed
    obtain ⟨e, refused⟩ := assignments_error_iff.mpr malformed
    cases ready.given.symm.trans refused
  have usable (text : ∀ f, readText world.files request.file ≠ .error f) :
      ¬ Unusable world env (.run request) := by
    rintro (malformed | ⟨e, unloaded⟩ | ⟨f, unread⟩)
    · exact wellFormed malformed
    · cases ready.loaded.symm.trans unloaded
    · exact text f unread
  obtain ⟨summary, u, ran⟩ | ⟨f, stopped⟩ :=
    returns_or_stops (fileRun world request settings) (opened world env request vars settings s)
  · refine iff_of_true ?_ fun f hazard => ran.not_stops f (stops_runFile_iff.mpr hazard)
    obtain ⟨n, t, returned, notTwo, completed⟩ := completed_of_ready loud ready ran
    obtain ⟨content, notes, work, text, -⟩ := completed.accounted
    have able := usable fun f unread => nomatch text.symm.trans unread
    have ended : (answer world env s (.run request)).1 = .status n ∧ (answer world env s (.run request)).2.run = t :=
      answer_of_returns returned
    refine ⟨n, ended.1, iff_of_false notTwo able, fun _ => ⟨summary, ?_⟩⟩
    rw [ended.2]
    exact completed
  · refine iff_of_false ?_ fun none => none f (stops_runFile_iff.mp stopped)
    have stops : Stops (perform world env (.run request)) s (Stop.ofFault f) := by
      change Stops (runFile world env request) s _
      rw [Stops, ends_of_ready ready]
      exact stops_bind.mpr (.inl (stops_within.mpr ⟨f, stopped, rfl⟩))
    cases text : readText world.files request.file with
    | ok content => exact not_answers_of_stops stops (usable fun f unread => nomatch text.symm.trans unread)
    | error g =>
        -- A file that is there can only be unreadable for its bytes, and that is a fault.
        obtain ⟨bytes, found⟩ := Files.Tree.read_of_isFile ready.file
        obtain ⟨e, missing, -⟩ | ⟨bytes, m, -, -, rfl⟩ := readText_error_iff.mp text
        · cases found.symm.trans missing
        · have first : Stops (fileRun world request settings) (opened world env request vars settings s)
              (.encoding m) := stops_bind.mpr (.inl (stops_guard.mpr text))
          cases stopped.symm.trans first
          exact not_answers_of_fault stops

theorem unreadable_of_isFile (missing : world.files.isFile path = .ok false) :
    ∃ f, readText world.files path = .error f := by
  obtain ⟨e, unread⟩ := Files.Tree.unread_of_isFile missing
  exact ⟨.file e, readText_error_iff.mpr (.inl ⟨e, unread, rfl⟩)⟩

/-- Every hazard stops a run. -/
theorem stops_of_hazard {f : Fault} (hazard : RunHazard world env request s f) :
    ∃ e, Stops (runFile world env request) s e := by
  cases hazard with
  | settings given hazard => exact ⟨_, stops_of_unloaded given (Settings.load_fault_iff.mpr hazard) s⟩
  | lookup given loading bad => exact ⟨_, stops_of_unchecked given loading (by rw [checkFile, bad]) s⟩
  | file ready hazard =>
      refine ⟨Stop.ofFault f, ?_⟩
      rw [Stops, ends_of_ready ready]
      exact stops_bind.mpr (.inl (stops_within.mpr ⟨f, stops_runFile_iff.mpr hazard, rfl⟩))

/-- Where variables are refused, no hazard comes up. -/
theorem not_hazard_of_malformed {e : AssignmentError} {f : Fault} (malformed : assignments request.vars = .error e) :
    ¬ RunHazard world env request s f := by
  rintro (⟨given, -⟩ | ⟨given, -, -⟩ | ⟨ready, -⟩)
  · cases malformed.symm.trans given
  · cases malformed.symm.trans given
  · cases malformed.symm.trans ready.given

/-- Where settings are refused, no hazard comes up. -/
theorem not_hazard_of_refused {e : ConfigError} {f : Fault}
    (refused : (loaded world env request).2 = .error (.refused e)) : ¬ RunHazard world env request s f := by
  rintro (⟨-, hazard⟩ | ⟨-, loading, -⟩ | ⟨ready, -⟩)
  · cases refused.symm.trans (Settings.load_fault_iff.mpr hazard)
  · cases refused.symm.trans loading
  · cases refused.symm.trans ready.loaded

/-- Behind settings that are loaded, a hazard lies in the look-up or the run of the file. -/
theorem hazard_iff_of_loaded {f : Fault} (given : assignments request.vars = .ok vars)
    (loading : (loaded world env request).2 = .ok settings) :
    RunHazard world env request s f ↔
      (∃ e, world.files.isFile request.file = .error e ∧ f = .file e) ∨
        world.files.isFile request.file = .ok true ∧
          FileHazard (setupOf world settings request) (optionsOf request) request.file
            (opened world env request vars settings s) f := by
  constructor
  · rintro (⟨-, hazard⟩ | ⟨-, -, bad⟩ | ⟨ready, hazard⟩)
    · cases loading.symm.trans (Settings.load_fault_iff.mpr hazard)
    · exact .inl ⟨_, bad, rfl⟩
    · cases given.symm.trans ready.given
      cases loading.symm.trans ready.loaded
      exact .inr ⟨ready.file, hazard⟩
  · rintro (⟨e, bad, rfl⟩ | ⟨file, hazard⟩)
    · obtain rfl := Files.Tree.isFile_error bad
      exact .lookup given loading bad
    · exact .file ⟨given, loading, file⟩ hazard

/-- **A run answers exactly if no hazard comes up.** -/
theorem answers_run_iff (loud : world.quiet = false) :
    Answers world env s (.run request) (answer world env s (.run request)) ↔
      ∀ f, ¬ RunHazard world env request s f := by
  cases given : assignments request.vars with
  | error e =>
      have malformed := assignments_error_iff.mp ⟨e, given⟩
      exact iff_of_true (answers_of_refused (stops_of_malformed given s) (.inl malformed)) fun f =>
        not_hazard_of_malformed given
  | ok vars =>
      cases loading : (loaded world env request).2 with
      | error e =>
          have stopped : Stops (perform world env (.run request)) s (Stop.ofConfig e) :=
            stops_of_unloaded given loading s
          cases e with
          | refused e =>
              exact iff_of_true (answers_of_refused stopped (.inr (.inl ⟨_, loading⟩))) fun f =>
                not_hazard_of_refused loading
          | fault f =>
              exact iff_of_false (not_answers_of_fault stopped) fun none =>
                none f (.settings given (Settings.load_fault_iff.mp loading))
      | ok settings =>
          simp only [hazard_iff_of_loaded given loading]
          cases file : world.files.isFile request.file with
          | error e =>
              have stopped : Stops (perform world env (.run request)) s (.fault (.file e)) :=
                stops_of_unchecked given loading (by rw [checkFile, file]) s
              exact iff_of_false (not_answers_of_fault stopped) fun none => none _ (.inl ⟨e, rfl, rfl⟩)
          | ok found =>
              cases found with
              | false =>
                  have stopped := stops_of_unchecked given loading (by rw [checkFile, file]) s
                  refine iff_of_true (answers_of_refused stopped (.inr (.inr (unreadable_of_isFile file)))) ?_
                  simp
              | true =>
                  rw [answers_iff_of_ready loud ⟨given, loading, file⟩]
                  simp

/-! ## Answers of flowcharts -/

theorem stops_graph_of_unread {f : Fault} (text : readText world.files path = .error f) (s : RunState) :
    Stops (graph world path) s (Stop.ofFault f) := by
  rw [graph, text]
  exact stops_throw.mpr rfl

theorem stops_graph_of_number {content : Text} {e : Flow.ReadingStopped}
    (text : readText world.files path = .ok content) (read : Flow.Reading.ofText content = .error e) (s : RunState) :
    Stops (graph world path) s (.fault (.integer e.error)) := by
  have stopped : Stops (Running.readDocument content) s (.integer e.error) := by
    rw [Stops, ends_readDocument, read]
  rw [graph, text]
  exact stops_bind.mpr (.inl (stops_within.mpr ⟨.integer e.error, stopped, rfl⟩))

theorem returns_graph {content : Text} {r : Flow.Reading} (text : readText world.files path = .ok content)
    (read : Flow.Reading.ofText content = .ok r) (s : RunState) :
    Returns (graph world path) s 0 (afterSaying world (Flow.diagram r.document ++ ['\n']) (noted r.notes s)) := by
  have taken : Returns (Running.readDocument content) s r (noted r.notes s) := by
    rw [Returns, ends_readDocument, read]
  rw [graph, text]
  exact returns_bind.mpr ⟨r, _, returns_within.mpr taken, returns_bind.mpr
    ⟨(), _, returns_within.mpr (returns_say world _ _), returns_pure.mpr ⟨rfl, rfl⟩⟩⟩

/-- **A flowchart answers exactly if no hazard comes up.** -/
theorem answers_graph_iff (loud : world.quiet = false) :
    Answers world env s (.graph path) (answer world env s (.graph path)) ↔ ∀ f, ¬ GraphHazard world path f := by
  cases text : readText world.files path with
  | error f =>
      have stopped : Stops (perform world env (.graph path)) s (Stop.ofFault f) := stops_graph_of_unread text s
      obtain ⟨e, unread, rfl⟩ | ⟨bytes, m, found, bad, rfl⟩ := readText_error_iff.mp text
      · cases e with
        | nullCharacter =>
            exact iff_of_false (not_answers_of_fault stopped) fun none => none _ (.nullCharacter unread)
        | refused r q =>
            refine iff_of_true (answers_of_refused stopped ⟨_, text⟩) ?_
            rintro f (bad | ⟨found, -⟩ | ⟨text', -⟩)
            · cases unread.symm.trans bad
            · cases unread.symm.trans found
            · cases text.symm.trans text'
      · exact iff_of_false (not_answers_of_fault stopped) fun none => none _ (.undecodable found bad)
  | ok content =>
      have usable : ¬ Unusable world env (.graph path) := by
        rintro ⟨f, unread⟩
        cases text.symm.trans unread
      cases read : Flow.Reading.ofText content with
      | error e =>
          have stopped : Stops (perform world env (.graph path)) s (.fault (.integer e.error)) :=
            stops_graph_of_number text read s
          exact iff_of_false (not_answers_of_fault stopped) fun none => none _ (.number text read)
      | ok r =>
          refine iff_of_true ?_ ?_
          · have returned : Returns (perform world env (.graph path)) s 0 _ := returns_graph text read s
            obtain ⟨ended, left⟩ := answer_of_returns returned
            refine ⟨0, ended, iff_of_false (by decide) usable, fun _ => ⟨rfl, content, r, text, read, ?_⟩⟩
            rw [left]
            simp [afterSaying, loud, noted]
          · rintro f (bad | ⟨found, bad⟩ | ⟨text', bad⟩)
            · cases text.symm.trans (readText_error_iff.mpr (.inl ⟨_, bad, rfl⟩))
            · cases text.symm.trans (readText_error_iff.mpr (.inr ⟨_, _, found, bad, rfl⟩))
            · cases text.symm.trans text'
              cases read.symm.trans bad

/-! ## Answers of the program -/

/-- **The program answers exactly if no hazard comes up.**  Whatever the files hold and whatever the services and
commands give, it ends with the status 2 if an entry for a variable is malformed, the settings cannot be loaded or the
file cannot be read; otherwise with 0 if each step that was executed has passed and with 1 if one has failed, behind a
summary whose verdict agrees, or with 0 behind a flowchart.  It does so unless a fault comes up: bytes that are no text,
a path with too long a part or a null character, a scalar or an integer that cannot be read, or a step that breaks
off. -/
theorem run_answers_iff (world : Setup) (env : Table Text) (s : RunState) {arguments : List Text} {command : Command}
    (loud : world.quiet = false) (read : Command.read arguments = .ok command) :
    Answers world env s command (run world env s arguments) ↔ ∀ f, ¬ Hazard world env s command f := by
  rw [run_eq_answer read]
  cases command with
  | run request => exact answers_run_iff loud
  | graph path => exact answers_graph_iff loud

/-- A world with one file, in which every request is answered. -/
def worldWith (name : Text) (bytes : List UInt8) : Setup :=
  { answering (.response {}) with files := { entries := [([name], .file bytes)] } }

/-- A scenario of one request. -/
def smoke : Setup :=
  worldWith "smoke.kest" (Utf8.encode "GET http://api.test/health --assert 'status == 200'\n".toList)

/-- The arguments that run it. -/
def smokeArguments : List Text := ["run", "smoke.kest", "--var", "user = ann"]

/-- The scenario is run, and has passed. -/
theorem run_answers_iff_smoke : ∃ request, Command.read smokeArguments = .ok (.run request) ∧
    Answers smoke [] fresh (.run request) (run smoke [] fresh smokeArguments) ∧
    (run smoke [] fresh smokeArguments).1 = .status 0 := by
  let request : RunRequest := { file := { parts := ["smoke.kest"] }, vars := ["user = ann"] }
  have read : Command.read smokeArguments = .ok (.run request) := by decide +kernel
  obtain ⟨n, returned⟩ := returns_of_isOk (m := runFile smoke [] request) (s := fresh) (by decide +kernel)
  have none : ∀ f, ¬ Hazard smoke [] fresh (.run request) f := by
    intro f hazard
    obtain ⟨e, stopped⟩ := stops_of_hazard hazard
    exact returned.not_stops e stopped
  exact ⟨request, read, (run_answers_iff smoke [] fresh rfl read).mpr none, by decide +kernel⟩

/-- A document that is no text: no UTF-8 text begins with its only byte. -/
def garbled : Setup := worldWith "h.md" [0xff]

/-- **The document cannot be read, and the program has no answer**: it does not end with the status 2. -/
theorem garbled_unanswered : ∃ command, Command.read ["run", "h.md"] = .ok command ∧ Unusable garbled [] command ∧
    ¬ Answers garbled [] fresh command (run garbled [] fresh ["run", "h.md"]) := by
  let request : RunRequest := { file := { parts := ["h.md"] } }
  have text : readText garbled.files request.file = .error (.encoding ⟨⟨.badStart, 1⟩, 0, 0xff⟩) := by decide +kernel
  have ended : (run garbled [] fresh ["run", "h.md"]).1 = .fault (.encoding ⟨⟨.badStart, 1⟩, 0, 0xff⟩) := by
    decide +kernel
  refine ⟨.run request, by decide +kernel, .inr (.inr ⟨_, text⟩), ?_⟩
  rintro ⟨n, answered, -⟩
  cases ended.symm.trans answered

end Program

end ApiFlow
