import ApiFlow.Proofs.Run.AnyOrder
import ApiFlow.Proofs.Run.Books
import ApiFlow.Proofs.Run.Escape
import ApiFlow.Proofs.Run.Lap
import ApiFlow.Run.Runner

/-!
# Runs of files

The text of a file is work: a flow, or plain requests to be run in order or all at once.  A run of a file stops if it
cannot be read, and where the run of its work stops; it has then no summary.  A run that returns has printed its summary
last.

* `Work` : what a file asks for.
* `WorkHazard`, `FileHazard` : all the ways in which work, and a run of a file, stop.
* `stops_runFile_iff` : a run of a file stops exactly if it meets a hazard.
* `returns_runFile` : a run of a file that returns accounts for its work and has printed its summary.
-/

set_option autoImplicit false

namespace ApiFlow

theorem readText_error_iff {files : Files.Tree} {path : Path} {f : Fault} :
    readText files path = .error f ↔ (∃ e, files.read path = .error e ∧ f = .file e) ∨
      ∃ bytes m, files.read path = .ok bytes ∧ Utf8.decode bytes = .error m ∧ f = .encoding m := by
  unfold readText
  cases found : files.read path with
  | error e => simp [eq_comm]
  | ok bytes => cases decoded : Utf8.decode bytes <;> simp [eq_comm, decoded]

namespace Running

open ApiFlow.Flow

variable {setup : Setup} {options : RunOptions} {source : Text} {s t u : RunState} {f : Fault}

/-! ## Requests all at once -/

/-- Requests that are run aside make no sound. -/
def aside (setup : Setup) : Setup := { setup with quiet := true }

/-- To run a request aside is to have its outcome. -/
theorem returns_plainAside {p : PlainRequest} {o : Except Fault StepResult} :
    Returns (plainAside setup options p) s o t ↔ ends (runPlain (aside setup) p options.strict) s = (o, t) := by
  unfold plainAside Returns aside
  rw [ends_tryCatch, bind_pure_comp, ends_map]
  rcases ends (runPlain { setup with quiet := true } p options.strict) s with ⟨f | r, u⟩
  · change (Except.ok (Except.error f), u) = _ ↔ _
    simp
  · simp [Except.map]

theorem safe_plainAside (p : PlainRequest) : Safe (plainAside setup options p) := by
  intro s f stopped
  have returned : Returns (plainAside setup options p) s (ends (runPlain (aside setup) p options.strict) s).1
      (ends (runPlain (aside setup) p options.strict) s).2 := returns_plainAside.mpr rfl
  exact returned.not_stops f stopped

theorem safe_plainAsides (plains : List PlainRequest) : Safe (plains.mapM (plainAside setup options)) := by
  induction plains with
  | nil => exact fun _ _ => not_stops_mapM_nil
  | cons p rest ih =>
      intro s f stopped
      obtain early | ⟨_, u, -, late⟩ := stops_mapM_cons.mp stopped
      · exact safe_plainAside p s f early
      · exact ih u f late

/-- Outcomes come up as they do if the requests are run in order. -/
theorem outcome_guards {plains : List PlainRequest} {outcomes : List (Except Fault StepResult)}
    (returned : Returns (plains.mapM (plainAside setup options)) s outcomes t) (u : RunState) :
    (ends (outcomes.mapM guard) u).1 = (ends (plains.mapM fun p => runPlain (aside setup) p options.strict) s).1 := by
  induction plains generalizing s outcomes with
  | nil =>
      obtain ⟨rfl, -⟩ := returns_mapM_nil.mp returned
      rfl
  | cons p rest ih =>
      obtain ⟨o, v, more, first, others, rfl⟩ := returns_mapM_cons.mp returned
      have ended := returns_plainAside.mp first
      rw [List.mapM_cons, List.mapM_cons]
      cases o with
      | error g =>
          rw [ends_bind (runPlain (aside setup) p options.strict), ended]
          rfl
      | ok r =>
          have here : Returns (guard (.ok r)) u r u := returns_guard.mpr ⟨rfl, rfl⟩
          rw [here.ends_bind, Returns.ends_bind (show Returns _ s r v from ended), bind_pure_comp, ends_map,
            bind_pure_comp, ends_map, ih others]

/-- **All at once, requests have the outcome that they have in order**: their results, or the fault of the first of them
that meets one. -/
theorem outcome_plainsAtOnce (plains : List PlainRequest) :
    (ends (plainsAtOnce setup options plains) s).1 =
      (ends (plains.mapM fun p => runPlain (aside setup) p options.strict) s).1 := by
  have safe : Safe (plains.mapM (plainAside setup options)) := safe_plainAsides plains
  obtain ⟨outcomes, u, returned⟩ := safe.returns s
  rw [plainsAtOnce, returned.ends_bind]
  exact outcome_guards returned u

/-- What a run of requests all at once does before the first of them. -/
def atOnceOpening (setup : Setup) (options : RunOptions) (plains : List PlainRequest) (source : Text) : Running Unit := do
  begin (plains.map (·.name))
  say setup (Report.runStarted plains.length source ("parallel (" ++ Text.ofInt (workers options) ++ " workers)"))

theorem safe_atOnceOpening (plains : List PlainRequest) : Safe (atOnceOpening setup options plains source) :=
  Safe.bind (fun _ _ => stops_modify) fun _ => safe_say setup _

/-- **What can go wrong in a run of requests all at once**: one of them meets a hazard where all before it have come to
results, or the time that the run took is no number. -/
inductive AtOnceHazard (setup : Setup) (options : RunOptions) (plains : List PlainRequest) (source : Text)
    (s : RunState) (f : Fault) : Prop
  | request {t u : RunState} {front rest : List PlainRequest} {p : PlainRequest} {results : List StepResult}
      (parts : plains = front ++ p :: rest) (opened : Returns (atOnceOpening setup options plains source) s () t)
      (before : Returns (front.mapM fun p => runPlain (aside setup) p options.strict) t results u)
      (hazard : ReadHazard (aside setup) options.strict p u f)
  | closing {u : RunState} {summary : Summary}
      (taken : Returns (takeAtOnce setup options plains plains source s.clock) s summary u)
      (bad : summary.close u.clock = .error f)

theorem returns_takeResults (results : List StepResult) (summary : Summary) (s : RunState) :
    ∃ t, Returns (results.foldlM takeResult summary) s { summary with results := summary.results ++ results } t := by
  obtain ⟨_, t, returned, rfl, -⟩ := adds_takeResults results summary s (.refl s)
  exact ⟨t, returned⟩

theorem stops_takeAtOnce_iff {plains : List PlainRequest} {started : Double}
    (opened : Returns (atOnceOpening setup options plains source) s () t) :
    Stops (takeAtOnce setup options plains plains source started) s f ↔
      Stops (plains.mapM fun p => runPlain (aside setup) p options.strict) t f := by
  obtain ⟨_, u, begun, said⟩ := returns_bind.mp opened
  rw [takeAtOnce, begun.stops_bind_iff, said.stops_bind_iff, stops_bind_safe, Stops, outcome_plainsAtOnce, Stops]
  intro results u f stopped
  obtain ⟨v, returned⟩ := returns_takeResults results { started } u
  exact returned.not_stops f stopped

/-- **A run of requests all at once stops exactly if it meets a hazard.** -/
theorem stops_runPlainRequests_atOnce_iff {plains : List PlainRequest} (parallel : options.parallel = true) :
    Stops (runPlainRequests setup options plains source) s f ↔ AtOnceHazard setup options plains source s f := by
  have safe : Safe (atOnceOpening setup options plains source) := safe_atOnceOpening plains
  obtain ⟨⟨⟩, t, opened⟩ := safe.returns s
  have clock : Returns now s s.clock s := returns_now.mpr ⟨rfl, rfl⟩
  rw [runPlainRequests_of_parallel parallel, runAtOnce, clock.stops_bind_iff, stops_bind, stops_takeAtOnce_iff opened,
    stops_mapM_split]
  constructor
  · rintro (⟨front, p, rest, results, u, parts, before, stopped⟩ | ⟨summary, u, taken, stopped⟩)
    · exact .request parts opened before (stops_runPlain_iff.mp stopped)
    · exact .closing taken (stops_finish_iff.mp stopped)
  · rintro (⟨parts, opened', before, hazard⟩ | ⟨taken, bad⟩)
    · obtain ⟨-, rfl⟩ := opened.unique opened'
      exact .inl ⟨_, _, _, _, _, parts, before, stops_runPlain_iff.mpr hazard⟩
    · exact .inr ⟨_, _, taken, stops_finish_iff.mpr bad⟩

theorem names_of_returns {plains : List PlainRequest} {results : List StepResult} {strict : Bool}
    (returned : Returns (plains.mapM fun p => runPlain setup p strict) s results t) :
    results.map (·.name) = plains.map (·.name) := by
  induction plains generalizing s results with
  | nil =>
      obtain ⟨rfl, -⟩ := returns_mapM_nil.mp returned
      rfl
  | cons p rest ih =>
      obtain ⟨r, u, more, first, others, rfl⟩ := returns_mapM_cons.mp returned
      rw [List.map_cons, List.map_cons, named_runPlain p strict first, ih others]

/-- A summary of requests that were run all at once has a result for each. -/
theorem named_takeAtOnce {plains : List PlainRequest} {started : Double} {summary : Summary}
    (returned : Returns (takeAtOnce setup options plains plains source started) s summary t) :
    summary.results.map (·.name) = plains.map (·.name) ∧ summary.skipped = [] := by
  obtain ⟨_, u, -, returned⟩ := returns_bind.mp returned
  obtain ⟨_, v, -, returned⟩ := returns_bind.mp returned
  obtain ⟨results, w, ran, taken⟩ := returns_bind.mp returned
  obtain ⟨x, same⟩ := returns_takeResults results { started } w
  obtain ⟨rfl, -⟩ := taken.unique same
  have outcome : (ends (plainsAtOnce setup options plains) v).1 =
      (ends (plains.mapM fun p => runPlain (aside setup) p options.strict) v).1 := outcome_plainsAtOnce plains
  rw [show ends (plainsAtOnce setup options plains) v = (.ok results, w) from ran] at outcome
  have inOrder : Returns (plains.mapM fun p => runPlain (aside setup) p options.strict) v results
      (ends (plains.mapM fun p => runPlain (aside setup) p options.strict) v).2 := Prod.ext outcome.symm rfl
  exact ⟨names_of_returns inOrder, rfl⟩

/-! ## Work -/

/-- What a file asks for: a flow, or plain requests. -/
inductive Work where
  | flow (d : Document)
  | plain (requests : List PlainRequest)

/-- What can go wrong while work is done. -/
inductive WorkHazard (setup : Setup) (options : RunOptions) (source : Text) (s : RunState) (f : Fault) : Work → Prop
  | flow {d : Document} (hazard : FlowHazard setup options d source s f) : WorkHazard setup options source s f (.flow d)
  | inOrder {plains : List PlainRequest} (sequential : options.parallel = false)
      (hazard : PlainHazard setup options plains source s f) : WorkHazard setup options source s f (.plain plains)
  | atOnce {plains : List PlainRequest} (parallel : options.parallel = true)
      (hazard : AtOnceHazard setup options plains source s f) : WorkHazard setup options source s f (.plain plains)

namespace Work

/-- The names of the steps of work in the order of their turns. -/
def names : Work → List Text
  | flow d => (order d).1.map (·.displayName)
  | plain requests => requests.map (·.name)

/-- Does the work. -/
def run (setup : Setup) (options : RunOptions) (source : Text) : Work → Running Summary
  | flow d => runDocument setup options d source
  | plain requests => runPlainRequests setup options requests source

/-- The work in a document. -/
def ofReading (r : Reading) : Work := if r.document.isFlow then flow r.document else plain r.plain

/-- The work in the text of a file, with the notes taken while reading it. -/
def read (path : Path) (content : Text) : List Note × Except Integer.ReadError Work :=
  if isDocument path then
    match Reading.ofText content with
    | .ok r => (r.notes, .ok (ofReading r))
    | .error e => (e.notes, .error e.error)
  else ([], .ok (plain (Scenario.requests content)))

variable {work : Work} {summary : Summary}

/-- **Work stops exactly if it meets a hazard.** -/
theorem stops_run_iff : Stops (work.run setup options source) s f ↔ WorkHazard setup options source s f work := by
  cases work with
  | flow d =>
      exact stops_runDocument_iff.trans ⟨.flow, fun | .flow hazard => hazard⟩
  | plain plains =>
      cases mode : options.parallel with
      | false =>
          refine (stops_runPlainRequests_iff mode).trans ⟨.inOrder mode, ?_⟩
          rintro (_ | ⟨-, hazard⟩ | ⟨parallel, -⟩)
          · exact hazard
          · cases mode.symm.trans parallel
      | true =>
          refine (stops_runPlainRequests_atOnce_iff mode).trans ⟨.atOnce mode, ?_⟩
          rintro (_ | ⟨sequential, -⟩ | ⟨-, hazard⟩)
          · cases mode.symm.trans sequential
          · exact hazard

/-- Work ends by closing a summary that has a result for every step, or names it as skipped. -/
theorem finishes (returned : Returns (work.run setup options source) s summary t) :
    (∃ left u, Returns (finish setup left) u summary t) ∧
      summary.results.map (·.name) ++ summary.skipped = work.names := by
  cases work with
  | flow d =>
      obtain ⟨⟨⟩, u, opened⟩ := (safe_opening setup options d source).returns s
      have whole := returned
      rw [run, Returns, ends_runDocument opened] at returned
      obtain ⟨left, v, -, finished⟩ := returns_bind.mp returned
      exact ⟨⟨left, v, finished⟩, (accounted_runDocument whole).1⟩
  | plain plains =>
      cases mode : options.parallel with
      | false =>
          obtain ⟨⟨⟩, u, opened⟩ := (safe_plainOpening setup plains source).returns s
          have whole := returned
          rw [run, Returns, ends_runPlainRequests mode opened] at returned
          obtain ⟨left, v, -, finished⟩ := returns_bind.mp returned
          exact ⟨⟨left, v, finished⟩, (accounted_runPlainRequests mode whole).1⟩
      | true =>
          rw [run, runPlainRequests_of_parallel mode] at returned
          obtain ⟨started, u, -, returned⟩ := returns_bind.mp returned
          obtain ⟨left, v, taken, finished⟩ := returns_bind.mp returned
          obtain ⟨results, skipped⟩ := returns_finish finished
          obtain ⟨named, none⟩ := named_takeAtOnce taken
          exact ⟨⟨left, v, finished⟩, by rw [results, skipped, named, none, List.append_nil]; rfl⟩

end Work

/-- The summary is the last that a run prints. -/
theorem finish_prints (loud : setup.quiet = false) {left summary : Summary}
    (finished : Returns (finish setup left) s summary t) : ∃ before, t.printed = before ++ Report.summary summary := by
  obtain ⟨-, rfl⟩ := Running.finished finished
  exact ⟨s.printed, by simp [afterFinish, loud]⟩

/-! ## Files -/

/-- The state with further notes in the log. -/
def noted (notes : List Note) (s : RunState) : RunState := { s with notes := s.notes ++ notes }

theorem returns_noteAll (notes : List Note) (s : RunState) : Returns (noteAll notes) s () (noted notes s) :=
  returns_modify.mpr rfl

/-- What can go wrong in a run of a file: it cannot be read, its text is no work, or its work meets a hazard. -/
inductive FileHazard (setup : Setup) (options : RunOptions) (path : Path) (s : RunState) : Fault → Prop
  | unread {e : Files.Error} (missing : setup.files.read path = .error e) :
      FileHazard setup options path s (.file e)
  | undecodable {bytes : List UInt8} {m : Utf8.Misfit} (found : setup.files.read path = .ok bytes)
      (bad : Utf8.decode bytes = .error m) : FileHazard setup options path s (.encoding m)
  | number {content : Text} {notes : List Note} {e : Integer.ReadError} (text : readText setup.files path = .ok content)
      (bad : Work.read path content = (notes, .error e)) : FileHazard setup options path s (.integer e)
  | work {content : Text} {notes : List Note} {work : Work} {f : Fault}
      (text : readText setup.files path = .ok content) (read : Work.read path content = (notes, .ok work))
      (hazard : WorkHazard setup options path.text (noted notes s) f work) : FileHazard setup options path s f

/-- A document is read with its notes, or stopped at with the notes taken before. -/
theorem ends_readDocument (content : Text) (s : RunState) :
    ends (readDocument content) s = match Reading.ofText content with
      | .ok r => (.ok r, noted r.notes s)
      | .error e => (.error (.integer e.error), noted e.notes s) := by
  unfold readDocument
  cases Reading.ofText content with
  | ok r => exact (returns_noteAll r.notes s).ends_bind _
  | error e => exact (returns_noteAll e.notes s).ends_bind _

theorem ends_runFile {path : Path} {content : Text} (text : readText setup.files path = .ok content) :
    ends (runFile setup options path) s =
      match Work.read path content with
      | (notes, .ok work) => ends (work.run setup options path.text) (noted notes s)
      | (notes, .error e) => (.error (.integer e), noted notes s) := by
  have opened : Returns (guard (readText setup.files path)) s content s := returns_guard.mpr ⟨text, rfl⟩
  rw [runFile, opened.ends_bind, Work.read]
  by_cases document : isDocument path = true
  · rw [if_pos document, if_pos document, ends_bind, ends_readDocument]
    cases Reading.ofText content with
    | error e => rfl
    | ok r =>
        dsimp only
        rw [Work.ofReading]
        split <;> rfl
  · rw [if_neg document, if_neg document]
    change _ = ends _ (noted [] s)
    rw [noted, List.append_nil]
    rfl

/-- **A run of a file stops exactly if it meets a hazard.** -/
theorem stops_runFile_iff {path : Path} :
    Stops (runFile setup options path) s f ↔ FileHazard setup options path s f := by
  cases text : readText setup.files path with
  | error g =>
      have stopped : Stops (guard (readText setup.files path)) s g := stops_guard.mpr text
      have never (a : Text) (t : RunState) : ¬ Returns (guard (readText setup.files path)) s a t :=
        fun returned => returned.not_stops g stopped
      rw [runFile, stops_bind, or_iff_left fun ⟨a, t, returned, _⟩ => never a t returned, stops_guard, text]
      constructor
      · rintro ⟨⟩
        obtain ⟨e, missing, rfl⟩ | ⟨bytes, m, found, bad, rfl⟩ := readText_error_iff.mp text
        · exact .unread missing
        · exact .undecodable found bad
      · rintro (missing | ⟨found, bad⟩ | ⟨text', -⟩ | ⟨text', -, -⟩)
        · exact text.symm.trans (readText_error_iff.mpr (.inl ⟨_, missing, rfl⟩))
        · exact text.symm.trans (readText_error_iff.mpr (.inr ⟨_, _, found, bad, rfl⟩))
        · cases text.symm.trans text'
        · cases text.symm.trans text'
  | ok content =>
      have readable : ∀ g, readText setup.files path ≠ .error g := fun g bad => nomatch text.symm.trans bad
      rw [Stops, ends_runFile text]
      rcases read : Work.read path content with ⟨notes, e | work⟩
      · constructor
        · rintro ⟨⟩
          exact .number text read
        · rintro (missing | ⟨found, bad⟩ | ⟨text', bad⟩ | ⟨text', read', -⟩)
          · exact absurd (readText_error_iff.mpr (.inl ⟨_, missing, rfl⟩)) (readable _)
          · exact absurd (readText_error_iff.mpr (.inr ⟨_, _, found, bad, rfl⟩)) (readable _)
          · cases text.symm.trans text'
            cases read.symm.trans bad
            rfl
          · cases text.symm.trans text'
            cases read.symm.trans read'
      · change Stops (work.run setup options path.text) (noted notes s) f ↔ _
        rw [Work.stops_run_iff]
        constructor
        · exact .work text read
        · rintro (missing | ⟨found, bad⟩ | ⟨text', bad⟩ | ⟨text', read', hazard⟩)
          · exact absurd (readText_error_iff.mpr (.inl ⟨_, missing, rfl⟩)) (readable _)
          · exact absurd (readText_error_iff.mpr (.inr ⟨_, _, found, bad, rfl⟩)) (readable _)
          · cases text.symm.trans text'
            cases read.symm.trans bad
          · cases text.symm.trans text'
            cases read.symm.trans read'
            exact hazard

/-- **A run of a file that returns has done its work**: it has a result for every step that it has not skipped, and has
printed its summary last. -/
theorem returns_runFile (loud : setup.quiet = false) {path : Path} {summary : Summary}
    (returned : Returns (runFile setup options path) s summary t) :
    ∃ content notes work, readText setup.files path = .ok content ∧ Work.read path content = (notes, .ok work) ∧
      summary.results.map (·.name) ++ summary.skipped = work.names ∧
      ∃ before, t.printed = before ++ Report.summary summary := by
  obtain ⟨content, u, opened, -⟩ := returns_bind.mp returned
  obtain ⟨text, -⟩ := returns_guard.mp opened
  rw [Returns, ends_runFile text] at returned
  rcases read : Work.read path content with ⟨notes, e | work⟩
  · rw [read] at returned
    cases returned
  · rw [read] at returned
    obtain ⟨⟨left, v, finished⟩, named⟩ := Work.finishes returned
    exact ⟨content, notes, work, text, read, named, finish_prints loud finished⟩

end Running

end ApiFlow
