import ApiFlow.Proofs.Run.Frame
import ApiFlow.Proofs.Template.Open

/-!
# What the check before a step guarantees

A step that has passed the check has no open reference in any of its texts.  Its request is then prepared without a
missing variable, and the shell is given its command with every reference filled in.

* `Demands` : a computation returns only where a demand is met, and finds a variable missing only where it is not.
* `demands_request` : what the preparation of a request demands of its texts.
* `Grows`, `Adds` : a computation only adds entries of one kind to a log, however it ends.
* `commands_commandStep` : all commands of a step are its filled command.
* `preflight_agrees` : the check agrees with filling the texts, and what it guarantees.
-/

set_option autoImplicit false

namespace ApiFlow

open ApiFlow.Flow ApiFlow.Template

/-! ## Preparing -/

namespace Preparing

variable {α β : Type} {f : Filler} {d : Draws} {P Q : Prop}

/-- The computation returns only where a demand is met, and finds a variable missing only where it is not. -/
structure Demands (m : Preparing α) (P : Prop) : Prop where
  met : ∀ {d a d'}, Returns m d a d' → P
  missing : ∀ {d names}, Stops m d (.refused (.missing names)) → ¬ P

theorem Demands.nothing {m : Preparing α} (never : ∀ d names, ¬ Stops m d (.refused (.missing names))) :
    Demands m True where
  met _ := trivial
  missing stopped := absurd stopped (never _ _)

theorem Demands.pure (a : α) : Demands (pure a) True := .nothing fun _ _ => stops_pure

theorem Demands.bind {m : Preparing α} {k : α → Preparing β} (first : Demands m P) (rest : ∀ a, Demands (k a) Q) :
    Demands (m >>= k) (P ∧ Q) where
  met returned := by
    obtain ⟨a, _, before, after⟩ := returns_bind.mp returned
    exact ⟨first.met before, (rest a).met after⟩
  missing stopped := by
    rintro ⟨p, q⟩
    obtain early | ⟨a, _, -, late⟩ := stops_bind.mp stopped
    · exact first.missing early p
    · exact (rest a).missing late q

theorem Demands.congr {m : Preparing α} (demands : Demands m P) (same : P ↔ Q) : Demands m Q where
  met returned := same.mp (demands.met returned)
  missing stopped q := demands.missing stopped (same.mpr q)

theorem Demands.mapM {k : α → Preparing β} {P : α → Prop} (each : ∀ a, Demands (k a) (P a)) (l : List α) :
    Demands (l.mapM k) (∀ a ∈ l, P a) := by
  induction l with
  | nil => exact (Demands.nothing fun _ _ => not_stops_mapM_nil).congr (by simp)
  | cons a rest ih =>
      rw [List.mapM_cons]
      have both := Demands.bind (each a) fun b => Demands.bind ih fun bs => Demands.pure (b :: bs)
      exact both.congr (by simp)

theorem demands_fillLoosely (f : Filler) (text : Text) : Demands (fillLoosely f text) True :=
  .nothing fun _ _ stopped => nomatch stopped

/-- Filling a text strictly demands that none of its references is open. -/
theorem demands_fill (strict : f.strict = true) (text : Text) :
    Demands (fill f text) (openNames f.builtins f.vars text = []) := by
  by_cases none : openNames f.builtins f.vars text = []
  · have filled (d : Draws) : (ends (fill f text) d).1 = .ok (Template.fill f.builtins f.vars text d).1.text := by
      rw [fill, if_pos strict, ends_mk, fillStrict_eq, if_pos none]
    exact ⟨fun _ => none, fun stopped => nomatch (filled _).symm.trans stopped⟩
  · have failed (d : Draws) : (ends (fill f text) d).1 =
        .error (.refused (.missing (Text.unique (openNames f.builtins f.vars text)))) := by
      rw [fill, if_pos strict, ends_mk, fillStrict_eq, if_neg none]
    exact ⟨fun returned => (nomatch (failed _).symm.trans (congrArg Prod.fst returned)), fun _ => none⟩

theorem demands_guard (result : Except Fault α) : Demands (guard result) True := by
  refine .nothing fun d names stopped => ?_
  cases result with
  | ok a => exact stops_pure stopped
  | error e => cases stops_throw.mp stopped

theorem demands_address (strict : f.strict = true) (base : Text) (t : RequestTemplate) :
    Demands (address f base t)
      (openNames f.builtins f.vars t.url = [] ∧ ∀ query ∈ t.queries, openNames f.builtins f.vars query = []) := by
  refine Demands.bind (demands_fill strict t.url) fun url => ?_
  by_cases none : t.queries = []
  · simp only [none, List.isEmpty_nil, if_true]
    exact (Demands.pure _).congr (by simp)
  · have some : t.queries.isEmpty = false := by simpa using none
    simp only [some, Bool.false_eq_true, if_false]
    exact (Demands.bind (Demands.mapM (demands_fill strict) t.queries) fun _ => demands_guard _).congr (by rw [and_true])

theorem demands_headers (strict : f.strict = true) (defaults flow : Table Text) (t : RequestTemplate) :
    Demands (headers f defaults flow t) (∀ line ∈ t.headers, openNames f.builtins f.vars line = []) := by
  have default (hs : Table Text) : Demands (hs.mapM (defaultHeader f)) True := by
    have each (h : Text × Text) : Demands (defaultHeader f h) True :=
      (Demands.bind (demands_fillLoosely f h.2) fun _ => Demands.pure _).congr (by simp)
    exact (Demands.mapM each hs).congr (by simp)
  have all := Demands.bind (default defaults) fun ds => Demands.bind (default flow) fun fs =>
    Demands.bind (Demands.mapM (demands_fill strict) t.headers) fun lines =>
      Demands.pure (Table.ofWrites (ds ++ fs ++ lines.filterMap Header.ofLine?))
  exact all.congr (by simp)

theorem demands_fileBody (files : Files.Tree) (place : Text) : Demands (fileBody files place) True := by
  refine .nothing fun d names stopped => ?_
  unfold fileBody at stopped
  split at stopped
  · exact stops_pure stopped
  · cases stops_throw.mp stopped
  · cases stops_throw.mp stopped

theorem demands_body (strict : f.strict = true) (files : Files.Tree) (t : RequestTemplate) :
    Demands (body f files t) (openNames f.builtins f.vars t.body = []) := by
  unfold body
  by_cases none : t.body = []
  · simp only [none, List.isEmpty_nil, if_true]
    exact (Demands.pure _).congr (iff_of_true trivial rfl)
  · have some : t.body.isEmpty = false := by simpa using none
    simp only [some, Bool.false_eq_true, if_false]
    refine (Demands.bind (Q := True) (demands_fill strict t.body) fun data => ?_).congr (by rw [and_true])
    split
    · exact demands_fileBody files _
    · exact Demands.pure _

/-- **Preparing a request strictly demands that none of its texts has an open reference.** -/
theorem demands_request (strict : f.strict = true) (settings : Settings) (files : Files.Tree) (flowHeaders : Table Text)
    (maxDurationMs : Int) (t : RequestTemplate) :
    Demands (request settings files f flowHeaders maxDurationMs t)
      (∀ template ∈ t.url :: t.body :: (t.headers ++ t.queries), openNames f.builtins f.vars template = []) := by
  have all := Demands.bind (demands_address strict settings.environment.baseUrl t) fun url =>
    Demands.bind (demands_headers strict settings.headers flowHeaders t) fun hs =>
      Demands.bind (demands_body strict files t) fun data =>
        Demands.bind (demands_guard (timeout settings maxDurationMs)) fun timeout =>
          Demands.pure ({ method := Text.upper t.method, url, headers := hs, body := data, timeout } : Request)
  refine all.congr ?_
  simp only [List.forall_mem_cons, List.forall_mem_append]
  constructor
  · exact fun ⟨⟨url, queries⟩, headers, body, _⟩ => ⟨url, body, headers, queries⟩
  · exact fun ⟨url, body, headers, queries⟩ => ⟨⟨url, queries⟩, headers, body, trivial, trivial⟩

end Preparing

/-! ## Logs that only grow -/

section Growth

variable {ε σ α β κ : Type} {log : σ → List κ} {good : κ → Prop} {s t u : σ}

/-- From one state to another only entries of one kind were added to a log. -/
def Grows (log : σ → List κ) (good : κ → Prop) (s t : σ) : Prop := ∃ more, log t = log s ++ more ∧ ∀ entry ∈ more, good entry

theorem Grows.of_same (same : log t = log s) : Grows log good s t := ⟨[], by rw [same, List.append_nil], nofun⟩

theorem Grows.trans (first : Grows log good s t) (second : Grows log good t u) : Grows log good s u := by
  obtain ⟨xs, grown, xsGood⟩ := first
  obtain ⟨ys, grown', ysGood⟩ := second
  exact ⟨xs ++ ys, by rw [grown', grown, List.append_assoc], List.forall_mem_append.mpr ⟨xsGood, ysGood⟩⟩

/-- However the computation ends, it has only added entries of one kind to a log. -/
def Adds (log : σ → List κ) (good : κ → Prop) (m : ExceptT ε (StateM σ) α) : Prop := ∀ s, Grows log good s (ends m s).2

theorem Still.adds {m : ExceptT ε (StateM σ) α} (still : Still log m) : Adds log good m := fun s => .of_same (still s)

/-- A computation that never stops adds nothing if it keeps the log. -/
theorem Safe.adds {m : ExceptT ε (StateM σ) α} (safe : Safe m) (keeps : Keeps log m) : Adds log good m := by
  intro s
  obtain ⟨a, t, returned⟩ := safe.returns s
  have left : (ends m s).2 = t := congrArg Prod.snd returned
  exact .of_same (left ▸ keeps returned)

theorem Adds.pure (a : α) : Adds log good (pure a : ExceptT ε (StateM σ) α) := fun _ => .of_same rfl

theorem Adds.bind {m : ExceptT ε (StateM σ) α} {k : α → ExceptT ε (StateM σ) β} (first : Adds log good m)
    (rest : ∀ a, Adds log good (k a)) : Adds log good (m >>= k) := by
  intro s
  have before := first s
  rw [ends_bind]
  rcases ended : ends m s with ⟨e | a, t⟩
  · rw [ended] at before
    exact before
  · rw [ended] at before
    exact before.trans (rest a t)

theorem Adds.map {m : ExceptT ε (StateM σ) α} (adds : Adds log good m) (g : α → β) : Adds log good (g <$> m) := by
  intro s
  rw [ends_map]
  exact adds s

theorem Adds.mapM {f : α → ExceptT ε (StateM σ) β} (each : ∀ a, Adds log good (f a)) (l : List α) :
    Adds log good (l.mapM f) := by
  induction l with
  | nil => exact Adds.pure []
  | cons a rest ih =>
      rw [List.mapM_cons]
      exact Adds.bind (each a) fun _ => Adds.bind ih fun _ => Adds.pure _

end Growth

namespace Running

variable {setup : Setup} {s t u : RunState}

/-! ## The commands of a step -/

theorem Retry.adds_run {ε α κ : Type} {log : RunState → List κ} {good : κ → Prop} {attempt : Running (Except ε α)}
    {r : Retry} (attempted : Adds log good attempt) (paused : ∀ wait number, Keeps log (r.pause setup wait number)) :
    Adds log good (r.run setup attempt) := by
  intro s
  rcases @Retry.run_ends _ _ attempt r setup s with ⟨f, -, same⟩ | ⟨wait, last, u, -, reached, same⟩
  · rw [same]
    exact .of_same rfl
  · have before : Grows log good s u := by
      refine reached.carries (fun _ => .of_same rfl) (fun one two => one.trans two) ?_ ?_
      · intro s t e failed
        have once := attempted s
        rwa [show ends attempt s = (.ok (.error e), t) from failed] at once
      · exact fun waited => .of_same (paused wait _ waited)
    rw [same, ends_map]
    exact before.trans (attempted u)

/-- Captures call nothing, whether or not they stop. -/
theorem still_capture (product : Capture.Product) (step : Text) (entries : List Text) :
    Still RunState.commands (capture product step entries) := by
  intro s
  rw [ends_capture]
  rfl

/-- Deciding an assertion calls nothing, whether or not it stops. -/
theorem still_check (setup : Setup) (subject : Assertion.Subject) (vars : Table Text) (assertion : Text) :
    Still RunState.commands (check setup subject vars assertion) := by
  intro s
  rw [check, (returns_draw.mpr ⟨rfl, rfl⟩).ends_bind]
  rfl

variable {good : Text × Double → Prop}

theorem adds_concluded (step : Step) (c : CommandTemplate) (result : StepResult) (o : Output)
    (outcomes : List Capture.Outcome) : Adds RunState.commands good (concluded setup step c result o outcomes) := by
  have said (text : Text) : Keeps RunState.commands (say setup text) := keeps_say setup _ (fun _ _ => rfl) text
  refine Adds.bind ((Safe.forM (safe_sayCaptured setup) outcomes).adds ?_) fun _ => Adds.bind (fun _ => .of_same rfl) fun t =>
    Adds.bind (Adds.mapM (fun a => ?_) c.asserts) fun checked => (safe_decided step _ checked).adds ?_
  · exact (Keeps.forM (keeps_outer_sayCaptured setup) outcomes).comp fun o => o.2.1
  · exact Adds.bind (still_check setup _ _ a).adds fun _ => Adds.bind ((safe_say setup _).adds (said _)) fun _ => Adds.pure _
  · exact (keeps_outer_decided step _ checked).comp fun o => o.2.1

theorem adds_succeeded (step : Step) (c : CommandTemplate) (result : StepResult) (o : Output) :
    Adds RunState.commands good (succeeded setup step c result o) := by
  have said (label text : Text) : Adds RunState.commands good (sayOutput setup label text) :=
    (safe_sayOutput setup label text).adds ((keeps_outer_sayOutput setup label text).comp fun o => o.2.1)
  rw [succeeded_eq]
  exact Adds.bind (said _ _) fun _ => Adds.bind (said _ _) fun _ => Adds.bind (still_capture _ _ _).adds fun outcomes =>
    adds_concluded step c result o outcomes

theorem adds_conclude (step : Step) (c : CommandTemplate) (begun : StepResult) (start : Double)
    (outcome : Except CommandError Output) : Adds RunState.commands good (conclude setup step c begun start outcome) := by
  cases outcome with
  | error e => exact Adds.bind (fun _ => .of_same rfl) fun _ => Adds.bind (fun _ => .of_same rfl) fun _ => Adds.pure _
  | ok o => exact adds_succeeded step c begun o

/-- **All commands of a step** are its filled command, however the step ends. -/
theorem commands_commandStep (step : Step) (c : CommandTemplate) (s : RunState) :
    Grows RunState.commands (fun call => call.1 = commandText setup c s) s (ends (commandStep setup step c) s).2 := by
  by_cases given : c.command = []
  · simp only [commandStep, given, List.isEmpty_nil, if_true]
    exact .of_same rfl
  · have once (limit : Double) : Adds RunState.commands (fun call => call.1 = commandText setup c s)
        (runOnce setup (commandText setup c s) limit) := by
      intro t
      rw [ends_runOnce]
      exact ⟨[_], rfl, by simp⟩
    have tried (limit : Double) : Adds RunState.commands (fun call => call.1 = commandText setup c s)
        (tries setup step c limit s) := by
      rw [tries, runCommand, bind_pure_comp]
      exact (Retry.adds_run (once limit) fun wait number =>
        (keeps_outer_pause _ setup wait number).comp fun o => o.2.1).map Prod.fst
    have after : Adds RunState.commands (fun call => call.1 = commandText setup c s) (do
        let limit ← guard (commandLimit setup step)
        let start ← now
        conclude setup step c (begun setup step c s) start (← tries setup step c limit s)) :=
      Adds.bind (fun _ => .of_same rfl) fun limit => Adds.bind (fun _ => .of_same rfl) fun start =>
        Adds.bind (tried limit) fun outcome => adds_conclude step c _ start outcome
    rw [ends_commandStep given]
    exact after (beforeCommand setup c s)

/-! ## A step that has passed the check -/

/-- What a preparation comes to within a run: a request, or why there is none. -/
theorem returns_prepare {template : RequestTemplate} {vars flowHeaders : Table Text} {strict : Bool} {maxDurationMs : Int}
    {outcome : Except PrepareError Request}
    (returned : Returns (prepare setup template vars strict flowHeaders maxDurationMs) s outcome t) :
    (∃ r d, outcome = .ok r ∧ Returns (Preparing.request setup.settings setup.files ⟨setup.builtins, vars, strict⟩
      flowHeaders maxDurationMs template) s.draws r d) ∨
    ∃ e, outcome = .error e ∧ Stops (Preparing.request setup.settings setup.files ⟨setup.builtins, vars, strict⟩
      flowHeaders maxDurationMs template) s.draws (.refused e) := by
  obtain ⟨drawn, u, draws, rest⟩ := returns_bind.mp returned
  obtain ⟨ended, -⟩ := returns_draw.mp draws
  rcases drawn with (e | f) | r
  · exact .inr ⟨e, (returns_pure.mp rest).1, ended.symm⟩
  · exact absurd rest returns_throw
  · exact .inl ⟨r, _, (returns_pure.mp rest).1, Prod.ext ended.symm rfl⟩

/-- A request that was prepared strictly has no open reference in its texts. -/
theorem closed_of_prepared {template : RequestTemplate} {vars flowHeaders : Table Text} {maxDurationMs : Int} {r : Request}
    (prepared : Returns (prepare setup template vars true flowHeaders maxDurationMs) s (.ok r) t) :
    ∀ text ∈ template.url :: template.body :: (template.headers ++ template.queries),
      openNames setup.builtins vars text = [] := by
  rcases returns_prepare prepared with ⟨_, _, -, requested⟩ | ⟨_, ⟨⟩, -⟩
  exact (Preparing.demands_request (f := ⟨setup.builtins, vars, true⟩) rfl setup.settings setup.files flowHeaders
    maxDurationMs template).met requested

/-- Where no reference is open, no variable is missing. -/
theorem not_missing_of_closed {template : RequestTemplate} {vars flowHeaders : Table Text} {maxDurationMs : Int}
    {names : List Text}
    (closed : ∀ text ∈ template.url :: template.body :: (template.headers ++ template.queries),
      openNames setup.builtins vars text = []) :
    ¬ Returns (prepare setup template vars true flowHeaders maxDurationMs) s (.error (.missing names)) t := by
  intro refused
  rcases returns_prepare refused with ⟨_, _, ⟨⟩, -⟩ | ⟨_, ⟨⟩, stopped⟩
  exact (Preparing.demands_request (f := ⟨setup.builtins, vars, true⟩) rfl setup.settings setup.files flowHeaders
    maxDurationMs template).missing stopped closed

theorem mem_templatesOf_send {step : Step} {template : RequestTemplate} (action : step.action = .send template)
    {text : Text} : text ∈ templatesOf step ↔
      text ∈ template.url :: template.body :: (template.headers ++ template.queries) ∨ text = [] ∨ text ∈ step.asserts := by
  simp only [templatesOf, Step.request, Step.command, action, List.mem_append, List.mem_cons, List.not_mem_nil, or_false]
  grind

theorem mem_templatesOf_run {step : Step} {c : CommandTemplate} (action : step.action = .run c) {text : Text} :
    text ∈ templatesOf step ↔ text = c.command ∨ text = [] ∨ text ∈ step.asserts := by
  simp only [templatesOf, Step.request, Step.command, action, List.mem_append, List.mem_cons, List.not_mem_nil, or_false]
  grind

/-- **The check before a step agrees with filling its texts**: it lets the step pass exactly if filling leaves no name
unresolved.  Then no variable is missing when the request of the step is prepared with the same variables, and every
command that the step gives to the shell is its command with nothing left unresolved. -/
theorem preflight_agrees (setup : Setup) (step : Step) (origins headers : Table Text) (failed : List Text) (s : RunState) :
    (∀ d, preflight? setup.builtins (s.chain setup.settings) step origins failed = none ↔
      ∀ template ∈ templatesOf step, (fill setup.builtins (s.chain setup.settings) template d).1.unresolved = []) ∧
    (preflight? setup.builtins (s.chain setup.settings) step origins failed = none →
      (∀ template, step.action = .send template → ∀ t u names,
        ¬ Returns (prepare setup template (s.chain setup.settings) true headers step.maxDurationMs) t
          (.error (.missing names)) u) ∧
      (∀ c, step.action = .run c →
        ∀ call ∈ (ends (runStep setup step true headers) s).2.commands.drop s.commands.length,
          ∃ d, (fill setup.builtins (s.chain setup.settings) c.command d).1 = { text := call.1, unresolved := [] })) := by
  refine ⟨fun d => ?_, fun ready => ⟨fun template action t u names => ?_, fun c action call member => ?_⟩⟩
  · simp only [unresolved_fill]
    exact preflight?_eq_none_iff
  · have closed := preflight?_eq_none_iff.mp ready
    exact not_missing_of_closed fun text listed => closed text ((mem_templatesOf_send action).mpr (.inl listed))
  · have closed := preflight?_eq_none_iff.mp ready c.command ((mem_templatesOf_run action).mpr (.inl rfl))
    have ran : runStep setup step true headers = commandStep setup step c := by rw [runStep, action]
    obtain ⟨more, grown, filled⟩ := @commands_commandStep setup step c s
    rw [ran, grown, List.drop_left] at member
    refine ⟨s.draws, ?_⟩
    have left := unresolved_fill setup.builtins (s.chain setup.settings) c.command s.draws
    rw [closed] at left
    rw [filled call member, commandText, ← left]

/-- A service and a shell that say nothing. -/
def silent : Setup := answering (.noResponse [])

/-- A step that greets by name. -/
def greet : Step where
  id := "greet"
  action := .run { command := r#"echo {{word | default: "hello"}} {{name}}"# }

/-- A start with a name to greet. -/
def named : RunState := { fresh with context := Context.ofCommandLine [("name".toList, "world".toList)] }

/-- The greeting passes the check, and it is given to the shell with name and word. -/
theorem preflight_agrees_greet :
    preflight? silent.builtins (named.chain silent.settings) greet [] [] = none ∧
      (ends (runStep silent greet true []) named).2.commands.map Prod.fst = ["echo hello world".toList] ∧
      ∃ d, (fill silent.builtins (named.chain silent.settings) greet.command.command d).1 =
        { text := "echo hello world", unresolved := [] } := by
  have ready : preflight? silent.builtins (named.chain silent.settings) greet [] [] = none := by decide +kernel
  have commands : (ends (runStep silent greet true []) named).2.commands.map Prod.fst = ["echo hello world".toList] := by
    decide +kernel
  obtain ⟨-, guaranteed⟩ := preflight_agrees silent greet [] [] [] named
  obtain ⟨call, listed, text⟩ := List.mem_map.mp (commands ▸ List.mem_cons_self)
  refine ⟨ready, commands, ?_⟩
  obtain ⟨d, filled⟩ := (guaranteed ready).2 greet.command rfl call listed
  exact ⟨d, filled.trans (by rw [text])⟩

end Running

end ApiFlow
