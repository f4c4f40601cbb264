import ApiFlow.Proofs.Run.Outcome
import ApiFlow.Run.RequestStep

/-!
# What can go wrong while a request is prepared

A missing variable or an unreadable body file is an outcome of the step.  Three things are not: an address that cannot
be split although queries are to be added to it, a body file whose name holds a null character, and a time limit that is
too long.

* `PrepareHazard` : the three things, each with what has been prepared before it.
* `stops_prepare_iff` : these, and nothing else, stop a preparation.
-/

set_option autoImplicit false

namespace ApiFlow

namespace Preparing

variable {α β : Type} {f : Filler} {d : Draws}

/-- The computation never ends in a fault. -/
def Tame (m : Preparing α) : Prop := ∀ d x, ¬ Stops m d (.fault x)

theorem Tame.pure (a : α) : Tame (pure a) := fun _ _ => stops_pure

theorem Tame.bind {m : Preparing α} {k : α → Preparing β} (first : Tame m) (rest : ∀ a, Tame (k a)) :
    Tame (m >>= k) := by
  intro d x stopped
  obtain early | ⟨a, d', -, late⟩ := stops_bind.mp stopped
  · exact first d x early
  · exact rest a d' x late

theorem Tame.mapM {k : α → Preparing β} (each : ∀ a, Tame (k a)) (l : List α) : Tame (l.mapM k) := by
  induction l with
  | nil => exact fun _ _ => not_stops_mapM_nil
  | cons a rest ih =>
      intro d x stopped
      obtain early | ⟨b, d', -, late⟩ := stops_mapM_cons.mp stopped
      · exact each a d x early
      · exact ih d' x late

theorem tame_fillLoosely (f : Filler) (text : Text) : Tame (fillLoosely f text) := by
  intro d x stopped
  cases stopped

theorem tame_fill (f : Filler) (text : Text) : Tame (fill f text) := by
  unfold fill
  by_cases strict : f.strict = true
  · rw [if_pos strict]
    intro d x stopped
    rw [Stops, ends_mk] at stopped
    rcases filled : Template.fillStrict f.builtins f.vars text d with ⟨names | filled', d'⟩
    · rw [filled] at stopped
      cases stopped
    · rw [filled] at stopped
      cases stopped
  · rw [if_neg strict]
    exact tame_fillLoosely f text

theorem tame_headers (f : Filler) (defaults flow : Table Text) (t : Flow.RequestTemplate) :
    Tame (headers f defaults flow t) := by
  have default : ∀ h, Tame (defaultHeader f h) := fun h => Tame.bind (tame_fillLoosely f h.2) fun _ => Tame.pure _
  exact Tame.bind (Tame.mapM default defaults) fun _ =>
    Tame.bind (Tame.mapM default flow) fun _ => Tame.bind (Tame.mapM (tame_fill f) t.headers) fun _ => Tame.pure _

/-- A tame computation in front decides only where the rest begins. -/
theorem Tame.stops_bind_iff {m : Preparing α} (tame : Tame m) {k : α → Preparing β} {x : Fault} :
    Stops (m >>= k) d (.fault x) ↔ ∃ a d', Returns m d a d' ∧ Stops (k a) d' (.fault x) := by
  rw [stops_bind, or_iff_right (tame d x)]

theorem stops_guard {r : Except Fault α} {x : Fault} : Stops (guard r) d (.fault x) ↔ r = .error x := by
  cases r with
  | ok a => exact iff_of_false stops_pure nofun
  | error e => simp [guard, eq_comm]

theorem mapError_eq_error {r : Except Address.Error α} {x : Fault} :
    r.mapError Fault.address = .error x ↔ ∃ e, r = .error e ∧ x = .address e := by
  cases r with
  | ok a => exact iff_of_false nofun fun ⟨_, never, _⟩ => nomatch never
  | error e =>
      constructor
      · rintro ⟨⟩
        exact ⟨e, rfl, rfl⟩
      · rintro ⟨_, ⟨⟩, rfl⟩
        rfl

/-- An address stops if it is filled in, queries are to be added, and it cannot be split. -/
theorem stops_address_iff {base : Text} {t : Flow.RequestTemplate} {x : Fault} :
    Stops (address f base t) d (.fault x) ↔
      t.queries ≠ [] ∧ ∃ url d₁ queries d₂ e, Returns (fill f t.url) d url d₁ ∧
        Returns (t.queries.mapM (fill f)) d₁ queries d₂ ∧
        Address.withEntries (absolute base url) queries = .error e ∧ x = .address e := by
  simp only [address]
  rw [(tame_fill f t.url).stops_bind_iff]
  by_cases none : t.queries = []
  · simp [none]
  · have some : t.queries.isEmpty = false := by simpa using none
    simp only [some, Bool.false_eq_true, if_false, (Tame.mapM (tame_fill f) t.queries).stops_bind_iff, stops_guard]
    constructor
    · rintro ⟨url, d₁, filled, queries, d₂, queried, bad⟩
      obtain ⟨e, split, same⟩ := mapError_eq_error.mp bad
      exact ⟨none, url, d₁, queries, d₂, e, filled, queried, split, same⟩
    · rintro ⟨-, url, d₁, queries, d₂, e, filled, queried, bad, same⟩
      exact ⟨url, d₁, filled, queries, d₂, queried, mapError_eq_error.mpr ⟨e, bad, same⟩⟩

theorem stops_fileBody_iff {files : Files.Tree} {place : Text} {x : Fault} :
    Stops (fileBody files place) d (.fault x) ↔
      files.read (Path.ofText (Text.trim place)) = .error .nullCharacter ∧ x = .file .nullCharacter := by
  unfold fileBody
  cases files.read (Path.ofText (Text.trim place)) with
  | ok bytes => exact iff_of_false stops_pure fun never => nomatch never.1
  | error e => cases e <;> simp

/-- A body stops if it names a file by a text with a null character. -/
theorem stops_body_iff {files : Files.Tree} {t : Flow.RequestTemplate} {x : Fault} :
    Stops (body f files t) d (.fault x) ↔
      t.body ≠ [] ∧ ∃ place d', Returns (fill f t.body) d ('@' :: place) d' ∧
        files.read (Path.ofText (Text.trim place)) = .error .nullCharacter ∧ x = .file .nullCharacter := by
  simp only [body]
  by_cases none : t.body = []
  · simp [none]
  · have some : t.body.isEmpty = false := by simpa using none
    simp only [some, Bool.false_eq_true, if_false, (tame_fill f t.body).stops_bind_iff]
    constructor
    · rintro ⟨text, d', filled, stopped⟩
      split at stopped
      · exact ⟨none, _, d', filled, stops_fileBody_iff.mp stopped⟩
      · exact absurd stopped stops_pure
    · rintro ⟨-, place, d', filled, bad⟩
      exact ⟨_, d', filled, stops_fileBody_iff.mpr bad⟩

theorem timeout_eq_error_iff {settings : Settings} {maxDurationMs : Int} {x : Fault} :
    timeout settings maxDurationMs = .error x ↔ 0 < maxDurationMs ∧ Duration.seconds maxDurationMs = .error x := by
  by_cases positive : 0 < maxDurationMs <;> simp [timeout, positive]

end Preparing

open Preparing

/-- What can go wrong while a request is prepared, with what was prepared before. -/
inductive PrepareHazard (settings : Settings) (files : Files.Tree) (f : Filler) (flowHeaders : Table Text)
    (maxDurationMs : Int) (t : Flow.RequestTemplate) (d : Draws) : Fault → Prop
  /-- Queries are to be added to an address that cannot be split. -/
  | address {url : Text} {queries : List Text} {d₁ d₂ : Draws} {e : Address.Error} (some : t.queries ≠ [])
      (filled : Returns (fill f t.url) d url d₁) (queried : Returns (t.queries.mapM (fill f)) d₁ queries d₂)
      (bad : Address.withEntries (absolute settings.environment.baseUrl url) queries = .error e) :
      PrepareHazard settings files f flowHeaders maxDurationMs t d (.address e)
  /-- A file is named by a text with a null character. -/
  | body {url place : Text} {hs : Table Text} {d₁ d₂ d₃ : Draws}
      (addressed : Returns (Preparing.address f settings.environment.baseUrl t) d url d₁)
      (layered : Returns (headers f settings.headers flowHeaders t) d₁ hs d₂) (some : t.body ≠ [])
      (filled : Returns (fill f t.body) d₂ ('@' :: place) d₃)
      (bad : files.read (Path.ofText (Text.trim place)) = .error .nullCharacter) :
      PrepareHazard settings files f flowHeaders maxDurationMs t d (.file .nullCharacter)
  /-- The time limit is too long. -/
  | timeout {url : Text} {hs : Table Text} {data : List UInt8} {d₁ d₂ d₃ : Draws} {x : Fault}
      (addressed : Returns (Preparing.address f settings.environment.baseUrl t) d url d₁)
      (layered : Returns (headers f settings.headers flowHeaders t) d₁ hs d₂)
      (bodied : Returns (Preparing.body f files t) d₂ data d₃) (positive : 0 < maxDurationMs)
      (bad : Duration.seconds maxDurationMs = .error x) :
      PrepareHazard settings files f flowHeaders maxDurationMs t d x

/-- **A preparation ends in a fault exactly if it meets a hazard.** -/
theorem stops_request_iff {settings : Settings} {files : Files.Tree} {f : Filler} {flowHeaders : Table Text}
    {maxDurationMs : Int} {t : Flow.RequestTemplate} {d : Draws} {x : Fault} :
    Stops (request settings files f flowHeaders maxDurationMs t) d (.fault x) ↔
      PrepareHazard settings files f flowHeaders maxDurationMs t d x := by
  constructor
  · intro stopped
    rw [request] at stopped
    obtain early | ⟨url, d₁, addressed, stopped⟩ := stops_bind.mp stopped
    · obtain ⟨some, url, d₁, queries, d₂, e, filled, queried, bad, rfl⟩ := stops_address_iff.mp early
      exact .address some filled queried bad
    obtain early | ⟨hs, d₂, layered, stopped⟩ := stops_bind.mp stopped
    · exact absurd early (tame_headers _ _ _ _ _ _)
    obtain early | ⟨data, d₃, bodied, stopped⟩ := stops_bind.mp stopped
    · obtain ⟨some, place, d₃, filled, bad, rfl⟩ := stops_body_iff.mp early
      exact .body addressed layered some filled bad
    obtain early | ⟨span, d₄, -, stopped⟩ := stops_bind.mp stopped
    · obtain ⟨positive, bad⟩ := timeout_eq_error_iff.mp (stops_guard.mp early)
      exact .timeout addressed layered bodied positive bad
    · exact absurd stopped stops_pure
  · intro hazard
    rw [request]
    cases hazard with
    | address some filled queried bad =>
        exact stops_bind.mpr (.inl (stops_address_iff.mpr ⟨some, _, _, _, _, _, filled, queried, bad, rfl⟩))
    | body addressed layered some filled bad =>
        refine stops_bind.mpr (.inr ⟨_, _, addressed, stops_bind.mpr (.inr ⟨_, _, layered, ?_⟩)⟩)
        exact stops_bind.mpr (.inl (stops_body_iff.mpr ⟨some, _, _, filled, bad, rfl⟩))
    | timeout addressed layered bodied positive bad =>
        refine stops_bind.mpr (.inr ⟨_, _, addressed, stops_bind.mpr (.inr ⟨_, _, layered, ?_⟩)⟩)
        refine stops_bind.mpr (.inr ⟨_, _, bodied, stops_bind.mpr (.inl ?_)⟩)
        exact stops_guard.mpr (timeout_eq_error_iff.mpr ⟨positive, bad⟩)

namespace Running

/-- **Only a hazard stops the preparation of a request.** -/
theorem stops_prepare_iff {setup : Setup} {t : Flow.RequestTemplate} {vars : Table Text} {strict : Bool}
    {flowHeaders : Table Text} {maxDurationMs : Int} {s : RunState} {x : Fault} :
    Stops (prepare setup t vars strict flowHeaders maxDurationMs) s x ↔
      PrepareHazard setup.settings setup.files ⟨setup.builtins, vars, strict⟩ flowHeaders maxDurationMs t s.draws x := by
  rw [← stops_request_iff]
  simp only [prepare]
  rw [stops_bind, or_iff_right stops_draw]
  constructor
  · rintro ⟨outcome, u, drawn, stopped⟩
    obtain ⟨ended, -⟩ := returns_draw.mp drawn
    rcases outcome with (e | y) | r
    · exact absurd stopped stops_pure
    · obtain rfl := stops_throw.mp stopped
      exact ended.symm
    · exact absurd stopped stops_pure
  · intro stopped
    refine ⟨_, _, returns_draw.mpr ⟨rfl, rfl⟩, ?_⟩
    have ended : ((Preparing.request setup.settings setup.files ⟨setup.builtins, vars, strict⟩ flowHeaders
      maxDurationMs t).run.run s.draws).1 = .error (.fault x) := stopped
    rw [ended]
    exact stops_throw.mpr rfl

end Running

end ApiFlow
