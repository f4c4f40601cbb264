import ApiFlow.Proofs.Run.Outcome
import ApiFlow.Proofs.Template.Open
import ApiFlow.Run.RequestStep

/-!
# What draws nothing

Of all that a template may refer to, only built-ins draw values.  A request none of whose texts names one is prepared to
the same end whatever was drawn before it, and leaves the draws to those behind it; so are its assertions decided.

* `Undrawn` : a computation that neither looks at the draws nor makes any.
* `NamesNoBuiltin` : a template without a built-in.
* `Preparing.undrawn_request` : the preparation of a request.
* `Assertion.undrawn_check` : an assertion.
-/

set_option autoImplicit false

namespace ApiFlow

/-- A computation that comes to one end whatever was drawn before, and draws nothing. -/
def Undrawn {α : Type} (f : Draws → α × Draws) : Prop := ∃ a, ∀ d, f d = (a, d)

namespace Template

variable {builtins : Builtins} {vars : Table Text} {template : Text}

/-- A template does not refer to a built-in. -/
def NamesNoBuiltin (builtins : Builtins) (template : Text) : Prop :=
  ∀ name ∈ names template, builtins.has name = false

instance (builtins : Builtins) (template : Text) : Decidable (NamesNoBuiltin builtins template) :=
  inferInstanceAs (Decidable (∀ name ∈ names template, builtins.has name = false))

theorem NamesNoBuiltin.of_piece (free : NamesNoBuiltin builtins template) {r : Reference}
    (listed : .reference r ∈ pieces template) (named : ¬ r.name.isEmpty = true) : builtins.has r.name = false := by
  refine free r.name (Text.mem_unique.mpr (List.mem_map.mpr ⟨r, ?_, rfl⟩))
  exact List.mem_filterMap.mpr ⟨.reference r, listed, if_neg named⟩

/-- A reference to no built-in draws nothing. -/
theorem Reference.undrawn_value {r : Reference} (vars : Table Text) (free : builtins.has r.name = false) :
    Undrawn (r.value builtins vars) := by
  refine ⟨(vars.get? r.name).or (r.fallback.map unescape), fun d => ?_⟩
  rw [Reference.value, free]
  cases vars.get? r.name <;> rfl

theorem undrawn_fillPieces {pieces : List Piece}
    (free : ∀ r, .reference r ∈ pieces → ¬ r.name.isEmpty = true → builtins.has r.name = false) :
    Undrawn (fillPieces builtins vars pieces) := by
  induction pieces with
  | nil => exact ⟨{}, fun _ => rfl⟩
  | cons p rest ih =>
      obtain ⟨filled, same⟩ := ih fun r listed => free r (List.mem_cons_of_mem p listed)
      cases p with
      | char c => exact ⟨filled.after [c], fun d => by rw [fillPieces, same]⟩
      | reference r =>
          by_cases nameless : r.name.isEmpty = true
          · exact ⟨filled.after r.source, fun d => by rw [fillPieces, if_pos nameless, same]⟩
          · obtain ⟨value, stands⟩ := Reference.undrawn_value vars (free r List.mem_cons_self nameless)
            cases value with
            | none =>
                refine ⟨{ filled.after r.source with unresolved := r.name :: filled.unresolved }, fun d => ?_⟩
                simp only [fillPieces, if_neg nameless, stands, same]
            | some v =>
                refine ⟨filled.after v, fun d => ?_⟩
                simp only [fillPieces, if_neg nameless, stands, same]

/-- **Filling a template without a built-in draws nothing.** -/
theorem undrawn_fill (vars : Table Text) (free : NamesNoBuiltin builtins template) :
    Undrawn (fill builtins vars template) :=
  undrawn_fillPieces fun _ listed named => free.of_piece listed named

end Template

open Template

/-! ## Requests -/

namespace Preparing

variable {α β : Type} {f : Filler} {t : Flow.RequestTemplate}

theorem undrawn_pure (a : α) : Undrawn (ends (pure a : Preparing α)) := ⟨.ok a, fun _ => rfl⟩

theorem undrawn_bind {m : Preparing α} {k : α → Preparing β} (first : Undrawn (ends m))
    (rest : ∀ a, Undrawn (ends (k a))) : Undrawn (ends (m >>= k)) := by
  obtain ⟨outcome, same⟩ := first
  cases outcome with
  | error e => exact ⟨.error e, fun d => by rw [ends_bind, same]⟩
  | ok a =>
      obtain ⟨outcome, follows⟩ := rest a
      exact ⟨outcome, fun d => by rw [ends_bind, same]; exact follows d⟩

theorem undrawn_mapM {k : α → Preparing β} {l : List α} (each : ∀ a ∈ l, Undrawn (ends (k a))) :
    Undrawn (ends (l.mapM k)) := by
  induction l with
  | nil => exact undrawn_pure []
  | cons a rest ih =>
      obtain ⟨here, others⟩ := List.forall_mem_cons.mp each
      rw [List.mapM_cons]
      exact undrawn_bind here fun _ => undrawn_bind (ih others) fun _ => undrawn_pure _

theorem undrawn_guard (result : Except Fault α) : Undrawn (ends (guard result)) := by
  cases result with
  | ok a => exact undrawn_pure a
  | error x => exact ⟨.error (.fault x), fun _ => rfl⟩

theorem undrawn_fillLoosely {text : Text} (free : NamesNoBuiltin f.builtins text) :
    Undrawn (ends (fillLoosely f text)) := by
  obtain ⟨filled, same⟩ := Template.undrawn_fill f.vars free
  refine ⟨.ok filled.text, fun d => ?_⟩
  rw [fillLoosely, ends_mk, same]

theorem undrawn_fill {text : Text} (free : NamesNoBuiltin f.builtins text) : Undrawn (ends (fill f text)) := by
  obtain ⟨filled, same⟩ := Template.undrawn_fill f.vars free
  unfold fill
  split
  · by_cases closed : openNames f.builtins f.vars text = []
    · refine ⟨.ok filled.text, fun d => ?_⟩
      rw [ends_mk, fillStrict_eq, if_pos closed, same]
    · refine ⟨.error (.refused (.missing (Text.unique (openNames f.builtins f.vars text)))), fun d => ?_⟩
      rw [ends_mk, fillStrict_eq, if_neg closed, same]
  · exact undrawn_fillLoosely free

theorem undrawn_address (base : Text) (url : NamesNoBuiltin f.builtins t.url)
    (queries : ∀ q ∈ t.queries, NamesNoBuiltin f.builtins q) : Undrawn (ends (address f base t)) := by
  refine undrawn_bind (undrawn_fill url) fun filled => ?_
  dsimp only
  split
  · exact undrawn_pure _
  · exact undrawn_bind (undrawn_mapM fun q listed => undrawn_fill (queries q listed)) fun _ => undrawn_guard _

theorem undrawn_defaultHeader {header : Text × Text} (free : NamesNoBuiltin f.builtins header.2) :
    Undrawn (ends (defaultHeader f header)) :=
  undrawn_bind (undrawn_fillLoosely free) fun _ => undrawn_pure _

theorem undrawn_headers {defaults flow : Table Text}
    (layers : ∀ h ∈ defaults ++ flow, NamesNoBuiltin f.builtins h.2)
    (lines : ∀ h ∈ t.headers, NamesNoBuiltin f.builtins h) : Undrawn (ends (headers f defaults flow t)) := by
  obtain ⟨defaultLayer, flowLayer⟩ := List.forall_mem_append.mp layers
  have layer {table : Table Text} (free : ∀ h ∈ table, NamesNoBuiltin f.builtins h.2) :
      Undrawn (ends (table.mapM (defaultHeader f))) :=
    undrawn_mapM fun h listed => undrawn_defaultHeader (free h listed)
  exact undrawn_bind (layer defaultLayer) fun _ => undrawn_bind (layer flowLayer) fun _ =>
    undrawn_bind (undrawn_mapM fun h listed => undrawn_fill (lines h listed)) fun _ => undrawn_pure _

theorem undrawn_fileBody (files : Files.Tree) (place : Text) : Undrawn (ends (fileBody files place)) := by
  unfold fileBody
  split <;> exact ⟨_, fun _ => rfl⟩

theorem undrawn_body (files : Files.Tree) (free : NamesNoBuiltin f.builtins t.body) :
    Undrawn (ends (body f files t)) := by
  unfold body
  split
  · exact undrawn_pure []
  · refine undrawn_bind (undrawn_fill free) fun filled => ?_
    split
    · exact undrawn_fileBody files _
    · exact undrawn_pure _

end Preparing

namespace Assertion

/-- The text that an assertion expects, as it is written. -/
def Form.expected? : Form → Option Text
  | .contains _ _ right => some right
  | .size _ relation? => relation?.map Prod.snd
  | .relation _ _ right => some right
  | .absent _ => none
  | .present _ => none
  | .unreadable => none

/-- The expected text in an assertion, without blanks around it. -/
def expectedIn? (assertion : Text) : Option Text := (Form.ofText (Text.trim assertion)).expected?.map Text.trim

end Assertion

/-- The texts of a request that are filled in: those that are sent, and those that assertions expect. -/
def Flow.RequestTemplate.filledTexts (t : Flow.RequestTemplate) : List Text :=
  [t.url, t.body] ++ t.queries ++ t.headers ++ t.asserts.filterMap Assertion.expectedIn?

/-- **The preparation of a request draws nothing** if none of its texts and of the headers that others add to it names a
built-in. -/
theorem Preparing.undrawn_request {f : Filler} {t : Flow.RequestTemplate} (settings : Settings) (files : Files.Tree)
    {flowHeaders : Table Text} (maxDurationMs : Int)
    (layers : ∀ h ∈ settings.headers ++ flowHeaders, NamesNoBuiltin f.builtins h.2)
    (texts : ∀ text ∈ t.filledTexts, NamesNoBuiltin f.builtins text) :
    Undrawn (ends (request settings files f flowHeaders maxDurationMs t)) := by
  simp only [Flow.RequestTemplate.filledTexts, List.forall_mem_append, List.forall_mem_cons] at texts
  obtain ⟨⟨⟨⟨url, body, -⟩, queries⟩, headers⟩, -⟩ := texts
  exact undrawn_bind (undrawn_address _ url queries) fun _ => undrawn_bind (undrawn_headers layers headers) fun _ =>
    undrawn_bind (undrawn_body files body) fun _ => undrawn_bind (undrawn_guard _) fun _ => undrawn_pure _

/-! ## Assertions -/

namespace Assertion

variable {builtins : Builtins} {vars : Table Text} {subject : Subject}

theorem undrawn_expectedText {raw : Text} (vars : Table Text) (free : NamesNoBuiltin builtins (Text.trim raw)) :
    Undrawn (expectedText builtins vars raw) := by
  obtain ⟨filled, same⟩ := Template.undrawn_fill _ free
  exact ⟨_, fun d => by rw [expectedText, same]⟩

/-- What looks up the left side draws nothing if nothing is drawn for the right side. -/
theorem undrawn_checkValue {left : Text} {decide : Text → Json → Draws → Except Fault Verdict × Draws}
    (decided : ∀ key value, Undrawn (decide key value)) : Undrawn fun d => checkValue subject left d decide := by
  unfold checkValue
  split
  · exact ⟨_, fun _ => rfl⟩
  · exact ⟨_, fun _ => rfl⟩
  · exact decided _ _

theorem Form.undrawn_check {line : Text} {form : Form}
    (free : ∀ right, form.expected? = some right → NamesNoBuiltin builtins (Text.trim right)) :
    Undrawn fun d => form.check builtins vars subject line d := by
  cases form with
  | absent place => exact ⟨_, fun _ => rfl⟩
  | present place => exact ⟨_, fun _ => rfl⟩
  | unreadable => exact ⟨_, fun _ => rfl⟩
  | contains how left right =>
      obtain ⟨expected, same⟩ := undrawn_expectedText vars (free right rfl)
      exact undrawn_checkValue fun key value => ⟨_, fun d => by simp only [same]; rfl⟩
  | relation left r right =>
      obtain ⟨expected, same⟩ := undrawn_expectedText vars (free right rfl)
      exact undrawn_checkValue fun key value => ⟨_, fun d => by simp only [same]; rfl⟩
  | size left relation? =>
      cases relation? with
      | none => exact undrawn_checkValue fun key value => ⟨_, fun _ => rfl⟩
      | some relation =>
          obtain ⟨expected, same⟩ := undrawn_expectedText vars (free relation.2 rfl)
          exact undrawn_checkValue fun key value => ⟨_, fun d => by simp only [same]; rfl⟩

/-- **An assertion is decided without a draw** if the text that it expects names no built-in. -/
theorem undrawn_check {assertion : Text}
    (free : ∀ text, expectedIn? assertion = some text → NamesNoBuiltin builtins text) :
    Undrawn (check builtins vars subject assertion) :=
  Form.undrawn_check fun _ expects => free _ (congrArg (Option.map Text.trim) expects)

end Assertion

end ApiFlow
