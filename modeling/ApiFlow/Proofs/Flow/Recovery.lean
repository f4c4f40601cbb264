import ApiFlow.Proofs.Flow.Sequel
import ApiFlow.Proofs.Number.Digits

/-!
# Reading past what is malformed

A number that cannot be read stops the reading of a document, and nothing else does.  Keys that no directive has count
for nothing, junk behind a number is passed over, a type that no step has is taken for `http`, a request that cannot be
read is left empty, and a block that is never closed is left out.

* `Step.ofBlock_ok_iff` : when a step can be read, and what is read.
* `Reading.block_gains`, `Reading.block_stops` : what a block adds to a reading, and when it stops the reading.
* `Recovered` : what is read from a text, malformed or not.
* `ofText_recovers` : when a document can be read, and how it makes up for what is malformed.
-/

set_option autoImplicit false

namespace ApiFlow.Flow

/-! ## Directives -/

/-- The directives that set a number, with the fields that they set. -/
def numberFields : List (Text × (StepHeader → Nat → StepHeader)) := [
  ("retry", fun h n => { h with retry := n }),
  ("retry-wait", fun h n => { h with retryWaitMs := n }),
  ("max-duration", fun h n => { h with maxDurationMs := n }),
  ("wait", fun h n => { h with waitMs := n }),
  ("timeout", fun h n => { h with timeoutMs := n }),
  ("poll-timeout", fun h n => { h with pollTimeoutMs := n }),
  ("poll-interval", fun h n => { h with pollIntervalMs := n })]

/-- The keys of the directives that set a number. -/
def numberKeys : List Text := numberFields.map Prod.fst

/-- The keys of the other directives with an effect. -/
def otherKeys : List Text := ["id", "name", "type", "on-fail"]

/-- Every number that directives set can be read. -/
def NumbersReadable (entries : List (Text × Text)) : Prop :=
  ∀ e ∈ entries, e.1 ∈ numberKeys → Integer.Readable (leadingDigits e.2)

instance (entries : List (Text × Text)) : Decidable (NumbersReadable entries) :=
  inferInstanceAs (Decidable (∀ e ∈ entries, e.1 ∈ numberKeys → Integer.Readable (leadingDigits e.2)))

/-- What the last directive of a key says; empty if there is none. -/
def textOf (entries : List (Text × Text)) (key : Text) : Text := (Table.last? entries key).getD []

/-- The number in front of what the last directive of a key says; zero if there is none. -/
def numberOf (entries : List (Text × Text)) (key : Text) : Nat := Integer.spelled (leadingDigits (textOf entries key))

/-- The type that directives give a step. -/
def typeGiven (entries : List (Text × Text)) : Text := ((Table.last? entries "type").map Text.lower).getD "http".toList

/-- What directives set. -/
def settingsOf (entries : List (Text × Text)) : StepHeader where
  id := textOf entries "id"
  name := textOf entries "name"
  retry := numberOf entries "retry"
  retryWaitMs := numberOf entries "retry-wait"
  maxDurationMs := numberOf entries "max-duration"
  waitMs := numberOf entries "wait"
  timeoutMs := numberOf entries "timeout"
  pollTimeoutMs := numberOf entries "poll-timeout"
  pollIntervalMs := numberOf entries "poll-interval"
  onFail := textOf entries "on-fail"

/-- A warning for each directive without effect. -/
def onFailWarnings (line : Nat) (entries : List (Text × Text)) : List Text :=
  (entries.filter fun e => e.1 = "on-fail".toList).map fun _ => onFailWarning line

/-- A draft to which directives have been applied. -/
def draftOf (line : Nat) (entries : List (Text × Text)) : HeadDraft :=
  ⟨typeGiven entries, settingsOf entries, onFailWarnings line entries⟩

section

variable (entries : List (Text × Text)) (key value : Text)

theorem last?_concat (other : Text) :
    Table.last? (entries ++ [(key, value)]) other = if key = other then some value else Table.last? entries other := by
  have single : Table.last? [(key, value)] other = if key = other then some value else none := rfl
  rw [Table.last?_append, single]
  split <;> rfl

theorem textOf_concat (other : Text) :
    textOf (entries ++ [(key, value)]) other = if key = other then value else textOf entries other := by
  rw [textOf, last?_concat]
  split <;> rfl

theorem numberOf_concat (other : Text) :
    numberOf (entries ++ [(key, value)]) other =
      if key = other then Integer.spelled (leadingDigits value) else numberOf entries other := by
  rw [numberOf, textOf_concat]
  split <;> rfl

theorem typeGiven_concat :
    typeGiven (entries ++ [(key, value)]) = if key = "type".toList then Text.lower value else typeGiven entries := by
  rw [typeGiven, last?_concat]
  split <;> rfl

theorem onFailWarnings_concat (line : Nat) :
    onFailWarnings line (entries ++ [(key, value)]) =
      if key = "on-fail".toList then onFailWarnings line entries ++ [onFailWarning line]
      else onFailWarnings line entries := by
  simp only [onFailWarnings, List.filter_append, List.map_append, List.filter_cons, List.filter_nil, decide_eq_true_eq]
  split
  · rfl
  · exact List.append_nil _

end

theorem number_ok_iff {d d' : HeadDraft} {value : Text} {set : StepHeader → Nat → StepHeader} :
    d.number value set = .ok d' ↔ Integer.Readable (leadingDigits value) ∧
      d' = { d with header := set d.header (Integer.spelled (leadingDigits value)) } := by
  unfold HeadDraft.number
  split
  · rename_i n found
    obtain ⟨readable, rfl⟩ := leadingNumber_ok_iff.mp found
    rw [Except.ok.injEq, and_iff_right readable, eq_comm]
  · rename_i e refused
    refine iff_of_false nofun fun ⟨readable, _⟩ => ?_
    cases refused.symm.trans (leadingNumber_ok_iff.mpr ⟨readable, rfl⟩)

section

variable {field : Text × (StepHeader → Nat → StepHeader)} (listed : field ∈ numberFields)
include listed

theorem apply_number (line : Nat) (d : HeadDraft) (value : Text) :
    d.apply line (field.1, value) = d.number value field.2 := by
  revert field
  simp only [numberFields, List.forall_mem_cons]
  exact ⟨rfl, rfl, rfl, rfl, rfl, rfl, rfl, nofun⟩

theorem settingsOf_number (entries : List (Text × Text)) (value : Text) :
    settingsOf (entries ++ [(field.1, value)]) =
      field.2 (settingsOf entries) (Integer.spelled (leadingDigits value)) := by
  revert field
  simp [numberFields, settingsOf, textOf_concat, numberOf_concat]

theorem draftOf_number (line : Nat) (entries : List (Text × Text)) (value : Text) :
    draftOf line (entries ++ [(field.1, value)]) =
      { draftOf line entries with
        header := field.2 (settingsOf entries) (Integer.spelled (leadingDigits value)) } := by
  have apart : field.1 ≠ "type".toList ∧ field.1 ≠ "on-fail".toList := by
    revert field
    simp [numberFields]
  rw [draftOf, settingsOf_number listed, typeGiven_concat, if_neg apart.1, onFailWarnings_concat, if_neg apart.2,
    draftOf]

end

/-- A directive that sets no number is never malformed. -/
theorem apply_other {key : Text} (other : key ∉ numberKeys) (line : Nat) (entries : List (Text × Text))
    (value : Text) :
    (draftOf line entries).apply line (key, value) = .ok (draftOf line (entries ++ [(key, value)])) := by
  simp only [numberKeys, numberFields, List.map_cons, List.map_nil, List.mem_cons, List.not_mem_nil, or_false,
    not_or] at other
  have next : draftOf line (entries ++ [(key, value)]) =
      { type := if key = "type".toList then Text.lower value else typeGiven entries
        header := { settingsOf entries with
          id := if key = "id".toList then value else textOf entries "id"
          name := if key = "name".toList then value else textOf entries "name"
          onFail := if key = "on-fail".toList then value else textOf entries "on-fail" }
        warnings := if key = "on-fail".toList then onFailWarnings line entries ++ [onFailWarning line]
          else onFailWarnings line entries } := by
    simp only [draftOf, settingsOf, textOf_concat, numberOf_concat, typeGiven_concat, onFailWarnings_concat, other,
      if_false]
  rw [next]
  by_cases known : key ∈ otherKeys
  · simp only [otherKeys, List.mem_cons, List.not_mem_nil, or_false] at known
    rcases known with rfl | rfl | rfl | rfl <;> rfl
  · simp only [otherKeys, List.mem_cons, List.not_mem_nil, or_false, not_or] at known
    simp only [HeadDraft.apply, draftOf, settingsOf, other, known, if_false]

/-- **A directive can be applied** unless it sets a number that cannot be read. -/
theorem apply_draftOf_ok_iff {line : Nat} {entries : List (Text × Text)} {e : Text × Text} {d : HeadDraft} :
    (draftOf line entries).apply line e = .ok d ↔
      (e.1 ∈ numberKeys → Integer.Readable (leadingDigits e.2)) ∧ d = draftOf line (entries ++ [e]) := by
  obtain ⟨key, value⟩ := e
  by_cases number : key ∈ numberKeys
  · obtain ⟨field, listed, rfl⟩ := List.mem_map.mp number
    rw [apply_number listed, number_ok_iff, draftOf_number listed, imp_iff_right number]
    rfl
  · rw [apply_other number, Except.ok.injEq, and_iff_right fun listed => absurd listed number, eq_comm]

theorem foldlM_apply_ok_iff {line : Nat} {before entries : List (Text × Text)} {d : HeadDraft} :
    entries.foldlM (HeadDraft.apply line) (draftOf line before) = .ok d ↔
      NumbersReadable entries ∧ d = draftOf line (before ++ entries) := by
  induction entries generalizing before with
  | nil =>
      have none : NumbersReadable [] := nofun
      rw [List.append_nil, and_iff_right none, eq_comm (a := d)]
      exact iff_of_eq (Except.ok.injEq _ _)
  | cons e entries ih =>
      have both : NumbersReadable (e :: entries) ↔
          (e.1 ∈ numberKeys → Integer.Readable (leadingDigits e.2)) ∧ NumbersReadable entries :=
        List.forall_mem_cons
      simp only [foldlM_cons_ok_iff, apply_draftOf_ok_iff]
      constructor
      · rintro ⟨_, ⟨here, rfl⟩, rest⟩
        obtain ⟨readable, rfl⟩ := ih.mp rest
        exact ⟨both.mpr ⟨here, readable⟩, by rw [List.append_assoc, List.singleton_append]⟩
      · rintro ⟨readable, rfl⟩
        obtain ⟨here, readable⟩ := both.mp readable
        exact ⟨_, ⟨here, rfl⟩, ih.mpr ⟨readable, by rw [List.append_assoc, List.singleton_append]⟩⟩

/-! ## Steps -/

/-- The step that a block gives if its numbers can be read. -/
def Block.step (b : Block) : Step :=
  { settingsOf (headDirectives b.raw) with
    line := b.line
    raw := b.raw
    action :=
      if typeGiven (headDirectives b.raw) = "exec".toList then .run (ContentDraft.ofBlock b.raw).command
      else .send ((ContentDraft.ofBlock b.raw).send b.line).1 }

/-- The warnings about a step block. -/
def Block.warnings (b : Block) : List Text :=
  onFailWarnings b.line (headDirectives b.raw) ++
    if typeGiven (headDirectives b.raw) = "exec".toList then []
    else typeWarnings (typeGiven (headDirectives b.raw)) b.line ++ ((ContentDraft.ofBlock b.raw).send b.line).2

/-- **A step can be read exactly if its numbers can.** -/
theorem Step.ofBlock_ok_iff {b : Block} {read : Step × List Text} :
    Step.ofBlock b.raw b.line = .ok read ↔ NumbersReadable (headDirectives b.raw) ∧ read = (b.step, b.warnings) := by
  have start : ({} : HeadDraft) = draftOf b.line [] := rfl
  have folded (d : HeadDraft) :
      (headDirectives b.raw).foldlM (HeadDraft.apply b.line) (draftOf b.line []) = .ok d ↔
        NumbersReadable (headDirectives b.raw) ∧ d = draftOf b.line (headDirectives b.raw) := foldlM_apply_ok_iff
  unfold Step.ofBlock
  rw [start]
  split
  · rename_i e refused
    refine iff_of_false nofun fun ⟨readable, _⟩ => ?_
    cases refused.symm.trans ((folded _).mpr ⟨readable, rfl⟩)
  · rename_i head applied
    obtain ⟨readable, rfl⟩ := (folded head).mp applied
    rw [and_iff_right readable, eq_comm (a := read)]
    unfold Block.step Block.warnings
    dsimp only [draftOf]
    by_cases exec : typeGiven (headDirectives b.raw) = "exec".toList
    · simp only [exec, if_true, List.append_nil]
      exact iff_of_eq (Except.ok.injEq _ _)
    · simp only [exec, if_false, ← List.append_assoc]
      exact iff_of_eq (Except.ok.injEq _ _)

/-! ## How a step makes up for what is malformed -/

/-- The warning about a request that cannot be read. -/
def requestWarning (line : Nat) (e : RequestError) : Text := "step at line " ++ Text.ofNat line ++ ": " ++ e.message

/-- The request that a text holds: none if the text is empty, and none but a warning if it cannot be read. -/
inductive RequestRecovered (line : Nat) (warnings : List Text) : Text → RequestTemplate → Prop
  | blank : RequestRecovered line warnings [] {}
  | whole {text : Text} {r : RequestTemplate} (some : text ≠ []) (read : RequestTemplate.ofBlock text = .ok r) :
      RequestRecovered line warnings text r
  | refused {text : Text} {e : RequestError} (some : text ≠ []) (failed : RequestTemplate.ofBlock text = .error e)
      (warned : requestWarning line e ∈ warnings) : RequestRecovered line warnings text {}

/-- What a step says of its block, with the warnings about it: the last directive of a key counts, unknown keys count
for nothing, numbers are read as far as they go, a type that no step has is taken for `http`, and a request that
cannot be read is left empty, without its captures and assertions being lost. -/
structure StepRecovered (warnings : List Text) (b : Block) (s : Step) : Prop where
  line : s.line = b.line
  raw : s.raw = b.raw
  settings : s.toStepHeader = { settingsOf (headDirectives b.raw) with id := s.id }
  command : typeGiven (headDirectives b.raw) = "exec".toList → s.action = .run (ContentDraft.ofBlock b.raw).command
  request : typeGiven (headDirectives b.raw) ≠ "exec".toList →
    ∃ r, RequestRecovered b.line warnings (ContentDraft.ofBlock b.raw).requestText r ∧
      s.action = .send { r with
        captures := r.captures ++ (ContentDraft.ofBlock b.raw).captures
        asserts := r.asserts ++ (ContentDraft.ofBlock b.raw).asserts }
  type : ∀ w ∈ typeWarnings (typeGiven (headDirectives b.raw)) b.line, w ∈ warnings
  onFail : ∀ w ∈ onFailWarnings b.line (headDirectives b.raw), w ∈ warnings

theorem send_recovered {content : ContentDraft} {line : Nat} {warnings : List Text}
    (given : ∀ w ∈ (content.send line).2, w ∈ warnings) :
    ∃ r, RequestRecovered line warnings content.requestText r ∧
      (content.send line).1 = { r with
        captures := r.captures ++ content.captures
        asserts := r.asserts ++ content.asserts } := by
  unfold ContentDraft.send at given ⊢
  by_cases none : content.requestText = []
  · exact ⟨{}, by rw [none]; exact .blank, by simp [none]⟩
  · rw [if_neg (by simpa using none)] at given ⊢
    cases read : RequestTemplate.ofBlock content.requestText with
    | ok r => exact ⟨r, .whole none read, rfl⟩
    | error e =>
        rw [read] at given
        exact ⟨{}, .refused none read (given _ List.mem_cons_self), rfl⟩

theorem numbered_eq (s : Step) (place : Nat) : s.numbered place = { s with id := assignedId s.id place } := by
  unfold Step.numbered assignedId
  split <;> rfl

theorem Block.step_recovered {b : Block} {warnings : List Text} (given : ∀ w ∈ b.warnings, w ∈ warnings)
    (place : Nat) : StepRecovered warnings b (b.step.numbered place) := by
  rw [numbered_eq]
  have sent (http : typeGiven (headDirectives b.raw) ≠ "exec".toList) (w : Text)
      (listed : w ∈ typeWarnings (typeGiven (headDirectives b.raw)) b.line ∨
        w ∈ ((ContentDraft.ofBlock b.raw).send b.line).2) : w ∈ warnings :=
    given w (by rw [Block.warnings, if_neg http]; exact List.mem_append_right _ (List.mem_append.mpr listed))
  constructor
  case line => rfl
  case raw => rfl
  case settings => rfl
  case command => exact fun exec => if_pos exec
  case request =>
    intro http
    obtain ⟨r, recovered, same⟩ := send_recovered fun w listed => sent http w (.inr listed)
    exact ⟨r, recovered, (if_neg http).trans (congrArg Action.send same)⟩
  case type =>
    intro w listed
    by_cases exec : typeGiven (headDirectives b.raw) = "exec".toList
    · rw [exec] at listed
      cases listed
    · exact sent exec w (.inl listed)
  case onFail => exact fun w listed => given w (List.mem_append_left _ listed)

theorem steps_recovered {found : List Block} {warnings : List Text}
    (given : ∀ w ∈ found.flatMap Block.warnings, w ∈ warnings) (place : Nat) :
    List.Forall₂ (StepRecovered warnings) found (numberStepsFrom place (found.map Block.step)) := by
  induction found generalizing place with
  | nil => exact .nil
  | cons b found ih =>
      rw [List.flatMap_cons] at given
      exact .cons (Block.step_recovered (fun w listed => given w (List.mem_append_left _ listed)) place)
        (ih (fun w listed => given w (List.mem_append_right _ listed)) (place + 1))

/-! ## Blocks -/

/-- A block that can be read: any but a step with a number that cannot. -/
def Block.Readable (b : Block) : Prop := b.kind = "step".toList → NumbersReadable (headDirectives b.raw)

instance (b : Block) : Decidable b.Readable :=
  inferInstanceAs (Decidable (b.kind = "step".toList → NumbersReadable (headDirectives b.raw)))

/-- The blocks that hold steps. -/
def stepBlocks (found : List Block) : List Block := found.filter fun b => b.kind = "step".toList

/-- Whether an edge has both ends. -/
def Edge.hasEnds (e : Edge) : Bool := !(e.source.isEmpty || e.target.isEmpty)

/-- The edges that blocks hold, apart from those without both ends. -/
def edgesOf (found : List Block) : List Edge :=
  ((found.filter fun b => b.kind = "edge".toList).map fun b => Edge.ofBlock b.raw b.line).filter Edge.hasEnds

/-- Whether a block is a plain request. -/
def Block.isPlain (b : Block) : Bool := isPlainKind b.kind || b.kind = "flow".toList && !isMetaBlock b.raw

/-- The plain requests among blocks. -/
def plainOf (found : List Block) : List PlainRequest :=
  (found.filter Block.isPlain).map fun b => ⟨b.line, b.raw, true⟩

/-- What a reading gains from blocks. -/
structure Reading.Gains (found : List Block) (r r' : Reading) : Prop where
  steps : r'.document.steps = r.document.steps ++ (stepBlocks found).map Block.step
  warnings : r'.document.warnings = r.document.warnings ++ (stepBlocks found).flatMap Block.warnings
  edges : r'.document.edges = r.document.edges ++ edgesOf found
  plain : r'.plain = r.plain ++ plainOf found
  notes : r.notes <+: r'.notes

namespace Reading

theorem Gains.append {one two : List Block} {r r' r'' : Reading} (first : Gains one r r') (second : Gains two r' r'') :
    Gains (one ++ two) r r'' where
  steps := by rw [second.steps, first.steps, stepBlocks, stepBlocks, stepBlocks]; simp
  warnings := by rw [second.warnings, first.warnings, stepBlocks, stepBlocks, stepBlocks]; simp
  edges := by rw [second.edges, first.edges, edgesOf, edgesOf, edgesOf]; simp
  plain := by rw [second.plain, first.plain, plainOf, plainOf, plainOf]; simp
  notes := first.notes.trans second.notes

/-- What a reading gains from one block. -/
theorem gains_single {b : Block} {r r' : Reading}
    (steps : r'.document.steps = r.document.steps ++ if b.kind = "step".toList then [b.step] else [])
    (warnings : r'.document.warnings = r.document.warnings ++ if b.kind = "step".toList then b.warnings else [])
    (edges : r'.document.edges = r.document.edges ++
      if b.kind = "edge".toList then [Edge.ofBlock b.raw b.line].filter Edge.hasEnds else [])
    (plain : r'.plain = r.plain ++ if b.isPlain then [⟨b.line, b.raw, true⟩] else [])
    (notes : r.notes <+: r'.notes) : Gains [b] r r' where
  steps := by rw [steps, stepBlocks]; split <;> rename_i kind <;> simp [-String.reduceToList, kind]
  warnings := by rw [warnings, stepBlocks]; split <;> rename_i kind <;> simp [-String.reduceToList, kind]
  edges := by rw [edges, edgesOf]; split <;> rename_i kind <;> simp [-String.reduceToList, kind]
  plain := by rw [plain, plainOf]; split <;> rename_i kind <;> simp [kind]
  notes := notes

/-- **A block that can be read is taken in.** -/
theorem block_gains {b : Block} (readable : b.Readable) (r : Reading) : ∃ r', r.block b = .ok r' ∧ Gains [b] r r' := by
  have same {α : Type} {kind : Prop} [Decidable kind] (other : ¬kind) (old new : List α) :
      old = old ++ if kind then new else [] := by rw [if_neg other, List.append_nil]
  have more {α : Type} {kind : Prop} [Decidable kind] (this : kind) (old new : List α) :
      old ++ new = old ++ if kind then new else [] := by rw [if_pos this]
  unfold Reading.block
  by_cases flow : b.kind = "flow".toList
  · have step : b.kind ≠ "step".toList := by rw [flow]; decide
    have edge : b.kind ≠ "edge".toList := by rw [flow]; decide
    have plain : b.isPlain = !isMetaBlock b.raw := by rw [Block.isPlain, flow]; rfl
    rw [if_pos flow]
    by_cases info : isMetaBlock b.raw = true
    · rw [if_pos info]
      exact ⟨_, rfl, gains_single (same step _ _) (same step _ _) (same edge _ _) (same (by simp [plain, info]) _ _)
        List.prefix_rfl⟩
    · rw [if_neg info]
      exact ⟨_, rfl, gains_single (same step _ _) (same step _ _) (same edge _ _) (more (by simp [plain, info]) _ _)
        List.prefix_rfl⟩
  · rw [if_neg flow]
    have plain : b.isPlain = isPlainKind b.kind := by rw [Block.isPlain, decide_eq_false flow]; simp
    by_cases step : b.kind = "step".toList
    · have edge : b.kind ≠ "edge".toList := by rw [step]; decide
      rw [if_pos step, Step.ofBlock_ok_iff.mpr ⟨readable step, rfl⟩]
      exact ⟨_, rfl, gains_single (more step _ _) (more step _ _) (same edge _ _)
        (same (by rw [plain, step]; decide) _ _) (List.prefix_append _ _)⟩
    · rw [if_neg step]
      by_cases edge : b.kind = "edge".toList
      · rw [if_pos edge]
        have none : ¬b.isPlain = true := by rw [plain, edge]; decide
        refine ⟨_, rfl, ?_⟩
        unfold addEdge
        split
        · rename_i half
          have dropped : [Edge.ofBlock b.raw b.line].filter Edge.hasEnds = [] :=
            List.filter_cons_of_neg (by rw [Edge.hasEnds, half]; decide)
          exact gains_single (same step _ _) (same step _ _) (by rw [if_pos edge, dropped, List.append_nil])
            (same none _ _) (List.prefix_append _ _)
        · rename_i whole
          have kept : [Edge.ofBlock b.raw b.line].filter Edge.hasEnds = [Edge.ofBlock b.raw b.line] :=
            List.filter_cons_of_pos (by rw [Edge.hasEnds, Bool.eq_false_iff.mpr whole]; rfl)
          exact gains_single (same step _ _) (same step _ _) (by rw [if_pos edge, kept]) (same none _ _)
            List.prefix_rfl
      · rw [if_neg edge]
        split
        · rename_i kind
          exact ⟨_, rfl, gains_single (same step _ _) (same step _ _) (same edge _ _) (more (plain.trans kind) _ _)
            List.prefix_rfl⟩
        · rename_i kind
          exact ⟨_, rfl, gains_single (same step _ _) (same step _ _) (same edge _ _) (same (plain ▸ kind) _ _)
            List.prefix_rfl⟩

/-- A block that cannot be read stops the reading. -/
theorem block_stops {b : Block} (unreadable : ¬b.Readable) (r : Reading) : ∃ e, r.block b = .error e := by
  obtain ⟨step, unreadable⟩ := Classical.not_imp.mp unreadable
  have apart : b.kind ≠ "flow".toList := by rw [step]; decide
  unfold Reading.block
  rw [if_neg apart, if_pos step]
  split
  · rename_i s warnings read
    exact absurd (Step.ofBlock_ok_iff.mp read).1 unreadable
  · exact ⟨_, rfl⟩

theorem foldlM_gains {found : List Block} (readable : ∀ b ∈ found, b.Readable) (r : Reading) :
    ∃ r', found.foldlM Reading.block r = .ok r' ∧ Gains found r r' := by
  induction found generalizing r with
  | nil =>
      refine ⟨r, rfl, ?_⟩
      constructor <;> simp [stepBlocks, edgesOf, plainOf]
  | cons b found ih =>
      obtain ⟨here, others⟩ := List.forall_mem_cons.mp readable
      obtain ⟨next, first, one⟩ := block_gains here r
      obtain ⟨last, rest, more⟩ := ih others next
      exact ⟨last, foldlM_cons_ok_iff.mpr ⟨next, first, rest⟩, one.append more⟩

theorem foldlM_readable {found : List Block} {r r' : Reading} (read : found.foldlM Reading.block r = .ok r') :
    ∀ b ∈ found, b.Readable := by
  induction found generalizing r with
  | nil => nofun
  | cons b found ih =>
      obtain ⟨next, first, rest⟩ := foldlM_cons_ok_iff.mp read
      refine List.forall_mem_cons.mpr ⟨?_, ih rest⟩
      by_contra unreadable
      obtain ⟨e, stopped⟩ := block_stops unreadable r
      cases stopped.symm.trans first

end Reading

/-! ## Documents -/

/-- What is read from a text: one step for each step block, in order; the edges with two ends; the plain requests; and
a note about a block that is never closed, in front of all other notes. -/
structure Recovered (content : Text) (r : Reading) : Prop where
  steps : List.Forall₂ (StepRecovered r.document.warnings) (stepBlocks (blocks content)) r.document.steps
  edges : r.document.edges = edgesOf (blocks content)
  plain : r.plain = plainOf (blocks content)
  notes : fenceNotes content <+: r.notes

/-- **A document can be read exactly if every number that a step sets can**, and then it makes up for all else that is
malformed. -/
theorem ofText_recovers (content : Text) :
    ((∃ r, Reading.ofText content = .ok r) ↔ ∀ b ∈ blocks content, b.Readable) ∧
      ∀ r, Reading.ofText content = .ok r → Recovered content r := by
  refine ⟨⟨fun ⟨r, read⟩ => ?_, fun readable => ?_⟩, fun r read => ?_⟩
  · obtain ⟨own, folded, -⟩ := ofText_ok_iff.mp read
    exact Reading.foldlM_readable folded
  · obtain ⟨own, folded, -⟩ := Reading.foldlM_gains readable { notes := fenceNotes content }
    exact ⟨own.numbered, ofText_ok_iff.mpr ⟨own, folded, rfl⟩⟩
  · obtain ⟨own, folded, rfl⟩ := ofText_ok_iff.mp read
    obtain ⟨own', again, gains⟩ := Reading.foldlM_gains (Reading.foldlM_readable folded) { notes := fenceNotes content }
    cases folded.symm.trans again
    have warnings : own.document.warnings = (stepBlocks (blocks content)).flatMap Block.warnings := gains.warnings
    have steps : own.document.steps = (stepBlocks (blocks content)).map Block.step := gains.steps
    refine ⟨?_, gains.edges, gains.plain, gains.notes⟩
    have numbered : own.numbered.document.steps =
        numberStepsFrom 1 ((stepBlocks (blocks content)).map Block.step) := steps ▸ rfl
    rw [numbered]
    exact steps_recovered (fun w listed => warnings ▸ listed) 1

/-- A step with junk for numbers, a key and a type that do not exist and no request line, and a block without an end. -/
def damaged : Text :=
  "~~~step\n@retry 3x\n@wait soon\n@timeout ٤٢ms\n@colour red\n@type odd\nGET\n[Captures]\na: body.a\n~~~\n" ++
    "~~~step\nGET /b"

/-- A damaged document is read. -/
theorem ofText_recovers_damaged :
    (∀ b ∈ blocks damaged, b.Readable) ∧ ∃ r, Reading.ofText damaged = .ok r ∧ Recovered damaged r := by
  have succeeds : (Reading.ofText damaged).isOk = true := by decide +kernel
  obtain ⟨r, read⟩ : ∃ r, Reading.ofText damaged = .ok r := by
    cases read : Reading.ofText damaged with
    | ok r => exact ⟨r, rfl⟩
    | error e =>
        rw [read] at succeeds
        cases succeeds
  exact ⟨(ofText_recovers damaged).1.mp ⟨r, read⟩, r, read, (ofText_recovers damaged).2 r read⟩

/-- A step with a superscript for a number. -/
def squared : Text := "~~~step\n@retry ²\nGET /a\n~~~\n"

/-- **A digit sign without a decimal value stops the reading**, though junk that is no digit would count as zero. -/
theorem ofText_squared : Reading.ofText squared = .error ⟨.literal 10 "²".toList, []⟩ := by
  decide +kernel

end ApiFlow.Flow
