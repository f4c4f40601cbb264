import ApiFlow.Proofs.Template.Written
import ApiFlow.Proofs.Text.Search

/-!
# Rendering a template

A template is a row of literals and references.  Filling its text gives back the literals as they are, and for each
reference the value that it stands for, or the reference as it is written.  Values are drawn from left to right, and what
was put in is not read again.

* `runs` : the literals between the references, adjacent ones joined.
* `render` : what becomes of the segments.
* `pieces_textOf` : the text is read back segment by segment.
* `fill_textOf` : filling the text renders the segments.
-/

set_option autoImplicit false

namespace ApiFlow.Template

/-- A part of a template. -/
inductive Segment where
  | literal (text : Text)
  | mention (m : Mention)

/-- A segment as it is written. -/
def Segment.text : Segment → Text
  | literal text => text
  | mention m => m.text

/-- The text of a template. -/
def textOf (segments : List Segment) : Text := segments.flatMap Segment.text

/-- A literal in front of the literals between references. -/
def joinFirst (text : Text) : List Text → List Text
  | [] => [text]
  | run :: more => (text ++ run) :: more

/-- The literals between the references, adjacent ones joined. -/
def runs : List Segment → List Text
  | [] => [[]]
  | .literal text :: rest => joinFirst text (runs rest)
  | .mention _ :: rest => [] :: runs rest

/-- No two opening braces stand side by side in the literals. -/
def NoMarks (segments : List Segment) : Prop := ∀ run ∈ runs segments, Text.occursIn ['{', '{'] run = false

instance (segments : List Segment) : Decidable (NoMarks segments) := List.decidableBAll _ _

/-! ## What a template is rendered to -/

/-- What a reference stands for, and the draws behind it: a built-in comes first, then a variable, then the default. -/
def Mention.value? (builtins : Builtins) (vars : Table Text) (m : Mention) (d : Draws) : Option Text × Draws :=
  if builtins.has m.name then (some (builtins.resolve m.name d).1, (builtins.resolve m.name d).2)
  else ((vars.get? m.name).or (m.default?.map (·.value)), d)

/-- The rendered text, the names of the references that stand for nothing, one for each, and the draws that are left. -/
def render (builtins : Builtins) (vars : Table Text) : List Segment → Draws → Text × List Text × Draws
  | [], d => ([], [], d)
  | .literal text :: rest, d =>
    let (s, open', d) := render builtins vars rest d
    (text ++ s, open', d)
  | .mention m :: rest, d =>
    let (value?, d) := m.value? builtins vars d
    let (s, open', d) := render builtins vars rest d
    match value? with
    | some v => (v ++ s, open', d)
    | none => (m.text ++ s, m.name :: open', d)

/-! ## Reading a template -/

/-- What the reader makes of a segment. -/
def Segment.pieces : Segment → List Piece
  | literal text => text.map .char
  | mention m => [.reference m.toReference]

/-- What stands behind literals: nothing, or a reference. -/
def Opens (s : Text) : Prop := s = [] ∨ ∃ t, s = '{' :: '{' :: t

/-- **A character of a literal begins no reference**, whatever stands behind the literals. -/
theorem reference?_literal {c : Char} {run tail : Text} (free : Text.occursIn ['{', '{'] (c :: run) = false)
    (behind : Opens tail) : reference? (c :: (run ++ tail)) = none := by
  have single : ∀ d s, ¬ (c = '{' ∧ d = '{') → reference? (c :: d :: s) = none := by
    intro d s other
    unfold reference?
    split
    · rename_i whole
      simp only [List.cons.injEq] at whole
      exact absurd ⟨whole.1, whole.2.1⟩ other
    · rfl
  cases run with
  | cons d run =>
      refine single d _ ?_
      rintro ⟨rfl, rfl⟩
      rw [Text.occursIn_cons, Bool.or_eq_false_iff] at free
      exact absurd free.1 (by simp [List.isPrefixOf])
  | nil =>
      rcases behind with rfl | ⟨t, rfl⟩
      · unfold reference?
        split
        · rename_i whole
          cases whole
        · rfl
      · -- three braces in a row: the name of a reference does not begin with a brace
        by_cases brace : c = '{'
        · subst brace
          rfl
        · exact single '{' _ fun both => brace both.1

/-- The text of segments begins with the first run of literals, and a reference stands behind it or nothing. -/
theorem textOf_eq (segments : List Segment) :
    ∃ run more tail, runs segments = run :: more ∧ textOf segments = run ++ tail ∧ Opens tail := by
  induction segments with
  | nil => exact ⟨[], [], [], rfl, rfl, .inl rfl⟩
  | cons segment rest ih =>
      cases segment with
      | mention m => exact ⟨[], runs rest, textOf (.mention m :: rest), rfl, rfl, .inr ⟨_, rfl⟩⟩
      | literal text =>
          obtain ⟨run, more, tail, runs', whole, behind⟩ := ih
          refine ⟨text ++ run, more, tail, by rw [runs, runs', joinFirst], ?_, behind⟩
          rw [textOf, List.flatMap_cons, ← textOf, whole, List.append_assoc]
          rfl

/-- The characters of a literal are read one by one. -/
theorem piecesFrom_literal {text run tail : Text} (free : Text.occursIn ['{', '{'] (text ++ run) = false)
    (behind : Opens tail) :
    piecesFrom 0 (text ++ (run ++ tail)) = text.map .char ++ piecesFrom 0 (run ++ tail) := by
  induction text with
  | nil => rfl
  | cons c text ih =>
      have none : reference? (c :: (text ++ (run ++ tail))) = none := by
        rw [← List.append_assoc]
        exact reference?_literal free behind
      have rest : Text.occursIn ['{', '{'] (text ++ run) = false := by
        rw [List.cons_append, Text.occursIn_cons, Bool.or_eq_false_iff] at free
        exact free.2
      rw [List.cons_append, piecesFrom, none]
      exact congrArg (Piece.char c :: ·) (ih rest)

theorem NoMarks.tail {segment : Segment} {rest : List Segment} (free : NoMarks (segment :: rest)) : NoMarks rest := by
  intro run member
  cases segment with
  | mention m => exact free run (List.mem_cons_of_mem _ member)
  | literal text =>
      obtain ⟨first, more, tail, runs', -, -⟩ := textOf_eq rest
      rw [NoMarks, runs, runs', joinFirst] at free
      rw [runs'] at member
      rcases List.mem_cons.mp member with rfl | member
      · -- a run that is free of the mark stays so without what stands in front of it
        have whole := free _ List.mem_cons_self
        rw [Bool.eq_false_iff, ne_eq, Text.occursIn_iff_infix] at whole ⊢
        exact fun inside => whole (inside.trans (List.suffix_append text run).isInfix)
      · exact free run (List.mem_cons_of_mem _ member)

/-- **The text of a template is read back** segment by segment. -/
theorem pieces_textOf {segments : List Segment} (free : NoMarks segments) :
    pieces (textOf segments) = segments.flatMap Segment.pieces := by
  rw [pieces]
  induction segments with
  | nil => rfl
  | cons segment rest ih =>
      have following := ih free.tail
      cases segment with
      | mention m => exact (pieces_spelled m.spelled (textOf rest)).trans (congrArg (_ :: ·) following)
      | literal text =>
          obtain ⟨run, more, tail, runs', whole, behind⟩ := textOf_eq rest
          have here : Text.occursIn ['{', '{'] (text ++ run) = false :=
            free _ (by rw [runs, runs', joinFirst]; exact List.mem_cons_self)
          have front : textOf (.literal text :: rest) = text ++ (run ++ tail) := by
            rw [← whole]
            rfl
          rw [front, piecesFrom_literal here behind, ← whole, following]
          rfl

/-! ## Filling a template -/

variable {builtins : Builtins} {vars : Table Text}

theorem fillPieces_literal (text : Text) (pieces : List Piece) (d : Draws) :
    fillPieces builtins vars (text.map .char ++ pieces) d =
      ((fillPieces builtins vars pieces d).1.after text, (fillPieces builtins vars pieces d).2) := by
  induction text with
  | nil => rfl
  | cons c text ih =>
      rw [List.map_cons, List.cons_append, fillPieces, ih]
      rfl

/-- A reference that was read back stands for what the written one does. -/
theorem value_toReference (m : Mention) (d : Draws) :
    m.toReference.value builtins vars d = m.value? builtins vars d := by
  rw [Reference.value, Mention.value?]
  change (if builtins.has m.name then _ else _) = _
  by_cases known : builtins.has m.name = true
  · rw [if_pos known, if_pos known]
    rfl
  · rw [if_neg known, if_neg known]
    change (match vars.get? m.name with | some value => (some value, d) | none => _) = _
    cases vars.get? m.name with
    | some value => rfl
    | none =>
        cases fallback : m.default? with
        | none => simp [Mention.toReference, fallback]
        | some f => simp [Mention.toReference, fallback, unescape_keptDefault]

theorem fillPieces_segments (segments : List Segment) (d : Draws) :
    fillPieces builtins vars (segments.flatMap Segment.pieces) d =
      ({ text := (render builtins vars segments d).1, unresolved := (render builtins vars segments d).2.1 },
        (render builtins vars segments d).2.2) := by
  induction segments generalizing d with
  | nil => rfl
  | cons segment rest ih =>
      cases segment with
      | literal text =>
          change fillPieces builtins vars (text.map .char ++ rest.flatMap Segment.pieces) d = _
          rw [fillPieces_literal, ih]
          rfl
      | mention m =>
          change fillPieces builtins vars (.reference m.toReference :: rest.flatMap Segment.pieces) d = _
          have named : m.toReference.name.isEmpty = false := by simpa [Mention.toReference] using m.named
          rw [fillPieces, if_neg (by simp [named]), value_toReference, render]
          dsimp only
          rw [ih]
          cases (m.value? builtins vars d).1 <;> rfl

/-- A text in which no two opening braces stand side by side stays as it is. -/
theorem fill_literal {text : Text} (free : Text.occursIn ['{', '{'] text = false) (d : Draws) :
    fill builtins vars text d = ({ text := text }, d) := by
  have noMarks : NoMarks [.literal text] := by simpa [NoMarks, runs, joinFirst] using free
  have read := pieces_textOf noMarks
  rw [show textOf [.literal text] = text by simp [textOf, Segment.text]] at read
  rw [fill, read, fillPieces_segments]
  simp [render]

/-- A text without opening braces stays as it is. -/
theorem fill_braceless {text : Text} (braceless : '{' ∉ text) (d : Draws) :
    fill builtins vars text d = ({ text := text }, d) := by
  refine fill_literal ?_ d
  rw [Bool.eq_false_iff, ne_eq, Text.occursIn_iff_infix]
  exact fun inside => braceless (inside.subset List.mem_cons_self)

/-- **Filling the text of a template renders its segments**, if no two opening braces stand side by side in its
literals. -/
theorem fill_textOf {segments : List Segment} (free : NoMarks segments) (builtins : Builtins) (vars : Table Text)
    (d : Draws) :
    fill builtins vars (textOf segments) d =
      ({ text := (render builtins vars segments d).1, unresolved := (render builtins vars segments d).2.1 },
        (render builtins vars segments d).2.2) := by
  rw [fill, pieces_textOf free, fillPieces_segments]

/-- One blank. -/
def blank : Blanks := { text := [' '], blank := List.all_eq_true.mp (by decide) }

/-- No blank. -/
def noBlank : Blanks := { text := [], blank := List.all_eq_true.mp (by decide) }

/-- A default with a quote in it and a backslash at its end. -/
def boss : WrittenDefault :=
  { value := "the \"boss\\".toList, afterBar := blank, beforeQuote := noBlank, afterQuote := blank, braceless := by decide }

/-- A reference without default. -/
def bare (before : Blanks) (name : Text) (after : Blanks)
    (good : name ≠ [] ∧ Text.trim name = name ∧ name.all isNameChar = true) : Mention :=
  { before, name, after, default? := none, named := good.1, trimmed := good.2.1, nameChars := List.all_eq_true.mp good.2.2 }

/-- A template with a brace in front of a reference, a default that ends in a quote and a backslash, a variable whose
value looks like a reference, two draws, and a reference that stands for nothing. -/
def orderLine : List Segment :=
  [.literal r"to: {",
    .mention { bare blank "name".toList noBlank (by decide) with default? := some boss },
    .literal r"}", .literal " at ", .mention (bare noBlank "place".toList noBlank (by decide)),
    .literal " #", .mention (bare noBlank "$randomInt".toList noBlank (by decide)),
    .literal "-", .mention (bare noBlank "$randomInt".toList blank (by decide)),
    .literal " for ", .mention (bare blank "total price".toList blank (by decide))]

/-- The template is rendered with two different numbers; the value of the variable is not read again. -/
theorem fill_textOf_orderLine :
    NoMarks orderLine ∧
      fill { nowNs := 0, env := [], uuid := fun _ => [], token := fun _ => [] }
          [("place".toList, "{{name}}".toList)] (textOf orderLine) { seed := 1 } =
        ({ text := r#"to: {the "boss\} at {{name}} #7590-1575 for {{ total price }}"#.toList,
           unresolved := ["total price".toList] }, { seed := 377401575 }) := by
  have free : NoMarks orderLine := by decide
  exact ⟨free, (fill_textOf free _ _ _).trans (by decide +kernel)⟩

end ApiFlow.Template
