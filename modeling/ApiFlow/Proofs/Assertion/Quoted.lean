import ApiFlow.Proofs.Assertion.KeyLine
import ApiFlow.Proofs.Json.RoundTrip
import ApiFlow.Proofs.Template.Rendering

/-!
# Texts between quotes

Quotes set nothing apart in an assertion: they are taken off the expected text at the end, when the line has been read
and references have been filled in.  So a line on equality judges a response by the quoted text exactly if the line is
read as it is meant and the text is not worked out to another one.

* `Undisturbed` : no word that a line is searched for stands in the text, and it is its own value.
* `check_quoted` : a quoted text in which no such word stands is compared with the text under the key.
* `decides_quoted_iff` : the line judges every response by its text exactly if the quoted text is undisturbed.
* `quoted_texts_are_read` : three texts that are not compared as they stand.
-/

set_option autoImplicit false

namespace ApiFlow.Assertion

/-- A text between quotes. -/
def quoted (s : Text) : Text := '"' :: (s ++ ['"'])

/-- A text without quotes and opening braces, which may stand between quotes. -/
structure IsQuotable (s : Text) : Prop where
  noQuote : ∀ c ∈ s, Arithmetic.isQuote c = false
  noBrace : '{' ∉ s

/-- A word between blanks, as a line is searched for it. -/
def spaced (word : Text) : Text := ' ' :: word ++ [' ']

/-- Nothing that a line with this relation is searched for stands in the text. -/
structure WordFree (r : Relation) (s : Text) : Prop where
  noForm : ∀ w ∈ formWords, Text.occursIn (spaced w) s = false
  noEquals : r = .unequal → Text.occursIn (spaced Relation.equal.symbol) s = false

/-- The text is compared as it stands: no searched word stands in it, and if it is arithmetic it is its own value. -/
structure Undisturbed (r : Relation) (s : Text) : Prop where
  wordFree : WordFree r s
  fixed : worked s = s

variable {k s v : Text} {r : Relation}

instance (s : Text) : Decidable (IsQuotable s) :=
  letI := List.decidableBAll (fun c => Arithmetic.isQuote c = false) s
  decidable_of_iff ((∀ c ∈ s, Arithmetic.isQuote c = false) ∧ '{' ∉ s) ⟨fun p => ⟨p.1, p.2⟩, fun p => ⟨p.1, p.2⟩⟩

instance (r : Relation) (s : Text) : Decidable (WordFree r s) :=
  decidable_of_iff
    ((∀ w ∈ formWords, Text.occursIn (spaced w) s = false) ∧
      (r = .unequal → Text.occursIn (spaced Relation.equal.symbol) s = false))
    ⟨fun p => ⟨p.1, p.2⟩, fun p => ⟨p.1, p.2⟩⟩

instance (r : Relation) (s : Text) : Decidable (Undisturbed r s) :=
  decidable_of_iff (WordFree r s ∧ worked s = s) ⟨fun p => ⟨p.1, p.2⟩, fun p => ⟨p.1, p.2⟩⟩

/-! ## The quoted text -/

theorem operand_quoted (s : Text) : Operand (quoted s) where
  some := by simp [quoted]
  starts := by intro c first; cases first; decide
  ends := Text.solidEnd_append ('"' :: s) (by simp) (by intro c last; cases last; decide)
  noWord := by
    intro w listed
    simp only [formWords, List.mem_cons, List.not_mem_nil, or_false] at listed
    rcases listed with rfl | rfl | rfl | rfl <;> simp [quoted]
  noSign := by simp [quoted]
  noExists := by rw [quoted, ← List.cons_append, List.getLast?_concat]; decide

theorem cutWord?_quoted {word : Text} (noQuote : '"' ∉ word) (s : Text) :
    cutWord? word (quoted s) = none ↔ Text.occursIn (spaced word) s = false := by
  have absent : '"' ∉ spaced word := by simp [spaced, noQuote]
  have some : spaced word ≠ [] := by simp [spaced]
  rw [cutWord?, Text.cut?_eq_none_iff, Bool.eq_false_iff, ne_eq, Text.occursIn_iff_infix]
  change ¬ spaced word <:+: quoted s ↔ _
  rw [quoted, Text.infix_cons_iff_of_not_mem absent some, Text.infix_snoc_iff absent some]

theorem unquote_quoted (noQuote : ∀ c ∈ s, Arithmetic.isQuote c = false) :
    Text.dropEndWhile Arithmetic.isQuote ((quoted s).dropWhile Arithmetic.isQuote) = s := by
  have ends : Text.dropEndWhile Arithmetic.isQuote s = s :=
    Text.dropEndWhile_eq_self fun c last => noQuote c (List.mem_of_mem_getLast? last)
  rw [quoted, List.dropWhile_cons, if_pos (by decide)]
  cases s with
  | nil => rfl
  | cons c s =>
      rw [List.cons_append, List.dropWhile_cons, if_neg (by simp [noQuote c]), ← List.cons_append, Text.dropEndWhile,
        List.reverse_append, List.reverse_singleton, List.singleton_append, List.dropWhile_cons, if_pos (by decide)]
      exact ends

theorem expectedText_quoted (text : IsQuotable s) (builtins : Builtins) (vars : Table Text) (d : Draws) :
    expectedText builtins vars (quoted s) d = (s, d) := by
  have braceless : '{' ∉ quoted s := by simp [quoted, text.noBrace]
  have trimmed : Text.trim (quoted s) = quoted s :=
    Text.trim_eq_self_iff.mpr ⟨(operand_quoted s).starts, (operand_quoted s).ends⟩
  rw [expectedText, trimmed, Template.fill_braceless braceless]
  simp only [unquote_quoted text.noQuote]

/-! ## A quoted text that is compared -/

/-- An end that is taken for a unit of time can stand in a quoted text only where the key is named like a duration. -/
theorem withoutUnit_of_free (unit : k = "duration".toList → ¬ "ms".toList <:+ s) : withoutUnit k s = s := by
  rw [withoutUnit]
  split
  · rename_i duration
    rw [Text.stripEnd?, if_neg (by rw [List.isSuffixOf_iff_suffix]; exact unit duration)]
    rfl
  · rfl

theorem ofText_quoted (key : IsKey k) (equality : r.IsEquality) (free : WordFree r s) :
    Form.ofText (keyLine k r (quoted s)) = .relation ("body." ++ k) r (quoted s) := by
  have noQuote : ∀ w ∈ formWords, '"' ∉ w := by decide
  have noForm : ∀ w ∈ formWords, cutWord? w (quoted s) = none := fun w listed =>
    (cutWord?_quoted (noQuote w listed) s).mpr (free.noForm w listed)
  rw [ofText_keyLine key (operand_quoted s) equality noForm]
  rcases equality with rfl | rfl
  · rw [relationIn?_equal key]
    rfl
  · rw [relationIn?_unequal key (operand_quoted s), (cutWord?_quoted (by decide) s).mpr (free.noEquals rfl)]
    rfl

variable {builtins : Builtins} {vars : Table Text} {subject : Subject} {d : Draws} {members : List (Text × Json)}

/-- **A quoted text in which no searched word stands is compared with the text under the key.** -/
theorem check_quoted (key : IsKey k) (text : IsQuotable s) (equality : r.IsEquality) (free : WordFree r s)
    (unit : k = "duration".toList → ¬ "ms".toList <:+ s) (object : Json.decode? subject.body = some (.obj members))
    (here : Table.get? members k = some (.str v)) :
    check builtins vars subject (keyLine k r (quoted s)) d = (compare k r.symbol s v, d) := by
  rw [check_keyLine key (operand_quoted s) (ofText_quoted key equality free) object here
    (expectedText_quoted text builtins vars d), withoutUnit_of_free unit]
  rfl

/-- Two texts to which one of them stands alike are the same. -/
theorem eq_of_agrees_iff (equality : r.IsEquality) {t : Text} (alike : r.Agrees s t ↔ r.Agrees s s) : t = s := by
  rcases equality with rfl | rfl
  · exact (alike.mpr rfl).symm
  · exact Classical.byContradiction fun other => alike.mp (Ne.symm other) rfl

theorem exists_agrees (equality : r.IsEquality) (s : Text) : ∃ v, r.Agrees v s := by
  rcases equality with rfl | rfl
  · exact ⟨s, rfl⟩
  · exact ⟨' ' :: s, by simp [Relation.Agrees]⟩

/-! ## A quoted text that is read as something else -/

theorem left?_misread (key : IsKey k) (equality : r.IsEquality) (disturbed : ¬ WordFree r s) :
    ∃ x, (Form.ofText (keyLine k r (quoted s))).left? = some (keyLine k r x) := by
  have noQuote : ∀ w ∈ formWords, '"' ∉ w := by decide
  by_cases form : ∀ w ∈ formWords, Text.occursIn (spaced w) s = false
  · have absent : ∀ w ∈ formWords, cutWord? w (quoted s) = none := fun w listed =>
      (cutWord?_quoted (noQuote w listed) s).mpr (form w listed)
    -- what disturbs the line is the sign of the equality, which is looked for first
    obtain ⟨rfl, equals⟩ : r = .unequal ∧ ¬ Text.occursIn (spaced Relation.equal.symbol) s = false :=
      Classical.byContradiction fun none => disturbed
        ⟨form, fun unequal => Classical.byContradiction fun inside => none ⟨unequal, inside⟩⟩
    obtain ⟨p, found⟩ := Option.ne_none_iff_exists'.mp (mt (cutWord?_quoted (by decide) s).mp equals)
    rw [ofText_keyLine key (operand_quoted s) equality absent, relationIn?_unequal key (operand_quoted s), found]
    exact ⟨p.1, rfl⟩
  · obtain ⟨w, word⟩ := Classical.not_forall.mp form
    obtain ⟨listed, inside⟩ := Classical.not_imp.mp word
    exact ofText_misread key (operand_quoted s) equality listed (mt (cutWord?_quoted (noQuote w listed) s).mp inside)

/-- A response whose body holds one text under one key. -/
def single (k v : Text) : Subject := { status := 200, body := Json.compact (.obj [(k, .str v)]), durationMs := 0 }

theorem check_single_misread (key : IsKey k) (equality : r.IsEquality) (disturbed : ¬ WordFree r s) (v : Text) :
    ∃ place, check builtins vars (single k v) (keyLine k r (quoted s)) d = (.ok (.fail (.notFound place)), d) := by
  obtain ⟨x, left⟩ := left?_misread key equality disturbed
  refine check_misread key (operand_quoted s) left (Json.decode?_text k v) fun rest => ?_
  have other : k ≠ k ++ ' ' :: r.symbol ++ rest := by
    intro same
    have size := congrArg List.length same
    simp at size
  rw [Table.get?, if_neg other, Table.get?]

/-! ## Every response -/

/-- The line judges every response by its text: where the body is an object with a text under the key, it passes
exactly if the text is as it should be. -/
def Decides (k : Text) (r : Relation) (s : Text) (holds : Text → Prop) : Prop :=
  ∀ builtins vars (subject : Subject) (d : Draws) members v,
    Json.decode? subject.body = some (.obj members) → Table.get? members k = some (.str v) →
    ∃ verdict, check builtins vars subject (keyLine k r (quoted s)) d = (.ok verdict, d) ∧
      (verdict.passed = true ↔ holds v)

theorem decides_iff (key : IsKey k) (text : IsQuotable s) (equality : r.IsEquality)
    (unit : k = "duration".toList → ¬ "ms".toList <:+ s) : Decides k r s (r.Agrees · s) ↔ Undisturbed r s := by
  have member (v : Text) : Table.get? [(k, Json.str v)] k = some (.str v) := by rw [Table.get?, if_pos rfl]
  constructor
  · intro judged
    by_cases free : WordFree r s
    · refine ⟨free, eq_of_agrees_iff equality ?_⟩
      obtain ⟨verdict, decided, passes⟩ :=
        judged idle [] (single k s) { seed := 0 } _ s (Json.decode?_text k s) (member s)
      obtain ⟨outcome, compared, agrees⟩ := compare_equality equality k s s
      rw [check_quoted key text equality free unit (Json.decode?_text k s) (member s), compared] at decided
      cases decided
      exact agrees.symm.trans passes
    · -- the line finds nothing in a body in which it should pass
      obtain ⟨v, agrees⟩ := exists_agrees equality s
      obtain ⟨verdict, decided, passes⟩ :=
        judged idle [] (single k v) { seed := 0 } _ v (Json.decode?_text k v) (member v)
      obtain ⟨place, misread⟩ := check_single_misread key equality free v
      rw [misread] at decided
      cases decided
      exact absurd (passes.mpr agrees) Bool.false_ne_true
  · intro undisturbed builtins vars subject d members v object here
    obtain ⟨verdict, compared, passes⟩ := compare_equality equality k s v
    refine ⟨verdict, ?_, ?_⟩
    · rw [check_quoted key text equality undisturbed.wordFree unit object here, compared]
    · rw [passes, undisturbed.fixed]

/-- **The lines on equality and inequality with a quoted text judge every response by its text exactly if the quoted text
is undisturbed.** -/
theorem decides_quoted_iff (key : IsKey k) (text : IsQuotable s) (unit : k = "duration".toList → ¬ "ms".toList <:+ s) :
    (Decides k .equal s (· = s) ↔ Undisturbed .equal s) ∧ (Decides k .unequal s (· ≠ s) ↔ Undisturbed .unequal s) :=
  ⟨decides_iff key text (.inl rfl) unit, decides_iff key text (.inr rfl) unit⟩

/-- A sign of equality in the quoted text disturbs the line on inequality only. -/
theorem decides_quoted_iff_titled :
    Decides "title" .equal "a == b" (· = "a == b".toList) ∧ ¬ Decides "title" .unequal "a == b" (· ≠ "a == b".toList) := by
  have both := decides_quoted_iff (k := "title") (s := "a == b") (by decide) (by decide)
    (fun same => absurd same (by decide))
  exact ⟨both.1.mpr (by decide +kernel), fun judged => absurd (both.2.mp judged) (by decide +kernel)⟩

/-- A quoted number is compared in its shortest form, and a word in the quoted text is taken for that of the line. -/
theorem quoted_texts_are_read :
    (check idle [] { status := 200, body := r#"{"k": "007"}"#, durationMs := 0 } "body.k == \"007\""
        { seed := 0 }).1.toOption = some (.fail (.mismatch "k" "==" "7" "007")) ∧
      (check idle [] { status := 200, body := r#"{"k": "a contains b"}"#, durationMs := 0 }
        "body.k == \"a contains b\"" { seed := 0 }).1.toOption = some (.fail (.notFound "k == \"a")) ∧
      (check idle [] { status := 200, body := r#"{"k": "x"}"#, durationMs := 0 } "body.k != \"a == b\""
        { seed := 0 }).1.toOption = some (.fail (.notFound "k != \"a")) := by
  refine ⟨?_, ?_, ?_⟩ <;> decide +kernel

end ApiFlow.Assertion
