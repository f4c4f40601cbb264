import ApiFlow.Assertion.Comparison
import ApiFlow.Proofs.Assertion.KeyLine
import ApiFlow.Proofs.Json.RoundTrip
import ApiFlow.Proofs.Number.Digits
import ApiFlow.Proofs.Number.Nearest
import ApiFlow.Proofs.Template.Rendering

/-!
# Equality with an integer literal

An integer literal is an optional sign and up to 28 digits, as many as arithmetic keeps.  In an assertion it is an
expression of its own and worked out exactly, but it is written as the double nearest to it, while the integer in the body
is written as it is.  So the two texts are compared as the integers are exactly where the literal is a double, or the two
integers differ and the one is not what the other is rounded to.

* `IntLiteral` : a literal, with its text and its value, and `evaluate?_literal` : it is worked out to its value.
* `check_literal` : a literal is compared with the text of the integer under the key.
* `integer_equality_exact_iff` : when equality and inequality with a literal decide whether the integers are the same.
* `large_integer_differs_from_itself` : the first integer for which they do not.
-/

set_option autoImplicit false

namespace ApiFlow

/-- Nothing but decimal digits. -/
def IsDecimal (s : Text) : Prop := ∀ c ∈ s, 48 ≤ c.toNat ∧ c.toNat ≤ 57

instance (s : Text) : Decidable (IsDecimal s) := List.decidableBAll _ s

/-- An integer literal. -/
structure IntLiteral where
  sign : Text
  digits : Text
  signs : sign ∈ [[], ['+'], ['-']]
  some : digits ≠ []
  decimal : IsDecimal digits
  short : digits.length ≤ Decimal.precision

namespace IntLiteral

/-- The literal as it is written. -/
def text (l : IntLiteral) : Text := l.sign ++ l.digits

/-- The integer that the literal stands for. -/
def value (l : IntLiteral) : Int :=
  if l.sign = ['-'] then -(Nat.ofDigitChars 10 l.digits 0 : Int) else Nat.ofDigitChars 10 l.digits 0

theorem natAbs_value_lt (l : IntLiteral) : l.value.natAbs < tenTo Decimal.precision := by
  have below := ofDigitChars_lt l.decimal 0
  have most : tenTo l.digits.length ≤ tenTo Decimal.precision := Nat.pow_le_pow_right (by decide) l.short
  rw [value]
  split <;> omega

/-! ## Reading a literal -/

theorem allDigits?_digits {s : Text} (digits : IsDecimal s) :
    Decimal.allDigits? s = Option.some (s.map fun c => c.toNat - 48) := by
  induction s with
  | nil => rfl
  | cons c s ih =>
      obtain ⟨here, rest⟩ := List.forall_mem_cons.mp digits
      rw [Decimal.allDigits?, List.mapM_cons, Text.decimalValue?_digit here]
      change (do let more ← Decimal.allDigits? s; Option.some ((c.toNat - 48) :: more)) = _
      rw [ih rest]
      rfl

theorem signOf_text (l : IntLiteral) : Integer.signOf l.text = (decide (l.sign = ['-']), l.digits) := by
  have signs := l.signs
  simp only [List.mem_cons, List.not_mem_nil, or_false] at signs
  rw [text]
  rcases signs with sign | sign | sign <;> rw [sign]
  · exact Integer.signOf_digits l.decimal
  · rfl
  · rfl

theorem ofLiteral?_text (l : IntLiteral) : Decimal.ofLiteral? l.text = Option.some ⟨l.value, 0⟩ := by
  have noPoint : Text.cutAt? '.' l.digits = none :=
    Text.cutAt?_of_not_mem fun member => absurd (l.decimal '.' member) (by decide)
  have value : Double.signed (decide (l.sign = ['-'])) (Integer.valueOf (l.digits.map fun c => c.toNat - 48)) =
      l.value := by
    rw [Integer.valueOf_digits, Double.signed, IntLiteral.value]
    by_cases minus : l.sign = ['-'] <;> simp [minus]
  rw [Decimal.ofLiteral?, signOf_text]
  dsimp only
  rw [noPoint]
  dsimp only
  rw [allDigits?_digits l.decimal]
  simp [l.some, value]

/-! ## Literals in assertions -/

/-- A literal holds nothing but digits and signs. -/
theorem chars (l : IntLiteral) : ∀ c ∈ l.text, (48 ≤ c.toNat ∧ c.toNat ≤ 57) ∨ c = '+' ∨ c = '-' := by
  intro c member
  have signs := l.signs
  simp only [List.mem_cons, List.not_mem_nil, or_false] at signs
  rcases List.mem_append.mp member with sign | digit
  · rcases signs with none | plus | minus
    · rw [none] at sign
      exact absurd sign List.not_mem_nil
    · rw [plus] at sign
      exact .inr (.inl (List.mem_singleton.mp sign))
    · rw [minus] at sign
      exact .inr (.inr (List.mem_singleton.mp sign))
  · exact .inl (l.decimal c digit)

theorem not_mem (l : IntLiteral) {c : Char} (other : ¬ ((48 ≤ c.toNat ∧ c.toNat ≤ 57) ∨ c = '+' ∨ c = '-')) : c ∉ l.text :=
  fun member => other (l.chars c member)

theorem text_ne_nil (l : IntLiteral) : l.text ≠ [] := by simp [text, l.some]

theorem blankFree (l : IntLiteral) : Text.BlankFree l.text := by
  intro c member
  rcases l.chars c member with digit | rfl | rfl
  · exact Text.isBlank_digit digit
  · decide
  · decide

theorem noQuote (l : IntLiteral) : ∀ c ∈ l.text, Arithmetic.isQuote c = false := by
  intro c member
  rcases l.chars c member with digit | rfl | rfl
  · simp only [Arithmetic.isQuote, Bool.or_eq_false_iff, decide_eq_false_iff_not]
    constructor <;> rintro rfl <;> exact absurd digit (by decide)
  · decide
  · decide

/-- **A literal is worked out to its value.** -/
theorem evaluate?_literal (l : IntLiteral) : Arithmetic.evaluate? l.text = Option.some ⟨l.value, 0⟩ := by
  have whole : l.text.filter (!Arithmetic.isQuote ·) = l.text :=
    List.filter_eq_self.mpr fun c member => by rw [l.noQuote c member]; rfl
  have one : Arithmetic.tokens l.text = [l.text] := by
    rw [Arithmetic.tokens, whole]
    exact Text.words_word l.text_ne_nil l.blankFree
  rw [Arithmetic.evaluate?, one]
  dsimp only
  rw [ofLiteral?_text]
  rfl

end IntLiteral

namespace Assertion

variable {k : Text} {r : Relation} {v : Int}

/-! ## The literal on the right -/

theorem operand_literal (l : IntLiteral) : Operand l.text where
  some := l.text_ne_nil
  starts := l.blankFree.solidStart
  ends := l.blankFree.solidEnd
  noWord := by
    have letters : ∀ w ∈ formWords,
        (w.head?.any fun c => decide ((48 ≤ c.toNat ∧ c.toNat ≤ 57) ∨ c = '+' ∨ c = '-')) = false := by decide
    intro w listed same
    obtain ⟨c, first⟩ := Option.ne_none_iff_exists'.mp (mt List.head?_eq_none_iff.mp l.text_ne_nil)
    have letter := letters w listed
    rw [same, first, Option.any_some, decide_eq_false_iff_not] at letter
    exact l.not_mem letter (List.mem_of_mem_head? first)
  noSign := fun first => l.not_mem (by decide) (List.mem_of_mem_head? first)
  noExists := fun last => l.not_mem (by decide) (List.mem_of_mem_getLast? last)

/-- No word between blanks stands in a literal. -/
theorem cutWord?_literal (l : IntLiteral) (word : Text) : cutWord? word l.text = none := by
  rw [cutWord?, Text.cut?_eq_none_iff]
  exact fun inside => l.not_mem (by decide) (inside.subset List.mem_cons_self)

theorem expectedText_literal (l : IntLiteral) (builtins : Builtins) (vars : Table Text) (d : Draws) :
    expectedText builtins vars l.text d = (l.text, d) := by
  have start : l.text.dropWhile Arithmetic.isQuote = l.text :=
    Text.dropWhile_eq_self fun c first => l.noQuote c (List.mem_of_mem_head? first)
  have ends : Text.dropEndWhile Arithmetic.isQuote l.text = l.text :=
    Text.dropEndWhile_eq_self fun c last => l.noQuote c (List.mem_of_mem_getLast? last)
  rw [expectedText, l.blankFree.trimmed, Template.fill_braceless (l.not_mem (by decide))]
  simp only [start, ends]

theorem withoutUnit_literal (l : IntLiteral) (k : Text) : withoutUnit k l.text = l.text := by
  obtain ⟨c, last⟩ := Option.ne_none_iff_exists'.mp (mt List.getLast?_eq_none_iff.mp l.text_ne_nil)
  have other : c ≠ 's' := fun same => (operand_literal l).noExists (by rw [last, same])
  rw [withoutUnit, Text.stripEnd?_of_last last (d := 's') rfl other]
  exact ite_self _

theorem ofText_literal (key : IsKey k) (l : IntLiteral) (equality : r.IsEquality) :
    Form.ofText (keyLine k r l.text) = .relation ("body." ++ k) r l.text := by
  rw [ofText_keyLine key (operand_literal l) equality fun w _ => cutWord?_literal l w]
  rcases equality with rfl | rfl
  · rw [relationIn?_equal key]
    rfl
  · rw [relationIn?_unequal key (operand_literal l), cutWord?_literal l]
    rfl

/-! ## The integer in the body -/

/-- **The integer under the key is compared with the double nearest to the literal.** -/
theorem check_literal (key : IsKey k) (l : IntLiteral) (equality : r.IsEquality) {builtins : Builtins}
    {vars : Table Text} {subject : Subject} {d : Draws} {members : List (Text × Json)}
    (object : Json.decode? subject.body = some (.obj members)) (here : Table.get? members k = some (.int v)) :
    ∃ verdict, check builtins vars subject (keyLine k r l.text) d = (.ok verdict, d) ∧
      (verdict.passed = true ↔ r.Agrees (Text.ofInt v) (Text.ofInt (Double.nearestInt l.value))) := by
  have written : worked l.text = Text.ofInt (Double.nearestInt l.value) := by
    rw [worked, l.evaluate?_literal]
    exact Arithmetic.canonical_integer l.natAbs_value_lt
  obtain ⟨verdict, compared, agrees⟩ := compare_equality equality k l.text (Text.ofInt v)
  refine ⟨verdict, ?_, written ▸ agrees⟩
  rw [check_keyLine key (operand_literal l) (ofText_literal key l equality) object here
    (expectedText_literal l builtins vars d), withoutUnit_literal]
  exact congrArg (·, d) compared

/-- **Equality and inequality with an integer literal decide whether the integer under the key is the literal's exactly if
the literal's is a double, or the two differ and the one is not the double nearest to the other.** -/
theorem integer_equality_exact_iff (key : IsKey k) (l : IntLiteral) (builtins : Builtins) (vars : Table Text)
    {subject : Subject} (d : Draws) {members : List (Text × Json)}
    (object : Json.decode? subject.body = some (.obj members)) (here : Table.get? members k = some (.int v)) :
    ∃ same other, check builtins vars subject (keyLine k .equal l.text) d = (.ok same, d) ∧
      check builtins vars subject (keyLine k .unequal l.text) d = (.ok other, d) ∧
      ((same.passed = true ↔ v = l.value) ∧ (other.passed = true ↔ v ≠ l.value) ↔
        Double.FitsIn 53 l.value.natAbs ∨ (v ≠ l.value ∧ ¬ Double.RoundsTo l.value v)) := by
  obtain ⟨same, equal, agrees⟩ := check_literal key l (.inl rfl) object here
  obtain ⟨other, unequal, differs⟩ := check_literal key l (.inr rfl) object here
  refine ⟨same, other, equal, unequal, ?_⟩
  have sameText : Text.ofInt v = Text.ofInt (Double.nearestInt l.value) ↔ v = Double.nearestInt l.value :=
    ⟨ofInt_injective, fun equal => by rw [equal]⟩
  have passes : same.passed = true ↔ v = Double.nearestInt l.value := agrees.trans sameText
  have passesOther : other.passed = true ↔ v ≠ Double.nearestInt l.value := differs.trans (not_congr sameText)
  rw [passes, passesOther, ← Double.nearestInt_eq_self_iff, Double.roundsTo_iff]
  omega

/-- The literal of an even integer beyond 2^53. -/
def evenLiteral : IntLiteral :=
  { sign := ['+'], digits := "9007199254740994".toList, signs := by decide, some := by decide, decimal := by decide,
    short := by decide }

/-- A response that holds this integer. -/
def evenResponse : Subject := { status := 200, body := r#"{"id":9007199254740994}"#, durationMs := 0 }

/-- Beyond 2^53 the even integers are doubles, and are told from others. -/
theorem integer_equality_exact_iff_even :
    Json.decode? evenResponse.body = some (.obj [("id".toList, .int 9007199254740994)]) ∧
      ∃ same other, check idle [] evenResponse (keyLine "id" .equal evenLiteral.text) { seed := 0 } = (.ok same, { seed := 0 }) ∧
        check idle [] evenResponse (keyLine "id" .unequal evenLiteral.text) { seed := 0 } = (.ok other, { seed := 0 }) ∧
        same.passed = true ∧ ¬ other.passed = true := by
  have object : Json.decode? evenResponse.body = some (.obj [("id".toList, .int 9007199254740994)]) := by
    have body : evenResponse.body = Json.compact (.obj [("id".toList, .int 9007199254740994)]) := by decide +kernel
    rw [body]
    exact Json.decode?_integer "id" (by decide +kernel)
  have fits : Double.FitsIn 53 evenLiteral.value.natAbs := ⟨4503599627370497, 1, by decide, by decide +kernel⟩
  have value : evenLiteral.value = 9007199254740994 := by decide +kernel
  obtain ⟨same, other, equal, unequal, judged⟩ :=
    integer_equality_exact_iff (k := "id") (by decide) evenLiteral idle [] { seed := 0 } object rfl
  obtain ⟨passes, passesOther⟩ := judged.mpr (.inl fits)
  exact ⟨object, same, other, equal, unequal, passes.mpr value.symm, fun passed => passesOther.mp passed value.symm⟩

/-- The first natural number that is no double fails the test for equality with itself. -/
theorem large_integer_differs_from_itself :
    (check idle [] { status := 200, body := r#"{"k":9007199254740993}"#, durationMs := 0 }
        "body.k == 9007199254740993" { seed := 0 }).1.toOption =
          some (.fail (.mismatch "k" "==" "9007199254740992" "9007199254740993")) ∧
      (check idle [] { status := 200, body := r#"{"k":9007199254740993}"#, durationMs := 0 }
        "body.k != 9007199254740993" { seed := 0 }).1.toOption = some .pass := by
  refine ⟨?_, ?_⟩ <;> decide +kernel

end Assertion

end ApiFlow
