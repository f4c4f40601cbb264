import ApiFlow.Proofs.Assertion.Expressions
import ApiFlow.Proofs.Assertion.Marks
import ApiFlow.Proofs.Json.RoundTrip
import ApiFlow.Proofs.Number.Rounding
import ApiFlow.Proofs.Template.Rendering
import ApiFlow.Proofs.Template.Written

/-!
# Comparing measures with integers

The status, the duration and the sizes of a response are integers.  A line that compares one of them with an integer
literal may have blanks around the sign of the relation, quotes around the literal and the unit behind it; up to 2^53 it
decides the relation of the two integers, and no double on the way to the verdict is rounded.

* `Measured` : what is measured, and `Measured.Gives` : the integer that it is in a response.
* `Measured.IsRight` : how a number may be written on the right, and `expectedText_right`, `worked_right` : what is
  compared.
* `compare_integers` : what the comparison of two integers decides.
* `integer_relation_exact` : what the line decides.
-/

set_option autoImplicit false

namespace ApiFlow

namespace Text

variable {a b : Text}

theorem trim_blanks_append (n : Nat) (s : Text) : trim (List.replicate n ' ' ++ s) = trim s := by
  induction n with
  | zero => rfl
  | succ n ih => rw [List.replicate_succ, List.cons_append, trim_blank_cons rfl, ih]

theorem trim_append_blanks (s : Text) (n : Nat) : trim (s ++ List.replicate n ' ') = trim s := by
  induction n with
  | zero => rw [List.replicate_zero, List.append_nil]
  | succ n ih => rw [List.replicate_succ', ← List.append_assoc, trim_concat_blank rfl, ih]

theorem SolidStart.append (first : SolidStart a) (second : SolidStart b) : SolidStart (a ++ b) := by
  cases a with
  | nil => exact second
  | cons c a => exact first

theorem SolidEnd.append (first : SolidEnd a) (second : SolidEnd b) : SolidEnd (a ++ b) := by
  intro c last
  rw [List.getLast?_append] at last
  cases ends : b.getLast? with
  | none => exact first c (by rwa [ends, Option.none_or] at last)
  | some e => exact second c (by rwa [ends, Option.some_or, ← ends] at last)

/-- What stands between two texts of a kind remains when the characters of that kind are dropped at the ends. -/
theorem dropEndWhile_dropWhile_append {p : Char → Bool} {front inner back : Text} (all : ∀ c ∈ front, p c = true)
    (all' : ∀ c ∈ back, p c = true) (some : inner ≠ []) (starts : ∀ c ∈ inner.head?, p c = false)
    (ends : ∀ c ∈ inner.getLast?, p c = false) : dropEndWhile p ((front ++ (inner ++ back)).dropWhile p) = inner := by
  have start : ∀ c ∈ (inner ++ back).head?, p c = false := by
    obtain ⟨c, rest, rfl⟩ := List.exists_cons_of_ne_nil some
    exact starts
  have rest : ∀ c ∈ (inner.reverse).head?, p c = false := by
    rw [List.head?_reverse]
    exact ends
  rw [List.dropWhile_append_of_pos all, dropWhile_eq_self start, dropEndWhile, List.reverse_append,
    List.dropWhile_append_of_pos (fun c member => all' c (List.mem_reverse.mp member)), dropWhile_eq_self rest,
    List.reverse_reverse]

theorem isBlank_of_isDecimal {c : Char} (decimal : isDecimal c = true) : isBlank c = false :=
  isBlank_of_isDigit (by rw [isDigit, decimal, Bool.true_or])

end Text

/-! ## The characters of a literal -/

namespace Literal

variable (l : Literal)

/-- A literal holds digits, a point and signs. -/
theorem mem_text {c : Char} (member : c ∈ l.text) : Text.isDecimal c = true ∨ c ∈ ['.', '+', '-'] := by
  rcases List.mem_append.mp member with sign | body
  · have signs : ∀ s ∈ [[], ['+'], ['-']], s.all (· ∈ ['.', '+', '-']) = true := by decide
    exact .inr (of_decide_eq_true (List.all_eq_true.mp (signs l.sign l.signs) c sign))
  · exact (mem_body body).imp id fun point => by simp [point]

theorem not_mem_text {c : Char} (other : Text.isDecimal c = false) (other' : c ∉ ['.', '+', '-']) : c ∉ l.text := by
  intro member
  rcases l.mem_text member with digit | sign
  · rw [other] at digit
    cases digit
  · exact other' sign

theorem text_ne_nil : l.text ≠ [] := by
  rw [text, body]
  split
  · rename_i none
    simp [l.filled none]
  · simp

theorem blankFree : Text.BlankFree l.text := by
  have signs : Text.BlankFree ['.', '+', '-'] := by decide
  exact fun c member => (l.mem_text member).elim Text.isBlank_of_isDecimal (signs c)

theorem noQuote : ∀ c ∈ l.text, Arithmetic.isQuote c = false := by
  intro c member
  rw [Bool.eq_false_iff]
  intro quote
  simp only [Arithmetic.isQuote, Bool.or_eq_true, decide_eq_true_eq] at quote
  rcases quote with rfl | rfl <;> exact l.not_mem_text (by decide) (by decide) member

/-- A literal without a point is read as an integer. -/
theorem decimal_of_integer {l : Literal} {n : Int} (integer : l.fraction? = none) (value : l.value = n) :
    l.decimal = ⟨n, 0⟩ := by
  have whole := isWhole_decimal value
  have exponent : l.decimal.exponent = 0 := by
    rw [decimal, fraction, integer]
    rfl
  have coefficient := whole.coefficient
  rw [exponent, show tenTo (-(0 : Int)).toNat = 1 from rfl, Int.natCast_one, Int.mul_one] at coefficient
  rw [← coefficient, ← exponent]

end Literal

namespace Assertion

/-! ## What is measured -/

/-- The sign of a relation and the right side, with blanks in front of each. -/
def operation (before : Nat) (sign : Text) (after : Nat) (right : Text) : Text :=
  List.replicate before ' ' ++ (sign ++ (List.replicate after ' ' ++ right))

/-- What of a response is an integer: its status, its duration, and the size of what a key without blanks names. -/
inductive Measured where
  | status
  | duration
  | size (key : Text) (some : key ≠ []) (solid : Text.BlankFree key)

namespace Measured

/-- What a line begins with that compares a measure. -/
def front : Measured → Text
  | status => "status"
  | duration => "duration"
  | size key _ _ => key ++ " length "

/-- The integer that is measured: of an array, an object or a string the number of items, members or characters. -/
inductive Gives (subject : Subject) : Measured → Int → Prop
  | status : Gives subject .status subject.status
  | duration : Gives subject .duration subject.durationMs
  | items {key name : Text} {some : key ≠ []} {solid : Text.BlankFree key} {items : List Json}
      (found : subject.value key = .ok ⟨name, Option.some (.arr items)⟩) :
      Gives subject (.size key some solid) items.length
  | members {key name : Text} {some : key ≠ []} {solid : Text.BlankFree key} {members : List (Text × Json)}
      (found : subject.value key = .ok ⟨name, Option.some (.obj members)⟩) :
      Gives subject (.size key some solid) members.length
  | characters {key name : Text} {some : key ≠ []} {solid : Text.BlankFree key} {s : Text}
      (found : subject.value key = .ok ⟨name, Option.some (.str s)⟩) :
      Gives subject (.size key some solid) s.length

/-- What may stand behind a number: nothing, and behind a duration its unit. -/
def IsUnit (m : Measured) (u : Text) : Prop := u = [] ∨ m = .duration ∧ ∃ gap, u = List.replicate gap ' ' ++ "ms"

/-- The quotes around a number, or none. -/
def quotes : List Text := [[], ['"'], ['\'']]

/-- How a number may be written on the right: bare or between two quotes, and a unit within these or behind. -/
inductive IsRight (m : Measured) (number : Text) : Text → Prop
  | inside {q u : Text} (quote : q ∈ quotes) (unit : m.IsUnit u) : IsRight m number (q ++ (number ++ u ++ q))
  | behind {q u : Text} (quote : q ∈ quotes) (unit : m.IsUnit u) : IsRight m number (q ++ (number ++ q ++ u))

/-- The line that compares a measure with what is written on the right. -/
def line (m : Measured) (before : Nat) (sign : Text) (after : Nat) (right : Text) : Text :=
  m.front ++ operation before sign after right

variable {m : Measured} {l : Literal} {q u right : Text}

/-! ## The right side -/

theorem isQuote_of_mem (quote : q ∈ quotes) : ∀ c ∈ q, Arithmetic.isQuote c = true := by
  have all : ∀ q ∈ quotes, q.all Arithmetic.isQuote = true := by decide
  exact List.all_eq_true.mp (all q quote)

theorem blankFree_of_mem (quote : q ∈ quotes) : Text.BlankFree q := by
  have all : ∀ q ∈ quotes, Text.BlankFree q := by decide
  exact all q quote

theorem IsUnit.solidEnd (unit : m.IsUnit u) : Text.SolidEnd u := by
  rcases unit with rfl | ⟨-, gap, rfl⟩
  · rintro c ⟨⟩
  · exact Text.solidEnd_append _ (by decide) (by rintro c ⟨⟩; decide)

/-- Besides the number there are quotes, blanks and the letters of the unit. -/
theorem IsRight.mem {number : Text} (written : m.IsRight number right) {c : Char} (member : c ∈ right) :
    c ∈ number ∨ c ∈ [' ', 'm', 's', '"', '\''] := by
  have quoted {q : Text} (quote : q ∈ quotes) (member : c ∈ q) : c ∈ [' ', 'm', 's', '"', '\''] := by
    have all : ∀ q ∈ quotes, q.all (· ∈ [' ', 'm', 's', '"', '\'']) = true := by decide
    exact of_decide_eq_true (List.all_eq_true.mp (all q quote) c member)
  have united {u : Text} (unit : m.IsUnit u) (member : c ∈ u) : c ∈ [' ', 'm', 's', '"', '\''] := by
    rcases unit with rfl | ⟨-, gap, rfl⟩
    · exact absurd member List.not_mem_nil
    · rcases List.mem_append.mp member with blank | letter
      · rw [List.eq_of_mem_replicate blank]
        decide
      · have all : "ms".toList.all (· ∈ [' ', 'm', 's', '"', '\'']) = true := by decide
        exact of_decide_eq_true (List.all_eq_true.mp all c letter)
  cases written with
  | inside quote unit =>
      simp only [List.mem_append] at member
      rcases member with here | (here | here) | here
      · exact .inr (quoted quote here)
      · exact .inl here
      · exact .inr (united unit here)
      · exact .inr (quoted quote here)
  | behind quote unit =>
      simp only [List.mem_append] at member
      rcases member with here | (here | here) | here
      · exact .inr (quoted quote here)
      · exact .inl here
      · exact .inr (quoted quote here)
      · exact .inr (united unit here)

theorem IsRight.not_mem (written : m.IsRight l.text right) {c : Char} (digit : Text.isDecimal c = false)
    (other : c ∉ ['.', '+', '-', ' ', 'm', 's', '"', '\'']) : c ∉ right := by
  intro member
  rcases written.mem member with number | more
  · exact l.not_mem_text digit (fun sign => other (by revert sign; simp; tauto)) number
  · exact other (by revert more; simp; tauto)

theorem IsRight.markFree (written : m.IsRight l.text right) : MarkFree right := by
  intro c member
  rw [Bool.eq_false_iff]
  intro mark
  simp only [isMark, Bool.or_eq_true, decide_eq_true_eq] at mark
  rcases mark with ((rfl | rfl) | rfl) | rfl <;> exact written.not_mem (by decide) (by decide) member

theorem IsRight.ne_nil (written : m.IsRight l.text right) : right ≠ [] := by
  cases written <;> simp [l.text_ne_nil]

theorem IsRight.solid (written : m.IsRight l.text right) : Text.SolidStart right ∧ Text.SolidEnd right := by
  have number := l.blankFree
  cases written with
  | inside quote unit =>
      have around := blankFree_of_mem quote
      refine ⟨around.solidStart.append (Text.solidStart_append (by simp [l.text_ne_nil]) ?_ _), ?_⟩
      · exact Text.solidStart_append l.text_ne_nil number.solidStart _
      · exact around.solidEnd.append ((number.solidEnd.append unit.solidEnd).append around.solidEnd)
  | behind quote unit =>
      have around := blankFree_of_mem quote
      refine ⟨around.solidStart.append (Text.solidStart_append (by simp [l.text_ne_nil]) ?_ _), ?_⟩
      · exact Text.solidStart_append l.text_ne_nil number.solidStart _
      · exact around.solidEnd.append ((number.solidEnd.append around.solidEnd).append unit.solidEnd)

/-- **What is left of the right side without its quotes**: the number, at most a quote behind it, and the unit. -/
theorem IsRight.unquoted (written : m.IsRight l.text right) :
    ∃ q ∈ quotes, ∃ u, m.IsUnit u ∧
      Text.dropEndWhile Arithmetic.isQuote (right.dropWhile Arithmetic.isQuote) = l.text ++ q ++ u := by
  have number : ∀ c ∈ l.text.head?, Arithmetic.isQuote c = false :=
    fun c first => l.noQuote c (List.mem_of_mem_head? first)
  have starts (rest : Text) : ∀ c ∈ (l.text ++ rest).head?, Arithmetic.isQuote c = false := by
    obtain ⟨c, more, whole⟩ := List.exists_cons_of_ne_nil l.text_ne_nil
    rw [whole] at number ⊢
    exact number
  have ends : ∀ c ∈ l.text.getLast?, Arithmetic.isQuote c = false :=
    fun c last => l.noQuote c (List.mem_of_mem_getLast? last)
  have letter (front : Text) (gap : Nat) :
      ∀ c ∈ (front ++ (List.replicate gap ' ' ++ "ms".toList)).getLast?, Arithmetic.isQuote c = false := by
    rw [← List.append_assoc, List.getLast?_append]
    rintro c ⟨⟩
    decide
  have between {q inner : Text} (quote : q ∈ quotes) (some : inner ≠ [])
      (starts : ∀ c ∈ inner.head?, Arithmetic.isQuote c = false)
      (ends : ∀ c ∈ inner.getLast?, Arithmetic.isQuote c = false) :=
    Text.dropEndWhile_dropWhile_append (isQuote_of_mem quote) (isQuote_of_mem quote) some starts ends
  cases written with
  | @inside q u quote unit =>
      refine ⟨[], by decide, u, unit, ?_⟩
      rw [List.append_nil]
      rcases unit with rfl | ⟨-, gap, rfl⟩
      · rw [List.append_nil]
        exact between quote l.text_ne_nil number ends
      · exact between quote (by simp [l.text_ne_nil]) (starts _) (letter l.text gap)
  | @behind q u quote unit =>
      rcases unit with rfl | ⟨duration, gap, rfl⟩
      · refine ⟨[], by decide, [], .inl rfl, ?_⟩
        rw [List.append_nil, List.append_nil, List.append_nil]
        exact between quote l.text_ne_nil number ends
      · refine ⟨q, quote, _, .inr ⟨duration, gap, rfl⟩, ?_⟩
        have some : l.text ++ q ++ (List.replicate gap ' ' ++ "ms".toList) ≠ [] := by simp [l.text_ne_nil]
        have alone := Text.dropEndWhile_dropWhile_append (isQuote_of_mem quote) (List.forall_mem_nil _) some
          (by rw [List.append_assoc]; exact starts _) (letter _ gap)
        rwa [List.append_nil] at alone

end Measured

open Measured

variable {m : Measured} {l : Literal} {q u right : Text} {x n : Int} {r : Relation} {sign : Text}

theorem expectedText_right (written : m.IsRight l.text right) :
    ∃ q ∈ quotes, ∃ u, m.IsUnit u ∧ ∀ builtins vars d raw, Text.trim raw = right →
      expectedText builtins vars raw d = (l.text ++ q ++ u, d) := by
  obtain ⟨q, quote, u, unit, left⟩ := written.unquoted
  refine ⟨q, quote, u, unit, fun builtins vars d raw trimmed => ?_⟩
  rw [expectedText, trimmed, Template.fill_braceless (written.not_mem (by decide) (by decide))]
  simp only [left]

/-- The unit is dropped where a duration is compared, and elsewhere there is none. -/
theorem withoutUnit_right (quote : q ∈ quotes) (unit : m.IsUnit u) {name : Text}
    (named : m = .duration → name = "duration".toList) : withoutUnit name (l.text ++ q ++ u) = l.text ++ q := by
  have solid : Text.BlankFree (l.text ++ q) := l.blankFree.append (blankFree_of_mem quote)
  rcases unit with rfl | ⟨duration, gap, rfl⟩
  · have noUnit : Text.stripEnd? "ms" (l.text ++ q) = none := by
      refine stripEnd?_of_not_inside fun inside => ?_
      rcases List.mem_append.mp (inside.subset (show 's' ∈ "ms".toList by decide)) with number | letter
      · exact l.not_mem_text (by decide) (by decide) number
      · have quoted := isQuote_of_mem quote 's' letter
        cases quoted
    rw [List.append_nil, withoutUnit, noUnit]
    exact ite_self _
  · rw [withoutUnit, if_pos (named duration), ← List.append_assoc, Text.stripEnd?_append, Option.map_some,
      Option.getD_some, Text.trim_append_blanks, solid.trimmed]

/-! ## Comparing integers -/

/-- **A literal up to 2^53 is worked out to the text of its integer**, also with a quote behind it. -/
theorem worked_right (quote : q ∈ quotes) (integer : l.fraction? = none) (value : l.value = n)
    (small : n.natAbs ≤ 2 ^ 53) : worked (l.text ++ q) = Text.ofInt n := by
  have kept : (l.text ++ q).filter (!Arithmetic.isQuote ·) = l.text := by
    rw [List.filter_append, List.filter_eq_self.mpr fun c member => by rw [l.noQuote c member]; rfl,
      List.filter_eq_nil_iff.mpr fun c member => by rw [isQuote_of_mem quote c member]; decide, List.append_nil]
  have one : Arithmetic.tokens (l.text ++ q) = [l.text] := by
    rw [Arithmetic.tokens, kept, Text.words_word l.text_ne_nil l.blankFree]
  have read : Arithmetic.evaluate? (l.text ++ q) = some ⟨n, 0⟩ := by
    rw [Arithmetic.evaluate?, one, ← Literal.decimal_of_integer integer value]
    dsimp only
    rw [l.ofLiteral?_text]
    rfl
  have fits : Double.nearestInt n = n := by
    rw [Double.nearestInt_eq_self_iff, ← Double.nearest_eq_self_iff]
    exact Double.nearest_of_le small
  rw [worked, read]
  dsimp only
  rw [Arithmetic.canonical_integer (Nat.lt_of_le_of_lt small (by decide)), fits]

/-- How a relation stands between integers. -/
def Relation.Holds : Relation → (actual expected : Int) → Prop
  | equal, x, n => x = n
  | unequal, x, n => x ≠ n
  | atLeast, x, n => x ≥ n
  | atMost, x, n => x ≤ n
  | above, x, n => x > n
  | below, x, n => x < n
  | fits, _, _ => False

instance (r : Relation) (x n : Int) : Decidable (r.Holds x n) :=
  match r with
  | .equal => inferInstanceAs (Decidable (x = n))
  | .unequal => inferInstanceAs (Decidable (x ≠ n))
  | .atLeast => inferInstanceAs (Decidable (x ≥ n))
  | .atMost => inferInstanceAs (Decidable (x ≤ n))
  | .above => inferInstanceAs (Decidable (x > n))
  | .below => inferInstanceAs (Decidable (x < n))
  | .fits => inferInstanceAs (Decidable False)

theorem passed_verdictOf (holds : Bool) (otherwise : Diagnostic) : (verdictOf holds otherwise).passed = holds := by
  cases holds <;> rfl

/-- **The verdict on two integers up to 2^53 decides the relation between them.** -/
theorem compare_integers (spelled : sign ∈ r.spellings) (small : x.natAbs ≤ 2 ^ 53) (small' : n.natAbs ≤ 2 ^ 53)
    {e : Text} (expected : worked e = Text.ofInt n) (key : Text) :
    ∃ verdict, compare key r.symbol e (Text.ofInt x) = .ok verdict ∧ (verdict.passed = true ↔ r.Holds x n) := by
  obtain ⟨a, readX, exactX⟩ := Double.exactly_read? small
  obtain ⟨b, readN, exactN⟩ := Double.exactly_read? small'
  have ordered (test : Double → Double → Bool) : Relation.ordered test (Text.ofInt x) (Text.ofInt n) = test a b := by
    rw [Relation.ordered, readX, readN]
  have known : Relation.ofSymbol? r.symbol = some r := by cases r <;> decide
  have same : Text.ofInt x = Text.ofInt n ↔ x = n := ⟨ofInt_injective, fun equal => by rw [equal]⟩
  rw [compare, known, expected]
  dsimp only
  cases r with
  | equal => exact ⟨_, rfl, by rw [passed_verdictOf, decide_eq_true_iff, same]; rfl⟩
  | unequal => exact ⟨_, rfl, by rw [passed_verdictOf, bne_iff_ne, ne_eq, same]; rfl⟩
  | atLeast => exact ⟨_, rfl, by rw [passed_verdictOf, ordered, exactN.le_iff exactX]; rfl⟩
  | atMost => exact ⟨_, rfl, by rw [passed_verdictOf, ordered, exactX.le_iff exactN]; rfl⟩
  | above => exact ⟨_, rfl, by rw [passed_verdictOf, ordered, exactN.lt_iff exactX]; rfl⟩
  | below => exact ⟨_, rfl, by rw [passed_verdictOf, ordered, exactX.lt_iff exactN]; rfl⟩
  | fits => exact absurd spelled List.not_mem_nil

/-! ## The line -/

variable {before after : Nat}

theorem solidEnd_operation (written : m.IsRight l.text right) : Text.SolidEnd (operation before sign after right) := by
  have some := written.ne_nil
  exact Text.solidEnd_append _ (by simp [some])
    (Text.solidEnd_append _ (by simp [some]) (Text.solidEnd_append _ some written.solid.2))

theorem not_mem_operation (spelled : sign ∈ r.spellings) (written : m.IsRight l.text right) {c : Char}
    (digit : Text.isDecimal c = false) (mark : isMark c = false)
    (other : c ∉ ['.', '+', '-', ' ', 'm', 's', '"', '\'']) : c ∉ operation before sign after right := by
  have noBlank (k : Nat) : c ∉ List.replicate k ' ' := fun member =>
    other (by rw [List.eq_of_mem_replicate member]; decide)
  have noMark : c ∉ sign := fun member => by
    have holds := (Relation.marks_of_spelled spelled).2 c member
    rw [mark] at holds
    cases holds
  simp only [operation, List.mem_append, not_or]
  exact ⟨noBlank _, noMark, noBlank _, written.not_mem digit other⟩

theorem markFree_right (written : m.IsRight l.text right) (after : Nat) :
    MarkFree (List.replicate after ' ' ++ right) :=
  (markFree_blanks after).append written.markFree

theorem trim_right (written : m.IsRight l.text right) (after : Nat) :
    Text.trim (List.replicate after ' ' ++ right) = right := by
  rw [Text.trim_blanks_append, Text.trim_eq_self_iff]
  exact written.solid

theorem trim_measured (written : m.IsRight l.text right) :
    Text.trim (m.line before sign after right) = m.line before sign after right := by
  have some : operation before sign after right ≠ [] := by simp [operation, written.ne_nil]
  rw [Measured.line, Text.trim_eq_self_iff]
  refine ⟨?_, Text.solidEnd_append _ some (solidEnd_operation written)⟩
  cases m with
  | status => rintro c ⟨⟩; decide
  | duration => rintro c ⟨⟩; decide
  | size key someKey solid =>
      have starts : Text.SolidStart (key ++ " length ") := Text.solidStart_append someKey solid.solidStart _
      exact Text.solidStart_append (List.append_ne_nil_of_left_ne_nil someKey _) starts _

/-- **A name with a relation behind it is compared with the right side.** -/
theorem ofText_named (before after : Nat) {name : Text} (solid : ' ' ∉ name) (free : MarkFree name)
    (spelled : sign ∈ r.spellings) (written : m.IsRight l.text right) :
    ∃ left right', Form.ofText (name ++ operation before sign after right) = .relation left r right' ∧
      Text.trim left = Text.trim name ∧ Text.trim right' = right := by
  have absent {c : Char} (digit : Text.isDecimal c = false) (mark : isMark c = false)
      (other : c ∉ ['.', '+', '-', ' ', 'm', 's', '"', '\'']) : c ∉ operation before sign after right :=
    not_mem_operation spelled written digit mark other
  have unworded : Unworded (operation before sign after right) :=
    { noExists := absent (by decide) (by decide) (by decide)
      noContains := absent (by decide) (by decide) (by decide)
      noStart := absent (by decide) (by decide) (by decide) }
  have noLength : cutWord? "length" (name ++ operation before sign after right) = none := by
    rw [cutWord?, Text.cut?_eq_none_iff]
    exact not_infix_of_absent solid (c := 'l') (by decide) (absent (by decide) (by decide) (by decide))
  have noPattern : cutWord? Relation.fits.symbol (name ++ operation before sign after right) = none := by
    rw [cutWord?, Text.cut?_eq_none_iff]
    exact not_infix_of_absent solid (c := 'c') (by decide) unworded.noContains
  have parts : name ++ operation before sign after right =
      (name ++ List.replicate before ' ') ++ (sign ++ (List.replicate after ' ' ++ right)) := by
    rw [operation, List.append_assoc]
  rw [parts] at noPattern
  obtain ⟨left, right', found, leftTrim, rightTrim⟩ :=
    relationIn?_between spelled (free.append (markFree_blanks before)) (markFree_right written after) noPattern
  refine ⟨left, right', ?_, leftTrim.trans (Text.trim_append_blanks _ _), rightTrim.trans (trim_right written after)⟩
  rw [unworded.ofText_relation solid noLength, parts, found, Option.getD_some]

/-- **A size with a relation behind it is compared with the right side.** -/
theorem ofText_size {key : Text} (solid : ' ' ∉ key) (spelled : sign ∈ r.spellings) (written : m.IsRight l.text right) :
    Form.ofText (key ++ " length " ++ operation before sign after right) =
      .size key (some (r, List.replicate after ' ' ++ right)) := by
  have absent {c : Char} (digit : Text.isDecimal c = false) (mark : isMark c = false)
      (other : c ∉ ['.', '+', '-', ' ', 'm', 's', '"', '\'']) (letter : c ∉ " length ".toList) :
      c ∉ " length ".toList ++ operation before sign after right := by
    rw [List.mem_append, not_or]
    exact ⟨letter, not_mem_operation spelled written digit mark other⟩
  have unworded : Unworded (" length ".toList ++ operation before sign after right) :=
    { noExists := absent (by decide) (by decide) (by decide) (by decide)
      noContains := absent (by decide) (by decide) (by decide) (by decide)
      noStart := absent (by decide) (by decide) (by decide) (by decide) }
  have length : cutWord? "length" (key ++ (" length ".toList ++ operation before sign after right)) =
      some (key, operation before sign after right) := Text.cut?_found solid _ _
  have start : Text.SolidStart (sign ++ (List.replicate after ' ' ++ right)) := by
    obtain ⟨some, marks⟩ := Relation.marks_of_spelled spelled
    refine Text.solidStart_append some (fun c first => ?_) _
    have mark := marks c (List.mem_of_mem_head? first)
    simp only [isMark, Bool.or_eq_true, decide_eq_true_eq] at mark
    rcases mark with ((rfl | rfl) | rfl) | rfl <;> decide
  have ends : Text.SolidEnd (sign ++ (List.replicate after ' ' ++ right)) :=
    Text.solidEnd_append _ (by simp [written.ne_nil]) (Text.solidEnd_append _ written.ne_nil written.solid.2)
  have rest : Text.trim (operation before sign after right) = sign ++ (List.replicate after ' ' ++ right) := by
    rw [operation, Text.trim_blanks_append, Text.trim_eq_self_iff.mpr ⟨start, ends⟩]
  rw [List.append_assoc, unworded.ofText_size solid length, rest,
    leadingRelation?_between spelled (markFree_right written after)]

/-! ## What the line decides -/

variable {builtins : Builtins} {vars : Table Text} {subject : Subject} {d : Draws}

/-- A named integer is compared with the expected text. -/
theorem check_named (name : Text) (front : m.front = name) (solid : Text.BlankFree name) (free : MarkFree name)
    (value : subject.value name = .ok ⟨name, some (.int x)⟩) (duration : m = .duration → name = "duration".toList)
    (spelled : sign ∈ r.spellings) (written : m.IsRight l.text right) :
    ∃ q ∈ quotes, check builtins vars subject (m.line before sign after right) d =
      (compare name r.symbol (l.text ++ q) (Text.ofInt x), d) := by
  have noBlank : ' ' ∉ name := fun member => absurd (solid ' ' member) (by decide)
  obtain ⟨left, right', form, leftTrim, rightTrim⟩ :=
    ofText_named before after noBlank free spelled written
  obtain ⟨q, quote, u, unit, expected⟩ := expectedText_right written
  refine ⟨q, quote, ?_⟩
  rw [check, trim_measured written, Measured.line, front, form, Form.check, checkValue, leftTrim, solid.trimmed, value]
  dsimp only
  rw [expected _ _ _ _ rightTrim]
  dsimp only
  rw [withoutUnit_right quote unit duration]
  rfl

/-- The size of a value is compared with the expected text. -/
theorem check_size {key name : Text} {someKey : key ≠ []} {solid : Text.BlankFree key} {value : Json}
    (found : subject.value key = .ok ⟨name, some value⟩) (spelled : sign ∈ r.spellings)
    (written : (Measured.size key someKey solid).IsRight l.text right) :
    ∃ q ∈ quotes,
      check builtins vars subject ((Measured.size key someKey solid).line before sign after right) d =
        (compare (name ++ " length") r.symbol (l.text ++ q) (Text.ofInt (sizeOf value)), d) := by
  have noBlank : ' ' ∉ key := fun member => absurd (solid ' ' member) (by decide)
  obtain ⟨q, quote, u, unit, expected⟩ := expectedText_right written
  obtain rfl : u = [] := by
    rcases unit with none | ⟨duration, -⟩
    · exact none
    · cases duration
  have form : Form.ofText ((Measured.size key someKey solid).line before sign after right) =
      .size key (some (r, List.replicate after ' ' ++ right)) := ofText_size noBlank spelled written
  have actual : Text.ofInt (sizeOf value) = Text.ofNat (sizeOf value) := by
    rw [Text.ofInt, if_neg (by omega), Int.natAbs_natCast]
  refine ⟨q, quote, ?_⟩
  rw [check, trim_measured written, form, Form.check, checkValue, solid.trimmed, found]
  dsimp only
  rw [expected _ _ _ _ (trim_right written after), List.append_nil, actual]

/-- What has a size is found, and is as large as measured. -/
theorem Measured.Gives.found {key : Text} {someKey : key ≠ []} {solid : Text.BlankFree key}
    (gives : Gives subject (.size key someKey solid) x) :
    ∃ name value, subject.value key = .ok ⟨name, some value⟩ ∧ x = sizeOf value := by
  cases gives with
  | items found => exact ⟨_, _, found, rfl⟩
  | members found => exact ⟨_, _, found, rfl⟩
  | characters found => exact ⟨_, _, found, rfl⟩

/-- **A measure is compared with the literal**, up to a quote behind it. -/
theorem check_measured (gives : m.Gives subject x) (spelled : sign ∈ r.spellings) (written : m.IsRight l.text right) :
    ∃ q ∈ quotes, ∃ key, check builtins vars subject (m.line before sign after right) d =
      (compare key r.symbol (l.text ++ q) (Text.ofInt x), d) := by
  cases m with
  | status =>
      cases gives
      obtain ⟨q, quote, decided⟩ :=
        check_named (m := .status) "status" rfl (by decide) (by decide) rfl nofun spelled written
      exact ⟨q, quote, _, decided⟩
  | duration =>
      cases gives
      obtain ⟨q, quote, decided⟩ :=
        check_named (m := .duration) "duration" rfl (by decide) (by decide) rfl (fun _ => rfl) spelled written
      exact ⟨q, quote, _, decided⟩
  | size key someKey solid =>
      obtain ⟨name, value, found, rfl⟩ := gives.found
      obtain ⟨q, quote, decided⟩ := check_size found spelled written
      exact ⟨q, quote, _, decided⟩

/-- **A line that compares a measure with an integer literal decides the relation of the two integers up to 2^53**, and
all doubles on the way are exact: that of the literal, and those that the two texts are read as. -/
theorem integer_relation_exact (gives : m.Gives subject x) (integer : l.fraction? = none) (value : l.value = n)
    (small : x.natAbs ≤ 2 ^ 53) (small' : n.natAbs ≤ 2 ^ 53) (spelled : sign ∈ r.spellings)
    (written : m.IsRight l.text right) (before after : Nat) (builtins : Builtins) (vars : Table Text) (d : Draws) :
    (∃ verdict, check builtins vars subject (m.line before sign after right) d = (.ok verdict, d) ∧
      (verdict.passed = true ↔ r.Holds x n)) ∧
      l.decimal.toDouble.IsExactly n ∧
      (∃ y, Double.read? (Text.ofInt x) = some y ∧ y.IsExactly x) ∧
      ∃ y, Double.read? (Text.ofInt n) = some y ∧ y.IsExactly n := by
  obtain ⟨q, quote, key, decided⟩ := check_measured gives spelled written
  obtain ⟨verdict, compared, passes⟩ :=
    compare_integers spelled small small' (worked_right quote integer value small') key
  refine ⟨⟨verdict, decided.trans (congrArg (·, d) compared), passes⟩, ?_, Double.exactly_read? small,
    Double.exactly_read? small'⟩
  rw [Literal.decimal_of_integer integer value]
  exact Double.exactly_ofDecimal small'

/-- A response that took a while, with a text of seven characters in its body. -/
def timely : Subject := { status := 200, body := Json.compact (.obj [("title", .str "a title")]), durationMs := 120 }

/-- The unit may stand behind the quotes, and a size is compared in the same way. -/
theorem integer_relation_exact_padded :
    ∃ late long, check idle [] timely "duration<= '+0120'ms" { seed := 0 } = (.ok late, { seed := 0 }) ∧
      check idle [] timely "body.title length >=\"+0120\"" { seed := 0 } = (.ok long, { seed := 0 }) ∧
      late.passed = true ∧ ¬ long.passed = true := by
  have small : (120 : Int).natAbs ≤ 2 ^ 53 := by decide
  obtain ⟨l, text, integer, value⟩ :
      ∃ l : Literal, l.text = "+0120".toList ∧ l.fraction? = none ∧ l.value = (120 : Int) :=
    ⟨{ sign := ['+'], whole := "0120", fraction? := none, signs := by decide, filled := by decide
       wholeDigits := List.all_eq_true.mp (by decide), fractionDigits := by rintro _ ⟨⟩ },
      by decide, rfl, by decide +kernel⟩
  have title : timely.value ("body.".toList ++ "title".toList) =
      .ok ⟨"title", Table.get? [("title", .str "a title")] "title"⟩ :=
    value_key (by decide) (Json.decode?_text "title" "a title")
  obtain ⟨⟨late, timed, lateIff⟩, -⟩ :=
    integer_relation_exact (.duration : Measured.Gives timely .duration 120) integer value small small
      (show "<=".toList ∈ Relation.atMost.spellings by decide)
      (.behind (q := ['\'']) (by decide) (.inr ⟨rfl, 0, rfl⟩)) 0 1 idle [] { seed := 0 }
  obtain ⟨⟨long, sized, longIff⟩, -⟩ :=
    integer_relation_exact (m := .size "body.title" (by decide) (by decide)) (.characters title) integer value
      (by decide) small (show ">=".toList ∈ Relation.atLeast.spellings by decide)
      (.inside (q := ['"']) (by decide) (.inl rfl)) 0 0 idle [] { seed := 0 }
  rw [text] at timed sized
  exact ⟨late, long, timed, sized, lateIff.mpr (by decide), fun passed => absurd (longIff.mp passed) (by decide)⟩

end Assertion

end ApiFlow
