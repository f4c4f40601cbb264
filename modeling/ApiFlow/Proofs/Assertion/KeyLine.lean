import ApiFlow.Assertion.Basic
import ApiFlow.Proofs.Body.Normal
import ApiFlow.Proofs.Text.Search

/-!
# Assertions about the value of a key

The line `body.key == right` is searched for words between blanks.  As the key and the relation hold none, only what is
written on the right can change how the line is read.

* `cutWord?_keyLine` : a word is found in the line exactly if it is found on the right.
* `ofText_keyLine` : the line is read as a comparison of the key with the whole right side, if nothing is found there.
* `check_keyLine` : such a line compares the value of the key with the expected text.
* `check_misread` : where the left side goes on behind the key, a body with that key alone has no such place.
-/

set_option autoImplicit false

namespace ApiFlow

/-- The code points of the characters that separate words. -/
def Text.blankCodes : List Nat :=
  [9, 10, 11, 12, 13, 28, 29, 30, 31, 32, 0x85, 0xa0, 0x1680, 0x2000, 0x2001, 0x2002, 0x2003, 0x2004, 0x2005, 0x2006,
    0x2007, 0x2008, 0x2009, 0x200a, 0x2028, 0x2029, 0x202f, 0x205f, 0x3000]

theorem Text.isBlank_of_isAlphanumeric {c : Char} (letter : isAlphanumeric c = true) : isBlank c = false := by
  rw [Bool.eq_false_iff]
  intro blank
  have listed : c.toNat ∈ blankCodes := by
    simp only [isBlank, Bool.or_eq_true, Bool.and_eq_true, decide_eq_true_eq] at blank
    simp only [blankCodes, List.mem_cons, List.not_mem_nil, or_false]
    omega
  have none : ∀ n ∈ blankCodes, isAlphanumeric (Char.ofNat n) = false := by decide +kernel
  rw [← Char.ofNat_toNat c, none _ listed] at letter
  exact absurd letter Bool.false_ne_true

theorem Text.stripEnd?_of_last {ending s : Text} {c d : Char} (last : s.getLast? = some c)
    (wanted : ending.getLast? = some d) (other : c ≠ d) : stripEnd? ending s = none := by
  rw [stripEnd?, if_neg]
  rw [List.isSuffixOf_iff_suffix]
  rintro ⟨front, rfl⟩
  rw [List.getLast?_append, wanted, Option.some_or] at last
  exact other (Option.some.inj last).symm

namespace Assertion

/-- Built-ins that give nothing. -/
def idle : Builtins := { nowNs := 0, env := [], uuid := fun _ => [], token := fun _ => [] }

/-! ## Keys -/

/-- A key that is a row of letters and digits. -/
structure IsKey (k : Text) : Prop where
  some : k ≠ []
  chars : ∀ c ∈ k, Text.isAlphanumeric c = true

instance (k : Text) : Decidable (IsKey k) :=
  letI := List.decidableBAll (fun c => Text.isAlphanumeric c = true) k
  decidable_of_iff (k ≠ [] ∧ ∀ c ∈ k, Text.isAlphanumeric c = true) ⟨fun p => ⟨p.1, p.2⟩, fun p => ⟨p.1, p.2⟩⟩

variable {k : Text} {r : Relation}

theorem IsKey.not_mem (key : IsKey k) {c : Char} (sign : Text.isAlphanumeric c = false) : c ∉ k := by
  intro member
  rw [key.chars c member] at sign
  exact absurd sign (by decide)

theorem IsKey.blankFree (key : IsKey k) : Text.BlankFree k :=
  fun c member => Text.isBlank_of_isAlphanumeric (key.chars c member)

theorem IsKey.front (key : IsKey k) : Body.Front k where
  some := key.some
  starts := key.blankFree.solidStart
  ends := key.blankFree.solidEnd
  noRoot := fun first => key.not_mem (c := '$') (by decide) (List.mem_of_mem_head? first)
  noBracket := key.not_mem (by decide)
  noDot := key.not_mem (by decide)
  noSlash := key.not_mem (by decide)

/-- A key with a relation behind it begins the name of no letters-and-digits key. -/
theorem IsKey.front_relation (key : IsKey k) (r : Relation) : Body.Front (k ++ ' ' :: r.symbol) where
  some := by simp
  starts := Text.solidStart_append key.some key.blankFree.solidStart _
  ends := Text.solidEnd_append _ (by simp) (by cases r <;> intro c last <;> cases last <;> decide)
  noRoot := by
    have own := key.front.noRoot
    obtain ⟨c, rest, rfl⟩ := List.exists_cons_of_ne_nil key.some
    exact own
  noBracket := by
    rw [List.mem_append, not_or]
    exact ⟨key.front.noBracket, by cases r <;> decide⟩
  noDot := by
    rw [List.mem_append, not_or]
    exact ⟨key.front.noDot, by cases r <;> decide⟩
  noSlash := by
    rw [List.mem_append, not_or]
    exact ⟨key.front.noSlash, by cases r <;> decide⟩

/-- No blank stands on the left of the line. -/
theorem IsKey.solid (key : IsKey k) : ' ' ∉ "body.".toList ++ k := by
  rw [List.mem_append, not_or]
  exact ⟨by decide, key.not_mem (by decide)⟩

/-- The line that compares the value of a key with what is written on the right. -/
def keyLine (k : Text) (r : Relation) (right : Text) : Text := "body." ++ (k ++ ' ' :: r.symbol) ++ ' ' :: right

/-! ## Words in the line -/

theorem cutWord?_behind {front word : Text} {c : Char} (solid : ' ' ∉ front) (some : word ≠ [])
    (other : word.head? ≠ Option.some c) (s : Text) :
    cutWord? word (front ++ ' ' :: c :: s) =
      (cutWord? word (c :: s)).map fun p => (front ++ ' ' :: p.1, p.2) := by
  obtain ⟨w, rest, rfl⟩ := List.exists_cons_of_ne_nil some
  have differ : w ≠ c := fun same => other (by rw [same]; rfl)
  have here : Text.cut? (' ' :: (w :: rest ++ [' '])) (' ' :: c :: s) =
      (Text.cut? (' ' :: (w :: rest ++ [' '])) (c :: s)).map fun p => (' ' :: p.1, p.2) := by
    rw [Text.cut?, if_neg (by simp [List.isPrefixOf, differ])]
  change Text.cut? (' ' :: (w :: rest ++ [' '])) _ = (Text.cut? (' ' :: (w :: rest ++ [' '])) _).map _
  rw [Text.cut?_front solid, here, Option.map_map]
  rfl

/-- The words that decide what a line asserts before a relation is looked for. -/
def formWords : List Text := ["contains", "startsWith", "endsWith", "length"]

/-- A right side that does not begin or end like one of the words that a line is searched for. -/
structure Operand (right : Text) : Prop where
  some : right ≠ []
  starts : Text.SolidStart right
  ends : Text.SolidEnd right
  noWord : ∀ w ∈ formWords, w.head? ≠ right.head?
  noSign : right.head? ≠ Option.some '='
  noExists : right.getLast? ≠ Option.some 's'

variable {right : Text}

/-- **A word is found in the line exactly if it is found on the right**, unless the relation or the right side begins
like the word. -/
theorem cutWord?_keyLine (key : IsKey k) (operand : Operand right) {word : Text} (some : word ≠ [])
    (notHere : word.head? ≠ r.symbol.head?) (notRight : word.head? ≠ right.head?) :
    cutWord? word (keyLine k r right) = (cutWord? word right).map fun p => (keyLine k r p.1, p.2) := by
  have solidSymbol : ' ' ∉ r.symbol := by cases r <;> decide
  obtain ⟨a, symbol, relation⟩ : ∃ a symbol, r.symbol = a :: symbol := by cases r <;> exact ⟨_, _, rfl⟩
  obtain ⟨b, right, rfl⟩ := List.exists_cons_of_ne_nil operand.some
  have front : keyLine k r (b :: right) = ("body.".toList ++ k) ++ ' ' :: a :: (symbol ++ ' ' :: b :: right) := by
    simp [keyLine, relation]
  have behind : cutWord? word (a :: (symbol ++ ' ' :: b :: right)) =
      (cutWord? word (b :: right)).map fun p => (r.symbol ++ ' ' :: p.1, p.2) := by
    have step := cutWord?_behind solidSymbol some notRight right
    rwa [relation] at step ⊢
  rw [front, cutWord?_behind key.solid some (by rw [relation] at notHere; exact notHere), behind, Option.map_map]
  congr 1
  funext p
  simp [keyLine]

/-- The relation of the line itself is found where it is written. -/
theorem cutWord?_symbol (key : IsKey k) (right : Text) :
    cutWord? r.symbol (keyLine k r right) = some ("body." ++ k, right) := by
  have line : keyLine k r right = ("body.".toList ++ k) ++ ((' ' :: (r.symbol ++ [' '])) ++ right) := by simp [keyLine]
  rw [line]
  exact Text.cut?_found key.solid (r.symbol ++ [' ']) right

theorem formWords_ne_nil : ∀ w ∈ formWords, w ≠ [] := by decide

/-! ## How the line is read -/

/-- The relations that decide whether two texts are the same. -/
def Relation.IsEquality (r : Relation) : Prop := r = .equal ∨ r = .unequal

theorem Relation.IsEquality.head? (equality : r.IsEquality) : ∀ w ∈ formWords, w.head? ≠ r.symbol.head? := by
  rcases equality with rfl | rfl <;> decide

/-- The left side of what a line asserts about a value. -/
def Form.left? : Form → Option Text
  | contains _ left _ => some left
  | size left _ => some left
  | relation left _ _ => some left
  | _ => none

theorem getLast?_keyLine (operand : Operand right) : (keyLine k r right).getLast? = right.getLast? := by
  obtain ⟨c, last⟩ := Option.ne_none_iff_exists'.mp (mt List.getLast?_eq_none_iff.mp operand.some)
  rw [keyLine, List.getLast?_append, List.getLast?_cons, last]
  rfl

/-- The line does not end like an assertion about presence. -/
theorem stripEnd?_keyLine (operand : Operand right) :
    Text.stripEnd? " not exists" (keyLine k r right) = none ∧ Text.stripEnd? " exists" (keyLine k r right) = none := by
  obtain ⟨c, last⟩ := Option.ne_none_iff_exists'.mp (mt List.getLast?_eq_none_iff.mp operand.some)
  have notS : c ≠ 's' := fun same => operand.noExists (by rw [last, same])
  have ends : (keyLine k r right).getLast? = some c := (getLast?_keyLine operand).trans last
  exact ⟨Text.stripEnd?_of_last ends (d := 's') rfl notS, Text.stripEnd?_of_last ends (d := 's') rfl notS⟩

theorem containment_listed : ∀ how : Containment, how.symbol ∈ formWords := by
  intro how
  cases how <;> decide

/-- **Where no word is found on the right, the line is read as a comparison.** -/
theorem ofText_keyLine (key : IsKey k) (operand : Operand right) (equality : r.IsEquality)
    (free : ∀ w ∈ formWords, cutWord? w right = none) :
    Form.ofText (keyLine k r right) = (relationIn? (keyLine k r right)).getD .unreadable := by
  have absent (w : Text) (listed : w ∈ formWords) : cutWord? w (keyLine k r right) = none := by
    rw [cutWord?_keyLine key operand (formWords_ne_nil w listed) (equality.head? w listed) (operand.noWord w listed),
      free w listed]
    rfl
  have noContainment : containmentIn? (keyLine k r right) = none := by
    rw [containmentIn?, List.findSome?_eq_none_iff]
    intro how _
    rw [absent _ (containment_listed how)]
    rfl
  obtain ⟨noAbsence, noPresence⟩ := stripEnd?_keyLine (k := k) (r := r) operand
  simp only [Form.ofText, noAbsence, noPresence, noContainment, absent "length" (by decide)]

/-- **Where a word is found on the right, the left side goes on behind the key.** -/
theorem ofText_misread (key : IsKey k) (operand : Operand right) (equality : r.IsEquality) {w : Text}
    (listed : w ∈ formWords) (found : cutWord? w right ≠ none) :
    ∃ x, (Form.ofText (keyLine k r right)).left? = some (keyLine k r x) := by
  have word (w : Text) (listed : w ∈ formWords) : cutWord? w (keyLine k r right) =
      (cutWord? w right).map fun p => (keyLine k r p.1, p.2) :=
    cutWord?_keyLine key operand (formWords_ne_nil w listed) (equality.head? w listed) (operand.noWord w listed)
  obtain ⟨noAbsence, noPresence⟩ := stripEnd?_keyLine (k := k) (r := r) operand
  cases containment : containmentIn? (keyLine k r right) with
  | some form =>
      simp only [Form.ofText, noAbsence, noPresence, containment]
      obtain ⟨how, -, here⟩ := List.exists_of_findSome?_eq_some containment
      rw [word _ (containment_listed how)] at here
      obtain ⟨p, cut, rfl⟩ := Option.map_eq_some_iff.mp here
      obtain ⟨q, -, rfl⟩ := Option.map_eq_some_iff.mp cut
      exact ⟨q.1, rfl⟩
  | none =>
      -- the word is not one of a containment, so it is the word for a size
      have size : cutWord? "length" right ≠ none := by
        rw [containmentIn?, List.findSome?_eq_none_iff] at containment
        have noHow (how : Containment) : cutWord? how.symbol right = none := by
          have absent := containment how (by cases how <;> decide)
          rw [word _ (containment_listed how)] at absent
          simpa using absent
        simp only [formWords, List.mem_cons, List.not_mem_nil, or_false] at listed
        rcases listed with rfl | rfl | rfl | rfl
        · exact absurd (noHow .inside) found
        · exact absurd (noHow .atStart) found
        · exact absurd (noHow .atEnd) found
        · exact found
      obtain ⟨q, cut⟩ := Option.ne_none_iff_exists'.mp size
      have found : cutWord? "length" (keyLine k r right) = some (keyLine k r q.1, q.2) := by
        rw [word "length" (by decide), cut]
        rfl
      simp only [Form.ofText, noAbsence, noPresence, containment, found]
      exact ⟨q.1, rfl⟩

theorem relationIn?_equal (key : IsKey k) (right : Text) :
    relationIn? (keyLine k .equal right) = some (.relation ("body." ++ k) .equal right) := by
  have first := cutWord?_symbol (r := .equal) key right
  simp [relationIn?, Relation.all, first]

theorem relationIn?_unequal (key : IsKey k) (operand : Operand right) :
    relationIn? (keyLine k .unequal right) =
      some (((cutWord? Relation.equal.symbol right).map fun p => Form.relation (keyLine k .unequal p.1) .equal p.2).getD
        (.relation ("body." ++ k) .unequal right)) := by
  have own := cutWord?_symbol (r := .unequal) key right
  have other : cutWord? Relation.equal.symbol (keyLine k .unequal right) =
      (cutWord? Relation.equal.symbol right).map fun p => (keyLine k .unequal p.1, p.2) :=
    cutWord?_keyLine key operand (by decide) (by decide) (fun same => operand.noSign (by rw [← same]; rfl))
  cases found : cutWord? Relation.equal.symbol right with
  | some p => simp [relationIn?, Relation.all, other, found]
  | none => simp [relationIn?, Relation.all, other, found, own]

/-! ## What the line decides -/

theorem trim_keyLine (operand : Operand right) : Text.trim (keyLine k r right) = keyLine k r right := by
  have parts : keyLine k r right = "body.".toList ++ ((k ++ ' ' :: r.symbol ++ [' ']) ++ right) := by simp [keyLine]
  rw [parts]
  exact Text.trim_append (by decide) operand.some (by intro c first; cases first; decide) operand.ends _

variable {subject : Subject} {members : List (Text × Json)}

theorem Subject.value_body (subject : Subject) (path : Text) :
    subject.value ("body." ++ path) =
      match Body.inBody subject.body (Body.normalize path) with
      | .ok value? => .ok ⟨Body.normalize path, value?⟩
      | .error e => .error (.integer e) := by
  have place : pathOf ("body." ++ path) = Body.normalize path := by
    rw [pathOf, Text.dropStart, if_pos (List.isPrefixOf_iff_prefix.mpr (List.prefix_append _ _)), List.drop_left]
  have other (name : Text) (absent : ¬ "body.".toList <+: name) : "body.".toList ++ path ≠ name :=
    fun same => absent (same ▸ List.prefix_append _ _)
  cases found : Body.inBody subject.body (Body.normalize path) <;>
    simp only [value, if_neg (other "status" (by decide)), if_neg (other "duration" (by decide)),
      if_neg (other "body" (by decide)), place, found]

theorem value_key (key : IsKey k) (object : Json.decode? subject.body = some (.obj members)) :
    subject.value ("body." ++ k) = .ok ⟨k, Table.get? members k⟩ := by
  rw [Subject.value_body, Body.normalize_of_front key.front, Body.inBody_key key.front object]

/-- A left side that goes on behind the key leads nowhere in a body without such a name. -/
theorem value_misread (key : IsKey k) (object : Json.decode? subject.body = some (.obj members))
    (foreign : ∀ rest, Table.get? members (k ++ ' ' :: r.symbol ++ rest) = none) (x : Text) :
    ∃ place, subject.value (Text.trim (keyLine k r x)) = .ok ⟨place, none⟩ := by
  have plain := key.front_relation r
  have ends : Text.SolidEnd ("body." ++ (k ++ ' ' :: r.symbol)) := Text.solidEnd_append _ plain.some plain.ends
  have left : Text.trim (keyLine k r x) = "body." ++ ((k ++ ' ' :: r.symbol) ++ Text.trimRight (' ' :: x)) := by
    rw [keyLine, Text.trim_front (by simp) (by intro c first; cases first; decide) ends, List.append_assoc]
  rw [left, Subject.value_body, Body.normalize_front plain, Body.inBody_absent plain object foreign]
  exact ⟨_, rfl⟩

variable {builtins : Builtins} {vars : Table Text} {d : Draws}

/-- **A line that is read as a comparison compares the value of the key with the expected text.** -/
theorem check_keyLine (key : IsKey k) (operand : Operand right)
    (form : Form.ofText (keyLine k r right) = .relation ("body." ++ k) r right)
    (object : Json.decode? subject.body = some (.obj members)) {value : Json}
    (here : Table.get? members k = some value) {expected : Text}
    (wanted : expectedText builtins vars right d = (expected, d)) :
    check builtins vars subject (keyLine k r right) d =
      (compare k r.symbol (withoutUnit k expected) value.asText, d) := by
  have left : Text.trim ("body." ++ k) = "body." ++ k :=
    ((show Text.BlankFree "body.".toList by decide).append key.blankFree).trimmed
  rw [check, trim_keyLine operand, form, Form.check, checkValue, left, value_key key object, here]
  simp only [wanted]

theorem checkValue_notFound {left place : Text} (nothing : subject.value (Text.trim left) = .ok ⟨place, none⟩)
    (decide : Text → Json → Draws → Except Fault Verdict × Draws) :
    checkValue subject left d decide = (.ok (.fail (.notFound place)), d) := by
  rw [checkValue, nothing]

/-- **A line whose left side goes on behind the key finds nothing.** -/
theorem check_misread (key : IsKey k) (operand : Operand right) {x : Text}
    (left : (Form.ofText (keyLine k r right)).left? = some (keyLine k r x))
    (object : Json.decode? subject.body = some (.obj members))
    (foreign : ∀ rest, Table.get? members (k ++ ' ' :: r.symbol ++ rest) = none) :
    ∃ place, check builtins vars subject (keyLine k r right) d = (.ok (.fail (.notFound place)), d) := by
  obtain ⟨place, nothing⟩ := value_misread key object foreign x
  refine ⟨place, ?_⟩
  rw [check, trim_keyLine operand]
  cases form : Form.ofText (keyLine k r right) with
  | absent place => simp [form, Form.left?] at left
  | present place => simp [form, Form.left?] at left
  | unreadable => simp [form, Form.left?] at left
  | contains how place right =>
      rw [form] at left
      cases left
      rw [Form.check]
      exact checkValue_notFound nothing _
  | size place relation? =>
      rw [form] at left
      cases left
      rw [Form.check]
      exact checkValue_notFound nothing _
  | relation place q right =>
      rw [form] at left
      cases left
      rw [Form.check]
      exact checkValue_notFound nothing _

/-! ## What an equality decides -/

/-- How a text stands to the expected one where the line on an equality passes. -/
def Relation.Agrees : Relation → (actual expected : Text) → Prop
  | equal, actual, expected => actual = expected
  | _, actual, expected => actual ≠ expected

theorem compare_equality (equality : r.IsEquality) (key expected actual : Text) :
    ∃ verdict, compare key r.symbol expected actual = .ok verdict ∧
      (verdict.passed = true ↔ r.Agrees actual (worked expected)) := by
  rcases equality with rfl | rfl
  · refine ⟨_, rfl, ?_⟩
    by_cases same : actual = worked expected <;> simp [verdictOf, same, Verdict.passed, Relation.Agrees]
  · refine ⟨_, rfl, ?_⟩
    by_cases same : actual = worked expected <;> simp [verdictOf, same, Verdict.passed, Relation.Agrees]

end Assertion

end ApiFlow
