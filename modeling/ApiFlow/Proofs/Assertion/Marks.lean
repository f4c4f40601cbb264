import ApiFlow.Proofs.Assertion.KeyLine
import Mathlib.Data.List.Basic
import Mathlib.Data.List.Find

/-!
# The relation in a line

A line is searched for the signs of relations in a fixed order, first between blanks and then anywhere, though some of
them stand in others and the single equals sign in four.  What is found is still the sign that was written: where its
marks stand together and nowhere else in the line, no other sign is surrounded by blanks, and of those that stand in it
the longest is looked for first.

* `Relation.spellings` : how a relation of numbers may be written.
* `relationIn?_between` : the relation that is found between two texts without marks.
* `leadingRelation?_between` : the relation at the start of a text.
* `Unworded` : a line in which none of the other words is found, and `Unworded.ofText_size`,
  `Unworded.ofText_relation` : how it is read.
-/

set_option autoImplicit false

namespace ApiFlow.Assertion

/-- The characters that signs of relations are made of. -/
def isMark (c : Char) : Bool := c = '=' || c = '!' || c = '<' || c = '>'

/-- No character of a text is a mark. -/
def MarkFree (s : Text) : Prop := ∀ c ∈ s, isMark c = false

instance (s : Text) : Decidable (MarkFree s) := List.decidableBAll _ s

/-- How a relation of numbers may be written; a pattern is none. -/
def Relation.spellings : Relation → List Text
  | equal => ["==", "="]
  | fits => []
  | r => [r.symbol]

variable {r : Relation} {sign front back s : Text}

theorem Relation.mem_all (r : Relation) : r ∈ Relation.all := by cases r <;> decide

theorem Relation.mem_signs_or_fits (r : Relation) : r ∈ Relation.signs ∨ r = .fits := by cases r <;> decide

/-- Only equality has a second spelling. -/
theorem Relation.spelled_cases (spelled : sign ∈ r.spellings) :
    (sign = ['='] ∧ r = .equal) ∨ (sign ≠ ['='] ∧ sign = r.symbol) := by
  have all : ∀ r ∈ Relation.all, ∀ sign ∈ r.spellings,
      (sign = ['='] ∧ r = .equal) ∨ (sign ≠ ['='] ∧ sign = r.symbol) := by decide
  exact all r r.mem_all sign spelled

theorem Relation.marks_of_spelled (spelled : sign ∈ r.spellings) : sign ≠ [] ∧ ∀ c ∈ sign, isMark c = true := by
  have all : ∀ r ∈ Relation.all, ∀ sign ∈ r.spellings, sign ≠ [] ∧ sign.all isMark = true := by decide
  exact (all r r.mem_all sign spelled).imp id List.all_eq_true.mp

/-- A sign is a spelling of no other relation. -/
theorem Relation.eq_of_symbol_mem {q : Relation} (listed : q ∈ Relation.signs) (spelled : q.symbol ∈ r.spellings) :
    q = r := by
  have all : ∀ q ∈ Relation.signs, ∀ r ∈ Relation.all, q.symbol ∈ r.spellings → q = r := by decide
  exact all q listed r r.mem_all spelled

theorem Relation.marks_of_mem_signs {q : Relation} (listed : q ∈ Relation.signs) :
    q.symbol ≠ [] ∧ ∀ c ∈ q.symbol, isMark c = true := by
  have all : ∀ q ∈ Relation.signs, q.symbol ≠ [] ∧ q.symbol.all isMark = true := by decide
  exact (all q listed).imp id List.all_eq_true.mp

theorem MarkFree.not_mem (free : MarkFree s) {c : Char} (mark : isMark c = true) : c ∉ s := by
  intro member
  rw [free c member] at mark
  cases mark

theorem MarkFree.append (first : MarkFree front) (second : MarkFree back) : MarkFree (front ++ back) :=
  fun c member => (List.mem_append.mp member).elim (first c) (second c)

theorem markFree_blanks (n : Nat) : MarkFree (List.replicate n ' ') := by
  intro c member
  rw [List.eq_of_mem_replicate member]
  rfl

/-! ## A sign between texts without marks -/

/-- Marks between two texts without marks are searched for in what stands between these. -/
theorem cut?_between {marks : Text} (some : marks ≠ []) (all : ∀ c ∈ marks, isMark c = true) (free : MarkFree front)
    (free' : MarkFree back) (s : Text) :
    Text.cut? marks (front ++ (s ++ back)) = (Text.cut? marks s).map fun p => (front ++ p.1, p.2 ++ back) := by
  have behind := Text.cut?_back some (fun c member => free'.not_mem (all c member)) s
  obtain ⟨c, rest, rfl⟩ := List.exists_cons_of_ne_nil some
  rw [Text.cut?_front (free.not_mem (all c List.mem_cons_self)), behind, Option.map_map]
  rfl

/-- **A sign that is found between blanks is the one that was written.** -/
theorem cutWord?_between {q : Relation} (listed : q ∈ Relation.signs) (spelled : sign ∈ r.spellings)
    (free : MarkFree front) (free' : MarkFree back) {left right : Text}
    (found : cutWord? q.symbol (front ++ (sign ++ back)) = some (left, right)) :
    q = r ∧ front = left ++ [' '] ∧ back = ' ' :: right := by
  obtain ⟨some, all⟩ := Relation.marks_of_spelled spelled
  obtain ⟨some', all'⟩ := Relation.marks_of_mem_signs listed
  have parts : front ++ (sign ++ back) = (left ++ [' ']) ++ (q.symbol ++ ' ' :: right) := by
    rw [Text.eq_of_cut? found]
    simp
  have written : Text.IsRun isMark front sign back := ⟨some, all, free, free'⟩
  obtain ⟨before, same, after⟩ := written.unique some' all' (by simp [isMark]) (by simp [isMark]) parts
  exact ⟨Relation.eq_of_symbol_mem listed (same ▸ spelled), before, after⟩

/-- What is found first in a sign alone: the sign itself, unless it is the single equals sign. -/
theorem findSome?_spelling (spelled : sign ∈ r.spellings) :
    (Relation.signs.findSome? fun q => (Text.cut? q.symbol sign).map fun p => (p.1, q, p.2)) =
      if sign = ['='] then none else some ([], r, []) := by
  have all : ∀ r ∈ Relation.all, ∀ sign ∈ r.spellings,
      (Relation.signs.findSome? fun q => (Text.cut? q.symbol sign).map fun p => (p.1, q, p.2)) =
        if sign = ['='] then none else some ([], r, []) := by decide
  exact all r r.mem_all sign spelled

/-- The first of the signs that is found anywhere in the line. -/
theorem bare_between (spelled : sign ∈ r.spellings) (free : MarkFree front) (free' : MarkFree back) :
    (Relation.signs.findSome? fun q =>
        (Text.cut? q.symbol (front ++ (sign ++ back))).map fun p => Form.relation p.1 q p.2) =
      if sign = ['='] then none else some (.relation front r back) := by
  have each : ∀ q ∈ Relation.signs,
      ((Text.cut? q.symbol (front ++ (sign ++ back))).map fun p => Form.relation p.1 q p.2) =
        ((Text.cut? q.symbol sign).map fun p => (p.1, q, p.2)).map
          fun t => Form.relation (front ++ t.1) t.2.1 (t.2.2 ++ back) := by
    intro q listed
    obtain ⟨some, all⟩ := Relation.marks_of_mem_signs listed
    rw [cut?_between some all free free', Option.map_map, Option.map_map]
    rfl
  rw [← List.head?_filterMap, List.filterMap_congr each, List.head?_filterMap]
  have inner := congrArg (Option.map fun t => Form.relation (front ++ t.1) t.2.1 (t.2.2 ++ back))
    (findSome?_spelling spelled)
  rw [List.map_findSome?] at inner
  refine inner.trans ?_
  split
  · rfl
  · simp

/-- **The relation in a line is the one that was written**, if its marks are the only ones and no pattern is looked
for. -/
theorem relationIn?_between (spelled : sign ∈ r.spellings) (free : MarkFree front) (free' : MarkFree back)
    (noPattern : cutWord? Relation.fits.symbol (front ++ (sign ++ back)) = none) :
    ∃ left right, relationIn? (front ++ (sign ++ back)) = some (.relation left r right) ∧
      Text.trim left = Text.trim front ∧ Text.trim right = Text.trim back := by
  unfold relationIn?
  dsimp only
  cases spaced : Relation.all.findSome? fun q =>
      (cutWord? q.symbol (front ++ (sign ++ back))).map fun p => Form.relation p.1 q p.2 with
  | some form =>
      obtain ⟨q, listed, here⟩ := List.exists_of_findSome?_eq_some spaced
      obtain ⟨⟨left, right⟩, found, rfl⟩ := Option.map_eq_some_iff.mp here
      have sign : q ∈ Relation.signs := by
        refine q.mem_signs_or_fits.resolve_right ?_
        rintro rfl
        rw [noPattern] at found
        cases found
      obtain ⟨rfl, rfl, rfl⟩ := cutWord?_between sign spelled free free' found
      exact ⟨left, right, rfl, (Text.trim_concat_blank rfl left).symm, (Text.trim_blank_cons rfl right).symm⟩
  | none =>
      rw [Option.none_or, bare_between spelled free free']
      rcases Relation.spelled_cases spelled with ⟨rfl, rfl⟩ | ⟨double, -⟩
      · have cut : Text.cutAt? '=' (front ++ (['='] ++ back)) = some (front, back) :=
          Text.cutAt?_append (free.not_mem rfl) back
        rw [if_pos rfl, Option.none_or, cut]
        exact ⟨front, back, rfl, rfl, rfl⟩
      · rw [if_neg double]
        exact ⟨front, back, rfl, rfl, rfl⟩

/-- **The relation at the start of a text is the one that was written**, if no mark follows it. -/
theorem leadingRelation?_between (spelled : sign ∈ r.spellings) (free : MarkFree back) :
    leadingRelation? (sign ++ back) = some (r, back) := by
  have begins : ∀ q ∈ Relation.signs, q.symbol.isPrefixOf (sign ++ back) = q.symbol.isPrefixOf sign := by
    intro q listed
    rw [Bool.eq_iff_iff, List.isPrefixOf_iff_prefix, List.isPrefixOf_iff_prefix]
    exact Text.prefix_append_iff fun c member => free.not_mem ((Relation.marks_of_mem_signs listed).2 c member)
  have first : ∀ r ∈ Relation.all, ∀ sign ∈ r.spellings,
      (Relation.signs.find? fun q => q.symbol.isPrefixOf sign) = if sign = ['='] then none else some r := by decide
  rw [leadingRelation?, List.find?_congr begins, first r r.mem_all sign spelled]
  rcases Relation.spelled_cases spelled with ⟨rfl, rfl⟩ | ⟨double, rfl⟩
  · rfl
  · rw [if_neg double]
    simp

/-! ## Lines without other words -/

/-- A text that begins with a blank stands behind the front without blanks, so all its characters do. -/
theorem not_infix_of_absent {c : Char} {word : Text} (solid : ' ' ∉ front) (member : c ∈ word) (absent : c ∉ back) :
    ¬ ' ' :: word <:+: front ++ back := fun inside =>
  absent (((Text.infix_front_iff solid).mp inside).subset (List.mem_cons_of_mem _ member))

/-- A text that may stand behind a front without blanks and adds no word that a line is searched for. -/
structure Unworded (back : Text) : Prop where
  noExists : 'x' ∉ back
  noContains : 'c' ∉ back
  noStart : 'W' ∉ back

theorem stripEnd?_of_not_inside {ending : Text} (absent : ¬ ending <:+: s) : Text.stripEnd? ending s = none := by
  rw [Text.stripEnd?, if_neg]
  rw [List.isSuffixOf_iff_suffix]
  exact fun ends => absent ends.isInfix

/-- In a line without other words neither an assertion about presence nor a containment is found. -/
theorem Unworded.forms (free : Unworded back) (solid : ' ' ∉ front) :
    Text.stripEnd? " not exists" (front ++ back) = none ∧ Text.stripEnd? " exists" (front ++ back) = none ∧
      containmentIn? (front ++ back) = none := by
  refine ⟨stripEnd?_of_not_inside (not_infix_of_absent solid (c := 'x') (by decide) free.noExists),
    stripEnd?_of_not_inside (not_infix_of_absent solid (c := 'x') (by decide) free.noExists), ?_⟩
  rw [containmentIn?, List.findSome?_eq_none_iff]
  intro how _
  rw [Option.map_eq_none_iff, cutWord?, Text.cut?_eq_none_iff]
  cases how with
  | inside => exact not_infix_of_absent solid (c := 'c') (by decide) free.noContains
  | atStart => exact not_infix_of_absent solid (c := 'W') (by decide) free.noStart
  | atEnd => exact not_infix_of_absent solid (c := 'W') (by decide) free.noStart

/-- **A line without other words is read as a size**, where its word is found. -/
theorem Unworded.ofText_size (free : Unworded back) (solid : ' ' ∉ front) {left rest : Text}
    (found : cutWord? "length" (front ++ back) = some (left, rest)) :
    Form.ofText (front ++ back) = .size left (leadingRelation? (Text.trim rest)) := by
  obtain ⟨noAbsence, noPresence, noContainment⟩ := free.forms solid
  simp only [Form.ofText, noAbsence, noPresence, noContainment, found]

/-- **A line without other words is read as a relation**, where the word for a size is not found. -/
theorem Unworded.ofText_relation (free : Unworded back) (solid : ' ' ∉ front)
    (noLength : cutWord? "length" (front ++ back) = none) :
    Form.ofText (front ++ back) = (relationIn? (front ++ back)).getD .unreadable := by
  obtain ⟨noAbsence, noPresence, noContainment⟩ := free.forms solid
  simp only [Form.ofText, noAbsence, noPresence, noContainment, noLength]

end ApiFlow.Assertion
