import ApiFlow.Run.Check

/-!
# References that stand for themselves

A reference is open if neither a built-in nor a variable nor a default gives it a value.  The names that filling a
template leaves unresolved are those of its open references, one for each, and the check before a step finds a name
missing exactly if it is that of an open reference.

* `openNames` : the names of the open references of a template.
* `unresolved_fill`, `fillStrict_eq` : what filling does about them.
* `mem_missingNames`, `preflight?_eq_none_iff` : what the check before a step does about them.
-/

set_option autoImplicit false

namespace ApiFlow

namespace Text

theorem mem_unique {texts : List Text} {t : Text} : t ∈ unique texts ↔ t ∈ texts := by
  have seen : ∀ front : List Text,
      t ∈ texts.foldl (fun seen t => if seen.contains t then seen else seen ++ [t]) front ↔ t ∈ front ∨ t ∈ texts := by
    induction texts with
    | nil => simp
    | cons first rest ih =>
        intro front
        rw [List.foldl_cons, ih, List.mem_cons, ← or_assoc]
        refine or_congr_left ?_
        by_cases known : front.contains first = true
        · rw [if_pos known]
          have listed : first ∈ front := by simpa using known
          exact ⟨Or.inl, fun either => either.elim id fun same => same ▸ listed⟩
        · rw [if_neg known]
          simp
  rw [unique, seen]
  simp

end Text

namespace Template

variable {builtins : Builtins} {vars : Table Text} {template : Text}

/-- Nothing gives the reference a value. -/
def Reference.isOpen (r : Reference) (builtins : Builtins) (vars : Table Text) : Bool :=
  !builtins.has r.name && !vars.has r.name && r.fallback.isNone

/-- The names of the open references of a template, one for each. -/
def openNames (builtins : Builtins) (vars : Table Text) (template : Text) : List Text :=
  ((references template).filter fun r => r.isOpen builtins vars).map (·.name)

theorem Reference.value_eq_none_iff {r : Reference} {d : Draws} :
    (r.value builtins vars d).1 = none ↔ r.isOpen builtins vars = true := by
  unfold Reference.value Reference.isOpen
  by_cases known : builtins.has r.name = true
  · simp [known]
  · rw [if_neg known]
    cases found : vars.get? r.name with
    | some value => simp [Table.has, found]
    | none => cases r.fallback <;> simp [Table.has, found, known]

/-- The reference in a piece, if it has a name. -/
def Piece.named? : Piece → Option Reference
  | .char _ => none
  | .reference r => if r.name.isEmpty then none else some r

/-- The names of the open references among some pieces. -/
def openIn (builtins : Builtins) (vars : Table Text) (pieces : List Piece) : List Text :=
  ((pieces.filterMap Piece.named?).filter fun r => r.isOpen builtins vars).map (·.name)

theorem openNames_eq (builtins : Builtins) (vars : Table Text) (template : Text) :
    openNames builtins vars template = openIn builtins vars (pieces template) := by
  have same : references template = (pieces template).filterMap Piece.named? := rfl
  rw [openNames, same, openIn]

/-- Filling leaves the open references unresolved, in order. -/
theorem unresolved_fillPieces (pieces : List Piece) (d : Draws) :
    (fillPieces builtins vars pieces d).1.unresolved = openIn builtins vars pieces := by
  induction pieces generalizing d with
  | nil => rfl
  | cons p rest ih =>
      cases p with
      | char c => exact ih d
      | reference r =>
          by_cases nameless : r.name.isEmpty = true
          · have none : Piece.named? (.reference r) = none := if_pos nameless
            rw [fillPieces, if_pos nameless, openIn, List.filterMap_cons_none none]
            exact ih d
          · have some : Piece.named? (.reference r) = some r := if_neg nameless
            have following := ih (r.value builtins vars d).2
            rw [fillPieces, if_neg nameless, openIn, List.filterMap_cons_some some]
            cases value : (r.value builtins vars d).1 with
            | none =>
                have isOpen := Reference.value_eq_none_iff.mp value
                simp only [List.filter_cons, isOpen, if_true, List.map_cons, value]
                exact congrArg (r.name :: ·) following
            | some v =>
                have isClosed : ¬ r.isOpen builtins vars = true := fun isOpen =>
                  nomatch value.symm.trans (Reference.value_eq_none_iff.mpr isOpen)
                simp only [List.filter_cons, isClosed, value]
                exact following

/-- **Filling a template leaves its open references unresolved**, whatever was drawn before. -/
theorem unresolved_fill (builtins : Builtins) (vars : Table Text) (template : Text) (d : Draws) :
    (fill builtins vars template d).1.unresolved = openNames builtins vars template :=
  (unresolved_fillPieces (pieces template) d).trans (openNames_eq builtins vars template).symm

/-- Filling strictly fails exactly if a reference is open. -/
theorem fillStrict_eq (builtins : Builtins) (vars : Table Text) (template : Text) (d : Draws) :
    fillStrict builtins vars template d =
      (if openNames builtins vars template = [] then .ok (fill builtins vars template d).1.text
        else .error (Text.unique (openNames builtins vars template)), (fill builtins vars template d).2) := by
  simp only [fillStrict, unresolved_fill]
  by_cases none : openNames builtins vars template = []
  · simp [none]
  · have some : (openNames builtins vars template).isEmpty = false := by simpa using none
    rw [if_neg none]
    simp [some]

/-- An open reference is one that only a variable can give a value, and no variable does. -/
theorem mem_openNames {name : Text} :
    name ∈ openNames builtins vars template ↔ name ∈ requiredNames builtins template ∧ vars.has name = false := by
  rw [requiredNames, Text.mem_unique, openNames, List.mem_map, List.mem_map]
  simp only [List.mem_filter, Reference.isOpen, Bool.and_eq_true, Bool.not_eq_true']
  constructor
  · rintro ⟨r, ⟨listed, ⟨other, unset⟩, bare⟩, rfl⟩
    exact ⟨⟨r, ⟨listed, bare, other⟩, rfl⟩, unset⟩
  · rintro ⟨⟨r, ⟨listed, bare, other⟩, rfl⟩, unset⟩
    exact ⟨r, ⟨listed, ⟨other, unset⟩, bare⟩, rfl⟩

theorem openNames_eq_nil_iff :
    openNames builtins vars template = [] ↔ ∀ name ∈ requiredNames builtins template, vars.has name = true := by
  rw [List.eq_nil_iff_forall_not_mem]
  simp only [mem_openNames, not_and, Bool.not_eq_false]

end Template

open Template

variable {builtins : Builtins} {vars : Table Text} {step : Flow.Step}

/-- **A name is missing** exactly if it is that of an open reference in one of the texts of the step. -/
theorem mem_missingNames {name : Text} :
    name ∈ missingNames builtins vars step ↔ ∃ template ∈ templatesOf step, name ∈ openNames builtins vars template := by
  simp only [missingNames, List.mem_filter, List.mem_flatMap, mem_openNames, Bool.not_eq_true']
  constructor
  · rintro ⟨⟨template, listed, required⟩, unset⟩
    exact ⟨template, listed, required, unset⟩
  · rintro ⟨template, listed, required, unset⟩
    exact ⟨⟨template, listed, required⟩, unset⟩

theorem firstName?_eq_none_iff {names : List Text} : firstName? names = none ↔ names = [] := by
  rw [firstName?, List.head?_eq_none_iff, ← List.length_eq_zero_iff, Text.sort, List.length_mergeSort,
    List.length_eq_zero_iff]

/-- **The check before a step** lets it pass exactly if none of its texts has an open reference. -/
theorem preflight?_eq_none_iff {origins : Table Text} {failed : List Text} :
    preflight? builtins vars step origins failed = none ↔
      ∀ template ∈ templatesOf step, openNames builtins vars template = [] := by
  rw [preflight?, Option.map_eq_none_iff, firstName?_eq_none_iff]
  simp only [List.eq_nil_iff_forall_not_mem, mem_missingNames, not_exists, not_and]
  exact ⟨fun none template listed name => none name template listed,
    fun none name template listed => none template listed name⟩

end ApiFlow
