import ApiFlow.Yaml.Value

/-!
# Values that can be written

The text of a value shows the integers in it, but for those behind the ellipsis of a list or map inside itself.  A value
has no text exactly if one of these integers has too many digits.

* `Value.shown` : the integers that the text of a value shows.
* `Value.nestedIn_eq_none_iff`, `Value.text?_eq_none_iff` : when there is no text.
-/

set_option autoImplicit false

namespace ApiFlow.Yaml.Value

mutual

/-- The integers that a value shows inside a list, given the numbers of what is around it. -/
def shownIn (around : List Nat) : Value → List Int
  | int i => [i]
  | list items => shownItems around items
  | pair a b => shownIn around a ++ shownIn around b
  | set members => shownItems around members
  | map entries => shownEntries around entries
  | named id body => if around.contains id then [] else shownIn (id :: around) body
  | _ => []

/-- The integers that items show. -/
def shownItems (around : List Nat) : List Value → List Int
  | [] => []
  | item :: items => shownIn around item ++ shownItems around items

/-- The integers that entries show. -/
def shownEntries (around : List Nat) : List (Value × Value) → List Int
  | [] => []
  | (key, value) :: entries => shownIn around key ++ shownIn around value ++ shownEntries around entries

end

/-- The integers that a value shows. -/
def shown (value : Value) : List Int := shownIn [] value

/-- An integer with more digits than can be written. -/
def IsLong (i : Int) : Prop := tenTo Integer.digitLimit ≤ i.natAbs

theorem integerText?_eq_none_iff {i : Int} : Integer.text? i = none ↔ IsLong i := by
  unfold Integer.text? IsLong
  split
  · exact iff_of_false nofun (by omega)
  · exact iff_of_true rfl (by omega)

mutual

/-- **A value has no form inside a list** exactly if it shows an integer that is too long. -/
theorem nestedIn_eq_none_iff (around : List Nat) (value : Value) :
    nestedIn around value = none ↔ ∃ i ∈ shownIn around value, IsLong i := by
  cases value with
  | int i => simp [nestedIn, shownIn, integerText?_eq_none_iff]
  | list items => simp [nestedIn, shownIn, nestedItems_eq_none_iff around items]
  | pair a b =>
      have first := nestedIn_eq_none_iff around a
      have second := nestedIn_eq_none_iff around b
      simp only [nestedIn, shownIn, List.mem_append, or_and_right, exists_or, ← first, ← second]
      cases nestedIn around a <;> cases nestedIn around b <;> simp
  | set members => simp [nestedIn, shownIn, nestedItems_eq_none_iff around members]
  | map entries => simp [nestedIn, shownIn, nestedEntries_eq_none_iff around entries]
  | named id body =>
      rw [nestedIn, shownIn]
      split
      · simp
      · exact nestedIn_eq_none_iff (id :: around) body
  | _ => simp [nestedIn, shownIn]

theorem nestedItems_eq_none_iff (around : List Nat) (items : List Value) :
    nestedItems around items = none ↔ ∃ i ∈ shownItems around items, IsLong i := by
  cases items with
  | nil => simp [nestedItems, shownItems]
  | cons item items =>
      have first := nestedIn_eq_none_iff around item
      have rest := nestedItems_eq_none_iff around items
      simp only [nestedItems, shownItems, List.mem_append, or_and_right, exists_or, ← first, ← rest]
      cases nestedIn around item <;> cases nestedItems around items <;> simp

theorem nestedEntries_eq_none_iff (around : List Nat) (entries : List (Value × Value)) :
    nestedEntries around entries = none ↔ ∃ i ∈ shownEntries around entries, IsLong i := by
  cases entries with
  | nil => simp [nestedEntries, shownEntries]
  | cons entry entries =>
      obtain ⟨key, value⟩ := entry
      have first := nestedIn_eq_none_iff around key
      have second := nestedIn_eq_none_iff around value
      have rest := nestedEntries_eq_none_iff around entries
      simp only [nestedEntries, shownEntries, List.mem_append, or_and_right, exists_or, ← first, ← second, ← rest]
      cases nestedIn around key <;> cases nestedIn around value <;> cases nestedEntries around entries <;> simp

end

/-- **A value has no text** exactly if it shows an integer that is too long. -/
theorem text?_eq_none_iff {value : Value} : value.text? = none ↔ ∃ i ∈ value.shown, IsLong i := by
  have nested : value.nested? = none ↔ ∃ i ∈ value.shown, IsLong i := nestedIn_eq_none_iff [] value
  cases value with
  | str s => simp [text?, shown, shownIn]
  | date d => simp [text?, shown, shownIn]
  | moment m => simp [text?, shown, shownIn]
  | _ => exact nested

end ApiFlow.Yaml.Value
