import ApiFlow.Text.Basic

/-!
# Tables of named values

A table keeps its names in the order of first writing.  Writing a name again changes its value in place.

* `get?_set` : after a write the name has the new value and every other name its old one.
-/

set_option autoImplicit false

namespace ApiFlow

/-- Named values in the order in which the names were first written. -/
abbrev Table (α : Type) := List (Text × α)

namespace Table

variable {α : Type}

/-- The value of a name. -/
def get? : Table α → Text → Option α
  | [], _ => none
  | (n, v) :: table, name => if n = name then some v else get? table name

/-- Whether a name has a value. -/
def has (table : Table α) (name : Text) : Bool := (get? table name).isSome

/-- Writes a value: in place if the name is there, at the end otherwise. -/
def set : Table α → Text → α → Table α
  | [], name, value => [(name, value)]
  | (n, v) :: table, name, value =>
    if n = name then (n, value) :: table else (n, v) :: set table name value

/-- Writes all values of another table, one after the other. -/
def setAll (table others : Table α) : Table α := others.foldl (fun t entry => set t entry.1 entry.2) table

/-- A table from a list of writes. -/
def ofWrites (writes : List (Text × α)) : Table α := setAll [] writes

def names (table : Table α) : List Text := table.map Prod.fst

theorem get?_set (table : Table α) (name : Text) (value : α) (other : Text) :
    get? (set table name value) other = if name = other then some value else get? table other := by
  induction table with
  | nil => simp [set, get?]
  | cons entry table ih => grind [set, get?]

end Table

end ApiFlow
