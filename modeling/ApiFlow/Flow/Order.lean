import ApiFlow.Flow.Basic
import ApiFlow.Note
import ApiFlow.Text.Class

/-!
# The order of steps

Edges constrain the order of steps and nothing else does: among the steps whose predecessors have all been taken, the
first in the document is taken next.  Where the edges cannot be satisfied the document's own order stands, with a
warning.

The steps are taken in a loop.  It counts for each id the edges that still hold it back, and keeps a heap with the
places of the steps that nothing holds back.

* `Agenda.release` is what becomes of an edge whose source was taken.
* `Agenda.take` is the loop; every round takes one step, so it ends.
* `order` gives the steps in the order in which they run, and the warnings.
-/

set_option autoImplicit false

namespace ApiFlow.Flow

/-- Where the first step with an id stands. -/
def Document.place? (d : Document) (id : Text) : Option Nat := d.steps.findIdx? fun s => s.id = id

/-- How many edges lead to each id. -/
def Document.degrees (d : Document) : Table Int :=
  d.edges.foldl (fun counted e =>
      let counted := counted.set e.target ((counted.get? e.target).getD 0 + 1)
      if counted.has e.source then counted else counted.set e.source 0)
    (Table.ofWrites (d.steps.map fun s => (s.id, 0)))

/-- Where the edges lead that start at each id. -/
def Document.successors (d : Document) : Table (List Text) :=
  d.edges.foldl (fun found e => found.set e.source ((found.get? e.source).getD [] ++ [e.target]))
    (Table.ofWrites (d.steps.map fun s => (s.id, [])))

/-- How many edges hold each id back, and the places of the steps that may be taken. -/
structure Agenda where
  degrees : Table Int
  heap : List Nat

namespace Agenda

/-- Nothing has been taken. -/
def start (d : Document) : Agenda where
  degrees := d.degrees
  heap := d.degrees.filterMap fun entry => if entry.2 = 0 then d.place? entry.1 else none

/-- An edge holds an id back no more; if it was the last one, the step may be taken. -/
def release (d : Document) (agenda : Agenda) (id : Text) : Agenda :=
  let left := (agenda.degrees.get? id).getD 0 - 1
  { degrees := agenda.degrees.set id left
    heap := if left = 0 then (d.place? id).toList ++ agenda.heap else agenda.heap }

/-- The least place in a heap, and the heap without it. -/
def popLeast? (heap : List Nat) : Option (Nat × List Nat) := heap.min?.map fun place => (place, heap.erase place)

/-- The steps that are taken one after the other, at most `rounds` of them. -/
def take (d : Document) (successors : Table (List Text)) : (rounds : Nat) → Agenda → List Step
  | 0, _ => []
  | rounds + 1, agenda =>
    match popLeast? agenda.heap with
    | none => []
    | some (place, heap) =>
      match d.steps[place]? with
      | none => []
      | some s =>
        s :: take d successors rounds (((successors.get? s.id).getD []).foldl (release d) { agenda with heap })

end Agenda

/-- The first edge with an end that no step has. -/
def dangling? (d : Document) : Option Edge :=
  d.edges.find? fun e => (d.step? e.source).isNone || (d.step? e.target).isNone

/-- The warning about an edge to nowhere. -/
def danglingNote (e : Edge) : Note :=
  ⟨.warning, .ordering, "Edge " ++ e.source ++ " -> " ++ e.target ++ " (line " ++ Text.ofNat e.line
    ++ ") names an unknown step; falling back to document order"⟩

/-- The warning about edges that cannot be satisfied. -/
def unsatisfiedNote (ordered total : Nat) : Note :=
  ⟨.warning, .ordering, "Flow edges could not be satisfied (" ++ Text.ofNat ordered ++ " of "
    ++ Text.ofNat total ++ " steps ordered); falling back to document order"⟩

/-- The steps in running order, and the warnings. -/
def order (d : Document) : List Step × List Note :=
  if d.edges.isEmpty then (d.steps, [])
  else match dangling? d with
    | some e => (d.steps, [danglingNote e])
    | none =>
      let ordered := Agenda.take d d.successors d.steps.length (Agenda.start d)
      if ordered.length = d.steps.length then (ordered, [])
      else (d.steps, [unsatisfiedNote ordered.length d.steps.length])

end ApiFlow.Flow
