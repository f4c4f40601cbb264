import ApiFlow.Proofs.Order.Satisfiable
import ApiFlow.Proofs.Variable.Writes

/-!
# The loop that orders steps

The loop never looks at all edges again once it has counted them.  What it keeps is still what the edges say: for each id
the number of edges that hold it back, and in the heap the place of each step that may be taken, once.  So the least
place in the heap is that of the first step that may run, and the loop takes the steps of the arrangement.

* `Agenda.Tracks` : what the loop keeps is right, given what holds each id back.
* `Agenda.Tracks.release`, `Agenda.Tracks.releaseAll` : it stays right when edges are done with.
* `tracks_start` : it is right at the start.
* `Agenda.Tracks.pop` : the least place is that of the first step that may run.
* `Agenda.Tracks.stuck` : an empty heap means that no step may run.
* `take_eq_arrange` : the loop takes the steps of the arrangement.
* `take_eq_arranged` : it takes all that can be taken, however many rounds it is given beyond the number of steps.
-/

set_option autoImplicit false

namespace ApiFlow.Flow

variable {d : Document} {edges : List Edge} {done : List Text} {left : Text → Nat} {agenda : Agenda} {id : Text}
  {p : Nat}

/-! ## Places -/

theorem place?_eq_some (found : d.place? id = some p) : ∃ s, d.steps[p]? = some s ∧ s.id = id := by
  obtain ⟨bound, here, -⟩ := List.findIdx?_eq_some_iff_getElem.mp found
  exact ⟨d.steps[p], List.getElem?_eq_getElem bound, by simpa using here⟩

theorem exists_place? (known : id ∈ d.ids) : ∃ p, d.place? id = some p := by
  obtain ⟨s, step, same⟩ := mem_idsOf.mp known
  refine Option.isSome_iff_exists.mp ?_
  rw [Document.place?, List.findIdx?_isSome, List.any_eq_true]
  exact ⟨s, step, by simpa using same⟩

theorem place?_known (found : d.place? id = some p) : id ∈ d.ids := by
  obtain ⟨s, step, rfl⟩ := place?_eq_some found
  exact mem_idsOf.mpr ⟨s, List.mem_of_getElem? step, rfl⟩

theorem place?_inj {id' : Text} (found : d.place? id = some p) (found' : d.place? id' = some p) : id = id' := by
  obtain ⟨s, step, rfl⟩ := place?_eq_some found
  obtain ⟨s', step', rfl⟩ := place?_eq_some found'
  rw [Option.some.inj (step.symm.trans step')]

/-- The first step with an id stands no later than any step with that id. -/
theorem place?_le {q : Nat} {s : Step} (found : d.place? s.id = some q) (step : d.steps[p]? = some s) : q ≤ p := by
  obtain ⟨bound, rfl⟩ := List.getElem?_eq_some_iff.mp step
  obtain ⟨_, _, absent⟩ := List.findIdx?_eq_some_iff_getElem.mp found
  refine Nat.le_of_not_lt fun earlier => ?_
  simpa using absent p earlier

/-! ## What the loop keeps -/

/-- **What the loop keeps is right**: the number of edges that hold each id back, and in the heap once the place of each
id that nothing holds back and that is not done. -/
structure Agenda.Tracks (d : Document) (done : List Text) (left : Text → Nat) (agenda : Agenda) : Prop where
  degree : ∀ id ∈ d.ids, agenda.degrees.get? id = some (left id : Int)
  mem_heap : ∀ p, p ∈ agenda.heap ↔ ∃ id, d.place? id = some p ∧ id ∉ done ∧ left id = 0
  nodup : agenda.heap.Nodup

/-- One edge to an id is done with. -/
theorem Agenda.Tracks.release (tracks : agenda.Tracks d done left) (known : id ∈ d.ids) (isOpen : id ∉ done)
    (held : 0 < left id) : (agenda.release d id).Tracks d done (Function.update left id (left id - 1)) := by
  obtain ⟨place, here⟩ := exists_place? known
  have fewer : (left id : Int) - 1 = ((left id - 1 : Nat) : Int) := by omega
  have degrees : (agenda.release d id).degrees = agenda.degrees.set id ((left id - 1 : Nat) : Int) := by
    simp only [Agenda.release, tracks.degree id known, Option.getD_some, fewer]
  have heap : (agenda.release d id).heap = if left id = 1 then place :: agenda.heap else agenda.heap := by
    simp only [Agenda.release, tracks.degree id known, Option.getD_some, here]
    split <;> split <;> first | rfl | omega
  have isNew : place ∉ agenda.heap := by
    intro member
    obtain ⟨other, there, -, free⟩ := (tracks.mem_heap place).mp member
    rw [place?_inj there here] at free
    omega
  refine ⟨fun other known' => ?_, fun q => ?_, ?_⟩
  · rw [degrees, Table.get?_set]
    split
    · next same => rw [← same, Function.update_self]
    · next apart => rw [Function.update_of_ne (Ne.symm apart), tracks.degree other known']
  · have inHeap : q ∈ (agenda.release d id).heap ↔ (left id = 1 ∧ q = place) ∨ q ∈ agenda.heap := by
      rw [heap]
      split <;> simp [*]
    rw [inHeap, tracks.mem_heap]
    constructor
    · rintro (⟨last, rfl⟩ | ⟨other, there, isOpen', free⟩)
      · exact ⟨id, here, isOpen, by simp [last]⟩
      · refine ⟨other, there, isOpen', ?_⟩
        rw [Function.update_of_ne (by rintro rfl; omega), free]
    · rintro ⟨other, there, isOpen', free⟩
      by_cases same : other = id
      · subst same
        rw [Function.update_self] at free
        exact .inl ⟨by omega, Option.some.inj (there.symm.trans here)⟩
      · rw [Function.update_of_ne same] at free
        exact .inr ⟨other, there, isOpen', free⟩
  · rw [heap]
    split
    · exact List.nodup_cons.mpr ⟨isNew, tracks.nodup⟩
    · exact tracks.nodup

/-- Some edges are done with, each of which held its target back. -/
theorem Agenda.Tracks.releaseAll {targets : List Text} (tracks : agenda.Tracks d done left)
    (isOpen : ∀ id ∈ targets, id ∈ d.ids ∧ id ∉ done) (held : ∀ id, targets.count id ≤ left id) :
    (targets.foldl (Agenda.release d) agenda).Tracks d done fun id => left id - targets.count id := by
  induction targets generalizing agenda left with
  | nil => simpa using tracks
  | cons id targets ih =>
      obtain ⟨known, isOpen'⟩ := isOpen id (by simp)
      have held' := held id
      rw [List.count_cons_self] at held'
      have released := tracks.release known isOpen' (by omega)
      have rest := ih released (fun other member => isOpen other (List.mem_cons_of_mem _ member)) fun other => by
        by_cases same : other = id
        · subst same
          rw [Function.update_self]
          omega
        · have := held other
          rwa [Function.update_of_ne same, ← List.count_cons_of_ne (Ne.symm same)]
      have counted : (fun other => left other - (id :: targets).count other) =
          fun other => Function.update left id (left id - 1) other - targets.count other := by
        funext other
        by_cases same : other = id
        · subst same
          rw [Function.update_self, List.count_cons_self]
          omega
        · rw [Function.update_of_ne same, List.count_cons_of_ne (Ne.symm same)]
      rw [List.foldl_cons, counted]
      exact rest

/-! ## Edges from a step -/

/-- The targets of the edges that start at an id. -/
def targetsOf (edges : List Edge) (id : Text) : List Text := (edges.filter (·.source = id)).map (·.target)

/-- A step that is taken holds back its successors no more. -/
theorem waitingFor_append {source : Text} (isNew : source ∉ done) :
    waitingFor edges (done ++ [source]) id = waitingFor edges done id - (targetsOf edges source).count id ∧
      (targetsOf edges source).count id ≤ waitingFor edges done id := by
  have total : waitingFor edges done id =
      waitingFor edges (done ++ [source]) id + (targetsOf edges source).count id := by
    induction edges with
    | nil => rfl
    | cons e edges ih =>
        simp only [waitingFor, targetsOf] at ih ⊢
        by_cases target : e.target = id <;> by_cases here : e.source = source <;> by_cases old : e.source ∈ done <;>
          simp_all <;> omega
  omega

/-! ## The start -/

/-- The successors that edges add to a table are where the edges lead. -/
theorem getD_foldl_successors (edges : List Edge) (found : Table (List Text)) (id : Text) :
    ((edges.foldl (fun found e => found.set e.source ((found.get? e.source).getD [] ++ [e.target])) found).get? id).getD
      [] = (found.get? id).getD [] ++ targetsOf edges id := by
  induction edges generalizing found with
  | nil => simp [targetsOf]
  | cons e edges ih =>
      rw [List.foldl_cons, ih, Table.get?_set]
      by_cases here : e.source = id <;> simp [here, targetsOf]

theorem getD_successors (d : Document) (id : Text) : ((d.successors.get? id).getD []) = targetsOf d.edges id := by
  rw [Document.successors, getD_foldl_successors, Table.getD_ofWrites (by simp), List.nil_append]

/-- One more edge is counted. -/
def counted (degrees : Table Int) (e : Edge) : Table Int :=
  let degrees := degrees.set e.target ((degrees.get? e.target).getD 0 + 1)
  if degrees.has e.source then degrees else degrees.set e.source 0

theorem get?_counted {degrees : Table Int} {n : Int} (known : degrees.get? id = some n) (e : Edge) :
    (counted degrees e).get? id = some (n + if e.target = id then 1 else 0) := by
  have raised : (degrees.set e.target ((degrees.get? e.target).getD 0 + 1)).get? id =
      some (n + if e.target = id then 1 else 0) := by
    rw [Table.get?_set]
    by_cases here : e.target = id <;> simp [here, known]
  simp only [counted]
  split
  · exact raised
  · next unknown =>
      rw [Table.get?_set, if_neg ?_, raised]
      rintro rfl
      simp [Table.has, raised] at unknown

theorem get?_foldl_counted {degrees : Table Int} {n : Nat} (known : degrees.get? id = some (n : Int)) :
    (edges.foldl counted degrees).get? id = some ((n + waitingFor edges [] id : Nat) : Int) := by
  induction edges generalizing degrees n with
  | nil => simpa [waitingFor] using known
  | cons e edges ih =>
      rw [List.foldl_cons]
      have one := get?_counted known e
      by_cases here : e.target = id
      · rw [ih (n := n + 1) (by simpa [here] using one)]
        simp only [waitingFor, List.contains_nil, Bool.not_false, Bool.and_true, here, decide_true,
          List.filter_cons_of_pos, List.length_cons]
        congr 2
        omega
      · rw [ih (n := n) (by simpa [here] using one)]
        simp [waitingFor, here]

/-- The degree of an id is the number of edges that lead to it. -/
theorem get?_degrees (known : id ∈ d.ids) : d.degrees.get? id = some (waitingFor d.edges [] id : Int) := by
  have zero : (Table.ofWrites (d.steps.map fun s => (s.id, (0 : Int)))).get? id = some ((0 : Nat) : Int) := by
    refine Table.get?_ofWrites_of_mem (by simp) ?_
    simpa [Document.ids, idsOf] using known
  exact (get?_foldl_counted zero).trans (by simp)

theorem nodup_names_counted {degrees : Table Int} (distinct : (Table.names degrees).Nodup) (e : Edge) :
    (Table.names (counted degrees e)).Nodup := by
  simp only [counted]
  split
  · exact Table.nodup_names_set distinct _ _
  · exact Table.nodup_names_set (Table.nodup_names_set distinct _ _) _ _

theorem nodup_names_foldl_counted {degrees : Table Int} (distinct : (Table.names degrees).Nodup) :
    (Table.names (edges.foldl counted degrees)).Nodup := by
  induction edges generalizing degrees with
  | nil => exact distinct
  | cons e edges ih => exact ih (nodup_names_counted distinct e)

theorem nodup_names_degrees (d : Document) : (Table.names d.degrees).Nodup :=
  nodup_names_foldl_counted (Table.nodup_names_ofWrites _)

/-- **At the start every edge holds its target back.** -/
theorem tracks_start (d : Document) : (Agenda.start d).Tracks d [] (waitingFor d.edges []) where
  degree _ known := get?_degrees known
  mem_heap p := by
    simp only [Agenda.start, List.mem_filterMap, Option.ite_none_right_eq_some, List.not_mem_nil, not_false_eq_true,
      true_and]
    constructor
    · rintro ⟨⟨id, n⟩, listed, free, here⟩
      have degree := Table.get?_of_mem (nodup_names_degrees d) listed
      rw [get?_degrees (place?_known here), Option.some.injEq] at degree
      exact ⟨id, here, by simp only at free degree; omega⟩
    · rintro ⟨id, here, free⟩
      have degree := get?_degrees (place?_known here)
      exact ⟨(id, _), Table.mem_of_get? degree, by simp [free], here⟩
  nodup := by
    refine List.Nodup.filterMap ?_ (List.Nodup.of_map _ (nodup_names_degrees d))
    intro entry entry' place listed listed'
    simp only [Option.mem_def, Option.ite_none_right_eq_some] at listed listed'
    exact Prod.ext (place?_inj listed.2 listed'.2) (listed.1.trans listed'.1.symm)

/-! ## The loop -/

theorem popLeast?_eq_none_iff {heap : List Nat} : Agenda.popLeast? heap = none ↔ heap = [] := by
  simp [Agenda.popLeast?]

theorem popLeast?_eq_some {heap rest : List Nat} (popped : Agenda.popLeast? heap = some (p, rest)) :
    p ∈ heap ∧ (∀ q ∈ heap, p ≤ q) ∧ rest = heap.erase p := by
  obtain ⟨least, found, same⟩ := Option.map_eq_some_iff.mp popped
  cases same
  obtain ⟨member, le⟩ := List.min?_eq_some_iff.mp found
  exact ⟨member, le, rfl⟩

/-- A step that may run has a place in the heap, no later than its own. -/
theorem Agenda.Tracks.exists_mem_heap {q : Nat} {s : Step} (tracks : agenda.Tracks d done (waitingFor d.edges done))
    (step : d.steps[q]? = some s) (accepted : (!done.contains s.id && isReady d.edges done s.id) = true) :
    ∃ place ∈ agenda.heap, place ≤ q := by
  obtain ⟨place, here⟩ := exists_place? (mem_idsOf.mpr ⟨s, List.mem_of_getElem? step, rfl⟩)
  exact ⟨place, (tracks.mem_heap place).mpr ⟨s.id, here, by simpa [isReady] using accepted⟩, place?_le here step⟩

/-- **The least place in the heap is that of the first step that may run.** -/
theorem Agenda.Tracks.pop {rest : List Nat} (tracks : agenda.Tracks d done (waitingFor d.edges done))
    (popped : popLeast? agenda.heap = some (p, rest)) :
    ∃ s, d.steps[p]? = some s ∧ ready? d.edges done d.steps = some s ∧
      Tracks d (done ++ [s.id]) (waitingFor d.edges done) { agenda with heap := rest } := by
  obtain ⟨member, least, rfl⟩ := popLeast?_eq_some popped
  obtain ⟨id, here, isOpen, free⟩ := (tracks.mem_heap p).mp member
  obtain ⟨s, step, rfl⟩ := place?_eq_some here
  refine ⟨s, step, ?_, tracks.degree, fun q => ?_, tracks.nodup.erase p⟩
  · obtain ⟨bound, isStep⟩ := List.getElem?_eq_some_iff.mp step
    rw [ready?, List.find?_eq_some_iff_getElem]
    refine ⟨by simp [isOpen, isReady, free], p, bound, isStep, fun q earlier => ?_⟩
    rw [Bool.not_eq_true', ← Bool.not_eq_true]
    intro accepted
    obtain ⟨place, inHeap, le⟩ := tracks.exists_mem_heap (List.getElem?_eq_getElem _) accepted
    have := least place inHeap
    omega
  · rw [tracks.nodup.mem_erase_iff, tracks.mem_heap]
    constructor
    · rintro ⟨apart, id, there, isOpen', free'⟩
      refine ⟨id, there, ?_, free'⟩
      rw [List.mem_append, List.mem_singleton, not_or]
      refine ⟨isOpen', ?_⟩
      rintro rfl
      exact apart (Option.some.inj (there.symm.trans here))
    · rintro ⟨id, there, isOpen', free'⟩
      rw [List.mem_append, List.mem_singleton, not_or] at isOpen'
      refine ⟨?_, id, there, isOpen'.1, free'⟩
      rintro rfl
      exact isOpen'.2 (place?_inj there here)

/-- An empty heap means that no step may run. -/
theorem Agenda.Tracks.stuck (tracks : agenda.Tracks d done (waitingFor d.edges done))
    (nothing : popLeast? agenda.heap = none) : ready? d.edges done d.steps = none := by
  rw [popLeast?_eq_none_iff] at nothing
  refine List.find?_eq_none.mpr fun s listed accepted => ?_
  obtain ⟨q, step⟩ := List.getElem?_of_mem listed
  obtain ⟨place, inHeap, -⟩ := tracks.exists_mem_heap step accepted
  simp [nothing] at inHeap

/-- Nothing holds back what is done. -/
def Settled (edges : List Edge) (done : List Text) : Prop := ∀ id ∈ done, Unblocked edges done id

theorem Settled.append (settled : Settled edges done) (unblocked : Unblocked edges done id) :
    Settled edges (done ++ [id]) := by
  intro other member e edge target
  rw [List.mem_append, List.mem_singleton] at member
  rcases member with old | rfl
  · exact List.mem_append_left _ (settled other old e edge target)
  · exact List.mem_append_left _ (unblocked e edge target)

/-- **The loop takes the steps of the arrangement.** -/
theorem take_eq_arrange (closed : d.Closed) (rounds : Nat) (settled : Settled d.edges done)
    (tracks : agenda.Tracks d done (waitingFor d.edges done)) :
    agenda.take d d.successors rounds = arrange d.edges d.steps rounds done := by
  induction rounds generalizing done agenda with
  | zero => rfl
  | succ rounds ih =>
      unfold Agenda.take arrange
      cases popped : Agenda.popLeast? agenda.heap with
      | none => rw [tracks.stuck popped]
      | some found =>
          obtain ⟨p, rest⟩ := found
          obtain ⟨s, step, ready, tracks'⟩ := tracks.pop popped
          obtain ⟨-, isNew, unblocked⟩ := ready?_eq_some ready
          have isOpen : ∀ id ∈ targetsOf d.edges s.id, id ∈ d.ids ∧ id ∉ done ++ [s.id] := by
            intro id member
            obtain ⟨e, leads, rfl⟩ := List.mem_map.mp member
            obtain ⟨edge, source⟩ := List.mem_filter.mp leads
            rw [decide_eq_true_iff] at source
            refine ⟨(closed e edge).2, fun isDone => isNew ?_⟩
            rw [← source]
            rcases List.mem_append.mp isDone with old | here
            · exact settled _ old e edge rfl
            · exact unblocked e edge (List.mem_singleton.mp here)
          have held (id : Text) : waitingFor d.edges (done ++ [s.id]) id =
              waitingFor d.edges done id - (targetsOf d.edges s.id).count id ∧
                (targetsOf d.edges s.id).count id ≤ waitingFor d.edges done id := waitingFor_append isNew
          have released := tracks'.releaseAll isOpen fun id => (held id).2
          rw [show (fun id => waitingFor d.edges done id - (targetsOf d.edges s.id).count id) =
            waitingFor d.edges (done ++ [s.id]) from funext fun id => (held id).1.symm] at released
          simp only [step, ready, getD_successors]
          exact congrArg (s :: ·) (ih (settled.append unblocked) released)

/-- **The loop takes all that can be taken**: it ends because its heap is empty, and not for want of rounds. -/
theorem take_eq_arranged (closed : d.Closed) {rounds : Nat} (enough : d.steps.length ≤ rounds) :
    (Agenda.start d).take d d.successors rounds = d.arranged := by
  have some : (remaining [] d.steps).length ≤ d.steps.length := List.length_filter_le ..
  rw [take_eq_arrange closed rounds (fun _ member => absurd member List.not_mem_nil) (tracks_start d), Document.arranged]
  exact arrange_enough (some.trans enough) some

end ApiFlow.Flow
