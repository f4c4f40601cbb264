import ApiFlow.Flow.Order
import Mathlib.Data.Fintype.Card
import Mathlib.Data.Fintype.EquivFin
import Mathlib.Data.Fintype.Sets
import Mathlib.Data.List.Nodup
import Mathlib.Logic.Relation
import Mathlib.Order.WellFounded

/-!
# Legal orders and satisfiable documents

The arrangement of a document takes the first step that may run, again and again; it looks all edges through for that.
It is what the loop with its counters and its heap computes.

A list of steps is legal when no step is run twice and each step's predecessors are done when its turn comes.
`Legal` follows the list with the ids that are done so far, just as the arrangement does, so what the arrangement
gives and what an arbitrary order gives can be compared step by step.

The edges of a document can be satisfied when its ids are distinct, every edge joins two of its steps, and no id comes
before itself.  These are exactly the documents whose arrangement takes every step.

* `ready?`, `arrange` : the first step that may run, and the arrangement.
* `Legal.nodup`, `Legal.before` : a legal order runs no id twice, and runs the source of an edge before its target.
* `legal_of_before` : conversely, an order of distinct ids that keeps every edge is legal.
* `arrange_legal` : the arrangement is legal and takes its steps from the document.
* `arrange_stuck`, `arrange_enough` : it ends only where no step may run; the bound on its rounds is never what ends it.
* `exists_unblocked` : while a step is left, the edges being closed and without a cycle, some step may run.
* `arrange_perm` : the arrangement of a satisfiable document is a permutation of its steps.
* `acyclic_of_respects` : edges that some order keeps have no cycle.
* `length_arrange_iff` : the arrangement is as long as the document exactly if the document is satisfiable.
-/

set_option autoImplicit false

namespace ApiFlow.Flow

/-- The ids of some steps. -/
def idsOf (steps : List Step) : List Text := steps.map (·.id)

@[simp] theorem idsOf_nil : idsOf [] = [] := rfl

@[simp] theorem idsOf_cons (s : Step) (steps : List Step) : idsOf (s :: steps) = s.id :: idsOf steps := rfl

theorem mem_idsOf {steps : List Step} {id : Text} : id ∈ idsOf steps ↔ ∃ s ∈ steps, s.id = id := by
  simp [idsOf]

/-! ## Steps in turn -/

/-- How many edges lead to an id from steps that are not done. -/
def waitingFor (edges : List Edge) (done : List Text) (id : Text) : Nat :=
  (edges.filter fun e => e.target = id && !done.contains e.source).length

/-- Whether nothing that an id waits for is left. -/
def isReady (edges : List Edge) (done : List Text) (id : Text) : Bool := waitingFor edges done id = 0

/-- The first step that is not done and may run. -/
def ready? (edges : List Edge) (done : List Text) (steps : List Step) : Option Step :=
  steps.find? fun s => !done.contains s.id && isReady edges done s.id

/-- The steps that can be run one after the other, at most `rounds` of them. -/
def arrange (edges : List Edge) (steps : List Step) : (rounds : Nat) → (done : List Text) → List Step
  | 0, _ => []
  | rounds + 1, done =>
    match ready? edges done steps with
    | none => []
    | some s => s :: arrange edges steps rounds (done ++ [s.id])

/-- Every predecessor of an id is done. -/
def Unblocked (edges : List Edge) (done : List Text) (id : Text) : Prop :=
  ∀ e ∈ edges, e.target = id → e.source ∈ done

theorem isReady_iff {edges : List Edge} {done : List Text} {id : Text} :
    isReady edges done id = true ↔ Unblocked edges done id := by
  simp [isReady, waitingFor, Unblocked]

/-- Behind the ids that are done, each step is new and unblocked when its turn comes. -/
def Legal (edges : List Edge) : (done : List Text) → List Step → Prop
  | _, [] => True
  | done, s :: rest => s.id ∉ done ∧ Unblocked edges done s.id ∧ Legal edges (done ++ [s.id]) rest

/-! ## Legal orders keep the edges -/

variable {edges : List Edge} {done : List Text} {steps order : List Step}

theorem Legal.nodup (legal : Legal edges done order) (fresh : done.Nodup) : (done ++ idsOf order).Nodup := by
  induction order generalizing done with
  | nil => simpa using fresh
  | cons s rest ih =>
      obtain ⟨isNew, -, legal⟩ := legal
      have fresh' : (done ++ [s.id]).Nodup := by
        refine List.nodup_append.mpr ⟨fresh, List.nodup_singleton _, ?_⟩
        rintro id member _ here rfl
        exact isNew (List.mem_singleton.mp here ▸ member)
      simpa using ih legal fresh'

/-- An edge into a legal order starts at a done id or earlier in the order. -/
theorem Legal.before (legal : Legal edges done order) {e : Edge} (edge : e ∈ edges)
    (target : e.target ∈ idsOf order) :
    e.source ∈ done ∨ [e.source, e.target].Sublist (idsOf order) := by
  induction order generalizing done with
  | nil => simp at target
  | cons s rest ih =>
      obtain ⟨-, unblocked, legal⟩ := legal
      rcases List.mem_cons.mp target with here | later
      · exact Or.inl (unblocked e edge here)
      · rcases ih legal later with isDone | before
        · rcases List.mem_append.mp isDone with early | here
          · exact Or.inl early
          · have same : e.source = s.id := List.mem_singleton.mp here
            refine Or.inr ?_
            rw [idsOf_cons, same]
            exact (List.singleton_sublist.mpr later).cons_cons _
        · exact Or.inr (before.cons _)

theorem legal_of_before (fresh : (done ++ idsOf order).Nodup)
    (before : ∀ e ∈ edges, e.target ∈ idsOf order →
      e.source ∈ done ∨ [e.source, e.target].Sublist (idsOf order)) :
    Legal edges done order := by
  induction order generalizing done with
  | nil => trivial
  | cons s rest ih =>
      have split : (done ++ [s.id] ++ idsOf rest).Nodup := by simpa using fresh
      have isNew : s.id ∉ done := fun member =>
        (List.nodup_append.mp fresh).2.2 _ member _ (by simp) rfl
      have notLater : s.id ∉ idsOf rest := fun member =>
        (List.nodup_append.mp split).2.2 _ (by simp) _ member rfl
      refine ⟨isNew, fun e edge target => ?_, ih split fun e edge target => ?_⟩
      · rcases before e edge (by simp [target]) with isDone | between
        · exact isDone
        · rw [target, idsOf_cons, List.cons_sublist_cons'] at between
          rcases between with inside | ⟨-, inside⟩
          · exact absurd (inside.subset (by simp)) notLater
          · exact absurd (List.singleton_sublist.mp inside) notLater
      · rcases before e edge (by simp [target]) with isDone | between
        · exact Or.inl (by simp [isDone])
        · rw [idsOf_cons, List.cons_sublist_cons'] at between
          rcases between with inside | ⟨same, -⟩
          · exact Or.inr inside
          · exact Or.inl (by simp [same])

/-! ## The arrangement -/

theorem ready?_eq_some {s : Step} (found : ready? edges done steps = some s) :
    s ∈ steps ∧ s.id ∉ done ∧ Unblocked edges done s.id := by
  have accepted := List.find?_some found
  simp only [Bool.and_eq_true, Bool.not_eq_true', List.contains_eq_mem, decide_eq_false_iff_not,
    isReady_iff] at accepted
  exact ⟨List.mem_of_find?_eq_some found, accepted⟩

theorem ready?_eq_none (none : ready? edges done steps = none) {s : Step} (member : s ∈ steps)
    (isNew : s.id ∉ done) : ¬ Unblocked edges done s.id := by
  have rejected := List.find?_eq_none.mp none s member
  simpa [isNew, isReady_iff] using rejected

theorem arrange_legal (rounds : Nat) : Legal edges done (arrange edges steps rounds done) := by
  induction rounds generalizing done with
  | zero => trivial
  | succ rounds ih =>
      unfold arrange
      cases found : ready? edges done steps with
      | none => trivial
      | some s => exact ⟨(ready?_eq_some found).2.1, (ready?_eq_some found).2.2, ih⟩

theorem arrange_subset (rounds : Nat) : arrange edges steps rounds done ⊆ steps := by
  induction rounds generalizing done with
  | zero => simp [arrange]
  | succ rounds ih =>
      unfold arrange
      cases found : ready? edges done steps with
      | none => simp
      | some s => exact List.cons_subset.mpr ⟨(ready?_eq_some found).1, ih⟩

/-- The steps that are not done. -/
def remaining (done : List Text) (steps : List Step) : List Step := steps.filter fun s => !done.contains s.id

/-- Running a step that is not done leaves fewer steps to run. -/
theorem remaining_shrinks {s : Step} (member : s ∈ steps) (isNew : s.id ∉ done) :
    (remaining (done ++ [s.id]) steps).length < (remaining done steps).length := by
  have shorter : remaining (done ++ [s.id]) steps = (remaining done steps).filter fun t => t.id != s.id := by
    simp only [remaining, List.filter_filter]
    congr 1
    funext t
    by_cases same : t.id = s.id <;> simp [same]
  rw [shorter, ← List.countP_eq_length_filter]
  refine Nat.lt_of_le_of_ne List.countP_le_length fun all => ?_
  have inside : s ∈ remaining done steps := by simp [remaining, member, isNew]
  simpa using List.countP_eq_length.mp all s inside

/-- Where no step is left none may run. -/
theorem ready?_of_remaining (nothing : (remaining done steps).length ≤ 0) : ready? edges done steps = none := by
  have empty : remaining done steps = [] := List.eq_nil_of_length_eq_zero (Nat.le_zero.mp nothing)
  refine List.find?_eq_none.mpr fun s member accepted => ?_
  have inside : s ∈ remaining done steps := by
    simp only [Bool.and_eq_true] at accepted
    exact List.mem_filter.mpr ⟨member, accepted.1⟩
  simp [empty] at inside

/-- **The rounds never run out.**  With as many rounds as there are steps left, the arrangement ends where no step may
run. -/
theorem arrange_stuck (rounds : Nat) (enough : (remaining done steps).length ≤ rounds) :
    ready? edges (done ++ idsOf (arrange edges steps rounds done)) steps = none := by
  induction rounds generalizing done with
  | zero => simpa [arrange] using ready?_of_remaining enough
  | succ rounds ih =>
      unfold arrange
      cases found : ready? edges done steps with
      | none => simpa using found
      | some s =>
          obtain ⟨member, isNew, -⟩ := ready?_eq_some found
          have fewer := remaining_shrinks member isNew
          have enough' : (remaining (done ++ [s.id]) steps).length ≤ rounds := by omega
          simpa using ih enough'

/-- More rounds than there are steps left change nothing. -/
theorem arrange_enough {rounds rounds' : Nat} (enough : (remaining done steps).length ≤ rounds)
    (enough' : (remaining done steps).length ≤ rounds') :
    arrange edges steps rounds done = arrange edges steps rounds' done := by
  induction rounds generalizing done rounds' with
  | zero => cases rounds' <;> simp [arrange, ready?_of_remaining enough]
  | succ rounds ih =>
      cases rounds' with
      | zero => simp [arrange, ready?_of_remaining enough']
      | succ rounds' =>
          unfold arrange
          cases found : ready? edges done steps with
          | none => rfl
          | some s =>
              obtain ⟨member, isNew, -⟩ := ready?_eq_some found
              have fewer := remaining_shrinks member isNew
              exact congrArg (s :: ·) (ih (by omega) (by omega))

/-! ## Documents that can be satisfied -/

namespace Document

/-- The ids of a document, in its order. -/
def ids (d : Document) : List Text := idsOf d.steps

/-- An edge leads from one id to another. -/
def Leads (d : Document) (a b : Text) : Prop := ∃ e ∈ d.edges, e.source = a ∧ e.target = b

/-- Every edge joins two steps of the document. -/
def Closed (d : Document) : Prop := ∀ e ∈ d.edges, e.source ∈ d.ids ∧ e.target ∈ d.ids

/-- No id comes before itself. -/
def Acyclic (d : Document) : Prop := ∀ id, ¬ Relation.TransGen d.Leads id id

/-- A document whose edges can be satisfied. -/
structure Satisfiable (d : Document) : Prop where
  distinct : d.ids.Nodup
  closed : d.Closed
  acyclic : d.Acyclic

end Document

/-- An order keeps the edges: the source of each stands before its target. -/
def Respects (edges : List Edge) (order : List Step) : Prop :=
  ∀ e ∈ edges, [e.source, e.target].Sublist (idsOf order)

/-- The arrangement of all steps of a document. -/
def Document.arranged (d : Document) : List Step := arrange d.edges d.steps d.steps.length []

variable {d : Document}

theorem step?_isNone_iff {id : Text} : (d.step? id).isNone ↔ id ∉ d.ids := by
  simp [Document.step?, Document.ids, mem_idsOf]

theorem dangling?_eq_none_iff : dangling? d = none ↔ d.Closed := by
  simp only [dangling?, List.find?_eq_none, Document.Closed, Bool.or_eq_true, step?_isNone_iff, not_or, not_not]

/-- In an order that holds every step of a closed document once, being legal is keeping the edges. -/
theorem legal_iff_respects (closed : d.Closed) (distinct : (idsOf order).Nodup)
    (complete : ∀ id, id ∈ idsOf order ↔ id ∈ d.ids) : Legal d.edges [] order ↔ Respects d.edges order := by
  constructor
  · intro legal e edge
    have target : e.target ∈ idsOf order := (complete _).mpr (closed e edge).2
    exact (legal.before edge target).resolve_left List.not_mem_nil
  · exact fun respects => legal_of_before (by simpa using distinct) fun e edge _ => Or.inr (respects e edge)

/-! ## Cycles -/

theorem idxOf_lt_of_sublist {ids : List Text} {a b : Text} (distinct : ids.Nodup) (before : [a, b].Sublist ids) :
    ids.idxOf a < ids.idxOf b := by
  induction ids with
  | nil => cases before
  | cons id ids ih =>
      obtain ⟨isNew, distinct⟩ := List.nodup_cons.mp distinct
      have later : b ∈ ids := by
        rcases List.cons_sublist_cons'.mp before with inside | ⟨-, inside⟩
        · exact inside.subset (by simp)
        · exact List.singleton_sublist.mp inside
      have ne : id ≠ b := fun same => isNew (same ▸ later)
      rw [List.idxOf_cons_ne _ ne]
      by_cases here : id = a
      · simp [List.idxOf_cons_eq _ here]
      · rw [List.idxOf_cons_ne _ here]
        have inside := (List.cons_sublist_cons'.mp before).resolve_right fun h => here h.1.symm
        exact Nat.succ_lt_succ (ih distinct inside)

/-- Edges that some order of distinct ids keeps have no cycle: positions grow along them. -/
theorem acyclic_of_respects (distinct : (idsOf order).Nodup) (respects : Respects d.edges order) : d.Acyclic := by
  intro id cycle
  have grows : ∀ b, Relation.TransGen d.Leads id b → (idsOf order).idxOf id < (idsOf order).idxOf b := by
    intro b path
    induction path with
    | single leads =>
        obtain ⟨e, edge, rfl, rfl⟩ := leads
        exact idxOf_lt_of_sublist distinct (respects e edge)
    | tail _ leads ih =>
        obtain ⟨e, edge, rfl, rfl⟩ := leads
        exact Nat.lt_trans ih (idxOf_lt_of_sublist distinct (respects e edge))
  exact Nat.lt_irrefl _ (grows id cycle)

/-- An id that no other open id comes before is unblocked, and finitely many ids without a cycle have a first one. -/
theorem exists_unblocked (closed : d.Closed) (acyclic : d.Acyclic) {done : List Text} {id : Text}
    (member : id ∈ d.ids) (isNew : id ∉ done) :
    ∃ first ∈ d.ids, first ∉ done ∧ Unblocked d.edges done first := by
  let precedes : {x // x ∈ d.ids} → {x // x ∈ d.ids} → Prop := fun a b => Relation.TransGen d.Leads a b
  have : IsTrans _ precedes := ⟨fun _ _ _ => Relation.TransGen.trans⟩
  have : Std.Irrefl precedes := ⟨fun a => acyclic a⟩
  have wellFounded : WellFounded precedes := Finite.wellFounded_of_trans_of_irrefl precedes
  obtain ⟨⟨first, inside⟩, isOpen, least⟩ := wellFounded.has_min {x | x.1 ∉ done} ⟨⟨id, member⟩, isNew⟩
  refine ⟨first, inside, isOpen, fun e edge target => ?_⟩
  by_contra source
  exact least ⟨e.source, (closed e edge).1⟩ source (Relation.TransGen.single ⟨e, edge, rfl, target⟩)

/-! ## Complete arrangements -/

theorem arranged_legal : Legal d.edges [] d.arranged := arrange_legal _

theorem arranged_distinct : (idsOf d.arranged).Nodup := by
  simpa using (arranged_legal (d := d)).nodup List.nodup_nil

theorem arranged_subset : d.arranged ⊆ d.steps := arrange_subset _

/-- Nothing may run behind an arrangement. -/
theorem arranged_stuck : ready? d.edges (idsOf d.arranged) d.steps = none := by
  have enough : (remaining [] d.steps).length ≤ d.steps.length := List.length_filter_le ..
  simpa [Document.arranged] using arrange_stuck d.steps.length enough

theorem mem_arranged (closed : d.Closed) (acyclic : d.Acyclic) {id : Text} (member : id ∈ d.ids) :
    id ∈ idsOf d.arranged := by
  by_contra isNew
  obtain ⟨first, inside, isOpen, unblocked⟩ := exists_unblocked closed acyclic member isNew
  obtain ⟨s, step, rfl⟩ := mem_idsOf.mp inside
  exact ready?_eq_none arranged_stuck step isOpen unblocked

theorem idsOf_subset {steps : List Step} (inside : order ⊆ steps) {id : Text} (member : id ∈ idsOf order) :
    id ∈ idsOf steps := by
  obtain ⟨s, here, rfl⟩ := mem_idsOf.mp member
  exact mem_idsOf.mpr ⟨s, inside here, rfl⟩

/-- Steps with distinct ids and as many of them as the document has are all its steps. -/
theorem perm_of_length (distinct : (idsOf order).Nodup) (inside : order ⊆ d.steps)
    (length : order.length = d.steps.length) : order.Perm d.steps :=
  (distinct.of_map.subperm inside).perm_of_length_le length.ge

/-- **The arrangement of a satisfiable document is complete.** -/
theorem arrange_perm (sat : d.Satisfiable) : d.arranged.Perm d.steps := by
  refine perm_of_length arranged_distinct arranged_subset ?_
  have same : (idsOf d.arranged).Perm d.ids := by
    refine (List.perm_ext_iff_of_nodup arranged_distinct sat.distinct).mpr fun id => ?_
    exact ⟨idsOf_subset arranged_subset, mem_arranged sat.closed sat.acyclic⟩
  simpa [idsOf, Document.ids] using same.length_eq

/-- **A closed document is satisfiable exactly if its arrangement takes all steps.** -/
theorem length_arrange_iff (closed : d.Closed) : d.arranged.length = d.steps.length ↔ d.Satisfiable := by
  constructor
  · intro length
    have perm := perm_of_length arranged_distinct arranged_subset length
    have ids : (idsOf d.arranged).Perm d.ids := perm.map _
    have respects : Respects d.edges d.arranged :=
      (legal_iff_respects closed arranged_distinct fun _ => ids.mem_iff).mp arranged_legal
    exact ⟨ids.nodup_iff.mp arranged_distinct, closed, acyclic_of_respects arranged_distinct respects⟩
  · exact fun sat => (arrange_perm sat).length_eq

end ApiFlow.Flow
