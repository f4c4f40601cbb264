import ApiFlow.Proofs.Order.Agenda
import Mathlib.Data.List.Lex

/-!
# The order of a document

Where the edges can be satisfied, the order of a document is the least among those that keep them: of two orders, the
one comes earlier that has, at their first difference, the step that stands earlier in the document.  Where they cannot,
the document's own order stands and one warning is given.

* `arrange_least` : the arrangement comes before every other legal order of as many steps.
* `arrange_of_legal` : a legal document is arranged as it is written.
* `order_least` : the order of a satisfiable document is a permutation of its steps, keeps the edges and is least.
* `order_fail_open` : the order of any document holds each of its steps once, and exactly the documents that cannot be
  satisfied have a warning.
-/

set_option autoImplicit false

namespace ApiFlow.Flow

/-- Where a step stands in its document. -/
def Document.place (d : Document) (s : Step) : Nat := d.ids.idxOf s.id

/-- One order comes earlier than another: at the first difference it has the step with the lower place. -/
def Document.Earlier (d : Document) (first second : List Step) : Prop :=
  List.Lex (· < ·) (first.map d.place) (second.map d.place)

variable {d : Document} {edges : List Edge} {done : List Text} {steps other : List Step}

/-! ## The arrangement is least -/

/-- The step that is found has no acceptable one before it. -/
theorem idxOf_le_of_find? {p : Text → Bool} {s t : Step} (found : steps.find? (fun x => p x.id) = some s)
    (member : t ∈ steps) (accepted : p t.id = true) : (idsOf steps).idxOf s.id ≤ (idsOf steps).idxOf t.id := by
  induction steps with
  | nil => simp at found
  | cons x rest ih =>
      by_cases first : p x.id = true
      · have same : x = s := by simpa [List.find?_cons, first] using found
        simp [same]
      · have found' : rest.find? (fun x => p x.id) = some s := by simpa [List.find?_cons, first] using found
        have taken : p s.id = true := List.find?_some (p := fun x : Step => p x.id) found'
        have beforeS : x.id ≠ s.id := fun same => first (same ▸ taken)
        have beforeT : x.id ≠ t.id := fun same => first (same ▸ accepted)
        have later : t ∈ rest := (List.mem_cons.mp member).resolve_left fun same => beforeT (same ▸ rfl)
        simpa [List.idxOf_cons_ne, beforeS, beforeT] using ih found' later

theorem place_le_of_ready? {s t : Step} (found : ready? edges done d.steps = some s) (member : t ∈ d.steps)
    (isNew : t.id ∉ done) (unblocked : Unblocked edges done t.id) : d.place s ≤ d.place t := by
  refine idxOf_le_of_find? (p := fun id => !done.contains id && isReady edges done id) found member ?_
  simp [isNew, isReady_iff.mpr unblocked]

theorem eq_of_place_eq (distinct : d.ids.Nodup) {s t : Step} (hs : s ∈ d.steps) (ht : t ∈ d.steps)
    (same : d.place s = d.place t) : s = t := by
  have inside : s.id ∈ d.ids := mem_idsOf.mpr ⟨s, hs, rfl⟩
  exact List.inj_on_of_nodup_map distinct hs ht ((List.idxOf_inj inside).mp same)

/-- **The arrangement is the least legal order.**  At each turn it takes the first step that may run, so an order that
agrees with it so far can only go on with the same step or with a later one. -/
theorem arrange_least (distinct : d.ids.Nodup) (rounds : Nat) (legal : Legal edges done other)
    (inside : other ⊆ d.steps) (length : other.length = (arrange edges d.steps rounds done).length) :
    other = arrange edges d.steps rounds done ∨ d.Earlier (arrange edges d.steps rounds done) other := by
  induction rounds generalizing done other with
  | zero => exact Or.inl (List.eq_nil_of_length_eq_zero length)
  | succ rounds ih =>
      unfold arrange at length ⊢
      cases found : ready? edges done d.steps with
      | none =>
          rw [found] at length
          exact Or.inl (List.eq_nil_of_length_eq_zero length)
      | some s =>
          rw [found] at length
          cases other with
          | nil => simp at length
          | cons t rest =>
              obtain ⟨isNew, unblocked, legal⟩ := legal
              obtain ⟨member, insideRest⟩ := List.cons_subset.mp inside
              rcases (place_le_of_ready? found member isNew unblocked).lt_or_eq with lower | same
              · exact Or.inr (List.Lex.rel lower)
              · obtain rfl := eq_of_place_eq distinct (ready?_eq_some found).1 member same
                rcases ih legal insideRest (by simpa using length) with equal | earlier
                · exact Or.inl (congrArg (s :: ·) equal)
                · exact Or.inr (List.Lex.cons earlier)

theorem Document.Earlier.asymm {first second : List Step} (earlier : d.Earlier first second) :
    ¬ d.Earlier second first :=
  fun later => Std.Asymm.asymm (r := List.Lex (· < ·)) _ _ earlier later

/-- Two orders that come before every other order of a kind to which both belong are the same. -/
theorem eq_of_least {first second : List Step} (least : second = first ∨ d.Earlier first second)
    (least' : first = second ∨ d.Earlier second first) : second = first := by
  rcases least with same | earlier
  · exact same
  · exact (least'.resolve_right earlier.asymm).symm

/-- What is left of a document is arranged as it is written, if that is legal behind what is done. -/
theorem arrange_of_legal (front rest : List Step) (distinct : (idsOf (front ++ rest)).Nodup)
    (legal : Legal edges (idsOf front) rest) :
    arrange edges (front ++ rest) rest.length (idsOf front) = rest := by
  induction rest generalizing front with
  | nil => rfl
  | cons s rest ih =>
      obtain ⟨isNew, unblocked, legal⟩ := legal
      have found : ready? edges (idsOf front) (front ++ s :: rest) = some s := by
        have skip : front.find? (fun x => !(idsOf front).contains x.id && isReady edges (idsOf front) x.id) = none := by
          refine List.find?_eq_none.mpr fun x member => ?_
          simp [mem_idsOf.mpr ⟨x, member, rfl⟩]
        rw [ready?, List.find?_append, skip]
        simp [isNew, isReady_iff.mpr unblocked]
      have front' : idsOf (front ++ [s]) = idsOf front ++ [s.id] := by simp [idsOf]
      have tail := ih (front ++ [s]) (by simpa using distinct) (front' ▸ legal)
      simp only [List.length_cons, arrange, found, ← front']
      simpa using tail

/-! ## Documents that can be satisfied -/

theorem arranged_respects (sat : d.Satisfiable) : Respects d.edges d.arranged := by
  have ids : (idsOf d.arranged).Perm d.ids := (arrange_perm sat).map _
  exact (legal_iff_respects sat.closed arranged_distinct fun _ => ids.mem_iff).mp arranged_legal

/-- The arrangement comes before every other order that keeps the edges. -/
theorem arranged_least (sat : d.Satisfiable) (perm : other.Perm d.steps) (respects : Respects d.edges other) :
    other = d.arranged ∨ d.Earlier d.arranged other := by
  have ids : (idsOf other).Perm d.ids := perm.map _
  have legal := (legal_iff_respects sat.closed (ids.nodup_iff.mpr sat.distinct) fun _ => ids.mem_iff).mpr respects
  exact arrange_least sat.distinct _ legal perm.subset (perm.trans (arrange_perm sat).symm).length_eq

theorem arranged_of_respects (sat : d.Satisfiable) (respects : Respects d.edges d.steps) : d.arranged = d.steps := by
  have legal := (legal_iff_respects sat.closed sat.distinct fun _ => Iff.rfl).mpr respects
  exact arrange_of_legal [] d.steps sat.distinct legal

theorem order_of_satisfiable (sat : d.Satisfiable) : order d = (d.arranged, []) := by
  unfold order
  by_cases none : d.edges = []
  · have respects : Respects d.edges d.steps := by simp [Respects, none]
    simp [none, arranged_of_respects sat respects]
  · simp only [List.isEmpty_iff, none, if_false, dangling?_eq_none_iff.mpr sat.closed,
      take_eq_arranged sat.closed (Nat.le_refl _)]
    exact if_pos (arrange_perm sat).length_eq

/-- Satisfaction depends on the steps and on what the edges lead from and to, not on their order or number. -/
theorem satisfiable_congr {d' : Document} (sameSteps : d'.steps = d.steps)
    (sameEdges : ∀ a b, d'.Leads a b ↔ d.Leads a b) (sat : d.Satisfiable) : d'.Satisfiable := by
  have leads : d'.Leads = d.Leads := by funext a b; exact propext (sameEdges a b)
  have ids : d'.ids = d.ids := congrArg idsOf sameSteps
  refine ⟨ids ▸ sat.distinct, fun e edge => ?_, fun id => leads ▸ sat.acyclic id⟩
  obtain ⟨e', edge', source, target⟩ := (sameEdges _ _).mp ⟨e, edge, rfl, rfl⟩
  rw [ids, ← source, ← target]
  exact sat.closed e' edge'

theorem respects_congr {d' : Document} (sameEdges : ∀ a b, d'.Leads a b ↔ d.Leads a b)
    (respects : Respects d.edges other) : Respects d'.edges other := by
  intro e edge
  obtain ⟨e', edge', source, target⟩ := (sameEdges _ _).mp ⟨e, edge, rfl, rfl⟩
  rw [← source, ← target]
  exact respects e' edge'

/-- Edges that lead from and to the same ids give the same arrangement. -/
theorem arranged_congr {d' : Document} (sameSteps : d'.steps = d.steps)
    (sameEdges : ∀ a b, d'.Leads a b ↔ d.Leads a b) (sat : d.Satisfiable) : d'.arranged = d.arranged := by
  have sat' := satisfiable_congr sameSteps sameEdges sat
  have here := arranged_least sat (sameSteps ▸ arrange_perm sat')
    (respects_congr (fun a b => (sameEdges a b).symm) (arranged_respects sat'))
  have there := arranged_least sat' (sameSteps.symm ▸ arrange_perm sat)
    (respects_congr sameEdges (arranged_respects sat))
  have places : d'.place = d.place := by funext s; simp [Document.place, Document.ids, sameSteps]
  simp only [Document.Earlier, places] at there
  exact eq_of_least here there

/-- **The order of a satisfiable document is the least one that keeps its edges.**  It depends on the edges as a relation
only, and leaves a document alone that is written in such an order. -/
theorem order_least (d : Document) (sat : d.Satisfiable) :
    (order d).1.Perm d.steps ∧ Respects d.edges (order d).1 ∧
      (∀ other : List Step, other.Perm d.steps → Respects d.edges other →
        other = (order d).1 ∨ d.Earlier (order d).1 other) ∧
      (∀ d' : Document, d'.steps = d.steps → (∀ a b, d'.Leads a b ↔ d.Leads a b) → (order d').1 = (order d).1) ∧
      (Respects d.edges d.steps → (order d).1 = d.steps) := by
  rw [order_of_satisfiable sat]
  refine ⟨arrange_perm sat, arranged_respects sat, fun _ perm respects => arranged_least sat perm respects,
    fun d' sameSteps sameEdges => ?_, arranged_of_respects sat⟩
  rw [order_of_satisfiable (satisfiable_congr sameSteps sameEdges sat)]
  exact arranged_congr sameSteps sameEdges sat

/-- Two steps that must both come before a third, which is written first; one edge is given twice. -/
def fanIn : Document where
  steps := [{ id := "report" }, { id := "login" }, { id := "audit" }]
  edges := [⟨"audit", "report", [], 1⟩, ⟨"login", "report", [], 2⟩, ⟨"audit", "report", "ok", 3⟩]

instance (edges : List Edge) (order : List Step) : Decidable (Respects edges order) :=
  inferInstanceAs (Decidable (∀ e ∈ edges, [e.source, e.target].Sublist (idsOf order)))

theorem fanIn_satisfiable : fanIn.Satisfiable := by
  have distinct : (idsOf fanIn.steps).Nodup := by decide
  have closed : fanIn.Closed := by unfold Document.Closed; decide
  have respects : Respects fanIn.edges [{ id := "login" }, { id := "audit" }, { id := "report" }] := by decide
  exact ⟨distinct, closed, acyclic_of_respects (by decide) respects⟩

theorem order_least_fanIn :
    fanIn.Satisfiable ∧ idsOf (order fanIn).1 = ["login".toList, "audit".toList, "report".toList] ∧
      (order fanIn).1.Perm fanIn.steps ∧ Respects fanIn.edges (order fanIn).1 :=
  have least := order_least fanIn fanIn_satisfiable
  ⟨fanIn_satisfiable, by decide, least.1, least.2.1⟩

/-! ## All documents -/

/-- Why edges cannot be satisfied: one names an unknown step, two steps share an id, or there is a cycle. -/
def Document.Broken (d : Document) : Prop :=
  (∃ e ∈ d.edges, e.source ∉ d.ids ∨ e.target ∉ d.ids) ∨ ¬ d.ids.Nodup ∨ ∃ id, Relation.TransGen d.Leads id id

theorem broken_iff : d.Broken ↔ ¬ d.Satisfiable := by
  constructor
  · rintro (⟨e, edge, source | target⟩ | shared | ⟨id, cycle⟩) sat
    · exact source (sat.closed e edge).1
    · exact target (sat.closed e edge).2
    · exact shared sat.distinct
    · exact sat.acyclic id cycle
  · intro unsatisfied
    by_contra sound
    simp only [Document.Broken, not_or, not_exists, not_and, not_not] at sound
    exact unsatisfied ⟨sound.2.1, sound.1, sound.2.2⟩

/-- A document with edges that cannot be satisfied keeps its own order, with a warning. -/
theorem order_of_broken (hasEdges : d.edges ≠ []) (broken : d.Broken) :
    ∃ note, order d = (d.steps, [note]) ∧ note.level = .warning := by
  have unsatisfied := broken_iff.mp broken
  simp only [order, List.isEmpty_iff, hasEdges, if_false]
  cases found : dangling? d with
  | some e => exact ⟨_, rfl, rfl⟩
  | none =>
      have closed := dangling?_eq_none_iff.mp found
      have incomplete := mt (length_arrange_iff closed).mp unsatisfied
      simp only [take_eq_arranged closed (Nat.le_refl _)]
      exact ⟨_, if_neg incomplete, rfl⟩

theorem order_perm (d : Document) : (order d).1.Perm d.steps := by
  by_cases sat : d.Satisfiable
  · rw [order_of_satisfiable sat]
    exact arrange_perm sat
  · by_cases none : d.edges = []
    · simp [order, none]
    · obtain ⟨_, same, -⟩ := order_of_broken none (broken_iff.mpr sat)
      rw [same]

/-- **No step is lost or run twice, whatever the edges are.**  The documents with a warning are those whose edges cannot
be satisfied, and they keep their own order. -/
theorem order_fail_open (d : Document) :
    (order d).1.Perm d.steps ∧
      (d.edges ≠ [] ∧ d.Broken →
        (order d).1 = d.steps ∧ ∃ note, (order d).2 = [note] ∧ note.level = .warning) ∧
      (¬ (d.edges ≠ [] ∧ d.Broken) → (order d).2 = []) := by
  by_cases none : d.edges = []
  · simp [order, none]
  by_cases sat : d.Satisfiable
  · rw [order_of_satisfiable sat]
    exact ⟨arrange_perm sat, fun broken => absurd sat (broken_iff.mp broken.2), fun _ => rfl⟩
  · have broken := broken_iff.mpr sat
    obtain ⟨note, same, level⟩ := order_of_broken none broken
    rw [same]
    exact ⟨List.Perm.refl _, fun _ => ⟨rfl, note, rfl, level⟩, fun sound => absurd ⟨none, broken⟩ sound⟩

end ApiFlow.Flow
