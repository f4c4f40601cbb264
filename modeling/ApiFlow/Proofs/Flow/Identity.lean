import ApiFlow.Flow.Document
import ApiFlow.Proofs.Number.Digits
import ApiFlow.Proofs.Variable.Writes
import Mathlib.Data.List.Nodup

/-!
# The ids of steps

A step keeps the id that its directives give it, and a step without one is called by its place.  The names of places are
no names apart: a step can be given one of them, and then a nameless step at that place bears the same id.

* `Step.ofBlock_id` : the id that a block gives.
* `ofText_ids` : the ids of a whole document, in order.
* `ids_distinct_iff` : when they are different from each other.
-/

set_option autoImplicit false

namespace ApiFlow.Flow

/-- A fold that can fail goes through if its first step does and then the others. -/
theorem foldlM_cons_ok_iff {α β ε : Type} {step : β → α → Except ε β} {a : α} {rest : List α} {s t : β} :
    (a :: rest).foldlM step s = .ok t ↔ ∃ next, step s a = .ok next ∧ rest.foldlM step next = .ok t := by
  rw [List.foldlM_cons]
  cases step s a with
  | error e =>
      constructor
      · nofun
      · rintro ⟨_, ⟨⟩, -⟩
  | ok next =>
      constructor
      · exact fun folded => ⟨next, rfl, folded⟩
      · rintro ⟨_, ⟨⟩, folded⟩
        exact folded

/-! ## Given ids -/

/-- The id that the directives of a block give, empty if they give none; the last one counts. -/
def givenId (raw : Text) : Text := (Table.last? (headDirectives raw) "id").getD []

/-- The ids that the step blocks of a text give, in order. -/
def givenIdsOf (found : List Block) : List Text :=
  (found.filter fun b => b.kind = "step".toList).map fun b => givenId b.raw

/-- The ids that a document gives to its steps, in order. -/
def givenIds (content : Text) : List Text := givenIdsOf (blocks content)

/-- If a directive can be applied, the draft has this id. -/
def HeadDraft.GivesId (id : Text) (p : Except Interrupted HeadDraft) : Prop := ∀ d, p = .ok d → d.header.id = id

namespace HeadDraft.GivesId

variable {id : Text} {d : HeadDraft}

theorem ok (same : d.header.id = id) : GivesId id (.ok d) := by
  rintro _ ⟨⟩
  exact same

theorem number (d : HeadDraft) (value : Text) {set : StepHeader → Nat → StepHeader}
    (keeps : ∀ h n, (set h n).id = h.id) : GivesId d.header.id (d.number value set) := by
  unfold HeadDraft.number
  cases leadingNumber value with
  | ok n => exact ok (keeps _ _)
  | error e => nofun

theorem ite (here : Prop) [Decidable here] {p q : Except Interrupted HeadDraft} (yes : GivesId id p)
    (no : GivesId id q) : GivesId id (if here then p else q) := by
  by_cases h : here
  · rwa [if_pos h]
  · rwa [if_neg h]

end HeadDraft.GivesId

/-- Only one directive sets the id. -/
theorem HeadDraft.apply_id (line : Nat) (d : HeadDraft) (entry : Text × Text) :
    HeadDraft.GivesId (if entry.1 = "id".toList then entry.2 else d.header.id) (d.apply line entry) := by
  obtain ⟨key, value⟩ := entry
  by_cases here : key = "id".toList
  · rw [HeadDraft.apply, if_pos here, if_pos here]
    exact GivesId.ok rfl
  · rw [HeadDraft.apply, if_neg here, if_neg here]
    -- Every other directive sets another field: a text, the type or a number.
    have keeps (set : StepHeader → Nat → StepHeader) (same : ∀ h n, (set h n).id = h.id) :
        HeadDraft.GivesId d.header.id (d.number value set) := GivesId.number d value same
    refine .ite _ (.ok rfl) (.ite _ (.ok rfl) ?_)
    iterate 7 refine .ite _ (keeps _ fun _ _ => rfl) ?_
    exact .ite _ (.ok rfl) (.ok rfl)

theorem foldlM_apply_id {line : Nat} {entries : List (Text × Text)} {d d' : HeadDraft}
    (applied : entries.foldlM (HeadDraft.apply line) d = .ok d') :
    d'.header.id = (Table.last? entries "id").getD d.header.id := by
  induction entries generalizing d with
  | nil =>
      cases applied
      rfl
  | cons entry entries ih =>
      obtain ⟨next, first, rest⟩ := foldlM_cons_ok_iff.mp applied
      have single : Table.last? [entry] "id" = if entry.1 = "id".toList then some entry.2 else none := rfl
      rw [ih rest, HeadDraft.apply_id line d entry next first, ← List.singleton_append, Table.last?_append, single]
      cases Table.last? entries "id" <;> split <;> rfl

/-- **A step has the id that its block gives.** -/
theorem Step.ofBlock_id {raw : Text} {line : Nat} {s : Step} {warnings : List Text}
    (read : Step.ofBlock raw line = .ok (s, warnings)) : s.id = givenId raw := by
  unfold Step.ofBlock at read
  split at read
  · cases read
  · rename_i head folded
    have id := foldlM_apply_id folded
    dsimp only at read
    split at read <;> cases read <;> exact id

theorem block_ids {r r' : Reading} {b : Block} (read : r.block b = .ok r') :
    r'.document.steps.map (·.id) = r.document.steps.map (·.id) ++ givenIdsOf [b] := by
  have other (apart : b.kind ≠ "step".toList) : givenIdsOf [b] = [] := by
    rw [givenIdsOf, List.filter_cons_of_neg (by simpa using apart)]
    rfl
  unfold Reading.block at read
  split at read
  · rename_i flow
    rw [other (by rw [flow]; decide), List.append_nil]
    split at read <;> cases read <;> rfl
  · split at read
    · rename_i step
      split at read
      · rename_i s warnings single
        cases read
        simp [Reading.addStep, givenIdsOf, step, Step.ofBlock_id single]
      · cases read
    · rename_i apart
      rw [other apart, List.append_nil]
      split at read
      · cases read
        unfold Reading.addEdge
        split <;> rfl
      · split at read <;> cases read <;> rfl

theorem foldlM_ids {found : List Block} {r r' : Reading} (read : found.foldlM Reading.block r = .ok r') :
    r'.document.steps.map (·.id) = r.document.steps.map (·.id) ++ givenIdsOf found := by
  induction found generalizing r with
  | nil =>
      cases read
      exact (List.append_nil _).symm
  | cons b found ih =>
      obtain ⟨next, first, rest⟩ := foldlM_cons_ok_iff.mp read
      have split : givenIdsOf (b :: found) = givenIdsOf [b] ++ givenIdsOf found := by
        rw [givenIdsOf, givenIdsOf, givenIdsOf, ← List.map_append, ← List.filter_append, List.singleton_append]
      rw [ih rest, block_ids first, split, List.append_assoc]

/-! ## Assigned ids -/

/-- The name of a place. -/
def placeId (place : Nat) : Text := "step-" ++ Text.ofNat place

theorem placeId_injective {m n : Nat} (same : placeId m = placeId n) : m = n :=
  ofNat_injective (List.append_cancel_left same)

theorem placeId_ne_nil (n : Nat) : placeId n ≠ [] := List.cons_ne_nil _ _

/-- A given id, and the name of the place instead of none. -/
def assignedId (given : Text) (place : Nat) : Text := if given.isEmpty then placeId place else given

theorem assignedId_ne_nil (given : Text) (place : Nat) : assignedId given place ≠ [] := by
  unfold assignedId
  split
  · exact placeId_ne_nil place
  · rename_i some
    simpa using some

/-- Given ids, with the names of places instead of those that are missing. -/
def assignedIds (given : List Text) : List Text := (given.zipIdx 1).map fun p => assignedId p.1 p.2

theorem getElem?_assignedIds (given : List Text) (n : Nat) :
    (assignedIds given)[n]? = given[n]?.map (assignedId · (n + 1)) := by
  rw [assignedIds, List.getElem?_map, List.getElem?_zipIdx, Option.map_map, Nat.add_comm n 1]
  rfl

theorem numbered_id (s : Step) (place : Nat) : (s.numbered place).id = assignedId s.id place := by
  unfold Step.numbered assignedId
  split <;> rfl

theorem numberSteps_ids (steps : List Step) :
    (numberSteps steps).map (·.id) = assignedIds (steps.map (·.id)) := by
  rw [numberSteps, assignedIds, List.zipIdx_map, List.map_map, List.map_map]
  exact List.map_congr_left fun p _ => numbered_id p.1 p.2

/-- **The ids of a document** are those that it gives, with the names of places instead of those that are missing. -/
theorem ofText_ids {content : Text} {r : Reading} (read : Reading.ofText content = .ok r) :
    r.document.steps.map (·.id) = assignedIds (givenIds content) := by
  unfold Reading.ofText at read
  cases folded : (blocks content).foldlM Reading.block { notes := fenceNotes content } with
  | error e =>
      rw [folded] at read
      cases read
  | ok r' =>
      rw [folded] at read
      cases read
      have ids := foldlM_ids folded
      rw [List.map_nil, List.nil_append] at ids
      exact (numberSteps_ids _).trans (congrArg assignedIds ids)

/-! ## Different ids -/

/-- Given ids that differ stay different from each other if the name of no nameless place is given. -/
theorem nodup_assignedIds {given : List Text} (distinct : (given.filter (!·.isEmpty)).Nodup)
    (apart : ∀ n, given[n]? = some [] → placeId (n + 1) ∉ given) : (assignedIds given).Nodup := by
  rw [List.Nodup, List.pairwise_filter, List.pairwise_iff_getElem] at distinct
  rw [List.nodup_iff_getElem?_ne_getElem?]
  intro i j before inside same
  have short : j < given.length := by simpa [assignedIds] using inside
  rw [getElem?_assignedIds, getElem?_assignedIds, List.getElem?_eq_getElem short,
    List.getElem?_eq_getElem (by omega : i < given.length), Option.map_some, Option.map_some] at same
  have same := Option.some.inj same
  have listed {k : Nat} (inside : k < given.length) {t : Text} (here : given[k] = t) : given[k]? = some t := by
    rw [List.getElem?_eq_getElem inside, here]
  unfold assignedId at same
  split at same <;> split at same
  · have := placeId_injective same
    omega
  · rename_i none _
    exact apart i (listed (by omega) (List.isEmpty_iff.mp none)) (same ▸ List.getElem_mem short)
  · rename_i none
    exact apart j (listed short (List.isEmpty_iff.mp none)) (same ▸ List.getElem_mem (by omega))
  · rename_i some some'
    exact distinct i j (by omega) short before (by simpa using some) (by simpa using some') same

/-- **Ids that are given and differ stay different from each other exactly if** no step without an id stands at a place
whose name is given to another step.  No id is empty. -/
theorem ids_distinct_iff {content : Text} {r : Reading} (read : Reading.ofText content = .ok r)
    (distinct : ((givenIds content).filter (!·.isEmpty)).Nodup) :
    (∀ s ∈ r.document.steps, s.id ≠ []) ∧
      ((r.document.steps.map (·.id)).Nodup ↔
        ∀ n, (givenIds content)[n]? = some [] → placeId (n + 1) ∉ givenIds content) := by
  have ids := ofText_ids read
  refine ⟨fun s listed => ?_, fun nodup n nameless given => ?_, fun apart => ids ▸ nodup_assignedIds distinct apart⟩
  · have member : s.id ∈ assignedIds (givenIds content) := ids ▸ List.mem_map_of_mem listed
    obtain ⟨p, -, same⟩ := List.mem_map.mp member
    exact same ▸ assignedId_ne_nil p.1 p.2
  · obtain ⟨m, there⟩ := List.mem_iff_getElem?.mp given
    have first : (assignedIds (givenIds content))[n]? = some (placeId (n + 1)) := by
      rw [getElem?_assignedIds, nameless]
      rfl
    have second : (assignedIds (givenIds content))[m]? = some (placeId (n + 1)) := by
      rw [getElem?_assignedIds, there, Option.map_some, assignedId, if_neg (by simpa using placeId_ne_nil (n + 1))]
    rw [ids] at nodup
    obtain ⟨short, -⟩ := List.getElem?_eq_some_iff.mp second
    have place : m = n := (List.getElem?_inj short nodup).mp (second.trans first.symm)
    rw [place, nameless] at there
    exact placeId_ne_nil (n + 1) (Option.some.inj there).symm

/-- Three steps in tilde fences, of which the second has no id and the others have names of places. -/
def shuffled : Text :=
  "~~~step\n@id step-3\nGET /a\n~~~\n~~~step\nGET /b\n~~~\n~~~step\n@id step-1\nGET /c\n~~~\n"

/-- Names of places that are not nameless do no harm, even where they stand at other places. -/
theorem ids_distinct_shuffled :
    givenIds shuffled = ["step-3".toList, [], "step-1".toList] ∧
      ∃ r, Reading.ofText shuffled = .ok r ∧ (∀ s ∈ r.document.steps, s.id ≠ []) ∧
        (r.document.steps.map (·.id)).Nodup := by
  have given : givenIds shuffled = ["step-3".toList, [], "step-1".toList] := by decide +kernel
  have readable : (Reading.ofText shuffled).toBool = true := by decide +kernel
  cases read : Reading.ofText shuffled with
  | error e =>
      rw [read] at readable
      cases readable
  | ok r =>
      obtain ⟨named, different⟩ := ids_distinct_iff read (by rw [given]; decide)
      refine ⟨given, r, rfl, named, different.mpr fun n nameless => ?_⟩
      rw [given] at nameless ⊢
      match n with
      | 0 => cases nameless
      | 1 => decide
      | 2 => cases nameless
      | n + 3 => cases nameless

/-- A step that is given the name of the second place, in front of a step without an id. -/
def usurped : Text :=
  "~~~step\n@id step-2\nGET /a\n~~~\n~~~step\nGET /b\n~~~\n"

/-- **The name of a place can be the id of two steps**, though only one id is given. -/
theorem ids_of_usurped :
    ((givenIds usurped).filter (!·.isEmpty)).Nodup ∧
      (Reading.ofText usurped).toOption.map (fun r => r.document.steps.map (·.id)) =
        some ["step-2".toList, "step-2".toList] := by
  decide +kernel

end ApiFlow.Flow
