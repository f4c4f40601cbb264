import ApiFlow.Proofs.Flow.Identity
import ApiFlow.Proofs.Flow.Metadata
import ApiFlow.Proofs.Flow.Relocation

/-!
# Documents that are written one below the other

A text that leaves no block open can be read by itself: what follows it is read as if it stood alone, only further down.

* `blocks_seam` : the blocks of two texts with a line feed between them.
* `merge_assoc` : metadata are joined in any grouping.
* `Reading.foldlM_block_ok_iff` : what blocks add does not depend on what was read before.
* `ofText_seam` : two documents, read as one.
-/

set_option autoImplicit false

namespace ApiFlow.Flow

variable {k : Nat}

/-! ## Blocks -/

/-- Scanning goes on where it was left. -/
theorem scanBlocks_append (open? : Option OpenBlock) (number : Nat) (first second : List Text) :
    scanBlocks open? number (first ++ second) =
      ((scanBlocks open? number first).1 ++
          (scanBlocks (scanBlocks open? number first).2 (number + first.length) second).1,
        (scanBlocks (scanBlocks open? number first).2 (number + first.length) second).2) := by
  induction first generalizing open? number with
  | nil => cases open? <;> rfl
  | cons line first ih =>
      have place : number + (line :: first).length = number + 1 + first.length := by
        rw [List.length_cons]
        omega
      rw [place, List.cons_append]
      cases open? with
      | none =>
          rw [scanBlocks, scanBlocks]
          cases fenceOf? (Text.trim line) with
          | none => exact ih none (number + 1)
          | some fence => exact ih (some (.start fence (Text.trim line) number)) (number + 1)
      | some b =>
          rw [scanBlocks, scanBlocks]
          by_cases closes : b.fence.isPrefixOf (Text.trim line) = true
          · rw [if_pos closes, if_pos closes, ih none]
            rfl
          · rw [if_neg closes, if_neg closes]
            exact ih (some { b with body := b.body ++ [line] }) (number + 1)

/-- **The blocks of two texts** with a line feed between them, the first of which leaves none open. -/
theorem blocks_seam {first : Text} (closed : unclosed? first = none) (second : Text) :
    blocks (first ++ '\n' :: second) =
      blocks first ++ (blocks second).map (Block.moved (Text.lines (first ++ ['\n'])).length) := by
  -- The line that the line feed may stand on is empty, so it opens no block.
  have ended : scanBlocks none 1 (Text.lines (first ++ ['\n'])) = (blocks first, none) := by
    obtain ⟨gap, either, same⟩ := Text.lines_feed first
    have quiet (number : Nat) : scanBlocks none number gap = ([], none) := by
      rcases either with rfl | rfl <;> rfl
    have last : (scanBlocks none 1 (Text.lines first)).2 = none := closed
    rw [same, Text.lines_eq_nil_iff.mpr rfl, List.append_nil, scanBlocks_append, last, quiet, List.append_nil]
    rfl
  have further := scanBlocks_moved (Text.lines (first ++ ['\n'])).length none 1 (Text.lines second)
  rw [Option.map_none] at further
  rw [blocks, Text.lines_seam, scanBlocks_append, ended]
  dsimp only
  rw [further]
  rfl

/-! ## Metadata -/

/-- **Metadata of three documents** come to the same whichever two are joined first. -/
theorem merge_assoc (first : Meta) {second : Meta} (distinct : (Table.names second.headers).Nodup) (third : Meta) :
    (first.merge second).merge third = first.merge (second.merge third) := by
  have either (a b c : Text) : orElse (orElse a b) c = orElse a (orElse b c) := by
    unfold orElse
    by_cases none : c.isEmpty = true
    · rw [if_pos none, if_pos none]
    · rw [if_neg none, if_neg none, if_neg none]
  cases tags : third.tags <;>
    simp [Meta.merge, either, Table.setAll_setAll first.headers distinct, tags]

theorem merge_empty (m : Meta) : m.merge {} = m := rfl

theorem nodup_headers_apply {m : Meta} (distinct : (Table.names m.headers).Nodup) (entry : Text × Text) :
    (Table.names (m.apply entry).headers).Nodup := by
  obtain ⟨key, value⟩ := entry
  unfold Meta.apply
  dsimp only
  repeat' split
  all_goals first | exact distinct | exact Table.nodup_names_set distinct _ _

theorem nodup_headers_ofBlock (raw : Text) : (Table.names (Meta.ofBlock raw).headers).Nodup := by
  have empty : (Table.names ({} : Meta).headers).Nodup := List.nodup_nil
  exact List.foldlRecOn (motive := fun m => (Table.names m.headers).Nodup) (directives raw) Meta.apply empty
    fun _ distinct entry _ => nodup_headers_apply distinct entry

/-! ## Reading on -/

/-- A document with another one behind it. -/
def Document.append (d e : Document) : Document where
  info := d.info.merge e.info
  steps := d.steps ++ e.steps
  edges := d.edges ++ e.edges
  warnings := d.warnings ++ e.warnings

/-- A reading with another one behind it. -/
def Reading.append (r x : Reading) : Reading where
  document := r.document.append x.document
  plain := r.plain ++ x.plain
  notes := r.notes ++ x.notes

/-- Each header of the metadata is there once. -/
def Reading.HeadersOnce (r : Reading) : Prop := (Table.names r.document.info.headers).Nodup

namespace Reading

theorem append_empty (r : Reading) : r.append {} = r := by
  obtain ⟨⟨info, steps, edges, warnings⟩, plain, notes⟩ := r
  simp only [append, Document.append, merge_empty, List.append_nil]

theorem append_assoc (r : Reading) {x : Reading} (once : x.HeadersOnce) (y : Reading) :
    (r.append x).append y = r.append (x.append y) := by
  simp only [append, Document.append, merge_assoc r.document.info once, List.append_assoc]

theorem append_meta (r : Reading) {m : Meta} (distinct : (Table.names m.headers).Nodup) :
    r.append { document := { info := ({} : Meta).merge m } } =
      { r with document := { r.document with info := r.document.info.merge m } } := by
  rw [merge_first distinct]
  simp only [append, Document.append, List.append_nil]

/-- **What a block adds does not depend on what was read before.** -/
theorem block_eq (r : Reading) (b : Block) :
    (∃ e, Reading.block {} b = .error e ∧ ∃ e', r.block b = .error e') ∨
      ∃ x, Reading.block {} b = .ok x ∧ x.HeadersOnce ∧ r.block b = .ok (r.append x) := by
  have none : ∃ x : Reading, Except.ok (ε := ReadingStopped) {} = .ok x ∧ x.HeadersOnce ∧
      Except.ok (ε := ReadingStopped) r = .ok (r.append x) :=
    ⟨{}, rfl, List.nodup_nil, by rw [append_empty]⟩
  have plain : ∃ x : Reading, Except.ok (ε := ReadingStopped) (Reading.addPlain {} b) = .ok x ∧ x.HeadersOnce ∧
      Except.ok (ε := ReadingStopped) (r.addPlain b) = .ok (r.append x) :=
    ⟨_, rfl, List.nodup_nil, by simp [addPlain, append, Document.append, merge_empty]⟩
  unfold Reading.block
  split
  · split
    · have once := nodup_headers_ofBlock b.raw
      refine .inr ⟨_, rfl, ?_, by rw [append_meta r once]⟩
      rw [HeadersOnce, merge_first once]
      exact once
    · exact .inr plain
  · split
    · split
      · exact .inr ⟨_, rfl, List.nodup_nil, by simp [addStep, append, Document.append, merge_empty]⟩
      · exact .inl ⟨_, rfl, _, rfl⟩
    · split
      · refine .inr ⟨_, rfl, ?_, ?_⟩
        · unfold addEdge
          split <;> exact List.nodup_nil
        · unfold addEdge
          split <;> simp [append, Document.append, merge_empty]
      · split
        · exact .inr plain
        · exact .inr none

theorem HeadersOnce.append {x : Reading} (once : x.HeadersOnce) (y : Reading) : (x.append y).HeadersOnce :=
  Table.nodup_names_setAll once y.document.info.headers

/-- **What blocks add does not depend on what was read before.** -/
theorem foldlM_block_ok_iff {r r' : Reading} {found : List Block} :
    found.foldlM Reading.block r = .ok r' ↔
      ∃ x, found.foldlM Reading.block {} = .ok x ∧ x.HeadersOnce ∧ r' = r.append x := by
  induction found generalizing r r' with
  | nil =>
      constructor
      · rintro ⟨⟩
        exact ⟨{}, rfl, List.nodup_nil, (append_empty r).symm⟩
      · rintro ⟨_, ⟨⟩, -, rfl⟩
        rw [append_empty]
        rfl
  | cons b found ih =>
      simp only [foldlM_cons_ok_iff]
      rcases block_eq r b with ⟨e, alone, e', here⟩ | ⟨x, alone, once, here⟩
      · simp [alone, here]
      · constructor
        · rintro ⟨next, first, rest⟩
          cases Except.ok.inj (here.symm.trans first)
          obtain ⟨y, others, onceOthers, rfl⟩ := ih.mp rest
          exact ⟨x.append y, ⟨x, alone, ih.mpr ⟨y, others, onceOthers, rfl⟩⟩, once.append y, append_assoc r once y⟩
        · rintro ⟨z, ⟨next, first, rest⟩, -, rfl⟩
          cases Except.ok.inj (alone.symm.trans first)
          obtain ⟨y, others, onceOthers, rfl⟩ := ih.mp rest
          exact ⟨r.append x, here, ih.mpr ⟨y, others, onceOthers, (append_assoc r once y).symm⟩⟩

end Reading

/-! ## Two documents -/

/-- Steps with an id each, counted from a place. -/
def numberStepsFrom (place : Nat) (steps : List Step) : List Step :=
  (steps.zipIdx place).map fun p => p.1.numbered p.2

theorem numberSteps_append (first second : List Step) :
    numberSteps (first ++ second) = numberSteps first ++ numberStepsFrom (first.length + 1) second := by
  rw [numberSteps, List.zipIdx_append, List.map_append, Nat.add_comm 1]
  rfl

theorem length_numberSteps (steps : List Step) : (numberSteps steps).length = steps.length := by
  rw [numberSteps, List.length_map, List.length_zipIdx]

theorem numbered_moved (s : Step) (place : Nat) : (s.moved k).numbered place = (s.numbered place).moved k := by
  have id : (s.moved k).id = s.id := rfl
  unfold Step.numbered
  rw [id]
  split <;> rfl

theorem numberStepsFrom_moved (place : Nat) (steps : List Step) :
    numberStepsFrom place (steps.map (Step.moved k)) = (numberStepsFrom place steps).map (Step.moved k) := by
  rw [numberStepsFrom, numberStepsFrom, List.zipIdx_map, List.map_map, List.map_map]
  exact List.map_congr_left fun p _ => numbered_moved p.1 p.2

/-- A document that one document begins and another, `k` lines further down, goes on with.  The steps of the second
document are those that it has by itself, apart from the places by which the nameless ones are called. -/
structure Reading.Joins (k : Nat) (given : List Text) (first second whole : Reading) : Prop where
  info : whole.document.info = first.document.info.merge second.document.info
  steps : ∃ own : List Step, own.map (·.id) = given ∧ second.document.steps = numberSteps own ∧
    whole.document.steps = first.document.steps ++
      (numberStepsFrom (first.document.steps.length + 1) own).map (Step.moved k)
  edges : whole.document.edges = first.document.edges ++ second.document.edges.map (Edge.moved k)
  plain : whole.plain = first.plain ++ second.plain.map (PlainRequest.moved k)
  warnings : ∃ added, WarningsMoved k second.document.warnings added ∧
    whole.document.warnings = first.document.warnings ++ added

/-- A reading with its steps numbered. -/
def Reading.numbered (r : Reading) : Reading :=
  { r with document := { r.document with steps := numberSteps r.document.steps } }

/-- A reading joins what goes on behind it. -/
theorem Reading.Moved.joins {second further : Reading} (same : Reading.Moved k second further) (first : Reading) :
    Reading.Joins k (second.document.steps.map (·.id)) first.numbered second.numbered (first.append further).numbered
    where
  info := congrArg first.document.info.merge same.info
  steps := by
    refine ⟨second.document.steps, rfl, rfl, ?_⟩
    calc numberSteps (first.document.steps ++ further.document.steps)
        = numberSteps first.document.steps ++
            numberStepsFrom (first.document.steps.length + 1) further.document.steps := numberSteps_append _ _
      _ = numberSteps first.document.steps ++
            (numberStepsFrom ((numberSteps first.document.steps).length + 1) second.document.steps).map
              (Step.moved k) := by
          rw [same.steps, numberStepsFrom_moved, length_numberSteps]
  edges := congrArg (first.document.edges ++ ·) same.edges
  plain := congrArg (first.plain ++ ·) same.plain
  warnings := ⟨further.document.warnings, same.warnings, rfl⟩

theorem ofText_ok_iff {content : Text} {r : Reading} :
    Reading.ofText content = .ok r ↔
      ∃ own, (blocks content).foldlM Reading.block { notes := fenceNotes content } = .ok own ∧ r = own.numbered := by
  unfold Reading.ofText
  cases (blocks content).foldlM Reading.block { notes := fenceNotes content } with
  | error e =>
      constructor
      · nofun
      · rintro ⟨_, ⟨⟩, -⟩
  | ok own =>
      constructor
      · rintro ⟨⟩
        exact ⟨own, rfl, rfl⟩
      · rintro ⟨_, ⟨⟩, rfl⟩
        rfl

/-- **Two documents with a line feed between them are read as one after the other**, if the first leaves no block open:
the second is read as it is by itself, further down by the lines of the first, and its nameless steps are counted on. -/
theorem ofText_seam {a b : Text} {first second : Reading} (closed : unclosed? a = none)
    (readFirst : Reading.ofText a = .ok first) (readSecond : Reading.ofText b = .ok second) :
    ∃ whole, Reading.ofText (a ++ '\n' :: b) = .ok whole ∧
      Reading.Joins (Text.lines (a ++ ['\n'])).length (givenIds b) first second whole := by
  obtain ⟨one, foldFirst, rfl⟩ := ofText_ok_iff.mp readFirst
  obtain ⟨two, foldSecond, rfl⟩ := ofText_ok_iff.mp readSecond
  obtain ⟨x, alone, onceFirst, rfl⟩ := Reading.foldlM_block_ok_iff.mp foldFirst
  -- Read from nothing, the blocks of the second text give the same further down.
  have start : Reading.Moved (Text.lines (a ++ ['\n'])).length { notes := fenceNotes b } {} :=
    ⟨rfl, rfl, rfl, .nil, rfl⟩
  obtain ⟨y, further, same⟩ := start.foldlM_block foldSecond
  obtain ⟨y', again, onceSecond, -⟩ := Reading.foldlM_block_ok_iff.mp further
  cases Except.ok.inj (further.symm.trans again)
  have folded : (blocks (a ++ '\n' :: b)).foldlM Reading.block { notes := fenceNotes (a ++ '\n' :: b) } =
      .ok ((Reading.append { notes := fenceNotes (a ++ '\n' :: b) } x).append y) := by
    rw [blocks_seam closed, List.foldlM_append, Reading.foldlM_block_ok_iff.mpr ⟨x, alone, onceFirst, rfl⟩]
    exact Reading.foldlM_block_ok_iff.mpr ⟨y, further, onceSecond, rfl⟩
  have given : two.document.steps.map (·.id) = givenIds b := foldlM_ids foldSecond
  have joined := same.joins (Reading.append { notes := fenceNotes a } x)
  rw [given] at joined
  -- The notes for the log are no part of what is joined.
  exact ⟨_, ofText_ok_iff.mpr ⟨_, folded, rfl⟩,
    ⟨joined.info, joined.steps, joined.edges, joined.plain, joined.warnings⟩⟩

/-- A document with a header, a step without an id and a request, ending with a carriage return. -/
def opening : Text :=
  "~~~flow\n@flow a\n@header X: 1\n@header Y: 1\n~~~\n~~~step\nGET /a\n~~~\n~~~http\nGET /b\n~~~\r"

/-- A document with other headers, two steps of which one has an id, and an edge. -/
def continuation : Text :=
  "~~~flow\n@name b\n@header Y: 2\n~~~\n~~~step\n@id c\n@on-fail stop\nGET /c\n~~~\n~~~step\n@type x\n?\n~~~\n" ++
    "~~~edge\n@from c\n@to step-3\n~~~"

/-- The carriage return and the line feed are one end of a line, so the second document stands eleven lines down. -/
theorem ofText_seam_opening :
    unclosed? opening = none ∧ ∃ first second whole, Reading.ofText opening = .ok first ∧
      Reading.ofText continuation = .ok second ∧ Reading.ofText (opening ++ '\n' :: continuation) = .ok whole ∧
      Reading.Joins 11 ["c".toList, []] first second whole := by
  have closed : unclosed? opening = none := by decide +kernel
  have readable : (Reading.ofText opening).toBool = true ∧ (Reading.ofText continuation).toBool = true := by
    decide +kernel
  have lines : (Text.lines (opening ++ ['\n'])).length = 11 := by decide +kernel
  have given : givenIds continuation = ["c".toList, []] := by decide +kernel
  cases readFirst : Reading.ofText opening with
  | error e =>
      rw [readFirst] at readable
      cases readable.1
  | ok first =>
      cases readSecond : Reading.ofText continuation with
      | error e =>
          rw [readSecond] at readable
          cases readable.2
      | ok second =>
          obtain ⟨whole, read, joined⟩ := ofText_seam closed readFirst readSecond
          rw [lines, given] at joined
          exact ⟨closed, first, second, whole, rfl, rfl, read, joined⟩

end ApiFlow.Flow
