import ApiFlow.Proofs.Flow.Identity

/-!
# Documents that stand further down

The line where a block stands goes into what is read from it and into the warnings, and into nothing else.

* `scanBlocks_moved` : lines further down hold the same blocks further down.
* `HeadDraft.Moved`, `Step.ofBlock_moved` : directives and steps.
* `Reading.Moved.block`, `Reading.Moved.foldlM_block` : all kinds of blocks, one and many.
-/

set_option autoImplicit false

namespace ApiFlow.Flow

variable {k : Nat}

/-! ## Places -/

/-- A block that stands `k` lines further down. -/
def Block.moved (k : Nat) (b : Block) : Block := { b with line := b.line + k }

/-- An open block that stands `k` lines further down. -/
def OpenBlock.moved (k : Nat) (b : OpenBlock) : OpenBlock := { b with line := b.line + k }

/-- A step that stands `k` lines further down. -/
def Step.moved (k : Nat) (s : Step) : Step := { s with line := s.line + k }

/-- An edge that stands `k` lines further down. -/
def Edge.moved (k : Nat) (e : Edge) : Edge := { e with line := e.line + k }

/-- A plain request that stands `k` lines further down. -/
def PlainRequest.moved (k : Nat) (r : PlainRequest) : PlainRequest := { r with line := r.line + k }

/-- What a document can be warned of, and in which line. -/
inductive Warning where
  | onFail (line : Nat)
  | type (name : Text) (line : Nat)
  | request (error : RequestError) (line : Nat)

namespace Warning

/-- The wording of a warning. -/
def text : Warning → Text
  | onFail line => onFailWarning line
  | type name line => "unknown step type '" ++ name ++ "' at line " ++ Text.ofNat line ++ ", treating as http"
  | request error line => "step at line " ++ Text.ofNat line ++ ": " ++ error.message

/-- The warning `k` lines further down. -/
def moved (k : Nat) : Warning → Warning
  | onFail line => onFail (line + k)
  | type name line => type name (line + k)
  | request error line => request error (line + k)

end Warning

/-- Warnings that are the same up to the lines that they quote, which are `k` further down. -/
def WarningsMoved (k : Nat) (warnings warnings' : List Text) : Prop :=
  ∃ given : List Warning, warnings = given.map Warning.text ∧ warnings' = given.map fun w => (w.moved k).text

namespace WarningsMoved

theorem nil : WarningsMoved k [] [] := ⟨[], rfl, rfl⟩

theorem single (w : Warning) : WarningsMoved k [w.text] [(w.moved k).text] := ⟨[w], rfl, rfl⟩

theorem append {first first' second second' : List Text} (one : WarningsMoved k first first')
    (two : WarningsMoved k second second') : WarningsMoved k (first ++ second) (first' ++ second') := by
  obtain ⟨given, rfl, rfl⟩ := one
  obtain ⟨given', rfl, rfl⟩ := two
  exact ⟨given ++ given', List.map_append.symm, List.map_append.symm⟩

end WarningsMoved

/-! ## Blocks -/

theorem start_moved (fence trimmed : Text) (number k : Nat) :
    OpenBlock.start fence trimmed (number + k) = (OpenBlock.start fence trimmed number).moved k := by
  unfold OpenBlock.start
  split <;> rfl

/-- Lines further down hold the same blocks further down. -/
theorem scanBlocks_moved (k : Nat) (open? : Option OpenBlock) (number : Nat) (lines : List Text) :
    scanBlocks (open?.map (OpenBlock.moved k)) (number + k) lines =
      ((scanBlocks open? number lines).1.map (Block.moved k),
        (scanBlocks open? number lines).2.map (OpenBlock.moved k)) := by
  induction lines generalizing open? number with
  | nil => cases open? <;> rfl
  | cons line lines ih =>
      have place : number + k + 1 = number + 1 + k := by omega
      cases open? with
      | none =>
          rw [Option.map_none, scanBlocks, scanBlocks, place]
          cases fenceOf? (Text.trim line) with
          | none => exact ih none (number + 1)
          | some fence =>
              dsimp only
              rw [start_moved]
              exact ih (some (.start fence (Text.trim line) number)) (number + 1)
      | some b =>
          rw [Option.map_some, scanBlocks, scanBlocks, place]
          have fence : (b.moved k).fence = b.fence := rfl
          rw [fence]
          by_cases closes : b.fence.isPrefixOf (Text.trim line) = true
          · have rest := ih none (number + 1)
            rw [Option.map_none] at rest
            rw [if_pos closes, if_pos closes, rest]
            rfl
          · rw [if_neg closes, if_neg closes]
            exact ih (some { b with body := b.body ++ [line] }) (number + 1)

/-! ## Steps -/

/-- Two drafts that differ in the lines that their warnings quote. -/
structure HeadDraft.Moved (k : Nat) (d e : HeadDraft) : Prop where
  type : e.type = d.type
  header : e.header = d.header
  warnings : WarningsMoved k d.warnings e.warnings

/-- The second result is there if the first is, and differs from it in the lines that the warnings quote. -/
def HeadDraft.Moves (k : Nat) (p q : Except Interrupted HeadDraft) : Prop :=
  ∀ d, p = .ok d → ∃ e, q = .ok e ∧ HeadDraft.Moved k d e

namespace HeadDraft.Moved

variable {d e : HeadDraft}

theorem ok (same : HeadDraft.Moved k d e) : HeadDraft.Moves k (.ok d) (.ok e) := by
  rintro _ ⟨⟩
  exact ⟨e, rfl, same⟩

theorem field (same : HeadDraft.Moved k d e) (set : StepHeader → StepHeader) :
    HeadDraft.Moves k (.ok { d with header := set d.header }) (.ok { e with header := set e.header }) :=
  ok ⟨same.type, congrArg set same.header, same.warnings⟩

theorem number (same : HeadDraft.Moved k d e) (value : Text) (set : StepHeader → Nat → StepHeader) :
    HeadDraft.Moves k (d.number value set) (e.number value set) := by
  unfold HeadDraft.number
  cases leadingNumber value with
  | ok n => exact same.field fun h => set h n
  | error error => nofun

theorem ite (here : Prop) [Decidable here] {p p' q q' : Except Interrupted HeadDraft} (yes : HeadDraft.Moves k p p')
    (no : HeadDraft.Moves k q q') : HeadDraft.Moves k (if here then p else q) (if here then p' else q') := by
  by_cases h : here
  · rwa [if_pos h, if_pos h]
  · rwa [if_neg h, if_neg h]

/-- **A directive does the same** in a block further down. -/
theorem apply (same : HeadDraft.Moved k d e) (line : Nat) (entry : Text × Text) :
    HeadDraft.Moves k (d.apply line entry) (e.apply (line + k) entry) := by
  obtain ⟨key, value⟩ := entry
  have onFail : HeadDraft.Moved k
      { d with header := { d.header with onFail := value }, warnings := d.warnings ++ [onFailWarning line] }
      { e with header := { e.header with onFail := value }, warnings := e.warnings ++ [onFailWarning (line + k)] } :=
    ⟨same.type, by rw [same.header], same.warnings.append (.single (.onFail line))⟩
  unfold HeadDraft.apply
  exact ite _ (same.field fun h => { h with id := value }) <|
    ite _ (same.field fun h => { h with name := value }) <|
    ite _ (ok ⟨rfl, same.header, same.warnings⟩) <|
    ite _ (same.number value _) <| ite _ (same.number value _) <| ite _ (same.number value _) <|
    ite _ (same.number value _) <| ite _ (same.number value _) <| ite _ (same.number value _) <|
    ite _ (same.number value _) <| ite _ (ok onFail) (ok same)

theorem foldlM (same : HeadDraft.Moved k d e) (line : Nat) (entries : List (Text × Text)) :
    HeadDraft.Moves k (entries.foldlM (HeadDraft.apply line) d) (entries.foldlM (HeadDraft.apply (line + k)) e) := by
  induction entries generalizing d e with
  | nil => exact same.ok
  | cons entry entries ih =>
      intro last applied
      obtain ⟨next, first, rest⟩ := foldlM_cons_ok_iff.mp applied
      obtain ⟨next', first', same⟩ := same.apply line entry next first
      obtain ⟨e', rest', same⟩ := ih same last rest
      exact ⟨e', foldlM_cons_ok_iff.mpr ⟨next', first', rest'⟩, same⟩

end HeadDraft.Moved

theorem typeWarnings_moved (type : Text) (line : Nat) :
    WarningsMoved k (typeWarnings type line) (typeWarnings type (line + k)) := by
  unfold typeWarnings
  split
  · exact .nil
  · exact .single (.type type line)

theorem send_moved (c : ContentDraft) (line : Nat) :
    (c.send (line + k)).1 = (c.send line).1 ∧ WarningsMoved k (c.send line).2 (c.send (line + k)).2 := by
  unfold ContentDraft.send
  by_cases none : c.requestText.isEmpty = true
  · simp only [if_pos none, true_and]
    exact .nil
  · simp only [if_neg none]
    cases RequestTemplate.ofBlock c.requestText with
    | ok r => exact ⟨rfl, .nil⟩
    | error e => exact ⟨rfl, .single (.request e line)⟩

/-- **A step further down** is the same step with another line. -/
theorem Step.ofBlock_moved {raw : Text} {line : Nat} {s : Step} {warnings : List Text}
    (read : Step.ofBlock raw line = .ok (s, warnings)) :
    ∃ warnings', Step.ofBlock raw (line + k) = .ok (s.moved k, warnings') ∧ WarningsMoved k warnings warnings' := by
  unfold Step.ofBlock at read ⊢
  split at read
  · cases read
  · rename_i head folded
    have start : HeadDraft.Moved k {} {} := ⟨rfl, rfl, .nil⟩
    obtain ⟨head', folded', same⟩ := start.foldlM line (headDirectives raw) head folded
    rw [folded']
    obtain ⟨sends, warned⟩ := send_moved (k := k) (ContentDraft.ofBlock raw) line
    dsimp only at read ⊢
    rw [same.type, same.header]
    split at read
    · rename_i command
      cases read
      rw [if_pos command]
      exact ⟨_, rfl, same.warnings⟩
    · rename_i request
      cases read
      rw [if_neg request, sends]
      exact ⟨_, rfl, (same.warnings.append (typeWarnings_moved _ line)).append warned⟩

/-! ## Readings -/

/-- Two readings of which the second has all its parts `k` lines further down. -/
structure Reading.Moved (k : Nat) (r s : Reading) : Prop where
  info : s.document.info = r.document.info
  steps : s.document.steps = r.document.steps.map (Step.moved k)
  edges : s.document.edges = r.document.edges.map (Edge.moved k)
  warnings : WarningsMoved k r.document.warnings s.document.warnings
  plain : s.plain = r.plain.map (PlainRequest.moved k)

namespace Reading.Moved

variable {r r' s : Reading}

theorem addPlain (same : Reading.Moved k r s) (b : Block) : Reading.Moved k (r.addPlain b) (s.addPlain (b.moved k)) :=
  ⟨same.info, same.steps, same.edges, same.warnings, by
    rw [Reading.addPlain, Reading.addPlain, same.plain, List.map_append]
    rfl⟩

theorem addEdge (same : Reading.Moved k r s) (e : Edge) : Reading.Moved k (r.addEdge e) (s.addEdge (e.moved k)) := by
  have source : (e.moved k).source = e.source := rfl
  have target : (e.moved k).target = e.target := rfl
  unfold Reading.addEdge
  rw [source, target]
  split
  · exact ⟨same.info, same.steps, same.edges, same.warnings, same.plain⟩
  · exact ⟨same.info, same.steps, by simp [same.edges], same.warnings, same.plain⟩

/-- **A block further down adds the same.** -/
theorem block {b : Block} (same : Reading.Moved k r s) (read : r.block b = .ok r') :
    ∃ s', s.block (b.moved k) = .ok s' ∧ Reading.Moved k r' s' := by
  have kind : (b.moved k).kind = b.kind := rfl
  have raw : (b.moved k).raw = b.raw := rfl
  have line : (b.moved k).line = b.line + k := rfl
  unfold Reading.block at read ⊢
  rw [kind, raw, line]
  split at read
  · rename_i flow
    rw [if_pos flow]
    split at read
    · rename_i info
      cases read
      rw [if_pos info]
      exact ⟨_, rfl, by rw [same.info], same.steps, same.edges, same.warnings, same.plain⟩
    · rename_i info
      cases read
      rw [if_neg info]
      exact ⟨_, rfl, same.addPlain b⟩
  · rename_i flow
    rw [if_neg flow]
    split at read
    · rename_i step
      rw [if_pos step]
      split at read
      · rename_i st warnings single
        cases read
        obtain ⟨warnings', single', warned⟩ := Step.ofBlock_moved (k := k) single
        rw [single']
        exact ⟨_, rfl, same.info, by simp [Reading.addStep, same.steps], same.edges, same.warnings.append warned,
          same.plain⟩
      · cases read
    · rename_i step
      rw [if_neg step]
      split at read
      · rename_i edge
        cases read
        rw [if_pos edge]
        exact ⟨_, rfl, same.addEdge (Edge.ofBlock b.raw b.line)⟩
      · rename_i edge
        rw [if_neg edge]
        split at read
        · rename_i plain
          cases read
          rw [if_pos plain]
          exact ⟨_, rfl, same.addPlain b⟩
        · rename_i plain
          cases read
          rw [if_neg plain]
          exact ⟨_, rfl, same⟩

/-- **Blocks further down add the same.** -/
theorem foldlM_block {found : List Block} (same : Reading.Moved k r s)
    (read : found.foldlM Reading.block r = .ok r') :
    ∃ s', (found.map (Block.moved k)).foldlM Reading.block s = .ok s' ∧ Reading.Moved k r' s' := by
  induction found generalizing r s with
  | nil =>
      cases read
      exact ⟨s, rfl, same⟩
  | cons b found ih =>
      obtain ⟨next, first, rest⟩ := foldlM_cons_ok_iff.mp read
      obtain ⟨next', first', same⟩ := same.block first
      obtain ⟨s', rest', same⟩ := ih same rest
      exact ⟨s', foldlM_cons_ok_iff.mpr ⟨next', first', rest'⟩, same⟩

end Reading.Moved

end ApiFlow.Flow
