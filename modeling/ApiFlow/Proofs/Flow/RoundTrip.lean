import ApiFlow.Proofs.Flow.Render
import ApiFlow.Proofs.Flow.StepText
import Mathlib.Data.List.Forall2

/-!
# Documents that are written and read back

The scan of a written document finds its blocks, each with its kind and its lines, and nothing else: prose opens no
block, and no line inside a block closes it.  A written document is then read as itself.  What reading adds is the place
of each part: the line of a step or an edge, and the text of a step.

* `scanBlocks_prose`, `scanBlocks_block` : what the scan makes of lines outside and of a whole block.
* `blocks_renderParts` : the blocks that were written are found, and the last of them is closed.
* `block_meta`, `block_step`, `block_edge` : one block.
* `foldlM_stepBlocks`, `foldlM_edgeBlocks` : the blocks of all steps and of all edges.
* `ofText_render` : a whole document.
-/

set_option autoImplicit false

namespace ApiFlow.Flow

variable {layout : Layout} {fence : Text}

/-! ## Lines of a written document -/

/-- A line that opens no block. -/
def IsProse (line : Text) : Prop := fenceOf? (Text.trim line) = none

theorem lines_terminated {lines : List Text} (free : ∀ line ∈ lines, Text.LineFree line) (rest : Text) :
    Text.lines (terminated lines ++ rest) = lines ++ Text.lines rest := by
  induction lines with
  | nil => rfl
  | cons line lines ih =>
      obtain ⟨here, others⟩ := List.forall_mem_cons.mp free
      have next : terminated (line :: lines) ++ rest = line ++ '\n' :: (terminated lines ++ rest) := by
        simp [terminated]
      rw [next, Text.lines_append here, ih others, List.cons_append]

/-- Prose on lines of its own opens no block, and leaves the lines behind it as they are. -/
theorem lines_paragraph {prose : Text} (clear : ∀ line ∈ Text.lines prose, IsProse line) (rest : Text) :
    ∃ lines, Text.lines (paragraph prose ++ rest) = lines ++ Text.lines rest ∧ ∀ line ∈ lines, IsProse line := by
  unfold paragraph
  split
  · exact ⟨[], rfl, List.forall_mem_nil _⟩
  · rw [List.append_assoc, List.singleton_append]
    rcases Text.lines_paragraph prose rest with same | same
    · exact ⟨_, same, clear⟩
    · refine ⟨Text.lines prose ++ [[]], by rw [same]; simp, fun line listed => ?_⟩
      rcases List.mem_append.mp listed with inside | last
      · exact clear line inside
      · rw [List.mem_singleton.mp last]
        rfl

/-! ## Scanning -/

theorem scanBlocks_prose {lines : List Text} (prose : ∀ line ∈ lines, IsProse line) (number : Nat) (rest : List Text) :
    scanBlocks none number (lines ++ rest) = scanBlocks none (number + lines.length) rest := by
  induction lines generalizing number with
  | nil => rfl
  | cons line lines ih =>
      obtain ⟨here, others⟩ := List.forall_mem_cons.mp prose
      rw [List.cons_append, scanBlocks, show fenceOf? (Text.trim line) = none from here]
      dsimp only
      rw [ih others, List.length_cons, Nat.add_assoc, Nat.add_comm 1]

theorem scanBlocks_body {b : OpenBlock} {lines : List Text}
    (inside : ∀ line ∈ lines, b.fence.isPrefixOf (Text.trim line) = false) (number : Nat) (rest : List Text) :
    scanBlocks (some b) number (lines ++ rest) =
      scanBlocks (some { b with body := b.body ++ lines }) (number + lines.length) rest := by
  induction lines generalizing b number with
  | nil => rw [List.append_nil]; rfl
  | cons line lines ih =>
      obtain ⟨here, others⟩ := List.forall_mem_cons.mp inside
      have following := @ih { b with body := b.body ++ [line] } others (number + 1)
      rw [List.cons_append, scanBlocks, if_neg (by simp [here]), following, List.append_assoc, List.singleton_append,
        List.length_cons, Nat.add_assoc, Nat.add_comm 1]

/-- The kinds of blocks that are written. -/
def kinds : List Text := ["flow", "step", "edge"]

/-- A fence with a kind opens a block of that kind, and a fence alone closes it. -/
theorem start_of_kind (fenced : fence ∈ fences) {kind : Text} (known : kind ∈ kinds) (number : Nat) :
    fenceOf? (Text.trim (fence ++ kind)) = some fence ∧
      OpenBlock.start fence (Text.trim (fence ++ kind)) number = ⟨fence, kind, [], number, []⟩ ∧
      fence.isPrefixOf (Text.trim fence) = true ∧ Text.LineFree (fence ++ kind) ∧ Text.LineFree fence := by
  have each : ∀ fence ∈ fences, ∀ kind ∈ kinds, fenceOf? (Text.trim (fence ++ kind)) = some fence ∧
      (Text.firstWord? (Text.trim ((Text.trim (fence ++ kind)).drop fence.length)) = some (kind, []) ∧
        Text.lower kind = kind) ∧
      fence.isPrefixOf (Text.trim fence) = true ∧ Text.LineFree (fence ++ kind) ∧ Text.LineFree fence := by
    decide +kernel
  obtain ⟨opens, ⟨word, lower⟩, closes, free, free'⟩ := each fence fenced kind known
  refine ⟨opens, ?_, closes, free, free'⟩
  rw [OpenBlock.start, word]
  dsimp only
  rw [lower]

/-- **A written block is found.** -/
theorem scanBlocks_block (fenced : fence ∈ fences) {p : Part} (known : p.kind ∈ kinds)
    (inside : ∀ line ∈ p.lines, fence.isPrefixOf (Text.trim line) = false) (number : Nat) (rest : List Text) :
    scanBlocks none number ((fence ++ p.kind) :: p.lines ++ [fence] ++ rest) =
      (⟨p.kind, [], number, Text.join ['\n'] p.lines⟩ :: (scanBlocks none (number + p.lines.length + 2) rest).1,
        (scanBlocks none (number + p.lines.length + 2) rest).2) := by
  obtain ⟨opens, start, closes, -⟩ := start_of_kind fenced known number
  rw [List.append_assoc, List.cons_append, scanBlocks, opens]
  dsimp only
  rw [start, scanBlocks_body inside, List.singleton_append, scanBlocks, if_pos closes]
  have place : number + 1 + p.lines.length + 1 = number + p.lines.length + 2 := by omega
  rw [place]
  rfl

/-! ## The blocks of a document -/

/-- A block that can be written between fences. -/
structure Part.Fits (fence : Text) (p : Part) : Prop where
  known : p.kind ∈ kinds
  free : ∀ line ∈ p.lines, Text.LineFree line
  inside : ∀ line ∈ p.lines, fence.isPrefixOf (Text.trim line) = false

/-- A block that was found is the block that was written. -/
structure Part.Found (p : Part) (b : Block) : Prop where
  kind : b.kind = p.kind
  raw : b.raw = Text.join ['\n'] p.lines

theorem scanBlocks_renderParts (clear : layout.Clear) {parts : List Part} (fit : ∀ p ∈ parts, p.Fits layout.fence)
    (place number : Nat) :
    ∃ found, scanBlocks none number (Text.lines (renderParts layout place parts)) = (found, none) ∧
      List.Forall₂ Part.Found parts found := by
  -- Prose and blocks move the count of lines on, so the induction is over every count.
  induction parts generalizing place number with
  | nil =>
      have prose := scanBlocks_prose (clear.prose place) number []
      rw [List.append_nil] at prose
      exact ⟨[], prose, .nil⟩
  | cons p rest ih =>
      obtain ⟨here, others⟩ := List.forall_mem_cons.mp fit
      obtain ⟨-, -, -, freeOpen, freeClose⟩ := start_of_kind clear.fence here.known number
      have free : ∀ line ∈ (layout.fence ++ p.kind) :: p.lines ++ [layout.fence], Text.LineFree line := by
        intro line listed
        rcases List.mem_append.mp listed with front | last
        · rcases List.mem_cons.mp front with rfl | inside
          · exact freeOpen
          · exact here.free line inside
        · rw [List.mem_singleton.mp last]
          exact freeClose
      obtain ⟨before, same, prose⟩ :=
        lines_paragraph (clear.prose place) (p.text layout.fence ++ renderParts layout (place + 1) rest)
      obtain ⟨found, scanned, matched⟩ := ih others (place + 1) (number + before.length + p.lines.length + 2)
      refine ⟨⟨p.kind, [], number + before.length, Text.join ['\n'] p.lines⟩ :: found, ?_, .cons ⟨rfl, rfl⟩ matched⟩
      rw [renderParts, same, scanBlocks_prose prose, Part.text, lines_terminated free,
        scanBlocks_block clear.fence here.known here.inside, scanned]

/-- **The blocks that were written are found**, in order, and none is left open. -/
theorem blocks_renderParts (clear : layout.Clear) {parts : List Part} (fit : ∀ p ∈ parts, p.Fits layout.fence) :
    List.Forall₂ Part.Found parts (blocks (renderParts layout 0 parts)) ∧
      unclosed? (renderParts layout 0 parts) = none := by
  obtain ⟨found, scanned, matched⟩ := scanBlocks_renderParts clear fit 0 1
  rw [blocks, unclosed?, scanned]
  exact ⟨matched, rfl⟩

/-! ## Parts without their places -/

/-- A step apart from where it was read. -/
def Step.bare (s : Step) : Step := { s with line := 0, raw := [] }

/-- An edge apart from where it was read. -/
def Edge.bare (e : Edge) : Edge := { e with line := 0 }

/-- A document apart from where its parts were read, and from the warnings. -/
def Document.bare (d : Document) : Document :=
  { d with steps := d.steps.map Step.bare, edges := d.edges.map Edge.bare, warnings := [] }

/-- A step as it is read from a block. -/
def Step.readAt (s : Step) (b : Block) : Step := { s with line := b.line, raw := b.raw }

/-- An edge as it is read from a block. -/
def Edge.readAt (e : Edge) (b : Block) : Edge := { e with line := b.line }

/-- What reading warns of at a step. -/
def Step.warnings (s : Step) : List Text := headWarnings s.toStepHeader s.line

/-- The block of a step. -/
def Step.part (s : Step) : Part := ⟨"step", s.lines⟩

/-- The block of an edge. -/
def Edge.part (e : Edge) : Part := ⟨"edge", e.lines⟩

/-! ## One block -/

variable {b : Block}

theorem block_meta {m : Meta} (good : m.WellFormed) (found : Part.Found ⟨"flow", m.lines⟩ b) (notes : List Note) :
    Reading.block { notes } b = .ok { document := { info := m }, notes } := by
  rw [Reading.block, if_pos found.kind, found.raw, if_pos (isMetaBlock_lines good), Meta.ofBlock_lines good]
  dsimp only
  rw [merge_first good.distinct]

theorem block_step {s : Step} (good : s.WellFormed fence) (found : Part.Found s.part b) (r : Reading) :
    r.block b = .ok (r.addStep (s.readAt b) (s.readAt b).warnings) := by
  have step : b.kind = "step".toList := found.kind
  have raw : b.raw = Text.join ['\n'] s.lines := found.raw
  rw [Reading.block, step, if_neg (by decide), if_pos rfl, raw, Step.ofBlock_lines good, Step.readAt, raw]
  rfl

theorem block_edge {e : Edge} (good : e.WellFormed) (found : Part.Found e.part b) (r : Reading) :
    r.block b = .ok { r with document := { r.document with edges := r.document.edges ++ [e.readAt b] } } := by
  have edge : b.kind = "edge".toList := found.kind
  have raw : b.raw = Text.join ['\n'] e.lines := found.raw
  rw [Reading.block, edge, if_neg (by decide), if_neg (by decide), if_pos rfl, raw, Edge.ofBlock_lines good,
    Reading.addEdge, if_neg (by simp [good.source.2, good.target.2])]
  rfl

/-! ## All blocks -/

/-- A reading with more steps and their warnings. -/
def Reading.addSteps (r : Reading) (steps : List Step) : Reading :=
  { r with
    document := { r.document with
      steps := r.document.steps ++ steps
      warnings := r.document.warnings ++ steps.flatMap Step.warnings }
    notes := r.notes ++ (steps.flatMap Step.warnings).map warningNote }

theorem addSteps_cons (r : Reading) (s : Step) (steps : List Step) :
    (r.addStep s s.warnings).addSteps steps = r.addSteps (s :: steps) := by
  simp [Reading.addSteps, Reading.addStep]

/-- **The blocks of steps are read in order**, whatever stands behind them. -/
theorem foldlM_stepBlocks {steps : List Step} (good : ∀ s ∈ steps, s.WellFormed fence) {parts : List Part}
    {found : List Block} (matched : List.Forall₂ Part.Found (steps.map Step.part ++ parts) found) (r : Reading) :
    ∃ read rest, List.Forall₂ Part.Found parts rest ∧ read.map Step.bare = steps.map Step.bare ∧
      found.foldlM Reading.block r = rest.foldlM Reading.block (r.addSteps read) := by
  induction steps generalizing found r with
  | nil => exact ⟨[], found, matched, rfl, by simp [Reading.addSteps]⟩
  | cons s steps ih =>
      obtain ⟨here, others⟩ := List.forall_mem_cons.mp good
      cases matched with
      | cons first matched =>
          rename_i b found
          obtain ⟨read, rest, last, same, folded⟩ := ih others matched (r.addStep (s.readAt b) (s.readAt b).warnings)
          refine ⟨s.readAt b :: read, rest, last, ?_, ?_⟩
          · rw [List.map_cons, List.map_cons, same]
            rfl
          · rw [List.foldlM_cons, block_step here first, ← addSteps_cons]
            exact folded

/-- **The blocks of edges are read in order.** -/
theorem foldlM_edgeBlocks {edges : List Edge} (good : ∀ e ∈ edges, e.WellFormed) {found : List Block}
    (matched : List.Forall₂ Part.Found (edges.map Edge.part) found) (r : Reading) :
    ∃ read, read.map Edge.bare = edges.map Edge.bare ∧
      found.foldlM Reading.block r =
        .ok { r with document := { r.document with edges := r.document.edges ++ read } } := by
  induction edges generalizing found r with
  | nil =>
      cases matched
      exact ⟨[], rfl, by rw [List.append_nil]; rfl⟩
  | cons e edges ih =>
      obtain ⟨here, others⟩ := List.forall_mem_cons.mp good
      cases matched with
      | cons first matched =>
          rename_i b found
          obtain ⟨read, same, folded⟩ :=
            ih others matched { r with document := { r.document with edges := r.document.edges ++ [e.readAt b] } }
          refine ⟨e.readAt b :: read, ?_, ?_⟩
          · rw [List.map_cons, List.map_cons, same]
            rfl
          · rw [List.foldlM_cons, block_edge here first]
            exact folded.trans (by simp)

/-- Steps that have ids keep them. -/
theorem numberSteps_of_named {steps : List Step} (named : ∀ s ∈ steps, s.id ≠ []) : numberSteps steps = steps := by
  have keep : ∀ p ∈ steps.zipIdx 1, p.1.numbered p.2 = p.1 := fun p listed => by
    rw [Step.numbered, if_neg (by simpa using named p.1 (List.fst_mem_of_mem_zipIdx listed))]
  rw [numberSteps, List.map_congr_left keep, List.zipIdx_map_fst]

/-! ## Whole documents -/

/-- The blocks of a document can be written between fences. -/
theorem parts_fit {d : Document} (fenced : fence ∈ fences) (good : d.WellFormed fence) :
    ∀ p ∈ d.parts, p.Fits fence := by
  have fields {kind : Text} {lines : List Text} (known : kind ∈ kinds) (field : ∀ line ∈ lines, IsField line) :
      Part.Fits fence ⟨kind, lines⟩ :=
    ⟨known, fun line listed => (field line listed).fits.1, fun line listed => (field line listed).fits.2.2 fence fenced⟩
  intro p listed
  simp only [Document.parts, List.cons_append, List.mem_cons, List.mem_append, List.mem_map] at listed
  rcases listed with rfl | ⟨s, listed, rfl⟩ | ⟨e, listed, rfl⟩
  · exact fields (by decide) fun line => isField_of_mem_metaLines good.info
  · have step := good.steps s listed
    have known : "step".toList ∈ kinds := by decide
    refine ⟨known, List.forall_mem_append.mpr ⟨?_, ?_⟩, List.forall_mem_append.mpr ⟨?_, step.fenced⟩⟩
    · exact fun line listed => (isField_of_mem_headerLines step.header listed).fits.1
    · exact fun line listed => lineFree_of_mem_content step.action listed
    · exact fun line listed => (isField_of_mem_headerLines step.header listed).fits.2.2 fence fenced
  · exact fields (by decide) fun line => isField_of_mem_edgeLines (good.edges e listed)

/-- There is one warning for each step with a directive that has no effect. -/
theorem flatMap_warnings (steps : List Step) :
    steps.flatMap Step.warnings = (steps.filter fun s => !s.onFail.isEmpty).map fun s => onFailWarning s.line := by
  induction steps with
  | nil => rfl
  | cons s steps ih =>
      rw [List.flatMap_cons, List.filter_cons, ih, Step.warnings, headWarnings]
      cases s.onFail.isEmpty <;> rfl

/-- **A written document is read as itself**, with any prose between its blocks that opens none.  The only warnings are
for directives without effect, one for each step that has such a directive. -/
theorem ofText_render {layout : Layout} {d : Document} (clear : layout.Clear) (good : d.WellFormed layout.fence) :
    ∃ reading, Reading.ofText (render layout d) = .ok reading ∧ reading.document.bare = d.bare ∧ reading.plain = [] ∧
      reading.document.warnings =
        (reading.document.steps.filter fun s => !s.onFail.isEmpty).map fun s => onFailWarning s.line := by
  obtain ⟨matched, closed⟩ := blocks_renderParts clear (parts_fit clear.fence good)
  have notes : fenceNotes (render layout d) = [] := by
    rw [fenceNotes, render, closed]
  obtain ⟨first, found, flow, matched, whole⟩ := List.forall₂_cons_left_iff.mp matched
  obtain ⟨steps, rest, matched, sameSteps, foldSteps⟩ :=
    foldlM_stepBlocks good.steps matched { document := { info := d.info } }
  obtain ⟨edges, sameEdges, foldEdges⟩ :=
    foldlM_edgeBlocks good.edges matched (Reading.addSteps { document := { info := d.info } } steps)
  -- Steps are numbered at the end, and none of these has to be.
  have named : ∀ s ∈ steps, s.id ≠ [] := by
    intro s listed
    obtain ⟨s', listed', same⟩ := List.mem_map.mp (sameSteps ▸ List.mem_map_of_mem listed)
    have id : s'.id = s.id := congrArg (·.id) same
    exact id ▸ (good.steps s' listed').header.named
  have folded : (blocks (render layout d)).foldlM Reading.block { notes := fenceNotes (render layout d) } =
      .ok { document := { info := d.info, steps, edges, warnings := steps.flatMap Step.warnings },
            notes := (steps.flatMap Step.warnings).map warningNote } := by
    rw [notes, render, whole, List.foldlM_cons, block_meta good.info flow]
    exact foldSteps.trans foldEdges
  rw [Reading.ofText, folded]
  refine ⟨_, rfl, ?_, rfl, ?_⟩
  · simp only [Document.bare, numberSteps_of_named named, sameSteps, sameEdges]
  · simp only [numberSteps_of_named named, flatMap_warnings]

/-- A request with a part of each kind, and a command that runs after it. -/
def signIn : Document where
  info := {
    id := "sign-in"
    name := "Sign in: and list"
    tags := ["auth", "smoke"]
    headers := [("Accept", "text/plain"), ("X-Empty", [])] }
  steps := [
    { id := "token", name := "Get a token", retry := 2, timeoutMs := 500, onFail := "stop", action := .send {
        method := "POST", url := "https://localhost/token", headers := ["Content-Type: text/plain"],
        queries := ["scope=all"], body := "@first line\n\n  # last line", captures := ["TOKEN = body"],
        asserts := ["status == 200"] } },
    { id := "list", action := .run {
        command := "echo one\n@two", captures := ["OUT = stdout"], asserts := ["exit == 0"] } }]
  edges := [{ source := "token", target := "list", condition := "done" }]

/-- Prose in front of the document, and none behind it. -/
def titled : Layout := ⟨List.replicate 3 '~', fun number => if number = 0 then "# Title\n\n@id none" else []⟩

/-- The document is read as itself, and the directive without effect is warned of at the line of its step. -/
theorem ofText_render_signIn :
    titled.Clear ∧ signIn.WellFormed titled.fence ∧
      ∃ reading, Reading.ofText (render titled signIn) = .ok reading ∧ reading.document.bare = signIn.bare ∧
        reading.document.warnings = [onFailWarning 11] := by
  have clear : titled.Clear := by
    refine ⟨by decide, fun number => ?_⟩
    cases number with
    | zero => decide +kernel
    | succ number => exact nofun
  have good : signIn.WellFormed titled.fence := by decide +kernel
  obtain ⟨reading, read, same, -, warned⟩ := ofText_render clear good
  have steps : ((Reading.ofText (render titled signIn)).toOption.map fun reading =>
      (reading.document.steps.filter fun s => !s.onFail.isEmpty).map Step.line) = some [11] := by decide +kernel
  refine ⟨clear, good, reading, read, same, ?_⟩
  rw [read] at steps
  have lines := congrArg (List.map onFailWarning) (Option.some.inj steps)
  rw [List.map_map] at lines
  exact warned.trans lines

end ApiFlow.Flow
