import ApiFlow.Flow.Document
import ApiFlow.Proofs.Text.Lines
import Mathlib.Tactic.MkIffOfInductiveProp

/-!
# Writing documents

A document is written as fenced blocks with prose between them: one block with the metadata, one for each step and one
for each edge.  Fields that are empty or zero have no line.

* `render` writes a document.
* `Document.WellFormed` : the documents whose texts keep apart from what stands around them.
* `Layout.Clear` : the prose opens no block.
-/

set_option autoImplicit false

namespace ApiFlow.Flow

/-! ## Lines -/

/-- A line `@key value`. -/
def directiveLine (key value : Text) : Text := '@' :: key ++ ' ' :: value

/-- The line of a field, unless it is empty. -/
def fieldLines (key value : Text) : List Text := if value.isEmpty then [] else [directiveLine key value]

/-- The line of a number, unless it is zero. -/
def numberLines (n : Text × Int) : List Text := if n.2 = 0 then [] else [directiveLine n.1 (Text.ofInt n.2)]

/-- Entries under the mark of their section, unless there are none. -/
def sectionLines (mark : Text) (entries : List Text) : List Text := if entries.isEmpty then [] else mark :: entries

/-- The value of the directive for a header; no blank stands behind the colon if the header is empty. -/
def headerField (h : Text × Text) : Text := h.1 ++ ':' :: if h.2.isEmpty then [] else ' ' :: h.2

/-- The lines of metadata. -/
def Meta.lines (m : Meta) : List Text :=
  fieldLines "flow" (if m.id.isEmpty then [] else "id=" ++ m.id) ++ fieldLines "name" m.name ++
    fieldLines "version" m.version ++ fieldLines "env" m.env ++ fieldLines "tags" (Text.join [','] m.tags) ++
    m.headers.map fun h => directiveLine "header" (headerField h)

namespace StepHeader

/-- The numbers of a step, each with the key of its directive. -/
def numbers (h : StepHeader) : List (Text × Int) :=
  [("retry", h.retry), ("retry-wait", h.retryWaitMs), ("max-duration", h.maxDurationMs), ("wait", h.waitMs),
    ("timeout", h.timeoutMs), ("poll-timeout", h.pollTimeoutMs), ("poll-interval", h.pollIntervalMs)]

/-- The lines of the directives of a step. -/
def lines (h : StepHeader) (isCommand : Bool) : List Text :=
  fieldLines "id" h.id ++ fieldLines "name" h.name ++ fieldLines "type" (if isCommand then "exec" else []) ++
    h.numbers.flatMap numberLines ++ fieldLines "on-fail" h.onFail

end StepHeader

/-- The lines of a body behind a blank line, unless it is empty. -/
def bodyLines (body : Text) : List Text := if body.isEmpty then [] else [] :: Text.splitAt '\n' body

/-- The lines of a request, without captures and assertions. -/
def RequestTemplate.lines (r : RequestTemplate) : List Text :=
  (r.method ++ ' ' :: r.url) :: (r.headers ++ sectionLines queriesMark r.queries ++ bodyLines r.body)

/-- The lines of a command, without captures and assertions. -/
def CommandTemplate.lines (c : CommandTemplate) : List Text :=
  if c.command.isEmpty then [] else Text.splitAt '\n' c.command

/-- The lines of what a step does. -/
def Action.lines : Action → List Text
  | .send r => r.lines
  | .run c => c.lines

namespace Step

/-- The lines behind the directives of a step. -/
def content (s : Step) : List Text :=
  s.action.lines ++ sectionLines capturesMark s.captures ++ sectionLines assertsMark s.asserts

/-- The lines of a step. -/
def lines (s : Step) : List Text := s.toStepHeader.lines s.isCommand ++ s.content

end Step

/-- The lines of an edge. -/
def Edge.lines (e : Edge) : List Text :=
  directiveLine "from" e.source :: directiveLine "to" e.target :: fieldLines "on" e.condition

/-! ## Blocks -/

/-- A block to be written: its kind and its lines. -/
structure Part where
  kind : Text
  lines : List Text

/-- The blocks of a document. -/
def Document.parts (d : Document) : List Part :=
  ⟨"flow", d.info.lines⟩ :: (d.steps.map fun s => ⟨"step", s.lines⟩) ++ d.edges.map fun e => ⟨"edge", e.lines⟩

/-- How a document is laid out: the fence around its blocks, and the prose in front of each block and at the end. -/
structure Layout where
  fence : Text
  prose : Nat → Text

/-- Lines, a line feed behind each. -/
def terminated (lines : List Text) : Text := lines.flatMap (· ++ ['\n'])

/-- A block between its fences. -/
def Part.text (fence : Text) (p : Part) : Text := terminated ((fence ++ p.kind) :: p.lines ++ [fence])

/-- Prose on lines of its own, unless there is none. -/
def paragraph (prose : Text) : Text := if prose.isEmpty then [] else prose ++ ['\n']

/-- Writes blocks, the first of them with the given number. -/
def renderParts (layout : Layout) : (number : Nat) → List Part → Text
  | number, [] => layout.prose number
  | number, p :: rest =>
    paragraph (layout.prose number) ++ (p.text layout.fence ++ renderParts layout (number + 1) rest)

/-- Writes a document. -/
def render (layout : Layout) (d : Document) : Text := renderParts layout 0 d.parts

/-! ## What can be written -/

/-- A text that keeps its place on a line: no blank at either end, and no boundary of lines inside. -/
@[mk_iff]
structure IsLine (s : Text) : Prop where
  trimmed : Text.trim s = s
  free : Text.LineFree s

instance (s : Text) : Decidable (IsLine s) := decidable_of_iff _ (isLine_iff s).symm

/-- A text on lines of its own: no blank at either end, and no boundary of lines inside but line feeds. -/
@[mk_iff]
structure IsLines (s : Text) : Prop where
  trimmed : Text.trim s = s
  feeds : Text.FeedsOnly s

instance (s : Text) : Decidable (IsLines s) := decidable_of_iff _ (isLines_iff s).symm

/-- An entry of a section: a line that is neither blank nor a comment. -/
@[mk_iff]
structure IsEntry (s : Text) : Prop extends IsLine s where
  some : s ≠ []
  solid : isComment s = false

instance (s : Text) : Decidable (IsEntry s) := decidable_of_iff _ (isEntry_iff s).symm

/-- An entry below the content of a step, which opens no other section. -/
@[mk_iff]
structure IsTail (s : Text) : Prop extends IsEntry s where
  captures : s ≠ capturesMark
  asserts : s ≠ assertsMark

instance (s : Text) : Decidable (IsTail s) := decidable_of_iff _ (isTail_iff s).symm

/-- Metadata that can be written.  Tags are kept in order, each once, and headers by name. -/
@[mk_iff]
structure Meta.WellFormed (m : Meta) : Prop where
  id : Text.BlankFree m.id
  name : IsLine m.name
  version : IsLine m.version
  env : IsLine m.env
  tags : ∀ t ∈ m.tags, IsLine t ∧ t ≠ [] ∧ ',' ∉ t
  sorted : m.tags.Pairwise fun a b => Text.before a b = true
  headers : ∀ h ∈ m.headers, IsLine h.1 ∧ h.1 ≠ [] ∧ ':' ∉ h.1 ∧ IsLine h.2
  distinct : (Table.names m.headers).Nodup

instance (m : Meta) : Decidable m.WellFormed := decidable_of_iff _ (Meta.wellFormed_iff m).symm

/-- Directives of a step that can be written. -/
@[mk_iff]
structure StepHeader.WellFormed (h : StepHeader) : Prop where
  id : IsLine h.id
  named : h.id ≠ []
  name : IsLine h.name
  onFail : IsLine h.onFail
  numbers : ∀ n ∈ h.numbers, 0 ≤ n.2 ∧ (Text.ofInt n.2).length ≤ Integer.digitLimit

instance (h : StepHeader) : Decidable h.WellFormed := decidable_of_iff _ (StepHeader.wellFormed_iff h).symm

/-- A request that can be written. -/
@[mk_iff]
structure RequestTemplate.WellFormed (r : RequestTemplate) : Prop where
  method : r.method ≠ [] ∧ Text.Plain r.method
  upper : Text.upper r.method = r.method
  start : isComment r.method = false ∧ isDirective r.method = false
  url : r.url ≠ [] ∧ Text.Plain r.url
  headers : ∀ h ∈ r.headers, IsEntry h ∧ startsBody h = false
  queries : ∀ q ∈ r.queries, IsEntry q ∧ sectionOf? q = none ∧ tidyQuery q = q
  body : IsLines r.body
  plain : ∀ line ∈ Text.splitAt '\n' r.body, sectionOf? (Text.trim line) = none
  captures : ∀ c ∈ r.captures, IsTail c
  asserts : ∀ a ∈ r.asserts, IsTail a

instance (r : RequestTemplate) : Decidable r.WellFormed := decidable_of_iff _ (RequestTemplate.wellFormed_iff r).symm

/-- A command that can be written; what stands behind a number sign is a comment in its captures. -/
@[mk_iff]
structure CommandTemplate.WellFormed (c : CommandTemplate) : Prop where
  command : IsLines c.command
  start : isComment c.command = false ∧ isDirective c.command = false
  plain : ∀ line ∈ Text.splitAt '\n' c.command, Text.trim line ≠ capturesMark ∧ Text.trim line ≠ assertsMark
  captures : ∀ e ∈ c.captures, IsTail e ∧ '#' ∉ e
  asserts : ∀ a ∈ c.asserts, IsTail a

instance (c : CommandTemplate) : Decidable c.WellFormed := decidable_of_iff _ (CommandTemplate.wellFormed_iff c).symm

/-- What a step does can be written. -/
def Action.WellFormed : Action → Prop
  | .send r => r.WellFormed
  | .run c => c.WellFormed

instance : (a : Action) → Decidable a.WellFormed
  | .send r => inferInstanceAs (Decidable r.WellFormed)
  | .run c => inferInstanceAs (Decidable c.WellFormed)

/-- A step that can be written between fences. -/
@[mk_iff]
structure Step.WellFormed (fence : Text) (s : Step) : Prop where
  header : s.toStepHeader.WellFormed
  action : s.action.WellFormed
  fenced : ∀ line ∈ s.content, fence.isPrefixOf (Text.trim line) = false

instance (fence : Text) (s : Step) : Decidable (s.WellFormed fence) :=
  decidable_of_iff _ (Step.wellFormed_iff fence s).symm

/-- An edge that can be written. -/
@[mk_iff]
structure Edge.WellFormed (e : Edge) : Prop where
  source : IsLine e.source ∧ e.source ≠ []
  target : IsLine e.target ∧ e.target ≠ []
  condition : IsLine e.condition

instance (e : Edge) : Decidable e.WellFormed := decidable_of_iff _ (Edge.wellFormed_iff e).symm

/-- A document that can be written between fences. -/
@[mk_iff]
structure Document.WellFormed (fence : Text) (d : Document) : Prop where
  info : d.info.WellFormed
  steps : ∀ s ∈ d.steps, s.WellFormed fence
  edges : ∀ e ∈ d.edges, e.WellFormed

instance (fence : Text) (d : Document) : Decidable (d.WellFormed fence) :=
  decidable_of_iff _ (Document.wellFormed_iff fence d).symm

/-- The fence is one of the two, and no line of the prose opens a block. -/
structure Layout.Clear (layout : Layout) : Prop where
  fence : layout.fence ∈ fences
  prose : ∀ n, ∀ line ∈ Text.lines (layout.prose n), fenceOf? (Text.trim line) = none

end ApiFlow.Flow
