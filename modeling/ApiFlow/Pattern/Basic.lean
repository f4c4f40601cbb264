import ApiFlow.Text.Basic

/-!
# Search patterns

A pattern is a row of nodes: characters and classes, anchors, groups that remember what they matched, references back to
them, alternatives, repetitions of three tempers, and assertions about what stands before or behind.  Characters are code
points, so that a pattern can name points that no text holds.

* `Node.width` is the least and the greatest number of characters that a node matches.
* `joined` gives alternatives the simplest form that matches the same.
-/

set_option autoImplicit false

namespace ApiFlow.Pattern

/-- A class of characters with a letter of its own. -/
inductive Category where
  | digit
  | space
  | word
  deriving DecidableEq, Repr

inductive Member where
  | literal (code : Nat)
  | range (lo hi : Nat)
  | category (c : Category) (negated : Bool)
  deriving DecidableEq, Repr

/-- A place in a text. -/
inductive Anchor where
  | textStart
  | textEnd
  | lineStart
  | lineEnd
  | boundary
  | inside
  deriving DecidableEq, Repr

/-- How a pattern is read: whether case counts, whether lines have anchors of their own, whether the full stop stands for
line ends, whether classes hold ASCII characters only, whether blanks are idle, and whether repetitions are refused. -/
structure Flags where
  ignoreCase : Bool := false
  multiLine : Bool := false
  dotAll : Bool := false
  ascii : Bool := false
  spaced : Bool := false
  plainOnly : Bool := false
  deriving DecidableEq, Repr

/-- Letters of flags that are turned on and off. -/
structure FlagChange where
  on : List Char := []
  off : List Char := []
  deriving DecidableEq, Repr

def FlagChange.isEmpty (c : FlagChange) : Bool := c.on.isEmpty && c.off.isEmpty

/-- Whether the letter of a flag stands for a kind of characters. -/
def isKindLetter (c : Char) : Bool := c = 'a' || c = 'u' || c = 'L'

/-- Flags with letters turned on and off. -/
def Flags.change (f : Flags) (c : FlagChange) : Flags :=
  { ignoreCase := (f.ignoreCase || c.on.contains 'i') && !c.off.contains 'i'
    multiLine := (f.multiLine || c.on.contains 'm') && !c.off.contains 'm'
    dotAll := (f.dotAll || c.on.contains 's') && !c.off.contains 's'
    ascii := if c.on.any isKindLetter then c.on.contains 'a' else f.ascii
    spaced := (f.spaced || c.on.contains 'x') && !c.off.contains 'x'
    plainOnly := f.plainOnly || c.on.contains 't' }

/-- How a repetition chooses its count: as many as possible, as few as possible, or as many as possible for good. -/
inductive Temper where
  | greedy
  | lazy
  | possessive
  deriving DecidableEq, Repr

/-- A part of a pattern. -/
inductive Node where
  | literal (code : Nat)
  | otherThan (code : Nat)
  | any
  | members (negated : Bool) (items : List Member)
  | anchor (place : Anchor)
  | reference (number : Nat) (width : Nat × Nat)
  | choice (branches : List (List Node))
  | repetition (least : Nat) (most : Option Nat) (temper : Temper) (body : List Node)
  | group (number : Option Nat) (change : FlagChange) (body : List Node)
  | ahead (negated : Bool) (body : List Node)
  | behind (negated : Bool) (body : List Node)
  | atomic (body : List Node)
  | conditional (number : Nat) (yes no : List Node)

/-- Counts of repetitions are below this, and widths from it up are all alike. -/
def countLimit : Nat := 4294967295

/-- A width within the limits: the least number of characters stays below the limit, the greatest may reach it. -/
def clampWidth (w : Nat × Nat) : Nat × Nat := (min w.1 (countLimit - 1), min w.2 countLimit)

mutual

/-- The least and the greatest number of characters that a node matches. -/
def Node.width : Node → Nat × Nat
  | .literal _ => (1, 1)
  | .otherThan _ => (1, 1)
  | .any => (1, 1)
  | .members _ _ => (1, 1)
  | .anchor _ => (0, 0)
  | .reference _ width => width
  | .choice branches => choiceWidth branches
  | .repetition least most _ body =>
    let (lo, hi) := clampWidth (rowSum body)
    (lo * least, hi * most.getD countLimit)
  | .group _ _ body => clampWidth (rowSum body)
  | .ahead _ _ => (0, 0)
  | .behind _ _ => (0, 0)
  | .atomic body => clampWidth (rowSum body)
  | .conditional _ yes no =>
    let (lo, hi) := clampWidth (rowSum yes)
    let (los, his) := clampWidth (rowSum no)
    (min lo los, max hi his)

/-- The width of nodes one behind the other, beyond all limits. -/
def rowSum : List Node → Nat × Nat
  | [] => (0, 0)
  | n :: ns =>
    let (lo, hi) := n.width
    let (los, his) := rowSum ns
    (lo + los, hi + his)

/-- The width of alternatives. -/
def choiceWidth : List (List Node) → Nat × Nat
  | [] => (countLimit - 1, 0)
  | b :: bs =>
    let (lo, hi) := clampWidth (rowSum b)
    let (los, his) := choiceWidth bs
    (min lo los, max hi his)

end

def rowWidth (nodes : List Node) : Nat × Nat := clampWidth (rowSum nodes)

/-- Whether two nodes are the same, as far as nodes without parts are. -/
def Node.same : Node → Node → Bool
  | .literal a, .literal b => a = b
  | .otherThan a, .otherThan b => a = b
  | .any, .any => true
  | .members p a, .members q b => p = q && a = b
  | .anchor a, .anchor b => a = b
  | .reference a _, .reference b _ => a = b
  | _, _ => false

/-- The node with which all alternatives begin. -/
def commonHead? : List (List Node) → Option Node
  | [] => none
  | first :: others =>
    match first with
    | [] => none
    | n :: _ => if others.all fun b => (b.head?.map n.same).getD false then some n else none

/-- Nodes with which all alternatives begin, and the alternatives without them; `fuel` bounds their number. -/
def splitHeads : (fuel : Nat) → List (List Node) → List Node × List (List Node)
  | 0, branches => ([], branches)
  | fuel + 1, branches =>
    match commonHead? branches with
    | none => ([], branches)
    | some n =>
      let (heads, rests) := splitHeads fuel (branches.map (·.drop 1))
      (n :: heads, rests)

/-- The members of an alternative that stands for one character. -/
def singleMembers? : List Node → Option (List Member)
  | [.literal n] => some [.literal n]
  | [.members false items] => some items
  | _ => none

/-- The members of a class without repetition. -/
def distinct (items : List Member) : List Member :=
  items.foldl (fun seen m => if seen.contains m then seen else seen ++ [m]) []

/-- Alternatives as a row of nodes: what all of them begin with comes first, and alternatives that stand for one character
each are a class. -/
def joined : List (List Node) → List Node
  | [] => []
  | [branch] => branch
  | branches =>
    let longest := (branches.map List.length).foldl max 0
    let (heads, rests) := splitHeads (longest + 1) branches
    match rests.mapM singleMembers? with
    | some members => heads ++ [.members false (distinct members.flatten)]
    | none => heads ++ [.choice rests]

/-- A row of nodes with the groups opened that neither remember nor change anything. -/
def flattened (nodes : List Node) : List Node :=
  nodes.flatMap fun n => match n with
    | .group none change body => if change.isEmpty then body else [n]
    | _ => [n]

end ApiFlow.Pattern
