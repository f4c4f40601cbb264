import ApiFlow.Table
import ApiFlow.Yaml.Graph
import ApiFlow.Yaml.Layout

/-!
# The structure of a configuration text

A text holds one document, and a document one node: a scalar, a list or a map.  A node may have a name, by which later
nodes stand for it, and a tag.  Where a node is missing, an empty scalar stands.  Tokens are taken one by one, so that of
several things that are wrong the first one counts.

* `Document.read` reads the only document of a text; there may be none.
-/

set_option autoImplicit false

namespace ApiFlow.Yaml

/-- A document: its nodes and the number of its root. -/
structure Document where
  nodes : Graph
  root : Nat

/-- The state of reading nodes: the tokens, the nodes so far, those that have names, and the handles of tags. -/
structure Composition where
  layout : Layout
  nodes : Graph := #[]
  anchors : Table Nat := []
  handles : Table Text := []

/-- A step of reading nodes. -/
abbrev Composing := StateT Composition (Except Error)

namespace Composition

/-- Gives up a text without structure. -/
def malformed {α : Type} : Composing α := throw .malformed

def lexing {α : Type} (step : Lexing α) : Composing α := do
  let (result, layout) ← liftM (step.run (← get).layout)
  modify fun s => { s with layout }
  return result

def peek : Composing (Option Token) := lexing Layout.peek

/-- Moves behind the next token. -/
def advance : Composing Unit := lexing Layout.take

def isAt (choices : List Token) : Composing Bool := return ((← peek).map choices.contains).getD false

/-- Moves behind the next token if it is the given one. -/
def accept (t : Token) : Composing Bool := do
  let found ← isAt [t]
  if found then advance
  return found

/-- Moves behind the next token, which must be the given one. -/
def expect (t : Token) : Composing Unit := do
  if !(← accept t) then malformed

/-! ## Properties of nodes -/

/-- The name of an anchor, if one stands here. -/
def anchor? : Composing (Option Text) := do
  match ← peek with
  | some (.anchor name) => do
    advance
    return some name
  | _ => return none

/-- A tag as it is written, if one stands here. -/
def tagged? : Composing (Option Tagged) := do
  match ← peek with
  | some (.tag t) => do
    advance
    return some t
  | _ => return none

/-- The full name of a tag. -/
def fullName (t : Tagged) : Composing Text := do
  match t.handle? with
  | none => return t.suffix
  | some handle => return (← liftM (orMalformed ((← get).handles.get? handle))) ++ t.suffix

/-- The anchor and the tag in front of a node, in either order. -/
def properties : Composing (Option Text × Option Text) := do
  let (name?, tagged?) ← match ← anchor? with
    | some name => do pure (some name, ← tagged?)
    | none =>
      match ← tagged? with
      | some t => do pure (← anchor?, some t)
      | none => pure (none, none)
  match tagged? with
  | some t => return (name?, some (← fullName t))
  | none => return (name?, none)

/-- The tag of a scalar: the sign alone makes it look like a plain one. -/
def scalarTag (tag? : Option Text) (plain : Bool) (text : Text) : Tag :=
  match tag? with
  | none => if plain then Tag.ofScalar text else .text
  | some name => if name = ['!'] then Tag.ofScalar text else Tag.ofName name

def nestedTag (tag? : Option Text) (usual : Tag) : Tag :=
  match tag? with
  | none => usual
  | some name => if name = ['!'] then usual else Tag.ofName name

/-! ## Nodes -/

/-- Adds a node, under a name that no node has yet; what a list or map holds is set later. -/
def add (name? : Option Text) (n : Node) : Composing Nat := do
  let id := (← get).nodes.size
  if let some name := name? then
    if (← get).anchors.has name then malformed
    modify fun s => { s with anchors := s.anchors.set name id }
  modify fun s => { s with nodes := s.nodes.push n }
  return id

/-- The node that stands where none is written. -/
def missing : Composing Nat := add none ⟨.nothing, .scalar []⟩

/-- Sets what a list or map holds. -/
def hold (id : Nat) (content : Content) : Composing Nat := do
  modify fun s => { s with nodes := s.nodes.setContent id content }
  return id

mutual

/-- A node; `block` allows one that indentation shows, `indentless` a list that is not indented below its key. -/
def node : (fuel : Nat) → (block indentless : Bool) → Composing Nat
  | 0, _, _ => malformed
  | fuel + 1, block, indentless => do
    match ← peek with
    | some (.alias name) => do
      advance
      liftM (orMalformed ((← get).anchors.get? name))
    | _ => do
      let (name?, tag?) ← properties
      content fuel block indentless name? tag?

/-- What stands behind the anchor and the tag of a node. -/
def content : (fuel : Nat) → (block indentless : Bool) → (name? tag? : Option Text) → Composing Nat
  | 0, _, _, _, _ => malformed
  | fuel + 1, block, indentless, name?, tag? => do
    let listTag := nestedTag tag? .list
    let mapTag := nestedTag tag? .map
    match ← peek, block, indentless with
    | some .dash, _, true => do
      let id ← add name? ⟨listTag, .list []⟩
      hold id (.list (← indentlessItems fuel))
    | some (.scalar text plain), _, _ => do
      advance
      add name? ⟨scalarTag tag? plain text, .scalar text⟩
    | some .openList, _, _ => do
      advance
      let id ← add name? ⟨listTag, .list []⟩
      hold id (.list (← flowItems fuel true))
    | some .openMap, _, _ => do
      advance
      let id ← add name? ⟨mapTag, .map []⟩
      hold id (.map (← flowEntries fuel true))
    | some .listStart, true, _ => do
      advance
      let id ← add name? ⟨listTag, .list []⟩
      hold id (.list (← blockItems fuel))
    | some .mapStart, true, _ => do
      advance
      let id ← add name? ⟨mapTag, .map []⟩
      hold id (.map (← blockEntries fuel))
    | _, _, _ =>
      if name?.isSome || tag?.isSome then add name? ⟨scalarTag tag? true [], .scalar []⟩ else malformed

/-- A node, unless one of the given tokens shows that it is missing. -/
def nodeUnless : (fuel : Nat) → (ends : List Token) → (block indentless : Bool) → Composing Nat
  | 0, _, _, _ => malformed
  | fuel + 1, ends, block, indentless => do
    if ← isAt ends then missing else node fuel block indentless

/-- The node behind a colon, which may be missing with its colon. -/
def valueUnless : (fuel : Nat) → (ends : List Token) → (block indentless : Bool) → Composing Nat
  | 0, _, _, _ => malformed
  | fuel + 1, ends, block, indentless => do
    if ← accept .value then nodeUnless fuel ends block indentless else missing

def blockItems : (fuel : Nat) → Composing (List Nat)
  | 0 => malformed
  | fuel + 1 => do
    if ← accept .dash then
      let item ← nodeUnless fuel [.dash, .blockEnd] true false
      return item :: (← blockItems fuel)
    else
      expect .blockEnd
      return []

/-- The items of a list that has no block of its own. -/
def indentlessItems : (fuel : Nat) → Composing (List Nat)
  | 0 => malformed
  | fuel + 1 => do
    if ← accept .dash then
      let item ← nodeUnless fuel [.dash, .key, .value, .blockEnd] true false
      return item :: (← indentlessItems fuel)
    else return []

def blockEntries : (fuel : Nat) → Composing (List (Nat × Nat))
  | 0 => malformed
  | fuel + 1 => do
    if ← accept .key then
      let key ← nodeUnless fuel [.key, .value, .blockEnd] true true
      let value ← valueUnless fuel [.key, .value, .blockEnd] true true
      return (key, value) :: (← blockEntries fuel)
    else
      expect .blockEnd
      return []

/-- The items between brackets; an entry of its own is a map. -/
def flowItems : (fuel : Nat) → (first : Bool) → Composing (List Nat)
  | 0, _ => malformed
  | fuel + 1, first => do
    if ← accept .closeList then return []
    else
      if !first then expect .comma
      match ← peek with
      | some .closeList => flowItems fuel true
      | some .key => do
        advance
        let id ← add none ⟨.map, .map []⟩
        let key ← nodeUnless fuel [.value, .comma, .closeList] false false
        let value ← valueUnless fuel [.comma, .closeList] false false
        let item ← hold id (.map [(key, value)])
        return item :: (← flowItems fuel false)
      | _ => do
        let item ← node fuel false false
        return item :: (← flowItems fuel false)

/-- The entries between braces; an item of its own is a key without a value. -/
def flowEntries : (fuel : Nat) → (first : Bool) → Composing (List (Nat × Nat))
  | 0, _ => malformed
  | fuel + 1, first => do
    if ← accept .closeMap then return []
    else
      if !first then expect .comma
      match ← peek with
      | some .closeMap => flowEntries fuel true
      | some .key => do
        advance
        let key ← nodeUnless fuel [.value, .comma, .closeMap] false false
        let value ← valueUnless fuel [.comma, .closeMap] false false
        return (key, value) :: (← flowEntries fuel false)
      | _ => do
        let key ← node fuel false false
        return (key, ← missing) :: (← flowEntries fuel false)

end

/-! ## Documents -/

/-- The directives in front of a document: at most one version, which begins with one, and handles that differ. -/
def directives : (fuel : Nat) → (versioned : Bool) → Composing Unit
  | 0, _ => malformed
  | fuel + 1, versioned => do
    match ← peek with
    | some (.directive d) => do
      advance
      match d with
      | .version major => if versioned || major != 1 then malformed else directives fuel true
      | .handle name stem => do
        if (← get).handles.has name then malformed
        modify fun s => { s with handles := s.handles.set name stem }
        directives fuel versioned
      | .other => directives fuel versioned
    | _ => return ()

def usualHandles : Table Text := [(['!'], ['!']), (['!', '!'], Tag.stem)]

/-- Adds the handles that every document has, unless they are given. -/
def addUsualHandles : Composing Unit :=
  modify fun s => { s with handles := Table.setAll usualHandles s.handles }

def documentStart (fuel : Nat) : Composing Unit := do
  directives fuel false
  expect .documentStart
  addUsualHandles

/-- Whether a token can only stand between documents. -/
def isOutside (t : Token) : Bool :=
  match t with
  | .documentStart => true
  | .documentEnd => true
  | .directive _ => true
  | _ => false

/-- The root of a document whose start is marked; it may be missing. -/
def markedRoot (fuel : Nat) : Composing Nat := do
  documentStart fuel
  match ← peek with
  | none => missing
  | some t => if isOutside t then missing else node fuel true false

def documentEnds : (fuel : Nat) → Composing Unit
  | 0 => return ()
  | fuel + 1 => do
    if ← accept .documentEnd then documentEnds fuel

def root? (fuel : Nat) : Composing (Option Nat) := do
  match ← peek with
  | none => return none
  | some first => do
    let root ←
      if isOutside first && first != .documentEnd then markedRoot fuel
      else do
        addUsualHandles
        node fuel true false
    documentEnds fuel
    if (← peek).isSome then
      documentStart fuel
      malformed
    return some root

end Composition

/-- The most steps that reading a node of a text takes: each character gives at most three tokens. -/
def stepLimit (text : Text) : Nat := 16 * (text.length + 4)

def Document.read (text : Text) : Except Error (Option Document) := do
  let layout : Layout := { cursor := { rest := text } }
  let (root?, s) ← (Composition.root? (stepLimit text)).run { layout }
  return root?.map fun root => { nodes := s.nodes, root }

end ApiFlow.Yaml
