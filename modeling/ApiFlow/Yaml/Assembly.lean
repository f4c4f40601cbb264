import ApiFlow.Yaml.Graph
import ApiFlow.Yaml.Literal
import ApiFlow.Yaml.Value

/-!
# From nodes to values

The value of a scalar is known at once.  A list, set or map is empty when its node is met, and is filled when its turn comes:
in the order in which their nodes were met.  So a node may hold itself, and of several things that are wrong the one nearest
to the root counts.

The numbers of a set stand in a table of slots: each takes the first free slot of a walk that starts at its own hash, and
the table is made larger before it gets too full.  The members are told in the order of the slots.  A set with members
other than numbers keeps the order in which they are written.

* `Slots.arrange` puts the members of a set into their order.
* `Assembly.merge` moves the entries under merge keys to the front of a map.
* `Assembly.build` gives the value of a node.
* `Assembly.fill` fills a list, set or map.
-/

set_option autoImplicit false

/-! ## The order of a set -/

namespace ApiFlow.Yaml.Slots

def modulus : Nat := twoTo 61 - 1

/-- The hash of a number with the given sign and size. -/
def signedHash (negative : Bool) (n : Nat) : Int :=
  let hash : Int := if negative then -(n : Int) else n
  if hash = -1 then -2 else hash

/-- The hash of a number: equal numbers have the same. -/
def hash? : Value → Option Int
  | .bool b => some (if b then 1 else 0)
  | .int i => some (signedHash (decide (i < 0)) (i.natAbs % modulus))
  | .real (.finite negative m e) => some (signedHash negative (m * twoTo (Int.emod e 61).toNat % modulus))
  | .real (.infinite negative) => some (if negative then -314159 else 314159)
  | _ => none

/-- A member with its hash as an unsigned word. -/
abbrev Member := Value × Nat

/-- A table of slots. -/
abbrev Slotted := Array (Option Member)

/-- The first free slot among `count` slots from a place on. -/
def freeFrom (slots : Slotted) (place : Nat) : (count : Nat) → Option Nat
  | 0 => none
  | count + 1 => if (slots[place]?.map Option.isNone).getD false then some place else freeFrom slots (place + 1) count

def row : Nat := 10

/-- The free slot of a walk; each step looks at a row of slots, or at a single one near the end of the table. -/
def freeSlot (slots : Slotted) : (fuel place perturb : Nat) → Option Nat
  | 0, _, _ => none
  | fuel + 1, place, perturb =>
    match freeFrom slots place (if place + row ≤ slots.size then row else 1) with
    | some free => some free
    | none =>
      let perturb := perturb / 32
      freeSlot slots fuel ((place * 5 + 1 + perturb) % slots.size) perturb

/-- Puts a member into its slot; a walk visits every slot once its hash is used up. -/
def insert (slots : Slotted) (member : Member) : Slotted :=
  match freeSlot slots (slots.size + 16) (member.2 % slots.size) member.2 with
  | some free => slots.setIfInBounds free (some member)
  | none => slots

/-- The least size above a number, doubled from a start. -/
def sizeAbove (least : Nat) : (fuel size : Nat) → Nat
  | 0, size => size
  | fuel + 1, size => if size ≤ least then sizeAbove least fuel (2 * size) else size

/-- The members in the order of their slots. -/
def members (slots : Slotted) : List Member := slots.toList.filterMap id

/-- A table with room for more than `least` members that holds the given ones. -/
def resized (least : Nat) (held : List Member) : Slotted :=
  held.foldl insert (Array.replicate (sizeAbove least least 8) none)

/-- Adds a member, and makes a table that is three fifths full larger. -/
def add (slots : Slotted) (member : Member) : Slotted :=
  let slots := insert slots member
  let held := members slots
  if held.length * 5 < (slots.size - 1) * 3 then slots
  else resized (if 50000 < held.length then held.length * 2 else held.length * 4) held

/-- A table for a number of members. -/
def empty (count : Nat) : Slotted := if 21 ≤ count * 5 then resized (2 * count) [] else resized 0 []

/-- The members of a set in the order in which it tells them. -/
def arrange (values : List Value) : List Value :=
  match values.mapM fun v => (hash? v).map fun h => (v, (Int.emod h (twoTo 64)).toNat) with
  | some held => (members (held.foldl add (empty held.length))).map Prod.fst
  | none => values

end ApiFlow.Yaml.Slots

/-! ## Building values -/

namespace ApiFlow.Yaml

/-- What a node has become: a value, or a list, set or map with a number. -/
inductive Part where
  | value (v : Value)
  | holder (id : Nat)

inductive Holder where
  | list (items : List Part)
  | pairs (entries : List (Part × Part))
  | set (members : List Value)
  | map (entries : List (Value × Part))

/-- The state of building values: the nodes, what they have become, and the lists, sets and maps met so far, each with its
node. -/
structure Assembly where
  nodes : Graph
  parts : Array (Option Part)
  holders : Array (Nat × Holder) := #[]

/-- A step of building values. -/
abbrev Assembling := StateT Assembly (Except Error)

namespace Assembly

/-- Gives up a text whose nodes are not what their tags ask for. -/
def malformed {α : Type} : Assembling α := throw .malformed

def contentOf (id : Nat) : Assembling Content := do
  match (← get).nodes.node? id with
  | some n => return n.content
  | none => malformed

def entriesOf (id : Nat) : Assembling (List (Nat × Nat)) := return (← get).nodes.entriesOf id

/-- Sets the entries of a map. -/
def setEntries (id : Nat) (entries : List (Nat × Nat)) : Assembling Unit :=
  modify fun s => { s with nodes := s.nodes.setContent id (.map entries) }

/-! ## Merged entries -/

mutual

/-- Moves the entries under the merge keys of a map to its front; an equals sign as a key is a text. -/
def merge : (fuel : Nat) → (id : Nat) → Assembling Unit
  | 0, _ => return ()
  | fuel + 1, id => do
    let merged ← mergeFrom fuel id 0
    if !merged.isEmpty then setEntries id (merged ++ (← entriesOf id))

/-- The entries that the merge keys of a map from a place on stand for; the keys are taken out. -/
def mergeFrom : (fuel : Nat) → (id place : Nat) → Assembling (List (Nat × Nat))
  | 0, _, _ => return []
  | fuel + 1, id, place => do
    let entries ← entriesOf id
    match entries[place]? with
    | none => return []
    | some (key, value) =>
      match (← get).nodes.tagOf key with
      | .merge => do
        setEntries id (entries.eraseIdx place)
        let first ← mergedBy fuel value
        return first ++ (← mergeFrom fuel id place)
      | .equals => do
        modify fun s => { s with nodes := s.nodes.setTag key .text }
        mergeFrom fuel id (place + 1)
      | _ => mergeFrom fuel id (place + 1)

/-- The entries that a map, or a list of maps, gives to another map. -/
def mergedBy : (fuel : Nat) → (id : Nat) → Assembling (List (Nat × Nat))
  | 0, _ => return []
  | fuel + 1, id => do
    match ← contentOf id with
    | .map _ => do
      merge fuel id
      entriesOf id
    | .list items => mergedByAll fuel items
    | .scalar _ => malformed

/-- The entries of several maps, those of the last one first. -/
def mergedByAll : (fuel : Nat) → List Nat → Assembling (List (Nat × Nat))
  | 0, _ => return []
  | _, [] => return []
  | fuel + 1, item :: items => do
    match ← contentOf item with
    | .map _ => do
      merge fuel item
      let first ← entriesOf item
      return (← mergedByAll fuel items) ++ first
    | _ => malformed

end

/-- The entries of a map with the merged ones in front; to find them takes a step for each entry on the way to a key. -/
def mergedEntries (id : Nat) : Assembling (List (Nat × Nat)) := do
  let size := (← get).nodes.entryCount + (← get).nodes.size + 2
  merge (size * size) id
  entriesOf id

/-! ## Values of nodes -/

/-- The text of a scalar; a map stands for the scalar under its equals sign.  It tells whether a map stands there. -/
def scalarText : (fuel : Nat) → (id : Nat) → Assembling (Text × Bool)
  | 0, _ => malformed
  | fuel + 1, id => do
    match ← contentOf id with
    | .scalar text => return (text, false)
    | .list _ => malformed
    | .map entries => do
      let nodes := (← get).nodes
      match entries.find? fun e => nodes.tagOf e.1 = .equals with
      | some e => return ((← scalarText fuel e.2).1, true)
      | none => malformed

/-- Meets a list, set or map, which is filled later. -/
def meet (id : Nat) (empty : Holder) : Assembling Part := do
  let number := (← get).holders.size
  modify fun s => { s with holders := s.holders.push (id, empty) }
  return .holder number

/-- What a node becomes that has not become anything yet. -/
def start (id : Nat) : Assembling Part := do
  let nodes := (← get).nodes
  match nodes.tagOf id with
  | .list => meet id (.list [])
  | .pairs => meet id (.pairs [])
  | .set => meet id (.set [])
  | .map => meet id (.map [])
  | .unknown => malformed
  | .merge => malformed
  | .equals => malformed
  | tag => do
    let (text, ofMap) ← scalarText (nodes.size + 1) id
    return .value (← liftM (tag.read ofMap text))

/-- What a node becomes. -/
def build (id : Nat) : Assembling Part := do
  match (← get).parts[id]? with
  | some (some part) => return part
  | _ => do
    let part ← start id
    modify fun s => { s with parts := s.parts.setIfInBounds id (some part) }
    return part

def buildKey (id : Nat) : Assembling Value := do
  match ← build id with
  | .value v => return v
  | .holder _ => malformed

/-- The entries of a map; of equal keys the first one stays, with the last value. -/
def buildEntries (id : Nat) : Assembling (List (Value × Part)) := do
  match ← contentOf id with
  | .map _ => do
    (← mergedEntries id).foldlM (fun entries e => do
      let key ← buildKey e.1
      return Value.setEntry key (← build e.2) entries) []
  | _ => malformed

def buildPair (id : Nat) : Assembling (Part × Part) := do
  match ← contentOf id with
  | .map [(key, value)] => return (← build key, ← build value)
  | _ => malformed

/-- What a list, set or map holds that is met at a node. -/
def filled (id : Nat) : Holder → Assembling Holder
  | .list _ => do
    match ← contentOf id with
    | .list items => return .list (← items.mapM build)
    | _ => malformed
  | .pairs _ => do
    match ← contentOf id with
    | .list items => return .pairs (← items.mapM buildPair)
    | _ => malformed
  | .set _ => return .set (Slots.arrange ((← buildEntries id).map Prod.fst))
  | .map _ => return .map (← buildEntries id)

/-- Fills the lists, sets and maps from a number on, and those met meanwhile: each node is met once. -/
def fill : (fuel : Nat) → (number : Nat) → Assembling Unit
  | 0, _ => return ()
  | fuel + 1, number => do
    match (← get).holders[number]? with
    | none => return ()
    | some (id, empty) => do
      let full ← filled id empty
      modify fun s => { s with holders := s.holders.setIfInBounds number (id, full) }
      fill fuel (number + 1)

end Assembly

end ApiFlow.Yaml
