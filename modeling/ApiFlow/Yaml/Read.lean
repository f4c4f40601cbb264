import ApiFlow.Yaml.Assembly
import ApiFlow.Yaml.Document

/-!
# Reading configuration values

The value of a text is that of its document's root.  Equal keys of a map are one key, with the last value; the entries of
merged maps come first.  A list or map that holds itself gets a number, which stands for it inside.

* `Unfolding.part` is the value of what a node has become.
* `read` is the value of a text; that of a text without a document is nothing.
-/

set_option autoImplicit false

namespace ApiFlow.Yaml

/-- The values that are already known of lists, sets and maps; inside of these nothing holds itself. -/
abbrev Unfolding := StateM (Array (Option Value))

namespace Unfolding

def isMap : Holder → Bool
  | .map _ => true
  | _ => false

/-- Something with the numbers of the lists and maps that are met again inside of it. -/
abbrev Met (α : Type) := α × List Nat

/-- A list of what its items are. -/
def gather {α β : Type} (f : α → Unfolding (Met β)) (items : List α) : Unfolding (Met (List β)) := do
  let met ← items.mapM f
  return (met.map Prod.fst, met.flatMap Prod.snd)

/-- The value of a part, given the numbers of what is around it, of which there are never more than holders.  What meets
itself or something around it again gets its number. -/
def part (holders : Array (Nat × Holder)) : (fuel : Nat) → (around : List Nat) → Part → Unfolding (Met Value)
  | _, _, .value v => return (v, [])
  | 0, _, .holder _ => return (.null, [])
  | fuel + 1, around, .holder id => do
    match (← get)[id]?, holders[id]? with
    | some (some known), _ => return (known, [])
    | _, none => return (.null, [])
    | _, some (_, holder) =>
      if around.contains id then return (.again id (isMap holder), [id])
      else
        let around := id :: around
        let (body, met) ← match holder with
          | .list items => do
            let (items, met) ← gather (part holders fuel around) items
            pure (Value.list items, met)
          | .pairs entries => do
            let (pairs, met) ← gather (fun e => do
              let (first, a) ← part holders fuel around e.1
              let (second, b) ← part holders fuel around e.2
              return (Value.pair first second, a ++ b)) entries
            pure (Value.list pairs, met)
          | .set members => pure (Value.set members, [])
          | .map entries => do
            let (entries, met) ← gather (fun e => do
              let (value, met) ← part holders fuel around e.2
              return ((e.1, value), met)) entries
            pure (Value.map entries, met)
        let met := met.eraseDups
        if met.isEmpty then modify fun known => known.setIfInBounds id (some body)
        return (if met.any around.contains then .named id body else body, met)

end Unfolding

/-- The value of a document: each of its nodes is met at most once. -/
def Document.value (d : Document) : Except Error Value := do
  let (root, s) ← (do
    let root ← Assembly.build d.root
    Assembly.fill (d.nodes.size + 1) 0
    return root : Assembling Part).run { nodes := d.nodes, parts := Array.replicate d.nodes.size none }
  let count := s.holders.size
  return ((Unfolding.part s.holders (count + 1) [] root).run (Array.replicate count none)).1.1

def read (text : Text) : Except Error Value :=
  if !text.all isPrintable then .error .malformed
  else do
    match ← Document.read text with
    | none => return .null
    | some document => document.value

end ApiFlow.Yaml
