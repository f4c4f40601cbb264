import ApiFlow.Yaml.Tag

/-!
# The nodes of a document

A document is a graph: its nodes are numbered, and a list or map holds the numbers of others.  A node with a name may be
held by several, and even by itself.
-/

set_option autoImplicit false

namespace ApiFlow.Yaml

/-- What a node holds. -/
inductive Content where
  | scalar (text : Text)
  | list (items : List Nat)
  | map (entries : List (Nat × Nat))
  deriving DecidableEq, Repr

/-- A node with what it stands for. -/
structure Node where
  tag : Tag
  content : Content
  deriving DecidableEq, Repr

/-- Nodes by their numbers. -/
abbrev Graph := Array Node

namespace Graph

def node? (g : Graph) (id : Nat) : Option Node := g[id]?

def tagOf (g : Graph) (id : Nat) : Tag := ((g.node? id).map Node.tag).getD .unknown

def entriesOf (g : Graph) (id : Nat) : List (Nat × Nat) :=
  match g.node? id with
  | some ⟨_, .map entries⟩ => entries
  | _ => []

def setContent (g : Graph) (id : Nat) (content : Content) : Graph := g.modify id fun n => { n with content }

def setTag (g : Graph) (id : Nat) (tag : Tag) : Graph := g.modify id fun n => { n with tag }

def entryCount (g : Graph) : Nat :=
  g.foldl (fun n node => match node.content with
    | .map entries => n + entries.length
    | _ => n) 0

end Graph

end ApiFlow.Yaml
