import ContainerStack.Data

/-!
**Nodes of a YAML document.**

A document is a tree of nodes. A node may refer to another one by a number; reading such a tree
means to follow every reference, so what is read can be much larger than what is written, or without
end. Two limits keep it finite: collections are nested at most 128 deep, and references are followed
at most a hundred times for each event of the document. A scalar or reference is one event, a
collection has one at its beginning and one at its end.

* `Node`: a tree with references.
* `Node.expand?`: the tree of data without references.
-/

namespace ContainerStack.Yaml

/-- A node as it is written. -/
inductive Node where
  | plain (written : String)
  | literal (value : String)
  | text (value : String)
  | reference (number : Nat)
  | tagged (tag : Tag) (node : Node)
  | sequence (items : List Node)
  | mapping (entries : List (Node × Node))
  deriving Inhabited

namespace Node

/-- The node that is not written. -/
def empty : Node := plain ""

mutual

/-- The number of events of a node. -/
def events : Node → Nat
  | plain _ => 1
  | literal _ => 1
  | text _ => 1
  | reference _ => 1
  | tagged _ node => events node
  | sequence items => itemEvents items + 2
  | mapping entries => entryEvents entries + 2

/-- The number of events of the items of a sequence. -/
def itemEvents : List Node → Nat
  | [] => 0
  | item :: rest => events item + itemEvents rest

/-- The number of events of the entries of a mapping. -/
def entryEvents : List (Node × Node) → Nat
  | [] => 0
  | (key, value) :: rest => events key + events value + entryEvents rest

end

/-- A step of following references, with the number of times that one may still be followed. -/
abbrev Expansion (α : Type) := StateT Nat Option α

/-- The node that a node stands for. -/
def follow (target : Nat → Option Node) : Node → Expansion Node
  | reference number => do
    let left ← get
    guard (0 < left)
    set (left - 1)
    (target number : Option Node)
  | node => return node

/-- Gives a tag to data, if there is one. -/
def withTag (tag : Option Tag) (data : Data) : Data :=
  match tag with
  | some tag => .tagged tag data
  | none => data

/-- The tag of a node and the node without it. -/
def splitTag : Node → Option Tag × Node
  | tagged tag node => (some tag, node)
  | node => (none, node)

/-- The data of a scalar. -/
def scalar? : Node → Option Data
  | plain written => some (.plain written)
  | literal value => some (.literal value)
  | text value => some (.text value)
  | _ => none

/-- The data of a node whose collections are nested at most `depth` deep. -/
def expandFrom (target : Nat → Option Node) : Nat → Node → Expansion Data
  | 0, node => do
    let (tag, content) := splitTag (← follow target node)
    let data ← (content.scalar? : Option Data)
    return withTag tag data
  | depth + 1, node => do
    let (tag, content) := splitTag (← follow target node)
    match content with
    | sequence items =>
      return withTag tag (.sequence (← items.mapM (expandFrom target depth)))
    | mapping entries =>
      let data ← entries.mapM fun (key, value) => do
        let key ← expandFrom target depth key
        return (key, ← expandFrom target depth value)
      return withTag tag (.mapping data)
    | scalar =>
      let data ← (scalar.scalar? : Option Data)
      return withTag tag data

/-- The deepest nesting of collections. -/
def deepest : Nat := 128

/-- The data of a document: its references are followed within the limits. -/
def expand? (target : Nat → Option Node) (node : Node) : Option Data := do
  let (data, _) ← (expandFrom target deepest node).run (100 * node.events)
  return data

end Node

end ContainerStack.Yaml
