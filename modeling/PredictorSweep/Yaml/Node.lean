import PredictorSweep.Yaml.Token
/-!
# YAML nodes

A document is a tree of nodes: scalars with their text, tag and style, sequences, mappings with
their entries in order, and aliases. Each node knows the line, from one, where it starts. Every
node carries its tag in short form: the tag written on it, or `!!str` for a quoted or block
scalar, the tag its text resolves to for a plain one, `!!seq` and `!!map` for collections.

An alias names an anchor. Its node is kept once, in the document's table of anchored nodes, and
the alias holds its place there, so that an alias inside the node it names is well defined. Each
alias also has a number of its own, which a reader uses to notice that it is following an alias
into itself.

Main definitions:

- `Node`, `Node.line`, `Node.sameKey`;
- `Document`, `Document.target`.
-/

namespace PredictorSweep.Yaml

/-- A node of a YAML document. -/
inductive Node where
  /-- A scalar: its text, tag, style and line. -/
  | scalar (text : String) (tag : String) (style : ScalarStyle) (line : Nat)
  /-- A sequence: its items, tag and line. -/
  | sequence (items : List Node) (tag : String) (line : Nat)
  /-- A mapping: its entries in order, tag and line. -/
  | mapping (entries : List (Node × Node)) (tag : String) (line : Nat)
  /-- An alias: the anchor's name, the place of the anchored node, its own number, its line. -/
  | ref (name : String) (slot : Nat) (id : Nat) (line : Nat)
  deriving Inhabited, Repr

namespace Node

/-- The line, from one, where a node starts. -/
def line : Node → Nat
  | scalar _ _ _ l => l
  | sequence _ _ l => l
  | mapping _ _ l => l
  | ref _ _ _ l => l

/-- The tag of a node; an alias has none. -/
def tag : Node → String
  | scalar _ t _ _ => t
  | sequence _ t _ => t
  | mapping _ t _ => t
  | ref .. => ""

/-- Whether two keys of one mapping count as the same: both scalars of one text, both aliases
of one anchor name, or both collections. -/
def sameKey : Node → Node → Bool
  | scalar a .., scalar b .. => a == b
  | ref a .., ref b .. => a == b
  | sequence .., sequence .. => true
  | mapping .., mapping .. => true
  | _, _ => false

/-- The text by which a key is reported: a scalar's text, an alias's anchor name, or nothing. -/
def keyText : Node → String
  | scalar t .. => t
  | ref n .. => n
  | _ => ""

end Node

/-- A document: its root node and its anchored nodes by place. -/
structure Document where
  /-- The root node. -/
  root : Node
  /-- The anchored nodes, by the place aliases hold. -/
  anchored : Array Node := #[]
  /-- How many aliases the document holds. -/
  aliases : Nat := 0
  /-- How many tokens the document was read from, at least its number of nodes less its empty
  scalars. -/
  weight : Nat := 0
  deriving Inhabited

/-- The node an alias's place holds. -/
def Document.target (d : Document) (slot : Nat) : Node := d.anchored.getD slot default

end PredictorSweep.Yaml
