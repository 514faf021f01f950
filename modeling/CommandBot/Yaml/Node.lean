/-!
# YAML nodes

The shape of a YAML document: scalars, lists and maps, and references to nodes that have been given
a mark. A scalar keeps how it was written and its tag, since both decide whether it can stand for
a number or for nothing; the tags of lists and maps do not count.
-/

namespace CommandBot.Yaml

/-- How a scalar is written. -/
inductive Style where
  | plain
  | quoted
  | literal
  | folded
  deriving DecidableEq, Repr

/-- A scalar. -/
structure Scalar where
  text : String
  style : Style := .plain
  tag : Option String := none
  deriving DecidableEq, Repr

/-- A node of a YAML document. A reference has the number of a mark. -/
inductive Node where
  | scalar (s : Scalar)
  | list (items : List Node)
  | map (entries : List (Node × Node))
  | reference (mark : Nat)
  deriving Repr, Inhabited

/-- A document: its node, if the text holds one, and the nodes that have marks. Of several nodes
with one mark the first in the list counts. -/
structure Document where
  root : Option Node
  marked : List (Nat × Node)

/-- The tag of null. -/
def nullTag : String := "tag:yaml.org,2002:null"

/-- The tag of whole numbers. -/
def integerTag : String := "tag:yaml.org,2002:int"

/-- Whether a text is a word for null. -/
def isNullWord (text : String) : Bool := ["~", "null", "Null", "NULL"].contains text

namespace Node

/-- The scalar that stands where nothing is written. -/
def blank : Node := .scalar { text := "" }

/-- Whether the node is what stands where nothing is written. -/
def isBlank : Node → Bool
  | .scalar s => s.text.isEmpty && s.style == .plain
  | _ => false

end Node

namespace Document

/-- The node itself, or the one that it refers to. -/
def follow (d : Document) : Node → Node
  | .reference mark => (d.marked.lookup mark).getD .blank
  | node => node

end Document

end CommandBot.Yaml
