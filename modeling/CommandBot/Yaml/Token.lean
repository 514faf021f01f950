import CommandBot.Yaml.Node

/-!
# YAML tokens

What a YAML text is made of. The brackets of lists and maps are tokens, and so are the places where
a list or map on lines of its own starts and ends, which follow from the indentation.
-/

namespace CommandBot.Yaml

/-- A token of a YAML text. -/
inductive Token where
  /-- A directive that names the version of the language. -/
  | version (major minor : Nat)
  /-- A directive that gives the handle of tags a meaning. -/
  | handle (name expansion : String)
  | documentStart
  | documentEnd
  | blockListStart
  | blockMapStart
  | blockEnd
  | listStart
  | listEnd
  | mapStart
  | mapEnd
  | dash
  | comma
  | key
  | value
  /-- A reference to a node by the name of its mark. -/
  | reference (name : String)
  /-- The mark of the node that follows. -/
  | mark (name : String)
  /-- The tag of the node that follows. -/
  | tag (handle suffix : String)
  | scalar (text : String) (style : Style)
  deriving DecidableEq, Repr

end CommandBot.Yaml
