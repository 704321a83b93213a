/-!
# The tokens of a YAML text

Tokens name the structure of a text that its indentation, its brackets and its
indicators stand for.  What begins with indentation is given an explicit end.
-/

namespace FeatureLock.Yaml

/-- A token of a YAML text. -/
inductive Token where
  /-- the mark that begins a document -/
  | documentStart
  /-- the mark that ends a document -/
  | documentEnd
  /-- the version of the notation -/
  | version
  /-- what a tag handle stands for -/
  | tagHandle (handle front : String)
  | blockList
  | blockMapping
  /-- the end of a block list or a block mapping -/
  | blockEnd
  | flowList
  | flowListEnd
  | flowMapping
  | flowMappingEnd
  /-- the dash before an item of a block list -/
  | item
  /-- the comma between items or entries in flow notation -/
  | comma
  | key
  | value
  /-- a name for the node that follows -/
  | anchor (name : String)
  /-- the node of a name -/
  | alias (name : String)
  | tag (handle suffix : String)
  /-- a scalar, with or without a notation that makes it text -/
  | scalar (plain : Bool) (text : String)
  deriving DecidableEq

end FeatureLock.Yaml
