import RestContract.Yaml.Complaint

/-!
# Tokens

The smallest parts of a text of YAML. Collections in block form have no marks of their own, so the
tokens that open and close them come from the columns in which other tokens stand.
-/

namespace RestContract.Yaml

/-- What a directive says. -/
inductive Directive where
  | version (major minor : Nat)
  /-- A short form of tags and what it stands for. -/
  | handle (name expansion : String)
  /-- One that says nothing here. -/
  | other
  deriving DecidableEq, Repr

/-- A token. -/
inductive Token where
  | directive (directive : Directive)
  | documentStart
  | documentEnd
  | blockSequenceStart
  | blockMappingStart
  | blockEnd
  | flowSequenceStart
  | flowSequenceEnd
  | flowMappingStart
  | flowMappingEnd
  | blockEntry
  | flowEntry
  | key
  | value
  | aliasOf (name : String)
  | anchor (name : String)
  /-- A tag: a handle, unless the tag is given in full, and what follows it. -/
  | tag (handle : Option String) (suffix : String)
  /-- A text, and whether it stands for itself without quotes or a block. -/
  | scalar (text : String) (plain : Bool)
  /-- The failure that ended the row of tokens. -/
  | failed (failure : Failure)
  deriving DecidableEq, Repr

/-- A token and the place where it starts; lines and columns count from zero. -/
structure Placed where
  token : Token
  line : Nat
  column : Nat
  deriving DecidableEq, Repr

end RestContract.Yaml
