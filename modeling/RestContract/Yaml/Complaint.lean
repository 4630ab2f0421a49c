import RestContract.Error

/-!
# Why a text is not YAML

The rules of YAML that a text can break, with the place where reading stopped if the rule is one of
the written form. A text can also hold values that YAML has a form for and that do not exist.
-/

namespace RestContract.Yaml

/-- The rules that a text can break. -/
inductive Complaint where
  -- characters
  | forbiddenCharacter
  | strayCharacter
  -- tokens
  | missingColon
  | misplacedEntry
  | misplacedKey
  | misplacedValue
  | badDirective
  | badName
  | badTag
  | badBlockHeader
  | badEscape
  | unclosedText
  | separatorInText
  -- nodes
  | unexpectedToken
  | repeatedDirective
  | unsupportedVersion
  | unknownHandle
  | severalDocuments
  | unknownAnchor
  | repeatedAnchor
  -- values
  | unknownTag
  | wrongNode
  | collectionAsKey
  | badMerge
  | badBinary
  deriving DecidableEq, Repr

def Complaint.message : Complaint → String
  | .forbiddenCharacter => "special characters are not allowed"
  | .strayCharacter => "found a character that cannot start any token"
  | .missingColon => "could not find the colon after a key"
  | .misplacedEntry => "entries of a sequence are not allowed here"
  | .misplacedKey => "keys of a mapping are not allowed here"
  | .misplacedValue => "values of a mapping are not allowed here"
  | .badDirective => "found a malformed directive"
  | .badName => "found a malformed anchor or alias"
  | .badTag => "found a malformed tag"
  | .badBlockHeader => "found a malformed header of a block of text"
  | .badEscape => "found an unknown escape"
  | .unclosedText => "found the end of the text inside quotes"
  | .separatorInText => "found the end of the document inside quotes"
  | .unexpectedToken => "found an unexpected token"
  | .repeatedDirective => "found a directive twice"
  | .unsupportedVersion => "found an incompatible version"
  | .unknownHandle => "found a tag with an undeclared handle"
  | .severalDocuments => "found another document where one was expected"
  | .unknownAnchor => "found an alias without its anchor"
  | .repeatedAnchor => "found an anchor twice"
  | .unknownTag => "found a tag without a meaning"
  | .wrongNode => "found a node of another kind than its tag"
  | .collectionAsKey => "found a collection as a key"
  | .badMerge => "expected a mapping or a list of mappings for merging"
  | .badBinary => "failed to decode binary data"

/-- Why a text has no value. -/
inductive Failure where
  /-- A rule is broken at a place; lines and columns count from one. -/
  | placed (complaint : Complaint) (line column : Nat)
  /-- A rule is broken by a node that has been read. -/
  | unplaced (complaint : Complaint)
  /-- A node stands for a value that does not exist. -/
  | fault (fault : Fault)
  deriving DecidableEq, Repr

def Failure.message : Failure → String
  | .placed reason line column =>
    reason.message ++ "\n  in line " ++ toString line ++ ", column " ++ toString column
  | .unplaced reason => reason.message
  | .fault f => f.message

end RestContract.Yaml
