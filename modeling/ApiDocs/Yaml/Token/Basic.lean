import ApiDocs.Text.Basic
import ApiDocs.Yaml.Fault

/-!
# Tokens of YAML

A YAML text as a list of tokens.  The tokens that open and close block collections, and those that
introduce keys, stand for indentation and have no characters of their own.
-/

namespace ApiDocs.Yaml

/-- An instruction before a document. -/
inductive Directive where
  /-- The version of YAML; only the first number matters. -/
  | version (major : Nat)
  /-- A short form for the start of type names. -/
  | shorthand (handle start : String)
  | other
  deriving Repr, DecidableEq, Inhabited

/-- A token. -/
inductive Token where
  | directive (d : Directive)
  | documentStart
  | documentEnd
  | blockSequenceStart
  | blockMappingStart
  | blockEnd
  | flowSequenceStart
  | flowSequenceEnd
  | flowMappingStart
  | flowMappingEnd
  | blockEntry
  | flowEntry
  | key
  | value
  | alias (name : String)
  | anchor (name : String)
  | tag (handle : Option String) (suffix : String)
  | scalar (text : Text) (plain : Bool)
  /-- The end of the text. -/
  | streamEnd
  /-- The place from which on the text cannot be cut into tokens. -/
  | broken (fault : Fault)
  deriving Repr, Inhabited, BEq

end ApiDocs.Yaml
