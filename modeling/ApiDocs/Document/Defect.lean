import ApiDocs.Document.Basic
import ApiDocs.Record
import ApiDocs.Value.Text

/-!
# What can be wrong with an API description

A `Malformation` is a description of the wrong shape; its message names the place.  The other
defects have no message of their own: a parameter whose name or location cannot be a key, a
parameter with a field that is no text, and a value that is wanted as a text and has none.
-/

namespace ApiDocs

/-- Method and path of an operation, as messages name it. -/
structure OperationName where
  method : Text
  path : Text
  deriving Repr, DecidableEq, Inhabited

/-- The quoted name of an operation. -/
def OperationName.quoted (o : OperationName) : Text := "'" ++ o.method ++ " " ++ o.path ++ "'"

/-- A description of the wrong shape. -/
inductive Malformation where
  /-- The file cannot be read as a text. -/
  | unreadable
  /-- The text is no YAML document. -/
  | notYaml
  /-- No version of a known dialect is declared. -/
  | unknownDialect
  | pathsNotMapping
  | pathItemNotMapping (path : Text)
  | operationNotMapping (operation : OperationName)
  | tagsNotList (operation : OperationName)
  | parametersNotList (operation : OperationName)
  | parameterSchemaNotMapping (parameter : Text) (operation : OperationName)
  | bodyNotMapping (operation : OperationName)
  | contentNotMapping (operation : OperationName)
  | mediaNotMapping (operation : OperationName)
  | bodySchemaNotMapping (operation : OperationName)
  | responsesNotMapping (operation : OperationName)
  | declaredTagsNotList
  deriving Repr, DecidableEq, Inhabited

/-- The wording of a malformation.  Of a file that cannot be read and of a text that is no YAML
document it says no more than this; the account of the cause that follows in parentheses is left
out. -/
def Malformation.message : Malformation → Text
  | .unreadable => "cannot read document"
  | .notYaml => "invalid YAML/JSON"
  | .unknownDialect => "not an OpenAPI 3.x or Swagger 2.0 document"
  | .pathsNotMapping => "'paths' must be a mapping"
  | .pathItemNotMapping path => "path item '" ++ path ++ "' must be a mapping"
  | .operationNotMapping o => "operation " ++ o.quoted ++ " must be a mapping"
  | .tagsNotList o => "tags of " ++ o.quoted ++ " must be a list"
  | .parametersNotList o => "parameters of " ++ o.quoted ++ " must be a list"
  | .parameterSchemaNotMapping p o =>
    "schema of parameter '" ++ p ++ "' of " ++ o.quoted ++ " must be a mapping"
  | .bodyNotMapping o => "requestBody of " ++ o.quoted ++ " must be a mapping"
  | .contentNotMapping o => "requestBody content of " ++ o.quoted ++ " must be a mapping"
  | .mediaNotMapping o => "requestBody content of " ++ o.quoted ++ " must map to mappings"
  | .bodySchemaNotMapping o => "request body schema of " ++ o.quoted ++ " must be a mapping"
  | .responsesNotMapping o => "responses of " ++ o.quoted ++ " must be a mapping"
  | .declaredTagsNotList => "top-level 'tags' must be a list"

/-- The reason why a loaded value is refused as an API description. -/
inductive Defect where
  | malformed (cause : Malformation)
  /-- The name or location of a parameter is a list or a mapping. -/
  | unhashableParameter
  /-- Fields of a parameter are no texts. -/
  | parameterFields (complaints : List Record.Complaint)
  /-- A value that is wanted as a text has none. -/
  | noText (cause : Value.NoText)
  deriving Repr, DecidableEq, Inhabited

/-- The message of a malformation found in a source: the source, if it has a name, comes first. -/
def Malformation.messageIn (cause : Malformation) (source : Option Text) : Text :=
  match source with
  | none => cause.message
  | some name => if name.isEmpty then cause.message else name ++ ": " ++ cause.message

end ApiDocs
