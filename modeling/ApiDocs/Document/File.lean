import ApiDocs.Document.Reading
import ApiDocs.FileSystem.Access
import ApiDocs.Yaml.Reading

/-!
# API descriptions in files

A description is a YAML text, and JSON is read as YAML.  A file that cannot be read and a text that
is no YAML document are malformed descriptions.  A path that cannot name a file is a fault of its
own, and so is a text that is YAML but cannot be loaded.
-/

namespace ApiDocs.Document

/-- The reason why there is no description in a file. -/
inductive Fault where
  | defect (defect : Defect)
  /-- The path cannot name a file. -/
  | path (fault : FileFault)
  | load (fault : Yaml.Fault)
  deriving Repr, DecidableEq, Inhabited

/-- The fault of a description of the wrong shape. -/
def Fault.malformed (cause : Malformation) : Fault := .defect (.malformed cause)

/-- The value that the text of a file denotes. -/
def load : Except TextFault String → Except Fault Value
  | .error (.file fault) =>
    .error (if fault.isNameFault then .path fault else .malformed .unreadable)
  | .error .notUtf8 => .error (.malformed .unreadable)
  | .ok text => match Yaml.load text with
    | .ok v => .ok v
    | .error .malformed => .error (.malformed .notYaml)
    | .error fault => .error (.load fault)

/-- The description that the text of a file holds. -/
def ofText (text : Except TextFault String) : Except Fault Document := do
  (ofValue (← load text)).mapError .defect

variable {m : Type → Type} [Monad m] [FileAccess m]

/-- The description in a file. -/
def ofFile (l : Location) : m (Except Fault Document) :=
  return ofText (← FileAccess.readText l)

end ApiDocs.Document
