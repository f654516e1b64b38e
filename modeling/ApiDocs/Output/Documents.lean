import ApiDocs.FileSystem.Access
import ApiDocs.Value.Text
import ApiDocs.Yaml.Reading

/-!
# Documents of a directory

The ids under which the documents of a directory can be referred to.  A document is a Markdown file
on any level below the directory.  Its own id is the `id` of its front matter, or else its name
without the suffix; before that come the directories that lead to it and the prefix of the site.
-/

namespace ApiDocs.Output

/-- The suffixes of documents. -/
def documentSuffixes : List Text := [".md", ".mdx"]

/-- The reason why the ids of documents cannot be read. -/
inductive DocumentFault where
  | unreadable (fault : TextFault)
  /-- The directory cannot be looked at. -/
  | directory (fault : FileFault)
  /-- A front matter is YAML but cannot be loaded. -/
  | load (fault : Yaml.Fault)
  /-- An id has no text. -/
  | noText (cause : Value.NoText)
  deriving Repr, DecidableEq, Inhabited

/-! ## 1. Front matter -/

/-- The text before the first place where `mark` stands. -/
def before? (mark : List Char) : List Char → Option (List Char)
  | [] => if mark.isEmpty then some [] else none
  | c :: cs =>
    if mark.isPrefixOf (c :: cs) then some []
    else (before? mark cs).map (fun rest => c :: rest)

/-- The front matter of a document: what stands between a first line of three hyphens and the next
line that starts with three. -/
def frontMatter? (text : String) : Option String :=
  let opening := "---\n".toList
  if opening.isPrefixOf text.toList then
    (before? "\n---".toList (text.toList.drop opening.length)).map String.ofList
  else none

/-- The id that a front matter gives, if it is a mapping that has one. -/
def idIn (front : Value) : Except DocumentFault (Option Text) :=
  let id := Value.lookup "id" (front.entries?.getD [])
  if id.isTruthy then (id.text.mapError .noText).map some else .ok none

/-- The id in the front matter of a document.  A front matter that is no YAML document has none. -/
def frontMatterId (text : String) : Except DocumentFault (Option Text) :=
  match frontMatter? text with
  | none => .ok none
  | some front => match Yaml.load front with
    | .ok v => idIn v
    | .error .malformed => .ok none
    | .error fault => .error (.load fault)

/-- The id in the front matter of a file. -/
def fileId : Except TextFault String → Except DocumentFault (Option Text)
  | .error fault => .error (.unreadable fault)
  | .ok text => frontMatterId text

/-! ## 2. Ids -/

/-- Whether a file with the name is a document. -/
def isDocument (name : Text) : Bool := documentSuffixes.contains (suffixOf name)

/-- The id of a document, from the names that lead to it and the id in its front matter. -/
def documentId (idPrefix : Text) (names : List Text) (own : Option Text) : Text :=
  let stem := stemOf (names.getLast?.getD [])
  let own := match own with
    | some id => if id.isEmpty then stem else id
    | none => stem
  let parts := Text.stripSlashes idPrefix :: names.dropLast ++ [own]
  Text.joinWith "/" (parts.filter (fun part => !part.isEmpty))

/-- Whether the first of two lists of names comes first: they are compared name by name. -/
def notAfter : List Text → List Text → Bool
  | [], _ => true
  | _ :: _, [] => false
  | a :: as, b :: bs => if a = b then notAfter as bs else Text.notAfter a b

/-- The documents among files, in ascending order. -/
def documents (files : List (List Text)) : List (List Text) :=
  (files.filter (fun names => isDocument (names.getLast?.getD []))).mergeSort notAfter

variable {m : Type → Type} [Monad m] [FileAccess m]

/-- The ids of several documents below a directory. -/
def idsOf (directory : Location) (idPrefix : Text) :
    List (List Text) → ExceptT DocumentFault m (List Text)
  | [] => return []
  | names :: rest => do
    let l : Location := { directory with parts := directory.parts ++ names }
    let text ← (FileAccess.readText l : m (Except TextFault String))
    let own ← ExceptT.mk (pure (fileId text))
    return documentId idPrefix names own :: (← idsOf directory idPrefix rest)

/-- The ids of the documents below a directory, in the order of the files. -/
def documentIds (directory : Location) (idPrefix : Text) :
    ExceptT DocumentFault m (List Text) := do
  if ← (FileAccess.isDirectory directory : ExceptT FileFault m Bool).adapt .directory then
    let files ← (FileAccess.filesBelow directory : m (List (List Text)))
    idsOf directory idPrefix (documents files)
  else return []

end ApiDocs.Output
