import ApiDocs.Text.Blank

/-!
# Locations

A location is a path in a file system, absolute or relative to the working directory.  Its parts
are neither empty nor a single point, so a location has one text (`ofText`, `text`).  Two points
are a part like any other: where they lead depends on the file system.

A file system knows names as bytes.  Characters are stored in UTF-8, and each of the halves U+DC80
to U+DCFF stands for a byte on its own that is not part of such a text (`CodePoint.isStorable`).
-/

namespace ApiDocs

/-- A path; `root` is empty, one slash or two. -/
structure Location where
  root : String := ""
  parts : List Text := []
  deriving Repr, DecidableEq, Inhabited

namespace Location

/-- The root that a path starts with.  Exactly two slashes are a root of their own. -/
def rootOf (t : Text) : String :=
  match t with
  | .char '/' :: .char '/' :: .char '/' :: _ => "/"
  | .char '/' :: .char '/' :: _ => "//"
  | .char '/' :: _ => "/"
  | _ => ""

/-- The parts of a path. -/
def partsOf (t : Text) : List Text :=
  (Text.pieces (CodePoint.isIn (· == '/')) t).filter (fun part => part != Text.ofString ".")

/-- The location that a text names. -/
def ofText (t : Text) : Location := ⟨rootOf t, partsOf t⟩

/-- The text of a location; a point for the working directory. -/
def text (l : Location) : Text :=
  if l.root = "" ∧ l.parts = [] then "." else l.root ++ Text.joinWith "/" l.parts

/-- A location seen from a directory; an absolute one stays as it is. -/
def join (directory l : Location) : Location :=
  if l.root = "" then ⟨directory.root, directory.parts ++ l.parts⟩ else l

/-- The location of a name in a directory. -/
def child (directory : Location) (name : Text) : Location :=
  { directory with parts := directory.parts ++ [name] }

/-- The directory of a location. -/
def parent (l : Location) : Location := { l with parts := l.parts.dropLast }

theorem join_of_absolute {directory l : Location} (h : l.root ≠ "") : join directory l = l := by
  simp [join, h]

@[simp] theorem parent_child (directory : Location) (name : Text) :
    (directory.child name).parent = directory := by
  simp [parent, child]

end Location

/-! ## Names of files -/

/-- Whether the code point can stand in the name of a file. -/
def CodePoint.isStorable : CodePoint → Bool
  | .char _ => true
  | .half n => 0x480 ≤ n.val && n.val < 0x500

/-- The number of bytes of a code point in the name of a file. -/
def CodePoint.byteSize : CodePoint → Nat
  | .char c => c.utf8Size
  | .half _ => 1

/-- The number of bytes of a name. -/
def nameSize (name : Text) : Nat := name.foldl (fun size p => size + p.byteSize) 0

/-- The part of a name before its last point and the rest from that point on.  A name has no suffix
if its only point stands at one of its ends. -/
def splitSuffix (name : Text) : Text × Text :=
  let after := (name.reverse.takeWhile (fun p => p != .char '.')).reverse
  let stem := (name.take (name.length - after.length)).dropLast
  if after.length = name.length ∨ after.isEmpty ∨ stem.isEmpty then (name, [])
  else (stem, .char '.' :: after)

/-- The suffix of a name, with its point. -/
def suffixOf (name : Text) : Text := (splitSuffix name).2

/-- The name without its suffix. -/
def stemOf (name : Text) : Text := (splitSuffix name).1

end ApiDocs
