import ApiDocs.FileSystem.Access

/-!
# File systems as values

`FileSystem` is a tree of files and directories: each stands under the list of names that leads to
it from the root.  Relative locations are seen from the working directory, which has its place in the
tree, and absolute ones from the root, so everything in the tree can be found and changed.

**There are only files and directories.**  Links are left out, so different lists of names never
lead to the same file, and so are permissions.

The view of a file system is `get?`: what stands under a list of names.  Writing and removing change
it at one place only (`get?_insert_ne`, `get?_erase_ne`).
-/

namespace ApiDocs

/-- A file with its content, or a directory. -/
inductive FileSystem.Entry where
  | file (content : ByteArray)
  | directory
  deriving Inhabited

/-- The kind of an entry. -/
def FileSystem.Entry.kind : Entry → FileKind
  | .file _ => .file
  | .directory => .directory

/-- What there is below the root, and where one stands in it. -/
structure FileSystem where
  entries : List (List Text × FileSystem.Entry) := []
  /-- The names that lead from the root to the working directory. -/
  working : List Text := []
  deriving Inhabited

namespace FileSystem

/-! ## 1. The view -/

/-- What stands under a list of names.  The working directory and those above it are always
there. -/
def get? (fs : FileSystem) (names : List Text) : Option Entry :=
  if names.isPrefixOf fs.working then some .directory else fs.entries.lookup names

/-- The entries without those under a list of names. -/
def others (names : List Text) (es : List (List Text × Entry)) : List (List Text × Entry) :=
  es.filter (fun p => p.1 != names)

/-- The file system with an entry under a list of names. -/
def insert (names : List Text) (e : Entry) (fs : FileSystem) : FileSystem :=
  { fs with entries := (names, e) :: others names fs.entries }

/-- The file system without the entry under a list of names. -/
def erase (names : List Text) (fs : FileSystem) : FileSystem :=
  { fs with entries := others names fs.entries }

/-- The lists of names under which something stands, each once. -/
def paths (fs : FileSystem) : List (List Text) :=
  let toWorking := (List.range (fs.working.length + 1)).map (fun n => fs.working.take n)
  (toWorking ++ fs.entries.map (·.1)).eraseDups

theorem get?_of_front {names : List Text} {fs : FileSystem} (h : names <+: fs.working) :
    fs.get? names = some .directory :=
  if_pos (List.isPrefixOf_iff_prefix.mpr h)

theorem get?_of_not_front {names : List Text} {fs : FileSystem} (h : ¬ names <+: fs.working) :
    fs.get? names = fs.entries.lookup names :=
  if_neg fun hprefix => h (List.isPrefixOf_iff_prefix.mp hprefix)

theorem lookup_others_ne {names other : List Text} (h : other ≠ names)
    (es : List (List Text × Entry)) : (others names es).lookup other = es.lookup other := by
  unfold others
  induction es with
  | nil => rfl
  | cons p es ih =>
    obtain ⟨k, e⟩ := p
    by_cases hk : k = names
    · subst hk
      simp [List.lookup_cons, beq_false_of_ne h, ih]
    · simp [hk, List.lookup_cons, ih]

theorem lookup_others_self (names : List Text) (es : List (List Text × Entry)) :
    (others names es).lookup names = none := by
  unfold others
  induction es with
  | nil => rfl
  | cons p es ih =>
    obtain ⟨k, e⟩ := p
    by_cases hk : k = names
    · simp [hk, ih]
    · simp [hk, List.lookup_cons, beq_false_of_ne (Ne.symm hk), ih]

theorem get?_insert_self {names : List Text} {fs : FileSystem} (h : ¬ names <+: fs.working)
    (e : Entry) : (fs.insert names e).get? names = some e := by
  rw [@get?_of_not_front names (fs.insert names e) h]
  simp [insert]

theorem get?_insert_ne {names other : List Text} (h : other ≠ names) (e : Entry)
    (fs : FileSystem) : (fs.insert names e).get? other = fs.get? other := by
  simp [get?, insert, List.lookup_cons, beq_false_of_ne h, lookup_others_ne h]

theorem get?_erase_self {names : List Text} {fs : FileSystem} (h : ¬ names <+: fs.working) :
    (fs.erase names).get? names = none := by
  rw [@get?_of_not_front names (fs.erase names) h]
  exact lookup_others_self names fs.entries

theorem get?_erase_ne {names other : List Text} (h : other ≠ names) (fs : FileSystem) :
    (fs.erase names).get? other = fs.get? other := by
  simp [get?, erase, lookup_others_ne h]

/-! ## 2. Finding the way -/

/-- The number of bytes that a name may have. -/
def maxNameSize : Nat := 255

/-- The number of bytes that a path may have. -/
def maxPathSize : Nat := 4095

/-- Two points: the directory above. -/
def up : Text := ".."

/-- Where a path leads from a place, which is given by the names that lead to it from the root.  All
parts but the last have to be directories.  Two points lead to the directory above, and from the
root to the root. -/
def walk (fs : FileSystem) : List Text → List Text → Except FileFault (List Text)
  | place, [] => .ok place
  | place, part :: parts =>
    if part = up then walk fs place.dropLast parts
    else if maxNameSize < nameSize part then .error .refused
    else if parts = [] then .ok (place ++ [part])
    else match fs.get? (place ++ [part]) with
      | some .directory => walk fs (place ++ [part]) parts
      | some (.file _) => .error .notDirectory
      | none => .error .notFound

/-- The place that paths with a root start from. -/
def startOf (fs : FileSystem) (root : String) : List Text := if root = "" then fs.working else []

/-- Where a location leads. -/
def resolve (fs : FileSystem) (l : Location) : Except FileFault (List Text) :=
  match nameFault? l with
  | some fault => .error fault
  | none =>
    if maxPathSize < nameSize l.text then .error .refused
    else fs.walk (fs.startOf l.root) l.parts

/-- What stands at a location. -/
def entryAt (fs : FileSystem) (l : Location) : Except FileFault Entry := do
  match fs.get? (← fs.resolve l) with
  | some e => return e
  | none => throw .notFound

/-! ## 3. Operations -/

/-- The kind of what stands at a location.  Only a name that the system does not take is a fault. -/
def kindAt (fs : FileSystem) (l : Location) : Except FileFault (Option FileKind) :=
  match fs.entryAt l with
  | .ok e => .ok (some e.kind)
  | .error .refused => .error .refused
  | .error _ => .ok none

/-- The content of the file at a location. -/
def contentAt (fs : FileSystem) (l : Location) : Except FileFault ByteArray := do
  match ← fs.entryAt l with
  | .file content => return content
  | .directory => throw .isDirectory

/-- The names under which a location that is no directory stands. -/
def namesForFile (fs : FileSystem) (l : Location) : Except FileFault (List Text) := do
  let names ← fs.resolve l
  match fs.get? names with
  | some .directory => throw .isDirectory
  | _ => return names

/-- The file system with a file at a location. -/
def withFile (fs : FileSystem) (l : Location) (content : ByteArray) :
    Except FileFault FileSystem := do
  return fs.insert (← fs.namesForFile l) (.file content)

/-- The file system without the file at a location. -/
def withoutFile (fs : FileSystem) (l : Location) : Except FileFault FileSystem := do
  let names ← fs.namesForFile l
  match fs.get? names with
  | some _ => return fs.erase names
  | none => throw .notFound

/-- The file system with a directory at a location. -/
def withDirectory (fs : FileSystem) (l : Location) : Except FileFault FileSystem := do
  let names ← fs.resolve l
  match fs.get? names with
  | some _ => throw .alreadyExists
  | none => return fs.insert names .directory

/-- The names in the directory at a location. -/
def namesAt (fs : FileSystem) (l : Location) : List Text :=
  match fs.resolve l with
  | .ok directory => fs.paths.filterMap fun names =>
    if names.dropLast = directory then names.getLast? else none
  | .error _ => []

/-- Everything below a directory, under the names that lead there from the directory. -/
def below (fs : FileSystem) (directory : List Text) : List (List Text × Entry) :=
  fs.paths.filterMap fun names =>
    if directory.isPrefixOf names && directory.length < names.length then
      (fs.get? names).map fun e => (names.drop directory.length, e)
    else none

/-- The files below the directory at a location. -/
def filesBelowAt (fs : FileSystem) (l : Location) : List (List Text) :=
  match fs.resolve l with
  | .ok directory => (fs.below directory).filterMap fun p => match p.2 with
    | .file _ => some p.1
    | .directory => none
  | .error _ => []

/-- What an operation that replaces the file system makes of it; one that fails leaves it as it
is. -/
def update (f : FileSystem → Except FileFault FileSystem) :
    StateM FileSystem (Except FileFault Unit) := fun fs =>
  match f fs with
  | .ok new => (.ok (), new)
  | .error fault => (.error fault, fs)

instance : FileAccess (StateM FileSystem) where
  kind? l := return (← get).kindAt l
  read l := return (← get).contentAt l
  write l content := update (fun fs => fs.withFile l content)
  remove l := update (fun fs => fs.withoutFile l)
  makeDirectory l := update (fun fs => fs.withDirectory l)
  names l := return (← get).namesAt l
  filesBelow l := return (← get).filesBelowAt l

end FileSystem

end ApiDocs
