import ApiDocs.FileSystem.Basic

/-!
# Running programs on file systems

A program that works with files is written for any monad with `FileAccess`.  On a file system that
is a value it has a result and leaves a file system (`FileSystem.run`), also where it fails: what it
has done up to then stays.

Here are the equations by which a run is followed step by step: for one program after another
(`run_bind`) and for each single operation.
-/

namespace ApiDocs.FileSystem

variable {ε α β : Type}

/-! ## 1. Runs -/

/-- The result of a program on a file system, and the file system that it leaves. -/
def run (fs : FileSystem) (p : ExceptT ε (StateM FileSystem) α) : Except ε α × FileSystem :=
  Id.run (StateT.run (ExceptT.run p) fs)

/-- The result of a program without faults, and the file system that it leaves. -/
def runPlain (fs : FileSystem) (p : StateM FileSystem α) : α × FileSystem := Id.run (StateT.run p fs)

variable (fs : FileSystem)

@[simp] theorem run_pure (a : α) :
    fs.run (pure a : ExceptT ε (StateM FileSystem) α) = (.ok a, fs) := rfl

@[simp] theorem run_throw (fault : ε) :
    fs.run (throw fault : ExceptT ε (StateM FileSystem) α) = (.error fault, fs) := rfl

@[simp] theorem run_mk (p : StateM FileSystem (Except ε α)) :
    fs.run (ExceptT.mk p) = fs.runPlain p := rfl

@[simp] theorem run_lift (p : StateM FileSystem α) :
    fs.run (monadLift p : ExceptT ε (StateM FileSystem) α)
      = (.ok (fs.runPlain p).1, (fs.runPlain p).2) := rfl

/-- A program that goes on from another one does so only if the first succeeds. -/
theorem run_bind (p : ExceptT ε (StateM FileSystem) α) (k : α → ExceptT ε (StateM FileSystem) β) :
    fs.run (p >>= k) = match fs.run p with
      | (.ok a, fs') => fs'.run (k a)
      | (.error fault, fs') => (.error fault, fs') := by
  show Id.run (StateT.run (ExceptT.run p >>= ExceptT.bindCont k) fs) = _
  unfold run
  rw [StateT.run_bind]
  show (match StateT.run (ExceptT.run p) fs with
    | (r, fs') => StateT.run (ExceptT.bindCont k r) fs') = _
  rcases StateT.run (ExceptT.run p) fs with ⟨_ | a, fs'⟩ <;> rfl

theorem run_adapt {ε' : Type} (f : ε → ε') (p : ExceptT ε (StateM FileSystem) α) :
    fs.run (p.adapt f) = ((fs.run p).1.mapError f, (fs.run p).2) := rfl

theorem run_bind_ok {p : ExceptT ε (StateM FileSystem) α}
    {k : α → ExceptT ε (StateM FileSystem) β} {fs fs' : FileSystem} {a : α}
    (h : fs.run p = (.ok a, fs')) : fs.run (p >>= k) = fs'.run (k a) := by
  rw [run_bind, h]

/-- What a successful run of two programs consists of. -/
theorem of_run_bind {p : ExceptT ε (StateM FileSystem) α}
    {k : α → ExceptT ε (StateM FileSystem) β} {fs fs' : FileSystem} {b : β}
    (h : fs.run (p >>= k) = (.ok b, fs')) :
    ∃ a mid, fs.run p = (.ok a, mid) ∧ mid.run (k a) = (.ok b, fs') := by
  rw [run_bind] at h
  rcases hp : fs.run p with ⟨_ | a, mid⟩
  · rw [hp] at h
    cases h
  · rw [hp] at h
    exact ⟨a, mid, rfl, h⟩

@[simp] theorem runPlain_pure (a : α) : fs.runPlain (pure a) = (a, fs) := rfl

theorem runPlain_bind (p : StateM FileSystem α) (k : α → StateM FileSystem β) :
    fs.runPlain (p >>= k) = (fs.runPlain p).2.runPlain (k (fs.runPlain p).1) := rfl

/-! ## 2. Operations that look -/

@[simp] theorem runPlain_kind? (l : Location) :
    fs.runPlain (FileAccess.kind? l) = (fs.kindAt l, fs) := rfl

@[simp] theorem runPlain_read (l : Location) :
    fs.runPlain (FileAccess.read l) = (fs.contentAt l, fs) := rfl

@[simp] theorem runPlain_names (l : Location) :
    fs.runPlain (FileAccess.names l) = (fs.namesAt l, fs) := rfl

@[simp] theorem runPlain_filesBelow (l : Location) :
    fs.runPlain (FileAccess.filesBelow l) = (fs.filesBelowAt l, fs) := rfl

theorem run_isFile (l : Location) :
    fs.run (FileAccess.isFile l) = ((fs.kindAt l).map (· == some .file), fs) := by
  unfold FileAccess.isFile
  rw [run_bind, run_mk, runPlain_kind?]
  cases fs.kindAt l <;> rfl

theorem run_isDirectory (l : Location) :
    fs.run (FileAccess.isDirectory l) = ((fs.kindAt l).map (· == some .directory), fs) := by
  unfold FileAccess.isDirectory
  rw [run_bind, run_mk, runPlain_kind?]
  cases fs.kindAt l <;> rfl

@[simp] theorem runPlain_readText (l : Location) :
    fs.runPlain (FileAccess.readText l) = (FileAccess.textOf (fs.contentAt l), fs) := rfl

/-- Counting what is missing changes nothing. -/
theorem runPlain_missing (root : String) : ∀ parts : List Text,
    (fs.runPlain (FileAccess.missing root parts)).2 = fs
  | [] => rfl
  | part :: parts => by
    unfold FileAccess.missing
    rw [runPlain_bind, runPlain_kind?]
    rcases fs.kindAt ⟨root, (part :: parts).reverse⟩ with _ | _ | _
    · exact runPlain_missing root parts
    · exact runPlain_missing root parts
    · rfl

/-- Nothing is missing on the way to what is there. -/
theorem runPlain_missing_of_kindAt {root : String} {part : Text} {parts : List Text}
    {kind : FileKind} (h : fs.kindAt ⟨root, (part :: parts).reverse⟩ = .ok (some kind)) :
    fs.runPlain (FileAccess.missing root (part :: parts)) = (0, fs) := by
  unfold FileAccess.missing
  rw [runPlain_bind, runPlain_kind?]
  dsimp only
  rw [h]
  rfl

/-! ## 3. Operations that change something -/

/-- The outcome of an operation: it leaves a new file system, or a fault and the old one. -/
def settled : Except FileFault FileSystem → Except FileFault Unit × FileSystem
  | .ok new => (.ok (), new)
  | .error fault => (.error fault, fs)

@[simp] theorem settled_ok (new : FileSystem) : fs.settled (.ok new) = (.ok (), new) := rfl

@[simp] theorem settled_error (fault : FileFault) :
    fs.settled (.error fault) = (.error fault, fs) := rfl

theorem runPlain_update (f : FileSystem → Except FileFault FileSystem) :
    fs.runPlain (update f) = fs.settled (f fs) := by
  unfold runPlain update settled
  show (match f fs with
    | .ok new => (Except.ok (), new)
    | .error fault => (Except.error fault, fs)) = _
  cases f fs <;> rfl

@[simp] theorem runPlain_write (l : Location) (content : ByteArray) :
    fs.runPlain (FileAccess.write l content) = fs.settled (fs.withFile l content) :=
  fs.runPlain_update _

@[simp] theorem runPlain_remove (l : Location) :
    fs.runPlain (FileAccess.remove l) = fs.settled (fs.withoutFile l) :=
  fs.runPlain_update _

@[simp] theorem runPlain_makeDirectory (l : Location) :
    fs.runPlain (FileAccess.makeDirectory l) = fs.settled (fs.withDirectory l) :=
  fs.runPlain_update _

/-- An operation that changes something has succeeded. -/
theorem of_settled_ok {fs fs' : FileSystem} {r : Except FileFault FileSystem}
    (h : fs.settled r = (.ok (), fs')) : r = .ok fs' := by
  cases r with
  | error fault => cases h
  | ok new =>
    cases h
    rfl

end ApiDocs.FileSystem
