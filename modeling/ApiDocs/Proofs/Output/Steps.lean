import ApiDocs.Output.Emit
import ApiDocs.Proofs.FileSystem.Lookup
import ApiDocs.Proofs.FileSystem.Program
import Mathlib.Logic.Relation

/-!
# The steps that a build takes

Building into a directory and cleaning it are programs that may fail anywhere on their way.  Whatever
happens, all that they ever do to the file system are steps of three kinds: they write a file
directly in the directory, remove one, or make a directory on the way to it (`Step`).  The names of
these files are those of generated files.

* `within_clean`, `within_emit`: cleaning and building take no other steps, also where they fail;
* `within_makeDirectories`: making the directory touches no file at all.

So what every single step preserves holds in every state of a build, and in whatever state it is
left.
-/

namespace ApiDocs.Output

open FileSystem

/-! ## 1. Steps -/

/-- A single operation on a file system: on a file directly in a directory that has a name of a
certain kind, or on a directory on the way to it. -/
inductive Step (P : Text → Prop) (directory : Location) (fs fs' : FileSystem) : Prop where
  | write {name : Text} {content : ByteArray} (hname : P name) (hup : name ≠ up)
      (h : fs.withFile (directory.child name) content = .ok fs')
  | remove {name : Text} (hname : P name) (hup : name ≠ up)
      (h : fs.withoutFile (directory.child name) = .ok fs')
  | make {front rest : List Text} (hparts : directory.parts = front ++ rest)
      (h : fs.withDirectory ⟨directory.root, front⟩ = .ok fs')

/-- Several operations, one after another. -/
abbrev Steps (P : Text → Prop) (directory : Location) : FileSystem → FileSystem → Prop :=
  Relation.ReflTransGen (Step P directory)

variable {P : Text → Prop} {directory : Location} {fs mid fs' : FileSystem}

theorem steps_settled {r : Except FileFault FileSystem}
    (h : ∀ new, r = .ok new → Step P directory fs new) :
    Steps P directory fs (fs.settled r).2 := by
  cases r with
  | error fault => exact .refl
  | ok new => exact .single (h new rfl)

/-! ## 2. Programs -/

section Programs

variable {ε α β : Type}

/-- A program takes no other steps, whether it succeeds or fails. -/
def Within (P : Text → Prop) (directory : Location) (p : ExceptT ε (StateM FileSystem) α) : Prop :=
  ∀ fs : FileSystem, Steps P directory fs (fs.run p).2

theorem Within.of_same {p : ExceptT ε (StateM FileSystem) α}
    (h : ∀ fs : FileSystem, (fs.run p).2 = fs) : Within P directory p := by
  intro fs
  rw [h]

theorem Within.pure (a : α) : Within P directory (pure a : ExceptT ε (StateM FileSystem) α) :=
  Within.of_same fun _ => rfl

theorem Within.throw (fault : ε) :
    Within P directory (throw fault : ExceptT ε (StateM FileSystem) α) :=
  Within.of_same fun _ => rfl

theorem Within.bind {p : ExceptT ε (StateM FileSystem) α}
    {k : α → ExceptT ε (StateM FileSystem) β} (hp : Within P directory p)
    (hk : ∀ a, Within P directory (k a)) : Within P directory (p >>= k) := by
  intro fs
  have hfirst := hp fs
  rw [run_bind]
  generalize fs.run p = outcome at hfirst
  rcases outcome with ⟨_ | a, mid⟩
  · exact hfirst
  · exact hfirst.trans (hk a mid)

theorem Within.ite {c : Prop} [Decidable c] {p q : ExceptT ε (StateM FileSystem) α}
    (hp : Within P directory p) (hq : Within P directory q) :
    Within P directory (if c then p else q) := by
  split
  · exact hp
  · exact hq

end Programs

theorem within_kind? (l : Location) :
    Within P directory (ExceptT.mk (FileAccess.kind? (m := StateM FileSystem) l)) :=
  Within.of_same fun _ => rfl

theorem within_isFile (l : Location) :
    Within P directory (FileAccess.isFile (m := StateM FileSystem) l) :=
  Within.of_same fun fs => by rw [run_isFile]

theorem within_isDirectory (l : Location) :
    Within P directory (FileAccess.isDirectory (m := StateM FileSystem) l) :=
  Within.of_same fun fs => by rw [run_isDirectory]

theorem within_writeText {name : Text} (hname : P name) (hup : name ≠ up) (t : Text) :
    Within P directory (FileAccess.writeText (m := StateM FileSystem) (directory.child name) t) := by
  have hwrite : ∀ content : ByteArray, Within P directory
      (ExceptT.mk (FileAccess.write (m := StateM FileSystem) (directory.child name) content)) := by
    intro content fs
    rw [run_mk, runPlain_write]
    exact steps_settled fun new hnew => .write hname hup hnew
  unfold FileAccess.writeText
  cases Text.encode? t with
  | some bytes => exact hwrite bytes
  | none => exact (hwrite _).bind fun _ => Within.throw _

/-! ## 3. Cleaning -/

/-- Generated files have no name that leads up. -/
theorem ne_up_of_isGenerated {name : Text} (h : isGenerated name = true) : name ≠ up := by
  rintro rfl
  exact absurd h (by decide)

theorem within_removeFiles : ∀ {names : List Text}, (∀ name ∈ names, P name ∧ name ≠ up) →
    Within P directory (removeFiles (m := StateM FileSystem) directory names)
  | [], _ => Within.pure _
  | name :: names, h => by
    have hrest := within_removeFiles fun other hother => h other (List.mem_cons_of_mem name hother)
    obtain ⟨hname, hup⟩ := h name List.mem_cons_self
    have hremove : Within P directory
        (ExceptT.mk (FileAccess.remove (m := StateM FileSystem) (directory.child name))) := by
      intro fs
      rw [run_mk, runPlain_remove]
      exact steps_settled fun new hnew => .remove hname hup hnew
    unfold removeFiles
    exact (within_isFile _).bind fun _ =>
      (hremove.bind fun _ => hrest.bind fun _ => Within.pure _).ite hrest

/-- **Cleaning a directory** touches generated files only. -/
theorem within_clean (directory : Location) :
    Within (fun name => isGenerated name = true) directory
      (clean (m := StateM FileSystem) directory) := by
  unfold clean
  refine (within_isDirectory _).bind fun _ => Within.ite ?_ (Within.pure _)
  refine Within.bind (Within.of_same fun _ => rfl) fun names => ?_
  refine within_removeFiles fun name hname => ?_
  have hgen := (mem_generated.mp hname).2
  exact ⟨hgen, ne_up_of_isGenerated hgen⟩

/-! ## 4. Building -/

theorem within_makeDirectoriesFrom : ∀ {parts front : List Text},
    directory.parts = front ++ parts →
      Within P directory
        (FileAccess.makeDirectoriesFrom (m := StateM FileSystem) ⟨directory.root, front⟩ parts)
  | [], _, _ => Within.pure _
  | part :: parts, front, h => by
    have hparts : directory.parts = (front ++ [part]) ++ parts := by
      rw [h, List.append_assoc]
      rfl
    have hrest := within_makeDirectoriesFrom hparts
    have hmake : Within P directory (ExceptT.mk (FileAccess.makeDirectory (m := StateM FileSystem)
        ⟨directory.root, front ++ [part]⟩)) := by
      intro fs
      rw [run_mk, runPlain_makeDirectory]
      exact steps_settled fun new hnew => .make hparts hnew
    unfold FileAccess.makeDirectoriesFrom
    refine (within_kind? _).bind fun kind => ?_
    rcases kind with _ | _ | _
    · exact hmake.bind fun _ => hrest
    · exact Within.throw _
    · exact hrest

/-- **Making a directory** touches no files. -/
theorem within_makeDirectories (P : Text → Prop) (directory : Location) :
    Within P directory (FileAccess.makeDirectories (m := StateM FileSystem) directory) := by
  unfold FileAccess.makeDirectories
  cases nameFault? directory with
  | some fault => exact Within.throw _
  | none =>
    refine Within.bind (Within.bind (within_kind? _) fun _ => Within.pure _) fun _ => ?_
    refine Within.bind (Within.of_same fun fs => runPlain_missing fs _ _) fun _ => ?_
    have hmake := @within_makeDirectoriesFrom P directory _ [] (List.nil_append _).symm
    exact Within.ite ((Within.throw _).bind fun _ => hmake) hmake

theorem within_writeFiles : ∀ {fs : List (Text × Text)},
    (∀ f ∈ fs, P f.1 ∧ f.1 ≠ up) →
      Within P directory (writeFiles (m := StateM FileSystem) directory fs)
  | [], _ => Within.pure _
  | (name, content) :: fs, h => by
    have hrest := within_writeFiles fun f hf => h f (List.mem_cons_of_mem _ hf)
    unfold writeFiles
    obtain ⟨hname, hup⟩ := h _ List.mem_cons_self
    exact (within_writeText hname hup content).bind fun _ =>
      hrest.bind fun _ => Within.pure _

/-- **Building into a directory** touches generated files only, if those that it writes are named
like them. -/
theorem within_emit {link : LinkSource} {n : Navigation} {pages : List (Text × Page)}
    (h : ∀ f ∈ files link n pages, isGenerated f.1 = true) (directory : Location) :
    Within (fun name => isGenerated name = true) directory
      (emit (m := StateM FileSystem) link n pages directory) := by
  unfold emit
  have hnames : ∀ f ∈ files link n pages,
      isGenerated f.1 = true ∧ f.1 ≠ up :=
    fun f hf => ⟨h f hf, ne_up_of_isGenerated (h f hf)⟩
  exact (within_makeDirectories _ directory).bind fun _ => (within_clean directory).bind fun _ =>
    (within_writeFiles hnames).bind fun _ => Within.pure _

end ApiDocs.Output
