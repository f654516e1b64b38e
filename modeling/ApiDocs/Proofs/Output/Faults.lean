import ApiDocs.Proofs.Json.Layout
import ApiDocs.Proofs.Output.PageFiles

/-!
# How writing a build fails

A build that has been compiled and rendered can still fail while it is written.  Most of its faults
are faults of the system (`FileFault.isSystemFault`): something is in the way, or the system does
not take a name.  There are two more kinds, and they could not be more different.

* A path that cannot name a directory, or that misses too many directories, is refused before
  anything is done.
* A text with a half of a surrogate pair has no form in bytes.  It is met only when its file has
  been opened, so the files of the last build are gone by then.

`emit_fault` says that there are no others.  What a program can raise is put together from what its
parts can raise (`Raises`), since a program goes on from a part only if that has not failed.
-/

namespace ApiDocs

/-! ## 1. Names that can be used -/

/-- A fault of the system, which depends on what is stored and on what the system takes. -/
def FileFault.isSystemFault : FileFault → Bool
  | .zeroInName => false
  | .unencodable => false
  | .tooDeep => false
  | _ => true

/-- A code point that can stand in a path. -/
def CodePoint.IsUsable (p : CodePoint) : Prop := p.isStorable = true ∧ p ≠ .char '\x00'

instance (p : CodePoint) : Decidable p.IsUsable := inferInstanceAs (Decidable (_ ∧ _))

theorem nameFault?_eq_none {l : Location} : nameFault? l = none ↔ ∀ p ∈ l.text, p.IsUsable := by
  unfold nameFault?
  dsimp only
  constructor
  · intro h p hp
    split at h
    · cases h
    next hstorable =>
      split at h
      · cases h
      next hzero =>
        refine ⟨List.all_eq_true.mp (by simpa using hstorable) p hp, ?_⟩
        rintro rfl
        exact hzero (List.contains_iff_mem.mpr hp)
  · intro h
    rw [if_neg, if_neg]
    · exact fun hzero => (h _ (List.contains_iff_mem.mp hzero)).2 rfl
    · simpa using fun p hp => (h p hp).1

/-- A path can be used if its root and all its parts can. -/
theorem nameFault?_eq_none_iff {l : Location} : nameFault? l = none ↔
    (∀ p ∈ Text.ofString l.root, p.IsUsable) ∧ ∀ part ∈ l.parts, ∀ p ∈ part, p.IsUsable := by
  rw [nameFault?_eq_none]
  unfold Location.text
  constructor
  · intro h
    constructor
    · intro p hp
      split at h
      · next hempty =>
        rw [hempty.1] at hp
        cases hp
      · exact h p (List.mem_append_left _ hp)
    · intro part hpart p hp
      rw [if_neg fun hempty => List.ne_nil_of_mem hpart hempty.2] at h
      exact h p (List.mem_append_right _ ((Json.infix_joinWith hpart).subset hp))
  · rintro ⟨hroot, hparts⟩ p hp
    split at hp
    · obtain rfl := List.mem_singleton.mp hp
      exact ⟨rfl, by decide⟩
    · rcases List.mem_append.mp hp with hp | hp
      · exact hroot p hp
      · rcases Text.mem_intercalate hp with hp | ⟨part, hpart, hp⟩
        · obtain rfl := List.mem_singleton.mp hp
          exact ⟨rfl, by decide⟩
        · exact hparts part hpart p hp

/-- A path can be used with one more name if the name can. -/
theorem nameFault?_child {directory : Location} {name : Text}
    (h : nameFault? directory = none) (hname : ∀ p ∈ name, p.IsUsable) :
    nameFault? (directory.child name) = none := by
  rw [nameFault?_eq_none_iff] at h ⊢
  exact ⟨h.1, List.forall_mem_append.mpr ⟨h.2, List.forall_mem_singleton.mpr hname⟩⟩

/-- The name of a page can be used. -/
theorem Page.isUsable_fileName {slug ending : Text} (hslug : Slug.IsKebab slug)
    (hending : ending ∈ endings) : ∀ p ∈ slug ++ ending, p.IsUsable := by
  have hall : ∀ ending ∈ endings, ∀ p ∈ ending, p.IsUsable := by decide
  intro p hp
  rcases List.mem_append.mp hp with hp | hp
  · obtain ⟨c, rfl, hc⟩ := Slug.eq_hyphen_or_isSlugChar hslug hp
    refine ⟨rfl, ?_⟩
    rintro ⟨⟩
    rcases hc with hbad | hbad
    · exact absurd hbad (by decide)
    · exact absurd hbad (by decide)
  · exact hall ending hending p hp

namespace FileSystem

variable {fs : FileSystem} {l : Location} {fault : FileFault}

/-! ## 2. Faults of operations -/

theorem walk_fault : ∀ {parts place : List Text},
    fs.walk place parts = .error fault → fault.isSystemFault = true
  | [], _, h => by cases h
  | part :: parts, place, h => by
    unfold walk at h
    split at h
    · exact walk_fault h
    split at h
    · cases h
      rfl
    split at h
    · cases h
    split at h
    · exact walk_fault h
    · cases h
      rfl
    · cases h
      rfl

/-- A path that can be used leads somewhere unless the system has a reason. -/
theorem resolve_fault (hname : nameFault? l = none) (h : fs.resolve l = .error fault) :
    fault.isSystemFault = true := by
  unfold resolve at h
  rw [hname] at h
  dsimp only at h
  split at h
  · cases h
    rfl
  · exact walk_fault h

theorem withDirectory_fault (hname : nameFault? l = none) (h : fs.withDirectory l = .error fault) :
    fault.isSystemFault = true := by
  rcases bind_eq_error.mp h with h | ⟨names, -, h⟩
  · exact resolve_fault hname h
  · split at h
    · cases h
      rfl
    · cases h

theorem withFile_fault {content : ByteArray} (hname : nameFault? l = none)
    (h : fs.withFile l content = .error fault) : fault.isSystemFault = true := by
  rcases bind_eq_error.mp h with h | ⟨names, -, h⟩
  · rcases bind_eq_error.mp h with h | ⟨place, -, h⟩
    · exact resolve_fault hname h
    · split at h
      · cases h
        rfl
      · cases h
  · cases h

theorem kindAt_fault (h : fs.kindAt l = .error fault) : fault.isSystemFault = true := by
  rw [(kindAt_eq_error.mp h).2]
  rfl

/-- A file that is there can be removed. -/
theorem exists_withoutFile (h : fs.kindAt l = .ok (some .file)) :
    ∃ fs', fs.withoutFile l = .ok fs' := by
  obtain ⟨content, hfile⟩ := kindAt_eq_file.mp h
  obtain ⟨hplace, hget⟩ := entryAt_eq_ok.mp hfile
  exact ⟨_, withoutFile_eq_ok.mpr ⟨_, content, hplace, hget, rfl⟩⟩

end FileSystem

namespace Output

open FileSystem

/-! ## 3. Faults of programs -/

section Programs

variable {ε α β : Type} {F : ε → Prop}

/-- Every fault of the program is one of a kind, whatever there is. -/
def Raises (F : ε → Prop) (p : ExceptT ε (StateM FileSystem) α) : Prop :=
  ∀ (fs : FileSystem) (fault : ε), (fs.run p).1 = .error fault → F fault

theorem Raises.pure (a : α) : Raises F (pure a : ExceptT ε (StateM FileSystem) α) := by
  rintro fs fault ⟨⟩

theorem Raises.throw {fault : ε} (h : F fault) :
    Raises F (throw fault : ExceptT ε (StateM FileSystem) α) := by
  rintro fs _ ⟨⟩
  exact h

theorem Raises.bind {p : ExceptT ε (StateM FileSystem) α}
    {k : α → ExceptT ε (StateM FileSystem) β} (hp : Raises F p) (hk : ∀ a, Raises F (k a)) :
    Raises F (p >>= k) := by
  intro fs fault h
  have hfirst := hp fs
  rw [run_bind] at h
  rcases hrun : fs.run p with ⟨found | a, mid⟩
  · rw [hrun] at h hfirst
    cases h
    exact hfirst _ rfl
  · rw [hrun] at h
    exact hk a mid fault h

theorem Raises.mono {G : ε → Prop} {p : ExceptT ε (StateM FileSystem) α} (hp : Raises F p)
    (h : ∀ fault, F fault → G fault) : Raises G p :=
  fun fs fault hfault => h fault (hp fs fault hfault)

end Programs

variable {directory l : Location} {fs fs' : FileSystem} {fault : FileFault}

theorem raises_kind? (l : Location) :
    Raises (fun fault => fault.isSystemFault = true)
      (ExceptT.mk (FileAccess.kind? (m := StateM FileSystem) l)) := by
  intro fs fault h
  exact kindAt_fault h

theorem settled_fault {r : Except FileFault FileSystem}
    (h : (fs.settled r).1 = .error fault) : r = .error fault := by
  cases r with
  | error found =>
    cases h
    rfl
  | ok new => cases h

theorem raises_makeDirectoriesFrom {root : String} : ∀ {parts front : List Text},
    nameFault? ⟨root, front⟩ = none → (∀ part ∈ parts, ∀ p ∈ part, p.IsUsable) →
      Raises (fun fault => fault.isSystemFault = true)
        (FileAccess.makeDirectoriesFrom (m := StateM FileSystem) ⟨root, front⟩ parts)
  | [], _, _, _ => Raises.pure _
  | part :: parts, front, hfront, hparts => by
    have hhere : nameFault? ((⟨root, front⟩ : Location).child part) = none :=
      nameFault?_child hfront (hparts part List.mem_cons_self)
    have hrest := raises_makeDirectoriesFrom hhere
      fun other hother => hparts other (List.mem_cons_of_mem part hother)
    have hmake : Raises (fun fault => fault.isSystemFault = true)
        (ExceptT.mk (FileAccess.makeDirectory (m := StateM FileSystem)
          ((⟨root, front⟩ : Location).child part))) := by
      intro fs fault h
      rw [run_mk, runPlain_makeDirectory] at h
      exact withDirectory_fault hhere (settled_fault h)
    unfold FileAccess.makeDirectoriesFrom
    refine (raises_kind? _).bind fun kind => ?_
    rcases kind with _ | _ | _
    · exact hmake.bind fun _ => hrest
    · refine Raises.throw ?_
      split <;> rfl
    · exact hrest

/-- **Making a directory** either does nothing or fails by a fault of the system. -/
theorem makeDirectories_fault
    (h : fs.run (FileAccess.makeDirectories directory) = (.error fault, fs')) :
    fs' = fs ∨ fault.isSystemFault = true := by
  unfold FileAccess.makeDirectories at h
  cases hname : nameFault? directory with
  | some found =>
    rw [hname] at h
    exact Or.inl (Prod.mk.inj h).2.symm
  | none =>
    rw [hname] at h
    obtain ⟨hroot, hparts⟩ := nameFault?_eq_none_iff.mp hname
    have hempty : nameFault? ⟨directory.root, []⟩ = none :=
      nameFault?_eq_none_iff.mpr ⟨hroot, fun _ hpart => by cases hpart⟩
    have hlook : fs.run (discard (ExceptT.mk (FileAccess.kind? directory)))
        = ((fs.kindAt directory).map fun _ => (), fs) := by
      show fs.run (ExceptT.mk (FileAccess.kind? directory) >>= fun _ => pure ()) = _
      rw [run_bind, run_mk, runPlain_kind?]
      cases fs.kindAt directory <;> rfl
    dsimp only at h
    rw [run_bind, hlook] at h
    cases hkind : fs.kindAt directory with
    | error found =>
      rw [hkind] at h
      cases h
      exact Or.inr (kindAt_fault hkind)
    | ok kind =>
      rw [hkind] at h
      dsimp only [Except.map] at h
      rw [run_bind, run_lift, runPlain_missing] at h
      dsimp only at h
      split at h
      · exact Or.inl (Prod.mk.inj h).2.symm
      · exact Or.inr (raises_makeDirectoriesFrom hempty hparts fs fault (congrArg Prod.fst h))

/-- Removing files fails by a fault of the system only. -/
theorem raises_removeFiles (directory : Location) : ∀ names : List Text,
    Raises (fun fault => fault.isSystemFault = true)
      (removeFiles (m := StateM FileSystem) directory names)
  | [] => Raises.pure _
  | name :: names => by
    have hrest := raises_removeFiles directory names
    intro fs fault h
    unfold removeFiles at h
    rw [run_bind, run_isFile] at h
    rcases hkind : fs.kindAt (directory.child name) with found | kind
    · rw [hkind] at h
      cases h
      exact kindAt_fault hkind
    · rw [hkind] at h
      dsimp only [Except.map] at h
      by_cases hfile : kind = some .file
      · obtain ⟨mid, hmid⟩ := exists_withoutFile (hfile ▸ hkind)
        rw [if_pos (by rw [hfile]; rfl), run_bind, run_mk, runPlain_remove, hmid, settled_ok] at h
        exact (hrest.bind fun _ => Raises.pure _) mid fault h
      · rw [if_neg (by simpa using hfile)] at h
        exact hrest fs fault h

theorem raises_clean (directory : Location) :
    Raises (fun fault => fault.isSystemFault = true)
      (clean (m := StateM FileSystem) directory) := by
  unfold clean
  refine Raises.bind (fun fs fault h => ?_) fun isDirectory => ?_
  · rw [run_isDirectory] at h
    cases hkind : fs.kindAt directory with
    | error found =>
      rw [hkind] at h
      cases h
      exact kindAt_fault hkind
    | ok kind =>
      rw [hkind] at h
      cases h
  · split
    · refine Raises.bind (p := monadLift (FileAccess.names directory)) ?_ fun names =>
        raises_removeFiles directory _
      rintro fs fault ⟨⟩
    · exact Raises.pure _

/-- A text is written unless the system has a reason, or the text has no form in bytes. -/
theorem raises_writeText {t : Text} (hname : nameFault? l = none) :
    Raises (fun fault => fault.isSystemFault = true ∨ fault = .unencodable ∧ Text.encode? t = none)
      (FileAccess.writeText (m := StateM FileSystem) l t) := by
  have hwrite : ∀ content : ByteArray, Raises (fun fault => fault.isSystemFault = true)
      (ExceptT.mk (FileAccess.write (m := StateM FileSystem) l content)) := by
    intro content fs fault h
    rw [run_mk, runPlain_write] at h
    exact withFile_fault hname (settled_fault h)
  unfold FileAccess.writeText
  cases hbytes : Text.encode? t with
  | some bytes => exact (hwrite bytes).mono fun _ h => Or.inl h
  | none =>
    refine Raises.bind ((hwrite .empty).mono fun _ h => Or.inl h) fun _ => ?_
    exact Raises.throw (Or.inr ⟨rfl, rfl⟩)

theorem raises_writeFiles (hdirectory : nameFault? directory = none) :
    ∀ {files : List (Text × Text)}, (∀ f ∈ files, ∀ p ∈ f.1, p.IsUsable) →
      Raises (fun fault => fault.isSystemFault = true ∨
        fault = .unencodable ∧ ∃ f ∈ files, Text.encode? f.2 = none)
        (writeFiles (m := StateM FileSystem) directory files)
  | [], _ => Raises.pure _
  | (name, content) :: files, h => by
    have hname := nameFault?_child hdirectory (h _ List.mem_cons_self)
    have hrest := raises_writeFiles hdirectory fun f hf => h f (List.mem_cons_of_mem _ hf)
    unfold writeFiles
    refine Raises.bind ((raises_writeText hname).mono fun fault hfault => ?_) fun _ =>
      Raises.bind (hrest.mono fun fault hfault => ?_) fun _ => Raises.pure _
    · rcases hfault with hsystem | ⟨hcode, hnone⟩
      · exact Or.inl hsystem
      · exact Or.inr ⟨hcode, _, List.mem_cons_self, hnone⟩
    · rcases hfault with hsystem | ⟨hcode, f, hf, hnone⟩
      · exact Or.inl hsystem
      · exact Or.inr ⟨hcode, f, List.mem_cons_of_mem _ hf, hnone⟩

/-! ## 4. Building -/

/-- **How writing a build fails**: it has not done anything, or by a fault of the system, or because
a file of the build has no form in bytes. -/
theorem emit_fault {link : LinkSource} {n : Navigation} {pages : List (Text × Page)}
    (hnames : ∀ f ∈ files link n pages, ∀ p ∈ f.1, p.IsUsable)
    (h : fs.run (emit link n pages directory) = (.error fault, fs')) :
    fs' = fs ∨ fault.isSystemFault = true ∨
      fault = .unencodable ∧ ∃ f ∈ files link n pages, Text.encode? f.2 = none := by
  unfold emit at h
  rw [run_bind] at h
  rcases hmade : fs.run (FileAccess.makeDirectories directory) with ⟨found | _, mid⟩
  · rw [hmade] at h
    cases h
    exact (makeDirectories_fault hmade).imp_right Or.inl
  · rw [hmade] at h
    have hdir := (of_resolve_ok (entryAt_eq_ok.mp (hasDirectory_of_makeDirectories hmade)).1).1
    have hrest : Raises (fun fault => fault.isSystemFault = true ∨
        fault = .unencodable ∧ ∃ f ∈ files link n pages, Text.encode? f.2 = none)
        (clean (m := StateM FileSystem) directory >>= fun removed =>
          writeFiles directory (files link n pages) >>= fun written =>
            pure {
              written, removed, broken := Reference.broken link (pages.map (·.1)) n : Report }) :=
      ((raises_clean directory).mono fun _ => Or.inl).bind fun _ =>
        (raises_writeFiles hdir hnames).bind fun _ => Raises.pure _
    exact Or.inr (hrest mid fault (congrArg Prod.fst h))

end Output

end ApiDocs
