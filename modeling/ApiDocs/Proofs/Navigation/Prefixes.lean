import ApiDocs.Proofs.Navigation.Arrangement
import Mathlib.Data.List.TakeWhile

/-!
# What the prefix of ids does to a tree

The prefix comes before the slug in every id of a tree, and that is all that it does: the tree with
a prefix is the tree without one whose ids are put under the prefix (`treeOf_eq_withIds`).  Slugs,
labels, methods, operations and the grouping are those of the document alone, and so is the choice
between two that ask for one slug, since it is made before there are ids.

Slashes at the ends of a prefix are not part of it (`underPrefix_slashes`).
-/

namespace ApiDocs

/-! ## 1. Slashes -/

namespace Text

theorem dropWhile_replicate_append {α : Type} {p : α → Bool} {a : α} (h : p a = true) (n : Nat)
    (xs : List α) : (List.replicate n a ++ xs).dropWhile p = xs.dropWhile p := by
  rw [List.dropWhile_append_of_pos]
  exact fun b hb => (List.eq_of_mem_replicate hb) ▸ h

/-- What is trimmed off may be put back. -/
theorem trim_replicate {α : Type} {p : α → Bool} {a : α} (h : p a = true) (m n : Nat)
    (xs : List α) : trim p (List.replicate m a ++ xs ++ List.replicate n a) = trim p xs := by
  unfold trim
  rw [List.append_assoc, dropWhile_replicate_append h]
  by_cases hall : ∀ x ∈ xs, p x = true
  · have hxs : xs.dropWhile p = [] := List.dropWhile_eq_nil_iff.mpr hall
    have hend : (List.replicate n a).dropWhile p = [] :=
      List.dropWhile_eq_nil_iff.mpr fun b hb => (List.eq_of_mem_replicate hb) ▸ h
    rw [List.dropWhile_append, hxs, List.isEmpty_nil, if_pos rfl, hend]
  · have hxs : (xs.dropWhile p).isEmpty = false := by
      simpa [List.isEmpty_eq_false_iff, List.dropWhile_eq_nil_iff] using hall
    rw [List.dropWhile_append, hxs, if_neg Bool.false_ne_true, List.reverse_append,
      List.reverse_replicate, dropWhile_replicate_append h]

end Text

namespace Navigation

/-! ## 2. Ids under a prefix -/

/-- An id under a prefix: behind the prefix without slashes at its ends and one slash, or as it is,
if there is nothing else in the prefix. -/
def underPrefix (idPrefix id : Text) : Text :=
  if Text.stripSlashes idPrefix = [] then id else Text.stripSlashes idPrefix ++ "/" ++ id

theorem docId_eq_underPrefix (idPrefix slug : Text) :
    docId idPrefix slug = underPrefix idPrefix slug := by
  unfold docId underPrefix
  simp only [List.isEmpty_iff]

theorem underPrefix_injective (idPrefix : Text) : Function.Injective (underPrefix idPrefix) := by
  intro s t h
  rw [← docId_eq_underPrefix, ← docId_eq_underPrefix] at h
  exact docId_injective idPrefix h

@[simp] theorem docId_nil (slug : Text) : docId [] slug = slug := rfl

/-- Slashes at the ends of a prefix make no difference. -/
theorem underPrefix_slashes (m n : Nat) (idPrefix : Text) :
    underPrefix (List.replicate m (.char '/') ++ idPrefix ++ List.replicate n (.char '/'))
      = underPrefix idPrefix := by
  have hstrip : Text.stripSlashes
      (List.replicate m (.char '/') ++ idPrefix ++ List.replicate n (.char '/'))
        = Text.stripSlashes idPrefix := Text.trim_replicate rfl m n idPrefix
  funext id
  unfold underPrefix
  rw [hstrip]

/-! ## 3. Trees with other ids -/

/-- An entry with another id. -/
def Entry.withId (f : Text → Text) (e : Entry) : Entry := { e with id := f e.id }

/-- A category with other ids. -/
def Category.withIds (f : Text → Text) (c : Category) : Category :=
  { c with id := f c.id, entries := c.entries.map (Entry.withId f) }

/-- A tree with other ids and nothing else changed. -/
def withIds (f : Text → Text) (n : Navigation) : Navigation where
  overview := n.overview.withId f
  categories := n.categories.map (Category.withIds f)

variable (idPrefix : Text) (overviewId : Option Text) (d : Document)

theorem operationEntry_eq_withId (o : Operation) (slug : Text) :
    operationEntry idPrefix o slug = (operationEntry [] o slug).withId (underPrefix idPrefix) := by
  unfold operationEntry Entry.withId
  rw [docId_eq_underPrefix idPrefix, docId_nil]

/-- The slugs of the operations are handed out without regard to the prefix. -/
theorem placed_eq_map : placed { idPrefix, overviewId } d
    = (placed { overviewId } d).map (fun p => (p.1, p.2.withId (underPrefix idPrefix))) := by
  have hslugs : ownSlugs { idPrefix, overviewId } d = ownSlugs { overviewId } d := rfl
  unfold placed
  rw [hslugs, List.map_zipWith]
  dsimp only
  simp only [operationEntry_eq_withId idPrefix]

theorem entriesUnder_map (tag : Text) (f : Text → Text) (placed : List (Operation × Entry)) :
    entriesUnder tag (placed.map (fun p => (p.1, p.2.withId f)))
      = (entriesUnder tag placed).map (Entry.withId f) := by
  unfold entriesUnder
  rw [List.filter_map, List.map_map, List.map_map]
  rfl

/-- **The tree with a prefix** is the tree without one, with its ids under the prefix. -/
theorem treeOf_eq_withIds : treeOf { idPrefix, overviewId } d
    = (treeOf { overviewId } d).withIds (underPrefix idPrefix) := by
  have hfront : front { idPrefix, overviewId } d
      = (front { overviewId } d).withId (underPrefix idPrefix) := by
    have hslug : frontSlug { idPrefix, overviewId } d = frontSlug { overviewId } d := rfl
    unfold front Entry.withId
    rw [hslug, docId_eq_underPrefix idPrefix, docId_nil]
  have hheads : heads { idPrefix, overviewId } d
      = (heads { overviewId } d).map (Category.withIds (underPrefix idPrefix)) := by
    have hslugs : headSlugs { idPrefix, overviewId } d = headSlugs { overviewId } d := rfl
    unfold heads
    rw [hslugs, List.map_zipWith, placed_eq_map]
    simp only [Category.withIds, entriesUnder_map, docId_nil, docId_eq_underPrefix idPrefix]
  unfold treeOf withIds
  rw [hfront, hheads]

end Navigation

end ApiDocs
