import ApiDocs.Navigation.Uniqueness
import Mathlib.Data.List.Induction
import Mathlib.Data.List.Nodup

/-!
# Ids that clash

`checkUnique` goes through the overview page and the entries of all categories (`leaves`) and
remembers what it has seen.  As long as the ids are new, checking a list is checking the rest of it
against more (`checkFrom_append`).  So it accepts ids that are different, and it stops at the first
leaf whose id an earlier one has.  The earlier one is the only one to have it.

A message names a leaf by its operation id, else by method and path, else by its document id.
`Entry.IsName` says this of a leaf and a name.  Only a leaf with an operation, but neither an
operation id nor a method, has no name at all (`exists_isName`).
-/

namespace ApiDocs.Navigation

/-! ## 1. The names of a leaf -/

/-- The name of a leaf in a message. -/
inductive Entry.IsName (e : Entry) : Text → Prop
  | documentId (h : e.operation = none) : IsName e e.id
  | operationId {o : Operation} {name : Text} (h : e.operation = some o)
    (hname : o.operationId = some name) (hne : name ≠ []) : IsName e name
  | methodAndPath {o : Operation} {method : Text} (h : e.operation = some o)
    (hname : o.operationId.getD [] = []) (hmethod : e.method = some method) :
    IsName e (Text.upper method ++ " " ++ o.path)

/-- An operation without an operation id comes with a method. -/
def Entry.CanBeNamed (e : Entry) : Prop :=
  ∀ o ∈ e.operation, o.operationId.getD [] = [] → e.method ≠ none

instance (e : Entry) : Decidable e.CanBeNamed :=
  inferInstanceAs (Decidable (∀ o ∈ e.operation, o.operationId.getD [] = [] → e.method ≠ none))

theorem byMethod_eq_some {e : Entry} {o : Operation} {t : Text} :
    Entry.describe?.byMethod e o = some t ↔
      ∃ method, e.method = some method ∧ Text.upper method ++ " " ++ o.path = t := by
  cases hmethod : e.method <;> simp [Entry.describe?.byMethod, hmethod]

theorem describe?_eq_some {e : Entry} {t : Text} : e.describe? = some t ↔ e.IsName t := by
  constructor
  · intro h
    unfold Entry.describe? at h
    split at h
    · next ho =>
      cases h
      exact .documentId ho
    · next o ho =>
      split at h
      · next name hname =>
        split at h
        · next hempty =>
          obtain ⟨method, hmethod, rfl⟩ := byMethod_eq_some.mp h
          exact .methodAndPath ho (by simpa [hname] using hempty) hmethod
        · next hne =>
          cases h
          exact .operationId ho hname (by simpa using hne)
      · next hname =>
        obtain ⟨method, hmethod, rfl⟩ := byMethod_eq_some.mp h
        exact .methodAndPath ho (by simp [hname]) hmethod
  · intro h
    cases h with
    | documentId ho => simp [Entry.describe?, ho]
    | operationId ho hname hne => simp [Entry.describe?, ho, hname, hne]
    | @methodAndPath o method ho hempty hmethod =>
      have hby := (byMethod_eq_some (o := o)).mpr ⟨method, hmethod, rfl⟩
      cases hname : o.operationId with
      | none => simp [Entry.describe?, ho, hname, hby]
      | some name =>
        obtain rfl : name = [] := by simpa [hname] using hempty
        simp [Entry.describe?, ho, hname, hby]

/-- Every leaf that can be named has one name. -/
theorem exists_isName {e : Entry} (h : e.CanBeNamed) : ∃ t, e.IsName t := by
  cases ho : e.operation with
  | none => exact ⟨_, .documentId ho⟩
  | some o =>
    by_cases hid : o.operationId.getD [] = []
    · obtain ⟨method, hmethod⟩ := Option.ne_none_iff_exists'.mp (h o ho hid)
      exact ⟨_, .methodAndPath ho hid hmethod⟩
    · cases hname : o.operationId with
      | none => simp [hname] at hid
      | some name => exact ⟨name, .operationId ho hname (by simpa [hname] using hid)⟩

/-! ## 2. Checking ids -/

variable {e holder : Entry} {es scanned seen : List Entry}

/-- What is new is remembered. -/
theorem checkFrom_of_new (h : ∀ s ∈ seen, s.id ≠ e.id) :
    checkFrom seen (e :: es) = checkFrom (e :: seen) es := by
  have hfind : seen.find? (fun s => s.id == e.id) = none := by simpa using h
  simp only [checkFrom, hfind]

/-- **As long as the ids are new**, checking goes on with the rest and has seen more. -/
theorem checkFrom_append (h : ((seen.reverse ++ scanned).map (·.id)).Nodup) :
    checkFrom seen (scanned ++ es) = checkFrom (scanned.reverse ++ seen) es := by
  induction scanned generalizing seen with
  | nil => rfl
  | cons e scanned ih =>
    have hnew : ∀ s ∈ seen, s.id ≠ e.id := by
      intro s hs hid
      rw [List.map_append, List.nodup_append] at h
      exact h.2.2 s.id (List.mem_map_of_mem (List.mem_reverse.mpr hs)) e.id (by simp) hid
    rw [List.cons_append, checkFrom_of_new hnew, ih (by simpa using h)]
    simp

/-- The one that was seen with an id is found by it. -/
theorem find?_id (hnodup : (seen.map (·.id)).Nodup) (hmem : holder ∈ seen)
    (hid : holder.id = e.id) : seen.find? (fun s => s.id == e.id) = some holder := by
  cases hfind : seen.find? (fun s => s.id == e.id) with
  | none => simpa [hid] using List.find?_eq_none.mp hfind holder hmem
  | some found =>
    have hfound : found.id = holder.id := by simpa [hid] using List.find?_some hfind
    exact congrArg some
      (List.inj_on_of_nodup_map hnodup (List.mem_of_find?_eq_some hfind) hmem hfound)

/-- An id that was seen ends the check with the two names. -/
theorem checkFrom_of_seen {a b : Text} (hnodup : (seen.map (·.id)).Nodup) (hmem : holder ∈ seen)
    (hid : holder.id = e.id) (ha : holder.IsName a) (hb : e.IsName b) :
    checkFrom seen (e :: es) = .error (.sameId e.id [a, b]) := by
  simp only [checkFrom, find?_id hnodup hmem hid, describe?_eq_some.mpr ha,
    describe?_eq_some.mpr hb]

/-! ## 3. Trees -/

/-- The overview page and the entries of all categories, in the order of the tree. -/
def leaves (n : Navigation) : List Entry := n.overview :: n.entries

theorem checkUnique_eq (n : Navigation) : checkUnique n = checkFrom [] n.leaves :=
  (checkFrom_of_new (by simp)).symm

/-- **Different ids are accepted.** -/
theorem checkUnique_of_nodup {n : Navigation} (h : (n.leaves.map (·.id)).Nodup) :
    checkUnique n = .ok () := by
  rw [checkUnique_eq, ← List.append_nil n.leaves, checkFrom_append h]
  cases n.leaves.reverse ++ [] <;> rfl

/-- **The first clash** of a list that is not without one. -/
theorem exists_first_clash (h : ¬ (es.map (·.id)).Nodup) :
    ∃ before holder between e after, es = before ++ holder :: between ++ e :: after ∧
      ((before ++ holder :: between).map (·.id)).Nodup ∧ holder.id = e.id := by
  induction es using List.reverseRecOn with
  | nil => simp at h
  | append_singleton es last ih =>
    by_cases hinit : (es.map (·.id)).Nodup
    · have hmem : last.id ∈ es.map (·.id) := by
        by_contra hnew
        refine h ?_
        rw [List.map_append, List.map_singleton]
        exact hinit.append (List.nodup_singleton _) (List.disjoint_singleton.mpr hnew)
      obtain ⟨holder, hholder, hid⟩ := List.mem_map.mp hmem
      obtain ⟨before, between, rfl⟩ := List.append_of_mem hholder
      exact ⟨before, holder, between, last, [], rfl, hinit, hid⟩
    · obtain ⟨before, holder, between, e, after, rfl, hnodup, hid⟩ := ih hinit
      exact ⟨before, holder, between, e, after ++ [last], by simp, hnodup, hid⟩

/-- **What is checked, and what a clash is reported as.**  Exactly the trees are accepted in which
the overview page and all entries have different ids.  In any other one, the leaf that is reported
is the first whose id an earlier one has: up to it the ids are different, so there is one earlier
holder, and the two are named in their order. -/
theorem checkUnique_spec (n : Navigation) (hnames : ∀ e ∈ n.leaves, e.CanBeNamed) :
    (checkUnique n = .ok () ↔ (n.leaves.map (·.id)).Nodup) ∧
    (¬ (n.leaves.map (·.id)).Nodup → ∃ before holder between e after a b,
      n.leaves = before ++ holder :: between ++ e :: after ∧
      ((before ++ holder :: between).map (·.id)).Nodup ∧ holder.id = e.id ∧
      holder.IsName a ∧ e.IsName b ∧ checkUnique n = .error (.sameId e.id [a, b])) := by
  have hclash : ¬ (n.leaves.map (·.id)).Nodup → ∃ before holder between e after a b,
      n.leaves = before ++ holder :: between ++ e :: after ∧
      ((before ++ holder :: between).map (·.id)).Nodup ∧ holder.id = e.id ∧
      holder.IsName a ∧ e.IsName b ∧ checkUnique n = .error (.sameId e.id [a, b]) := by
    intro h
    obtain ⟨before, holder, between, e, after, hleaves, hnodup, hid⟩ := exists_first_clash h
    obtain ⟨a, ha⟩ := exists_isName (hnames holder (by simp [hleaves]))
    obtain ⟨b, hb⟩ := exists_isName (hnames e (by simp [hleaves]))
    refine ⟨before, holder, between, e, after, a, b, hleaves, hnodup, hid, ha, hb, ?_⟩
    rw [checkUnique_eq, hleaves, checkFrom_append hnodup]
    refine checkFrom_of_seen ?_ (by simp) hid ha hb
    rw [List.append_nil, List.map_reverse, List.nodup_reverse]
    exact hnodup
  refine ⟨⟨fun hok => ?_, checkUnique_of_nodup⟩, hclash⟩
  by_contra h
  obtain ⟨_, _, _, _, _, _, _, _, _, _, _, _, herror⟩ := hclash h
  rw [hok] at herror
  cases herror

/-- A tree in which two ids occur twice.  The label and the ids of the categories occur elsewhere,
too, which does not matter. -/
def clashingTree : Navigation where
  overview := { id := "intro", slug := "intro", label := "Introduction" }
  categories := [
    { label := "Food", id := "intro", slug := "food", entries := [
        { id := "food", slug := "food", label := "Food", method := some "get",
          operation := some { method := "get", path := "/food" } }] },
    { label := "Food", id := "food", slug := "food", entries := [
        { id := "notes", slug := "notes", label := "Notes" },
        { id := "food", slug := "food", label := "Food",
          operation := some { method := "post", path := "/food", operationId := some "addFood" } },
        { id := "intro", slug := "intro", label := "Introduction" }] }]

/-- The second entry of the id that is repeated first is reported, together with the one in the other
category. -/
theorem checkUnique_spec_clashing :
    (∀ e ∈ clashingTree.leaves, e.CanBeNamed) ∧ ¬ (clashingTree.leaves.map (·.id)).Nodup ∧
    checkUnique clashingTree = .error (.sameId "food" ["GET /food", "addFood"]) ∧
    ∃ before holder between e after,
      clashingTree.leaves = before ++ holder :: between ++ e :: after ∧
      ((before ++ holder :: between).map (·.id)).Nodup ∧ holder.id = e.id ∧
      holder.IsName "GET /food" ∧ e.IsName "addFood" := by
  have hnames : ∀ e ∈ clashingTree.leaves, e.CanBeNamed := by decide
  have hclash : ¬ (clashingTree.leaves.map (·.id)).Nodup := by decide
  have hcheck : checkUnique clashingTree = .error (.sameId "food" ["GET /food", "addFood"]) := by
    decide +kernel
  obtain ⟨before, holder, between, e, after, a, b, hleaves, hnodup, hid, ha, hb, herror⟩ :=
    (checkUnique_spec clashingTree hnames).2 hclash
  simp only [hcheck, Except.error.injEq, Conflict.sameId.injEq, List.cons.injEq, and_true]
    at herror
  obtain ⟨-, rfl, rfl⟩ := herror
  exact ⟨hnames, hclash, hcheck, before, holder, between, e, after, hleaves, hnodup, hid, ha, hb⟩

end ApiDocs.Navigation
