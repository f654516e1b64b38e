import ApiDocs.Proofs.Json.RoundTrip
import ApiDocs.Proofs.Outcome
import ApiDocs.Value.Json
import Mathlib.Data.List.Nodup

/-!
# Loaded values through JSON

A value that is made of what JSON has, with texts for keys, comes back if its JSON form is printed
and read (`readText_toJson`).  The order of the keys is kept.  Where a value has a JSON form at all,
it is not nested more deeply than is read, and its integers do not have more digits than are read.
-/

namespace ApiDocs.Value

/-- A value that is made of null, truth values, integers, texts, lists, and mappings of different
texts. -/
inductive IsJson : Value → Prop
  | null : IsJson .null
  | bool (b : Bool) : IsJson (.bool b)
  | int (i : Int) : IsJson (.int i)
  | str (s : Text) : IsJson (.str s)
  | list {items : List Value} (h : ∀ v ∈ items, IsJson v) : IsJson (.list items)
  | map {entries : Entries} (hkeys : ∀ e ∈ entries, ∃ name, e.1 = .str name)
    (hdifferent : (entries.map Prod.fst).Nodup) (h : ∀ e ∈ entries, IsJson e.2) :
    IsJson (.map entries)

/-! ## 1. Parts -/

theorem itemsToJsonIn_eq_mapM (depth : Nat) (around : List Nat) : ∀ items : List Value,
    itemsToJsonIn depth around items = items.mapM (toJsonIn depth around)
  | [] => rfl
  | v :: items => by
    rw [List.mapM_cons, ← itemsToJsonIn_eq_mapM depth around items]
    rfl

/-- The member that an entry of a mapping becomes. -/
def entryToJsonIn (depth : Nat) (around : List Nat) (e : Value × Value) :
    Except NoJson (Text × Json) := do
  let name ← keyText e.1
  return (name, ← toJsonIn depth around e.2)

theorem entriesToJsonIn_eq_mapM (depth : Nat) (around : List Nat) : ∀ entries : Entries,
    entriesToJsonIn depth around entries = entries.mapM (entryToJsonIn depth around)
  | [] => rfl
  | (key, v) :: entries => by
    rw [entriesToJsonIn, List.mapM_cons, ← entriesToJsonIn_eq_mapM depth around entries]
    unfold entryToJsonIn
    cases keyText key with
    | error cause => rfl
    | ok name =>
      cases toJsonIn depth around v with
      | error cause => rfl
      | ok form => rfl

theorem itemsOfJson_eq_map : ∀ forms : List Json, itemsOfJson forms = forms.map ofJson
  | [] => rfl
  | j :: forms => congrArg (ofJson j :: ·) (itemsOfJson_eq_map forms)

theorem membersOfJson_eq_map : ∀ members : List (Text × Json),
    membersOfJson members = members.map (fun m => (.str m.1, ofJson m.2))
  | [] => rfl
  | m :: members => congrArg ((Value.str m.1, ofJson m.2) :: ·) (membersOfJson_eq_map members)

/-! ## 2. The form of a value -/

/-- The JSON value is one that is read back, and it denotes the value. -/
def IsFormOf (nesting : Nat) (v : Value) (j : Json) : Prop := Json.IsPlain nesting j ∧ v = ofJson j

/-- The member of an object is the form of an entry. -/
def IsMemberOf (nesting : Nat) (e : Value × Value) (m : Text × Json) : Prop :=
  e.1 = .str m.1 ∧ IsFormOf nesting e.2 m.2

theorem within_eq_ok {α : Type} {depth : Nat} {form : Except NoJson α} {a : α} :
    within depth form = .ok a ↔ depth ≤ maxDepth ∧ form = .ok a := by
  unfold within
  split
  · next h => exact ⟨nofun, fun hle => absurd hle.1 (Nat.not_le.mpr h)⟩
  · next h => exact (and_iff_right (Nat.not_lt.mp h)).symm

theorem eq_map_of_forall₂ {α β : Type} {f : β → α} {as : List α} {bs : List β}
    (h : List.Forall₂ (fun a b => a = f b) as bs) : as = bs.map f := by
  have hmap : List.Forall₂ Eq as (bs.map f) := List.forall₂_map_right_iff.mpr h
  rwa [List.forall₂_eq_eq_eq] at hmap

theorem isFormOf_arr {nesting : Nat} {items : List Value} {forms : List Json}
    (h : List.Forall₂ (IsFormOf nesting) items forms) :
    IsFormOf (nesting + 1) (.list items) (.arr forms) := by
  constructor
  · refine .arr fun j hj => ?_
    obtain ⟨v, -, hplain, -⟩ := exists_of_mem_right h hj
    exact hplain
  · rw [ofJson, itemsOfJson_eq_map, ← eq_map_of_forall₂ (h.imp fun _ _ => And.right)]

theorem isFormOf_obj {nesting : Nat} {entries : Entries} {members : List (Text × Json)}
    (h : List.Forall₂ (IsMemberOf nesting) entries members)
    (hdifferent : (entries.map Prod.fst).Nodup) :
    IsFormOf (nesting + 1) (.map entries) (.obj members) := by
  have hentries : entries = members.map (fun m => (.str m.1, ofJson m.2)) :=
    eq_map_of_forall₂ (h.imp fun _ _ hm => Prod.ext hm.1 hm.2.2)
  constructor
  · refine .obj ?_ fun m hm => ?_
    · rw [hentries, List.map_map] at hdifferent
      refine List.Nodup.of_map Value.str ?_
      rwa [List.map_map]
    · obtain ⟨e, -, -, hplain, -⟩ := exists_of_mem_right h hm
      exact hplain
  · rw [ofJson, membersOfJson_eq_map, ← hentries]

theorem isMemberOf_of_entryToJsonIn {depth nesting : Nat} {around : List Nat} {e : Value × Value}
    {m : Text × Json} (hkey : ∃ name, e.1 = .str name)
    (hvalue : ∀ {j}, toJsonIn depth around e.2 = .ok j → IsFormOf nesting e.2 j)
    (h : entryToJsonIn depth around e = .ok m) : IsMemberOf nesting e m := by
  obtain ⟨name, hname⟩ := hkey
  obtain ⟨name', hname', h⟩ := bind_eq_ok.mp h
  obtain ⟨form, hform, h⟩ := bind_eq_ok.mp h
  cases h
  rw [hname] at hname'
  cases hname'
  exact ⟨hname, hvalue hform⟩

/-- **The JSON form of a value denotes the value**, and it is one that can be read: its nesting is
limited by the depth to which forms are made. -/
theorem isFormOf_of_toJsonIn {v : Value} (h : IsJson v) : ∀ {depth : Nat} {around : List Nat}
    {j : Json}, toJsonIn depth around v = .ok j → IsFormOf (maxDepth + 1 - depth) v j := by
  induction h with
  | null =>
    intro depth around j hj
    cases hj
    exact ⟨.null, rfl⟩
  | bool b =>
    intro depth around j hj
    cases hj
    exact ⟨.bool b, rfl⟩
  | int i =>
    intro depth around j hj
    obtain ⟨digits, hdigits, rfl⟩ := map_eq_ok.mp hj
    have htext := mapError_eq_ok.mp hdigits
    unfold integerText at htext
    split at htext
    · cases htext
    · next hlong => exact ⟨.int (Bool.eq_false_iff.mpr hlong), rfl⟩
  | str s =>
    intro depth around j hj
    cases hj
    exact ⟨.str s, rfl⟩
  | @list items _ ih =>
    intro depth around j hj
    obtain ⟨forms, hforms, rfl⟩ := map_eq_ok.mp hj
    obtain ⟨hle, hforms⟩ := within_eq_ok.mp hforms
    rw [itemsToJsonIn_eq_mapM, mapM_eq_ok] at hforms
    have hall := (List.forall₂_and_left _ _).mpr ⟨fun v hv => @ih v hv (depth + 1) around, hforms⟩
    have hbelow := isFormOf_arr (hall.imp fun v form h => h.1 h.2)
    rw [Nat.add_sub_add_right] at hbelow
    rwa [Nat.sub_add_comm hle]
  | @map entries hkeys hdifferent _ ih =>
    intro depth around j hj
    obtain ⟨members, hmembers, rfl⟩ := map_eq_ok.mp hj
    obtain ⟨hle, hmembers⟩ := within_eq_ok.mp hmembers
    rw [entriesToJsonIn_eq_mapM, mapM_eq_ok] at hmembers
    have hall := (List.forall₂_and_left _ _).mpr
      ⟨fun e he => And.intro (hkeys e he) (@ih e he (depth + 1) around), hmembers⟩
    have hbelow := isFormOf_obj
      (hall.imp fun e m h => isMemberOf_of_entryToJsonIn h.1.1 h.1.2 h.2) hdifferent
    rw [Nat.add_sub_add_right] at hbelow
    rwa [Nat.sub_add_comm hle]

/-- **A value with a JSON form is what the printed form is read as.** -/
theorem readText_toJson {v : Value} {j : Json} (h : IsJson v) (hj : toJson v = .ok j) :
    (Json.readText j.pretty).map ofJson = .ok v := by
  obtain ⟨hplain, hvalue⟩ := isFormOf_of_toJsonIn h hj
  rw [Json.readText_pretty (hplain.mono (by decide)), hvalue]
  rfl

end ApiDocs.Value
