import ApiDocs.Proofs.Text.Marks
import ApiDocs.Text.Basic

/-!
# Decompositions are complete

A text is in normalisation form KD when every code point is taken apart and the marks are sorted
(`Text.normalized`); on characters this is the form that texts are compared by (`normalized_ofChars`).

The tables take a character apart in one step, so what they give has to be complete: nothing in the
decomposition of a character has a decomposition of its own (`decompose_of_mem_decompose`).  That is
a property of the tables, found by looking up every code point that stands in one of their images
(`isFinal`).
-/

namespace ApiDocs.Text

open Decomposition

/-- Normalisation form KD of a text; a half of a surrogate pair stays as it is. -/
def normalized (t : Text) : Text :=
  (reorder (t.flatMap fun p => decompose p.toNat)).map CodePoint.ofNat

namespace Decomposition

/-! ## 1. Code points without an entry -/

/-- Whether no entry of a list holds `n`. -/
def isMissed (n : Nat) : List Entry → Bool
  | [] => true
  | e :: es => (Nat.blt n e.first || Nat.blt e.last n) && isMissed n es

/-- Whether no entry holds `n` in the first part that reaches `n`. -/
def isAbsent (n : Nat) : List (Nat × List Entry) → Bool
  | [] => true
  | part :: parts => bif Nat.ble n part.1 then isMissed n part.2 else isAbsent n parts

/-- The table in which `n` is looked up. -/
def tableOf (n : Nat) : List (Nat × List Entry) :=
  if n < 0x2000 then lettersParts
  else if n < 0xF900 then symbolsParts
  else if n < 0xFB00 then ideographsParts
  else if n < 0x10000 then formsParts
  else supplementaryParts

theorem decompose_eq_lookUp {n : Nat} (hn : 0xA0 ≤ n) (hsyllable : ¬ (0xAC00 ≤ n ∧ n ≤ 0xD7A3)) :
    decompose n = (lookUp (tableOf n) n).getD [n] := by
  unfold decompose
  rw [if_neg (by omega), if_neg hsyllable]
  rfl

/-- Whether `n` is a character that is its own decomposition. -/
def isFinal (n : Nat) : Bool :=
  Nat.blt n 0xA0 ||
    ((Nat.blt n 0xAC00 || (Nat.blt 0xF8FF n && Nat.blt n 0x110000)) && isAbsent n (tableOf n))

theorem findSome?_of_isMissed {n : Nat} : ∀ {es : List Entry}, isMissed n es = true →
    es.findSome? (fun e => e.image? n) = none
  | [], _ => rfl
  | e :: es, h => by
    rw [isMissed, Bool.and_eq_true, Bool.or_eq_true, Nat.blt_eq, Nat.blt_eq] at h
    have hout : ¬ (e.first ≤ n ∧ n ≤ e.last) := by omega
    rw [List.findSome?_cons, Entry.image?, if_neg hout, findSome?_of_isMissed h.2]

theorem lookUp_of_isAbsent {n : Nat} : ∀ {parts : List (Nat × List Entry)},
    isAbsent n parts = true → lookUp parts n = none
  | [], _ => rfl
  | (last, es) :: parts, h => by
    rw [isAbsent] at h
    by_cases hle : n ≤ last
    · rw [Nat.ble_eq.mpr hle, cond_true] at h
      simp [lookUp, hle, findSome?_of_isMissed h]
    · rw [Bool.eq_false_iff.mpr (mt Nat.ble_eq.mp hle), cond_false] at h
      have hrest := lookUp_of_isAbsent h
      unfold lookUp at hrest ⊢
      rw [List.find?_cons_of_neg (by simpa using hle)]
      exact hrest

theorem decompose_of_isFinal {n : Nat} (h : isFinal n = true) :
    decompose n = [n] ∧ n.isValidChar := by
  simp only [isFinal, Bool.or_eq_true, Bool.and_eq_true, Nat.blt_eq] at h
  rcases h with hlow | ⟨hrange, habsent⟩
  · refine ⟨?_, by unfold Nat.isValidChar; omega⟩
    unfold decompose
    rw [if_pos hlow]
  · refine ⟨?_, by unfold Nat.isValidChar; omega⟩
    by_cases hlow : n < 0xA0
    · unfold decompose
      rw [if_pos hlow]
    · rw [decompose_eq_lookUp (by omega) (by omega), lookUp_of_isAbsent habsent]
      rfl

/-! ## 2. What the tables give -/

/-- Whether a property holds of all code points in the images of an entry. -/
def Entry.images (p : Nat → Bool) (e : Entry) : Bool :=
  match e.image with
  | [] => true
  | head :: tail => tail.all p && (List.range' head (e.last + 1 - e.first)).all p

theorem Entry.of_mem_image? {p : Nat → Bool} {e : Entry} (h : e.images p = true) {n m : Nat}
    {image : List Nat} (himage : e.image? n = some image) (hm : m ∈ image) : p m = true := by
  unfold Entry.image? at himage
  split at himage
  · next hrange =>
    cases hentry : e.image with
    | nil =>
      rw [hentry] at himage
      cases himage
      exact absurd hm List.not_mem_nil
    | cons head tail =>
      simp only [Entry.images, hentry, Bool.and_eq_true, List.all_eq_true] at h
      rw [hentry] at himage
      cases himage
      rcases List.mem_cons.mp hm with rfl | hm
      · exact h.2 _ (List.mem_range'_1.mpr ⟨by omega, by omega⟩)
      · exact h.1 m hm
  · cases himage

theorem le_of_image? {e : Entry} {n : Nat} {image : List Nat} (h : e.image? n = some image) :
    e.first ≤ n ∧ n ≤ e.last := by
  unfold Entry.image? at h
  split at h
  · assumption
  · cases h

theorem mem_of_lookUp {parts : List (Nat × List Entry)} {n : Nat} {image : List Nat}
    (h : lookUp parts n = some image) :
    ∃ part ∈ parts, ∃ e ∈ part.2, e.image? n = some image := by
  unfold lookUp at h
  split at h
  · next last es hfind =>
    obtain ⟨e, he, himage⟩ := List.exists_of_findSome?_eq_some h
    exact ⟨_, List.mem_of_find?_eq_some hfind, e, he, himage⟩
  · cases h

/-- All entries of all tables satisfy a condition. -/
structure AllEntries (q : Entry → Bool) : Prop where
  letters : lettersParts.all (fun part => part.2.all q) = true
  symbols : symbolsParts.all (fun part => part.2.all q) = true
  ideographs : ideographsParts.all (fun part => part.2.all q) = true
  forms : formsParts.all (fun part => part.2.all q) = true
  supplementary : supplementaryParts.all (fun part => part.2.all q) = true

theorem AllEntries.of_mem {q : Entry → Bool} (hq : AllEntries q) {n : Nat} {part : Nat × List Entry}
    {e : Entry} (hpart : part ∈ tableOf n) (he : e ∈ part.2) : q e = true := by
  have hall : (tableOf n).all (fun part => part.2.all q) = true := by
    unfold tableOf
    split
    · exact hq.letters
    split
    · exact hq.symbols
    split
    · exact hq.ideographs
    split
    · exact hq.forms
    · exact hq.supplementary
  exact List.all_eq_true.mp (List.all_eq_true.mp hall part hpart) e he

/-- A code point is its own decomposition, or a Hangul syllable, or an entry holds it. -/
theorem decompose_cases (n : Nat) : decompose n = [n] ∨
    (0xAC00 ≤ n ∧ n ≤ 0xD7A3 ∧ decompose n = hangul (n - 0xAC00)) ∨
    ∃ e, e.image? n = some (decompose n) ∧ ∀ {q : Entry → Bool}, AllEntries q → q e = true := by
  by_cases hlow : n < 0xA0
  · exact Or.inl (by unfold decompose; rw [if_pos hlow])
  by_cases hsyllable : 0xAC00 ≤ n ∧ n ≤ 0xD7A3
  · refine Or.inr (Or.inl ⟨hsyllable.1, hsyllable.2, ?_⟩)
    unfold decompose
    rw [if_neg hlow, if_pos hsyllable]
  rw [decompose_eq_lookUp (by omega) hsyllable]
  cases hlook : lookUp (tableOf n) n with
  | none => exact Or.inl rfl
  | some image =>
    obtain ⟨part, hpart, e, he, himage⟩ := mem_of_lookUp hlook
    exact Or.inr (Or.inr ⟨e, himage, fun hq => hq.of_mem hpart he⟩)

theorem entries_isFinal : AllEntries (Entry.images isFinal) where
  letters := by decide +kernel
  symbols := by decide +kernel
  ideographs := by decide +kernel
  forms := by decide +kernel
  supplementary := by decide +kernel

/-- The conjoining letters of Hangul are not taken apart. -/
theorem isFinal_conjoining : ∀ n ∈ List.range' 0x1100 0x100, isFinal n = true := by
  decide +kernel

/-- A syllable is taken apart into conjoining letters. -/
theorem of_mem_hangul {n m : Nat} (hn : n ≤ 0xD7A3 - 0xAC00) (h : m ∈ hangul n) :
    0x1100 ≤ m ∧ m < 0x1200 := by
  unfold hangul at h
  dsimp only at h
  split at h
  all_goals
    simp only [List.mem_cons, List.not_mem_nil, or_false] at h
    omega

/-- **Decompositions are complete**: what is not its own decomposition is taken apart into characters
that are. -/
theorem decompose_eq_or (n : Nat) : decompose n = [n] ∨ ∀ m ∈ decompose n, isFinal m = true := by
  rcases decompose_cases n with hself | ⟨hfirst, hlast, hsyllable⟩ | hentry
  · exact Or.inl hself
  · refine Or.inr fun m hm => isFinal_conjoining m (List.mem_range'_1.mpr ?_)
    exact of_mem_hangul (by omega) (hsyllable ▸ hm)
  · obtain ⟨e, himage, hall⟩ := hentry
    exact Or.inr fun m hm => e.of_mem_image? (hall entries_isFinal) himage hm

theorem decompose_of_mem_decompose {n m : Nat} (h : m ∈ decompose n) : decompose m = [m] := by
  rcases decompose_eq_or n with hself | hall
  · rw [hself] at h
    obtain rfl := List.mem_singleton.mp h
    exact hself
  · exact (decompose_of_isFinal (hall m h)).1

/-- A half of a surrogate pair is its own decomposition. -/
theorem decompose_half (n : Fin 2048) : decompose (0xD800 + n) = [0xD800 + n.val] := by
  have hbounds : ∀ part ∈ symbolsParts, part.1 < 0xD800 := by decide +kernel
  have hfind : symbolsParts.find? (fun part => 0xD800 + n.val ≤ part.1) = none := by
    refine List.find?_eq_none.mpr fun part hpart => ?_
    have := hbounds part hpart
    simp only [decide_eq_true_eq]
    omega
  have htable : tableOf (0xD800 + n) = symbolsParts := by
    unfold tableOf
    rw [if_neg (by omega), if_pos (by omega)]
  rw [decompose_eq_lookUp (by omega) (by omega), htable]
  unfold lookUp
  rw [hfind]
  rfl

theorem isValidChar_of_mem_decompose {n m : Nat} (hn : n.isValidChar) (h : m ∈ decompose n) :
    m.isValidChar := by
  rcases decompose_eq_or n with hself | hall
  · rw [hself] at h
    obtain rfl := List.mem_singleton.mp h
    exact hn
  · exact (decompose_of_isFinal (hall m h)).2

end Decomposition

/-! ## 3. Texts -/

theorem isValidChar_toNat (c : Char) : c.toNat.isValidChar := c.valid

theorem ofNat_of_isValidChar {n : Nat} (h : n.isValidChar) :
    CodePoint.ofNat n = .char (Char.ofNat n) := by
  unfold CodePoint.ofNat
  rw [dif_neg (by unfold Nat.isValidChar at h; omega)]

theorem ofNat_half (n : Fin 2048) : CodePoint.ofNat (0xD800 + n) = .half n := by
  unfold CodePoint.ofNat
  rw [dif_pos (by omega)]
  simp

/-- **On characters it is the form that transliteration uses.** -/
theorem normalized_ofChars (cs : List Char) : normalized (ofChars cs) = ofChars (nfkd cs) := by
  unfold normalized nfkd ofChars
  rw [List.flatMap_map, List.map_map]
  refine List.map_congr_left fun n hn => ?_
  obtain ⟨c, -, hc⟩ := List.mem_flatMap.mp ((perm_reorder _).mem_iff.mp hn)
  exact ofNat_of_isValidChar (isValidChar_of_mem_decompose (isValidChar_toNat c) hc)

end ApiDocs.Text
