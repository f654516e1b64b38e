import ApiDocs.Proofs.Slug.Transliteration
import ApiDocs.Proofs.Text.Marks

/-!
# What each character leaves in ASCII

Transliteration takes a whole text apart and sorts its marks before it drops what is not ASCII.  All
the same, each code point leaves characters of its own (`asciiOf`), and the text in ASCII is what its
code points leave, one after another (`transliterate_eq_flatMap`), since sorting is not seen where
marks are dropped.  So nothing in a text depends on what stands around it (`transliterate_concat`).
-/

namespace ApiDocs.Slug

open Text.Decomposition

/-- The character with a number, if it is ASCII. -/
def asciiChar (n : Nat) : List Char := [Char.ofNat n].filter isAscii

/-- What a code point leaves in ASCII; a half of a surrogate pair leaves nothing. -/
def asciiOf : CodePoint → List Char
  | .char c => (spelling c).flatMap fun d => (decompose d.toNat).flatMap asciiChar
  | .half _ => []

theorem asciiChar_of_valid {n : Nat} (h : n.isValidChar) (hn : 128 ≤ n) : asciiChar n = [] := by
  simp [asciiChar, isAscii, Char.toNat_ofNat, h, hn]

theorem asciiChar_of_mark {n : Nat} (h : combiningClass n ≠ 0) : asciiChar n = [] := by
  obtain ⟨hn, hvalid⟩ := of_combiningClass_ne_zero h
  exact asciiChar_of_valid hvalid (by omega)

theorem asciiOf_ascii {c : Char} (h : isAscii c = true) : asciiOf (.char c) = [c] := by
  have hc : c.toNat < 128 := of_decide_eq_true h
  simp [asciiOf, spelling_ascii hc, decompose_ascii hc, asciiChar, h]

/-- **A text in ASCII is what its code points leave.** -/
theorem transliterate_eq_flatMap (t : Text) : transliterate t = t.flatMap asciiOf := by
  have hsorted (ns : List Nat) : ((reorder ns).map Char.ofNat).filter isAscii
      = ns.flatMap asciiChar := by
    rw [← flatMap_reorder fun n _ h => asciiChar_of_mark h, ← List.flatMap_singleton'
      ((reorder ns).map Char.ofNat), List.filter_flatMap, List.flatMap_map]
    rfl
  unfold transliterate Text.nfkd
  rw [hsorted, List.flatMap_assoc, List.flatMap_assoc, List.filterMap_eq_flatMap_toList,
    List.flatMap_assoc]
  refine List.flatMap_congr fun p _ => ?_
  cases p with
  | char c => simp [asciiOf, CodePoint.char?]
  | half n => rfl

theorem transliterate_concat (t u : Text) :
    transliterate (t ++ u) = transliterate t ++ transliterate u := by
  simp only [transliterate_eq_flatMap, List.flatMap_append]

theorem transliterate_cons (p : CodePoint) (t : Text) :
    transliterate (p :: t) = asciiOf p ++ transliterate t := by
  rw [transliterate_eq_flatMap, transliterate_eq_flatMap, List.flatMap_cons]

end ApiDocs.Slug
