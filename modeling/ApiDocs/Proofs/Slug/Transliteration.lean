import ApiDocs.Slug.Words
import Mathlib.Data.List.Basic

/-!
# ASCII is left as it is

A text of ASCII characters is its own transliteration (`transliterate_ofChars`), and ASCII
characters at the front of any text stay at its front (`transliterate_append`): each is its own
spelling and its own decomposition, and since none is a mark, no mark of the text after them is
moved past them.
-/

namespace ApiDocs

/-! ## 1. Decomposition -/

namespace Text

open Decomposition

theorem insertMark_ascii {n : Nat} (h : n < 128) : ∀ ns, insertMark n ns = n :: ns
  | [] => rfl
  | m :: ns => by
    have hclass : combiningClass n = 0 := by simp [combiningClass, show n < 0x300 by omega]
    simp [insertMark, hclass]

theorem reorder_append {ns : List Nat} (h : ∀ n ∈ ns, n < 128) (rest : List Nat) :
    reorder (ns ++ rest) = ns ++ reorder rest := by
  induction ns with
  | nil => rfl
  | cons n ns ih =>
    obtain ⟨hn, hns⟩ := List.forall_mem_cons.mp h
    rw [List.cons_append, reorder, ih hns, insertMark_ascii hn, List.cons_append]

theorem nfkd_append {as : List Char} (h : ∀ c ∈ as, c.toNat < 128) (bs : List Char) :
    nfkd (as ++ bs) = as ++ nfkd bs := by
  have hdecompose : as.flatMap (fun c => decompose c.toNat) = as.map Char.toNat := by
    rw [← List.flatMap_singleton' (as.map Char.toNat), List.flatMap_map]
    exact List.flatMap_congr fun c hc => decompose_ascii (h c hc)
  have hback : (as.map Char.toNat).map Char.ofNat = as := by
    rw [List.map_map]
    exact (List.map_congr_left fun c _ => Char.ofNat_toNat c).trans (List.map_id as)
  unfold nfkd
  rw [List.flatMap_append, hdecompose, reorder_append (by simpa using h), List.map_append, hback]

end Text

/-! ## 2. Transliteration -/

namespace Slug

theorem spelling_ascii {c : Char} (h : c.toNat < 128) : spelling c = [c] := by
  have hne {d : Char} (hd : 128 ≤ d.toNat) : ¬ c = d := by
    rintro rfl
    omega
  unfold spelling
  repeat rw [if_neg (hne (by decide))]

/-- **ASCII characters at the front of a text stay there.** -/
theorem transliterate_append {as : List Char} (h : ∀ c ∈ as, isAscii c = true) (t : Text) :
    transliterate (Text.ofChars as ++ t) = as ++ transliterate t := by
  have hascii : ∀ c ∈ as, c.toNat < 128 := fun c hc => of_decide_eq_true (h c hc)
  have hchars : (Text.ofChars as).filterMap CodePoint.char? = as := by
    unfold Text.ofChars
    rw [List.filterMap_map]
    exact List.filterMap_some
  have hspelling : as.flatMap spelling = as := by
    rw [List.flatMap_congr fun c hc => spelling_ascii (hascii c hc)]
    exact List.flatMap_singleton' as
  unfold transliterate
  rw [List.filterMap_append, hchars, List.flatMap_append, hspelling, Text.nfkd_append hascii,
    List.filter_append, List.filter_eq_self.mpr h]

/-- **A text of ASCII characters is its own transliteration.** -/
theorem transliterate_ofChars {cs : List Char} (h : ∀ c ∈ cs, isAscii c = true) :
    transliterate (Text.ofChars cs) = cs := by
  have happend := transliterate_append h []
  rwa [List.append_nil, show transliterate [] = [] from rfl, List.append_nil] at happend

end Slug

end ApiDocs
