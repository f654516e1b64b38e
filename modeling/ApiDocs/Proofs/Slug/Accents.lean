import ApiDocs.Proofs.Slug.Ascii
import ApiDocs.Proofs.Text.Normalization

/-!
# Accents written in two ways

An accented letter can be one character, or a letter and a mark after it.  Both have the same
normalisation form KD, and for nearly all letters a text and its normalised form are the same in
ASCII.  The exceptions come from the letters with a spelling of their own (`spelledLetters`), which
get it before a text is taken apart: `ø` and an accent are spelled `o`, but `ǿ` in one character has
no spelling, and when it is taken apart its `ø` is dropped like an unknown letter.  There are ten such
letters (`lostLetters`); that there are no more is a property of the tables.

`transliterate_normalized` says that a text and its normalised form are the same in ASCII exactly if
none of the ten occurs, and that texts without them that are normalised to the same text have the
same words, slug and title.
-/

namespace ApiDocs.Slug

open Text.Decomposition

/-! ## 1. Letters with a spelling of their own -/

/-- The letters with a spelling of their own. -/
def spelledLetters : List Char :=
  ['ß', 'æ', 'Æ', 'ø', 'Ø', 'đ', 'Đ', 'ł', 'Ł', 'œ', 'Œ', 'þ', 'Þ']

/-- The letters that are dropped, although a letter with a spelling of its own is in their
decomposition. -/
def lostLetters : List Char := ['Ǣ', 'ǣ', 'Ǽ', 'ǽ', 'Ǿ', 'ǿ', 'ᴭ', 'ꟹ', '𐞃', '𐞢']

theorem spelling_of_notMem {c : Char} (h : c ∉ spelledLetters) : spelling c = [c] := by
  simp only [spelledLetters, List.mem_cons, List.not_mem_nil, or_false, not_or] at h
  simp [spelling, h]

/-- A letter with a spelling is not taken apart, and leaves its spelling. -/
theorem of_mem_spelledLetters {c : Char} (h : c ∈ spelledLetters) :
    decompose c.toNat = [c.toNat] ∧ asciiOf (.char c) = (spelling c).filter isAscii := by
  have hall : spelledLetters.all (fun c => decompose c.toNat == [c.toNat] &&
      asciiOf (.char c) == (spelling c).filter isAscii) = true := by
    decide +kernel
  simpa using List.all_eq_true.mp hall c h

/-- The numbers of the letters with a spelling, for looking them up in the tables. -/
def isSpelled (n : Nat) : Bool :=
  Nat.blt n 0x180 && (spelledLetters.map Char.toNat).contains n

/-- Whether an entry has no letter with a spelling in its images, or is that of a lost letter. -/
def isExpected (e : Entry) : Bool :=
  e.images (fun n => !isSpelled n) ||
    (e.first == e.last && (lostLetters.map Char.toNat).contains e.first)

theorem entries_isExpected : AllEntries isExpected where
  letters := by decide +kernel
  symbols := by decide +kernel
  ideographs := by decide +kernel
  forms := by decide +kernel
  supplementary := by decide +kernel

theorem isSpelled_of_mem {n : Nat} (h : Char.ofNat n ∈ spelledLetters) : isSpelled n = true := by
  have hall : spelledLetters.all (fun c => isSpelled c.toNat) = true := by decide +kernel
  have hnumber := List.all_eq_true.mp hall _ h
  rw [Char.toNat_ofNat] at hnumber
  split at hnumber
  · exact hnumber
  · cases hnumber

/-- **What is not lost has no letter with a spelling in it**, unless it is one. -/
theorem notMem_spelledLetters {c : Char} (hspelled : c ∉ spelledLetters) (hlost : c ∉ lostLetters)
    {n : Nat} (hn : n ∈ decompose c.toNat) : Char.ofNat n ∉ spelledLetters := by
  rcases decompose_cases c.toNat with hself | ⟨hfirst, hlast, hsyllable⟩ | ⟨e, himage, hall⟩
  · rw [hself] at hn
    obtain rfl := List.mem_singleton.mp hn
    rwa [Char.ofNat_toNat]
  · intro hmem
    have hlow := isSpelled_of_mem hmem
    have hhigh := (of_mem_hangul (by omega) (hsyllable ▸ hn)).1
    simp only [isSpelled, Bool.and_eq_true, Nat.blt_eq] at hlow
    omega
  · intro hmem
    have hexpected := hall entries_isExpected
    rw [isExpected, Bool.or_eq_true, Bool.and_eq_true, beq_iff_eq, List.contains_iff_mem] at hexpected
    rcases hexpected with himages | ⟨hsingle, hletter⟩
    · have hnot := e.of_mem_image? himages himage hn
      rw [isSpelled_of_mem hmem] at hnot
      cases hnot
    · obtain ⟨d, hd, hnumber⟩ := List.mem_map.mp hletter
      have hrange := le_of_image? himage
      have hsame : d.toNat = c.toNat := by omega
      exact hlost (Char.toNat_inj.mp hsame ▸ hd)

/-! ## 2. What a character of a normalised text leaves -/

/-- What a code point leaves in ASCII if it is taken apart first. -/
def asciiOfParts (p : CodePoint) : List Char :=
  (decompose p.toNat).flatMap fun n => asciiOf (.ofNat n)

/-- A character that is its own decomposition leaves its spelling, as far as that is ASCII. -/
theorem asciiOf_of_decompose {c : Char} (h : decompose c.toNat = [c.toNat]) :
    asciiOf (.char c) = (spelling c).filter isAscii := by
  by_cases hspelled : c ∈ spelledLetters
  · exact (of_mem_spelledLetters hspelled).2
  · simp [asciiOf, spelling_of_notMem hspelled, h, asciiChar]

/-- What is left of a part that has no spelling of its own. -/
theorem asciiOf_of_mem_decompose {m n : Nat} (hn : n ∈ decompose m) (hvalid : n.isValidChar)
    (hspelled : Char.ofNat n ∉ spelledLetters) : asciiOf (.ofNat n) = asciiChar n := by
  have hnumber : (Char.ofNat n).toNat = n := (Char.toNat_ofNat n).trans (if_pos hvalid)
  have hself : decompose (Char.ofNat n).toNat = [(Char.ofNat n).toNat] := by
    rw [hnumber]
    exact decompose_of_mem_decompose hn
  rw [Text.ofNat_of_isValidChar hvalid, asciiOf_of_decompose hself, spelling_of_notMem hspelled]
  rfl

theorem asciiOfParts_half (n : Fin 2048) : asciiOfParts (.half n) = [] := by
  unfold asciiOfParts CodePoint.toNat
  dsimp only
  rw [decompose_half, List.flatMap_singleton, Text.ofNat_half]
  rfl

theorem transliterate_normalized_eq (t : Text) :
    transliterate (Text.normalized t) = t.flatMap asciiOfParts := by
  have hmarks : ∀ n ∈ t.flatMap (fun p => decompose p.toNat), combiningClass n ≠ 0 →
      asciiOf (.ofNat n) = [] := by
    intro n hn hclass
    obtain ⟨p, -, hn⟩ := List.mem_flatMap.mp hn
    obtain ⟨hhigh, hvalid⟩ := of_combiningClass_ne_zero hclass
    have hspelled : Char.ofNat n ∉ spelledLetters := fun hmem => by
      have hlow := isSpelled_of_mem hmem
      simp only [isSpelled, Bool.and_eq_true, Nat.blt_eq] at hlow
      omega
    rw [asciiOf_of_mem_decompose hn hvalid hspelled, asciiChar_of_mark hclass]
  rw [transliterate_eq_flatMap, Text.normalized, List.flatMap_map, flatMap_reorder hmarks,
    List.flatMap_assoc]
  rfl

theorem asciiOfParts_of_notMem {p : CodePoint} (h : ∀ c ∈ lostLetters, p ≠ .char c) :
    asciiOfParts p = asciiOf p := by
  cases p with
  | half n => exact asciiOfParts_half n
  | char c =>
    have hlost : c ∉ lostLetters := fun hc => h c hc rfl
    by_cases hspelled : c ∈ spelledLetters
    · unfold asciiOfParts CodePoint.toNat
      dsimp only
      rw [(of_mem_spelledLetters hspelled).1, List.flatMap_singleton,
        Text.ofNat_of_isValidChar (Text.isValidChar_toNat c), Char.ofNat_toNat]
    · rw [asciiOf, spelling_of_notMem hspelled, List.flatMap_singleton]
      refine List.flatMap_congr fun n hn => ?_
      have hvalid := isValidChar_of_mem_decompose (Text.isValidChar_toNat c) hn
      exact asciiOf_of_mem_decompose hn hvalid (notMem_spelledLetters hspelled hlost hn)

theorem length_asciiOf_lt {c : Char} (h : c ∈ lostLetters) :
    (asciiOf (.char c)).length < (asciiOfParts (.char c)).length := by
  have hall : lostLetters.all (fun c =>
      Nat.blt (asciiOf (.char c)).length (asciiOfParts (.char c)).length) = true := by
    decide +kernel
  simpa using List.all_eq_true.mp hall c h

theorem length_asciiOf_le (p : CodePoint) : (asciiOf p).length ≤ (asciiOfParts p).length := by
  by_cases h : ∀ c ∈ lostLetters, p ≠ .char c
  · rw [asciiOfParts_of_notMem h]
  · obtain ⟨c, hc, rfl⟩ : ∃ c ∈ lostLetters, p = .char c := by simpa using h
    exact (length_asciiOf_lt hc).le

/-! ## 3. Texts -/

/-- Lost letters leave less than their parts, and all else as much. -/
theorem flatMap_asciiOfParts_iff {t : Text} :
    t.flatMap asciiOfParts = t.flatMap asciiOf ↔ ∀ c ∈ lostLetters, .char c ∉ t := by
  constructor
  · intro h c hc hmem
    have hlt : (t.map fun p => (asciiOf p).length).sum
        < (t.map fun p => (asciiOfParts p).length).sum :=
      List.sum_lt_sum _ _ (fun p _ => length_asciiOf_le p) ⟨.char c, hmem, length_asciiOf_lt hc⟩
    have hlength := congrArg List.length h
    rw [List.length_flatMap, List.length_flatMap] at hlength
    omega
  · intro h
    exact List.flatMap_congr fun p hp => asciiOfParts_of_notMem fun c hc heq => h c hc (heq ▸ hp)

/-- **Accents written in two ways.**  A text and its normalised form are the same in ASCII exactly if
none of the lost letters occurs in the text.  So two spellings of a text, which are normalised to the
same text, have the same ASCII, words, slug and title, unless one of those letters occurs in them. -/
theorem transliterate_normalized (t : Text) :
    (transliterate (Text.normalized t) = transliterate t ↔ ∀ c ∈ lostLetters, .char c ∉ t) ∧
    ∀ u : Text, Text.normalized u = Text.normalized t →
      (∀ c ∈ lostLetters, .char c ∉ t ∧ .char c ∉ u) →
        transliterate u = transliterate t ∧ split u = split t ∧ slugify u = slugify t ∧
        humanize u = humanize t := by
  have hiff (t : Text) :
      transliterate (Text.normalized t) = transliterate t ↔ ∀ c ∈ lostLetters, .char c ∉ t := by
    rw [transliterate_normalized_eq, transliterate_eq_flatMap]
    exact flatMap_asciiOfParts_iff
  refine ⟨hiff t, fun u hsame hnone => ?_⟩
  have hascii : transliterate u = transliterate t := by
    rw [← (hiff u).mpr fun c hc => (hnone c hc).2, ← (hiff t).mpr fun c hc => (hnone c hc).1, hsame]
  refine ⟨hascii, ?_, ?_, ?_⟩
  · unfold split
    rw [hascii]
  · unfold slugify
    rw [hascii]
  · unfold humanize
    rw [hascii]

/-- The name of a town, with the accents in the letters and with the accents after them. -/
theorem transliterate_normalized_town :
    Text.normalized "Ło\u0301dz\u0301" = Text.normalized "Łódź" ∧
    slugify "Ło\u0301dz\u0301" = slugify "Łódź" := by
  have hsame : Text.normalized "Ło\u0301dz\u0301" = Text.normalized "Łódź" := by decide +kernel
  have hnone : lostLetters.all (fun c => !(Text.ofString "Łódź").contains (.char c) &&
      !(Text.ofString "Ło\u0301dz\u0301").contains (.char c)) = true := by
    decide +kernel
  refine ⟨hsame, ((transliterate_normalized "Łódź").2 "Ło\u0301dz\u0301" hsame fun c hc => ?_).2.2.1⟩
  simpa using List.all_eq_true.mp hnone c hc

/-- **Not every text is the same in ASCII as its normalised form**: `ǿ` is dropped, but `ø` with an
accent is spelled `o`. -/
theorem not_transliterate_normalized_slashed :
    transliterate "ǿ" = [] ∧ transliterate (Text.normalized "ǿ") = ['o'] ∧
    ¬ ∀ t : Text, transliterate (Text.normalized t) = transliterate t := by
  have hletter : transliterate "ǿ" = [] := by decide +kernel
  have hparts : transliterate (Text.normalized "ǿ") = ['o'] := by decide +kernel
  refine ⟨hletter, hparts, fun h => ?_⟩
  have hsame := h "ǿ"
  rw [hparts, hletter] at hsame
  cases hsame

end ApiDocs.Slug
