import ApiDocs.Proofs.Slug.Transliteration
import ApiDocs.Proofs.Slug.Words
import ApiDocs.Proofs.Text.Strings

/-!
# Slugs are made once

The slug of a text is its words in small letters with hyphens between them, and making a slug of a
slug changes nothing.  The reason is that words that are joined with a separator are read as the
same words again (`words_joined`), whether they are small or not: a word in small letters is a word
(`IsWord.toLower`), and nothing of a joined text is lost when it is transliterated.

`slugify_spec` puts together what a slug is: the letters and digits of a text in ASCII, none lost
and none repeated, cut into words, each block of the slug the small letters of one of them.
-/

namespace ApiDocs.Slug

/-! ## 1. Joined words -/

theorem isAscii_of_isWordChar {c : Char} (h : isWordChar c = true) : isAscii c = true := by
  have htoNat : c.toNat = c.val.toNat := rfl
  simp [isWordChar, Char.isUpper, Char.isLower, Char.isDigit, UInt32.le_iff_toNat_le] at h
  rw [isAscii, decide_eq_true_eq]
  omega

/-- A text of words with a separator between two. -/
def joined (separator : Char) (ws : List (List Char)) : String :=
  String.ofList (List.intercalate [separator] ws)

theorem slugify_eq_joined (t : Text) :
    slugify t = joined '-' ((words (transliterate t)).map (List.map Char.toLower)) := rfl

theorem humanize_eq_joined (t : Text) :
    humanize t = joined ' ' ((words (transliterate t)).map capitalize) := rfl

section

variable {separator : Char} {ws : List (List Char)}

/-- Joined words are ASCII. -/
theorem transliterate_joined (hascii : isAscii separator = true) (h : ∀ w ∈ ws, IsWord w) :
    transliterate (joined separator ws) = List.intercalate [separator] ws := by
  unfold joined
  rw [Text.ofString_ofList]
  refine transliterate_ofChars fun c hc => ?_
  rcases Text.mem_intercalate hc with hc | ⟨w, hw, hc⟩
  · obtain rfl := List.mem_singleton.mp hc
    exact hascii
  · exact isAscii_of_isWordChar ((h w hw).isWordChar hc)

/-- **Joined words are read as the same words.** -/
theorem words_joined (hascii : isAscii separator = true) (hseparator : isWordChar separator = false)
    (h : ∀ w ∈ ws, IsWord w) : words (transliterate (joined separator ws)) = ws := by
  rw [transliterate_joined hascii h, words_intercalate hseparator h]

theorem joined_eq_empty (hseparator : isWordChar separator = false) (h : ∀ w ∈ ws, IsWord w) :
    joined separator ws = "" ↔ ws = [] := by
  constructor
  · intro hempty
    have hchars : List.intercalate [separator] ws = [] := by
      simpa [joined] using congrArg String.toList hempty
    rw [← words_intercalate hseparator h, hchars]
    rfl
  · rintro rfl
    rfl

end

/-! ## 2. Small words -/

theorem isLower_toLower {c : Char} (h : c.isUpper = true ∨ c.isLower = true) :
    c.toLower.isLower = true := by
  rw [Char.isLower_toLower_eq_isAlpha, Char.isAlpha, Bool.or_eq_true]
  exact h

theorem toLower_of_isDigit {c : Char} (h : c.isDigit = true) : c.toLower = c :=
  Char.toLower_eq_of_not_isUpper (by simp [of_isDigit h])

/-- The characters of a word in small letters are all small letters or all digits. -/
theorem IsWord.toLower_cases {w : List Char} (h : IsWord w) :
    (∀ c ∈ w.map Char.toLower, c.isLower = true) ∨ ∀ c ∈ w.map Char.toLower, c.isDigit = true := by
  simp only [List.forall_mem_map]
  cases h with
  | capitals _ h => exact Or.inl fun c hc => isLower_toLower (Or.inl (h c hc))
  | small _ h => exact Or.inl fun c hc => isLower_toLower (Or.inr (h c hc))
  | capitalized hd _ h =>
    refine Or.inl (List.forall_mem_cons.mpr ⟨isLower_toLower (Or.inl hd), fun c hc => ?_⟩)
    exact isLower_toLower (Or.inr (h c hc))
  | number _ h =>
    refine Or.inr fun c hc => ?_
    rw [toLower_of_isDigit (h c hc)]
    exact h c hc

/-- **A word in small letters is a word.** -/
theorem IsWord.toLower {w : List Char} (h : IsWord w) : IsWord (w.map Char.toLower) := by
  have hne : w.map Char.toLower ≠ [] := fun hnil => h.ne_nil (List.map_eq_nil_iff.mp hnil)
  rcases h.toLower_cases with hsmall | hdigits
  · exact .small hne hsmall
  · exact .number hne hdigits

theorem isWord_of_mem_toLower {cs : List Char} :
    ∀ w ∈ (words cs).map (List.map Char.toLower), IsWord w :=
  List.forall_mem_map.mpr fun _ hw => (isWord_of_mem_words hw).toLower

theorem toLower_ofList (w : List Char) :
    (String.ofList w).toLower = String.ofList (w.map Char.toLower) := by
  rw [← String.toList_inj, String.toLower, String.toList_map, String.toList_ofList,
    String.toList_ofList]

/-! ## 3. Slugs -/

/-- The slug of a text has the words of the text, in small letters. -/
theorem words_slugify (t : Text) :
    words (transliterate (slugify t)) = (words (transliterate t)).map (List.map Char.toLower) := by
  rw [slugify_eq_joined, words_joined (by decide) (by decide) isWord_of_mem_toLower]

/-- A slug is empty if and only if there are no words. -/
theorem slugify_eq_empty {t : Text} : slugify t = "" ↔ words (transliterate t) = [] := by
  rw [slugify_eq_joined, joined_eq_empty (by decide) isWord_of_mem_toLower, List.map_eq_nil_iff]

theorem words_eq_nil {cs : List Char} : words cs = [] ↔ ∀ c ∈ cs, isWordChar c = false := by
  constructor
  · intro hnil c hc
    have hflatten := flatten_words cs
    rw [hnil, List.flatten_nil, eq_comm, List.filter_eq_nil_iff] at hflatten
    simpa using hflatten c hc
  · intro h
    have hflatten := flatten_words cs
    rw [List.filter_eq_nil_iff.mpr fun c hc => by simp [h c hc],
      List.flatten_eq_nil_iff] at hflatten
    refine List.eq_nil_iff_forall_not_mem.mpr fun w hw => ?_
    exact (isWord_of_mem_words hw).ne_nil (hflatten w hw)

/-- One or more blocks with single hyphens between them, each all small letters or all digits. -/
def IsSlug (s : String) : Prop :=
  ∃ blocks : List (List Char), blocks ≠ [] ∧
    (∀ block ∈ blocks, block ≠ [] ∧
      ((∀ c ∈ block, c.isLower = true) ∨ ∀ c ∈ block, c.isDigit = true)) ∧
    s.toList = List.intercalate ['-'] blocks

theorem isSlug_slugify {t : Text} (h : slugify t ≠ "") : IsSlug (slugify t) := by
  rw [slugify_eq_empty.ne] at h
  refine ⟨(words (transliterate t)).map (List.map Char.toLower), by simpa using h, ?_,
    String.toList_ofList⟩
  refine List.forall_mem_map.mpr fun w hw => ?_
  have hword := isWord_of_mem_words hw
  exact ⟨fun hnil => hword.ne_nil (List.map_eq_nil_iff.mp hnil), hword.toLower_cases⟩

/-- Making a slug of a slug changes nothing. -/
theorem slugify_slugify (t : Text) : slugify (slugify t) = slugify t := by
  rw [slugify_eq_joined (slugify t), words_slugify, slugify_eq_joined, List.map_map]
  congr 1
  exact List.map_congr_left fun w _ => by simp

/-- **Words and slugs.**  The words of a text are its letters and digits in ASCII, in order, none
lost and none repeated, and each has one of the three forms.  The slug is empty exactly if there is
no letter or digit; otherwise it is one or more blocks with single hyphens between them, each all
small letters or all digits.  The words of a slug are the words of the text in small letters, and so
the slug of a slug is the slug. -/
theorem slugify_spec (t : Text) :
    ((split t).map String.toList).flatten = (transliterate t).filter isWordChar ∧
    (∀ w ∈ split t, IsWord w.toList) ∧
    (slugify t = "" ↔ ∀ c ∈ transliterate t, isWordChar c = false) ∧
    (slugify t = "" ∨ IsSlug (slugify t)) ∧
    split (slugify t) = (split t).map String.toLower ∧
    slugify (slugify t) = slugify t := by
  refine ⟨?_, ?_, slugify_eq_empty.trans words_eq_nil, ?_, ?_, ?_⟩
  · unfold split
    rw [List.map_map, ← flatten_words]
    exact congrArg _ ((List.map_congr_left fun w _ => String.toList_ofList).trans (List.map_id _))
  · refine List.forall_mem_map.mpr fun w hw => ?_
    rw [String.toList_ofList]
    exact isWord_of_mem_words hw
  · exact or_iff_not_imp_left.mpr isSlug_slugify
  · unfold split
    rw [words_slugify, List.map_map, List.map_map]
    exact List.map_congr_left fun w _ => (toLower_ofList w).symm
  · exact slugify_slugify t

/-! ## 4. Titles -/

/-- A letter as a capital with small letters after it. -/
theorem isWord_capitalized {c : Char} {cs : List Char} (hc : c.isUpper = true ∨ c.isLower = true)
    (h : ∀ d ∈ cs, d.isLower = true) : IsWord (c.toUpper :: cs.map Char.toLower) := by
  have hcapital : c.toUpper.isUpper = true := by
    rw [Char.isUpper_toUpper_eq_isAlpha, Char.isAlpha, Bool.or_eq_true]
    exact hc
  cases cs with
  | nil => exact isWord_singleton (by simp [isWordChar, hcapital])
  | cons d ds =>
    exact .capitalized hcapital (List.cons_ne_nil _ _)
      (List.forall_mem_map.mpr fun e he => isLower_toLower (Or.inr (h e he)))

/-- **A word of a title is a word.** -/
theorem IsWord.capitalize {w : List Char} (h : IsWord w) : IsWord (Slug.capitalize w) := by
  unfold Slug.capitalize
  split
  · exact h
  next hnot =>
    cases h with
    | capitals _ h => exact absurd (List.all_eq_true.mpr h) hnot
    | capitalized hc _ h => exact isWord_capitalized (Or.inl hc) h
    | small hne h =>
      cases w with
      | nil => exact absurd rfl hne
      | cons c cs =>
        obtain ⟨hc, hcs⟩ := List.forall_mem_cons.mp h
        exact isWord_capitalized (Or.inr hc) hcs
    | number hne h =>
      cases w with
      | nil => exact absurd rfl hne
      | cons c cs =>
        -- digits have no case
        obtain ⟨hc, hcs⟩ := List.forall_mem_cons.mp h
        have hfirst : c.toUpper = c := Char.toUpper_eq_of_not_isLower (by simp [of_isDigit hc])
        have hrest : cs.map Char.toLower = cs :=
          (List.map_congr_left fun d hd => toLower_of_isDigit (hcs d hd)).trans (List.map_id' cs)
        show IsWord (c.toUpper :: cs.map Char.toLower)
        rw [hfirst, hrest]
        exact .number hne h

theorem map_toLower_capitalize (w : List Char) :
    (capitalize w).map Char.toLower = w.map Char.toLower := by
  unfold capitalize
  split
  · rfl
  · cases w with
    | nil => rfl
    | cons c cs => simp

/-- The title of a text has the words of the text, capitalised. -/
theorem words_humanize (t : Text) :
    words (transliterate (humanize t)) = (words (transliterate t)).map capitalize := by
  rw [humanize_eq_joined, words_joined (by decide) (by decide)
    (List.forall_mem_map.mpr fun _ hw => (isWord_of_mem_words hw).capitalize)]

/-- **A title has the slug of the text.** -/
theorem slugify_humanize (t : Text) : slugify (humanize t) = slugify t := by
  rw [slugify_eq_joined, words_humanize, slugify_eq_joined, List.map_map]
  congr 1
  exact List.map_congr_left fun w _ => map_toLower_capitalize w

theorem humanize_eq_empty {t : Text} : humanize t = "" ↔ slugify t = "" := by
  rw [humanize_eq_joined, joined_eq_empty (by decide)
    (List.forall_mem_map.mpr fun _ hw => (isWord_of_mem_words hw).capitalize),
    List.map_eq_nil_iff, slugify_eq_empty]

end ApiDocs.Slug
