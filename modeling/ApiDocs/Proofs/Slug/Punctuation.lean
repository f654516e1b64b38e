import ApiDocs.Proofs.Slug.Ascii
import ApiDocs.Proofs.Slug.Boundaries
import ApiDocs.Proofs.Slug.Projection

/-!
# Punctuation between words

Two texts with punctuation between them have the words of the one and then the words of the other,
as far as the punctuation is still there when the words are looked for.  That of ASCII always is.
Of the hyphens, dashes, quotation marks, bullets and dots from U+2010 to U+2027 only four leave
something in ASCII (`isKept`): the double low line leaves a space, and one, two or three dots in one
character leave that many dots.  All others are dropped like unknown letters, and what stands around
them runs together: `2020–2021` with an en dash is the one word `20202021`.

* `words_concat_iff`: two texts of ASCII, one right after the other, have the words of both exactly
  if there is a seam between them (`Parted`).
* `split_punctuation`: the words and the slug around any punctuation, and exactly when it separates.
-/

namespace ApiDocs.Slug

/-! ## 1. Separators -/

theorem words_drop {separators : List Char} (h : ∀ c ∈ separators, isWordChar c = false)
    (cs : List Char) : words (separators ++ cs) = words cs := by
  induction separators with
  | nil => rfl
  | cons c separators ih =>
    obtain ⟨hc, hrest⟩ := List.forall_mem_cons.mp h
    rw [List.cons_append, words, wordsFrom_separator hc, ih hrest]
    rfl

/-- One or more separators separate. -/
theorem words_separated {separators : List Char} (hne : separators ≠ [])
    (h : ∀ c ∈ separators, isWordChar c = false) (as bs : List Char) :
    words (as ++ (separators ++ bs)) = words as ++ words bs := by
  cases separators with
  | nil => exact absurd rfl hne
  | cons c separators =>
    obtain ⟨hc, hrest⟩ := List.forall_mem_cons.mp h
    rw [List.cons_append, words_append hc, words_drop hrest]

/-! ## 2. One text right after another -/

/-- No word goes on from the first of two texts into the second. -/
def Parted (cs ds : List Char) : Prop := cs = [] ∨ ds = [] ∨ isSeam cs.reverse ds = true

/-- What comes after the first text matters for its last character only where no seam follows. -/
theorem joins_of_isSeam {c : Char} {word before ds : List Char} (hfits : Fits word before (c :: ds))
    (hseam : isSeam (c :: before) ds = true) :
    joins word c ds.head? = joins word c none := by
  cases ds with
  | nil => rfl
  | cons b bs =>
    cases hb : b.isLower with
    | false => exact joins_of_not_isLower hb
    | true =>
      cases hfits with
      | nil _ => rfl
      | @cons a word before _ ha h =>
        cases hu : c.isUpper with
        | false => simp [joins, hu]
        | true =>
          cases hcapital : a.isUpper with
          | false => simp [joins, hcapital]
          | true =>
            -- a small letter after two capitals: the word has the second one only if it is the first
            have hword := isEmpty_of_capital (.cons ha h) hcapital hu
            have hplace : startsCapital before = false := by
              simpa [isSeam, isEdge_of_isUpper hu (Or.inr hb), of_isLower hb, hcapital, hb, hu]
                using hseam
            rw [hplace, Bool.not_false] at hword
            simp [joins, hword]

/-- **Across a seam nothing is joined.** -/
theorem wordsFrom_concat {ds : List Char} : ∀ {cs word before : List Char},
    Fits word before (cs ++ ds) → isSeam (cs.reverse ++ before) ds = true →
      wordsFrom word (cs ++ ds) = wordsFrom word cs ++ words ds
  | [], word, before, hfits, hseam => by
    cases ds with
    | nil => cases before <;> cases hseam
    | cons b bs =>
      cases hb : isWordChar b with
      | false =>
        rw [List.nil_append, wordsFrom_separator hb, words, words, wordsFrom_separator hb]
        rfl
      | true =>
        cases hfits with
        | nil _ => rfl
        | cons ha h =>
          have hjoins := joins_eq_not_isSeam (.cons ha h) hb
          rw [List.reverse_nil, List.nil_append] at hseam
          rw [hseam, Bool.not_true] at hjoins
          rw [List.nil_append, wordsFrom_fresh hb hjoins, words_cons hb]
          rfl
  | c :: cs, word, before, hfits, hseam => by
    have hrest : isSeam (cs.reverse ++ c :: before) ds = true := by simpa using hseam
    rw [List.cons_append]
    cases hc : isWordChar c with
    | false =>
      have hnil : Fits [] (c :: before) (cs ++ ds) := .nil (by simpa using hc)
      rw [wordsFrom_separator hc, wordsFrom_separator hc, words, wordsFrom_concat hnil hrest,
        List.append_assoc]
      rfl
    | true =>
      have hnext : joins word c (cs ++ ds).head? = joins word c cs.head? := by
        cases cs with
        | nil => exact joins_of_isSeam hfits hseam
        | cons d cs => rfl
      cases hjoins : joins word c cs.head? with
      | false =>
        rw [wordsFrom_fresh hc (hnext.trans hjoins), wordsFrom_fresh hc hjoins,
          wordsFrom_concat (hfits.fresh hc (hnext.trans hjoins)) hrest, List.append_assoc]
      | true =>
        rw [wordsFrom_join hc (hnext.trans hjoins), wordsFrom_join hc hjoins,
          wordsFrom_concat (hfits.join hc (hnext.trans hjoins)) hrest]

/-- An unfinished word is the start of the first word. -/
theorem exists_wordsFrom : ∀ {cs word : List Char}, word ≠ [] →
    ∃ w ws, wordsFrom word cs = (word.reverse ++ w) :: ws
  | [], c :: word, _ => ⟨[], [], by simp [wordsFrom, finish]⟩
  | c :: cs, d :: word, _ => by
    cases hc : isWordChar c with
    | false => exact ⟨[], words cs, by simp [wordsFrom_separator hc, finish]⟩
    | true =>
      cases hjoins : joins (d :: word) c cs.head? with
      | false => exact ⟨[], wordsFrom [c] cs, by simp [wordsFrom_fresh hc hjoins, finish]⟩
      | true =>
        obtain ⟨w, ws, hws⟩ := @exists_wordsFrom cs (c :: d :: word) (List.cons_ne_nil _ _)
        exact ⟨c :: w, ws, by simp [wordsFrom_join hc hjoins, hws]⟩

/-- A finished word is all or nothing in a first part of a list of words. -/
theorem length_flatten_of_finish {word : List Char} {ws us vs : List (List Char)} {n : Nat}
    (h : finish word ++ ws = us ++ vs) (hlength : us.flatten.length = word.length + n) :
    ∃ us', ws = us' ++ vs ∧ us'.flatten.length = n := by
  cases word with
  | nil => exact ⟨us, h, by simpa using hlength⟩
  | cons c word =>
    cases us with
    | nil =>
      rw [List.flatten_nil, List.length_nil, List.length_cons] at hlength
      omega
    | cons u us =>
      obtain ⟨rfl, rfl⟩ : (c :: word).reverse = u ∧ ws = us ++ vs := by simpa [finish] using h
      refine ⟨us, rfl, ?_⟩
      rw [List.flatten_cons, List.length_append, List.length_reverse] at hlength
      omega

/-- **Without a seam a word goes on**: no first part of the words ends with the first text. -/
theorem length_flatten_ne {ds : List Char} (hds : ds ≠ []) : ∀ {cs word before : List Char},
    Fits word before (cs ++ ds) → cs.reverse ++ before ≠ [] →
      isSeam (cs.reverse ++ before) ds = false → ∀ {us vs}, wordsFrom word (cs ++ ds) = us ++ vs →
        us.flatten.length ≠ word.length + (cs.filter isWordChar).length
  | [], word, a :: before, hfits, _, hseam, us, vs, hwords => by
    cases ds with
    | nil => exact absurd rfl hds
    | cons b bs =>
      have hplace : isWordChar a = true ∧ isWordChar b = true := by
        by_contra hnot
        rw [not_and_or, Bool.not_eq_true, Bool.not_eq_true] at hnot
        exact absurd (isSeam_of_not_isWordChar hnot) (by simpa using hseam)
      cases hfits with
      | nil h => simp [hplace.1] at h
      | @cons _ word _ _ ha h =>
        have hjoins : joins (a :: word) b bs.head? = true := by
          rw [joins_eq_not_isSeam (.cons ha h) hplace.2, Bool.not_eq_true']
          exact hseam
        obtain ⟨w, ws, hws⟩ :=
          @exists_wordsFrom bs (b :: a :: word) (List.cons_ne_nil _ _)
        rw [List.nil_append, wordsFrom_join hplace.2 hjoins, hws] at hwords
        cases us with
        | nil => simp
        | cons u us =>
          obtain ⟨rfl, -⟩ := List.cons.inj hwords
          simp only [List.flatten_cons, List.length_append, List.length_reverse, List.length_cons,
            List.filter_nil, List.length_nil]
          omega
  | c :: cs, word, before, hfits, _, hseam, us, vs, hwords => by
    intro hlength
    have hrest : isSeam (cs.reverse ++ c :: before) ds = false := by simpa using hseam
    rw [List.cons_append] at hwords
    cases hc : isWordChar c with
    | false =>
      have hnil : Fits [] (c :: before) (cs ++ ds) := .nil (by simpa using hc)
      rw [wordsFrom_separator hc] at hwords
      rw [List.filter_cons_of_neg (by simp [hc])] at hlength
      obtain ⟨us', hwords', hlength'⟩ := length_flatten_of_finish hwords hlength
      exact length_flatten_ne hds hnil (by simp) hrest hwords' (by simpa using hlength')
    | true =>
      rw [List.filter_cons_of_pos hc, List.length_cons] at hlength
      cases hjoins : joins word c (cs ++ ds).head? with
      | false =>
        rw [wordsFrom_fresh hc hjoins] at hwords
        obtain ⟨us', hwords', hlength'⟩ := length_flatten_of_finish hwords hlength
        refine length_flatten_ne hds (hfits.fresh hc hjoins) (by simp) hrest hwords' ?_
        rw [hlength', List.length_singleton, Nat.add_comm]
      | true =>
        rw [wordsFrom_join hc hjoins] at hwords
        refine length_flatten_ne hds (hfits.join hc hjoins) (by simp) hrest hwords ?_
        rw [hlength, List.length_cons]
        omega

/-- **Two texts have the words of both exactly if no word goes on between them.** -/
theorem words_concat_iff {cs ds : List Char} :
    words (cs ++ ds) = words cs ++ words ds ↔ Parted cs ds := by
  have hfits : Fits [] [] (cs ++ ds) := .nil (by simp)
  constructor
  · intro h
    by_contra hnot
    simp only [Parted, not_or, Bool.not_eq_true] at hnot
    obtain ⟨hcs, hds, hseam⟩ := hnot
    refine length_flatten_ne hds hfits (by simpa using hcs) (by simpa using hseam) h ?_
    rw [flatten_words, List.length_nil, Nat.zero_add]
  · rintro (rfl | rfl | hseam)
    · rfl
    · rw [List.append_nil, show words [] = [] from rfl, List.append_nil]
    · exact wordsFrom_concat hfits (by simpa using hseam)

/-! ## 3. Slugs of parts -/

/-- The slugs that are not empty, with hyphens between them. -/
def hyphenated (slugs : List String) : String :=
  joined '-' ((slugs.map String.toList).filter (fun s => !s.isEmpty))

theorem intercalate_append {separator : List Char} {xs ys : List (List Char)} (hxs : xs ≠ [])
    (hys : ys ≠ []) : List.intercalate separator (xs ++ ys)
      = List.intercalate separator xs ++ separator ++ List.intercalate separator ys := by
  induction xs with
  | nil => exact absurd rfl hxs
  | cons x xs ih =>
    cases xs with
    | nil => rw [List.singleton_append, List.intercalate_cons_of_ne_nil hys,
        List.intercalate_singleton]
    | cons x' xs =>
      rw [List.cons_append, List.intercalate_cons_of_ne_nil (by simp), ih (List.cons_ne_nil _ _),
        List.intercalate_cons_cons]
      simp only [List.append_assoc]

/-- A list of words and one more list of words, each joined on its own. -/
theorem hyphenated_joined {xs ys : List (List Char)} (hxs : ∀ w ∈ xs, IsWord w)
    (hys : ∀ w ∈ ys, IsWord w) :
    hyphenated [joined '-' xs, joined '-' ys] = joined '-' (xs ++ ys) := by
  have hempty {ws : List (List Char)} (hws : ∀ w ∈ ws, IsWord w) (hne : ws ≠ []) :
      List.intercalate ['-'] ws ≠ [] := fun hnil => hne <| by
    have hwords : words (List.intercalate ['-'] ws) = ws := words_intercalate rfl hws
    rw [← hwords, hnil]
    rfl
  unfold hyphenated joined
  simp only [List.map_cons, List.map_nil, String.toList_ofList]
  congr 1
  by_cases hnx : xs = []
  · by_cases hny : ys = []
    · simp [hnx, hny]
    · simp [hnx, hempty hys hny]
  · by_cases hny : ys = []
    · simp [hny, hempty hxs hnx]
    · rw [intercalate_append hnx hny]
      simp [hempty hxs hnx, hempty hys hny]

/-! ## 4. Punctuation -/

/-- A character of ASCII that is neither letter nor digit, or one of the hyphens, dashes, quotation
marks, bullets and dots of the block of general punctuation. -/
def isPunctuation (c : Char) : Bool :=
  (isAscii c && !isWordChar c) || (0x2010 ≤ c.toNat && c.toNat ≤ 0x2027)

/-- Punctuation that is not dropped: that of ASCII, the double low line, and the characters with one,
two and three dots. -/
def isKept (c : Char) : Bool := isAscii c || ['\u2017', '\u2024', '\u2025', '\u2026'].contains c

/-- Punctuation leaves separators, or nothing if it is not kept. -/
theorem asciiOf_punctuation {c : Char} (hc : isPunctuation c = true) :
    (∀ d ∈ asciiOf (.char c), isWordChar d = false) ∧
      (asciiOf (.char c) = [] ↔ isKept c = false) := by
  have hblock : ∀ n < 24,
      (asciiOf (.char (Char.ofNat (0x2010 + n)))).all (fun d => !isWordChar d) = true ∧
      (asciiOf (.char (Char.ofNat (0x2010 + n)))).isEmpty = !isKept (Char.ofNat (0x2010 + n)) := by
    decide +kernel
  have hplace : (asciiOf (.char c)).all (fun d => !isWordChar d) = true ∧
      (asciiOf (.char c)).isEmpty = !isKept c := by
    unfold isPunctuation at hc
    rw [Bool.or_eq_true, Bool.and_eq_true, Bool.and_eq_true] at hc
    rcases hc with ⟨hascii, hword⟩ | hrange
    · simpa [asciiOf_ascii hascii, isKept, hascii] using hword
    · obtain ⟨hfirst, hlast⟩ := hrange.imp of_decide_eq_true of_decide_eq_true
      have hnumber : Char.ofNat (0x2010 + (c.toNat - 0x2010)) = c := by
        rw [Nat.add_sub_cancel' hfirst, Char.ofNat_toNat]
      rw [← hnumber]
      exact hblock _ (by omega)
  refine ⟨by simpa using hplace.1, ?_⟩
  rw [← List.isEmpty_iff, hplace.2, Bool.not_eq_true']

/-- **Words around punctuation.**  Punctuation that is kept stands between the words of the text
before it and those of the text after it, and the slug is that of the one, a hyphen, and that of the
other, whichever punctuation it was.  Any other punctuation is as good as nothing: the two texts run
together, and the words are those of both only if none goes on between them. -/
theorem split_punctuation (a b : Text) {c : Char} (hc : isPunctuation c = true) :
    split (a ++ .char c :: b) = (if isKept c then split a ++ split b else split (a ++ b)) ∧
    slugify (a ++ .char c :: b)
      = (if isKept c then hyphenated [slugify a, slugify b] else slugify (a ++ b)) ∧
    (split (a ++ .char c :: b) = split a ++ split b ↔
      isKept c = true ∨ Parted (transliterate a) (transliterate b)) := by
  obtain ⟨hseparators, hnil⟩ := asciiOf_punctuation hc
  have hwords : words (transliterate (a ++ .char c :: b))
      = if isKept c then words (transliterate a) ++ words (transliterate b)
        else words (transliterate (a ++ b)) := by
    rw [transliterate_concat, transliterate_cons]
    split
    · next hkept => exact words_separated (by simp [hnil, hkept]) hseparators _ _
    · next hkept =>
      rw [hnil.mpr (Bool.not_eq_true _ ▸ hkept), List.nil_append, transliterate_concat]
  refine ⟨?_, ?_, ?_⟩
  · unfold split
    rw [hwords]
    split <;> simp
  · rw [slugify_eq_joined, hwords]
    split
    · rw [slugify_eq_joined, slugify_eq_joined, List.map_append,
        hyphenated_joined isWord_of_mem_toLower isWord_of_mem_toLower]
    · rfl
  · have hinj : Function.Injective (List.map String.ofList) :=
      List.map_injective_iff.mpr fun _ _ h => String.ofList_injective h
    unfold split
    rw [← List.map_append, hinj.eq_iff, hwords]
    split
    · next hkept => simp [hkept]
    · next hkept => rw [transliterate_concat, words_concat_iff, or_iff_right hkept]

/-- Two years with a character between them. -/
def years (c : Char) : Text := Text.ofString "2020" ++ .char c :: Text.ofString "2021"

/-- Two years with an en dash between them are one word, and with an ellipsis two. -/
theorem split_punctuation_years :
    isPunctuation '–' = true ∧ split (years '–') = split (Text.ofString "20202021") ∧
    isPunctuation '…' = true ∧ slugify (years '…') = hyphenated ["2020", "2021"] := by
  have hdash := (split_punctuation "2020" "2021" (c := '–') (by decide)).1
  have hdots := (split_punctuation "2020" "2021" (c := '…') (by decide)).2.1
  have hfirst : slugify "2020" = "2020" := by decide +kernel
  have hsecond : slugify "2021" = "2021" := by decide +kernel
  refine ⟨by decide, hdash, by decide, ?_⟩
  rw [hfirst, hsecond] at hdots
  exact hdots

/-- **Not all punctuation separates**: an en dash between two years does not. -/
theorem not_split_punctuation_dash :
    split (years '–') = ["20202021"] ∧
    ¬ ∀ (a b : Text) (c : Char), isPunctuation c = true →
      split (a ++ .char c :: b) = split a ++ split b := by
  have hdash : split (years '–') = ["20202021"] := by decide +kernel
  refine ⟨hdash, fun h => ?_⟩
  have hparts : split (years '–') = split "2020" ++ split "2021" := h "2020" "2021" '–' (by decide)
  rw [hdash] at hparts
  exact absurd hparts (by decide +kernel)

end ApiDocs.Slug
