import ApiDocs.Proofs.Slug.Words

/-!
# Where words are cut

`words` reads a text once and decides with each character whether it goes on with the word before
it.  The rule of camelCase is said differently, by the places between two characters at which a text
is cut (`isHump`): around everything that is neither letter nor digit, between a letter and a digit,
between a small letter and a capital, and before the last of several capitals if a small letter
follows it.  `wordsBy` cuts a text by such a rule and drops what is neither letter nor digit.

**Two capitals.**  What is cut here is not quite camelCase (`isSeam`).  Of three or more capitals
before a small letter the last one starts a word, but of exactly two it does not: they stay
together, and the small letters after them are a word of their own (`getAFood` is `get`, `AF`,
`ood`).

* `words_eq_wordsBy`: `isSeam` is the rule by which texts are cut.
* `wordsBy_eq_iff`: two rules give the same words of a text only if they agree on every place in it.
* `split_cuts`: so the words are those of camelCase exactly for the texts without such a pair of
  capitals (`HasPair`).
-/

namespace ApiDocs.Slug

/-! ## 1. Rules -/

/-- Two characters between which every rule cuts. -/
def isEdge (a b : Char) : Bool :=
  !isWordChar a || !isWordChar b
    || (a.isAlpha && b.isDigit) || (a.isDigit && b.isAlpha)
    || (a.isLower && b.isUpper)

/-- Whether a text starts with a small letter. -/
def startsSmall (cs : List Char) : Bool := cs.head?.any Char.isLower

/-- Whether a text starts with a capital. -/
def startsCapital (cs : List Char) : Bool := cs.head?.any Char.isUpper

@[simp] theorem startsSmall_cons (c : Char) (cs : List Char) :
    startsSmall (c :: cs) = c.isLower := rfl

@[simp] theorem startsCapital_cons (c : Char) (cs : List Char) :
    startsCapital (c :: cs) = c.isUpper := rfl

/-- **The rule of camelCase**, for the place between `before`, read backwards, and `after`. -/
def isHump : (before after : List Char) → Bool
  | a :: _, b :: after => isEdge a b || (a.isUpper && b.isUpper && startsSmall after)
  | _, _ => false

/-- **The rule by which texts are cut.**  A capital before a small letter starts a word only as the
third of several capitals or later, and the small letter starts one if there are exactly two. -/
def isSeam : (before after : List Char) → Bool
  | a :: before, b :: after =>
    isEdge a b || (a.isUpper && b.isUpper && startsSmall after && startsCapital before)
      || (a.isUpper && b.isLower && startsCapital before && !startsCapital before.tail)
  | _, _ => false

/-- The pieces of a text that follows `before`, read backwards; the first of them goes on with
`piece`. -/
def cutFrom (cut : List Char → List Char → Bool) :
    (before piece : List Char) → List Char → List (List Char)
  | _, piece, [] => [piece]
  | before, piece, c :: cs =>
    if cut before (c :: cs) then piece :: cutFrom cut (c :: before) [c] cs
    else cutFrom cut (c :: before) (piece ++ [c]) cs

/-- The letters and digits of pieces, without the pieces that have none. -/
def lettersOf (pieces : List (List Char)) : List (List Char) :=
  (pieces.map (fun piece => piece.filter isWordChar)).filter (fun word => !word.isEmpty)

/-- The words of a text that is cut by a rule. -/
def wordsBy (cut : List Char → List Char → Bool) (cs : List Char) : List (List Char) :=
  lettersOf (cutFrom cut [] [] cs)

/-- A piece is a word if it has letters or digits. -/
theorem lettersOf_cons {piece word : List Char} (h : piece.filter isWordChar = word.reverse)
    (pieces : List (List Char)) :
    lettersOf (piece :: pieces) = finish word ++ lettersOf pieces := by
  unfold lettersOf
  rw [List.map_cons, h]
  cases word <;> simp [finish]

/-! ## 2. The rule by which texts are cut -/

/-- What an unfinished word has to do with the text before it: it ends where the text before ends,
and whether its last capital is its first character can be told from the characters before that and
from the next one. -/
inductive Fits : (word before after : List Char) → Prop
  | nil {before after} (h : ∀ a ∈ before.head?, isWordChar a = false) : Fits [] before after
  | cons {a word before after} (ha : isWordChar a = true)
      (h : a.isUpper = true → word.isEmpty
        = (!startsCapital before || (startsSmall after && startsCapital before.tail))) :
      Fits (a :: word) (a :: before) after

/-- Where the word fits, a character joins it unless there is a seam. -/
theorem joins_eq_not_isSeam {a c : Char} {word before cs : List Char}
    (hfits : Fits (a :: word) (a :: before) (c :: cs)) (hc : isWordChar c = true) :
    joins (a :: word) c cs.head? = !isSeam (a :: before) (c :: cs) := by
  obtain _ | ⟨ha, h⟩ := hfits
  cases kind a <;> cases kind c <;>
    simp_all [joins, isSeam, isEdge, isWordChar, startsSmall, Char.isAlpha]
  grind

/-- What comes before a word that has not begun is no capital. -/
theorem startsCapital_of_not_isWordChar {cs : List Char}
    (h : ∀ a ∈ cs.head?, isWordChar a = false) : startsCapital cs = false := by
  cases cs with
  | nil => rfl
  | cons a cs =>
    have ha := h a rfl
    simp only [isWordChar, Bool.or_eq_false_iff] at ha
    exact ha.1.1

/-- A capital joins a capital; but if a small letter comes next, it joins no second one. -/
theorem joins_capital {a c : Char} {word cs : List Char} (hc : c.isUpper = true) :
    joins (a :: word) c cs.head? = (a.isUpper && (word.isEmpty || !startsSmall cs)) := by
  obtain ⟨hl, hd⟩ := of_isUpper hc
  simp [joins, startsSmall, hc, hl, hd]

/-- A capital that comes next says whether the word has one capital or several. -/
theorem isEmpty_of_capital {a c : Char} {word before cs : List Char}
    (hfits : Fits (a :: word) (a :: before) (c :: cs)) (ha : a.isUpper = true)
    (hc : c.isUpper = true) : word.isEmpty = !startsCapital before := by
  obtain _ | ⟨-, h⟩ := hfits
  simpa [of_isUpper hc] using h ha

/-- A word with one more character fits. -/
theorem Fits.join {c : Char} {word before cs : List Char} (hfits : Fits word before (c :: cs))
    (hc : isWordChar c = true) (hjoins : joins word c cs.head? = true) :
    Fits (c :: word) (c :: before) cs := by
  refine .cons hc fun hcapital => ?_
  cases word with
  | nil =>
    obtain h | _ := hfits
    simp [startsCapital_of_not_isWordChar h]
  | cons a word =>
    cases hfits with
    | @cons _ _ before _ ha h =>
      rw [joins_capital hcapital, Bool.and_eq_true] at hjoins
      have hword := isEmpty_of_capital (.cons ha h) hjoins.1 hcapital
      have hcapitals := hjoins.2
      rw [hword] at hcapitals
      cases hsmall : startsSmall cs <;> simp_all

/-- A word that starts with a character that does not join the word before it fits. -/
theorem Fits.fresh {c : Char} {word before cs : List Char} (hfits : Fits word before (c :: cs))
    (hc : isWordChar c = true) (hjoins : joins word c cs.head? = false) :
    Fits [c] (c :: before) cs := by
  refine .cons hc fun hcapital => ?_
  cases hfits with
  | nil h => simp [startsCapital_of_not_isWordChar h]
  | @cons a word before _ ha h =>
    rw [joins_capital hcapital] at hjoins
    cases hu : a.isUpper with
    | false => simp [hu]
    | true =>
      have hword := isEmpty_of_capital (.cons ha h) hu hcapital
      simp_all

/-- There is a seam around everything that is neither letter nor digit. -/
theorem isSeam_of_not_isWordChar {a c : Char} {before cs : List Char}
    (h : isWordChar a = false ∨ isWordChar c = false) : isSeam (a :: before) (c :: cs) = true := by
  rcases h with h | h <;> simp [isSeam, isEdge, h]

/-- What is cut along the seams is what is read as words. -/
theorem lettersOf_cutFrom_isSeam : ∀ {cs word before piece : List Char}, Fits word before cs →
    piece.filter isWordChar = word.reverse →
      lettersOf (cutFrom isSeam before piece cs) = wordsFrom word cs
  | [], word, before, piece, _, hpiece => by
    rw [cutFrom, lettersOf_cons hpiece, wordsFrom]
    exact List.append_nil _
  | c :: cs, word, before, piece, hfits, hpiece => by
    rw [cutFrom]
    cases hc : isWordChar c with
    | false =>
      have hnil : Fits [] (c :: before) cs := .nil (by simpa using hc)
      rw [wordsFrom_separator hc, words]
      split
      · rw [lettersOf_cons hpiece, lettersOf_cutFrom_isSeam hnil (by simp [hc])]
      · next hseam =>
        cases hfits with
        | nil h => exact lettersOf_cutFrom_isSeam hnil (by simp [hc, hpiece])
        | cons ha h => exact absurd (isSeam_of_not_isWordChar (Or.inr hc)) hseam
    | true =>
      cases hjoins : joins word c cs.head? with
      | false =>
        have hfresh := hfits.fresh hc hjoins
        rw [wordsFrom_fresh hc hjoins]
        cases hfits with
        | nil h => cases hjoins
        | cons ha h =>
          rw [joins_eq_not_isSeam (.cons ha h) hc, Bool.not_eq_false'] at hjoins
          rw [if_pos hjoins, lettersOf_cons hpiece, lettersOf_cutFrom_isSeam hfresh (by simp [hc])]
      | true =>
        have hjoin := hfits.join hc hjoins
        rw [wordsFrom_join hc hjoins]
        split
        · next hseam =>
          -- where a character joins and there is a seam, it is the first of its word
          cases hfits with
          | nil h =>
            rw [lettersOf_cons hpiece, lettersOf_cutFrom_isSeam hjoin (by simp [hc])]
            rfl
          | cons ha h =>
            rw [joins_eq_not_isSeam (.cons ha h) hc, hseam] at hjoins
            cases hjoins
        · exact lettersOf_cutFrom_isSeam hjoin (by simp [hc, hpiece])

/-- **The words of a text are what is left of it when it is cut along the seams.** -/
theorem words_eq_wordsBy (cs : List Char) : words cs = wordsBy isSeam cs :=
  (lettersOf_cutFrom_isSeam (.nil (by simp)) rfl).symm

/-! ## 3. Two rules -/

/-- Rules that cut around everything that is neither letter nor digit, and only inside a text. -/
structure Separates (cut : List Char → List Char → Bool) : Prop where
  start : ∀ after, cut [] after = false
  finish : ∀ before, cut before [] = false
  edge : ∀ {a b before after}, isWordChar a = false ∨ isWordChar b = false →
    cut (a :: before) (b :: after) = true

theorem separates_isHump : Separates isHump where
  start after := rfl
  finish before := by cases before <;> rfl
  edge h := by rcases h with h | h <;> simp [isHump, isEdge, h]

theorem separates_isSeam : Separates isSeam where
  start after := rfl
  finish before := by cases before <;> rfl
  edge := isSeam_of_not_isWordChar

/-- The first word starts with the letters and digits of the first piece. -/
theorem exists_lettersOf_cutFrom (cut : List Char → List Char → Bool) :
    ∀ {cs before piece : List Char}, piece.filter isWordChar ≠ [] →
      ∃ w ws, lettersOf (cutFrom cut before piece cs) = (piece.filter isWordChar ++ w) :: ws
  | [], before, piece, h => ⟨[], [], by simp [cutFrom, lettersOf, h]⟩
  | c :: cs, before, piece, h => by
    rw [cutFrom]
    split
    · exact ⟨[], lettersOf (cutFrom cut (c :: before) [c] cs), by simp [lettersOf, h]⟩
    · obtain ⟨w, ws, hws⟩ :=
        @exists_lettersOf_cutFrom cut cs (c :: before) (piece ++ [c]) (by simp [h])
      exact ⟨[c].filter isWordChar ++ w, ws, by simpa using hws⟩

/-- Two rules agree on every place in a text that follows `before`. -/
def Agree (cut cut' : List Char → List Char → Bool) (before cs : List Char) : Prop :=
  ∀ passed rest, cs = passed ++ rest → cut (passed.reverse ++ before) rest
    = cut' (passed.reverse ++ before) rest

section

variable {cut cut' : List Char → List Char → Bool}

theorem agree_cons {c : Char} {before cs : List Char} : Agree cut cut' before (c :: cs) ↔
    cut before (c :: cs) = cut' before (c :: cs) ∧ Agree cut cut' (c :: before) cs := by
  constructor
  · intro h
    refine ⟨h [] (c :: cs) rfl, fun passed rest heq => ?_⟩
    simpa using h (c :: passed) rest (by rw [heq, List.cons_append])
  · rintro ⟨hhere, hrest⟩ passed rest heq
    cases passed with
    | nil =>
      obtain rfl : c :: cs = rest := heq
      exact hhere
    | cons d passed =>
      obtain ⟨rfl, hcs⟩ := List.cons.inj heq
      simpa using hrest passed rest hcs

/-- Where only one of two rules cuts, the words differ: the first word of one goes on in the
other. -/
theorem lettersOf_cutFrom_ne (hcut : Separates cut) (hcut' : Separates cut') {c : Char}
    {before piece cs : List Char} (hpiece : ∀ a ∈ before.head?, isWordChar a = true → a ∈ piece)
    (h : cut before (c :: cs) = true) (h' : cut' before (c :: cs) = false) :
    lettersOf (cutFrom cut before piece (c :: cs))
      ≠ lettersOf (cutFrom cut' before piece (c :: cs)) := by
  cases before with
  | nil => simp [hcut.start] at h
  | cons a before =>
    have hwords : ¬(isWordChar a = false ∨ isWordChar c = false) := by
      intro hedge
      rw [hcut'.edge hedge] at h'
      cases h'
    rw [not_or, Bool.not_eq_false, Bool.not_eq_false] at hwords
    have hletters : piece.filter isWordChar ≠ [] := by
      intro hnil
      exact List.filter_eq_nil_iff.mp hnil a (hpiece a rfl hwords.1) hwords.1
    obtain ⟨w, ws, hws⟩ := @exists_lettersOf_cutFrom cut' cs (c :: a :: before) (piece ++ [c])
      (by simp [hletters])
    have hfirst : lettersOf (cutFrom cut (a :: before) piece (c :: cs))
        = piece.filter isWordChar :: lettersOf (cutFrom cut (c :: a :: before) [c] cs) := by
      simp [cutFrom, h, lettersOf, hletters]
    rw [hfirst, cutFrom, h', if_neg Bool.false_ne_true, hws]
    intro heq
    have hlength := congrArg List.length (List.cons.inj heq).1
    have hone : [c].filter isWordChar = [c] := by simp [hwords.2]
    simp only [List.filter_append, hone, List.length_append, List.length_cons] at hlength
    omega

/-- Two rules give the same words only if they agree. -/
theorem lettersOf_cutFrom_eq_iff (hcut : Separates cut) (hcut' : Separates cut') :
    ∀ {cs before piece : List Char}, (∀ a ∈ before.head?, isWordChar a = true → a ∈ piece) →
      (lettersOf (cutFrom cut before piece cs) = lettersOf (cutFrom cut' before piece cs) ↔
        Agree cut cut' before cs)
  | [], before, piece, _ => by
    refine iff_of_true rfl fun passed rest heq => ?_
    obtain ⟨rfl, rfl⟩ := List.append_eq_nil_iff.mp heq.symm
    rw [hcut.finish, hcut'.finish]
  | c :: cs, before, piece, hpiece => by
    rw [agree_cons]
    cases h : cut before (c :: cs) <;> cases h' : cut' before (c :: cs)
    · rw [cutFrom, cutFrom, h, h', if_neg Bool.false_ne_true, if_neg Bool.false_ne_true,
        lettersOf_cutFrom_eq_iff hcut hcut' (by simp)]
      simp
    · exact iff_of_false (lettersOf_cutFrom_ne hcut' hcut hpiece h' h).symm (by simp)
    · exact iff_of_false (lettersOf_cutFrom_ne hcut hcut' hpiece h h') (by simp)
    · have hletters := (piece.filter isWordChar).reverse_reverse.symm
      rw [cutFrom, cutFrom, h, h', if_pos rfl, if_pos rfl, lettersOf_cons hletters,
        lettersOf_cons hletters, List.append_right_inj,
        lettersOf_cutFrom_eq_iff hcut hcut' (by simp)]
      simp

/-- **Two rules give the same words of a text only if they agree on every place in it.** -/
theorem wordsBy_eq_iff (hcut : Separates cut) (hcut' : Separates cut') {cs : List Char} :
    wordsBy cut cs = wordsBy cut' cs ↔ Agree cut cut' [] cs :=
  lettersOf_cutFrom_eq_iff hcut hcut' (by simp)

end

/-! ## 4. Two capitals before a small letter -/

/-- A text in which exactly two capitals stand before a small letter. -/
def HasPair (cs : List Char) : Prop :=
  ∃ front a b c rest, cs = front ++ a :: b :: c :: rest ∧ a.isUpper = true ∧ b.isUpper = true ∧
    c.isLower = true ∧ startsCapital front.reverse = false

/-- Nothing is cut between two capitals, or between a capital and a small letter, on account of
these two alone. -/
theorem isEdge_of_isUpper {a b : Char} (ha : a.isUpper = true)
    (hb : b.isUpper = true ∨ b.isLower = true) : isEdge a b = false := by
  obtain ⟨hl, hd⟩ := of_isUpper ha
  rcases hb with hb | hb
  · simp [isEdge, isWordChar, ha, hb, hl, hd, of_isUpper hb]
  · simp [isEdge, isWordChar, ha, hb, hl, hd, of_isLower hb]

theorem eq_cons_of_startsSmall {cs : List Char} (h : startsSmall cs = true) :
    ∃ c rest, cs = c :: rest ∧ c.isLower = true := by
  cases cs with
  | nil => cases h
  | cons c rest => exact ⟨c, rest, rfl, h⟩

theorem eq_cons_of_startsCapital {cs : List Char} (h : startsCapital cs = true) :
    ∃ c rest, cs = c :: rest ∧ c.isUpper = true := by
  cases cs with
  | nil => cases h
  | cons c rest => exact ⟨c, rest, rfl, h⟩

/-- A place on which the two rules differ is inside or right after a pair of capitals. -/
theorem hasPair_of_ne {before after : List Char} (h : isSeam before after ≠ isHump before after) :
    HasPair (before.reverse ++ after) := by
  match before, after with
  | [], _ => exact absurd rfl h
  | _ :: _, [] => exact absurd rfl h
  | a :: before, b :: after =>
    cases hu : a.isUpper with
    | false => simp [isSeam, isHump, hu] at h
    | true =>
      cases kind b with
      | capital upper lower _ =>
        have hplace : startsSmall after = true ∧ startsCapital before = false := by
          simpa [isSeam, isHump, hu, upper, lower, isEdge_of_isUpper hu (Or.inl upper)] using h
        obtain ⟨c, rest, rfl, hc⟩ := eq_cons_of_startsSmall hplace.1
        exact ⟨before.reverse, a, b, c, rest, by simp, hu, upper, hc, by simpa using hplace.2⟩
      | small upper lower _ =>
        have hplace : startsCapital before = true ∧ startsCapital before.tail = false := by
          simpa [isSeam, isHump, hu, upper, lower, isEdge_of_isUpper hu (Or.inr lower)] using h
        obtain ⟨d, before, rfl, hd⟩ := eq_cons_of_startsCapital hplace.1
        exact ⟨before.reverse, d, a, b, after, by simp, hd, hu, lower, by simpa using hplace.2⟩
      | digit upper lower _ => simp [isSeam, isHump, upper, lower] at h
      | other upper lower _ => simp [isSeam, isHump, upper, lower] at h

/-- **The seams of a text are its humps, unless it has a pair.** -/
theorem agree_iff_not_hasPair {cs : List Char} : Agree isSeam isHump [] cs ↔ ¬ HasPair cs := by
  constructor
  · rintro h ⟨front, a, b, c, rest, rfl, ha, hb, hc, hfront⟩
    -- camelCase cuts between the two
    have hplace := h (front ++ [a]) (b :: c :: rest) (by simp)
    simp [isSeam, isHump, ha, hb, hc, hfront, of_isUpper hb,
      isEdge_of_isUpper ha (Or.inl hb)] at hplace
  · intro hnone passed rest heq
    by_contra hne
    have hpair := hasPair_of_ne hne
    rw [List.append_nil, List.reverse_reverse, ← heq] at hpair
    exact hnone hpair

/-- **Where words are cut.**  For every text, its words are what is left between the seams of its
letters in ASCII.  They are the words of camelCase if and only if no two capitals, without a third
one before them, stand before a small letter. -/
theorem split_cuts (t : Text) :
    split t = (wordsBy isSeam (transliterate t)).map String.ofList ∧
    (split t = (wordsBy isHump (transliterate t)).map String.ofList ↔
      ¬ HasPair (transliterate t)) := by
  have hinj : Function.Injective (List.map String.ofList) :=
    List.map_injective_iff.mpr fun _ _ h => String.ofList_injective h
  refine ⟨congrArg _ (words_eq_wordsBy _), ?_⟩
  rw [split, words_eq_wordsBy, hinj.eq_iff, wordsBy_eq_iff separates_isSeam separates_isHump,
    agree_iff_not_hasPair]

/-- An article before a noun: camelCase has the three words `get`, `A` and `Food`. -/
theorem not_split_camelCase_article :
    split "getAFood" = ["get", "AF", "ood"] ∧
    (wordsBy isHump (transliterate "getAFood")).map String.ofList = ["get", "A", "Food"] ∧
    ¬ ∀ t : Text, split t = (wordsBy isHump (transliterate t)).map String.ofList := by
  have hwords : split "getAFood" = ["get", "AF", "ood"] := by decide +kernel
  have hcamel : (wordsBy isHump (transliterate "getAFood")).map String.ofList
      = ["get", "A", "Food"] := by decide +kernel
  refine ⟨hwords, hcamel, fun h => ?_⟩
  have hsame := h "getAFood"
  rw [hwords, hcamel] at hsame
  exact absurd hsame (by decide)

end ApiDocs.Slug
