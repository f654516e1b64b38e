import ApiDocs.Slug.Words
import Mathlib

/-!
# Words of a text

A word is a run of capitals, a run of digits, or a run of small letters with at most one capital in
front (`IsWord`).  This module proves that cutting a text into words

* gives words (`isWord_of_mem_words`) and neither loses nor repeats a letter or digit
  (`flatten_words`);
* does not look past a character that is neither letter nor digit (`words_append`);
* leaves a word as it is (`words_of_isWord`), so words that are joined with a separator are the
  words of the result (`words_intercalate`).
-/

namespace ApiDocs.Slug

/-! ## 1. Kinds of characters -/

/-- A character is a capital, a small letter, a digit, or none of these, and never two of them. -/
inductive Kind (c : Char) : Prop
  | capital (upper : c.isUpper = true) (lower : c.isLower = false) (digit : c.isDigit = false)
  | small (upper : c.isUpper = false) (lower : c.isLower = true) (digit : c.isDigit = false)
  | digit (upper : c.isUpper = false) (lower : c.isLower = false) (digit : c.isDigit = true)
  | other (upper : c.isUpper = false) (lower : c.isLower = false) (digit : c.isDigit = false)

theorem of_isUpper {c : Char} (h : c.isUpper = true) : c.isLower = false ∧ c.isDigit = false := by
  grind [Char.isUpper, Char.isLower, Char.isDigit]

theorem of_isLower {c : Char} (h : c.isLower = true) : c.isUpper = false ∧ c.isDigit = false := by
  grind [Char.isUpper, Char.isLower, Char.isDigit]

theorem of_isDigit {c : Char} (h : c.isDigit = true) : c.isUpper = false ∧ c.isLower = false := by
  grind [Char.isUpper, Char.isLower, Char.isDigit]

theorem kind (c : Char) : Kind c := by
  cases hu : c.isUpper with
  | true => exact .capital hu (of_isUpper hu).1 (of_isUpper hu).2
  | false =>
    cases hl : c.isLower with
    | true => exact .small hu hl (of_isLower hl).2
    | false =>
      cases hd : c.isDigit with
      | true => exact .digit hu hl hd
      | false => exact .other hu hl hd

theorem not_isLower_of_not_isWordChar {c : Char} (h : isWordChar c = false) :
    c.isLower = false := by
  cases hl : c.isLower with
  | false => rfl
  | true => simp [isWordChar, hl] at h

/-! ## 2. What a word is -/

/-- The three forms of a word. -/
inductive IsWord : List Char → Prop
  | capitals {w} (hne : w ≠ []) (h : ∀ c ∈ w, c.isUpper = true) : IsWord w
  | small {w} (hne : w ≠ []) (h : ∀ c ∈ w, c.isLower = true) : IsWord w
  | capitalized {c w} (hc : c.isUpper = true) (hne : w ≠ []) (h : ∀ d ∈ w, d.isLower = true) :
      IsWord (c :: w)
  | number {w} (hne : w ≠ []) (h : ∀ c ∈ w, c.isDigit = true) : IsWord w

theorem IsWord.ne_nil {w : List Char} (h : IsWord w) : w ≠ [] := by
  cases h with
  | capitalized _ _ _ => exact List.cons_ne_nil _ _
  | capitals hne _ | small hne _ | number hne _ => exact hne

theorem IsWord.isWordChar {w : List Char} (h : IsWord w) {c : Char} (hc : c ∈ w) :
    isWordChar c = true := by
  cases h with
  | capitals _ h => simp [Slug.isWordChar, h c hc]
  | small _ h => simp [Slug.isWordChar, h c hc]
  | number _ h => simp [Slug.isWordChar, h c hc]
  | capitalized hd _ h =>
    rcases List.mem_cons.mp hc with rfl | hc
    · simp [Slug.isWordChar, hd]
    · simp [Slug.isWordChar, h c hc]

/-- After the first character, a word of several characters ends as the rest of it does. -/
theorem mem_of_reverse_cons {c last : Char} {w before : List Char} (hne : w ≠ [])
    (hw : (c :: w).reverse = last :: before) : last ∈ w := by
  have hlast := congrArg List.head? hw
  rw [List.head?_reverse, List.getLast?_cons_of_ne_nil hne, List.head?_cons] at hlast
  exact List.mem_of_getLast? hlast

/-- A word that a character joins is still a word. -/
theorem IsWord.concat {last c : Char} {before : List Char} {next : Option Char}
    (hword : IsWord (last :: before).reverse) (hc : Slug.isWordChar c = true)
    (hjoins : joins (last :: before) c next = true) : IsWord (c :: last :: before).reverse := by
  have hlast : last ∈ (last :: before).reverse := by simp
  have hall {p : Char → Bool} (h : ∀ d ∈ (last :: before).reverse, p d = true) (hp : p c = true) :
      ∀ d ∈ (last :: before).reverse ++ [c], p d = true :=
    List.forall_mem_append.mpr ⟨h, List.forall_mem_singleton.mpr hp⟩
  rw [List.reverse_cons (a := c)]
  generalize hw : (last :: before).reverse = w at hword hlast hall ⊢
  cases hword with
  | capitals _ h =>
    have hu := h last hlast
    obtain ⟨hl, hd⟩ := of_isUpper hu
    cases kind c with
    | capital upper _ _ => exact .capitals (by simp) (hall h upper)
    | small _ lower digit =>
      -- a small letter joins one capital, not several
      have hbefore : before = [] := by simpa [joins, hl, hu, lower, digit] using hjoins
      subst hbefore hw
      exact .capitalized hu (by simp) (List.forall_mem_singleton.mpr lower)
    | digit _ _ digit => simp [joins, hd, digit] at hjoins
    | other upper lower digit => simp [Slug.isWordChar, upper, lower, digit] at hc
  | small hne h =>
    have hl := h last hlast
    obtain ⟨hu, hd⟩ := of_isLower hl
    cases kind c with
    | capital upper lower digit => simp [joins, hu, upper, lower, digit] at hjoins
    | small _ lower _ => exact .small (by simp) (hall h lower)
    | digit _ _ digit => simp [joins, hd, digit] at hjoins
    | other upper lower digit => simp [Slug.isWordChar, upper, lower, digit] at hc
  | @capitalized d w hcapital hne h =>
    have hl : last.isLower = true :=
      h last (mem_of_reverse_cons hne (by rw [← hw, List.reverse_reverse]))
    obtain ⟨hu, hd⟩ := of_isLower hl
    cases kind c with
    | capital upper lower digit => simp [joins, hu, upper, lower, digit] at hjoins
    | small _ lower _ =>
      refine .capitalized hcapital (by simp) (List.forall_mem_append.mpr ⟨h, ?_⟩)
      exact List.forall_mem_singleton.mpr lower
    | digit _ _ digit => simp [joins, hd, digit] at hjoins
    | other upper lower digit => simp [Slug.isWordChar, upper, lower, digit] at hc
  | number hne h =>
    have hd := h last hlast
    obtain ⟨hu, hl⟩ := of_isDigit hd
    cases kind c with
    | capital upper lower digit => simp [joins, hu, upper, lower, digit] at hjoins
    | small _ lower digit => simp [joins, hu, hl, lower, digit] at hjoins
    | digit _ _ digit => exact .number (by simp) (hall h digit)
    | other upper lower digit => simp [Slug.isWordChar, upper, lower, digit] at hc

/-! ## 3. Cutting gives words -/

/-- A separator ends the word. -/
theorem wordsFrom_separator {c : Char} (hc : isWordChar c = false) (word cs : List Char) :
    wordsFrom word (c :: cs) = finish word ++ words cs := by
  simp [wordsFrom, words, hc]

/-- A character that joins the word goes on with it. -/
theorem wordsFrom_join {c : Char} {word cs : List Char} (hc : isWordChar c = true)
    (hjoins : joins word c cs.head? = true) :
    wordsFrom word (c :: cs) = wordsFrom (c :: word) cs := by
  simp [wordsFrom, hc, hjoins]

/-- Any other character starts a new word. -/
theorem wordsFrom_fresh {c : Char} {word cs : List Char} (hc : isWordChar c = true)
    (hjoins : joins word c cs.head? = false) :
    wordsFrom word (c :: cs) = finish word ++ wordsFrom [c] cs := by
  simp [wordsFrom, hc, hjoins]

theorem words_cons {c : Char} (hc : isWordChar c = true) (cs : List Char) :
    words (c :: cs) = wordsFrom [c] cs :=
  wordsFrom_join hc rfl

theorem isWord_of_mem_finish {word w : List Char} (hword : word = [] ∨ IsWord word.reverse)
    (h : w ∈ finish word) : IsWord w := by
  cases word with
  | nil => exact absurd h List.not_mem_nil
  | cons c cs =>
    obtain rfl := List.mem_singleton.mp h
    exact hword.resolve_left (List.cons_ne_nil _ _)

/-- One character is a word. -/
theorem isWord_singleton {c : Char} (hc : isWordChar c = true) : IsWord [c] := by
  cases kind c with
  | capital upper _ _ => exact .capitals (by simp) (by simpa using upper)
  | small _ lower _ => exact .small (by simp) (by simpa using lower)
  | digit _ _ digit => exact .number (by simp) (by simpa using digit)
  | other upper lower digit => simp [isWordChar, upper, lower, digit] at hc

/-- The unfinished word is a word, and a character joins it only if it stays one. -/
theorem isWord_of_mem_wordsFrom {w : List Char} : ∀ {cs word : List Char},
    (word = [] ∨ IsWord word.reverse) → w ∈ wordsFrom word cs → IsWord w
  | [], _, hword, h => isWord_of_mem_finish hword h
  | c :: cs, word, hword, h => by
    cases hc : isWordChar c with
    | false =>
      rw [wordsFrom_separator hc] at h
      rcases List.mem_append.mp h with h | h
      · exact isWord_of_mem_finish hword h
      · exact isWord_of_mem_wordsFrom (Or.inl rfl) h
    | true =>
      have hnew : IsWord [c].reverse := isWord_singleton hc
      cases hjoins : joins word c cs.head? with
      | false =>
        rw [wordsFrom_fresh hc hjoins] at h
        rcases List.mem_append.mp h with h | h
        · exact isWord_of_mem_finish hword h
        · exact isWord_of_mem_wordsFrom (Or.inr hnew) h
      | true =>
        rw [wordsFrom_join hc hjoins] at h
        refine isWord_of_mem_wordsFrom (Or.inr ?_) h
        cases word with
        | nil => exact hnew
        | cons last before => exact (hword.resolve_left (List.cons_ne_nil _ _)).concat hc hjoins

/-- **A text is cut into words.** -/
theorem isWord_of_mem_words {cs w : List Char} (h : w ∈ words cs) : IsWord w :=
  isWord_of_mem_wordsFrom (Or.inl rfl) h

theorem flatten_finish (word : List Char) : (finish word).flatten = word.reverse := by
  cases word <;> simp [finish]

theorem flatten_wordsFrom : ∀ (word cs : List Char),
    (wordsFrom word cs).flatten = word.reverse ++ cs.filter isWordChar
  | word, [] => by simp [wordsFrom, flatten_finish]
  | word, c :: cs => by
    cases hc : isWordChar c with
    | false =>
      rw [wordsFrom_separator hc, List.flatten_append, flatten_finish, words,
        flatten_wordsFrom [] cs, List.filter_cons_of_neg (by simp [hc])]
      rfl
    | true =>
      rw [List.filter_cons_of_pos hc]
      cases hjoins : joins word c cs.head? with
      | false =>
        rw [wordsFrom_fresh hc hjoins, List.flatten_append, flatten_finish,
          flatten_wordsFrom [c] cs]
        rfl
      | true =>
        rw [wordsFrom_join hc hjoins, flatten_wordsFrom (c :: word) cs, List.reverse_cons,
          List.append_assoc]
        rfl

/-- **No letter or digit is lost, and none repeated.** -/
theorem flatten_words (cs : List Char) : (words cs).flatten = cs.filter isWordChar :=
  flatten_wordsFrom [] cs

/-! ## 4. Separators -/

/-- Only a small letter that comes next makes a difference. -/
theorem joins_of_not_isLower {word : List Char} {c d : Char} (hd : d.isLower = false) :
    joins word c (some d) = joins word c none := by
  simp [joins, hd]

/-- **Nothing is seen past a separator.** -/
theorem wordsFrom_append {c : Char} (hc : isWordChar c = false) (bs : List Char) :
    ∀ (word as : List Char), wordsFrom word (as ++ c :: bs) = wordsFrom word as ++ words bs
  | word, [] => wordsFrom_separator hc word bs
  | word, a :: as => by
    have hnext : joins word a (as ++ c :: bs).head? = joins word a as.head? := by
      cases as with
      | nil => exact joins_of_not_isLower (not_isLower_of_not_isWordChar hc)
      | cons b as => rfl
    rw [List.cons_append]
    cases ha : isWordChar a with
    | false =>
      rw [wordsFrom_separator ha, wordsFrom_separator ha, words, wordsFrom_append hc bs [] as,
        List.append_assoc]
      rfl
    | true =>
      cases hjoins : joins word a as.head? with
      | false =>
        rw [wordsFrom_fresh ha (hnext.trans hjoins), wordsFrom_fresh ha hjoins,
          wordsFrom_append hc bs [a] as, List.append_assoc]
      | true =>
        rw [wordsFrom_join ha (hnext.trans hjoins), wordsFrom_join ha hjoins,
          wordsFrom_append hc bs (a :: word) as]

theorem words_append {c : Char} (hc : isWordChar c = false) (as bs : List Char) :
    words (as ++ c :: bs) = words as ++ words bs :=
  wordsFrom_append hc bs [] as

/-! ## 5. Words of words -/

/-- The characters of `p` go on with each other, as long as what comes next satisfies `q`. -/
structure Runs (p : Char → Bool) (q : Option Char → Prop) : Prop where
  joins : ∀ last before c next, p last = true → p c = true → q next →
    isWordChar c = true ∧ joins (last :: before) c next = true
  inside : ∀ c, p c = true → q (some c)

/-- Capitals go on with each other up to the one that a small letter follows. -/
theorem runs_isUpper : Runs Char.isUpper (fun next => next.any Char.isLower = false) where
  joins last before c next hlast hc hnext := by
    obtain ⟨hl, hd⟩ := of_isUpper hc
    simp [isWordChar, joins, hlast, hc, hl, hd, hnext]
  inside _ hc := (of_isUpper hc).1

theorem runs_isLower : Runs Char.isLower (fun _ => True) where
  joins last before c next hlast hc _ := by
    simp [isWordChar, joins, hlast, hc, (of_isLower hc).2]
  inside _ _ := trivial

theorem runs_isDigit : Runs Char.isDigit (fun _ => True) where
  joins last before c next hlast hc _ := by simp [isWordChar, joins, hlast, hc]
  inside _ _ := trivial

variable {p : Char → Bool} {q : Option Char → Prop}

/-- A run goes on with the word that its first character belongs to. -/
theorem wordsFrom_of_runs (hp : Runs p q) {rest : List Char} (hrest : q rest.head?) :
    ∀ {cs before : List Char} {last : Char}, p last = true → (∀ c ∈ cs, p c = true) →
      wordsFrom (last :: before) (cs ++ rest) = wordsFrom (cs.reverse ++ last :: before) rest
  | [], _, _, _, _ => rfl
  | c :: cs, before, last, hlast, h => by
    obtain ⟨hc, hcs⟩ := List.forall_mem_cons.mp h
    have hnext : q (cs ++ rest).head? := by
      cases cs with
      | nil => exact hrest
      | cons d ds => exact hp.inside d (hcs d List.mem_cons_self)
    obtain ⟨hword, hjoins⟩ := hp.joins last before c _ hlast hc hnext
    rw [List.cons_append, wordsFrom_join hword hjoins, wordsFrom_of_runs hp hrest hc hcs]
    simp

/-- A run at the start of a text. -/
theorem words_of_runs (hp : Runs p q) {w rest : List Char} (hne : w ≠ [])
    (h : ∀ c ∈ w, p c = true) (hrest : q rest.head?) :
    words (w ++ rest) = wordsFrom w.reverse rest := by
  cases w with
  | nil => exact absurd rfl hne
  | cons c cs =>
    obtain ⟨hc, hcs⟩ := List.forall_mem_cons.mp h
    have hword := (hp.joins c [] c (some c) hc hc (hp.inside c hc)).1
    rw [List.cons_append, words_cons hword, wordsFrom_of_runs hp hrest hc hcs]
    simp

/-- A capital with small letters after it, at the start of a text. -/
theorem words_of_capitalized {c : Char} {w rest : List Char} (hc : c.isUpper = true) (hne : w ≠ [])
    (h : ∀ d ∈ w, d.isLower = true) : words (c :: w ++ rest) = wordsFrom (c :: w).reverse rest := by
  cases w with
  | nil => exact absurd rfl hne
  | cons d ds =>
    obtain ⟨hd, hds⟩ := List.forall_mem_cons.mp h
    have hjoins : joins [c] d (ds ++ rest).head? = true := by
      simp [joins, hc, hd, (of_isLower hd).2]
    rw [List.cons_append, List.cons_append, words_cons (by simp [isWordChar, hc]),
      wordsFrom_join (by simp [isWordChar, hd]) hjoins,
      wordsFrom_of_runs runs_isLower trivial hd hds]
    simp

theorem wordsFrom_reverse_nil {w : List Char} (hne : w ≠ []) : wordsFrom w.reverse [] = [w] := by
  obtain ⟨c, cs, hw⟩ := List.exists_cons_of_ne_nil (List.reverse_ne_nil_iff.mpr hne)
  rw [hw, wordsFrom, finish, ← hw, List.reverse_reverse]
  exact List.cons_ne_nil _ _

/-- **A word stays as it is.** -/
theorem words_of_isWord {w : List Char} (hword : IsWord w) : words w = [w] := by
  suffices h : words (w ++ []) = wordsFrom w.reverse [] by
    rwa [List.append_nil, wordsFrom_reverse_nil hword.ne_nil] at h
  cases hword with
  | capitals hne h => exact words_of_runs runs_isUpper hne h rfl
  | small hne h => exact words_of_runs runs_isLower hne h trivial
  | number hne h => exact words_of_runs runs_isDigit hne h trivial
  | capitalized hc hne h => exact words_of_capitalized hc hne h

/-- **Words that are joined with a separator** are the words of the result. -/
theorem words_intercalate {separator : Char} (hseparator : isWordChar separator = false) :
    ∀ {ws : List (List Char)}, (∀ w ∈ ws, IsWord w) →
      words (List.intercalate [separator] ws) = ws
  | [], _ => rfl
  | [w], h => by simpa using words_of_isWord (h w List.mem_cons_self)
  | w :: next :: ws, h => by
    obtain ⟨hw, hrest⟩ := List.forall_mem_cons.mp h
    rw [List.intercalate_cons_cons, List.append_assoc, List.singleton_append,
      words_append hseparator, words_of_isWord hw, words_intercalate hseparator hrest]
    rfl

end ApiDocs.Slug
