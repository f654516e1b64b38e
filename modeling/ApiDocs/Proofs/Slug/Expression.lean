import ApiDocs.Proofs.Slug.Words

/-!
# Words as the matches of a regular expression

The rule for words is usually written as the regular expression

    [A-Z]{2,}(?=[A-Z][a-z]+|[0-9]|\b|_)|[A-Z]?[a-z]+|[A-Z]+|[0-9]+

with the meaning that a search with backtracking gives it.  `Expression.ends` lists where a match
may end, in the order in which such a search tries them: a repetition goes as far as it can and
gives back one character at a time, and a second alternative comes after the first.  A search takes
the first end at the first place that has one and goes on from there (`Finds`).

The lists that `words` computes are what the search finds, and nothing else is (`finds_iff`).  The
argument is by what a text starts with (`Leads`): of each of the seven forms of a first word it is
proved that `words` takes it (`words_of_leads`) and that it is the first end of the expression
(`head?_ends_of_leads`).
-/

namespace ApiDocs.Slug

/-! ## 1. Expressions -/

/-- A place in a text: the characters before it, read backwards, and those after it. -/
structure Place where
  passed : List Char
  rest : List Char

/-- A regular expression. -/
inductive Expression
  | one (p : Char → Bool)
  | many (p : Char → Bool)
  | both (first second : Expression)
  | either (first second : Expression)
  | nothing
  | ahead (e : Expression)
  | edge

/-- A character of an identifier, for which the edge of a word is defined. -/
def isIdentifierChar (c : Char) : Bool := isWordChar c || c == '_'

/-- The ends of a repetition, the longest first. -/
def repetitions (p : Char → Bool) (passed : List Char) : List Char → List Place
  | [] => [⟨passed, []⟩]
  | c :: rest =>
    if p c then repetitions p (c :: passed) rest ++ [⟨passed, c :: rest⟩]
    else [⟨passed, c :: rest⟩]

/-- Where a match that starts at a place may end, the preferred end first. -/
def Expression.ends : Expression → Place → List Place
  | one p, ⟨passed, rest⟩ =>
    match rest with
    | [] => []
    | c :: rest => if p c then [⟨c :: passed, rest⟩] else []
  | many p, ⟨passed, rest⟩ => repetitions p passed rest
  | both first second, place => (first.ends place).flatMap second.ends
  | either first second, place => first.ends place ++ second.ends place
  | nothing, place => [place]
  | ahead e, place => if (e.ends place).isEmpty then [] else [place]
  | edge, place =>
    if place.passed.head?.any isIdentifierChar = place.rest.head?.any isIdentifierChar then []
    else [place]

/-- One or more characters. -/
def Expression.several (p : Char → Bool) : Expression := .both (.one p) (.many p)

/-- What may come after an acronym. -/
def Expression.afterAcronym : Expression :=
  .either (.both (.one Char.isUpper) (.several Char.isLower))
    (.either (.one Char.isDigit) (.either .edge (.one (· == '_'))))

/-- Two or more capitals, if the right thing comes after them. -/
def Expression.acronym : Expression :=
  .both (.both (.one Char.isUpper) (.several Char.isUpper)) (.ahead .afterAcronym)

/-- Small letters with at most one capital in front. -/
def Expression.plainWord : Expression :=
  .both (.either (.one Char.isUpper) .nothing) (.several Char.isLower)

/-- The expression for a word. -/
def Expression.word : Expression :=
  .either .acronym (.either .plainWord (.either (.several Char.isUpper) (.several Char.isDigit)))

/-- The search through a text finds these matches, for an expression that does not match the empty
text. -/
inductive Finds (e : Expression) : Place → List (List Char) → Prop
  | ended {passed} : Finds e ⟨passed, []⟩ []
  | skips {passed c rest found} (none : e.ends ⟨passed, c :: rest⟩ = [])
      (later : Finds e ⟨c :: passed, rest⟩ found) : Finds e ⟨passed, c :: rest⟩ found
  | takes {passed text w rest found} (hne : w ≠ []) (htext : text = w ++ rest)
      (first : (e.ends ⟨passed, text⟩).head? = some ⟨w.reverse ++ passed, rest⟩)
      (later : Finds e ⟨w.reverse ++ passed, rest⟩ found) : Finds e ⟨passed, text⟩ (w :: found)

/-- There is one way to search. -/
theorem Finds.unique {e : Expression} {place : Place} {found found' : List (List Char)}
    (h : Finds e place found) (h' : Finds e place found') : found = found' := by
  induction h generalizing found' with
  | ended =>
    cases h' with
    | ended => rfl
    | takes hne htext _ _ => exact absurd (List.append_eq_nil_iff.mp htext.symm).1 hne
  | skips none _ ih =>
    cases h' with
    | skips _ later => exact ih later
    | takes _ _ first _ => simp [none] at first
  | @takes passed text w rest found hne htext first _ ih =>
    cases h' with
    | ended => exact absurd (List.append_eq_nil_iff.mp htext.symm).1 hne
    | skips none _ => simp [none] at first
    | takes _ _ first' later =>
      rw [first] at first'
      injection first' with hplace
      injection hplace with hpassed hrest
      obtain rfl := List.reverse_injective (List.append_cancel_right hpassed)
      subst hrest
      rw [ih later]

/-! ## 2. Repetitions -/

variable {p : Char → Bool}

theorem repetitions_cons {c : Char} (hc : p c = true) (passed rest : List Char) :
    repetitions p passed (c :: rest)
      = repetitions p (c :: passed) rest ++ [⟨passed, c :: rest⟩] := by
  simp [repetitions, hc]

theorem repetitions_stop {rest : List Char} (hrest : rest.head?.any p = false)
    (passed : List Char) : repetitions p passed rest = [⟨passed, rest⟩] := by
  cases rest with
  | nil => rfl
  | cons c cs =>
    have hc : p c = false := hrest
    simp [repetitions, hc]

/-- A repetition goes through a run before it gives anything back. -/
theorem repetitions_run : ∀ {run : List Char} (passed rest : List Char),
    (∀ c ∈ run, p c = true) → ∃ shorter,
      repetitions p passed (run ++ rest) = repetitions p (run.reverse ++ passed) rest ++ shorter
  | [], _, _, _ => ⟨[], by simp⟩
  | c :: run, passed, rest, h => by
    obtain ⟨hc, hrun⟩ := List.forall_mem_cons.mp h
    obtain ⟨shorter, hshorter⟩ := repetitions_run (c :: passed) rest hrun
    exact ⟨shorter ++ [⟨passed, c :: (run ++ rest)⟩], by simp [repetitions_cons hc, hshorter]⟩

theorem ends_several_cons {c : Char} (hc : p c = true) (passed rest : List Char) :
    (Expression.several p).ends ⟨passed, c :: rest⟩ = repetitions p (c :: passed) rest := by
  simp [Expression.several, Expression.ends, hc]

theorem ends_several {c : Char} {run : List Char} (passed rest : List Char)
    (h : ∀ d ∈ c :: run, p d = true) : ∃ shorter,
      (Expression.several p).ends ⟨passed, c :: run ++ rest⟩
        = repetitions p ((c :: run).reverse ++ passed) rest ++ shorter := by
  obtain ⟨hc, hrun⟩ := List.forall_mem_cons.mp h
  obtain ⟨shorter, hshorter⟩ := repetitions_run (c :: passed) rest hrun
  exact ⟨shorter, by simp [ends_several_cons hc, hshorter]⟩

theorem ends_several_of_not {c : Char} (hc : p c = false) (passed text : List Char) :
    (Expression.several p).ends ⟨passed, c :: text⟩ = [] := by
  simp [Expression.several, Expression.ends, hc]

theorem ends_several_stop {rest : List Char} (hrest : rest.head?.any p = false)
    (passed : List Char) : (Expression.several p).ends ⟨passed, rest⟩ = [] := by
  cases rest with
  | nil => rfl
  | cons c text => exact ends_several_of_not hrest passed text

/-! ## 3. What a text starts with -/

/-- The word `w` is the first word of the text `w ++ rest`.  A small letter that comes after capitals
takes the last of them if that is the only one or the third or a later one, but not if it is the
second. -/
inductive Leads : List Char → List Char → Prop
  | number {w rest} (hne : w ≠ []) (h : ∀ c ∈ w, c.isDigit = true)
      (hrest : rest.head?.any Char.isDigit = false) : Leads w rest
  | small {w rest} (hne : w ≠ []) (h : ∀ c ∈ w, c.isLower = true)
      (hrest : rest.head?.any Char.isLower = false) : Leads w rest
  | capitalized {c w rest} (hc : c.isUpper = true) (hne : w ≠ []) (h : ∀ d ∈ w, d.isLower = true)
      (hrest : rest.head?.any Char.isLower = false) : Leads (c :: w) rest
  | letter {c rest} (hc : c.isUpper = true) (hupper : rest.head?.any Char.isUpper = false)
      (hlower : rest.head?.any Char.isLower = false) : Leads [c] rest
  | capitals {c d w rest} (h : ∀ a ∈ c :: d :: w, a.isUpper = true)
      (hupper : rest.head?.any Char.isUpper = false)
      (hlower : rest.head?.any Char.isLower = false) : Leads (c :: d :: w) rest
  | article {c d a rest} (hc : c.isUpper = true) (hd : d.isUpper = true) (ha : a.isLower = true) :
      Leads [c, d] (a :: rest)
  | acronym {c d w e a rest} (h : ∀ b ∈ c :: d :: w, b.isUpper = true) (he : e.isUpper = true)
      (ha : a.isLower = true) : Leads (c :: d :: w) (e :: a :: rest)

theorem Leads.ne_nil {w rest : List Char} (h : Leads w rest) : w ≠ [] := by
  cases h with
  | number hne _ _ | small hne _ _ => exact hne
  | _ => exact List.cons_ne_nil _ _

/-- The longest run at the start of a text. -/
theorem exists_run (p : Char → Bool) (cs : List Char) : ∃ run rest,
    cs = run ++ rest ∧ (∀ c ∈ run, p c = true) ∧ rest.head?.any p = false := by
  refine ⟨cs.takeWhile p, cs.dropWhile p, List.takeWhile_append_dropWhile.symm,
    fun c hc => List.mem_takeWhile_imp hc, ?_⟩
  have hnot := List.head?_dropWhile_not p cs
  cases hhead : (cs.dropWhile p).head? with
  | none => rfl
  | some c => simpa [hhead] using hnot

/-- A run that holds the first character. -/
theorem exists_run_cons {p : Char → Bool} {c : Char} (hc : p c = true) (cs : List Char) :
    ∃ run rest, cs = run ++ rest ∧ (∀ d ∈ c :: run, p d = true) ∧ rest.head?.any p = false := by
  obtain ⟨run, rest, hcs, hrun, hrest⟩ := exists_run p cs
  exact ⟨run, rest, hcs, List.forall_mem_cons.mpr ⟨hc, hrun⟩, hrest⟩

/-- After the capitals at the start of a text it matters how many they are, and whether a small
letter follows. -/
theorem exists_leads_of_isUpper {c : Char} (hc : c.isUpper = true) (cs : List Char) :
    ∃ w rest, c :: cs = w ++ rest ∧ Leads w rest := by
  obtain ⟨run, rest, rfl, hrun, hrest⟩ := exists_run_cons hc cs
  cases hlower : rest.head?.any Char.isLower with
  | false =>
    cases run with
    | nil => exact ⟨[c], rest, rfl, .letter hc hrest hlower⟩
    | cons d run => exact ⟨c :: d :: run, rest, rfl, .capitals hrun hrest hlower⟩
  | true =>
    cases rest with
    | nil => simp at hlower
    | cons a rest =>
      have ha : a.isLower = true := hlower
      cases run using List.reverseRecOn with
      | nil =>
        obtain ⟨smalls, rest, rfl, hsmalls, hrest⟩ := exists_run_cons ha rest
        exact ⟨c :: a :: smalls, rest, rfl, .capitalized hc (List.cons_ne_nil _ _) hsmalls hrest⟩
      | append_singleton run e _ =>
        obtain ⟨hrun, he⟩ : (∀ d ∈ c :: run, d.isUpper = true) ∧ e.isUpper = true := by
          rw [← List.cons_append, List.forall_mem_append] at hrun
          exact ⟨hrun.1, hrun.2 e (List.mem_singleton_self e)⟩
        cases run with
        | nil => exact ⟨[c, e], a :: rest, rfl, .article hc he ha⟩
        | cons d run =>
          exact ⟨c :: d :: run, e :: a :: rest, by simp, .acronym hrun he ha⟩

/-- **A text that starts with a letter or digit starts with a word.** -/
theorem exists_leads {c : Char} (hc : isWordChar c = true) (cs : List Char) :
    ∃ w rest, c :: cs = w ++ rest ∧ Leads w rest := by
  cases kind c with
  | capital upper _ _ => exact exists_leads_of_isUpper upper cs
  | small _ lower _ =>
    obtain ⟨run, rest, rfl, hrun, hrest⟩ := exists_run_cons lower cs
    exact ⟨c :: run, rest, rfl, .small (List.cons_ne_nil _ _) hrun hrest⟩
  | digit _ _ digit =>
    obtain ⟨run, rest, rfl, hrun, hrest⟩ := exists_run_cons digit cs
    exact ⟨c :: run, rest, rfl, .number (List.cons_ne_nil _ _) hrun hrest⟩
  | other upper lower digit => simp [isWordChar, upper, lower, digit] at hc

/-! ## 4. The first word -/

section
variable {last c : Char} {before : List Char} {next : Option Char}

theorem joins_of_last_isDigit (hlast : last.isDigit = true) (hc : c.isDigit = false) :
    joins (last :: before) c next = false := by
  obtain ⟨hu, hl⟩ := of_isDigit hlast
  simp [joins, hc, hu, hl]

theorem joins_of_last_isLower (hlast : last.isLower = true) (hc : c.isLower = false) :
    joins (last :: before) c next = false := by
  obtain ⟨hu, hd⟩ := of_isLower hlast
  simp [joins, hc, hu, hd]

theorem joins_of_last_isUpper (hlast : last.isUpper = true) (hupper : c.isUpper = false)
    (hlower : c.isLower = false) : joins (last :: before) c next = false := by
  simp [joins, hupper, hlower, (of_isUpper hlast).2]

end

/-- A word ends before a character that does not join it. -/
theorem wordsFrom_stop {w rest : List Char} (hne : w ≠ [])
    (hstop : ∀ last before c cs, w.reverse = last :: before → rest = c :: cs →
      joins (last :: before) c cs.head? = false) :
    wordsFrom w.reverse rest = w :: words rest := by
  obtain ⟨last, before, hw⟩ := List.exists_cons_of_ne_nil (List.reverse_ne_nil_iff.mpr hne)
  have hfinish : finish w.reverse = [w] := by
    rw [hw, finish, ← hw, List.reverse_reverse]
    exact List.cons_ne_nil _ _
  cases rest with
  | nil => exact hfinish
  | cons c cs =>
    cases hc : isWordChar c with
    | false =>
      rw [wordsFrom_separator hc, hfinish, words.eq_1 (c :: cs), wordsFrom_separator hc]
      rfl
    | true =>
      rw [wordsFrom_fresh hc (hw ▸ hstop last before c cs hw rfl), hfinish, words_cons hc]
      rfl

theorem of_reverse_eq_cons {w before : List Char} {last : Char} (h : ∀ c ∈ w, p c = true)
    (hw : w.reverse = last :: before) : p last = true :=
  h last (List.mem_reverse.mp (hw ▸ List.mem_cons_self))

/-- **The first word is cut off first.** -/
theorem words_of_leads {w rest : List Char} (h : Leads w rest) :
    words (w ++ rest) = w :: words rest := by
  cases h with
  | number hne h hrest =>
    rw [words_of_runs runs_isDigit hne h trivial]
    refine wordsFrom_stop hne fun last before c cs hw hcs => ?_
    exact joins_of_last_isDigit (of_reverse_eq_cons h hw) (by simpa [hcs] using hrest)
  | small hne h hrest =>
    rw [words_of_runs runs_isLower hne h trivial]
    refine wordsFrom_stop hne fun last before c cs hw hcs => ?_
    exact joins_of_last_isLower (of_reverse_eq_cons h hw) (by simpa [hcs] using hrest)
  | @capitalized c w _ hc hne h hrest =>
    rw [words_of_capitalized hc hne h]
    refine wordsFrom_stop (List.cons_ne_nil _ _) fun last before d cs hw hcs => ?_
    exact joins_of_last_isLower (h last (mem_of_reverse_cons hne hw)) (by simpa [hcs] using hrest)
  | letter hc hupper hlower =>
    rw [List.singleton_append, words_cons (by simp [isWordChar, hc]), ← List.reverse_singleton]
    refine wordsFrom_stop (List.cons_ne_nil _ _) fun last before d cs hw hcs => ?_
    obtain ⟨rfl, rfl⟩ := List.cons_eq_cons.mp hw
    exact joins_of_last_isUpper hc (by simpa [hcs] using hupper) (by simpa [hcs] using hlower)
  | capitals h hupper hlower =>
    rw [words_of_runs runs_isUpper (List.cons_ne_nil _ _) h hlower]
    refine wordsFrom_stop (List.cons_ne_nil _ _) fun last before c cs hw hcs => ?_
    exact joins_of_last_isUpper (of_reverse_eq_cons h hw) (by simpa [hcs] using hupper)
      (by simpa [hcs] using hlower)
  | @article c d a rest hc hd ha =>
    have hd' := of_isUpper hd
    have hjoins : joins [c] d (a :: rest).head? = true := by simp [joins, hc, hd, hd'.1, hd'.2]
    have htwo : words ([c, d] ++ a :: rest) = wordsFrom [c, d].reverse (a :: rest) := by
      rw [List.cons_append, List.cons_append, words_cons (by simp [isWordChar, hc]),
        List.nil_append, wordsFrom_join (by simp [isWordChar, hd]) hjoins]
      rfl
    rw [htwo]
    refine wordsFrom_stop (List.cons_ne_nil _ _) fun last before b cs hw hcs => ?_
    obtain ⟨rfl, rfl⟩ := List.cons_eq_cons.mp hw
    obtain ⟨rfl, rfl⟩ := List.cons_eq_cons.mp hcs
    simp [joins, ha, (of_isLower ha).2, hd'.1]
  | @acronym c d w e a rest h he ha =>
    have hnext : (e :: a :: rest).head?.any Char.isLower = false := (of_isUpper he).1
    rw [words_of_runs runs_isUpper (List.cons_ne_nil _ _) h hnext]
    refine wordsFrom_stop (List.cons_ne_nil _ _) fun last before b cs hw hcs => ?_
    obtain ⟨rfl, rfl⟩ := List.cons_eq_cons.mp hcs
    have hbefore : before.isEmpty = false := by
      cases before with
      | nil => simpa using congrArg List.length hw
      | cons _ _ => rfl
    simp [joins, he, (of_isUpper he).1, (of_isUpper he).2, ha, hbefore]

/-! ## 5. The first match -/

/-- A small letter does not come after an acronym. -/
theorem ends_afterAcronym_of_isLower {c a : Char} (hc : c.isUpper = true) (ha : a.isLower = true)
    (passed rest : List Char) : Expression.afterAcronym.ends ⟨c :: passed, a :: rest⟩ = [] := by
  have hne : a ≠ '_' := by rintro rfl; simp at ha
  obtain ⟨hu, hd⟩ := of_isLower ha
  simp [Expression.afterAcronym, Expression.ends, isIdentifierChar, isWordChar, hc, ha, hu, hd, hne]

/-- A capital with a small letter after it does. -/
theorem ends_afterAcronym_of_isUpper {c a : Char} (hc : c.isUpper = true) (ha : a.isLower = true)
    (passed rest : List Char) : Expression.afterAcronym.ends ⟨passed, c :: a :: rest⟩ ≠ [] := by
  obtain ⟨run, rest, rfl, hrun, hrest⟩ := exists_run_cons ha rest
  obtain ⟨shorter, hends⟩ := ends_several (c :: passed) rest hrun
  rw [List.cons_append] at hends
  simp [Expression.afterAcronym, Expression.ends, hc, hends, repetitions_stop hrest]

/-- What is not a letter does. -/
theorem ends_afterAcronym_of_not {c : Char} (hc : c.isUpper = true) {rest : List Char}
    (hupper : rest.head?.any Char.isUpper = false) (hlower : rest.head?.any Char.isLower = false)
    (passed : List Char) : Expression.afterAcronym.ends ⟨c :: passed, rest⟩ ≠ [] := by
  cases rest with
  | nil => simp [Expression.afterAcronym, Expression.ends, isIdentifierChar, isWordChar, hc]
  | cons a rest =>
    have hu : a.isUpper = false := hupper
    have hl : a.isLower = false := hlower
    cases hd : a.isDigit with
    | true => simp [Expression.afterAcronym, Expression.ends, hd]
    | false =>
      -- the underscore has a branch of its own, since there is no edge before it
      by_cases hne : a = '_' <;>
        simp [Expression.afterAcronym, Expression.ends, isIdentifierChar, isWordChar, hc, hu, hl,
          hd, hne]

theorem ends_ahead {e : Expression} {place : Place} (h : e.ends place ≠ []) :
    (Expression.ahead e).ends place = [place] := by
  simp [Expression.ends, h]

theorem ends_ahead_of_nil {e : Expression} {place : Place} (h : e.ends place = []) :
    (Expression.ahead e).ends place = [] := by
  simp [Expression.ends, h]

theorem ends_acronym_of_not {c : Char} (hc : c.isUpper = false) (passed text : List Char) :
    Expression.acronym.ends ⟨passed, c :: text⟩ = [] := by
  simp [Expression.acronym, Expression.ends, hc]

/-- An acronym ends where its capitals do, if the right thing comes then. -/
theorem ends_acronym {c : Char} (hc : c.isUpper = true) (passed text : List Char) :
    Expression.acronym.ends ⟨passed, c :: text⟩
      = ((Expression.several Char.isUpper).ends ⟨c :: passed, text⟩).flatMap
          (Expression.ahead .afterAcronym).ends := by
  simp [Expression.acronym, Expression.ends, hc]

theorem ends_plainWord_of_isUpper {c : Char} (hc : c.isUpper = true) (passed text : List Char) :
    Expression.plainWord.ends ⟨passed, c :: text⟩
      = (Expression.several Char.isLower).ends ⟨c :: passed, text⟩ := by
  simp [Expression.plainWord, Expression.ends, hc, ends_several_of_not (of_isUpper hc).1]

theorem ends_plainWord_of_not {c : Char} (hc : c.isUpper = false) (passed text : List Char) :
    Expression.plainWord.ends ⟨passed, c :: text⟩
      = (Expression.several Char.isLower).ends ⟨passed, c :: text⟩ := by
  simp [Expression.plainWord, Expression.ends, hc]

theorem ends_word (place : Place) :
    Expression.word.ends place
      = Expression.acronym.ends place ++ (Expression.plainWord.ends place ++
          ((Expression.several Char.isUpper).ends place ++
            (Expression.several Char.isDigit).ends place)) :=
  rfl

/-- **The first word is matched first.** -/
theorem head?_ends_of_leads {w rest : List Char} (h : Leads w rest) (passed : List Char) :
    (Expression.word.ends ⟨passed, w ++ rest⟩).head? = some ⟨w.reverse ++ passed, rest⟩ := by
  rw [ends_word]
  cases h with
  | number hne h hrest =>
    obtain ⟨c, run, rfl⟩ := List.exists_cons_of_ne_nil hne
    obtain ⟨hu, hl⟩ := of_isDigit (h c List.mem_cons_self)
    obtain ⟨shorter, hends⟩ := ends_several passed rest h
    rw [hends, repetitions_stop hrest, List.cons_append, ends_acronym_of_not hu,
      ends_plainWord_of_not hu, ends_several_of_not hl, ends_several_of_not hu]
    rfl
  | small hne h hrest =>
    obtain ⟨c, run, rfl⟩ := List.exists_cons_of_ne_nil hne
    have hu := (of_isLower (h c List.mem_cons_self)).1
    obtain ⟨shorter, hends⟩ := ends_several passed rest h
    rw [List.cons_append] at hends ⊢
    rw [ends_acronym_of_not hu, ends_plainWord_of_not hu, hends, repetitions_stop hrest]
    rfl
  | @capitalized c w _ hc hne h hrest =>
    obtain ⟨d, run, rfl⟩ := List.exists_cons_of_ne_nil hne
    have hu := (of_isLower (h d List.mem_cons_self)).1
    obtain ⟨shorter, hends⟩ := ends_several (c :: passed) rest h
    rw [List.cons_append] at hends
    rw [List.cons_append, List.cons_append, ends_acronym hc, ends_several_of_not hu,
      ends_plainWord_of_isUpper hc, hends, repetitions_stop hrest]
    simp
  | letter hc hupper hlower =>
    obtain ⟨shorter, hends⟩ := ends_several passed rest (List.forall_mem_singleton.mpr hc)
    rw [hends, List.singleton_append, ends_acronym hc, ends_several_stop hupper,
      ends_plainWord_of_isUpper hc, ends_several_stop hlower, repetitions_stop hupper]
    rfl
  | @capitals c d w _ h hupper hlower =>
    obtain ⟨hc, hrun⟩ := List.forall_mem_cons.mp h
    obtain ⟨shorter, hends⟩ := ends_several (c :: passed) rest hrun
    obtain ⟨last, before, hlast⟩ :=
      List.exists_cons_of_ne_nil (List.reverse_ne_nil_iff.mpr (List.cons_ne_nil d w))
    have hahead := ends_ahead (ends_afterAcronym_of_not (of_reverse_eq_cons hrun hlast) hupper
      hlower (before ++ c :: passed))
    rw [List.cons_append, ends_acronym hc, hends, repetitions_stop hupper, hlast]
    simp [hahead, hlast]
  | @article c d a rest hc hd ha =>
    have hu : (a :: rest).head?.any Char.isUpper = false := (of_isLower ha).1
    have hboth : ∀ b ∈ [c, d], b.isUpper = true :=
      List.forall_mem_cons.mpr ⟨hc, List.forall_mem_singleton.mpr hd⟩
    obtain ⟨shorter, hends⟩ := ends_several passed (a :: rest) hboth
    -- two capitals have none to give back, so what comes after them is not looked at again
    have hacronym : Expression.acronym.ends ⟨passed, [c, d] ++ a :: rest⟩ = [] := by
      rw [List.cons_append, ends_acronym hc, List.cons_append, ends_several_cons hd,
        List.nil_append, repetitions_stop hu, List.flatMap_singleton,
        ends_ahead_of_nil (ends_afterAcronym_of_isLower hd ha _ _)]
    rw [hacronym, hends, List.cons_append, List.cons_append, ends_plainWord_of_isUpper hc,
      ends_several_of_not (of_isUpper hd).1, repetitions_stop hu]
    rfl
  | @acronym c d w e a rest h he ha =>
    have hu : (a :: rest).head?.any Char.isUpper = false := (of_isLower ha).1
    obtain ⟨hc, hrun⟩ := List.forall_mem_cons.mp h
    obtain ⟨shorter, hends⟩ := ends_several (c :: passed) (e :: a :: rest) hrun
    have hlong := ends_ahead_of_nil (ends_afterAcronym_of_isLower he ha
      ((d :: w).reverse ++ c :: passed) rest)
    have hshort := ends_ahead (ends_afterAcronym_of_isUpper he ha
      ((d :: w).reverse ++ c :: passed) rest)
    rw [List.cons_append, ends_acronym hc, hends, repetitions_cons he, repetitions_stop hu,
      List.flatMap_append, List.flatMap_append, List.flatMap_singleton, List.flatMap_singleton,
      hlong, hshort]
    simp

/-! ## 6. The search -/

theorem ends_word_of_not {c : Char} (hc : isWordChar c = false) (passed rest : List Char) :
    Expression.word.ends ⟨passed, c :: rest⟩ = [] := by
  cases kind c with
  | other hu hl hd =>
    rw [ends_word, ends_acronym_of_not hu, ends_plainWord_of_not hu, ends_several_of_not hl,
      ends_several_of_not hu, ends_several_of_not hd]
    rfl
  | capital h _ _ | small _ h _ | digit _ _ h => simp [isWordChar, h] at hc

/-- From any place the search finds the words of the rest of the text. -/
theorem finds_words (passed text : List Char) : Finds .word ⟨passed, text⟩ (words text) := by
  cases text with
  | nil => exact .ended
  | cons c cs =>
    cases hc : isWordChar c with
    | false =>
      have hwords : words (c :: cs) = words cs := wordsFrom_separator hc [] cs
      rw [hwords]
      exact .skips (ends_word_of_not hc passed cs) (finds_words (c :: passed) cs)
    | true =>
      obtain ⟨w, rest, htext, hleads⟩ := exists_leads hc cs
      have hshorter : rest.length ≤ cs.length := by
        have hpos := List.length_pos_iff.mpr hleads.ne_nil
        have hlength := congrArg List.length htext
        simp only [List.length_cons, List.length_append] at hlength
        omega
      rw [htext, words_of_leads hleads]
      exact .takes hleads.ne_nil rfl (head?_ends_of_leads hleads passed)
        (finds_words (w.reverse ++ passed) rest)
termination_by text.length

/-- **The words of a text are the matches of the expression.** -/
theorem finds_iff (cs : List Char) (found : List (List Char)) :
    Finds .word ⟨[], cs⟩ found ↔ found = words cs :=
  ⟨fun h => h.unique (finds_words [] cs), fun h => h ▸ finds_words [] cs⟩

end ApiDocs.Slug
