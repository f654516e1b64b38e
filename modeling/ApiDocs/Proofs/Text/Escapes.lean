import ApiDocs.Proofs.Text.Splitting
import Mathlib.Data.List.Induction

/-!
# Escaped characters

Backslashes escape each other in pairs, so a character is escaped if an odd number of them stands
right before it.  What counts is the run of backslashes that the text before it ends in
(`trailing`), and `runs p t` lists these runs for all characters of a class `p`, in their order.

An escape puts a number of backslashes before each character of a class (`PutsBefore`).  That adds
this number to every run, whatever stands there already (`PutsBefore.replaceEach`); so an escape by
one backslash turns escaped characters into characters that are not escaped, and the other way round
(`allEscaped_iff_noneEscaped`).  White space between the characters does not matter
(`runs_squeeze`).
-/

namespace ApiDocs.Text

/-! ## 1. Runs of backslashes -/

/-- The length of the run of backslashes that goes on with a code point. -/
def extend (n : Nat) (x : CodePoint) : Nat := if x = .char '\\' then n + 1 else 0

/-- The number of backslashes at the end of a text. -/
def trailing (t : Text) : Nat := t.foldl extend 0

/-- Every code point of a text with the number of backslashes right before it, if `n` of them stand
before the text. -/
def withRuns (n : Nat) : Text → List (CodePoint × Nat)
  | [] => []
  | x :: t => (x, n) :: withRuns (extend n x) t

/-- The numbers of backslashes right before the characters of a class. -/
def runs (p : Char → Bool) (t : Text) : List Nat :=
  ((withRuns 0 t).filter (fun m => m.1.isIn p)).map Prod.snd

/-- All characters of a class are escaped: an odd number of backslashes stands before each. -/
def AllEscaped (p : Char → Bool) (t : Text) : Prop :=
  ∀ before c after, t = before ++ .char c :: after → p c = true → trailing before % 2 = 1

/-- No character of a class is escaped. -/
def NoneEscaped (p : Char → Bool) (t : Text) : Prop :=
  ∀ before c after, t = before ++ .char c :: after → p c = true → trailing before % 2 = 0

variable {p : Char → Bool}

theorem withRuns_append (u : Text) : ∀ (t : Text) (n : Nat),
    withRuns n (t ++ u) = withRuns n t ++ withRuns (t.foldl extend n) u
  | [], _ => rfl
  | x :: t, n => congrArg ((x, n) :: ·) (withRuns_append u t (extend n x))

theorem extend_eq_zero {x : CodePoint} (h : x ≠ .char '\\') (n : Nat) : extend n x = 0 := if_neg h

theorem trailing_concat {x : CodePoint} (h : x ≠ .char '\\') (t : Text) :
    trailing (t ++ [x]) = 0 := by
  unfold trailing
  rw [List.foldl_append]
  exact extend_eq_zero h _

theorem trailing_concat_backslash (t : Text) :
    trailing (t ++ [.char '\\']) = trailing t + 1 := by
  unfold trailing
  rw [List.foldl_append]
  rfl

/-- Where a code point ends the run, the texts before and after it can be looked at apart. -/
theorem withRuns_append_cons {x : CodePoint} (h : x ≠ .char '\\') (t u : Text) :
    withRuns 0 (t ++ x :: u) = withRuns 0 t ++ (x, trailing t) :: withRuns 0 u := by
  rw [withRuns_append, withRuns, extend_eq_zero h]
  rfl

theorem mem_withRuns {x : CodePoint} {k : Nat} : ∀ {t : Text} {n : Nat}, (x, k) ∈ withRuns n t ↔
    ∃ before after, t = before ++ x :: after ∧ before.foldl extend n = k
  | [], n => by simp [withRuns]
  | y :: t, n => by
    rw [withRuns, List.mem_cons, mem_withRuns]
    constructor
    · rintro (h | ⟨before, after, rfl, hk⟩)
      · cases h
        exact ⟨[], t, rfl, rfl⟩
      · exact ⟨y :: before, after, rfl, hk⟩
    · rintro ⟨before, after, ht, hk⟩
      cases before with
      | nil =>
        cases ht
        exact Or.inl (congrArg (Prod.mk x) hk.symm)
      | cons z before =>
        cases ht
        exact Or.inr ⟨before, after, rfl, hk⟩

theorem mem_runs {k : Nat} {t : Text} : k ∈ runs p t ↔
    ∃ before c after, t = before ++ .char c :: after ∧ p c = true ∧ trailing before = k := by
  unfold runs
  simp only [List.mem_map, List.mem_filter, Prod.exists, exists_eq_right, mem_withRuns]
  constructor
  · rintro ⟨x, ⟨before, after, rfl, hk⟩, hx⟩
    cases x with
    | char c => exact ⟨before, c, after, rfl, hx, hk⟩
    | half n => cases hx
  · rintro ⟨before, c, after, rfl, hc, hk⟩
    exact ⟨.char c, ⟨before, after, rfl, hk⟩, hc⟩

theorem allEscaped_iff {t : Text} : AllEscaped p t ↔ ∀ k ∈ runs p t, k % 2 = 1 := by
  simp only [mem_runs]
  constructor
  · rintro h k ⟨before, c, after, ht, hc, rfl⟩
    exact h before c after ht hc
  · exact fun h before c after ht hc => h _ ⟨before, c, after, ht, hc, rfl⟩

theorem noneEscaped_iff {t : Text} : NoneEscaped p t ↔ ∀ k ∈ runs p t, k % 2 = 0 := by
  simp only [mem_runs]
  constructor
  · rintro h k ⟨before, c, after, ht, hc, rfl⟩
    exact h before c after ht hc
  · exact fun h before c after ht hc => h _ ⟨before, c, after, ht, hc, rfl⟩

/-! ## 2. Texts of several parts -/

theorem runs_append_cons {x : CodePoint} (h : x ≠ .char '\\') (hx : x.isIn p = false)
    (t u : Text) : runs p (t ++ x :: u) = runs p t ++ runs p u := by
  unfold runs
  rw [withRuns_append_cons h, List.filter_append, List.filter_cons_of_neg, List.map_append]
  exact ne_true_of_eq_false hx

/-- A text and its pieces have the same runs, if it is split outside the class and the
backslashes. -/
theorem flatMap_runs_splitOnP {q : CodePoint → Bool}
    (hq : ∀ x, q x = true → x ≠ .char '\\' ∧ x.isIn p = false) (t : Text) :
    (t.splitOnP q).flatMap (runs p) = runs p t := by
  induction t using splitOnP_induct (q := q) with
  | whole t ht => rw [List.splitOnP_eq_singleton ht, List.flatMap_singleton]
  | split before x after hx ihbefore ihafter =>
    obtain ⟨hslash, hclass⟩ := hq x hx
    rw [List.splitOnP_append_cons before after hx, List.flatMap_append, ihbefore, ihafter,
      runs_append_cons hslash hclass]

theorem runs_joinWith {x : CodePoint} (h : x ≠ .char '\\') (hx : x.isIn p = false) :
    ∀ parts : List Text, runs p (joinWith [x] parts) = parts.flatMap (runs p)
  | [] => rfl
  | [part] => by
    unfold joinWith
    rw [List.intercalate_singleton, List.flatMap_singleton]
  | first :: second :: parts => by
    have ih := runs_joinWith h hx (second :: parts)
    unfold joinWith at ih ⊢
    rw [List.intercalate_cons_cons, List.append_assoc, List.singleton_append,
      runs_append_cons h hx, ih, List.flatMap_cons (x := first)]

/-- White space makes no difference. -/
theorem runs_squeeze (hp : ∀ c, p c = true → isBlank c = false) (t : Text) :
    runs p (squeeze t) = runs p t := by
  have hblank : ∀ x, CodePoint.isIn isBlank x = true → x ≠ .char '\\' ∧ x.isIn p = false := by
    rintro (c | n) hx
    · refine ⟨?_, Bool.eq_false_iff.mpr fun hc => ?_⟩
      · rintro ⟨⟩
        exact absurd hx (by decide)
      · rw [CodePoint.isIn_char, hp c hc] at hx
        cases hx
    · cases hx
  obtain ⟨hslash, hspace⟩ := hblank (.char ' ') rfl
  have hpieces : ∀ parts : List Text,
      (parts.filter (fun part => !part.isEmpty)).flatMap (runs p) = parts.flatMap (runs p) := by
    intro parts
    induction parts with
    | nil => rfl
    | cons part parts ih =>
      cases part with
      | nil => exact ih
      | cons x part => exact congrArg (_ ++ ·) ih
  unfold squeeze fields pieces
  refine (runs_joinWith hslash hspace _).trans ?_
  rw [hpieces, splitAt_eq_splitOnP, flatMap_runs_splitOnP hblank]

/-! ## 3. Escapes -/

/-- A replacement that puts a number of backslashes in front of the characters of a class, and
neither makes nor breaks a run elsewhere. -/
structure PutsBefore (f : Char → List Char) (p : Char → Bool) (k : Nat) : Prop where
  backslash : p '\\' = false ∧ f '\\' = ['\\']
  member : ∀ c, p c = true → f c = List.replicate k '\\' ++ [c]
  other : ∀ c, c ≠ '\\' → p c = false →
    ∃ cs d, f c = cs ++ [d] ∧ d ≠ '\\' ∧ (cs ++ [d]).any p = false

theorem runs_append_of_notMem {u : Text} (h : ∀ x ∈ u, x.isIn p = false) (t : Text) :
    runs p (t ++ u) = runs p t := by
  have hnone : (withRuns (t.foldl extend 0) u).filter (fun m => m.1.isIn p) = [] := by
    refine List.filter_eq_nil_iff.mpr fun m hm => ne_true_of_eq_false (h m.1 ?_)
    obtain ⟨before, after, rfl, -⟩ := mem_withRuns.mp (show (m.1, m.2) ∈ _ from hm)
    exact List.mem_append_right before List.mem_cons_self
  unfold runs
  rw [withRuns_append, List.filter_append, hnone, List.append_nil]

theorem runs_concat {c : Char} (h : p c = true) (t : Text) :
    runs p (t ++ [.char c]) = runs p t ++ [trailing t] := by
  unfold runs
  rw [withRuns_append, List.filter_append, List.map_append]
  simp [withRuns, trailing, h]

theorem trailing_append_backslashes (t : Text) : ∀ k : Nat,
    trailing (t ++ ofChars (List.replicate k '\\')) = trailing t + k
  | 0 => by
    rw [List.replicate_zero, ofChars_nil, List.append_nil, Nat.add_zero]
  | k + 1 => by
    rw [List.replicate_succ', ofChars_append, ← List.append_assoc]
    refine (trailing_concat_backslash _).trans ?_
    rw [trailing_append_backslashes t k, Nat.add_assoc]

variable {f : Char → List Char} {k : Nat}

theorem replaceEach_char (c : Char) : replaceEach f [.char c] = ofChars (f c) :=
  List.append_nil _

theorem isIn_ofChars {cs : List Char} (h : cs.any p = false) :
    ∀ x ∈ ofChars cs, x.isIn p = false := by
  intro x hx
  obtain ⟨e, he, rfl⟩ := List.mem_map.mp hx
  exact Bool.eq_false_iff.mpr (List.any_eq_false.mp h e he)

theorem any_singleton_eq_false {c : Char} (h : p c = false) : [c].any p = false :=
  (Bool.or_false (p c)).trans h

theorem isIn_half (n : Fin 2048) : ∀ y ∈ [CodePoint.half n], y.isIn p = false := by
  intro y hy
  rw [List.mem_singleton.mp hy]
  rfl

/-- **An escape puts the same number of backslashes before each character of the class**, since it
leaves the run at the end of a text as it is. -/
theorem PutsBefore.replaceEach (h : PutsBefore f p k) (t : Text) :
    trailing (Text.replaceEach f t) = trailing t ∧
      runs p (Text.replaceEach f t) = (runs p t).map (· + k) := by
  induction t using List.reverseRec with
  | nil => exact ⟨rfl, rfl⟩
  | append_singleton t x ih =>
    obtain ⟨htrailing, hruns⟩ := ih
    rw [replaceEach_append]
    match x with
    | .half n =>
      have himage : Text.replaceEach f [.half n] = [.half n] := rfl
      have hne : CodePoint.half n ≠ .char '\\' := by rintro ⟨⟩
      rw [himage, trailing_concat hne, trailing_concat hne, runs_append_of_notMem (isIn_half n),
        runs_append_of_notMem (isIn_half n)]
      exact ⟨rfl, hruns⟩
    | .char c =>
      rw [replaceEach_char]
      by_cases hslash : c = '\\'
      · obtain ⟨hclass, himage⟩ := h.backslash
        have hnone : ∀ y ∈ [CodePoint.char '\\'], y.isIn p = false :=
          isIn_ofChars (any_singleton_eq_false hclass)
        rw [hslash, himage, ofChars_cons, ofChars_nil, trailing_concat_backslash,
          trailing_concat_backslash, htrailing, runs_append_of_notMem hnone,
          runs_append_of_notMem hnone]
        exact ⟨rfl, hruns⟩
      have hne : CodePoint.char c ≠ .char '\\' := fun heq => hslash (CodePoint.char.inj heq)
      rw [trailing_concat hne]
      cases hc : p c with
      | true =>
        rw [h.member c hc, ofChars_append, ← List.append_assoc, ofChars_cons, ofChars_nil,
          trailing_concat hne, runs_concat hc, runs_concat hc, trailing_append_backslashes,
          htrailing, runs_append_of_notMem, hruns, List.map_append]
        · exact ⟨rfl, rfl⟩
        · refine isIn_ofChars (List.any_eq_false.mpr fun e he => ?_)
          rw [List.eq_of_mem_replicate he]
          exact ne_true_of_eq_false h.backslash.1
      | false =>
        obtain ⟨cs, d, himage, hd, hnone⟩ := h.other c hslash hc
        have hd' : CodePoint.char d ≠ .char '\\' := fun heq => hd (CodePoint.char.inj heq)
        rw [himage, runs_append_of_notMem (isIn_ofChars hnone), runs_append_of_notMem, hruns]
        · rw [ofChars_append, ← List.append_assoc]
          exact ⟨trailing_concat hd' _, rfl⟩
        · exact List.forall_mem_singleton.mpr hc

/-- One backslash more turns characters that are not escaped into escaped ones, and the other way
round. -/
theorem allEscaped_iff_noneEscaped {t u : Text} (h : runs p u = (runs p t).map (· + 1)) :
    AllEscaped p u ↔ NoneEscaped p t := by
  rw [allEscaped_iff, noneEscaped_iff, h, List.forall_mem_map]
  exact forall₂_congr fun k _ => by omega

end ApiDocs.Text
