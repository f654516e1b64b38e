import ApiDocs.Text.Blank
import ApiDocs.Proofs.Text.Strings

/-!
# Texts that are split

`Text.splitAt` is `List.splitOnP`, so what is known of the latter holds of what is cut along white
space.  A text that is put on one line (`squeeze`) has no white space but single spaces.
-/

namespace ApiDocs.Text

variable {α : Type} {q : α → Bool}

/-! ## 1. Pieces -/

theorem splitAt_eq_splitOnP : ∀ xs : List α, splitAt q xs = xs.splitOnP q
  | [] => rfl
  | x :: xs => by
    have ih := splitAt_eq_splitOnP xs
    rw [List.splitOnP_cons_eq_if_modifyHead, splitAt, ih]
    refine if_congr Iff.rfl rfl ?_
    cases hpieces : xs.splitOnP q with
    | nil => exact absurd hpieces (List.splitOnP_ne_nil q xs)
    | cons piece pieces => rfl

/-- There is one piece more than there are places to split at. -/
theorem length_splitOnP : ∀ xs : List α, (xs.splitOnP q).length = xs.countP q + 1
  | [] => rfl
  | x :: xs => by
    have ih := length_splitOnP xs
    rw [List.splitOnP_cons_eq_if_modifyHead]
    cases hx : q x with
    | true => rw [if_pos rfl, List.length_cons, ih, List.countP_cons_of_pos hx]
    | false =>
      rw [if_neg Bool.false_ne_true, List.length_modifyHead, ih,
        List.countP_cons_of_neg (ne_true_of_eq_false hx)]

/-- What a list is split at stands in none of the pieces. -/
theorem eq_false_of_mem_splitOnP : ∀ {xs piece : List α}, piece ∈ xs.splitOnP q →
    ∀ x ∈ piece, q x = false
  | [], piece, h => by
    rw [List.mem_singleton.mp h]
    exact fun _ hx => absurd hx List.not_mem_nil
  | x :: xs, piece, h => by
    obtain ⟨first, others, hpieces⟩ := List.exists_cons_of_ne_nil (List.splitOnP_ne_nil q xs)
    have ih : ∀ other ∈ first :: others, ∀ y ∈ other, q y = false :=
      fun other hother => eq_false_of_mem_splitOnP (hpieces ▸ hother)
    obtain ⟨hfirst, hothers⟩ := List.forall_mem_cons.mp ih
    rw [List.splitOnP_cons_eq_if_modifyHead, hpieces] at h
    cases hx : q x with
    | true =>
      rw [hx, if_pos rfl] at h
      rcases List.mem_cons.mp h with rfl | h
      · exact fun _ hy => absurd hy List.not_mem_nil
      · exact ih piece h
    | false =>
      rw [hx, if_neg Bool.false_ne_true] at h
      rcases List.mem_cons.mp h with rfl | h
      · exact List.forall_mem_cons.mpr ⟨hx, hfirst⟩
      · exact hothers piece h

/-- Induction over a list at the members that it is split at. -/
theorem splitOnP_induct {motive : List α → Prop} (whole : ∀ xs, (∀ x ∈ xs, q x = false) → motive xs)
    (split : ∀ before x after, q x = true → motive before → motive after →
      motive (before ++ x :: after)) (xs : List α) : motive xs := by
  by_cases h : ∃ x ∈ xs, q x = true
  · obtain ⟨x, hx, hqx⟩ := h
    obtain ⟨before, after, rfl⟩ := List.append_of_mem hx
    exact split before x after hqx (splitOnP_induct whole split before)
      (splitOnP_induct whole split after)
  · exact whole xs fun x hx => Bool.eq_false_iff.mpr fun hqx => h ⟨x, hx, hqx⟩
termination_by xs.length
decreasing_by
  all_goals
    subst_vars
    simp only [List.length_append, List.length_cons]
    omega

/-- A piece stands at the start of the list or after a member that it is split at. -/
theorem exists_append_of_mem_splitOnP {xs piece : List α} (h : piece ∈ xs.splitOnP q) :
    ∃ before after, xs = before ++ piece ++ after ∧
      (before = [] ∨ ∃ start x, before = start ++ [x] ∧ q x = true) := by
  induction xs using splitOnP_induct (q := q) generalizing piece with
  | whole xs hxs =>
    rw [List.splitOnP_eq_singleton hxs] at h
    rw [List.mem_singleton.mp h]
    exact ⟨[], [], by simp, Or.inl rfl⟩
  | split start x rest hx ihstart ihrest =>
    rw [List.splitOnP_append_cons start rest hx, List.mem_append] at h
    rcases h with h | h
    · obtain ⟨before, after, rfl, hbefore⟩ := ihstart h
      exact ⟨before, after ++ x :: rest, by simp, hbefore⟩
    · obtain ⟨before, after, rfl, hbefore⟩ := ihrest h
      refine ⟨start ++ x :: before, after, by simp, Or.inr ?_⟩
      rcases hbefore with rfl | ⟨first, y, rfl, hy⟩
      · exact ⟨start, x, rfl, hx⟩
      · exact ⟨start ++ x :: first, y, by simp, hy⟩

/-! ## 2. Texts on one line -/

/-- The only white space of a text on one line are spaces. -/
theorem mem_squeeze {t : Text} {x : CodePoint} (h : x ∈ squeeze t) :
    x = .char ' ' ∨ x.isIn isBlank = false := by
  rcases mem_intercalate h with h | ⟨piece, hpiece, h⟩
  · exact Or.inl (List.mem_singleton.mp h)
  · have hsplit := (List.mem_filter.mp hpiece).1
    rw [splitAt_eq_splitOnP] at hsplit
    exact Or.inr (eq_false_of_mem_splitOnP hsplit x h)

/-! ## 3. Lines -/

/-- The two characters that end a line in Markdown. -/
def isNewline (c : Char) : Bool := c == '\n' || c == '\r'

theorem isLineEnd_of_isNewline {c : Char} (h : isNewline c = true) : isLineEnd c = true := by
  rcases Bool.or_eq_true_iff.mp h with h | h
  · rw [beq_iff_eq.mp h]
    rfl
  · rw [beq_iff_eq.mp h]
    rfl

theorem isIn_isNewline_of_le {x : CodePoint} (h : 0x20 ≤ x.toNat) : x.isIn isNewline = false := by
  cases x with
  | half n => rfl
  | char c =>
    refine Bool.eq_false_iff.mpr fun hc => ?_
    rcases Bool.or_eq_true_iff.mp hc with hc | hc
    · rw [beq_iff_eq.mp hc] at h
      exact absurd h (by decide)
    · rw [beq_iff_eq.mp hc] at h
      exact absurd h (by decide)

/-- A text cut at its line feeds and carriage returns. -/
def lines (t : Text) : List Text := t.splitOnP (CodePoint.isIn isNewline)

/-- The lines of texts that are joined by line feeds are the lines of the texts. -/
theorem lines_joinWith : ∀ {parts : List Text}, parts ≠ [] →
    lines (joinWith [.char '\n'] parts) = parts.flatMap lines
  | [], h => absurd rfl h
  | [part], _ => by
    unfold joinWith
    rw [List.intercalate_singleton, List.flatMap_singleton]
  | first :: second :: parts, _ => by
    have ih := lines_joinWith (List.cons_ne_nil second parts)
    unfold joinWith lines at ih ⊢
    rw [List.intercalate_cons_cons, List.append_assoc, List.singleton_append,
      List.splitOnP_append_cons first _ rfl, ih]
    rfl

end ApiDocs.Text
