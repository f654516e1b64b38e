import ApiDocs.Page.Markup
import ApiDocs.Proofs.Text.Escapes

/-!
# What escaping does to free text

Free text in a page has no angle brackets left, so it opens no tag.  A brace gets one backslash more
before it, and so does a pipe in a cell of a table, whatever stands before it
(`runs_escapeMdx_brace`, `runs_cell_brace`, `runs_cell_pipe`).

**The backslash itself is not escaped,** so a brace that was escaped already is not any more.  All
braces are escaped exactly if none was before (`isEscapeOf_escapeMdx_cell`).
-/

namespace ApiDocs.Page

open Text

/-! ## 1. Classes -/

/-- The characters that open and close an expression. -/
def isBrace (c : Char) : Bool := c == '{' || c == '}'

theorem isBrace_iff {c : Char} : isBrace c = true ↔ c = '{' ∨ c = '}' := by
  simp [isBrace]

/-- The character that ends a cell. -/
def isPipe (c : Char) : Bool := c == '|'

theorem escapeChar_cases (c : Char) :
    (isBrace c = true ∧ escapeChar c = ['\\', c]) ∨
    (c = '<' ∧ escapeChar c = ['&', 'l', 't', ';']) ∨ (c = '>' ∧ escapeChar c = ['&', 'g', 't', ';']) ∨
    (isBrace c = false ∧ c ≠ '<' ∧ c ≠ '>' ∧ escapeChar c = [c]) := by
  unfold escapeChar
  split
  · next h => subst h; exact Or.inl ⟨rfl, rfl⟩
  split
  · next h => subst h; exact Or.inl ⟨rfl, rfl⟩
  split
  · next h => exact Or.inr (Or.inl ⟨h, rfl⟩)
  split
  · next h => exact Or.inr (Or.inr (Or.inl ⟨h, rfl⟩))
  · next h₁ h₂ h₃ h₄ =>
    refine Or.inr (Or.inr (Or.inr ⟨?_, h₃, h₄, rfl⟩))
    simp [isBrace, h₁, h₂]

theorem putsBefore_escapeChar_brace : PutsBefore escapeChar isBrace 1 where
  backslash := ⟨rfl, rfl⟩
  member c hc := by
    rcases escapeChar_cases c with ⟨-, h⟩ | ⟨rfl, -⟩ | ⟨rfl, -⟩ | ⟨h, -⟩
    · exact h
    · cases hc
    · cases hc
    · rw [hc] at h
      cases h
  other c hslash hc := by
    rcases escapeChar_cases c with ⟨h, -⟩ | ⟨rfl, h⟩ | ⟨rfl, h⟩ | ⟨-, -, -, h⟩
    · rw [hc] at h
      cases h
    · exact ⟨['&', 'l', 't'], ';', h, by decide, rfl⟩
    · exact ⟨['&', 'g', 't'], ';', h, by decide, rfl⟩
    · exact ⟨[], c, h, hslash, any_singleton_eq_false hc⟩

theorem putsBefore_escapeChar_pipe : PutsBefore escapeChar isPipe 0 where
  backslash := ⟨rfl, rfl⟩
  member c hc := by
    obtain rfl : c = '|' := beq_iff_eq.mp hc
    rfl
  other c hslash hc := by
    rcases escapeChar_cases c with ⟨-, h⟩ | ⟨rfl, h⟩ | ⟨rfl, h⟩ | ⟨-, -, -, h⟩
    · exact ⟨['\\'], c, h, hslash, any_singleton_eq_false hc⟩
    · exact ⟨['&', 'l', 't'], ';', h, by decide, rfl⟩
    · exact ⟨['&', 'g', 't'], ';', h, by decide, rfl⟩
    · exact ⟨[], c, h, hslash, any_singleton_eq_false hc⟩

theorem putsBefore_escapePipe_pipe :
    PutsBefore (fun c => if c = '|' then ['\\', '|'] else [c]) isPipe 1 where
  backslash := ⟨rfl, rfl⟩
  member c hc := by
    obtain rfl : c = '|' := beq_iff_eq.mp hc
    rfl
  other c hslash hc := by
    have hpipe : c ≠ '|' := fun h => by simp [isPipe, h] at hc
    exact ⟨[], c, if_neg hpipe, hslash, any_singleton_eq_false hc⟩

theorem putsBefore_escapePipe_brace :
    PutsBefore (fun c => if c = '|' then ['\\', '|'] else [c]) isBrace 0 where
  backslash := ⟨rfl, rfl⟩
  member c hc := by
    have hpipe : c ≠ '|' := fun h => by simp [isBrace, h] at hc
    exact if_neg hpipe
  other c hslash hc := by
    by_cases hpipe : c = '|'
    · exact ⟨['\\'], '|', if_pos hpipe, by decide, rfl⟩
    · exact ⟨[], c, if_neg hpipe, hslash, any_singleton_eq_false hc⟩

/-! ## 2. Free text -/

/-- **Free text has one backslash more before each brace.** -/
theorem runs_escapeMdx_brace (t : Text) :
    runs isBrace (escapeMdx t) = (runs isBrace t).map (· + 1) :=
  (putsBefore_escapeChar_brace.replaceEach t).2

theorem runs_cell_brace (t : Text) : runs isBrace (cell t) = (runs isBrace t).map (· + 1) := by
  have hblank : ∀ c, isBrace c = true → isBlank c = false := by
    intro c hc
    rcases isBrace_iff.mp hc with rfl | rfl
    · rfl
    · rfl
  unfold cell escapePipes
  rw [(putsBefore_escapePipe_brace.replaceEach _).2, runs_escapeMdx_brace, runs_squeeze hblank]
  exact List.map_id _

theorem runs_cell_pipe (t : Text) : runs isPipe (cell t) = (runs isPipe t).map (· + 1) := by
  have hblank : ∀ c, isPipe c = true → isBlank c = false := by
    intro c hc
    rw [beq_iff_eq.mp hc]
    rfl
  unfold cell escapePipes escapeMdx
  rw [(putsBefore_escapePipe_pipe.replaceEach _).2, (putsBefore_escapeChar_pipe.replaceEach _).2,
    runs_squeeze hblank]
  exact congrArg (List.map (· + 1)) (List.map_id _)

/-- What stands in free text that is escaped: backslashes, the letters and signs of `&lt;` and
`&gt;`, and what stood there before, except for the angle brackets. -/
theorem mem_of_mem_escapeMdx {t : Text} {x : CodePoint} (h : x ∈ escapeMdx t) :
    x ∈ ofString "\\&lgt;" ∨ x ∈ t ∧ x ≠ .char '<' ∧ x ≠ .char '>' := by
  have hless : ∀ x ∈ ofString "&lt;", x ∈ ofString "\\&lgt;" := by decide
  have hgreater : ∀ x ∈ ofString "&gt;", x ∈ ofString "\\&lgt;" := by decide
  obtain ⟨y, hy, hx⟩ := List.mem_flatMap.mp h
  cases y with
  | half n =>
    rw [List.mem_singleton.mp hx]
    exact Or.inr ⟨hy, nofun, nofun⟩
  | char c =>
    dsimp only at hx
    rcases escapeChar_cases c with ⟨hbrace, h⟩ | ⟨-, h⟩ | ⟨-, h⟩ | ⟨-, hne, hne', h⟩
    · rw [h] at hx
      rcases List.mem_cons.mp hx with rfl | hx
      · exact Or.inl (by decide)
      · rw [List.mem_singleton.mp hx]
        refine Or.inr ⟨hy, ?_⟩
        rcases isBrace_iff.mp hbrace with rfl | rfl
        · decide
        · decide
    · rw [h] at hx
      exact Or.inl (hless x hx)
    · rw [h] at hx
      exact Or.inl (hgreater x hx)
    · rw [h] at hx
      rw [List.mem_singleton.mp hx]
      exact Or.inr ⟨hy, fun heq => hne (CodePoint.char.inj heq),
        fun heq => hne' (CodePoint.char.inj heq)⟩

theorem ne_angle_of_mem_escapeMdx {t : Text} {x : CodePoint} (h : x ∈ escapeMdx t) :
    x ≠ .char '<' ∧ x ≠ .char '>' := by
  rcases mem_of_mem_escapeMdx h with h | ⟨-, h⟩
  · exact (by decide : ∀ y ∈ ofString "\\&lgt;", y ≠ .char '<' ∧ y ≠ .char '>') x h
  · exact h

/-- Escaping pipes adds backslashes only. -/
theorem mem_of_mem_escapePipes {t : Text} {x : CodePoint} (h : x ∈ escapePipes t) :
    x = .char '\\' ∨ x ∈ t := by
  obtain ⟨y, hy, hx⟩ := List.mem_flatMap.mp h
  cases y with
  | half n => exact Or.inr (List.mem_singleton.mp hx ▸ hy)
  | char c =>
    dsimp only at hx
    split at hx
    · next hpipe =>
      rcases List.mem_cons.mp hx with rfl | hx
      · exact Or.inl rfl
      · exact Or.inr (List.mem_singleton.mp hx ▸ hpipe ▸ hy)
    · exact Or.inr (List.mem_singleton.mp hx ▸ hy)

theorem ne_angle_of_mem_cell {t : Text} {x : CodePoint} (h : x ∈ cell t) :
    x ≠ .char '<' ∧ x ≠ .char '>' := by
  rcases mem_of_mem_escapePipes h with rfl | h
  · decide
  · exact ne_angle_of_mem_escapeMdx h

/-- What an escape makes of a text: it can open no tag, and each brace has one backslash more before
it, so those are escaped that were not escaped before. -/
structure IsEscapeOf (t u : Text) : Prop where
  less : .char '<' ∉ u
  greater : .char '>' ∉ u
  runs_brace : runs isBrace u = (runs isBrace t).map (· + 1)
  allEscaped_iff : AllEscaped isBrace u ↔ NoneEscaped isBrace t

theorem isEscapeOf_escapeMdx (t : Text) : IsEscapeOf t (escapeMdx t) where
  less h := (ne_angle_of_mem_escapeMdx h).1 rfl
  greater h := (ne_angle_of_mem_escapeMdx h).2 rfl
  runs_brace := runs_escapeMdx_brace t
  allEscaped_iff := allEscaped_iff_noneEscaped (runs_escapeMdx_brace t)

theorem isEscapeOf_cell (t : Text) : IsEscapeOf t (cell t) where
  less h := (ne_angle_of_mem_cell h).1 rfl
  greater h := (ne_angle_of_mem_cell h).2 rfl
  runs_brace := runs_cell_brace t
  allEscaped_iff := allEscaped_iff_noneEscaped (runs_cell_brace t)

/-- **Free text opens no tag, and all its braces are escaped exactly if none was escaped before.** -/
theorem isEscapeOf_escapeMdx_cell (t : Text) :
    IsEscapeOf t (escapeMdx t) ∧ IsEscapeOf t (cell t) :=
  ⟨isEscapeOf_escapeMdx t, isEscapeOf_cell t⟩

theorem not_allEscaped_backslash :
    ¬ ∀ t : Text, (.char '<' ∉ escapeMdx t ∧ .char '>' ∉ escapeMdx t ∧
        AllEscaped isBrace (escapeMdx t)) ∧
      .char '<' ∉ cell t ∧ .char '>' ∉ cell t ∧ AllEscaped isBrace (cell t) := by
  intro h
  have hodd := (h (ofString "\\\x7b")).1.2.2 (ofString "\\\\") '{' [] (by decide) rfl
  exact absurd hodd (by decide)

end ApiDocs.Page
