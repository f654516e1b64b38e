import ApiDocs.Proofs.Slug.Assignment
import ApiDocs.Proofs.Slug.Projection

/-!
# What slugs are made of

Whatever a text holds, of its slug there remain small letters and digits of ASCII, in blocks with
single hyphens between them (`IsKebab`), or nothing at all (`isKebab_slugify`).  That each block is
all letters or all digits (`IsSlug`) does not matter where slugs are names of files.

A numbered suffix is one more block, so every form of a slug has the same shape (`IsKebab.form`),
and so has everything that is handed out (`isKebab_of_mem_assign`).
-/

namespace ApiDocs.Slug

/-! ## 1. Slugs -/

/-- A small letter or a digit of ASCII: the characters `a` to `z` and `0` to `9`. -/
def isSlugChar (c : Char) : Bool := c.isLower || c.isDigit

/-- One or more blocks of small letters and digits with single hyphens between them. -/
def IsKebab (t : Text) : Prop :=
  ∃ blocks : List (List Char), blocks ≠ [] ∧
    (∀ block ∈ blocks, block ≠ [] ∧ ∀ c ∈ block, isSlugChar c = true) ∧
    t = Text.ofChars (List.intercalate ['-'] blocks)

theorem eq_hyphen_or_isSlugChar {t : Text} (h : IsKebab t) {p : CodePoint} (hp : p ∈ t) :
    ∃ c : Char, p = .char c ∧ (c = '-' ∨ isSlugChar c = true) := by
  obtain ⟨blocks, -, hblocks, rfl⟩ := h
  obtain ⟨c, hc, rfl⟩ := List.mem_map.mp hp
  refine ⟨c, rfl, ?_⟩
  rcases Text.mem_intercalate hc with hc | ⟨block, hblock, hc⟩
  · exact Or.inl (List.mem_singleton.mp hc)
  · exact Or.inr ((hblocks block hblock).2 c hc)

theorem IsSlug.isKebab {s : String} (h : IsSlug s) : IsKebab s := by
  obtain ⟨blocks, hne, hblocks, hchars⟩ := h
  refine ⟨blocks, hne, fun block hblock => ?_, congrArg Text.ofChars hchars⟩
  obtain ⟨hblock, hsmall | hdigits⟩ := hblocks block hblock
  · exact ⟨hblock, fun c hc => by simp [isSlugChar, hsmall c hc]⟩
  · exact ⟨hblock, fun c hc => by simp [isSlugChar, hdigits c hc]⟩

/-- **A slug is empty or has the shape.** -/
theorem isKebab_slugify (t : Text) : Text.ofString (slugify t) = [] ∨ IsKebab (slugify t) :=
  or_iff_not_imp_left.mpr fun h => (isSlug_slugify fun hempty => h (by rw [hempty]; rfl)).isKebab

theorem isKebab_block {cs : List Char} (hne : cs ≠ []) (h : cs.all isSlugChar = true) :
    IsKebab (Text.ofChars cs) :=
  ⟨[cs], List.cons_ne_nil _ _, List.forall_mem_singleton.mpr ⟨hne, List.all_eq_true.mp h⟩,
    by rw [List.intercalate_singleton]⟩

/-! ## 2. Suffixes -/

/-- One more part comes after one more separator. -/
theorem intercalate_concat {separator last : List Char} : ∀ {parts : List (List Char)},
    parts ≠ [] → List.intercalate separator (parts ++ [last])
      = List.intercalate separator parts ++ separator ++ last
  | [], h => absurd rfl h
  | [part], _ => by simp
  | part :: next :: parts, _ => by
    have ih := @intercalate_concat separator last (next :: parts) (List.cons_ne_nil _ _)
    rw [List.cons_append, List.cons_append, List.intercalate_cons_cons, ← List.cons_append, ih,
      List.intercalate_cons_cons]
    simp only [List.append_assoc]

/-- A suffix is one more block. -/
theorem IsKebab.suffixed {slug : Text} (h : IsKebab slug) (n : Nat) :
    IsKebab (suffixed slug n) := by
  obtain ⟨blocks, hne, hblocks, rfl⟩ := h
  refine ⟨blocks ++ [Text.decimal n], by simp, ?_, ?_⟩
  · intro block hblock
    rcases List.mem_append.mp hblock with hblock | hblock
    · exact hblocks block hblock
    · obtain rfl := List.mem_singleton.mp hblock
      refine ⟨by simp [Text.decimal], fun c hc => ?_⟩
      rw [isSlugChar, Nat.isDigit_of_mem_toDigits (by omega) (by omega) hc, Bool.or_true]
  · rw [suffixed_eq, intercalate_concat hne, List.append_assoc, Text.ofChars_append]
    rfl

theorem IsKebab.form {slug : Text} (h : IsKebab slug) : ∀ n, IsKebab (form slug n)
  | 0 => h
  | _ + 1 => h.suffixed _

/-- **What is handed out has the shape**, if everything that is asked for has it. -/
theorem isKebab_of_mem_assign {slugs taken : List Text} {s : Text}
    (hall : ∀ slug ∈ slugs, IsKebab slug) (h : s ∈ assign taken slugs) : IsKebab s := by
  obtain ⟨slug, hslug, n, rfl⟩ := exists_form_of_mem_assign h
  exact (hall slug hslug).form n

end ApiDocs.Slug
