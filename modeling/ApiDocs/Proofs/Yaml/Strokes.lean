import ApiDocs.Yaml.Pen
import Mathlib.Data.List.Chain

/-!
# The lines of written scalars

A scalar may be folded over several lines, and a text in quotes may hold line breaks of its own.
Whatever is written, the further lines of a scalar are indented: a line feed is never followed by a
hyphen, and no carriage return is written at all.  So a line of three hyphens cannot arise within
front matter.

The invariant is `Pen.IsTidy`.  Single strokes keep it, and most of them leave the pen inside a line
(`Pen.IsInside`), from where any characters can be written; then so do the three ways of writing a
text (`IsInside.plain`, `IsInside.single`, `IsInside.double`).
-/

namespace ApiDocs.Yaml

/-! ## 1. The invariant -/

/-- The two code points are not a hyphen after a line feed. -/
def IsInner (after before : CodePoint) : Prop := ¬ (after = .char '-' ∧ before = .char '\n')

/-- Code points that end no line. -/
def IsSolid (t : Text) : Prop := ∀ p ∈ t, p ≠ .char '\n' ∧ p ≠ .char '\r'

theorem isSolid_ofChars {cs : List Char} (h : ∀ c ∈ cs, c ≠ '\n' ∧ c ≠ '\r') :
    IsSolid (Text.ofChars cs) := by
  intro p hp
  obtain ⟨c, hc, rfl⟩ := List.mem_map.mp hp
  exact ⟨fun heq => (h c hc).1 (CodePoint.char.inj heq),
    fun heq => (h c hc).2 (CodePoint.char.inj heq)⟩

theorem isSolid_ofString {s : String} (h : s.toList.all (fun c => c != '\n' && c != '\r') = true) :
    IsSolid (Text.ofString s) := by
  refine isSolid_ofChars fun c hc => ?_
  have hsolid := List.all_eq_true.mp h c hc
  rw [Bool.and_eq_true, bne_iff_ne, bne_iff_ne] at hsolid
  exact hsolid

namespace Pen

/-- No line but the first starts with a hyphen, and there are no carriage returns. -/
structure IsTidy (p : Pen) : Prop where
  clean : .char '\r' ∉ p.written
  lines : p.written.IsChain IsInner
  margin : p.written.head? = some (.char '\n') → p.column = 0

/-- The pen is tidy, and something stands before it on its line or nothing at all. -/
structure IsInside (p : Pen) : Prop extends IsTidy p where
  inner : p.written.head? ≠ some (.char '\n')

variable {p q : Pen} {t : Text}

/-- Only what is written and the column matter. -/
theorem IsTidy.of_eq (h : p.IsTidy) (hwritten : q.written = p.written)
    (hcolumn : q.column = p.column) : q.IsTidy :=
  ⟨hwritten ▸ h.clean, hwritten ▸ h.lines, fun hhead => hcolumn ▸ h.margin (hwritten ▸ hhead)⟩

theorem IsInside.of_eq (h : p.IsInside) (hwritten : q.written = p.written)
    (hcolumn : q.column = p.column) : q.IsInside :=
  ⟨h.toIsTidy.of_eq hwritten hcolumn, hwritten ▸ h.inner⟩

theorem isInside_empty : IsInside {} :=
  ⟨⟨List.not_mem_nil, .nil, fun h => by cases h⟩, fun h => by cases h⟩

/-! ## 2. Single strokes -/

theorem isChain_of_isSolid (h : IsSolid t) : t.IsChain IsInner := by
  refine List.Pairwise.isChain (List.pairwise_iff_forall_sublist.mpr fun {a b} hsub hbad => ?_)
  exact (h b (hsub.subset (List.mem_cons_of_mem a (List.mem_singleton_self b)))).1 hbad.2

/-- Characters that end no line can be written where the first of them starts no line with a
hyphen. -/
theorem IsTidy.put (h : p.IsTidy) (ht : IsSolid t) (hne : t ≠ [])
    (hfirst : p.written.head? = some (.char '\n') → t.head? ≠ some (.char '-')) :
    (p.put t).IsInside := by
  have hreverse : IsSolid t.reverse := fun c hc => ht c (List.mem_reverse.mp hc)
  have hhead : (t.reverse ++ p.written).head? ≠ some (.char '\n') := by
    obtain ⟨c, cs, hcs⟩ := List.exists_cons_of_ne_nil (List.reverse_ne_nil_iff.mpr hne)
    rw [hcs]
    exact fun heq => (hreverse c (hcs ▸ List.mem_cons_self)).1 (Option.some.inj heq)
  refine ⟨⟨fun hmem => ?_, ?_, fun hnl => absurd hnl hhead⟩, hhead⟩
  · rcases List.mem_append.mp hmem with hmem | hmem
    · exact (hreverse _ hmem).2 rfl
    · exact h.clean hmem
  · refine List.isChain_append.mpr ⟨isChain_of_isSolid hreverse, h.lines, ?_⟩
    rintro a ha b hb ⟨rfl, rfl⟩
    rw [List.getLast?_reverse] at ha
    exact hfirst hb ha

theorem IsInside.put (h : p.IsInside) (ht : IsSolid t) : (p.put t).IsInside := by
  by_cases hne : t = []
  · subst hne
    exact h.of_eq rfl rfl
  · exact h.toIsTidy.put ht hne fun hnl => absurd hnl h.inner

theorem isSolid_spaces (n : Nat) : IsSolid (Text.ofChars (List.replicate n ' ')) := by
  refine isSolid_ofChars fun c hc => ?_
  rw [List.eq_of_mem_replicate hc]
  decide

theorem IsInside.spaces (h : p.IsInside) (n : Nat) : (p.spaces n).IsInside :=
  h.put (isSolid_spaces n)

theorem IsTidy.spaces (h : p.IsTidy) {n : Nat} (hn : n ≠ 0) : (p.spaces n).IsInside := by
  obtain ⟨n, rfl⟩ := Nat.exists_eq_succ_of_ne_zero hn
  refine h.put (isSolid_spaces _) (List.cons_ne_nil _ _) fun _ hbad => ?_
  exact absurd (Option.some.inj hbad) (by decide)

/-- A line break can be written anywhere. -/
theorem IsTidy.breakLine (h : p.IsTidy) {c : CodePoint} (hc : c.isIn isTextBreak = true) :
    (p.breakLine c).IsTidy := by
  refine ⟨fun hmem => ?_, ?_, fun _ => rfl⟩
  · rcases List.mem_cons.mp hmem with rfl | hmem
    · exact absurd hc (by decide)
    · exact h.clean hmem
  · refine List.isChain_cons.mpr ⟨?_, h.lines⟩
    rintro _ - ⟨rfl, -⟩
    exact absurd hc (by decide)

theorem IsTidy.indent (h : p.IsTidy) (column : Nat) : (p.indent column).IsTidy := by
  have hbreak : ∀ q : Pen, q.IsTidy → (if q.column < column then
      { q.spaces (column - q.column) with spaced := true } else q).IsTidy := by
    intro q hq
    split
    · next hlt => exact (hq.spaces (by omega)).toIsTidy.of_eq rfl rfl
    · exact hq
  unfold Pen.indent
  dsimp only
  split
  · exact hbreak _ (h.breakLine rfl)
  · exact hbreak _ h

/-- A line that is indented starts with a space. -/
theorem IsTidy.indent_of_pos (h : p.IsTidy) {column : Nat} (hcolumn : 0 < column) :
    (p.indent column).IsInside := by
  have htidy := h.indent column
  refine ⟨htidy, fun hhead => ?_⟩
  have hzero := htidy.margin hhead
  have hle : ∀ q : Pen, column ≤ (if q.column < column then
      { q.spaces (column - q.column) with spaced := true } else q).column := by
    intro q
    split
    · next hlt =>
      show column ≤ q.column + (Text.ofChars (List.replicate (column - q.column) ' ')).length
      rw [Text.ofChars, List.length_map, List.length_replicate]
      omega
    · next hle => exact Nat.not_lt.mp hle
  have hindented : column ≤ (p.indent column).column := hle _
  omega

theorem IsTidy.continueAt (h : p.IsTidy) {column : Nat} (hcolumn : 0 < column) :
    (p.continueAt column).IsInside :=
  (h.indent_of_pos hcolumn).of_eq rfl rfl

theorem IsInside.indicator (h : p.IsInside) (ht : IsSolid t) (needsSpace spaced fresh : Bool) :
    (p.indicator t needsSpace spaced fresh).IsInside := by
  have hspace : IsSolid (.char ' ' :: t) := by
    intro c hc
    rcases List.mem_cons.mp hc with rfl | hc
    · decide
    · exact ht c hc
  unfold Pen.indicator
  dsimp only
  split
  · exact (h.put ht).of_eq rfl rfl
  · exact (h.put hspace).of_eq rfl rfl

end Pen

end ApiDocs.Yaml
