import ApiDocs.Proofs.Text.Strings
import ApiDocs.Proofs.Yaml.Strokes

/-!
# Writing texts keeps lines tidy

Each of the three ways of writing a text starts inside a line and ends inside one
(`IsInside.plain`, `IsInside.single`, `IsInside.double`); the lines in between are indented.  What
the way asks of the text is what makes the difference: a plain text has no line breaks at all, one
in single quotes has no special characters, and in double quotes both are written as escapes.  So
whichever way is chosen for a text, its lines are tidy (`IsWritten.scalar`).
-/

namespace ApiDocs.Yaml.Pen

variable {p : Pen} {t : Text} {column : Nat}

/-! ## 1. Plain texts -/

theorem IsInside.plainSpaces (h : p.IsInside) (hcolumn : 0 < column) (fold : Bool) (spaces : Nat) :
    (p.plainSpaces column fold spaces).IsInside := by
  unfold Pen.plainSpaces
  split
  · exact h.toIsTidy.continueAt hcolumn
  · exact h.spaces spaces

theorem IsInside.plainFrom (hcolumn : 0 < column) (fold : Bool) : ∀ {t : Text} {spaces : Nat}
    {p : Pen}, p.IsInside → IsSolid t → (p.plainFrom column fold spaces t).IsInside
  | [], spaces, p, h, _ => h.spaces spaces
  | c :: t, spaces, p, h, ht => by
    have hrest : IsSolid t := fun d hd => ht d (List.mem_cons_of_mem c hd)
    have hc : IsSolid [c] := fun d hd => ht d (List.mem_singleton.mp hd ▸ List.mem_cons_self)
    unfold Pen.plainFrom
    split
    · exact IsInside.plainFrom hcolumn fold h hrest
    · exact IsInside.plainFrom hcolumn fold ((h.plainSpaces hcolumn fold spaces).put hc) hrest

theorem IsInside.plain (h : p.IsInside) (hcolumn : 0 < column) (fold : Bool) (ht : IsSolid t) :
    (p.plain column fold t).IsInside := by
  unfold Pen.plain
  dsimp only
  split
  · exact h
  · split
    · exact IsInside.plainFrom hcolumn fold (h.of_eq rfl rfl) ht
    · exact IsInside.plainFrom hcolumn fold ((h.spaces 1).of_eq rfl rfl) ht

/-- At the start of a line the first character decides. -/
theorem IsTidy.plain (h : p.IsTidy) (hcolumn : 0 < column) (fold : Bool) (ht : IsSolid t) {c : CodePoint}
    {rest : Text} (hcons : t = c :: rest) (hspace : c ≠ .char ' ') (hhyphen : c ≠ .char '-') :
    (p.plain column fold t).IsInside := by
  subst hcons
  have hc : IsSolid [c] := fun d hd => ht d (List.mem_singleton.mp hd ▸ List.mem_cons_self)
  have hrest : IsSolid rest := fun d hd => ht d (List.mem_cons_of_mem c hd)
  unfold Pen.plain
  dsimp only
  rw [if_neg (by simp)]
  split
  · unfold Pen.plainFrom
    rw [if_neg hspace]
    refine IsInside.plainFrom hcolumn fold ?_ hrest
    have hnone : ∀ q : Pen, q.plainSpaces column fold 0 = q.put [] := fun _ => if_neg (by omega)
    rw [hnone]
    refine IsTidy.put (h.of_eq rfl rfl) hc (List.cons_ne_nil c []) fun _ hbad => ?_
    exact hhyphen (Option.some.inj hbad)
  · exact IsInside.plainFrom hcolumn fold ((h.spaces Nat.one_ne_zero).of_eq rfl rfl) ht

/-! ## 2. Single quotes -/

/-- The line breaks of a gap are such. -/
def Gap.IsBroken (gap : Gap) : Prop := ∀ c ∈ gap.breaks, c.isIn isTextBreak = true

theorem IsTidy.foldl_breakLine : ∀ {breaks : Text} {p : Pen}, p.IsTidy →
    (∀ c ∈ breaks, c.isIn isTextBreak = true) → (breaks.foldl (fun p c => p.breakLine c) p).IsTidy
  | [], _, h, _ => h
  | c :: breaks, _, h, hbreaks => by
    rw [List.foldl_cons]
    exact IsTidy.foldl_breakLine (h.breakLine (hbreaks c List.mem_cons_self))
      fun d hd => hbreaks d (List.mem_cons_of_mem c hd)

theorem IsInside.singleGap (h : p.IsInside) (hcolumn : 0 < column) (fold atEnd : Bool) {gap : Gap}
    (hgap : gap.IsBroken) : (p.singleGap column fold atEnd gap).IsInside := by
  have hbreaks : ∀ c ∈ gap.breaks.reverse, c.isIn isTextBreak = true :=
    fun c hc => hgap c (List.mem_reverse.mp hc)
  unfold Pen.singleGap
  split
  · split
    · exact h.toIsTidy.indent_of_pos hcolumn
    · exact h.spaces gap.spaces
  · next first others heq =>
    rw [heq] at hbreaks
    refine (IsTidy.foldl_breakLine ?_ hbreaks).indent_of_pos hcolumn
    split
    · exact h.toIsTidy.breakLine rfl
    · exact h.toIsTidy

theorem IsInside.singleFrom (hcolumn : 0 < column) (fold : Bool) : ∀ {t : Text} {gap : Gap}
    {p : Pen}, p.IsInside → gap.IsBroken → .char '\r' ∉ t →
      (p.singleFrom column fold gap t).IsInside
  | [], gap, p, h, hgap, _ => h.singleGap hcolumn fold true hgap
  | c :: t, gap, p, h, hgap, ht => by
    rw [List.mem_cons, not_or] at ht
    have hclosed := h.singleGap hcolumn fold false hgap
    have hnone : Gap.IsBroken {} := fun d hd => absurd hd List.not_mem_nil
    unfold Pen.singleFrom
    split
    · split
      · exact IsInside.singleFrom hcolumn fold h hgap ht.2
      · exact IsInside.singleFrom hcolumn fold hclosed (fun d hd => absurd hd List.not_mem_nil) ht.2
    · split
      · next hbreak =>
        split
        · refine IsInside.singleFrom hcolumn fold h (fun d hd => ?_) ht.2
          rcases List.mem_cons.mp hd with rfl | hd
          · exact hbreak
          · exact hgap d hd
        · refine IsInside.singleFrom hcolumn fold hclosed (fun d hd => ?_) ht.2
          rw [List.mem_singleton.mp hd]
          exact hbreak
      · next hbreak =>
        refine IsInside.singleFrom hcolumn fold (hclosed.put ?_) hnone ht.2
        split
        · exact isSolid_ofString (s := "''") (by decide)
        · intro d hd
          rw [List.mem_singleton.mp hd]
          refine ⟨?_, Ne.symm ht.1⟩
          rintro rfl
          exact hbreak rfl

theorem IsInside.single (h : p.IsInside) (hcolumn : 0 < column) (fold : Bool)
    (ht : .char '\r' ∉ t) : (p.single column fold t).IsInside := by
  have hquote : IsSolid (Text.ofString "'") := isSolid_ofString (by decide)
  have hnone : Gap.IsBroken { atStart := true } := fun d hd => absurd hd List.not_mem_nil
  exact (IsInside.singleFrom hcolumn fold (h.indicator hquote true false false) hnone ht).indicator
    hquote false false false

/-! ## 3. Double quotes -/

theorem mem_lastDigits {base : Nat} (hbase : 0 < base) {c : Char} : ∀ {width n : Nat},
    c ∈ Text.lastDigits base width n → ∃ d < base, c = Text.digit d
  | 0, _, h => absurd h List.not_mem_nil
  | width + 1, n, h => by
    rcases List.mem_append.mp h with h | h
    · exact mem_lastDigits hbase h
    · exact ⟨n % base, Nat.mod_lt n hbase, List.mem_singleton.mp h⟩

theorem isSolid_escape (n : Nat) : IsSolid (Text.ofChars (escape n)) := by
  have hhex : ∀ width, ∀ c ∈ (Text.lastDigits 16 width n).map Char.toUpper,
      c ≠ '\n' ∧ c ≠ '\r' := by
    have hdigit : ∀ d < 16, (Text.digit d).toUpper ≠ '\n' ∧ (Text.digit d).toUpper ≠ '\r' := by
      decide
    intro width c hc
    obtain ⟨e, he, rfl⟩ := List.mem_map.mp hc
    obtain ⟨d, hd, rfl⟩ := mem_lastDigits (by decide) he
    exact hdigit d hd
  have hmark : ∀ {mark : Char} {cs : List Char}, mark ≠ '\n' ∧ mark ≠ '\r' →
      (∀ c ∈ cs, c ≠ '\n' ∧ c ≠ '\r') → ∀ c ∈ '\\' :: mark :: cs, c ≠ '\n' ∧ c ≠ '\r' := by
    intro mark cs hm hcs c hc
    rcases List.mem_cons.mp hc with rfl | hc
    · decide
    · rcases List.mem_cons.mp hc with rfl | hc
      · exact hm
      · exact hcs c hc
  refine isSolid_ofChars ?_
  unfold escape
  dsimp only
  split
  · next letter hletter =>
    have hall : ∀ letters : List (Nat × Char), letters.lookup n = some letter →
        (∀ e ∈ letters, e.2 ≠ '\n' ∧ e.2 ≠ '\r') → letter ≠ '\n' ∧ letter ≠ '\r' := by
      intro letters hlookup h
      obtain ⟨before, after, rfl, -⟩ := List.lookup_eq_some_iff.mp hlookup
      exact h (n, letter) (List.mem_append_right before List.mem_cons_self)
    exact hmark (hall _ hletter (by decide)) fun c hc => absurd hc List.not_mem_nil
  · split
    · exact hmark (by decide) (hhex 2)
    · split
      · exact hmark (by decide) (hhex 4)
      · exact hmark (by decide) (hhex 8)

theorem IsInside.foldDouble (h : p.IsInside) (hcolumn : 0 < column) (next : Option CodePoint) :
    (p.foldDouble column next).IsInside := by
  have hslash : IsSolid (Text.ofString "\\") := isSolid_ofString (by decide)
  have hline := (h.put hslash).toIsTidy.continueAt hcolumn
  unfold Pen.foldDouble
  dsimp only
  split
  · exact hline.put hslash
  · exact hline

/-- What waits to be written is made of characters that stand for themselves. -/
theorem IsInside.doubleFrom (hcolumn : 0 < column) (fold : Bool) (length : Nat) : ∀ {t waiting : Text}
    {index : Nat} {p : Pen}, p.IsInside → IsSolid waiting →
      (p.doubleFrom column fold length index waiting t).IsInside
  | [], waiting, index, p, h, hwaiting =>
    h.put fun c hc => hwaiting c (List.mem_reverse.mp hc)
  | c :: t, waiting, index, p, h, hwaiting => by
    have hput := h.put fun c hc => hwaiting c (List.mem_reverse.mp hc)
    unfold Pen.doubleFrom
    dsimp only
    split
    · next hbare =>
      have hc : c ≠ .char '\n' ∧ c ≠ .char '\r' := by
        constructor
        · rintro rfl
          exact absurd hbare (by decide)
        · rintro rfl
          exact absurd hbare (by decide)
      split
      · refine IsInside.doubleFrom hcolumn fold length (hput.foldDouble hcolumn _) fun d hd => ?_
        exact List.mem_singleton.mp hd ▸ hc
      · refine IsInside.doubleFrom hcolumn fold length h fun d hd => ?_
        rcases List.mem_cons.mp hd with rfl | hd
        · exact hc
        · exact hwaiting d hd
    · have hescape := hput.put (isSolid_escape c.toNat)
      refine IsInside.doubleFrom hcolumn fold length ?_ fun d hd => absurd hd List.not_mem_nil
      split
      · exact hescape.foldDouble hcolumn _
      · exact hescape

theorem IsInside.double (h : p.IsInside) (hcolumn : 0 < column) (fold : Bool) (t : Text) :
    (p.double column fold t).IsInside := by
  have hquote : IsSolid (Text.ofString "\"") := isSolid_ofString (by decide)
  exact (IsInside.doubleFrom hcolumn fold _ (h.indicator hquote true false false)
    fun d hd => absurd hd List.not_mem_nil).indicator hquote false false false

/-! ## 4. The way that is chosen -/

theorem notMem_of_needsEscapes {cs : List Char} (h : needsEscapes cs = false) :
    .char '\r' ∉ Text.ofChars cs := by
  intro hmem
  obtain ⟨c, hc, heq⟩ := List.mem_map.mp hmem
  obtain rfl := CodePoint.char.inj heq
  have hspecial : cs.any isSpecial = true := List.any_eq_true.mpr ⟨_, hc, by decide⟩
  unfold needsEscapes at h
  rw [hspecial, Bool.or_true] at h
  cases h

/-- A text that is written plain stands on one line, if it is not folded. -/
theorem isSolid_of_allowsPlain {cs : List Char} (h : allowsPlain cs = true) :
    IsSolid (Text.ofChars cs) := by
  unfold allowsPlain at h
  simp only [Bool.and_eq_true, Bool.not_eq_true'] at h
  obtain ⟨⟨⟨-, hescapes⟩, hbreaks⟩, -⟩ := h
  have hreturn := notMem_of_needsEscapes hescapes
  refine isSolid_ofChars fun c hc => ⟨?_, ?_⟩
  · rintro rfl
    rw [List.any_eq_true.mpr ⟨_, hc, by decide⟩] at hbreaks
    cases hbreaks
  · rintro rfl
    exact hreturn (List.mem_map_of_mem hc)

/-- What choosing a style says about a text that is written without a mark of its type. -/
theorem chooseStyle_str {t : Text} {asKey : Bool} {style : Style}
    (h : Scalar.chooseStyle asKey ⟨t, .str, false⟩ = style) :
    (style = .plain ∧ Scalar.resolvesPlain ⟨t, .str, false⟩ = true ∧
        ∃ cs, t = Text.ofChars cs ∧ allowsPlain cs = true) ∨
      (style = .single ∧ .char '\r' ∉ t) ∨ style = .double := by
  unfold Scalar.chooseStyle at h
  cases hchars : Text.chars? t with
  | none =>
    rw [hchars] at h
    exact Or.inr (Or.inr h.symm)
  | some cs =>
    have ht := Text.chars?_eq_some hchars
    rw [hchars] at h
    unfold Option.elim Scalar.styleOf at h
    dsimp only at h
    split at h
    · next hplain =>
      simp only [Bool.and_eq_true] at hplain
      exact Or.inl ⟨h.symm, hplain.1.1.2, cs, ht, hplain.2⟩
    · rw [if_neg Bool.false_ne_true] at h
      split at h
      · next hsingle =>
        simp only [allowsSingle, Bool.and_eq_true, Bool.not_eq_true'] at hsingle
        exact Or.inr (Or.inl ⟨h.symm, ht ▸ notMem_of_needsEscapes hsingle.1.2⟩)
      · exact Or.inr (Or.inr h.symm)

/-- Something has been written on the line, and the pen is inside it. -/
structure IsWritten (p : Pen) : Prop extends IsInside p where
  used : p.fresh = false

theorem fresh_plainFrom (fold : Bool) : ∀ {t : Text} {spaces : Nat} {p : Pen}, p.fresh = false →
    (p.plainFrom column fold spaces t).fresh = false
  | [], _, _, h => h
  | c :: t, spaces, p, h => by
    unfold Pen.plainFrom
    split
    · exact fresh_plainFrom fold h
    · refine fresh_plainFrom fold ?_
      unfold Pen.plainSpaces
      split
      · rfl
      · exact h

theorem IsWritten.plain (h : p.IsWritten) (hcolumn : 0 < column) (fold : Bool) (ht : IsSolid t) :
    (p.plain column fold t).IsWritten := by
  refine ⟨h.toIsInside.plain hcolumn fold ht, ?_⟩
  unfold Pen.plain
  dsimp only
  split
  · exact h.used
  · exact fresh_plainFrom fold rfl

theorem fresh_indicator (p : Pen) (t : String) (needsSpace spaced : Bool) :
    (p.indicator t needsSpace spaced false).fresh = false :=
  Bool.and_false p.fresh

/-- **Whatever text is written as a value, its lines are tidy.** -/
theorem IsWritten.scalar (h : p.IsWritten) (hcolumn : 0 < column) (t : Text) :
    (p.scalar column false ⟨t, .str, false⟩).IsWritten := by
  unfold Pen.scalar
  dsimp only
  rcases @chooseStyle_str t false _ rfl with
    ⟨hstyle, hresolves, cs, hcs, hplain⟩ | ⟨hstyle, hreturn⟩ | hstyle
  · have hmark : Scalar.mark ⟨t, .str, false⟩ .plain = none := by
      unfold Scalar.mark
      rw [hresolves]
      rfl
    rw [hstyle, hmark]
    exact h.plain hcolumn _ (hcs ▸ isSolid_of_allowsPlain hplain)
  · rw [hstyle]
    exact ⟨h.toIsInside.single hcolumn _ hreturn, fresh_indicator _ _ _ _⟩
  · rw [hstyle]
    exact ⟨h.toIsInside.double hcolumn _ t, fresh_indicator _ _ _ _⟩

end ApiDocs.Yaml.Pen
