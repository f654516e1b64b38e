import ApiDocs.Proofs.Json.RoundTrip
import ApiDocs.Proofs.Text.Splitting

/-!
# The lines of a printed value

Outside its strings a printed value has only brackets, commas, colons, spaces, line feeds, words and
numbers.  So what holds of these and of strings holds of the whole, if it holds of texts together
that it holds of one by one (`write_induct`).

**Every backtick stands in a string, so there is a quote before it on its line** (`isQuoted_write`):
no line of the text starts with one, whatever the value is.
-/

namespace ApiDocs.Json

/-! ## 1. Outside strings -/

/-- A character that may stand outside strings on a line: no quote, no backtick and no control
character. -/
def isOutside (c : Char) : Bool := 0x20 ≤ c.toNat && c != '"' && c != '`'

theorem isOutside_of_isDigit {c : Char} (h : Text.isDigit c = true) : isOutside c = true := by
  have hbounds := Bool.and_eq_true_iff.mp h
  have hzero : '0'.toNat ≤ c.toNat := of_decide_eq_true hbounds.1
  have hle : 0x20 ≤ c.toNat := Nat.le_trans (by decide) hzero
  simp [isOutside, hle, Text.ne_of_isDigit h (c := '"') rfl, Text.ne_of_isDigit h (c := '`') rfl]

/-- Characters that may stand outside strings. -/
def Outside (cs : List Char) : Prop := cs.all isOutside = true

theorem outside_iff {cs : List Char} : Outside cs ↔ ∀ c ∈ cs, isOutside c = true :=
  List.all_eq_true

theorem outside_append {as bs : List Char} : Outside (as ++ bs) ↔ Outside as ∧ Outside bs := by
  unfold Outside
  rw [List.all_append, Bool.and_eq_true]

theorem outside_cons {c : Char} {cs : List Char} :
    Outside (c :: cs) ↔ isOutside c = true ∧ Outside cs := by
  unfold Outside
  rw [List.all_cons, Bool.and_eq_true]

theorem notMem_of_outside {c : Char} {cs : List Char} (h : Outside cs) (hc : isOutside c = false) :
    CodePoint.char c ∉ Text.ofChars cs := by
  intro hmem
  obtain ⟨d, hd, heq⟩ := List.mem_map.mp hmem
  cases heq
  rw [outside_iff.mp h c hd] at hc
  cases hc

theorem outside_decimal (n : Nat) : Outside (Text.decimal n) :=
  outside_iff.mpr fun _ hc => isOutside_of_isDigit (Text.isDigit_of_mem_decimal hc)

theorem outside_zeros (k : Nat) : Outside (List.replicate k '0') := by
  refine outside_iff.mpr fun c hc => ?_
  rw [List.eq_of_mem_replicate hc]
  rfl

theorem outside_signedDecimal (i : Int) : Outside (Text.signedDecimal i) := by
  unfold Text.signedDecimal
  split
  · exact outside_cons.mpr ⟨rfl, outside_decimal _⟩
  · exact outside_decimal _

theorem outside_layOut (st : Decimal.Style) {ds : List Char} (h : Outside ds) (lead : Int) :
    Outside (st.layOut ds lead) := by
  have htake : ∀ k, Outside (ds.take k) := fun k =>
    outside_iff.mpr fun c hc => outside_iff.mp h c (List.mem_of_mem_take hc)
  have hdrop : ∀ k, Outside (ds.drop k) := fun k =>
    outside_iff.mpr fun c hc => outside_iff.mp h c (List.mem_of_mem_drop hc)
  unfold Decimal.Style.layOut
  split
  · split
    · exact outside_append.mpr
        ⟨outside_cons.mpr ⟨rfl, outside_cons.mpr ⟨rfl, outside_zeros _⟩⟩, h⟩
    · refine outside_append.mpr ⟨outside_append.mpr ⟨htake _, outside_zeros _⟩,
        outside_cons.mpr ⟨rfl, ?_⟩⟩
      split
      · exact outside_zeros 1
      · exact hdrop _
  · have hpoint : Outside (if !(ds.drop 1).isEmpty then '.' :: ds.drop 1
        else if st.pointBeforeExponent then ['.', '0'] else []) := by
      split
      · exact outside_cons.mpr ⟨rfl, hdrop 1⟩
      split
      · exact outside_cons.mpr ⟨rfl, outside_zeros 1⟩
      · exact rfl
    have hsign : isOutside (if lead < 0 then '-' else '+') = true := by
      split
      · rfl
      · rfl
    have hexponent : Outside (Text.zeroPadded 2 lead.natAbs) :=
      outside_append.mpr ⟨outside_zeros _, outside_decimal _⟩
    exact outside_append.mpr ⟨outside_append.mpr ⟨htake 1, hpoint⟩,
      outside_cons.mpr ⟨rfl, outside_cons.mpr ⟨hsign, hexponent⟩⟩⟩

theorem outside_float (x : Decimal.Binary64) : Outside (floatStyle.text x) := by
  have hsign : ∀ negative : Bool, Outside (if negative then ['-'] else []) := by
    intro negative
    split
    · exact rfl
    · exact rfl
  cases x with
  | nan => exact rfl
  | infinity negative => exact outside_append.mpr ⟨hsign negative, rfl⟩
  | finite negative m e =>
    refine outside_append.mpr ⟨hsign negative, ?_⟩
    split
    · exact rfl
    · refine outside_layOut _ (outside_iff.mpr fun c hc => ?_) _
      have hmem := (List.dropWhile_sublist _).subset (List.mem_reverse.mp hc)
      exact outside_iff.mp (outside_decimal _) c (List.mem_reverse.mp hmem)

/-! ## 2. What holds of whole texts -/

section Induction

variable {P : Text → Prop} (houtside : ∀ cs, Outside cs → P (Text.ofChars cs))
  (hfeed : P [.char '\n']) (hstring : ∀ s, P (writeString s))
  (happend : ∀ t u, P t → P u → P (t ++ u))

include houtside happend

theorem joinWith_induct {separator : Text} (hseparator : P separator) :
    ∀ {parts : List Text}, (∀ part ∈ parts, P part) → P (Text.joinWith separator parts)
  | [], _ => houtside [] rfl
  | [part], h => by
    unfold Text.joinWith
    rw [List.intercalate_singleton]
    exact h part List.mem_cons_self
  | first :: second :: parts, h => by
    obtain ⟨hfirst, hothers⟩ := List.forall_mem_cons.mp h
    have ih := joinWith_induct hseparator hothers
    unfold Text.joinWith at ih ⊢
    rw [List.intercalate_cons_cons]
    exact happend _ _ (happend _ _ hfirst hseparator) ih

include hfeed

theorem newLine_induct (level : Nat) : P (newLine level) := by
  refine happend _ _ hfeed (houtside _ (outside_iff.mpr fun c hc => ?_))
  rw [List.eq_of_mem_replicate hc]
  rfl

theorem block_induct (level : Nat) {left right : Char} (hleft : isOutside left = true)
    (hright : isOutside right = true) {parts : List Text} (h : ∀ part ∈ parts, P part) :
    P (block level left right parts) := by
  have hchar : ∀ {c}, isOutside c = true → P [.char c] := fun hc =>
    houtside [_] (outside_cons.mpr ⟨hc, rfl⟩)
  by_cases hnil : parts = []
  · rw [hnil]
    exact happend _ _ (hchar hleft) (hchar hright)
  · have hline := newLine_induct houtside hfeed happend
    have hseparator : P (.char ',' :: newLine (level + 1)) :=
      happend _ _ (hchar rfl) (hline (level + 1))
    have hparts := joinWith_induct houtside happend hseparator h
    rw [block_of_ne_nil level left right hnil]
    exact happend _ _ (happend _ _ (happend _ _ (happend _ _ (hchar hleft) (hline _)) hparts)
      (hline _)) (hchar hright)

include hstring

/-- **What holds of what stands outside strings, of line feeds and of strings holds of a printed
value**, if it holds of two texts together that it holds of. -/
theorem write_induct (v : Json) : ∀ level : Nat, P (write level v) := by
  induction v using induct with
  | null => exact fun _ => houtside "null".toList rfl
  | bool b =>
    cases b with
    | false => exact fun _ => houtside "false".toList rfl
    | true => exact fun _ => houtside "true".toList rfl
  | int i => exact fun _ => houtside _ (outside_signedDecimal i)
  | float x => exact fun _ => houtside _ (outside_float x)
  | str s => exact fun _ => hstring s
  | arr items ih =>
    intro level
    rw [write_arr]
    refine block_induct houtside hfeed happend level rfl rfl (List.forall_mem_map.mpr fun v hv => ?_)
    exact ih v hv (level + 1)
  | obj members ih =>
    intro level
    rw [write_obj]
    refine block_induct houtside hfeed happend level rfl rfl (List.forall_mem_map.mpr fun m hm => ?_)
    have hcolon : P [.char ':', .char ' '] := houtside [':', ' '] rfl
    exact happend _ _ (hstring m.1) (happend _ _ hcolon (ih m hm (level + 1)))

end Induction

/-- **The text of a value holds no control characters but line feeds.** -/
theorem isLaidOut_write (level : Nat) (v : Json) : IsLaidOut (write level v) := by
  refine write_induct (P := IsLaidOut) (fun cs hcs x hx => Or.inr ?_) (fun x hx => Or.inl ?_)
    isLaidOut_writeString (fun _ _ => isLaidOut_append) v level
  · obtain ⟨c, hc, rfl⟩ := List.mem_map.mp hx
    have houtside := outside_iff.mp hcs c hc
    simp only [isOutside, Bool.and_eq_true, decide_eq_true_eq] at houtside
    exact houtside.1.1
  · exact List.mem_singleton.mp hx

/-! ## 3. Backticks -/

/-- Before every backtick of the text there is a quote on its line. -/
def IsQuoted (t : Text) : Prop := ∀ before after, t = before ++ .char '`' :: after →
  ∃ start line, before = start ++ .char '"' :: line ∧ ∀ x ∈ line, x.isIn Text.isNewline = false

theorem IsQuoted.append {t u : Text} (ht : IsQuoted t) (hu : IsQuoted u) : IsQuoted (t ++ u) := by
  intro before after h
  rcases List.append_eq_append_iff.mp h with ⟨rest, rfl, hrest⟩ | ⟨rest, rfl, hrest⟩
  · obtain ⟨start, line, rfl, hline⟩ := hu rest after hrest
    exact ⟨t ++ start, line, by simp, hline⟩
  · cases rest with
    | nil =>
      obtain ⟨start, line, hstart, hline⟩ := hu [] after hrest.symm
      cases start <;> cases hstart
    | cons x rest =>
      obtain rfl : .char '`' = x := (List.cons.inj hrest).1
      exact ht before rest rfl

theorem isQuoted_of_notMem {t : Text} (h : .char '`' ∉ t) : IsQuoted t := by
  rintro before after rfl
  exact absurd (List.mem_append_right before List.mem_cons_self) h

theorem isQuoted_writeString (s : Text) : IsQuoted (writeString s) := by
  intro before after h
  cases before with
  | nil => exact absurd (List.cons.inj h).1 (by decide)
  | cons x line =>
    obtain rfl : .char '"' = x := (List.cons.inj h).1
    refine ⟨[], line, rfl, fun y hy => ?_⟩
    refine Text.isIn_isNewline_of_le (le_of_mem_writeString (s := s) ?_)
    rw [h]
    exact List.mem_append_left _ (List.mem_cons_of_mem _ hy)

/-- **Every backtick of a printed value stands in a string.** -/
theorem isQuoted_write (level : Nat) (v : Json) : IsQuoted (write level v) :=
  write_induct (fun _ hcs => isQuoted_of_notMem (notMem_of_outside hcs rfl))
    (isQuoted_of_notMem (by decide)) isQuoted_writeString (fun _ _ => IsQuoted.append) v level

/-- A quote before the end of a text is none of the spaces there. -/
theorem exists_append_of_spaces {before spaces start rest : Text}
    (hspaces : ∀ x ∈ spaces, x = .char ' ') (h : before ++ spaces = start ++ .char '"' :: rest) :
    ∃ middle, before = start ++ .char '"' :: middle ∧ rest = middle ++ spaces := by
  have hquote : CodePoint.char '"' ∉ spaces := fun hmem => absurd (hspaces _ hmem) (by decide)
  rcases List.append_eq_append_iff.mp h with ⟨middle, rfl, hrest⟩ | ⟨middle, rfl, hrest⟩
  · rw [hrest] at hquote
    exact absurd (List.mem_append_right middle List.mem_cons_self) hquote
  · cases middle with
    | nil =>
      rw [← List.nil_append spaces, ← hrest] at hquote
      exact absurd List.mem_cons_self hquote
    | cons x middle =>
      obtain ⟨rfl, rfl⟩ := List.cons.inj hrest
      exact ⟨middle, rfl, rfl⟩

/-- **No line starts with a backtick**, if there is a quote before each on its line. -/
theorem IsQuoted.head_ne {t line : Text} (h : IsQuoted t) (hline : line ∈ Text.lines t) :
    (line.dropWhile (· == .char ' ')).head? ≠ some (.char '`') := by
  intro hhead
  obtain ⟨tail, htail⟩ := List.head?_eq_some_iff.mp hhead
  obtain ⟨before, after, rfl, hbefore⟩ := Text.exists_append_of_mem_splitOnP hline
  have hspaces : ∀ x ∈ line.takeWhile (· == .char ' '), x = .char ' ' :=
    fun x hx => beq_iff_eq.mp (List.all_eq_true.mp List.all_takeWhile x hx)
  have hsplit := List.takeWhile_append_dropWhile (p := (· == CodePoint.char ' ')) (l := line)
  rw [htail] at hsplit
  rw [← hsplit] at h
  obtain ⟨start, rest, hstart, hrest⟩ := h (before ++ line.takeWhile (· == .char ' ')) (tail ++ after)
    (by simp)
  obtain ⟨middle, rfl, rfl⟩ := exists_append_of_spaces hspaces hstart
  -- The quote stands before the line, so the end of the line before stands after the quote.
  rcases hbefore with hnil | ⟨first, x, hfirst, hx⟩
  · exact absurd hnil (by simp)
  have hlast : x ∈ .char '"' :: middle := by
    have hgetLast := congrArg List.getLast? hfirst
    rw [List.getLast?_append_of_ne_nil _ (List.cons_ne_nil _ _), List.getLast?_concat] at hgetLast
    exact List.mem_of_getLast? hgetLast
  rcases List.mem_cons.mp hlast with rfl | hmem
  · cases hx
  · rw [hrest x (List.mem_append_left _ hmem)] at hx
    cases hx

end ApiDocs.Json
