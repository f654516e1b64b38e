import ApiDocs.Proofs.Json.Layout
import ApiDocs.Proofs.Text.Digits

/-!
# Words and numbers in JSON

The words that stand for a value and the digits of an integer are taken off the front of a text.
A word ends where it ends; an integer is read as far as it goes on, so what follows it must not
continue a number (`Stops`).
-/

namespace ApiDocs.Json

/-! ## 1. Words -/

theorem readValue_atom (limit depth : Nat) {x : CodePoint} (t : Text) (hquote : x ≠ .char '"')
    (hbracket : x ≠ .char '[') (hbrace : x ≠ .char '{') :
    readValue limit depth (x :: t) = readAtom (x :: t) := by
  rw [readValue.eq_def]
  split
  · next heq => exact absurd (List.cons.inj heq).1 hquote
  · next heq => exact absurd (List.cons.inj heq).1 hbracket
  · next heq => exact absurd (List.cons.inj heq).1 hbrace
  · next heq => exact absurd (List.cons.inj heq).1 hbracket
  · next heq => exact absurd (List.cons.inj heq).1 hbrace
  · rfl

theorem takes_null (limit depth : Nat) : Takes (readValue limit depth) "null" .null := by
  intro rest _
  exact (readValue_atom limit depth _ (by decide) (by decide) (by decide)).trans rfl

theorem takes_bool (limit depth : Nat) : ∀ b : Bool,
    Takes (readValue limit depth) (if b then "true" else "false") (.bool b)
  | true => by
    intro rest _
    exact (readValue_atom limit depth _ (by decide) (by decide) (by decide)).trans rfl
  | false => by
    intro rest _
    exact (readValue_atom limit depth _ (by decide) (by decide) (by decide)).trans rfl

/-! ## 2. Integers -/

/-- Digits are taken as far as they go. -/
theorem takeDigits_append {ds : List Char} (h : ∀ c ∈ ds, Text.isDigit c = true) {rest : Text}
    (hrest : Stops rest) : takeDigits (Text.ofChars ds ++ rest) = (ds, rest) := by
  have hdigits : ∀ x ∈ Text.ofChars ds, x.isIn Text.isDigit = true := by
    intro x hx
    obtain ⟨c, hc, rfl⟩ := List.mem_map.mp hx
    exact h c hc
  have hstop : rest.takeWhile (CodePoint.isIn Text.isDigit) = [] ∧
      rest.dropWhile (CodePoint.isIn Text.isDigit) = rest := by
    cases rest with
    | nil => exact ⟨rfl, rfl⟩
    | cons x rest =>
      have hx : x.isIn Text.isDigit = false := by
        have hstops := hrest x rfl
        cases x with
        | half n => rfl
        | char c =>
          simp only [CodePoint.isIn_char, continuesNumber, Bool.or_eq_false_iff] at hstops
          exact hstops.1.1.1
      exact ⟨List.takeWhile_cons_of_neg (ne_true_of_eq_false hx),
        List.dropWhile_cons_of_neg (ne_true_of_eq_false hx)⟩
  unfold takeDigits
  rw [List.takeWhile_append_of_pos hdigits, List.dropWhile_append_of_pos hdigits, hstop.1, hstop.2,
    List.append_nil, Text.toChars_ofChars]

theorem readWhole_decimal (n : Nat) {rest : Text} (hrest : Stops rest) :
    readWhole? (Text.ofChars (Text.decimal n) ++ rest) = some (Text.decimal n, rest) := by
  by_cases hn : n = 0
  · subst hn
    rfl
  · have hdigits := takeDigits_append (fun c => Text.isDigit_of_mem_decimal (n := n)) hrest
    obtain ⟨d, ds, hds, hd⟩ := Text.head_decimal hn
    rw [hds, Text.ofChars_cons, List.cons_append] at hdigits ⊢
    unfold readWhole?
    split
    · next heq => exact absurd (CodePoint.char.inj (List.cons.inj heq).1) hd
    · rw [hdigits]
      rfl

theorem readFraction_of_stops {rest : Text} (h : Stops rest) : readFraction rest = ([], rest) := by
  unfold readFraction
  split
  · next t => exact absurd (h _ rfl) (by decide)
  · rfl

theorem readExponent_of_stops {rest : Text} (h : Stops rest) : readExponent rest = (none, rest) := by
  cases rest with
  | nil => rfl
  | cons x t =>
    have hx := h x rfl
    have hletter : ¬ (x = .char 'e' ∨ x = .char 'E') := by
      rintro (rfl | rfl)
      · exact absurd hx (by decide)
      · exact absurd hx (by decide)
    exact if_neg hletter

theorem readUnsigned_decimal (negative : Bool) {n : Nat} (h : Text.isTooLong n = false)
    {rest : Text} (hrest : Stops rest) :
    readUnsigned negative (Text.ofChars (Text.decimal n) ++ rest) =
      .ok (.int (if negative then -n else n), rest) := by
  have hlength := Nat.not_lt.mpr (Text.length_decimal_le h)
  have hplain : (([] : List Char).isEmpty && (none : Option Int).isNone) = true := rfl
  unfold readUnsigned
  rw [readWhole_decimal n hrest]
  dsimp only
  rw [readFraction_of_stops hrest]
  dsimp only
  rw [readExponent_of_stops hrest]
  dsimp only
  rw [if_pos hplain, if_neg hlength, Text.decimalValue_decimal]

/-- No word starts like a number. -/
theorem readAtom_of_isDigit {d : Char} (h : Text.isDigit d = true) (t : Text) :
    readAtom (.char d :: t) = readUnsigned false (.char d :: t) ∧
      readAtom (.char '-' :: .char d :: t) = readUnsigned true (.char d :: t) := by
  have hne : ∀ {c}, Text.isDigit c = false → c ≠ d := fun hc => Ne.symm (Text.ne_of_isDigit h hc)
  have hminus : '-' ≠ d := hne rfl
  have hN : 'N' ≠ d := hne rfl
  have hI : 'I' ≠ d := hne rfl
  have hplain : words.find? (fun w => w.1.isPrefixOf (.char d :: t)) = none := by
    simp [words, Text.ofString, hminus, hN, hI, hne (c := 'n') rfl, hne (c := 't') rfl,
      hne (c := 'f') rfl]
  have hsigned : words.find? (fun w => w.1.isPrefixOf (.char '-' :: .char d :: t)) = none := by
    simp [words, Text.ofString, hI]
  unfold readAtom
  rw [hplain, hsigned]
  refine ⟨?_, rfl⟩
  dsimp only
  unfold readNumber
  split
  · next heq => exact absurd (CodePoint.char.inj (List.cons.inj heq).1) (Ne.symm hminus)
  · rfl

theorem char_ne_of_isDigit {c d : Char} (hd : Text.isDigit d = true)
    (hc : Text.isDigit c = false) : CodePoint.char d ≠ .char c :=
  fun heq => Text.ne_of_isDigit hd hc (CodePoint.char.inj heq)

/-- **An integer is read as far as its digits go.** -/
theorem takes_int (limit depth : Nat) {i : Int} (h : Text.isTooLong i.natAbs = false) :
    Takes (readValue limit depth) (Text.ofChars (Text.signedDecimal i)) (.int i) := by
  intro rest hrest
  obtain ⟨d, ds, hds, hd⟩ := Text.exists_digit_decimal i.natAbs
  obtain ⟨hplain, hsigned⟩ := readAtom_of_isDigit hd (Text.ofChars ds ++ rest)
  have hread := fun negative => readUnsigned_decimal negative h hrest
  rw [hds, Text.ofChars_cons, List.cons_append] at hread
  unfold Text.signedDecimal
  split
  · next hneg =>
    rw [hds, Text.ofChars_cons, Text.ofChars_cons, List.cons_append, List.cons_append,
      readValue_atom limit depth _ (by decide) (by decide) (by decide), hsigned, hread true]
    have hvalue : (-(i.natAbs : Int)) = i := by omega
    rw [if_pos rfl, hvalue]
  · next hpos =>
    rw [hds, Text.ofChars_cons, List.cons_append, readValue_atom limit depth _
      (char_ne_of_isDigit hd rfl) (char_ne_of_isDigit hd rfl) (char_ne_of_isDigit hd rfl), hplain,
      hread false]
    have hvalue : (i.natAbs : Int) = i := by omega
    rw [if_neg Bool.false_ne_true, hvalue]

theorem starts_int (i : Int) : Starts (Text.ofChars (Text.signedDecimal i)) := by
  unfold Text.signedDecimal
  split
  · exact ⟨_, _, rfl, rfl, by decide, by decide⟩
  · obtain ⟨d, ds, hds, hd⟩ := Text.exists_digit_decimal i.natAbs
    have hgap : isGap d = false := by
      simp [isGap, Text.ne_of_isDigit hd (c := ' ') rfl, Text.ne_of_isDigit hd (c := '\t') rfl,
        Text.ne_of_isDigit hd (c := '\n') rfl, Text.ne_of_isDigit hd (c := '\r') rfl]
    rw [hds]
    exact ⟨_, _, rfl, hgap, char_ne_of_isDigit hd rfl, char_ne_of_isDigit hd rfl⟩

end ApiDocs.Json
