import ApiDocs.Json.Reader
import ApiDocs.Proofs.Text.Strings

/-!
# Strings in JSON

A string is written character by character, each as itself or as an escape, and read in the same
steps: what `escapeChar` writes for a character is what `readPoints` takes as one
(`readPoints_escapeChar`).  So a string is read as what it was written from
(`readString_writeString`), and the halves of surrogate pairs with it.

No escape holds a control character (`le_of_mem_escapeChar`): the only ones in a text are the line
feeds of the layout.
-/

namespace ApiDocs.Json

/-! ## 1. Escapes -/

/-- The four digits of a control character are read as its number. -/
theorem readUnit_lastDigits {n : Nat} (h : n < 0x20) (rest : Text) :
    readUnit? (Text.ofChars (Text.lastDigits 16 4 n) ++ rest) = some (n, rest) := by
  have hdigits : ∀ n < 0x20, (Text.ofChars (Text.lastDigits 16 4 n)).length = 4 ∧
      (Text.ofChars (Text.lastDigits 16 4 n)).all (CodePoint.isIn Text.isHexDigit) = true ∧
        Text.readDigits 16 (Text.lastDigits 16 4 n) = some n := by decide
  obtain ⟨hlength, hhex, hvalue⟩ := hdigits n h
  unfold readUnit?
  dsimp only
  rw [List.take_left' hlength, List.drop_left' hlength, if_pos ⟨hlength, hhex⟩,
    Text.toChars_ofChars, hvalue]
  rfl

theorem readEscape_lastDigits {c : Char} (h : c.toNat < 0x20) (rest : Text) :
    readEscape? (Text.ofChars (Text.lastDigits 16 4 c.toNat) ++ rest) = some (.char c, rest) := by
  have hpair : ¬ (0xD800 ≤ c.toNat ∧ c.toNat ≤ 0xDBFF) := by omega
  have hhalf : ¬ (0xD800 ≤ c.toNat ∧ c.toNat < 0xE000) := by omega
  unfold readEscape?
  rw [readUnit_lastDigits h]
  dsimp only
  rw [if_neg hpair, CodePoint.ofNat, dif_neg hhalf, Char.ofNat_toNat]

theorem readPoints_quote (limit : Nat) (rest : Text) :
    readPoints (limit + 1) (.char '"' :: rest) = some ([], rest) := by
  cases rest <;> rfl

/-- What is no quote, no backslash and no control character is read as itself. -/
theorem readPoints_bare (limit : Nat) {x : CodePoint} (rest : Text) (hquote : x ≠ .char '"')
    (hcontrol : ¬ x.toNat < 0x20) (hslash : x ≠ .char '\\') :
    readPoints (limit + 1) (x :: rest) =
      (readPoints limit rest).map (fun r => (x :: r.1, r.2)) := by
  cases rest with
  | nil => rw [readPoints.eq_3, if_neg hquote, if_neg hcontrol, if_neg hslash]
  | cons => rw [readPoints.eq_4, if_neg hquote, if_neg hcontrol, if_neg hslash]

theorem readPoints_escape (limit : Nat) {letter x : CodePoint} {rest more : Text}
    (h : (if letter = .char 'u' then readEscape? rest
      else (simpleEscape? letter).map (fun y => (y, rest))) = some (x, more)) :
    readPoints (limit + 1) (.char '\\' :: letter :: rest) =
      (readPoints limit more).map (fun r => (x :: r.1, r.2)) := by
  have hquote : ¬ CodePoint.char '\\' = .char '"' := by decide
  have hcontrol : ¬ (CodePoint.char '\\').toNat < 0x20 := by decide
  rw [readPoints.eq_4, if_neg hquote, if_neg hcontrol, if_pos rfl]
  dsimp only
  rw [h]

/-- **What is written for a character is read as the character.** -/
theorem readPoints_escapeChar (limit : Nat) (c : Char) (rest : Text) :
    readPoints (limit + 1) (Text.ofChars (escapeChar c) ++ rest) =
      (readPoints limit rest).map (fun r => (.char c :: r.1, r.2)) := by
  unfold escapeChar
  split
  · next h =>
    subst h
    exact readPoints_escape limit rfl
  split
  · next h =>
    subst h
    exact readPoints_escape limit rfl
  split
  · next h =>
    subst h
    exact readPoints_escape limit rfl
  split
  · next h =>
    subst h
    exact readPoints_escape limit rfl
  split
  · next h =>
    subst h
    exact readPoints_escape limit rfl
  split
  · next h =>
    have hc : c = '\x08' := Char.toNat_inj.mp h
    exact hc ▸ readPoints_escape limit rfl
  split
  · next h =>
    have hc : c = '\x0c' := Char.toNat_inj.mp h
    exact hc ▸ readPoints_escape limit rfl
  split
  · next h =>
    rw [Text.ofChars_cons, Text.ofChars_cons, List.cons_append, List.cons_append]
    refine readPoints_escape limit ?_
    rw [if_pos rfl, readEscape_lastDigits h]
  · next hquote hslash _ _ _ _ _ hcontrol =>
    exact readPoints_bare limit rest (fun heq => hquote (CodePoint.char.inj heq)) hcontrol
      fun heq => hslash (CodePoint.char.inj heq)

theorem readPoints_replaceEach : ∀ {t : Text} {limit : Nat} (rest : Text), t.length < limit →
    readPoints limit (Text.replaceEach escapeChar t ++ .char '"' :: rest) = some (t, rest)
  | _, 0, _, h => absurd h (Nat.not_lt_zero _)
  | [], limit + 1, rest, _ => readPoints_quote limit rest
  | .char c :: t, limit + 1, rest, h => by
    rw [Text.replaceEach_char_cons, List.append_assoc, readPoints_escapeChar,
      readPoints_replaceEach rest (Nat.succ_lt_succ_iff.mp h)]
    rfl
  | .half n :: t, limit + 1, rest, h => by
    have hcontrol : ¬ (CodePoint.half n).toNat < 0x20 :=
      Nat.not_lt.mpr (Nat.le_trans (by decide) (Nat.le_add_right 0xD800 n.val))
    rw [Text.replaceEach_half_cons, List.cons_append, readPoints_bare (x := .half n) limit _ nofun hcontrol nofun,
      readPoints_replaceEach rest (Nat.succ_lt_succ_iff.mp h)]
    rfl

/-! ## 2. Strings -/

theorem length_escapeChar_pos (c : Char) : 0 < (escapeChar c).length := by
  unfold escapeChar
  repeat' split
  all_goals exact Nat.succ_pos _

theorem length_le_replaceEach : ∀ t : Text, t.length ≤ (Text.replaceEach escapeChar t).length
  | [] => Nat.le_refl 0
  | .char c :: t => by
    have hrest := length_le_replaceEach t
    have hc := length_escapeChar_pos c
    rw [Text.replaceEach_char_cons, List.length_append, List.length_cons, Text.ofChars,
      List.length_map]
    omega
  | .half n :: t => Nat.succ_le_succ (length_le_replaceEach t)

/-- No control character stands in a string. -/
theorem le_of_mem_escapeChar {c d : Char} (h : d ∈ escapeChar c) : 0x20 ≤ d.toNat := by
  have hdigits : ∀ n < 0x20, ∀ d ∈ '\\' :: 'u' :: Text.lastDigits 16 4 n, 0x20 ≤ d.toNat := by
    have hall : ∀ n < 0x20, ('\\' :: 'u' :: Text.lastDigits 16 4 n).all
        (fun d => decide (0x20 ≤ d.toNat)) = true := by decide
    exact fun n hn d hd => of_decide_eq_true (List.all_eq_true.mp (hall n hn) d hd)
  have hsimple : ∀ cs ∈ ["\\\"", "\\\\", "\\n", "\\r", "\\t", "\\b", "\\f"],
      ∀ d ∈ cs.toList, 0x20 ≤ d.toNat := by
    have hall : ∀ cs ∈ ["\\\"", "\\\\", "\\n", "\\r", "\\t", "\\b", "\\f"],
        cs.toList.all (fun d => decide (0x20 ≤ d.toNat)) = true := by decide
    exact fun cs hcs d hd => of_decide_eq_true (List.all_eq_true.mp (hall cs hcs) d hd)
  unfold escapeChar at h
  split at h
  · exact hsimple "\\\"" (by decide) d h
  split at h
  · exact hsimple "\\\\" (by decide) d h
  split at h
  · exact hsimple "\\n" (by decide) d h
  split at h
  · exact hsimple "\\r" (by decide) d h
  split at h
  · exact hsimple "\\t" (by decide) d h
  split at h
  · exact hsimple "\\b" (by decide) d h
  split at h
  · exact hsimple "\\f" (by decide) d h
  split at h
  · next hc => exact hdigits c.toNat hc d h
  · next hc =>
    rw [List.mem_singleton.mp h]
    exact Nat.not_lt.mp hc

/-- **A string is read as what it was written from.** -/
theorem readString_writeString (s rest : Text) :
    readString? (Text.replaceEach escapeChar s ++ .char '"' :: rest) = some (s, rest) := by
  have hlength := length_le_replaceEach s
  refine readPoints_replaceEach rest ?_
  rw [List.length_append]
  omega

end ApiDocs.Json
