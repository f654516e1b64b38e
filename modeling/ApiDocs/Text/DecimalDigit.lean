import ApiDocs.Text.Digits

/-!
# Decimal digits of all scripts

Many scripts have ten digits of their own; in Unicode 14 the ten always stand in a row.
`asciiDigit` turns each of them into the ASCII digit of the same value and leaves ASCII digits as
they are (`asciiDigit_of_isDigit`).
-/

namespace ApiDocs.Text

/-- The digits of value zero, each of which nine others follow. -/
def digitStarts : List Nat := [
  0x30, 0x660, 0x6F0, 0x7C0, 0x966, 0x9E6, 0xA66, 0xAE6, 0xB66, 0xBE6, 0xC66, 0xCE6, 0xD66, 0xDE6,
  0xE50, 0xED0, 0xF20, 0x1040, 0x1090, 0x17E0, 0x1810, 0x1946, 0x19D0, 0x1A80, 0x1A90, 0x1B50,
  0x1BB0, 0x1C40, 0x1C50, 0xA620, 0xA8D0, 0xA900, 0xA9D0, 0xA9F0, 0xAA50, 0xABF0, 0xFF10, 0x104A0,
  0x10D30, 0x11066, 0x110F0, 0x11136, 0x111D0, 0x112F0, 0x11450, 0x114D0, 0x11650, 0x116C0,
  0x11730, 0x118E0, 0x11950, 0x11C50, 0x11D50, 0x11DA0, 0x16A60, 0x16AC0, 0x16B50, 0x1D7CE,
  0x1D7D8, 0x1D7E2, 0x1D7EC, 0x1D7F6, 0x1E140, 0x1E2F0, 0x1E950, 0x1FBF0]

/-- The ASCII digit of the same value; a character that is no decimal digit stays as it is. -/
def asciiDigit (c : Char) : Char :=
  match digitStarts.find? (fun start => start ≤ c.toNat && c.toNat < start + 10) with
  | some start => digit (c.toNat - start)
  | none => c

theorem asciiDigit_of_isDigit {c : Char} (h : isDigit c = true) : asciiDigit c = c := by
  simp only [isDigit, Bool.and_eq_true, decide_eq_true_eq] at h
  have low : 0x30 ≤ c.toNat := h.1
  have high : c.toNat ≤ 0x39 := h.2
  have found :
      digitStarts.find? (fun start => start ≤ c.toNat && c.toNat < start + 10) = some 0x30 := by
    rw [digitStarts, List.find?_cons_of_pos]
    simp only [Bool.and_eq_true, decide_eq_true_eq]
    omega
  rw [asciiDigit, found]
  have small : c.toNat - 0x30 < 10 := by omega
  have back : 0x30 + (c.toNat - 0x30) = c.toNat := by omega
  simp only [digit, small, if_true, back, Char.ofNat_toNat]

end ApiDocs.Text
