import ApiDocs.Text.Basic

/-!
# Digits

Natural numbers in positional notation, base 2 to 36: writing with a least width, and reading.
Small letters are written; both cases are read.
-/

namespace ApiDocs.Text

/-- The digit of value `n`, for `n < 36`. -/
def digit (n : Nat) : Char :=
  if n < 10 then Char.ofNat (0x30 + n) else Char.ofNat (0x57 + n)

/-- The last `width` digits of `n`. -/
def lastDigits (base : Nat) : (width n : Nat) → List Char
  | 0, _ => []
  | width + 1, n => lastDigits base width (n / base) ++ [digit (n % base)]

/-- The decimal digits of `n`. -/
def decimal (n : Nat) : List Char := Nat.toDigits 10 n

/-- The text of a number: its decimal digits. -/
def ofNat (n : Nat) : Text := ofChars (decimal n)

/-- The decimal digits of `n` with zeros in front up to `width`. -/
def zeroPadded (width n : Nat) : List Char :=
  let ds := decimal n
  List.replicate (width - ds.length) '0' ++ ds

/-- An integer in decimal notation, with a minus sign if it is negative. -/
def signedDecimal (i : Int) : List Char :=
  if i < 0 then '-' :: decimal i.natAbs else decimal i.natAbs

/-- The value of a digit or letter, read as a digit of base 36. -/
def digitValue? (c : Char) : Option Nat :=
  if '0' ≤ c ∧ c ≤ '9' then some (c.toNat - 0x30)
  else if 'a' ≤ c ∧ c ≤ 'z' then some (c.toNat - 0x57)
  else if 'A' ≤ c ∧ c ≤ 'Z' then some (c.toNat - 0x37)
  else none

/-- The value of `cs` as digits of `base`, read after a number of value `n`. -/
def readDigitsFrom (base : Nat) : (n : Nat) → List Char → Option Nat
  | n, [] => some n
  | n, c :: cs => match digitValue? c with
    | some d => if d < base then readDigitsFrom base (n * base + d) cs else none
    | none => none

/-- The value of a non-empty text of digits of `base`. -/
def readDigits (base : Nat) (cs : List Char) : Option Nat :=
  if cs.isEmpty then none else readDigitsFrom base 0 cs

/-- The number of decimal digits with which an integer may be read or written. -/
def maxDigits : Nat := 4300

/-- Whether a number has more digits than that. -/
def isTooLong (n : Nat) : Bool := Nat.pow 10 maxDigits ≤ n

/-- The value of an ASCII text of decimal digits; texts are checked by the caller. -/
def decimalValue (cs : List Char) : Nat := (readDigitsFrom 10 0 cs).getD 0

/-- A decimal digit. -/
def isDigit (c : Char) : Bool := '0' ≤ c && c ≤ '9'

/-- A hexadecimal digit. -/
def isHexDigit (c : Char) : Bool :=
  isDigit c || ('a' ≤ c && c ≤ 'f') || ('A' ≤ c && c ≤ 'F')

/-- Reads decimal numbers of the given widths with the given separators between them: the numbers
and the rest of the text. -/
def splitDigits : (widths : List Nat) → (separators : List Char) → List Char →
    Option (List Nat × List Char)
  | [], _, cs => some ([], cs)
  | width :: widths, separators, cs =>
    let ds := cs.take width
    if ds.length = width ∧ ds.all isDigit then
      match widths, separators, cs.drop width with
      | [], _, rest => some ([decimalValue ds], rest)
      | _ :: _, s :: ss, c :: rest =>
        if s = c then
          (splitDigits widths ss rest).map (fun r => (decimalValue ds :: r.1, r.2))
        else none
      | _, _, _ => none
    else none

end ApiDocs.Text
