/-!
# Base 64

Bytes as text of 64 letters.  `encodeLines` breaks the text after every 76 letters.  `decode?`
passes over characters that are no letters of the code, and refuses a text whose last group is too
short.
-/

namespace ApiDocs.Text.Base64

/-- The letter of a value below 64. -/
def letter (n : Nat) : Char :=
  if n < 26 then Char.ofNat (0x41 + n)
  else if n < 52 then Char.ofNat (0x61 + (n - 26))
  else if n < 62 then Char.ofNat (0x30 + (n - 52))
  else if n = 62 then '+' else '/'

/-- The value of a letter. -/
def value? (c : Char) : Option Nat :=
  let n := c.toNat
  if 0x41 ≤ n ∧ n ≤ 0x5A then some (n - 0x41)
  else if 0x61 ≤ n ∧ n ≤ 0x7A then some (n - 0x61 + 26)
  else if 0x30 ≤ n ∧ n ≤ 0x39 then some (n - 0x30 + 52)
  else if c = '+' then some 62
  else if c = '/' then some 63
  else none

/-- Bytes in groups of three as four letters each; a short last group is filled up. -/
def encode : List UInt8 → List Char
  | [] => []
  | [a] =>
    let a := a.toNat
    [letter (a / 4), letter (a % 4 * 16), '=', '=']
  | [a, b] =>
    let a := a.toNat
    let b := b.toNat
    [letter (a / 4), letter (a % 4 * 16 + b / 16), letter (b % 16 * 4), '=']
  | a :: b :: c :: rest =>
    let a := a.toNat
    let b := b.toNat
    let c := c.toNat
    letter (a / 4) :: letter (a % 4 * 16 + b / 16) :: letter (b % 16 * 4 + c / 64)
      :: letter (c % 64) :: encode rest

/-- A text with a line break after every `width` characters and at its end; `left` counts the
characters that still fit on the line. -/
def breakLines (width left : Nat) : List Char → List Char
  | [] => if left = width then [] else ['\n']
  | c :: cs =>
    if left = 1 then c :: '\n' :: breakLines width width cs
    else c :: breakLines width (left - 1) cs

/-- The text of bytes on lines of 76 letters. -/
def encodeLines (bs : List UInt8) : List Char := breakLines 76 76 (encode bs)

/-- Decodes a text from a place in a group of four: `position` letters of the group have been read,
`bits` is what is left of the last of them, and `pads` counts the fillers since. -/
def decodeFrom (position bits pads : Nat) : List Char → Option (List UInt8)
  | [] => if position = 0 then some [] else none
  | c :: cs =>
    if c = '=' then
      if 2 ≤ position then
        if 4 ≤ position + pads + 1 then some [] else decodeFrom position bits (pads + 1) cs
      else decodeFrom position bits pads cs
    else match value? c with
      | none => decodeFrom position bits pads cs
      | some v =>
        if position = 0 then decodeFrom 1 v 0 cs
        else if position = 1 then
          (decodeFrom 2 (v % 16) 0 cs).map (UInt8.ofNat (bits * 4 + v / 16) :: ·)
        else if position = 2 then
          (decodeFrom 3 (v % 4) 0 cs).map (UInt8.ofNat (bits * 16 + v / 4) :: ·)
        else (decodeFrom 0 0 0 cs).map (UInt8.ofNat (bits * 64 + v) :: ·)

/-- The bytes that a text encodes. -/
def decode? (cs : List Char) : Option (List UInt8) := decodeFrom 0 0 0 cs

end ApiDocs.Text.Base64
