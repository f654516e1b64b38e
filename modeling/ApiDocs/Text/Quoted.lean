import ApiDocs.Text.Basic
import ApiDocs.Text.Digits
import ApiDocs.Text.Printable

/-!
# Quoted texts and byte strings

The form in which a text stands inside a larger value: between quotes, with an escape for each
character that would not be seen and for each half of a surrogate pair.  Single quotes are taken
unless the text holds one and no double quote.  A byte string has a `b` before the quote, and only
printable ASCII stands for itself.
-/

namespace ApiDocs.Text

/-- The quote that goes around a text: the single one, unless it occurs and the double one does
not. -/
def quoteFor (hasSingle hasDouble : Bool) : Char := if hasSingle && !hasDouble then '"' else '\''

/-- An escape of the form `\x7f`: a letter and the digits of the code. -/
def numericEscape (letter : Char) (width n : Nat) : List Char :=
  '\\' :: letter :: lastDigits 16 width n

/-- One character between the quotes. -/
def quoteChar (quote c : Char) : List Char :=
  if c = quote || c = '\\' then ['\\', c]
  else if c = '\t' then ['\\', 't']
  else if c = '\n' then ['\\', 'n']
  else if c = '\r' then ['\\', 'r']
  else if isPrintable c then [c]
  else if c.toNat < 0x100 then numericEscape 'x' 2 c.toNat
  else if c.toNat < 0x10000 then numericEscape 'u' 4 c.toNat
  else numericEscape 'U' 8 c.toNat

/-- One code point between the quotes. -/
def quotePoint (quote : Char) : CodePoint → List Char
  | .char c => quoteChar quote c
  | .half n => numericEscape 'u' 4 (CodePoint.half n).toNat

/-- A text in quotes. -/
def quoted (t : Text) : List Char :=
  let quote := quoteFor (t.contains (.char '\'')) (t.contains (.char '"'))
  quote :: t.flatMap (quotePoint quote) ++ [quote]

/-- A text with an escape in place of each half. -/
def escapeHalves (t : Text) : List Char :=
  t.flatMap fun p => match p with
    | .char c => [c]
    | .half n => numericEscape 'u' 4 (CodePoint.half n).toNat

/-- One byte between the quotes. -/
def quoteByte (quote : Char) (b : UInt8) : List Char :=
  let n := b.toNat
  if 0x20 ≤ n ∧ n < 0x7F ∨ n = 9 ∨ n = 10 ∨ n = 13 then quoteChar quote (Char.ofNat n)
  else numericEscape 'x' 2 n

/-- A byte string in quotes. -/
def quotedBytes (bs : List UInt8) : List Char :=
  let quote := quoteFor (bs.contains 0x27) (bs.contains 0x22)
  'b' :: quote :: bs.flatMap (quoteByte quote) ++ [quote]

end ApiDocs.Text
