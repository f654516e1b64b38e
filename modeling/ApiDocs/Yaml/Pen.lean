import ApiDocs.Text.Digits
import ApiDocs.Yaml.Style

/-!
# Writing scalars onto lines

A `Pen` is a text that is being written, with what decides about the next space and the next line
break: the column, whether the text ends in white space, and whether nothing but indentation and
indicators stands on the line.

Scalars are folded at spaces once a line has passed 80 columns.  A plain or single-quoted text is
folded only at a space that stands alone; a double-quoted one may be folded anywhere, with a
backslash at the end of the line.
-/

namespace ApiDocs.Yaml

/-- A text that is being written, in reverse. -/
structure Pen where
  written : Text := []
  column : Nat := 0
  /-- The text ends in white space. -/
  spaced : Bool := true
  /-- Only indentation and indicators stand on the line. -/
  fresh : Bool := true
  deriving Repr, Inhabited

/-- The column after which lines are folded. -/
def lineWidth : Nat := 80

namespace Pen

/-! ## 1. Strokes -/

/-- Writes characters of a scalar. -/
def put (t : Text) (p : Pen) : Pen :=
  { p with written := t.reverse ++ p.written, column := p.column + t.length }

/-- Writes spaces. -/
def spaces (n : Nat) (p : Pen) : Pen := p.put (Text.ofChars (List.replicate n ' '))

/-- Ends the line. -/
def breakLine (p : Pen) (c : CodePoint := .char '\n') : Pen :=
  { written := c :: p.written, column := 0, spaced := true, fresh := true }

/-- Moves to a column on a line of its own. -/
def indent (column : Nat) (p : Pen) : Pen :=
  let p := if !p.fresh || column < p.column || (p.column = column && !p.spaced) then p.breakLine
    else p
  if p.column < column then
    { p.spaces (column - p.column) with spaced := true }
  else p

/-- Writes an indicator, after a space where one is needed. -/
def indicator (text : Text) (needsSpace : Bool) (p : Pen) (spaced fresh : Bool := false) : Pen :=
  let text := if p.spaced || !needsSpace then text else .char ' ' :: text
  { p.put text with spaced := spaced, fresh := p.fresh && fresh }

/-- Goes on with a scalar at the start of a further line. -/
def continueAt (column : Nat) (p : Pen) : Pen :=
  { p.indent column with spaced := false, fresh := false }

/-! ## 2. Plain scalars -/

/-- Writes the spaces between two words of a plain scalar, or folds the line there. -/
def plainSpaces (column : Nat) (fold : Bool) (spaces : Nat) (p : Pen) : Pen :=
  if spaces = 1 ∧ lineWidth < p.column ∧ fold then p.continueAt column
  else p.spaces spaces

/-- Writes a plain scalar after `spaces` spaces that have been read. -/
def plainFrom (column : Nat) (fold : Bool) (spaces : Nat) (p : Pen) : Text → Pen
  | [] => p.spaces spaces
  | c :: t =>
    if c = .char ' ' then plainFrom column fold (spaces + 1) p t
    else plainFrom column fold 0 ((plainSpaces column fold spaces p).put [c]) t

/-- Writes a plain scalar. -/
def plain (column : Nat) (fold : Bool) (t : Text) (p : Pen) : Pen :=
  if t.isEmpty then p
  else
    let p := if p.spaced then p else p.spaces 1
    plainFrom column fold 0 { p with spaced := false, fresh := false } t

/-! ## 3. Single quotes -/

/-- The white space that has been read and not yet written, and whether it starts the text. -/
structure Gap where
  spaces : Nat := 0
  /-- Line breaks, the last one first. -/
  breaks : Text := []
  atStart : Bool := false
  deriving Repr, Inhabited

/-- Writes the white space between two words of a single-quoted text.  The first of several line
breaks is written twice, since a single one would read as a space. -/
def singleGap (column : Nat) (fold atEnd : Bool) (gap : Gap) (p : Pen) : Pen :=
  match gap.breaks.reverse with
  | [] =>
    if gap.spaces = 1 ∧ lineWidth < p.column ∧ fold ∧ !gap.atStart ∧ !atEnd then p.indent column
    else p.spaces gap.spaces
  | first :: others =>
    let p := if first = .char '\n' then p.breakLine else p
    ((first :: others).foldl (fun p c => p.breakLine c) p).indent column

/-- Writes the rest of a single-quoted text after a gap. -/
def singleFrom (column : Nat) (fold : Bool) (gap : Gap) (p : Pen) : Text → Pen
  | [] => singleGap column fold true gap p
  | c :: t =>
    if c = .char ' ' then
      if gap.breaks.isEmpty then
        singleFrom column fold { gap with spaces := gap.spaces + 1 } p t
      else singleFrom column fold { spaces := 1 } (singleGap column fold false gap p) t
    else if c.isIn isTextBreak then
      if gap.spaces = 0 then singleFrom column fold { gap with breaks := c :: gap.breaks } p t
      else singleFrom column fold { breaks := [c] } (singleGap column fold false gap p) t
    else
      let p := singleGap column fold false gap p
      singleFrom column fold {} (p.put (if c = .char '\'' then "''" else [c])) t

/-- Writes a text in single quotes. -/
def single (column : Nat) (fold : Bool) (t : Text) (p : Pen) : Pen :=
  (singleFrom column fold { atStart := true } (p.indicator "'" true) t).indicator "'" false

/-! ## 4. Double quotes -/

/-- The letter of a character that has an escape of its own. -/
def escapeLetter? (n : Nat) : Option Char :=
  [(0, '0'), (7, 'a'), (8, 'b'), (9, 't'), (10, 'n'), (11, 'v'), (12, 'f'), (13, 'r'), (0x1B, 'e'),
    (0x22, '"'), (0x5C, '\\'), (0x85, 'N'), (0xA0, '_'), (0x2028, 'L'), (0x2029, 'P')].lookup n

/-- The escape of the code point with a number. -/
def escape (n : Nat) : List Char :=
  let hex (width : Nat) : List Char := (Text.lastDigits 16 width n).map Char.toUpper
  match escapeLetter? n with
  | some letter => ['\\', letter]
  | none =>
    if n ≤ 0xFF then '\\' :: 'x' :: hex 2
    else if n ≤ 0xFFFF then '\\' :: 'u' :: hex 4
    else '\\' :: 'U' :: hex 8

/-- A character that stands for itself in double quotes. -/
def isBare (c : Char) : Bool :=
  let n := c.toNat
  c != '"' && c != '\\' && n != 0x2028 && n != 0x2029 && n != 0xFEFF
    && ((0x20 ≤ n && n ≤ 0x7E) || (0xA0 ≤ n && n ≤ 0xFFFD))

/-- Folds a double-quoted text before `next`; a space there is escaped, so that it is kept. -/
def foldDouble (column : Nat) (next : Option CodePoint) (p : Pen) : Pen :=
  let p := (p.put "\\").continueAt column
  if next = some (.char ' ') then p.put "\\" else p

/-- Writes the rest of a double-quoted text.  `index` counts the characters before it, and `waiting`
holds those that have been read and not yet written, in reverse. -/
def doubleFrom (column : Nat) (fold : Bool) (length index : Nat) (waiting : Text) (p : Pen) :
    Text → Pen
  | [] => p.put waiting.reverse
  | c :: t =>
    let inside := fold && 0 < index && index + 1 < length
    if c.isIn isBare then
      if inside && (c = .char ' ' || waiting.isEmpty) && lineWidth < p.column + waiting.length then
        let p := foldDouble column (some c) (p.put waiting.reverse)
        doubleFrom column fold length (index + 1) [c] p t
      else doubleFrom column fold length (index + 1) (c :: waiting) p t
    else
      let p := (p.put waiting.reverse).put (Text.ofChars (escape c.toNat))
      let p := if inside && lineWidth + 1 < p.column then foldDouble column t.head? p else p
      doubleFrom column fold length (index + 1) [] p t

/-- Writes a text in double quotes. -/
def double (column : Nat) (fold : Bool) (t : Text) (p : Pen) : Pen :=
  (doubleFrom column fold t.length 0 [] (p.indicator "\"" true) t).indicator "\"" false

/-! ## 5. Lines -/

/-- Writes a text as a block of lines; each line of the text ends in a line feed. -/
def literal (column : Nat) (t : Text) (p : Pen) : Pen :=
  let lines := (Text.splitAt (CodePoint.isIn (· == '\n')) t).dropLast
  lines.foldl (fun p line => ((p.indent column).put line).breakLine)
    (p.indicator "|" true).breakLine

/-- Writes a scalar: the mark of its type if one is needed, then its text.  A key on the line of its
value is not folded. -/
def scalar (column : Nat) (asKey : Bool) (s : Scalar) (p : Pen) : Pen :=
  let style := s.chooseStyle asKey
  let p := match s.mark style with
    | none => p
    | some mark => p.indicator mark true
  match style with
  | .plain => p.plain column (!asKey) s.text
  | .single => p.single column (!asKey) s.text
  | .double => p.double column (!asKey) s.text
  | .literal => p.literal column s.text

end Pen

end ApiDocs.Yaml
