import ApiDocs.Yaml.Resolution

/-!
# Styles of scalars

A text can be written plain, in single quotes, in double quotes or, for encoded bytes, as a block
of lines.  The least conspicuous style that the text allows is taken (`chooseStyle`):

* plain, if it reads back as the same type and holds nothing that has a meaning in a block;
* single quotes, if it holds nothing that has to be written as an escape;
* double quotes otherwise.

Only double quotes have escapes, so a text with a half of a surrogate pair is always written in
them.
-/

namespace ApiDocs.Yaml

/-- The ways to write a scalar. -/
inductive Style where
  | plain
  | single
  | double
  | literal
  deriving Repr, DecidableEq, Inhabited

/-! ## 1. What a text holds -/

/-- A line break other than the carriage return, which counts as a special character. -/
def isTextBreak (c : Char) : Bool :=
  c == '\n' || c == '\u0085' || c == '\u2028' || c == '\u2029'

/-- A character that only double quotes can hold. -/
def isSpecial (c : Char) : Bool :=
  let n := c.toNat
  !(n == 10 || (0x20 ≤ n && n ≤ 0x7E)
    || (n != 0xFEFF && (n == 0x85 || (0xA0 ≤ n && n ≤ 0xFFFD) || (0x10000 ≤ n && n < 0x10FFFF))))

/-- A character that starts something other than a plain scalar. -/
def isIndicator (c : Char) : Bool := "#,[]\x7b\x7d&*!|>'\"%@`".toList.contains c

/-- Whether a colon before a separation, or a number sign after one, stands after the first
character; `previous` is the character before. -/
def hasInnerIndicator (previous : Char) : List Char → Bool
  | [] => false
  | c :: cs =>
    (c == ':' && atSeparation cs) || (c == '#' && isSeparation previous) || hasInnerIndicator c cs

/-- Whether the text would read as something other than a plain scalar in a block. -/
def hasIndicator : List Char → Bool
  | [] => false
  | c :: cs =>
    ['-', '-', '-'].isPrefixOf (c :: cs) || ['.', '.', '.'].isPrefixOf (c :: cs)
      || isIndicator c
      || ((c == '?' || c == ':' || c == '-') && atSeparation cs)
      || hasInnerIndicator c cs

/-- Whether a character of the first class stands before one of the second. -/
def hasPair (p q : Char → Bool) : List Char → Bool
  | a :: b :: cs => (p a && q b) || hasPair p q (b :: cs)
  | _ => false

/-- Whether a space or a line break stands at either end. -/
def hasOuterBlank (cs : List Char) : Bool :=
  let blank (c : Char) : Bool := c == ' ' || isTextBreak c
  cs.head?.any blank || cs.getLast?.any blank

/-- Whether the text has more than one line. -/
def isMultiline (t : Text) : Bool := t.any (CodePoint.isIn isTextBreak)

/-! ## 2. What a text allows -/

/-- Whether a space stands before a line break, or a special character anywhere. -/
def needsEscapes (cs : List Char) : Bool := hasPair (· == ' ') isTextBreak cs || cs.any isSpecial

/-- Whether the text can be written plain in a block. -/
def allowsPlain (cs : List Char) : Bool :=
  !hasOuterBlank cs && !needsEscapes cs && !cs.any isTextBreak && !hasIndicator cs

/-- Whether the text can be written in single quotes. -/
def allowsSingle (cs : List Char) : Bool :=
  !hasPair isTextBreak (· == ' ') cs && !needsEscapes cs

/-- Whether the text can be written as a block of lines. -/
def allowsLiteral (cs : List Char) : Bool :=
  !cs.isEmpty && cs.getLast? != some ' ' && !needsEscapes cs

/-- A scalar to be written: its text, its type, and whether a block of lines is wanted. -/
structure Scalar where
  text : Text
  tag : CoreTag
  asLines : Bool := false
  deriving Repr, Inhabited

/-- Whether the plain text reads back with the type of the scalar. -/
def Scalar.resolvesPlain (s : Scalar) : Bool := resolve s.text == s.tag

/-- The style of a scalar of characters. -/
def Scalar.styleOf (asKey : Bool) (s : Scalar) (cs : List Char) : Style :=
  let fits := !(asKey && (s.text.isEmpty || isMultiline s.text))
  if !s.asLines && s.resolvesPlain && fits && allowsPlain cs then .plain
  else if s.asLines then
    if !asKey && allowsLiteral cs then .literal else .double
  else if allowsSingle cs && !(asKey && isMultiline s.text) then .single
  else .double

/-- The style of a scalar; `asKey` says that it is a key on the line of its value. -/
def Scalar.chooseStyle (asKey : Bool) (s : Scalar) : Style :=
  (Text.chars? s.text).elim .double (s.styleOf asKey)

/-- The mark of the type that is written before the scalar; none if the style shows the type. -/
def Scalar.mark (s : Scalar) (style : Style) : Option String :=
  if (style = .plain && s.resolvesPlain) || (style ≠ .plain && s.tag = .str) then none
  else some ("!!" ++ s.tag.name)

/-- Whether the scalar can be a key on the line of its value: a short text on one line. -/
def Scalar.isSimpleKey (s : Scalar) : Bool :=
  s.tag.name.length + 2 + s.text.length < 128 && !s.text.isEmpty && !isMultiline s.text

end ApiDocs.Yaml
