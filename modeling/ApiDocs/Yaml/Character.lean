/-!
# Characters of YAML

The classes of characters that the reader and the writer of YAML 1.1 share.
-/

namespace ApiDocs.Yaml

/-- A character that may stand in a YAML text. -/
def isPrintable (c : Char) : Bool :=
  let n := c.toNat
  n == 9 || n == 10 || n == 13 || (0x20 ≤ n && n ≤ 0x7E) || n == 0x85
    || (0xA0 ≤ n && n ≤ 0xFFFD) || (0x10000 ≤ n && n ≤ 0x10FFFF)

/-- A character that breaks a line. -/
def isBreak (c : Char) : Bool :=
  c == '\n' || c == '\r' || c == '\u0085' || c == '\u2028' || c == '\u2029'

/-- White space that separates tokens: a space, a tab or a line break. -/
def isSeparation (c : Char) : Bool := c == ' ' || c == '\t' || isBreak c

/-- Whether the text is at its end or at a separation. -/
def atSeparation : List Char → Bool
  | [] => true
  | c :: _ => isSeparation c

/-- Whether the text is at its end or at a line break. -/
def atBreak : List Char → Bool
  | [] => true
  | c :: _ => isBreak c

/-- Whether the text is at its end, at a space or at a line break. -/
def atSpaceOrBreak : List Char → Bool
  | [] => true
  | c :: _ => c == ' ' || isBreak c

/-- A character of a name: an ASCII letter or digit, a hyphen or an underscore. -/
def isNameChar (c : Char) : Bool := c.isAlphanum || c == '-' || c == '_'

/-- Whether the text starts with a marker between documents: three hyphens or three points, on their
own. -/
def atDocumentMarker (cs : List Char) : Bool :=
  (['-', '-', '-'].isPrefixOf cs || ['.', '.', '.'].isPrefixOf cs) && atSeparation (cs.drop 3)

end ApiDocs.Yaml
