import ApiDocs.Text.Basic
import ApiDocs.Text.Decomposition

/-!
# Words, slugs and titles

`transliterate` reduces a text to ASCII: letters with accents lose them, a few letters have a
spelling of their own, and everything else is dropped.  `words` cuts an ASCII text into words, each
a run of digits, a run of capitals, or a run of small letters with at most one capital in front.

**Where a word ends.**  Every character that is neither letter nor digit ends a word.  Inside a run
of letters and digits, `joins` decides for each character whether it goes on with the word before
it.  Of three or more capitals before a small letter the last one starts a new word
(`HTTPServer` is `HTTP`, `Server`), but two capitals stay together (`AFood` is `AF`, `ood`).

A slug is the small words with hyphens between them, a title the capitalised words with spaces.
-/

namespace ApiDocs.Slug

/-! ## 1. Transliteration -/

/-- The spelling of letters that do not decompose. -/
def spelling (c : Char) : List Char :=
  if c = 'ß' then ['s', 's']
  else if c = 'æ' then ['a', 'e']
  else if c = 'Æ' then ['A', 'E']
  else if c = 'ø' then ['o']
  else if c = 'Ø' then ['O']
  else if c = 'đ' then ['d']
  else if c = 'Đ' then ['D']
  else if c = 'ł' then ['l']
  else if c = 'Ł' then ['L']
  else if c = 'œ' then ['o', 'e']
  else if c = 'Œ' then ['O', 'E']
  else if c = 'þ' then ['t', 'h']
  else if c = 'Þ' then ['T', 'H']
  else [c]

/-- An ASCII character. -/
def isAscii (c : Char) : Bool := c.toNat < 128

/-- The text in ASCII. -/
def transliterate (t : Text) : List Char :=
  (Text.nfkd ((t.filterMap CodePoint.char?).flatMap spelling)).filter isAscii

/-! ## 2. Words -/

/-- A character of a word. -/
def isWordChar (c : Char) : Bool := c.isUpper || c.isLower || c.isDigit

/-- Whether `c`, which `next` follows, goes on with the word whose characters so far are `word`,
read backwards. -/
def joins (word : List Char) (c : Char) (next : Option Char) : Bool :=
  match word with
  | [] => true
  | last :: before =>
    if c.isDigit then last.isDigit
    else if c.isLower then last.isLower || (last.isUpper && before.isEmpty)
    else if c.isUpper then
      last.isUpper && (before.isEmpty || !(next.any Char.isLower))
    else false

/-- A finished word, unless it is empty. -/
def finish : List Char → List (List Char)
  | [] => []
  | word => [word.reverse]

/-- The words of a text that follows the characters `word`, read backwards, of an unfinished
word. -/
def wordsFrom (word : List Char) : List Char → List (List Char)
  | [] => finish word
  | c :: cs =>
    if !isWordChar c then finish word ++ wordsFrom [] cs
    else if joins word c cs.head? then wordsFrom (c :: word) cs
    else finish word ++ wordsFrom [c] cs

/-- The words of an ASCII text. -/
def words (cs : List Char) : List (List Char) := wordsFrom [] cs

/-- The words of any text. -/
def split (t : Text) : List String := (words (transliterate t)).map String.ofList

/-! ## 3. Slugs and titles -/

/-- The small words of a text with hyphens between them; empty if the text has no word. -/
def slugify (t : Text) : String :=
  String.ofList (List.intercalate ['-']
    ((words (transliterate t)).map (fun w => w.map Char.toLower)))

/-- A word of a title: capitals stay, other words get a capital at the front. -/
def capitalize (word : List Char) : List Char :=
  if word.all Char.isUpper then word
  else match word with
    | [] => []
    | c :: cs => c.toUpper :: cs.map Char.toLower

/-- The words of an identifier as a title. -/
def humanize (t : Text) : String :=
  String.ofList (List.intercalate [' '] ((words (transliterate t)).map capitalize))

end ApiDocs.Slug
