import ApiDocs.Text.Basic
import ApiDocs.Text.Blank
import ApiDocs.Text.Digits
import ApiDocs.Yaml.Character

/-!
# Types of plain scalars

In YAML 1.1 a scalar without quotes has the type that its text looks like: `yes` is a truth value,
`0x10` and `1:30` are integers, `2024-01-15` is a date, and a text that looks like nothing else is a
text.  `resolve` decides it.  The writer uses the same function to see which texts need quotes.
-/

namespace ApiDocs.Yaml

/-- The types of the YAML 1.1 type repository that a document can use. -/
inductive CoreTag where
  | null
  | bool
  | int
  | float
  | timestamp
  | binary
  | str
  | seq
  | map
  | set
  | omap
  | pairs
  | merge
  | value
  /-- A single indicator; there are no values of this type. -/
  | indicator
  deriving Repr, DecidableEq, Inhabited

/-- The name of a type, in its own name space. -/
def CoreTag.name : CoreTag → String
  | .null => "null"
  | .bool => "bool"
  | .int => "int"
  | .float => "float"
  | .timestamp => "timestamp"
  | .binary => "binary"
  | .str => "str"
  | .seq => "seq"
  | .map => "map"
  | .set => "set"
  | .omap => "omap"
  | .pairs => "pairs"
  | .merge => "merge"
  | .value => "value"
  | .indicator => "yaml"

/-- All types. -/
def CoreTag.all : List CoreTag :=
  [.null, .bool, .int, .float, .timestamp, .binary, .str, .seq, .map, .set, .omap, .pairs, .merge,
    .value, .indicator]

/-- The name space of the types. -/
def coreNamespace : String := "tag:yaml.org,2002:"

/-- The type of a full name. -/
def CoreTag.ofName? (name : String) : Option CoreTag :=
  CoreTag.all.find? (fun t => coreNamespace ++ t.name == name)

/-! ## 1. Pieces of numbers -/

/-- A text of one or more characters of a class. -/
def allOf (p : Char → Bool) (cs : List Char) : Bool := !cs.isEmpty && cs.all p

/-- A digit or a separator of digits. -/
def isDigitOrBar (c : Char) : Bool := Text.isDigit c || c == '_'

/-- The text after a sign, if there is one. -/
def afterSign : List Char → List Char
  | '+' :: cs => cs
  | '-' :: cs => cs
  | cs => cs

/-- One or two digits below sixty. -/
def isSixtieth : List Char → Bool
  | [a] => Text.isDigit a
  | [a, b] => '0' ≤ a && a ≤ '5' && Text.isDigit b
  | _ => false

/-- Two or more parts with colons between them, the first of which `first` accepts while the others
are below sixty. -/
def isSexagesimal (first : List Char → Bool) (cs : List Char) : Bool :=
  match Text.splitAt (· == ':') cs with
  | a :: b :: more => first a && (b :: more).all isSixtieth
  | _ => false

/-- A digit, then digits and separators. -/
def isDigitsFrom (low : Char) : List Char → Bool
  | c :: cs => low ≤ c && c ≤ '9' && cs.all isDigitOrBar
  | [] => false

/-- Nothing, or an exponent with its sign. -/
def isOptionalExponent : List Char → Bool
  | [] => true
  | e :: sign :: ds =>
    (e == 'e' || e == 'E') && (sign == '+' || sign == '-') && allOf Text.isDigit ds
  | _ => false

/-! ## 2. The types -/

/-- A word for a truth value. -/
def isBoolWord (s : String) : Bool :=
  ["yes", "Yes", "YES", "no", "No", "NO", "true", "True", "TRUE", "false", "False", "FALSE",
    "on", "On", "ON", "off", "Off", "OFF"].contains s

/-- An integer: binary, octal, decimal, hexadecimal or in base sixty. -/
def isInt (cs : List Char) : Bool :=
  match afterSign cs with
  | ['0'] => true
  | '0' :: 'b' :: ds => allOf (fun c => c == '0' || c == '1' || c == '_') ds
  | '0' :: 'x' :: ds => allOf (fun c => Text.isHexDigit c || c == '_') ds
  | '0' :: ds => allOf (fun c => ('0' ≤ c && c ≤ '7') || c == '_') ds
  | body => isDigitsFrom '1' body || isSexagesimal (isDigitsFrom '1') body

/-- A number with a point: decimal, in base sixty, infinite or none. -/
def isFloat (cs : List Char) : Bool :=
  let body := afterSign cs
  let whole := body.takeWhile (· != '.')
  let rest := body.dropWhile (· != '.')
  let fraction := rest.drop 1
  let afterDigits := fraction.dropWhile isDigitOrBar
  (isDigitsFrom '0' whole && !rest.isEmpty && isOptionalExponent afterDigits)
    || (isSexagesimal (isDigitsFrom '0') whole && !rest.isEmpty && afterDigits.isEmpty)
    || (match cs with
      | '.' :: ds => isDigitsFrom '0' (ds.takeWhile isDigitOrBar)
        && isOptionalExponent (ds.dropWhile isDigitOrBar)
      | _ => false)
    || ([".inf", ".Inf", ".INF"].contains (String.ofList body))
    || ([".nan", ".NaN", ".NAN"].contains (String.ofList cs))

/-- The parts of a text that has the form of a date, with a time of day or without. -/
structure TimestampParts where
  year : List Char
  month : List Char
  day : List Char
  /-- Hour, minute, second and fraction of a second. -/
  time : Option (List Char × List Char × List Char × List Char)
  /-- The zone: none, universal time, or a sign with hours and minutes. -/
  zone : Option (Option (Char × List Char × List Char))
  deriving Repr

/-- One or two digits at the start of the text. -/
def takeOneOrTwoDigits (cs : List Char) : Option (List Char × List Char) :=
  match cs with
  | a :: b :: rest =>
    if Text.isDigit a then
      if Text.isDigit b then some ([a, b], rest) else some ([a], b :: rest)
    else none
  | [a] => if Text.isDigit a then some ([a], []) else none
  | [] => none

/-- Exactly `n` digits at the start of the text. -/
def takeDigits (n : Nat) (cs : List Char) : Option (List Char × List Char) :=
  let ds := cs.take n
  if ds.length = n ∧ ds.all Text.isDigit then some (ds, cs.drop n) else none

/-- The rest of the text after a character. -/
def skipChar (c : Char) : List Char → Option (List Char)
  | d :: cs => if c = d then some cs else none
  | [] => none

/-- The zone at the end of a time. -/
def readZone (cs : List Char) : Option (Option (Option (Char × List Char × List Char))) :=
  if cs.isEmpty then some none
  else match cs.dropWhile (fun c => c == ' ' || c == '\t') with
    | ['Z'] => some (some none)
    | sign :: rest =>
      if sign = '+' ∨ sign = '-' then
        match takeOneOrTwoDigits rest with
        | some (hours, []) => some (some (some (sign, hours, [])))
        | some (hours, ':' :: rest) => match takeDigits 2 rest with
          | some (minutes, []) => some (some (some (sign, hours, minutes)))
          | _ => none
        | _ => none
      else none
    | [] => none

/-- The text after the mark between date and time of day: a letter, or blanks. -/
def afterTimeMark : List Char → Option (List Char)
  | c :: cs =>
    if c = 'T' ∨ c = 't' then some cs
    else if c = ' ' ∨ c = '\t' then some (cs.dropWhile (fun c => c == ' ' || c == '\t'))
    else none
  | [] => none

/-- A text without the line feed at its end, unless it is nothing else. -/
def unterminated (cs : List Char) : List Char :=
  if cs.getLast? = some '\n' ∧ 1 < cs.length then cs.dropLast else cs

/-- The parts of a text of the form of a date; a line feed at its end does not count. -/
def timestampParts? (cs : List Char) : Option TimestampParts := do
  let (year, rest) ← takeDigits 4 (unterminated cs)
  let rest ← skipChar '-' rest
  let (month, rest) ← takeOneOrTwoDigits rest
  let rest ← skipChar '-' rest
  let (day, rest) ← takeOneOrTwoDigits rest
  if rest.isEmpty then return ⟨year, month, day, none, none⟩
  let rest ← afterTimeMark rest
  let (hour, rest) ← takeOneOrTwoDigits rest
  let rest ← skipChar ':' rest
  let (minute, rest) ← takeDigits 2 rest
  let rest ← skipChar ':' rest
  let (second, rest) ← takeDigits 2 rest
  let (fraction, rest) := match rest with
    | '.' :: r => (r.takeWhile Text.isDigit, r.dropWhile Text.isDigit)
    | r => ([], r)
  let zone ← readZone rest
  return ⟨year, month, day, some (hour, minute, second, fraction), zone⟩

/-- A date; month and day have two digits unless a time of day follows. -/
def isTimestamp (cs : List Char) : Bool :=
  match timestampParts? cs with
  | some parts => parts.time.isSome || (parts.month.length == 2 && parts.day.length == 2)
  | none => false

/-- The type of a plain scalar of characters.  A line feed at its end does not count. -/
def resolveChars (text : List Char) : CoreTag :=
  let cs := unterminated text
  let s := String.ofList cs
  if isBoolWord s then .bool
  else if isFloat cs then .float
  else if isInt cs then .int
  else if s = "<<" then .merge
  else if ["", "~", "null", "Null", "NULL"].contains s then .null
  else if isTimestamp cs then .timestamp
  else if s = "=" then .value
  else if ["!", "&", "*"].contains s then .indicator
  else .str

/-- The type of a plain scalar.  With a half of a surrogate pair it looks like nothing but a
text. -/
def resolve (text : Text) : CoreTag := (Text.chars? text).elim .str resolveChars

end ApiDocs.Yaml
