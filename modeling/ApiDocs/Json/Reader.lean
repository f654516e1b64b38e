import ApiDocs.Json.Basic
import ApiDocs.Keyed

/-!
# Reading JSON

`Json.readText` accepts exactly one value with white space around it, and beyond the standard the
words `NaN`, `Infinity` and `-Infinity`.  Of members with one name the last value counts, in the
place of the first.  A half of a surrogate pair may stand in a string like any character.

Each step returns what is left of the text.  Arrays and objects may be nested `maxNesting` deep, and
no deeper; the loops over their parts carry a `limit`, the length of the text, since every part
takes a character.
-/

namespace ApiDocs.Json

/-- The reason why a text is refused. -/
inductive Fault where
  /-- The text is no JSON. -/
  | malformed
  /-- An integer has too many digits. -/
  | longInteger
  /-- Arrays and objects are nested too deeply. -/
  | tooDeep
  deriving Repr, DecidableEq, Inhabited

/-! ## 1. Tokens -/

/-- White space between the parts of a value. -/
def isGap (c : Char) : Bool := c == ' ' || c == '\t' || c == '\n' || c == '\r'

/-- The rest of the text after white space. -/
def skipBlanks (t : Text) : Text := t.dropWhile (CodePoint.isIn isGap)

/-- Reads four hexadecimal digits. -/
def readUnit? (t : Text) : Option (Nat × Text) :=
  let ds := t.take 4
  if ds.length = 4 ∧ ds.all (CodePoint.isIn Text.isHexDigit) then
    (Text.readDigits 16 (Text.toChars ds)).map (fun n => (n, t.drop 4))
  else none

/-- What follows the backslash and `u` of an escape.  Two escapes that make up a surrogate pair are
one character. -/
def readEscape? (t : Text) : Option (CodePoint × Text) :=
  match readUnit? t with
  | none => none
  | some (n, rest) =>
    if 0xD800 ≤ n ∧ n ≤ 0xDBFF then
      match rest with
      | .char '\\' :: .char 'u' :: more =>
        match readUnit? more with
        | some (m, after) =>
          if 0xDC00 ≤ m ∧ m ≤ 0xDFFF then
            some (.ofNat (0x10000 + (n - 0xD800) * 0x400 + (m - 0xDC00)), after)
          else some (.ofNat n, rest)
        | none => some (.ofNat n, rest)
      | _ => some (.ofNat n, rest)
    else some (.ofNat n, rest)

/-- The character that a letter after a backslash stands for. -/
def simpleEscape? (x : CodePoint) : Option CodePoint :=
  if x = .char '"' ∨ x = .char '\\' ∨ x = .char '/' then some x
  else if x = .char 'n' then some (.char '\n')
  else if x = .char 'r' then some (.char '\r')
  else if x = .char 't' then some (.char '\t')
  else if x = .char 'b' then some (.char '\x08')
  else if x = .char 'f' then some (.char '\x0c')
  else none

/-- What a string holds up to its closing quote; `limit` bounds its length. -/
def readPoints : (limit : Nat) → Text → Option (Text × Text)
  | 0, _ => none
  | _, [] => none
  | limit + 1, x :: t =>
    if x = .char '"' then some ([], t)
    else if x.toNat < 0x20 then none
    else if x = .char '\\' then
      match t with
      | [] => none
      | e :: rest =>
        let step :=
          if e = .char 'u' then readEscape? rest else (simpleEscape? e).map (fun y => (y, rest))
        match step with
        | none => none
        | some (y, rest) => (readPoints limit rest).map (fun r => (y :: r.1, r.2))
    else (readPoints limit t).map (fun r => (x :: r.1, r.2))

/-- The rest of a string whose opening quote has been read. -/
def readString? (t : Text) : Option (Text × Text) := readPoints (t.length + 1) t

/-- The digits at the start of a text, and what follows them. -/
def takeDigits (t : Text) : List Char × Text :=
  (Text.toChars (t.takeWhile (CodePoint.isIn Text.isDigit)),
    t.dropWhile (CodePoint.isIn Text.isDigit))

/-- The whole part of a number: zero, or digits that do not start with zero. -/
def readWhole? : Text → Option (List Char × Text)
  | .char '0' :: t => some (['0'], t)
  | t =>
    let (ds, rest) := takeDigits t
    if ds.isEmpty then none else some (ds, rest)

/-- The fraction of a number, without its point. -/
def readFraction : Text → List Char × Text
  | .char '.' :: t =>
    let (ds, rest) := takeDigits t
    if ds.isEmpty then ([], .char '.' :: t) else (ds, rest)
  | t => ([], t)

/-- The exponent of a number, if there is one. -/
def readExponent : Text → Option Int × Text
  | [] => (none, [])
  | x :: t =>
    if x = .char 'e' ∨ x = .char 'E' then
      let (negative, body) := match t with
        | .char '-' :: r => (true, r)
        | .char '+' :: r => (false, r)
        | r => (false, r)
      let (ds, rest) := takeDigits body
      if ds.isEmpty then (none, x :: t)
      else
        let n : Int := Text.decimalValue ds
        (some (if negative then -n else n), rest)
    else (none, x :: t)

/-- A number after its sign: an integer unless it has a fraction or an exponent. -/
def readUnsigned (negative : Bool) (t : Text) : Except Fault (Json × Text) :=
  match readWhole? t with
  | none => .error .malformed
  | some (whole, rest) =>
    let (fraction, rest) := readFraction rest
    let (exponent, rest) := readExponent rest
    if fraction.isEmpty && exponent.isNone then
      if Text.maxDigits < whole.length then .error .longInteger
      else
        let n : Int := Text.decimalValue whole
        .ok (.int (if negative then -n else n), rest)
    else
      let digits := Text.decimalValue (whole ++ fraction)
      .ok (.float (.ofDecimal negative digits (exponent.getD 0 - fraction.length)), rest)

/-- A number. -/
def readNumber : Text → Except Fault (Json × Text)
  | .char '-' :: t => readUnsigned true t
  | t => readUnsigned false t

/-- The words that stand for a value. -/
def words : List (Text × Json) :=
  [("null", .null), ("true", .bool true), ("false", .bool false), ("NaN", .float .nan),
    ("Infinity", .float (.infinity false)), ("-Infinity", .float (.infinity true))]

/-- A word or a number. -/
def readAtom (t : Text) : Except Fault (Json × Text) :=
  match words.find? (fun w => w.1.isPrefixOf t) with
  | some (w, v) => .ok (v, t.drop w.length)
  | none => readNumber t

/-! ## 2. Values -/

/-- A reader of a value: the value and the rest of the text. -/
abbrev ValueReader := Text → Except Fault (Json × Text)

/-- The name of a member, and the text at its value. -/
def readName : Text → Except Fault (Text × Text)
  | .char '"' :: rest =>
    match readString? rest with
    | some (name, rest) => match skipBlanks rest with
      | .char ':' :: rest => .ok (name, skipBlanks rest)
      | _ => .error .malformed
    | none => .error .malformed
  | _ => .error .malformed

/-- The items of an array, up to its closing bracket; there is at least one. -/
def readItems (item : ValueReader) : (limit : Nat) → Text → Except Fault (List Json × Text)
  | 0, _ => .error .malformed
  | limit + 1, t => do
    let (v, rest) ← item t
    match skipBlanks rest with
    | .char ']' :: rest => return ([v], rest)
    | .char ',' :: rest =>
      let (vs, rest) ← readItems item limit (skipBlanks rest)
      return (v :: vs, rest)
    | _ => throw .malformed

/-- The members of an object, up to its closing bracket; there is at least one. -/
def readMembers (item : ValueReader) :
    (limit : Nat) → Text → Except Fault (List (Text × Json) × Text)
  | 0, _ => .error .malformed
  | limit + 1, t => do
    let (name, rest) ← readName t
    let (v, rest) ← item rest
    match skipBlanks rest with
    | .char '}' :: rest => return ([(name, v)], rest)
    | .char ',' :: rest =>
      let (ms, rest) ← readMembers item limit (skipBlanks rest)
      return ((name, v) :: ms, rest)
    | _ => throw .malformed

/-- How deep arrays and objects may be nested. -/
def maxNesting : Nat := 985

/-- A value at the start of the text that is nested at most `depth` deep; `limit` bounds the number
of its parts. -/
def readValue (limit : Nat) : (depth : Nat) → ValueReader
  | _, .char '"' :: rest =>
    match readString? rest with
    | some (s, rest) => .ok (.str s, rest)
    | none => .error .malformed
  | 0, .char '[' :: _ => .error .tooDeep
  | 0, .char '{' :: _ => .error .tooDeep
  | depth + 1, .char '[' :: rest =>
    match skipBlanks rest with
    | .char ']' :: rest => .ok (.arr [], rest)
    | rest => (readItems (readValue limit depth) limit rest).map (fun r => (.arr r.1, r.2))
  | depth + 1, .char '{' :: rest =>
    match skipBlanks rest with
    | .char '}' :: rest => .ok (.obj [], rest)
    | rest => (readMembers (readValue limit depth) limit rest).map (fun r =>
        (.obj (Keyed.ofList (· == ·) r.1), r.2))
  | _, t => readAtom t

/-- The value that a text denotes. -/
def readText (t : Text) : Except Fault Json := do
  let (v, rest) ← readValue (t.length + 1) maxNesting (skipBlanks t)
  if (skipBlanks rest).isEmpty then return v else throw .malformed

/-- The value that a string denotes. -/
def read (s : String) : Except Fault Json := readText s

end ApiDocs.Json
