import ApiDocs.Decimal.Shortest
import ApiDocs.Text.Quoted
import ApiDocs.Value.Basic

/-!
# The text of a value

`Value.text` is what a value reads as where free text is wanted: a text stands for itself, and
everything else for its written form.  Inside a list or a mapping texts are quoted
(`Value.quotedIn`), so that the parts can be told apart.

There is no text if an integer in the value has more digits than are written (`Text.maxDigits`), or
if its collections are nested more deeply than is written (`maxDepth`); the first of the two that is
met is the reason.  A collection that contains itself is not written again inside itself: three
points stand for it.
-/

namespace ApiDocs.Value

/-- The reason why a value has no text. -/
inductive NoText where
  /-- An integer has too many digits. -/
  | longInteger
  /-- Collections are nested too deeply. -/
  | tooDeep
  deriving Repr, DecidableEq, Inhabited

/-! ## 1. Scalars -/

/-- Numbers are written with the fewest digits; exponents from -4 to 15 are written out, and a whole
number keeps `.0`. -/
def floatStyle : Decimal.Style := {}

/-- The digits of an integer that is not too long. -/
def integerText (i : Int) : Except NoText (List Char) :=
  if Text.isTooLong i.natAbs then .error .longInteger else .ok (Text.signedDecimal i)

/-- A call with numbers as arguments. -/
def call (name : String) (arguments : List Nat) : List Char :=
  name.toList ++ '(' :: List.intercalate [',', ' '] (arguments.map Text.decimal) ++ [')']

/-- A date inside a larger value. -/
def dateQuoted (d : Date) : List Char := call "datetime.date" [d.year, d.month, d.day]

/-- An offset inside a larger value: days, seconds and microseconds as far as there are any, of
which only the days are negative. -/
def offsetQuoted (o : Int) : List Char :=
  if o = 0 then "datetime.timezone.utc".toList
  else
    let rest := (if o < 0 then o + microsecondsOf 86400 else o).toNat
    let part (name : String) (n : Nat) : List (List Char) :=
      if n = 0 then [] else [name.toList ++ '=' :: Text.decimal n]
    let parts := (if o < 0 then ["days=-1".toList] else [])
      ++ part "seconds" (rest / microsecondsOf 1) ++ part "microseconds" (rest % microsecondsOf 1)
    "datetime.timezone(datetime.timedelta(".toList ++ List.intercalate [',', ' '] parts
      ++ "))".toList

/-- A time inside a larger value; seconds and microseconds are left out from the end while they are
zero. -/
def datetimeQuoted (t : DateTime) : List Char :=
  let clock :=
    if t.microsecond ≠ 0 then [t.hour, t.minute, t.second, t.microsecond]
    else if t.second ≠ 0 then [t.hour, t.minute, t.second]
    else [t.hour, t.minute]
  let arguments := ([t.date.year, t.date.month, t.date.day] ++ clock).map Text.decimal
  let offset := match t.offset with
    | none => []
    | some o => ", tzinfo=".toList ++ offsetQuoted o
  "datetime.datetime(".toList ++ List.intercalate [',', ' '] arguments ++ offset ++ [')']

/-! ## 2. Containers -/

/-- Parts between two brackets, separated by a comma and a space. -/
def bracketed (left right : Char) (parts : List (List Char)) : List Char :=
  left :: List.intercalate [',', ' '] parts ++ [right]

/-- What stands for a collection inside itself. -/
def ellipsis : Value → List Char
  | .list _ => "[...]".toList
  | .map _ => "\x7b...\x7d".toList
  | .set _ => "set(...)".toList
  | _ => "...".toList

/-- The knots that are being written, with what stands for them inside themselves. -/
abbrev Surroundings := List (Nat × List Char)

/-- How deep a value that is written may be nested. -/
def maxDepth : Nat := 980

/-- The form of a part at a depth, unless it is too deep. -/
def atDepth {α : Type} (depth : Nat) (form : Except NoText α) : Except NoText α :=
  if maxDepth < depth then .error .tooDeep else form

mutual

/-- The form of a value inside a larger one, at a depth. -/
def quotedIn (depth : Nat) (around : Surroundings) : Value → Except NoText (List Char)
  | .null => atDepth depth (.ok "None".toList)
  | .bool b => atDepth depth (.ok (if b then "True".toList else "False".toList))
  | .int i => atDepth depth (integerText i)
  | .float x _ => atDepth depth (.ok (floatStyle.text x))
  | .str s => atDepth depth (.ok (Text.quoted s))
  | .bytes bs => atDepth depth (.ok (Text.quotedBytes bs))
  | .date d => atDepth depth (.ok (dateQuoted d))
  | .datetime t => atDepth depth (.ok (datetimeQuoted t))
  | .list items =>
    atDepth depth ((itemsQuotedIn (depth + 1) around items).map (bracketed '[' ']'))
  | .map entries =>
    atDepth depth ((entriesQuotedIn (depth + 1) around entries).map (bracketed '{' '}'))
  | .set [] => atDepth depth (.ok "set()".toList)
  | .set items =>
    atDepth depth ((itemsQuotedIn (depth + 1) around items).map (bracketed '{' '}'))
  | .pair a b => atDepth depth do
    return bracketed '(' ')' [← quotedIn (depth + 1) around a, ← quotedIn (depth + 1) around b]
  | .knot label v =>
    match around.lookup label with
    | some short => atDepth depth (.ok short)
    | none => quotedIn depth ((label, ellipsis v) :: around) v
  | .back label => atDepth depth (.ok ((around.lookup label).getD "...".toList))
  termination_by structural v => v

/-- The forms of several values at a depth. -/
def itemsQuotedIn (depth : Nat) (around : Surroundings) :
    List Value → Except NoText (List (List Char))
  | [] => .ok []
  | v :: vs => do return (← quotedIn depth around v) :: (← itemsQuotedIn depth around vs)
  termination_by structural vs => vs

/-- The forms of the entries of a mapping at a depth. -/
def entriesQuotedIn (depth : Nat) (around : Surroundings) :
    List (Value × Value) → Except NoText (List (List Char))
  | [] => .ok []
  | (k, v) :: es => do
    let entry := (← quotedIn depth around k) ++ ':' :: ' ' :: (← quotedIn depth around v)
    return entry :: (← entriesQuotedIn depth around es)
  termination_by structural es => es

end

/-- A value as free text. -/
def text : Value → Except NoText Text
  | .str s => .ok s
  | .date d => .ok (Text.ofChars d.text)
  | .datetime t => .ok (Text.ofChars (t.text ' '))
  | v => (quotedIn 0 [] v).map Text.ofChars

@[simp] theorem text_str (s : Text) : text (.str s) = .ok s := rfl

/-- The text of a value that counts as true, and the empty text otherwise. -/
def textOrEmpty (v : Value) : Except NoText Text := if v.isTruthy then v.text else .ok []

@[simp] theorem textOrEmpty_str (s : Text) : textOrEmpty (.str s) = .ok s := by
  cases s <;> simp [textOrEmpty, isTruthy]

end ApiDocs.Value
