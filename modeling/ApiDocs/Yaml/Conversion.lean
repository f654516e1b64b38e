import ApiDocs.Text.Base64
import ApiDocs.Text.Blank
import ApiDocs.Text.Case
import ApiDocs.Text.DecimalDigit
import ApiDocs.Value.Basic
import ApiDocs.Yaml.Fault
import ApiDocs.Yaml.Resolution

/-!
# The values of scalars

`scalarValue` gives the value of a scalar of a known type.  A scalar whose type was found by
`resolve` has the form of that type and can fail only as a time that does not exist or as a number
without digits; one whose type was named in the document may hold any text.
-/

namespace ApiDocs.Yaml

/-! ## 1. Numbers -/

/-- A sign and what follows it. -/
def splitSign : List Char → Bool × List Char
  | '-' :: cs => (true, cs)
  | '+' :: cs => (false, cs)
  | cs => (false, cs)

/-- White space that may surround a number: without the separators U+001C to U+001F. -/
def isNumberBlank (c : Char) : Bool := Text.isBlank c && !(0x1C ≤ c.toNat && c.toNat ≤ 0x1F)

/-- The text of a number without the white space around it, and with ASCII digits for those of other
scripts. -/
def bareNumber (cs : List Char) : List Char :=
  (Text.trim isNumberBlank cs).map Text.asciiDigit

/-- An integer in digits of a base, with a sign if there is one, white space around it and the mark
of the base before it, as `0x` for base 16. -/
def integerIn (base : Nat) (cs : List Char) : Except Fault Int :=
  let (negative, body) := splitSign (bareNumber cs)
  let mark : List (Nat × List (List Char)) :=
    [(2, ["0b".toList, "0B".toList]), (8, ["0o".toList, "0O".toList]),
      (16, ["0x".toList, "0X".toList])]
  let digits :=
    if ((mark.lookup base).getD []).any (fun m => m.isPrefixOf body) then body.drop 2 else body
  if base = 10 ∧ Text.maxDigits < digits.length then .error .noNumber
  else match Text.readDigits base digits with
    | some n => .ok (if negative then -(n : Int) else n)
    | none => .error .noNumber

/-- The value of digits in base sixty, the first one first. -/
def sexagesimal (parts : List Int) : Int := parts.foldl (fun acc d => acc * 60 + d) 0

/-- The text of a number without separators, split into sign and magnitude. -/
def numberText (cs : List Char) : Except Fault (Bool × List Char) :=
  match cs.filter (· != '_') with
  | [] => .error .emptyNumber
  | cs => .ok (splitSign cs)

/-- The value of an integer scalar. -/
def intOf (cs : List Char) : Except Fault Int := do
  let (negative, body) ← numberText cs
  let magnitude ← match body with
    | [] => throw .emptyNumber
    | ['0'] => pure 0
    | '0' :: 'b' :: ds => integerIn 2 ds
    | '0' :: 'x' :: ds => integerIn 16 ds
    | '0' :: _ => integerIn 8 body
    | _ =>
      if body.contains ':' then
        sexagesimal <$> (Text.splitAt (· == ':') body).mapM (integerIn 10)
      else integerIn 10 body
  return if negative then -magnitude else magnitude

/-- A number in decimal notation, with white space around it. -/
def decimalOf (cs : List Char) : Except Fault Decimal.Binary64 :=
  match Decimal.Binary64.read? (bareNumber cs) with
  | some x => .ok x
  | none => .error .noNumber

/-- The value of numbers in base sixty, the last one first: each is scaled and added in turn.  A
scale that is too large for the format is a fault, whatever it scales. -/
def sexagesimalFloat (scale : Nat) (total : Decimal.Binary64) :
    List Decimal.Binary64 → Except Fault Decimal.Binary64
  | [] => .ok total
  | x :: xs =>
    match Decimal.Binary64.ofInt scale with
    | .finite _ _ _ => sexagesimalFloat (scale * 60) (total.add (x.scaleBy scale)) xs
    | _ => .error .hugeNumber

/-- The origin of all numbers that are written as `.nan`. -/
def commonOrigin : Nat := 0

/-- A number; one that is not a number has an origin. -/
def floatWithOrigin (origin : Nat) (x : Decimal.Binary64) : Value :=
  .float x (if x = .nan then origin else commonOrigin)

/-- The value of a scalar with a point.  All that are written as `.nan` are the same; any other
result that is not a number has an origin of its own. -/
def floatOf (own : Nat) (cs : List Char) : Except Fault Value := do
  let (negative, body) ← numberText cs
  let body := Text.toChars (Text.lower (Text.ofChars body))
  let signed (x : Decimal.Binary64) : Decimal.Binary64 := if negative then x.neg else x
  if body = ".inf".toList then return floatWithOrigin own (signed (.infinity false))
  else if body = ".nan".toList then return floatWithOrigin commonOrigin .nan
  else if body.contains ':' then
    let parts ← (Text.splitAt (· == ':') body).mapM decimalOf
    return floatWithOrigin own (signed (← sexagesimalFloat 1 .zero parts.reverse))
  else return floatWithOrigin own (signed (← decimalOf body))

/-! ## 2. Times -/

/-- The value of a number of digits. -/
def digits (cs : List Char) : Nat := Text.decimalValue cs

/-- The offset of a zone. -/
def offsetOf (sign : Char) (hours minutes : List Char) : Int :=
  let n : Int := microsecondsOf (digits hours * 3600 + digits minutes * 60)
  if sign = '-' then -n else n

/-- The value of a date or time. -/
def timestampOf (cs : List Char) : Except Fault Value :=
  match timestampParts? cs with
  | none => .error .noTime
  | some parts =>
    let date : Date := ⟨digits parts.year, digits parts.month, digits parts.day⟩
    match parts.time with
    | none => if date.isValid then .ok (.date date) else .error .impossibleTime
    | some (hour, minute, second, fraction) =>
      let micro := if fraction.isEmpty then 0
        else digits ((fraction ++ List.replicate 6 '0').take 6)
      let offset := parts.zone.map fun zone => match zone with
        | none => 0
        | some (sign, hours, minutes) => offsetOf sign hours minutes
      let t : DateTime := ⟨date, digits hour, digits minute, digits second, micro, offset⟩
      if t.isValid then .ok (.datetime t) else .error .impossibleTime

/-! ## 3. All scalars -/

/-- The value of a word for a truth value. -/
def boolOf (text : Text) : Except Fault Bool :=
  match Text.toString? (Text.lower text) with
  | some word =>
    if ["yes", "true", "on"].contains word then .ok true
    else if ["no", "false", "off"].contains word then .ok false
    else .error .noTruthValue
  | none => .error .noTruthValue

/-- The value of encoded bytes. -/
def binaryOf (cs : List Char) : Except Fault (List UInt8) :=
  if cs.all (fun c => c.toNat < 128) then
    match Text.Base64.decode? cs with
    | some bs => .ok bs
    | none => .error .malformed
  else .error .malformed

/-- The value of a scalar of a type; `own` is the origin of a result that is not a number.  The
types of collections have no scalars, and neither have the types that only serve as keys.  A half of
a surrogate pair can stand in a text only, and everywhere else it is as good as the replacement
character. -/
def scalarValue (own : Nat) (tag : CoreTag) (text : Text) : Except Fault Value :=
  match tag with
  | .null => .ok .null
  | .bool => (boolOf text).map .bool
  | .int => (intOf (Text.toChars text)).map .int
  | .float => floatOf own (Text.toChars text)
  | .timestamp => timestampOf (Text.toChars text)
  | .binary => (binaryOf (Text.toChars text)).map .bytes
  | .str => .ok (.str text)
  | _ => .error .malformed

end ApiDocs.Yaml
