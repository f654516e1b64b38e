import ApiDocs.Decimal.Shortest
import ApiDocs.Text.Base64
import ApiDocs.Value.Basic
import ApiDocs.Yaml.Pen

/-!
# Writing YAML in block style

`Yaml.writeMapping` writes the entries of a mapping one below the other.  Nested mappings are
indented by two columns; a list stands at the column of the key that it belongs to.  A key that is
not a short text on one line is introduced by a question mark.  A collection that contains itself is
cut off there: null stands for what would go on for ever.
-/

namespace ApiDocs.Yaml

/-! ## 1. Scalars -/

/-- Numbers that are not finite have words of their own, and a number with an exponent has a
point. -/
def floatStyle : Decimal.Style where
  pointBeforeExponent := true
  nan := ".nan"
  infinity := ".inf"

/-- The scalar that stands for a value without parts. -/
def Scalar.ofValue? : Value → Option Scalar
  | .null => some ⟨"null", .null, false⟩
  | .bool b => some ⟨if b then "true" else "false", .bool, false⟩
  | .int i => some ⟨Text.ofChars (Text.signedDecimal i), .int, false⟩
  | .float x _ => some ⟨Text.ofChars (floatStyle.text x), .float, false⟩
  | .str s => some ⟨s, .str, false⟩
  | .bytes bs => some ⟨Text.ofChars (Text.Base64.encodeLines bs), .binary, true⟩
  | .date d => some ⟨Text.ofChars d.text, .timestamp, false⟩
  | .datetime t => some ⟨Text.ofChars (t.text ' '), .timestamp, false⟩
  | _ => none

/-- The step by which nested collections are indented. -/
def indentStep : Nat := 2

/-- What a value belongs to, which decides where a list below it starts. -/
inductive Position where
  | inMapping
  | inList
  deriving Repr, DecidableEq

/-- The column of the items of a list. -/
def listColumn (position : Position) (column : Nat) (p : Pen) : Nat :=
  if position = .inMapping && !p.fresh then column else column + indentStep

/-- Writes a key and the colon after it.  A key that cannot stand on the line of its value stands
after a question mark, and the colon on a line of its own. -/
def writeKey (column : Nat) (key : Value) (complex : Pen → Pen) (p : Pen) : Pen :=
  let p := p.indent column
  let explicit (p : Pen) : Pen :=
    ((complex (p.indicator "?" true false true)).indent column).indicator ":" true false true
  match Scalar.ofValue? key with
  | some s =>
    if s.isSimpleKey then (p.scalar (column + indentStep) true s).indicator ":" false
    else explicit p
  | none => explicit p

/-! ## 2. Collections -/

mutual

/-- Writes a value that belongs to a collection at `column`. -/
def writeValue (column : Nat) (position : Position) : Value → Pen → Pen
  | .list [], p => (p.indicator "[" true true).indicator "]" false
  | .list items, p => writeItems (listColumn position column p) items p
  | .map [], p => (p.indicator "\x7b" true true).indicator "\x7d" false
  | .map entries, p => writeEntries (column + indentStep) entries p
  | .set items, p => writeMembers (column + indentStep) items (p.indicator "!!set" true)
  | .pair a b, p =>
    let column := listColumn position column p
    let item (v : Pen → Pen) (p : Pen) : Pen := v ((p.indent column).indicator "-" true false true)
    item (writeValue column .inList b) (item (writeValue column .inList a) p)
  | .null, p => writeScalar column .null p
  | .bool b, p => writeScalar column (.bool b) p
  | .int i, p => writeScalar column (.int i) p
  | .float x origin, p => writeScalar column (.float x origin) p
  | .str s, p => writeScalar column (.str s) p
  | .bytes bs, p => writeScalar column (.bytes bs) p
  | .date d, p => writeScalar column (.date d) p
  | .datetime t, p => writeScalar column (.datetime t) p
  | .knot _ v, p => writeValue column position v p
  | .back _, p => writeScalar column .null p
  termination_by structural v => v

/-- Writes the items of a list at `column`. -/
def writeItems (column : Nat) : List Value → Pen → Pen
  | [], p => p
  | v :: vs, p =>
    writeItems column vs
      (writeValue column .inList v ((p.indent column).indicator "-" true false true))
  termination_by structural vs => vs

/-- Writes the entries of a mapping at `column`. -/
def writeEntries (column : Nat) : List (Value × Value) → Pen → Pen
  | [], p => p
  | (k, v) :: es, p =>
    writeEntries column es
      (writeValue column .inMapping v (writeKey column k (writeValue column .inMapping k) p))
  termination_by structural es => es

/-- Writes the members of a set at `column`, each as a key without a value. -/
def writeMembers (column : Nat) : List Value → Pen → Pen
  | [], p => p
  | v :: vs, p =>
    writeMembers column vs
      (writeScalar column .null (writeKey column v (writeValue column .inMapping v) p))
  termination_by structural vs => vs

/-- Writes a value without parts. -/
def writeScalar (column : Nat) (v : Value) (p : Pen) : Pen :=
  match Scalar.ofValue? v with
  | some s => p.scalar (column + indentStep) false s
  | none => p

end

/-! ## 3. Mappings -/

/-- The text of a mapping in block style. -/
def writeMapping (entries : Value.Entries) : Text :=
  let p : Pen := match entries with
    | [] => (Pen.indicator "\x7b" true {} true).indicator "\x7d" false
    | entries => writeEntries 0 entries {}
  (p.indent 0).written.reverse

/-- How deep the collections of a mapping may be nested. -/
def maxWrittenNesting : Nat := 325

mutual

/-- Whether the collections of a value are nested at most `limit` deep. -/
def isWithin : (limit : Nat) → Value → Bool
  | 0, .list _ => false
  | 0, .map _ => false
  | 0, .set _ => false
  | 0, .pair _ _ => false
  | limit + 1, .list items => areWithin limit items
  | limit + 1, .map entries => entriesAreWithin limit entries
  | limit + 1, .set items => areWithin limit items
  | limit + 1, .pair a b => isWithin limit a && isWithin limit b
  | limit, .knot _ v => isWithin limit v
  | _, _ => true
  termination_by structural _ v => v

/-- Whether the collections of several values are nested at most `limit` deep. -/
def areWithin (limit : Nat) : List Value → Bool
  | [] => true
  | v :: vs => isWithin limit v && areWithin limit vs
  termination_by structural vs => vs

/-- Whether the collections in entries are nested at most `limit` deep. -/
def entriesAreWithin (limit : Nat) : List (Value × Value) → Bool
  | [] => true
  | (k, v) :: es => isWithin limit k && isWithin limit v && entriesAreWithin limit es
  termination_by structural es => es

end

/-- The text of a mapping in block style, unless its collections are nested too deeply. -/
def writeMapping? (entries : Value.Entries) : Option Text :=
  if isWithin maxWrittenNesting (.map entries) then some (writeMapping entries) else none

end ApiDocs.Yaml
