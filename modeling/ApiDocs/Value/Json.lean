import ApiDocs.Json.Basic
import ApiDocs.Value.Text

/-!
# Loaded values as JSON

`Value.toJson` prints a loaded value as JSON would have it: keys that are scalars become texts, and
scalars that JSON does not have become their text.  Three things have no JSON form: a key that is a
byte string, a date, a time or a pair; a part that has no text, or would have none, because of its
digits or its depth; and a collection that contains itself.  Of several, the first is reported
(`NoJson`).
-/

namespace ApiDocs.Value

/-- The reason why a value has no JSON form. -/
inductive NoJson where
  /-- A key is no scalar of JSON. -/
  | key (key : Value)
  /-- A part has no text. -/
  | part (cause : NoText)
  /-- A collection contains itself. -/
  | endless
  deriving Repr, Inhabited

/-- The text of a part. -/
def partText (v : Value) : Except NoJson Text := v.text.mapError .part

/-- The member name that a key becomes. -/
def keyText : Value → Except NoJson Text
  | .null => .ok "null"
  | .bool b => .ok (if b then "true" else "false")
  | .int i => partText (.int i)
  | .float x _ => .ok (Text.ofChars (Json.floatStyle.text x))
  | .str s => .ok s
  | key => .error (.key key)

/-- The form of a collection at a depth, unless it is too deep. -/
def within {α : Type} (depth : Nat) (form : Except NoJson α) : Except NoJson α :=
  if maxDepth < depth then .error (.part .tooDeep) else form

mutual

/-- The JSON form of a value at a depth, inside the knots with the labels `around`. -/
def toJsonIn (depth : Nat) (around : List Nat) : Value → Except NoJson Json
  | .null => .ok .null
  | .bool b => .ok (.bool b)
  | .int i => (integerText i).mapError .part |>.map (fun _ => .int i)
  | .float x _ => .ok (.float x)
  | .str s => .ok (.str s)
  | .bytes bs => (partText (.bytes bs)).map .str
  | .date d => (partText (.date d)).map .str
  | .datetime t => (partText (.datetime t)).map .str
  | .set items => (partText (.set items)).map .str
  | .list items => (within depth (itemsToJsonIn (depth + 1) around items)).map .arr
  | .map entries => (within depth (entriesToJsonIn (depth + 1) around entries)).map .obj
  | .pair a b => within depth do
    return .arr [← toJsonIn (depth + 1) around a, ← toJsonIn (depth + 1) around b]
  | .knot label v =>
    if around.contains label then .error .endless else toJsonIn depth (label :: around) v
  | .back _ => .error .endless
  termination_by structural v => v

/-- The JSON forms of several values at a depth. -/
def itemsToJsonIn (depth : Nat) (around : List Nat) : List Value → Except NoJson (List Json)
  | [] => .ok []
  | v :: vs => do return (← toJsonIn depth around v) :: (← itemsToJsonIn depth around vs)
  termination_by structural vs => vs

/-- The members that the entries of a mapping at a depth become. -/
def entriesToJsonIn (depth : Nat) (around : List Nat) :
    List (Value × Value) → Except NoJson (List (Text × Json))
  | [] => .ok []
  | (k, v) :: es => do
    let name ← keyText k
    return (name, ← toJsonIn depth around v) :: (← entriesToJsonIn depth around es)
  termination_by structural es => es

end

/-- The JSON form of a value. -/
def toJson (v : Value) : Except NoJson Json := toJsonIn 0 [] v

mutual

/-- The loaded value that a JSON value denotes. -/
def ofJson : Json → Value
  | .null => .null
  | .bool b => .bool b
  | .int i => .int i
  | .float x => .float x 0
  | .str s => .str s
  | .arr items => .list (itemsOfJson items)
  | .obj members => .map (membersOfJson members)
  termination_by structural v => v

/-- The loaded values that several JSON values denote. -/
def itemsOfJson : List Json → List Value
  | [] => []
  | v :: vs => ofJson v :: itemsOfJson vs
  termination_by structural vs => vs

/-- The entries that the members of an object denote. -/
def membersOfJson : List (Text × Json) → List (Value × Value)
  | [] => []
  | (name, v) :: ms => (.str name, ofJson v) :: membersOfJson ms
  termination_by structural ms => ms

end

end ApiDocs.Value
