import ApiDocs.Decimal.Shortest
import ApiDocs.Text.Basic
import ApiDocs.Text.Digits

/-!
# JSON values and their printed form

`Json.pretty` lays a value out over several lines, two spaces for each level, with every character
above the controls written as itself.  Members are printed in their order, and a name that occurs
twice is printed twice.

**No line break stands inside a string:** `escapeChar` writes every control character as an escape,
so the line breaks of the text are those of the layout.
-/

namespace ApiDocs

/-- A JSON value; a number is an integer of any size or a binary64 number. -/
inductive Json where
  | null
  | bool (b : Bool)
  | int (i : Int)
  | float (x : Decimal.Binary64)
  | str (s : Text)
  | arr (items : List Json)
  | obj (members : List (Text × Json))
  deriving Repr, Inhabited

namespace Json

/-! ## 1. Strings -/

/-- One character inside a string. -/
def escapeChar (c : Char) : List Char :=
  if c = '"' then ['\\', '"']
  else if c = '\\' then ['\\', '\\']
  else if c = '\n' then ['\\', 'n']
  else if c = '\r' then ['\\', 'r']
  else if c = '\t' then ['\\', 't']
  else if c.toNat = 0x08 then ['\\', 'b']
  else if c.toNat = 0x0C then ['\\', 'f']
  else if c.toNat < 0x20 then '\\' :: 'u' :: Text.lastDigits 16 4 c.toNat
  else [c]

/-- A string in quotes. -/
def writeString (s : Text) : Text := .char '"' :: Text.replaceEach escapeChar s ++ [.char '"']

/-! ## 2. Numbers -/

/-- Numbers that are not finite have words of their own. -/
def floatStyle : Decimal.Style where
  nan := "NaN"
  infinity := "Infinity"

/-! ## 3. Layout -/

/-- The start of a line at a level of nesting. -/
def newLine (level : Nat) : Text := Text.ofChars ('\n' :: List.replicate (2 * level) ' ')

/-- Parts between two brackets, each on a line of its own. -/
def block (level : Nat) (left right : Char) : List Text → Text
  | [] => [.char left, .char right]
  | parts =>
    .char left :: newLine (level + 1) ++ Text.joinWith (.char ',' :: newLine (level + 1)) parts
      ++ newLine level ++ [.char right]

mutual

/-- A value whose first line continues a line of the given level. -/
def write (level : Nat) : Json → Text
  | .null => "null"
  | .bool true => "true"
  | .bool false => "false"
  | .int i => Text.ofChars (Text.signedDecimal i)
  | .float x => Text.ofChars (floatStyle.text x)
  | .str s => writeString s
  | .arr items => block level '[' ']' (writeItems (level + 1) items)
  | .obj members => block level '{' '}' (writeMembers (level + 1) members)
  termination_by structural v => v

/-- The items of an array. -/
def writeItems (level : Nat) : List Json → List Text
  | [] => []
  | v :: vs => write level v :: writeItems level vs
  termination_by structural vs => vs

/-- The members of an object. -/
def writeMembers (level : Nat) : List (Text × Json) → List Text
  | [] => []
  | (name, v) :: ms =>
    (writeString name ++ .char ':' :: .char ' ' :: write level v) :: writeMembers level ms
  termination_by structural ms => ms

end

/-- The value on several lines. -/
def pretty (v : Json) : Text := write 0 v

/-! ## 4. Members -/

/-- A member of an object. -/
def member (name : String) (v : Json) : Text × Json := (name, v)

/-- The value of the first of several members that has a name. -/
def lookup? (name : String) (members : List (Text × Json)) : Option Json :=
  members.lookup (Text.ofString name)

/-- The member of a name, if the value is an object that has it. -/
def member? (name : String) : Json → Option Json
  | .obj members => lookup? name members
  | _ => none

end Json

end ApiDocs
