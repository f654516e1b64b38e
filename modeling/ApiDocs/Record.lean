import ApiDocs.Value.Basic

/-!
# Checked records

The fields of a record that is filled from loaded values.  Nothing is converted: a text field
takes a text, or bytes that spell one in UTF-8.  A `Complaint` names the field and what is wrong
with it; a record that is refused lists the complaints about all its fields.
-/

namespace ApiDocs.Record

/-- What can be wrong with a field. -/
inductive Problem where
  /-- The value is no text. -/
  | notText
  /-- The bytes are no text, or the text has no form in UTF-8. -/
  | notUtf8
  /-- The value is none of those that are allowed. -/
  | notChoice
  /-- The value is no path. -/
  | notPath
  /-- The record has no such field. -/
  | unknown
  deriving Repr, DecidableEq, Inhabited

/-- A field and what is wrong with it. -/
structure Complaint where
  field : Text
  problem : Problem
  deriving Repr, DecidableEq, Inhabited

/-- The text that bytes spell in UTF-8. -/
def decodeUtf8? (bs : List UInt8) : Option String := String.fromUTF8? ⟨bs.toArray⟩

/-- The value of a text field. -/
def text : Value → Except Problem Text
  | .str s => .ok s
  | .bytes bs => match decodeUtf8? bs with
    | some s => .ok (Text.ofString s)
    | none => .error .notUtf8
  | _ => .error .notText

/-- The complaint of a field that was refused. -/
def complaints {α : Type} (field : Text) : Except Problem α → List Complaint
  | .ok _ => []
  | .error problem => [⟨field, problem⟩]

end ApiDocs.Record
