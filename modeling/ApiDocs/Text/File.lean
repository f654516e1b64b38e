import ApiDocs.Text.Basic

/-!
# Text files

Texts are stored in UTF-8, which has no form for a half of a surrogate pair (`encode?`).  Reading a
file as a text turns the line ends of all systems into line feeds; writing changes nothing.
-/

namespace ApiDocs.Text

/-- The text with a line feed for every carriage return and for every pair of both. -/
def unifyNewlines : List Char → List Char
  | [] => []
  | '\r' :: '\n' :: cs => '\n' :: unifyNewlines cs
  | c :: cs => (if c = '\r' then '\n' else c) :: unifyNewlines cs

/-- The text that bytes spell in UTF-8, if they do, with its line ends as they are. -/
def decode? (bytes : ByteArray) : Option String := String.fromUTF8? bytes

/-- The bytes of a text, if it has no halves. -/
def encode? (t : Text) : Option ByteArray := (toString? t).map String.toUTF8

/-- The text of a file, with its line ends unified. -/
def ofFile? (bytes : ByteArray) : Option String :=
  (decode? bytes).map (fun s => String.ofList (unifyNewlines s.toList))

end ApiDocs.Text
