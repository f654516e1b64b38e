import ApiDocs.Text.Blank

/-!
# Free text in MDX

Texts of an API description stand in pages that are read as Markdown with embedded JSX.
`escapeMdx` keeps braces from opening an expression and angle brackets from opening a tag;
`cell` also makes the text fit into a table, on one line and with its pipes escaped.
-/

namespace ApiDocs.Page

/-- One character of free text. -/
def escapeChar (c : Char) : List Char :=
  if c = '{' then ['\\', '{']
  else if c = '}' then ['\\', '}']
  else if c = '<' then ['&', 'l', 't', ';']
  else if c = '>' then ['&', 'g', 't', ';']
  else [c]

/-- A text as part of a page. -/
def escapeMdx (t : Text) : Text := Text.replaceEach escapeChar t

/-- A text with its pipes escaped. -/
def escapePipes (t : Text) : Text :=
  Text.replaceEach (fun c => if c = '|' then ['\\', '|'] else [c]) t

/-- A text as a cell of a table. -/
def cell (t : Text) : Text := escapePipes (escapeMdx (Text.squeeze t))

/-- A heading of a level, with the empty line after it. -/
def heading (level : Nat) (t : Text) : List Text :=
  [Text.ofChars (List.replicate level '#') ++ " " ++ t, []]

/-- A text in a code span. -/
def code (t : Text) : Text := "`" ++ t ++ "`"

/-- A row of a table. -/
def row (cells : List Text) : Text := "| " ++ Text.joinWith " | " cells ++ " |"

/-- A link. -/
def linkTo (label target : Text) : Text := "[" ++ escapeMdx label ++ "](" ++ target ++ ")"

end ApiDocs.Page
