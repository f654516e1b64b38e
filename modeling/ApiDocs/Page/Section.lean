import ApiDocs.Document.Basic
import ApiDocs.Page.Markup
import ApiDocs.Value.Json

/-!
# Sections of an operation page

The parameters and the responses of an operation as tables, and the schema of its request body as
a block of JSON.  A section is a list of lines, and empty if there is nothing to show.
-/

namespace ApiDocs.Page

/-- A table under a heading; a table without rows is left out. -/
def table (title : Text) (columns rows : List Text) : List Text :=
  if rows.isEmpty then []
  else heading 2 title ++ row columns :: row (columns.map (fun _ => "---")) :: rows ++ [[]]

/-- The row of a parameter. -/
def parameterRow (p : Parameter) : Text :=
  row [code p.name, p.location, p.typeName, if p.required then "yes" else "no",
    cell p.description]

/-- The table of the parameters. -/
def parameterSection (o : Operation) : List Text :=
  table "Parameters" ["Name", "In", "Type", "Required", "Description"]
    (o.parameters.map parameterRow)

/-- The line that opens and the line that closes a block of code. -/
def fence : Text := "```"

/-- The schema of the request body; its text spans several lines. -/
def requestBodySection (o : Operation) : Except Value.NoJson (List Text) :=
  match o.requestBody with
  | none => .ok []
  | some schema => do
    let json ← Value.toJson (.map schema)
    return heading 2 "Request Body" ++ [fence ++ "json", json.pretty, fence, []]

/-- The row of a response. -/
def responseRow (response : Text × Text) : Text := row [code response.1, cell response.2]

/-- The table of the responses. -/
def responseSection (o : Operation) : List Text :=
  table "Responses" ["Status", "Description"] (o.responses.map responseRow)

end ApiDocs.Page
