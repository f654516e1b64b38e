import ApiDocs.Json.Basic
import ApiDocs.Navigation.Basic
import ApiDocs.Text.Blank

/-!
# Sidebar files

The sidebar as the site generator reads it: a JSON array with an item for the overview page and one
for each category, and a TypeScript module that exports the same array.
-/

namespace ApiDocs.Navigation

/-! ## 1. Items -/

/-- A reference to a document. -/
def docItem (id : Text) : List (Text × Json) :=
  [Json.member "type" (.str "doc"), Json.member "id" (.str id)]

/-- The item of an entry; label and style class are given for operations. -/
def Entry.item (e : Entry) : Json :=
  match e.method with
  | none => .obj (docItem e.id)
  | some _ =>
    .obj (docItem e.id
      ++ [Json.member "label" (.str e.label), Json.member "className" (.str e.className)])

/-- The item of a category. -/
def Category.item (link : LinkSource) (c : Category) : Json :=
  .obj ([Json.member "type" (.str "category"), Json.member "label" (.str c.label)]
    ++ (if link = .tag then [Json.member "link" (.obj (docItem c.id))] else [])
    ++ [Json.member "items" (.arr (c.entries.map Entry.item))])

/-- The items of the sidebar. -/
def items (link : LinkSource) (n : Navigation) : Json :=
  .arr (n.overview.item :: n.categories.map (Category.item link))

/-! ## 2. Files -/

/-- The text of the JSON file. -/
def toJson (link : LinkSource) (n : Navigation) : Text := (n.items link).pretty ++ "\n"

/-- The name of the sidebar in the TypeScript file. -/
def sidebarName : Text := "apisidebar"

/-- A text whose further lines are moved two columns to the right. -/
def indentRest (t : Text) : Text :=
  Text.replaceEach (fun c => if c = '\n' then ['\n', ' ', ' '] else [c]) t

/-- The text of the TypeScript file. -/
def toTypeScript (link : LinkSource) (n : Navigation) : Text :=
  "import type \x7b SidebarsConfig \x7d from \"@docusaurus/plugin-content-docs\";\n"
    ++ "\n"
    ++ "const sidebar: SidebarsConfig = \x7b\n"
    ++ "  " ++ sidebarName ++ ": " ++ indentRest (n.items link).pretty ++ ",\n"
    ++ "\x7d;\n"
    ++ "\n"
    ++ "export default sidebar." ++ sidebarName ++ ";\n"

end ApiDocs.Navigation
