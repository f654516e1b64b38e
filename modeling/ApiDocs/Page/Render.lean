import ApiDocs.Keyed
import ApiDocs.Navigation.Basic
import ApiDocs.Page.Link
import ApiDocs.Page.Section
import ApiDocs.Text.Case
import ApiDocs.Yaml.Block

/-!
# Rendering pages

Every document that the sidebar refers to gets a page: the overview, one page for each category
and one for each operation.  A page starts with its front matter in YAML and goes on in MDX.

`Page.renderAll` returns the pages in the order of the sidebar.  Of several pages with one document
id the last is kept, in the place of the first.
-/

namespace ApiDocs

/-- A page of the documentation. -/
structure Page where
  id : Text
  fileName : Text
  content : Text
  deriving Repr, DecidableEq, Inhabited

namespace Page

/-- The reason why a page cannot be rendered. -/
inductive Fault where
  /-- An entry of a category has no method or no operation. -/
  | incompleteEntry (id : Text)
  /-- The schema of a request body has no JSON form. -/
  | schema (cause : Value.NoJson)
  deriving Repr, Inhabited

/-! ## 1. Front matter -/

/-- A text between two lines of hyphens. -/
def enclosed (t : Text) : Text := "---\n" ++ t ++ "---\n"

/-- The front matter with any fields, unless their collections are nested too deeply. -/
def frontMatter? (fields : Value.Entries) : Option Text :=
  (Yaml.writeMapping? fields).map enclosed

/-- The front matter with the fields of a page. -/
def frontMatter (fields : Value.Entries) : Text := enclosed (Yaml.writeMapping fields)

/-- The entries of a mapping with some fields. -/
def entriesOf (fields : List (String × Value)) : Value.Entries :=
  fields.map (fun f => (.str f.1, f.2))

/-- The fields of the overview page. -/
def overviewFields (d : Document) (e : Navigation.Entry) : List (String × Value) :=
  [("id", .str e.slug), ("title", .str e.label), ("sidebar_label", .str "Introduction"),
    ("description", .str (Text.firstLine d.info.description)), ("custom_edit_url", .null)]

/-- The fields of the page of a category. -/
def categoryFields (d : Document) (c : Navigation.Category) : List (String × Value) :=
  [("id", .str c.slug), ("title", .str c.label),
    ("description", .str (Text.firstLine (d.tagDescription c.label))), ("custom_edit_url", .null)]

/-- The fields of the page of an operation. -/
def operationFields (e : Navigation.Entry) (o : Operation) : List (String × Value) :=
  [("id", .str e.slug), ("title", .str e.label), ("sidebar_label", .str e.label),
    ("description", .str (Text.firstLine o.description)),
    ("sidebar_class_name", .str (o.method ++ " api-method")),
    ("api", .map [(.str "method", .str o.method), (.str "path", .str o.path)]),
    ("custom_edit_url", .null)]

/-- A page from its fields and lines. -/
def assemble (id fileName : Text) (fields : List (String × Value)) (lines : List Text) :
    Page where
  id := id
  fileName := fileName
  content := frontMatter (entriesOf fields) ++ "\n" ++ Text.joinWith "\n" lines

/-- A paragraph, unless the text is empty. -/
def paragraph (text : Text) : List Text := if text.isEmpty then [] else [escapeMdx text, ""]

/-! ## 2. The three kinds of pages -/

/-- The line of a category on the overview page. -/
def categoryItem (site : Site) (c : Navigation.Category) : Text :=
  "- " ++ linkTo c.label (site.link c.id) ++ " (" ++ Text.ofNat c.entries.length ++ ")"

/-- The overview page. -/
def overview (site : Site) (d : Document) (n : Navigation) : Page :=
  let e := n.overview
  let version : List Text :=
    if d.info.version.isEmpty then [] else ["Version: " ++ code d.info.version, ""]
  let sections : List Text :=
    if n.categories.isEmpty then []
    else heading 2 "Sections" ++ n.categories.map (categoryItem site) ++ [[]]
  assemble e.id (e.slug ++ ".info.mdx") (overviewFields d e)
    (heading 1 (escapeMdx e.label) ++ version ++ paragraph d.info.description ++ sections)

/-- The line of an entry on the page of its category. -/
def entryItem (site : Site) (e : Navigation.Entry) : Except Fault Text :=
  match e.method with
  | none => .error (.incompleteEntry e.id)
  | some method =>
    .ok ("- **" ++ Text.upper method ++ "** " ++ linkTo e.label (site.link e.id))

/-- The page of a category. -/
def category (site : Site) (d : Document) (c : Navigation.Category) : Except Fault Page := do
  let description := d.tagDescription c.label
  let items ← c.entries.mapM (entryItem site)
  return assemble c.id (c.slug ++ ".tag.mdx") (categoryFields d c)
    (heading 1 (escapeMdx c.label) ++ paragraph description ++ items ++ [[]])

/-- The note on pages of deprecated operations. -/
def deprecation : List Text :=
  [":::caution deprecated", "", "This endpoint has been deprecated.", "", ":::", ""]

/-- The page of an operation. -/
def operation (e : Navigation.Entry) : Except Fault Page :=
  match e.operation with
  | none => .error (.incompleteEntry e.id)
  | some o => do
    let body ← (requestBodySection o).mapError .schema
    return assemble e.id (e.slug ++ ".api.mdx") (operationFields e o)
      (heading 1 (escapeMdx e.label) ++ ["**" ++ Text.upper o.method ++ "** " ++ code o.path, []]
        ++ (if o.deprecated then deprecation else []) ++ paragraph o.description
        ++ parameterSection o ++ body ++ responseSection o)

/-! ## 3. All pages -/

/-- The page of a category and those of its entries. -/
def categoryAndEntries (site : Site) (d : Document) (c : Navigation.Category) :
    Except Fault (List Page) := do
  return (← category site d c) :: (← c.entries.mapM operation)

/-- Every page of a tree, by document id, in the order of the sidebar. -/
def renderAll (site : Site) (d : Document) (n : Navigation) :
    Except Fault (List (Text × Page)) := do
  let pages ← n.categories.mapM (categoryAndEntries site d)
  return Keyed.ofList (· == ·) ((overview site d n :: pages.flatten).map (fun p => (p.id, p)))

end Page

end ApiDocs
