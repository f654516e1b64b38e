import ApiDocs.Document.Basic

/-!
# Navigation trees

The sidebar of a generated API reference: an overview page, then categories of operations.  Every
entry and every category has a document id, which is how the sidebar refers to its page.

`Navigation.docIds` lists the ids that the sidebar refers to, in its order.  Categories are
referred to only if their headings are links.
-/

namespace ApiDocs

/-- What the heading of a category links to. -/
inductive LinkSource where
  /-- The page of the tag. -/
  | tag
  /-- Nothing. -/
  | nothing
  deriving Repr, DecidableEq, Inhabited

namespace Navigation

/-- A leaf of the sidebar: the overview page or an operation. -/
structure Entry where
  id : Text
  slug : Text
  label : Text
  /-- The method of an operation; the overview page has none. -/
  method : Option Text := none
  operation : Option Operation := none
  deriving Repr, Inhabited

/-- The operations that share a tag. -/
structure Category where
  label : Text
  id : Text
  slug : Text
  entries : List Entry := []
  deriving Repr, Inhabited

end Navigation

/-- The sidebar. -/
structure Navigation where
  overview : Navigation.Entry
  categories : List Navigation.Category := []
  deriving Repr, Inhabited

namespace Navigation

/-- The entries of all categories. -/
def entries (n : Navigation) : List Entry := n.categories.flatMap (·.entries)

/-- The document ids that a category refers to. -/
def Category.docIds (link : LinkSource) (c : Category) : List Text :=
  (if link = .tag then [c.id] else []) ++ c.entries.map (·.id)

/-- The document ids that the sidebar refers to. -/
def docIds (link : LinkSource) (n : Navigation) : List Text :=
  n.overview.id :: n.categories.flatMap (Category.docIds link)

/-- The style class of an entry, by which themes colour the methods. -/
def Entry.className (e : Entry) : Text := "api-method " ++ e.method.getD "None"

end Navigation

end ApiDocs
