import ApiDocs.Keyed
import ApiDocs.Navigation.Uniqueness
import ApiDocs.Slug.Registry
import ApiDocs.Slug.Words
import ApiDocs.Text.Blank

/-!
# Compiling a navigation tree

`Navigation.compile` gives every operation of a document its place in the sidebar, in one pass over
the operations (`Progress.place`).  Operations are grouped by their first tag, groups in the order in
which their tags first appear.

**Slugs are handed out in the order of the document,** not of the sidebar: first to the overview
page, then to the operations, last to the categories.  So operations that are added at the end
change no slug of an earlier one, and a category never takes a slug away from an operation.
-/

namespace ApiDocs.Navigation

/-! ## 1. Slugs and labels -/

/-- The first of several texts that is not empty. -/
def firstNonEmpty (texts : List Text) (default : Text) : Text :=
  (texts.find? (fun t => !t.isEmpty)).getD default

/-- The slug of the summary, else of the operation id, else of method and path. -/
def operationSlug (o : Operation) : Text :=
  firstNonEmpty
    [Slug.slugify o.summary, Slug.slugify (o.operationId.getD []),
      Slug.slugify (o.method ++ " " ++ o.path)]
    o.method

/-- The summary, else the words of the operation id, else method and path. -/
def operationLabel (o : Operation) : Text :=
  if !o.summary.isEmpty then o.summary
  else
    let words := Slug.humanize (o.operationId.getD [])
    if words = "" then Text.upper o.method ++ " " ++ o.path else words

/-- The label of the category of operations without a tag. -/
def untagged : Text := "UNTAGGED"

/-- The tag under which an operation is listed. -/
def firstTag (o : Operation) : Text := o.tags.headD untagged

/-- The slug that a category asks for. -/
def categorySlug (label : Text) : Text := firstNonEmpty [Slug.slugify label] "tag"

/-- The slug that the overview page asks for: that of the chosen id, else of the title. -/
def overviewSlug (overviewId : Option Text) (title : Text) : Text :=
  firstNonEmpty [Slug.slugify (overviewId.getD []), Slug.slugify title] "overview"

/-! ## 2. Ids -/

/-- The document id of a slug: a prefix without slashes at its ends, if any is left, then the slug.
-/
def docId (idPrefix slug : Text) : Text :=
  let front := Text.stripSlashes idPrefix
  if front.isEmpty then slug else front ++ "/" ++ slug

/-- What the ids of a tree depend on besides the document. -/
structure Options where
  idPrefix : Text := []
  overviewId : Option Text := none
  deriving Repr, Inhabited

/-! ## 3. The tree -/

/-- The entry of an operation with its slug. -/
def operationEntry (idPrefix : Text) (o : Operation) (slug : Text) : Entry where
  id := docId idPrefix slug
  slug := slug
  label := operationLabel o
  method := some o.method
  operation := some o

/-- How far the pass over the operations has come. -/
structure Progress where
  registry : Slug.Registry
  /-- The operations so far with their entries. -/
  placed : List (Operation × Entry) := []
  /-- The entries so far under their tags, the tags in the order in which they first appeared. -/
  groups : List (Text × List Entry) := []
  deriving Inhabited

/-- The next operation: it claims its slug, and its entry comes last in the group of its tag, which
is a new group at the end if there was none. -/
def Progress.place (idPrefix : Text) (p : Progress) (o : Operation) : Progress :=
  let (slug, registry) := p.registry.claim (operationSlug o)
  let entry := operationEntry idPrefix o slug
  { registry
    placed := p.placed ++ [(o, entry)]
    groups := Keyed.alter (· == ·) (firstTag o) (fun es => es.getD [] ++ [entry]) p.groups }

/-- The categories of groups; each claims its slug in turn. -/
def categoriesOf (idPrefix : Text) (r : Slug.Registry) : List (Text × List Entry) → List Category
  | [] => []
  | (tag, entries) :: groups =>
    let (slug, r) := r.claim (categorySlug tag)
    ⟨tag, docId idPrefix slug, slug, entries⟩ :: categoriesOf idPrefix r groups

/-- The overview entry, the operations with their entries in the order of the document, and the
tree.  The tree is not checked. -/
def arrange (options : Options) (d : Document) : List (Operation × Entry) × Navigation :=
  let (slug, registry) := ({} : Slug.Registry).claim (overviewSlug options.overviewId d.info.title)
  let overview : Entry := {
    id := docId options.idPrefix slug
    slug := slug
    label := if d.info.title.isEmpty then "Overview" else d.info.title }
  let reached := d.operations.foldl (Progress.place options.idPrefix) { registry }
  (reached.placed, ⟨overview, categoriesOf options.idPrefix reached.registry reached.groups⟩)

/-- The navigation tree of a document. -/
def compile (options : Options) (d : Document) : Except Conflict Navigation := do
  let tree := (arrange options d).2
  checkUnique tree
  return tree

/-! ## 4. Remarks -/

/-- How often each of several ids occurs, in the order of their first occurrences. -/
def countIds (ids : List Text) : List (Text × Nat) :=
  ids.foldl (fun counts id => Keyed.alter (· == ·) id (fun n => n.getD 0 + 1) counts) []

/-- The operation ids that several operations declare, with their number. -/
def repeatedOperationIds (d : Document) : List (Text × Nat) :=
  let ids := (d.operations.filterMap (·.operationId)).filter (fun id => !id.isEmpty)
  (countIds ids).filter (fun e => 1 < e.2)

end ApiDocs.Navigation
