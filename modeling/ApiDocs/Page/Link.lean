import ApiDocs.Text.Blank

/-!
# Links to pages

A page is served below the base path of the site and the path of its documentation.  Slashes at
the ends of the two do not matter, and a path that is empty without them is left out.
-/

namespace ApiDocs.Page

/-- Where the documentation is served. -/
structure Site where
  baseUrl : Text := "/"
  routeBasePath : Text := "docs"
  deriving Repr, DecidableEq, Inhabited

/-- The parts of the path below which documents are served. -/
def Site.parts (site : Site) : List Text :=
  let paths := [site.baseUrl, site.routeBasePath].map Text.stripSlashes
  paths.filter (fun t => !t.isEmpty)

/-- The address of a document. -/
def Site.link (site : Site) (docId : Text) : Text :=
  "/" ++ Text.joinWith "/" (site.parts ++ [docId])

end ApiDocs.Page
