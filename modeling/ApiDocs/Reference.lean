import ApiDocs.Json.Basic
import ApiDocs.Navigation.Basic
import ApiDocs.Value.Json

/-!
# References of a sidebar

The document ids that a sidebar refers to, read off its items, and those among them for which there
is no document.  A sidebar that comes from a file may hold anything: what cannot be read as a list
of items is a `Fault`.
-/

namespace ApiDocs.Reference

/-- The reason why the references of a sidebar cannot be read. -/
inductive Fault where
  /-- An item, or the link of a category, is neither a text nor an object. -/
  | notItem
  /-- A reference has no id. -/
  | noId
  /-- The items are no list. -/
  | notList
  /-- An id is a list or an object, and so cannot be looked up. -/
  | unhashableId
  deriving Repr, DecidableEq, Inhabited

/-! ## 1. Items of a file -/

/-- Whether a member of an object is a certain text. -/
def isText (text : Text) : Option Json → Bool
  | some (.str s) => s == text
  | _ => false

/-- Whether a value counts as false: it is null, false, zero or empty. -/
def isEmptyJson : Json → Bool
  | .null => true
  | .bool b => !b
  | .int i => i == 0
  | .float x => !x.isNonzero
  | .str s => s.isEmpty
  | .arr items => items.isEmpty
  | .obj members => members.isEmpty

/-- The reference in the link of a category. -/
def linkIds (members : List (Text × Json)) : Except Fault (List Json) :=
  match Json.lookup? "link" members with
  | none => .ok []
  | some link =>
    if isEmptyJson link then .ok []
    else match link with
      | .obj link =>
        if isText "doc" (Json.lookup? "type" link) then
          match Json.lookup? "id" link with
          | some id => .ok [id]
          | none => .error .noId
        else .ok []
      | _ => .error .notItem

/-- The references of a text used as a list of items: its characters. -/
def pointIds (s : Text) : List Json := s.map (fun p => .str [p])

/-- The references of an object used as a list of items: its names. -/
def nameIds (members : List (Text × Json)) : List Json := members.map (fun m => .str m.1)

mutual

/-- The references of an item. -/
def itemIds : Json → Except Fault (List Json)
  | .str s => .ok [.str s]
  | .obj members =>
    if isText "doc" (Json.lookup? "type" members) then
      match Json.lookup? "id" members with
      | some id => .ok [id]
      | none => .error .noId
    else if isText "category" (Json.lookup? "type" members) then do
      let link ← linkIds members
      return link ++ (← childIds members)
    else .ok []
  | _ => .error .notItem
  termination_by structural v => v

/-- The references of the items of a category, which are listed under the first member named
`items`. -/
def childIds : List (Text × Json) → Except Fault (List Json)
  | [] => .ok []
  | (name, v) :: ms => if name = "items" then listIds v else childIds ms
  termination_by structural ms => ms

/-- The references of a list of items. -/
def listIds : Json → Except Fault (List Json)
  | .arr items => itemsIds items
  | .str s => .ok (pointIds s)
  | .obj members => .ok (nameIds members)
  | _ => .error .notList
  termination_by structural v => v

/-- The references of several items. -/
def itemsIds : List Json → Except Fault (List Json)
  | [] => .ok []
  | v :: vs => do return (← itemIds v) ++ (← itemsIds vs)
  termination_by structural vs => vs

end

/-! ## 2. Broken references -/

/-- Whether an id is one of the known document ids.  A list or an object cannot be looked up. -/
def isKnown (known : List Text) : Json → Except Fault Bool
  | .str s => .ok (known.contains s)
  | .arr _ => .error .unhashableId
  | .obj _ => .error .unhashableId
  | _ => .ok false

/-- The ids without a document, in their order. -/
def unknownIds (known : List Text) : List Json → Except Fault (List Json)
  | [] => .ok []
  | id :: ids => do
    let here ← isKnown known id
    let rest ← unknownIds known ids
    return if here then rest else id :: rest

/-- The references without a document in the items of a sidebar. -/
def brokenItems (known : List Text) (items : Json) : Except Fault (List Json) := do
  unknownIds known (← listIds items)

/-- The references without a document in a tree. -/
def broken (link : LinkSource) (known : List Text) (n : Navigation) : List Text :=
  (n.docIds link).filter (fun id => !known.contains id)

/-! ## 3. Messages -/

/-- What an id reads as in a message.  It is read from a file, which holds no integers that are too
long to be written. -/
def idText (id : Json) : Text :=
  match (Value.ofJson id).text with
  | .ok t => t
  | .error _ => []

/-- The warning about a reference. -/
def warning (id : Json) : Text := "Sidebar references missing document '" ++ idText id ++ "'"

end ApiDocs.Reference
