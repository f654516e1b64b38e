import ApiDocs.Navigation.Basic
import ApiDocs.Text.Case

/-!
# Document ids are unique

`Navigation.checkUnique` refuses a tree in which an entry has the id of the overview page or of an
earlier entry, and names the two holders of the id.
-/

namespace ApiDocs.Navigation

/-- The reason why a tree is refused. -/
inductive Conflict where
  /-- Two entries have the same id; `holders` describes the earlier and the later one. -/
  | sameId (id : Text) (holders : List Text)
  /-- An entry that has to be described has an operation but neither an operation id nor a
  method. -/
  | noMethod
  deriving Repr, DecidableEq, Inhabited

/-- The wording of a conflict of two ids. -/
def Conflict.message : Conflict → Text
  | .sameId id holders =>
    "Duplicate doc id '" ++ id ++ "' for operations: " ++ Text.joinWith ", " holders
  | .noMethod => "an entry has no method"

/-- How a message names an entry: by its operation id, else by method and path, else by its id. -/
def Entry.describe? (e : Entry) : Option Text :=
  match e.operation with
  | none => some e.id
  | some operation =>
    match operation.operationId with
    | some name => if name.isEmpty then byMethod operation else some name
    | none => byMethod operation
where
  byMethod (operation : Operation) : Option Text :=
    e.method.map (fun m => Text.upper m ++ " " ++ operation.path)

/-- Checks entries against those seen before. -/
def checkFrom (seen : List Entry) : List Entry → Except Conflict Unit
  | [] => .ok ()
  | e :: es =>
    match seen.find? (fun s => s.id == e.id) with
    | none => checkFrom (e :: seen) es
    | some holder =>
      match holder.describe?, e.describe? with
      | some a, some b => .error (.sameId e.id [a, b])
      | _, _ => .error .noMethod

/-- Checks that the overview page and all entries have different ids. -/
def checkUnique (n : Navigation) : Except Conflict Unit := checkFrom [n.overview] n.entries

end ApiDocs.Navigation
