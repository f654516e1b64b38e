import ApiDocs.Document.Defect
import ApiDocs.Text.Blank
import ApiDocs.Text.Case
import ApiDocs.Value.Text

/-!
# Reading an API description

`Document.ofValue` takes a loaded value apart.  Operations come in the order of the paths and, in
each path item, of its keys; `Document.ignored` lists the other keys of the path items that are no
part of the standard.

A path item may declare parameters for all its operations.  `mergeParameters` lets an operation
declare one of them anew: parameters are the same when name and location are, the place is that of
the first declaration and the content that of the last.

**The checks come in a fixed order,** and the first that fails is the defect that is reported.  What
is wanted as a text has to have one (`written`), so the order in which texts are formed counts, too.
-/

namespace ApiDocs

open Value (Entries lookup lookup? hasKey)

/-! ## 1. The dialect -/

/-- Whether the value is a version number that starts with the digit. -/
def versionStartsWith (digit : Char) (version : Value) : Except Value.NoText Bool :=
  if version.isNull then .ok false
  else version.text.map (fun t => t.head? == some (.char digit))

/-- The dialect that the mapping declares, if its versions have texts. -/
def Dialect.ofEntries? (entries : Entries) : Except Value.NoText (Option Dialect) := do
  if ← versionStartsWith '3' (lookup "openapi" entries) then return some .openapi3
  else if ← versionStartsWith '2' (lookup "swagger" entries) then return some .swagger2
  else return none

/-- The dialect that a loaded value declares, if its versions have texts. -/
def Dialect.detect? (v : Value) : Except Value.NoText (Option Dialect) :=
  match v.entries? with
  | some entries => Dialect.ofEntries? entries
  | none => .ok none

/-! ## 2. Shapes and texts -/

/-- The items of a list; a value that counts as false is an empty list. -/
def listOrEmpty? (v : Value) : Option (List Value) := if v.isTruthy then v.items? else some []

/-- The entries of a mapping; a value that counts as false is an empty mapping. -/
def entriesOrEmpty? (v : Value) : Option Entries := if v.isTruthy then v.entries? else some []

/-- The value of a shape, or the malformation if it has none. -/
def orMalformed {α : Type} (cause : Malformation) : Option α → Except Defect α
  | some a => .ok a
  | none => .error (.malformed cause)

/-- The text of a value. -/
def written (v : Value) : Except Defect Text := v.text.mapError .noText

/-- A text field: the text of the value without white space at its ends, empty if the value counts
as false. -/
def trimmed (v : Value) : Except Defect Text :=
  (v.textOrEmpty.mapError .noText).map Text.strip

@[simp] theorem written_str (s : Text) : written (.str s) = .ok s := rfl

/-! ## 3. Parameters -/

/-- The location that a parameter declares; in the query, if it declares none. -/
def declaredLocation (p : Entries) : Value := (lookup? "in" p).getD (.str "query")

/-- What tells parameters apart: name and location. -/
abbrev ParameterKey := Value × Value

/-- Whether two keys belong to one parameter. -/
def sameParameter (a b : ParameterKey) : Bool := a.1.sameKey b.1 && a.2.sameKey b.2

/-- The parameters in a list of declarations: the mappings that have a name. -/
def declaredParameters (declarations : List Value) : List Entries :=
  (declarations.filterMap Value.entries?).filter (hasKey "name")

/-- The key of a declared parameter. -/
def parameterKey (p : Entries) : ParameterKey := (lookup "name" p, declaredLocation p)

/-- Whether name and location of the parameter can be keys. -/
def hasHashableKey (p : Entries) : Bool :=
  (parameterKey p).1.isHashable && (parameterKey p).2.isHashable

/-- The declarations of a path item followed by those of an operation, each parameter once. -/
def mergeParameters (shared own : List Value) : Except Defect (List Entries) :=
  let declared := declaredParameters (shared ++ own)
  if declared.all hasHashableKey then
    .ok ((Keyed.ofList sameParameter (declared.map (fun p => (parameterKey p, p)))).map Prod.snd)
  else .error .unhashableParameter

/-- Whether a parameter is part of the request body and not one of the operation. -/
def isBodyPart (p : Entries) : Bool :=
  (declaredLocation p).sameKey (.str "body") || (declaredLocation p).sameKey (.str "formData")

/-- The declared type: that of the schema, else that of the parameter, else text. -/
def declaredType (schema p : Entries) : Value :=
  if (lookup "type" schema).isTruthy then lookup "type" schema
  else if (lookup "type" p).isTruthy then lookup "type" p
  else .str "string"

/-- Whether the parameter has to be sent: as declared, and otherwise if it is part of the path. -/
def declaredRequired (p : Entries) : Bool :=
  match lookup? "required" p with
  | some v => v.isTruthy
  | none => (declaredLocation p).sameKey (.str "path")

/-- One parameter of an operation. -/
def readParameter (o : OperationName) (p : Entries) : Except Defect Parameter := do
  let name ← written (lookup "name" p)
  let schema ← orMalformed (.parameterSchemaNotMapping name o) (entriesOrEmpty? (lookup "schema" p))
  let description ← trimmed (lookup "description" p)
  match Record.text (declaredLocation p), Record.text (declaredType schema p) with
  | .ok location, .ok typeName =>
    return { name, location, typeName, description, required := declaredRequired p }
  | location, typeName =>
    throw (.parameterFields
      (Record.complaints "location" location ++ Record.complaints "param_type" typeName))

/-- The parameters of an operation. -/
def readParameters (o : OperationName) (merged : List Entries) : Except Defect (List Parameter) :=
  (merged.filter (fun p => !isBodyPart p)).mapM (readParameter o)

/-! ## 4. Request bodies -/

/-- The schema of a request body, if there is one. -/
def readSchema (o : OperationName) (v : Value) : Except Defect (Option Entries) :=
  if v.isNull then .ok none else (orMalformed (.bodySchemaNotMapping o) v.entries?).map some

/-- The media types whose schema is preferred to that of the first one listed. -/
def preferredMedia : List Text := ["application/json", "multipart/form-data"]

/-- The media type whose schema is shown. -/
def chosenMedia? (content : List (Value × Entries)) : Option Entries :=
  match preferredMedia.findSome? (fun name => Keyed.find? Value.sameKey (.str name) content) with
  | some media => some media
  | none => content.head?.map Prod.snd

/-- The media types of a request body. -/
def readContent (o : OperationName) (content : Entries) : Except Defect (List (Value × Entries)) :=
  content.mapM fun (name, media) =>
    (orMalformed (.mediaNotMapping o) media.entries?).map (fun entries => (name, entries))

/-- The request body of an operation in the newer dialect. -/
def readRequestBody (o : OperationName) (v : Value) : Except Defect (Option Entries) := do
  if v.isNull then return none
  let body ← orMalformed (.bodyNotMapping o) v.entries?
  let content ← orMalformed (.contentNotMapping o) (entriesOrEmpty? (lookup "content" body))
  match chosenMedia? (← readContent o content) with
  | some media => readSchema o (lookup "schema" media)
  | none => return none

/-- The request body of an operation in the older dialect: the first parameter that is located in
the body. -/
def readBodyParameter (o : OperationName) (merged : List Entries) :
    Except Defect (Option Entries) :=
  match merged.find? (fun p => (lookup "in" p).sameKey (.str "body")) with
  | some p => readSchema o (lookup "schema" p)
  | none => .ok none

/-! ## 5. Operations -/

/-- The description of a response; a response that is no mapping has none. -/
def readResponse (response : Value) : Except Defect Text :=
  match response.entries? with
  | some r => trimmed (lookup "description" r)
  | none => .ok []

/-- The descriptions of the responses, by status. -/
def readResponses (o : OperationName) (v : Value) : Except Defect (List (Text × Text)) := do
  let entries ← orMalformed (.responsesNotMapping o) (entriesOrEmpty? v)
  let described ← entries.mapM fun (status, response) => do
    let description ← readResponse response
    return (← written status, description)
  return Keyed.ofList (· == ·) described

/-- The operation id that is declared. -/
def readOperationId (v : Value) : Except Defect (Option Text) :=
  if v.isNull then .ok none else (written v).map some

/-- One operation with a method on a path; `shared` are the parameters of its path item. -/
def readOperation (dialect : Dialect) (shared : Value) (method path : Text) (operation : Entries) :
    Except Defect Operation := do
  let o : OperationName := ⟨method, path⟩
  let tags ← orMalformed (.tagsNotList o) (listOrEmpty? (lookup "tags" operation))
  let shared ← orMalformed (.parametersNotList o) (listOrEmpty? shared)
  let own ← orMalformed (.parametersNotList o) (listOrEmpty? (lookup "parameters" operation))
  let merged ← mergeParameters shared own
  let requestBody ← match dialect with
    | .openapi3 => readRequestBody o (lookup "requestBody" operation)
    | .swagger2 => readBodyParameter o merged
  let operationId ← readOperationId (lookup "operationId" operation)
  let summary ← trimmed (lookup "summary" operation)
  let description ← trimmed (lookup "description" operation)
  let tags ← tags.mapM written
  let parameters ← readParameters o merged
  let responses ← readResponses o (lookup "responses" operation)
  return {
    method, path, operationId, summary, description, tags, parameters, requestBody, responses
    deprecated := (lookup "deprecated" operation).isTruthy }

/-- A key of a path item in small letters, as methods are written. -/
def readKey (key : Value) : Except Defect Text := (written key).map Text.lower

/-- The method that a key in small letters names. -/
def methodOf? (key : Text) : Option Text := methods.find? (· == key)

theorem methodOf?_eq_some {key method : Text} :
    methodOf? key = some method ↔ method ∈ methods ∧ key = method := by
  unfold methodOf?
  constructor
  · intro h
    have hname : (method == key) = true := @List.find?_some _ (· == key) method methods h
    exact ⟨List.mem_of_find?_eq_some h, (beq_iff_eq.mp hname).symm⟩
  · rintro ⟨h, rfl⟩
    have hsome : (methods.find? (· == key)).isSome = true :=
      List.find?_isSome.mpr ⟨key, h, beq_self_eq_true key⟩
    obtain ⟨found, hfound⟩ := Option.isSome_iff_exists.mp hsome
    have hname : (found == key) = true := @List.find?_some _ (· == key) found methods hfound
    rwa [beq_iff_eq.mp hname] at hfound

/-- Keys of a path item that are neither methods nor worth a remark. -/
def standardKeys : List Text := ["parameters", "summary", "description", "servers", "$ref"]

/-- The operation under a key of a path item, if the key is a method. -/
def readMember (dialect : Dialect) (path shared : Value) (key v : Value) :
    Except Defect (Option Operation) := do
  let key ← readKey key
  match methodOf? key with
  | some method =>
    let path ← written path
    let operation ← orMalformed (.operationNotMapping ⟨method, path⟩) v.entries?
    return some (← readOperation dialect shared method path operation)
  | none => return none

/-- The operations of a path item. -/
def readPathItem (dialect : Dialect) (path : Value) (item : Entries) :
    Except Defect (List Operation) := do
  let shared := lookup "parameters" item
  let members ← item.mapM (fun (key, v) => readMember dialect path shared key v)
  return members.filterMap id

/-- The operations of all paths. -/
def readPaths (dialect : Dialect) (paths : Entries) : Except Defect (List Operation) := do
  let items ← paths.mapM fun (path, item) => match item.entries? with
    | some members => readPathItem dialect path members
    | none => do throw (.malformed (.pathItemNotMapping (← written path)))
  return items.flatten

/-! ## 6. The whole description -/

/-- The title page; a value that is no mapping leaves it empty. -/
def readInfo (v : Value) : Except Defect Info :=
  match v.entries? with
  | some info => do
    return ⟨← trimmed (lookup "title" info), ← trimmed (lookup "version" info),
      ← trimmed (lookup "description" info)⟩
  | none => .ok {}

/-- A declared tag. -/
def readTag (t : Entries) : Except Defect Tag := do
  return ⟨← written (lookup "name" t), ← trimmed (lookup "description" t)⟩

/-- The declared tags: the mappings in the list that have a name. -/
def readTags (v : Value) : Except Defect (List Tag) := do
  if v.isNull then return []
  let items ← orMalformed .declaredTagsNotList v.items?
  ((items.filterMap Value.entries?).filter (hasKey "name")).mapM readTag

/-- The API description in a mapping of a known dialect. -/
def Document.ofEntries (dialect : Dialect) (entries : Entries) : Except Defect Document := do
  let paths ← orMalformed .pathsNotMapping (entriesOrEmpty? (lookup "paths" entries))
  let operations ← readPaths dialect paths
  let info ← readInfo (lookup "info" entries)
  let tags ← readTags (lookup "tags" entries)
  return ⟨dialect, info, tags, operations⟩

/-- The API description that a loaded value holds. -/
def Document.ofValue (v : Value) : Except Defect Document := do
  let entries ← orMalformed .unknownDialect v.entries?
  let dialect ← orMalformed .unknownDialect (← (Dialect.ofEntries? entries).mapError .noText)
  Document.ofEntries dialect entries

/-! ## 7. What is passed over -/

/-- The keys that are passed over in a path item, with the path, in small letters. -/
def ignoredIn (path : Value) (item : Entries) : List OperationName :=
  item.filterMap fun (key, _) => do
    let key := Text.lower (← key.text.toOption)
    if (methodOf? key).isSome || standardKeys.contains key then none
    else return ⟨key, ← path.text.toOption⟩

/-- The keys that are passed over in the path items of a description, with the paths. -/
def Document.ignored (data : Value) : List OperationName :=
  let entries := data.entries?.getD []
  let paths := (lookup "paths" entries).entries?.getD []
  paths.flatMap (fun (path, item) => ignoredIn path (item.entries?.getD []))

end ApiDocs
