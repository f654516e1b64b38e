import ApiDocs.Document.Reading

/-!
# The shape of an API description

What it takes for a loaded value to be an API description, said of its shape alone
(`IsDescription`): where mappings and lists have to stand, and where something may be missing.  What
counts as missing differs from place to place.  Most fields may hold anything that counts as false,
but a request body, a schema in it and the declared tags have to be null.

An operation is judged by its parameters as they are merged (`mergedParameters`), so a parameter
that is replaced may have any shape.
-/

namespace ApiDocs

open Value (Entries lookup lookup?)

/-! ## 1. Shapes -/

def IsMapping (v : Value) : Prop := ∃ es, v.entries? = some es

/-- The value is a mapping or counts as false. -/
def IsMappingOrFalse (v : Value) : Prop := v.isTruthy = false ∨ IsMapping v

/-- The value is a list or counts as false. -/
def IsListOrFalse (v : Value) : Prop := v.isTruthy = false ∨ ∃ items, v.items? = some items

/-- The value is a text or counts as false. -/
def IsTextOrFalse (v : Value) : Prop := v.isTruthy = false ∨ ∃ s, v = .str s

def IsMappingOrNull (v : Value) : Prop := v.isNull = true ∨ IsMapping v

def IsListOrNull (v : Value) : Prop := v.isNull = true ∨ ∃ items, v.items? = some items

/-- The entries of a mapping, and none of a value that counts as false. -/
def mapped (v : Value) : Entries := (entriesOrEmpty? v).getD []

/-- The items of a list, and none of a value that counts as false. -/
def listed (v : Value) : List Value := (listOrEmpty? v).getD []

variable {v : Value}

theorem isMappingOrFalse_iff : (∃ es, entriesOrEmpty? v = some es) ↔ IsMappingOrFalse v := by
  unfold entriesOrEmpty? IsMappingOrFalse IsMapping
  cases v.isTruthy with
  | true => simp
  | false => simp

theorem isListOrFalse_iff : (∃ items, listOrEmpty? v = some items) ↔ IsListOrFalse v := by
  unfold listOrEmpty? IsListOrFalse
  cases v.isTruthy with
  | true => simp
  | false => simp

theorem mapped_of_eq_some {es : Entries} (h : entriesOrEmpty? v = some es) : mapped v = es := by
  unfold mapped
  rw [h]
  rfl

theorem listed_of_eq_some {items : List Value} (h : listOrEmpty? v = some items) :
    listed v = items := by
  unfold listed
  rw [h]
  rfl

/-! ## 2. Accepted descriptions -/

/-- The key names a method, in whatever case. -/
def IsMethodKey (key : Value) : Prop :=
  ∃ t, key.text = .ok t ∧ Text.lower t ∈ methods

/-- A declared parameter with a name that can be a key and with texts for its other fields. -/
structure IsProper (p : Entries) : Prop where
  name : (lookup "name" p).isHashable = true
  location : lookup? "in" p = none ∨ ∃ s, lookup? "in" p = some (.str s)
  type : IsTextOrFalse (lookup "type" p)
  schemaType : ∀ schema, (lookup "schema" p).entries? = some schema →
    IsTextOrFalse (lookup "type" schema)

/-- The parameters of an operation: those of its path item and its own, of which each replaces an
earlier one with the same name and location. -/
def mergedParameters (shared own : Value) : List Entries :=
  (Keyed.ofList sameParameter ((declaredParameters (listed shared ++ listed own)).map
    (fun p => (parameterKey p, p)))).map Prod.snd

/-- The media type whose schema is shown: JSON, else form data, else the first. -/
def shownMedia? (content : Entries) : Option Value :=
  (lookup? "application/json" content).or
    ((lookup? "multipart/form-data" content).or (content.head?.map Prod.snd))

/-- The request body of an operation in the newer dialect. -/
def IsRequestBody (v : Value) : Prop :=
  v.isNull = true ∨ ∃ body, v.entries? = some body ∧
    IsMappingOrFalse (lookup "content" body) ∧
    (∀ e ∈ mapped (lookup "content" body), IsMapping e.2) ∧
    ∀ media es, shownMedia? (mapped (lookup "content" body)) = some media →
      media.entries? = some es → IsMappingOrNull (lookup "schema" es)

/-- The request body of an operation in the older dialect is one of its parameters. -/
def IsBodyParameter (merged : List Entries) : Prop :=
  ∀ p, merged.find? (fun p => (lookup "in" p).sameKey (.str "body")) = some p →
    IsMappingOrNull (lookup "schema" p)

/-- The request body, where the dialect has it. -/
def HasRequestBody (dialect : Dialect) (shared : Value) (operation : Entries) : Prop :=
  match dialect with
  | .openapi3 => IsRequestBody (lookup "requestBody" operation)
  | .swagger2 => IsBodyParameter (mergedParameters shared (lookup "parameters" operation))

/-- An operation of a path item with the parameters `shared`. -/
structure IsOperation (dialect : Dialect) (shared : Value) (operation : Entries) : Prop where
  tags : IsListOrFalse (lookup "tags" operation)
  sharedParameters : IsListOrFalse shared
  ownParameters : IsListOrFalse (lookup "parameters" operation)
  body : HasRequestBody dialect shared operation
  schemas : ∀ p ∈ mergedParameters shared (lookup "parameters" operation), isBodyPart p = false →
    IsMappingOrFalse (lookup "schema" p)
  responses : IsMappingOrFalse (lookup "responses" operation)

/-- A path item: what stands under the name of a method is an operation. -/
def IsPathItem (dialect : Dialect) (v : Value) : Prop :=
  ∃ item, v.entries? = some item ∧ ∀ e ∈ item, IsMethodKey e.1 →
    ∃ operation, e.2.entries? = some operation ∧
      IsOperation dialect (lookup "parameters" item) operation

/-- **The shape of an API description.** -/
structure IsDescription (dialect : Dialect) (entries : Entries) : Prop where
  paths : IsMappingOrFalse (lookup "paths" entries)
  items : ∀ e ∈ mapped (lookup "paths" entries), IsPathItem dialect e.2
  tags : IsListOrNull (lookup "tags" entries)

/-- The parameters that an operation of the path item is declared with are proper. -/
def ItemIsProper (item : Entries) : Prop :=
  ∀ e ∈ item, IsMethodKey e.1 → ∀ operation, e.2.entries? = some operation →
    ∀ p ∈ declaredParameters (listed (lookup "parameters" item)
      ++ listed (lookup "parameters" operation)), IsProper p

/-- All parameters of the description are proper. -/
def ParametersAreProper (entries : Entries) : Prop :=
  ∀ e ∈ mapped (lookup "paths" entries), ∀ item, e.2.entries? = some item → ItemIsProper item

end ApiDocs
