import ApiDocs.Value.Basic

/-!
# API descriptions

What the generator keeps of an API description, whichever of the two dialects it is written in: the
title page, the declared tags, and the operations in the order of the description.
-/

namespace ApiDocs

/-- The dialects of API descriptions. -/
inductive Dialect where
  | openapi3
  | swagger2
  deriving Repr, DecidableEq, Inhabited

/-- A parameter of an operation. -/
structure Parameter where
  name : Text
  /-- Where the parameter is sent: query, path, header or cookie. -/
  location : Text
  required : Bool := false
  typeName : Text := "string"
  description : Text := []
  deriving Repr, DecidableEq, Inhabited

/-- One operation: a method on a path. -/
structure Operation where
  method : Text
  path : Text
  operationId : Option Text := none
  summary : Text := []
  description : Text := []
  tags : List Text := []
  parameters : List Parameter := []
  /-- The entries of the schema of the request body. -/
  requestBody : Option Value.Entries := none
  /-- The descriptions of the responses, by status. -/
  responses : List (Text × Text) := []
  deprecated : Bool := false
  deriving Repr, Inhabited

/-- A declared tag. -/
structure Tag where
  name : Text
  description : Text := []
  deriving Repr, DecidableEq, Inhabited

/-- The title page of an API description. -/
structure Info where
  title : Text := []
  version : Text := []
  description : Text := []
  deriving Repr, DecidableEq, Inhabited

/-- A whole API description. -/
structure Document where
  dialect : Dialect
  info : Info := {}
  tags : List Tag := []
  operations : List Operation := []
  deriving Repr, Inhabited

/-- The methods that an operation can have. -/
def methods : List Text := ["get", "post", "put", "patch", "delete"]

/-- The name of a dialect. -/
def Dialect.name : Dialect → String
  | .openapi3 => "openapi3"
  | .swagger2 => "swagger2"

/-- The description of the first declared tag of that name; empty if there is none. -/
def Document.tagDescription (d : Document) (name : Text) : Text :=
  match d.tags.find? (fun t => t.name == name) with
  | some t => t.description
  | none => []

end ApiDocs
