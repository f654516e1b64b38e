import ApiDocs.Document.Reading
import ApiDocs.Navigation.Compile

/-!
# Log lines

What the steps of a build report besides their results, as values.  A line has a level and a
channel, the step that it comes from.
-/

namespace ApiDocs.Log

/-- How important a line is. -/
inductive Level where
  | debug
  | info
  | warning
  deriving Repr, DecidableEq, Inhabited

/-- The step that a line comes from. -/
inductive Channel where
  | reading
  | compiling
  | checking
  | emitting
  deriving Repr, DecidableEq, Inhabited

/-- A log line. -/
structure Line where
  level : Level
  channel : Channel
  message : Text
  deriving Repr, DecidableEq, Inhabited

/-- The lines of reading a description. -/
def reading (data : Value) (d : Document) : List Line :=
  (Document.ignored data).map
      (fun o => ⟨.debug, .reading, "Skipping " ++ o.quoted ++ ": unsupported method"⟩)
    ++ [⟨.debug, .reading,
      "Parsed " ++ Text.ofNat d.operations.length ++ " operations (" ++ d.dialect.name ++ ")"⟩]

/-- The warnings of compiling a document. -/
def repetitions (d : Document) : List Line :=
  (Navigation.repeatedOperationIds d).map fun (id, count) =>
    ⟨.warning, .compiling,
      "operationId '" ++ id ++ "' is declared " ++ Text.ofNat count ++ " times"⟩

/-- The line about the place of an operation. -/
def placement (o : Operation) (e : Navigation.Entry) : Line :=
  ⟨.debug, .compiling, Text.upper o.method ++ " " ++ o.path ++ " -> " ++ e.id ++ " ["
    ++ Navigation.firstTag o ++ "]"⟩

/-- The lines of compiling a document. -/
def compiling (options : Navigation.Options) (d : Document) : List Line :=
  repetitions d ++ (Navigation.arrange options d).1.map (fun p => placement p.1 p.2)

/-- The line about a reference without a page. -/
def brokenReference (id : Text) : Line :=
  ⟨.warning, .checking, "Broken sidebar reference: " ++ id⟩

end ApiDocs.Log
