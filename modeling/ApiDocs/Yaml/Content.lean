import ApiDocs.Value.Order
import ApiDocs.Yaml.Conversion
import ApiDocs.Yaml.Merge

/-!
# What the nodes of a document denote

The content of a scalar is a value.  The content of a collection names its parts by number, like the
node itself, but its keys are values, and merge keys are gone.

**Which fault is reported.**  A scalar gets its content when it is first met, a collection some time
after that: all collections that were met are filled in the order in which they were met.  So the
faults show level by level, from the outside in.
-/

namespace ApiDocs.Yaml

/-- What a node denotes. -/
inductive Content where
  | scalar (v : Value)
  | list (items : List Nat)
  | map (entries : List (Value × Nat))
  | set (items : List Value)
  /-- A list of pairs. -/
  | pairs (entries : List (Nat × Nat))
  deriving Repr, Inhabited

/-- A graph whose nodes are given their contents. -/
structure Loader where
  graph : Graph
  contents : Array (Option Content)
  /-- The collections that have been met and not been filled, the last one first. -/
  waiting : List Nat := []
  deriving Inhabited

/-- An action that gives contents. -/
abbrev Load := StateT Loader (Except Fault)

namespace Load

/-! ## 1. Scalars -/

/-- Whether the values of the type are filled with content. -/
def isCollection (tag : CoreTag) : Bool :=
  tag == .seq || tag == .map || tag == .set || tag == .omap || tag == .pairs

/-- Whether there are no values of the type. -/
def isAbstract (tag : CoreTag) : Bool := tag == .merge || tag == .value || tag == .indicator

/-- The text of a node that is read as a scalar: of a mapping, that of its entry `=`. -/
def scalarText (g : Graph) : (depth : Nat) → Nat → Except Fault Text
  | 0, _ => .error .tooDeep
  | depth + 1, n =>
    match g.node n with
    | .scalar _ text => .ok text
    | .map _ entries =>
      match entries.find? (fun e => (g.node e.1).tag == some .value) with
      | some e => scalarText g depth e.2
      | none => .error .malformed
    | .seq _ _ => .error .malformed

/-- The value of a node that is read as a scalar.  A mapping may give its text, but not that of a
time. -/
def scalarOf (g : Graph) (tag : CoreTag) (n : Nat) : Except Fault Value := do
  if isAbstract tag then throw .malformed
  let text ← scalarText g Graph.maxReferences n
  match tag, g.node n with
  | .timestamp, .map _ _ => throw .mappedTime
  | _, _ => scalarValue (n + 1) tag text

/-! ## 2. Collections -/

/-- The content of a collection before it is filled. -/
def emptyContent : CoreTag → Content
  | .map => .map []
  | .set => .set []
  | .omap => .pairs []
  | .pairs => .pairs []
  | _ => .list []

/-- Gives a node its content. -/
def put (n : Nat) (c : Content) : Load Unit :=
  modify (fun s => { s with contents := s.contents.setIfInBounds n (some c) })

/-- Meets a node. -/
def meet (n : Nat) : Load Unit := do
  let s ← get
  if (s.contents.getD n none).isNone then
    match (s.graph.node n).tag with
    | none => throw .malformed
    | some tag =>
      if isCollection tag then
        put n (emptyContent tag)
        modify (fun s => { s with waiting := n :: s.waiting })
      else put n (.scalar (← scalarOf s.graph tag n))

/-- The value of a key: a scalar, since a collection cannot be a key. -/
def keyOf (n : Nat) : Load Value := do
  meet n
  match (← get).contents.getD n none with
  | some (.scalar v) => return v
  | _ => throw .malformed

/-- Replaces the merge keys of a mapping. -/
def flatten (n : Nat) : Load Unit := do
  let s ← get
  let (_, graph) ← (Graph.flatten Graph.maxReferences n).run s.graph
  set { s with graph }

/-- The entries of a mapping without merge keys: of several with one key the last value, in the
place of the first. -/
def entriesOf (n : Nat) : Load (List (Value × Nat)) := do
  match (← get).graph.node n with
  | .map _ _ =>
    flatten n
    match (← get).graph.node n with
    | .map _ entries =>
      let met ← entries.mapM fun (k, v) => do
        let key ← keyOf k
        meet v
        return (key, v)
      return Keyed.ofList Value.sameKey met
    | _ => throw .malformed
  | _ => throw .malformed

/-- The only entry of a mapping. -/
def pairOf (n : Nat) : Load (Nat × Nat) := do
  match (← get).graph.node n with
  | .map _ [(k, v)] =>
    meet k
    meet v
    return (k, v)
  | _ => throw .malformed

/-- The items of a sequence. -/
def itemsOf (n : Nat) : Load (List Nat) := do
  match (← get).graph.node n with
  | .seq _ items => return items
  | _ => throw .malformed

/-- Fills a collection.  Its type has to fit the shape of its node. -/
def fill (n : Nat) : Load Unit := do
  match ((← get).graph.node n).tag with
  | some .map => put n (.map (← entriesOf n))
  | some .set => put n (.set (Value.inSetOrder ((← entriesOf n).map Prod.fst)))
  | some .omap => put n (.pairs (← (← itemsOf n).mapM pairOf))
  | some .pairs => put n (.pairs (← (← itemsOf n).mapM pairOf))
  | _ =>
    let items ← itemsOf n
    items.forM meet
    put n (.list items)

/-- Fills all collections that are met.  Every round takes at least one, so there are at most
`limit` rounds. -/
def fillAll : (limit : Nat) → Load Unit
  | 0 => return ()
  | limit + 1 => do
    let waiting := (← get).waiting
    if waiting.isEmpty then return ()
    modify (fun s => { s with waiting := [] })
    waiting.reverse.forM fill
    fillAll limit

end Load

/-- The contents of the nodes that a node leads to. -/
def contentsFrom (n : Nat) (g : Graph) : Except Fault (Array (Option Content)) := do
  let start : Loader := { graph := g, contents := Array.replicate g.size none }
  let load : Load Unit := do
    Load.meet n
    Load.fillAll g.size
  return (← load.run start).2.contents

end ApiDocs.Yaml
