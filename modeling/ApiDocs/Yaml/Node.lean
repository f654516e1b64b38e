import ApiDocs.Keyed
import ApiDocs.Yaml.Resolution
import ApiDocs.Yaml.Token.Basic

/-!
# Nodes of a YAML document

A node is a scalar, a sequence or a mapping, together with its type.  The nodes of a document form a
graph: they have numbers, and collections name their parts by number.  An alias is no node of its
own but stands for the number of the node that it refers to, which may be one that the alias stands
in.

`Node.ofTokens?` builds the graph of the only document of a text, and is `none` if there is no
document.  Nodes may be nested `maxNesting` deep and no deeper.  The loops over the parts of a
collection carry a `limit`, the number of tokens, since every part takes a token.
-/

namespace ApiDocs.Yaml

/-- A node; `none` is the type of a name that is not in the repository. -/
inductive Node where
  | scalar (tag : Option CoreTag) (text : Text)
  | seq (tag : Option CoreTag) (items : List Nat)
  | map (tag : Option CoreTag) (entries : List (Nat × Nat))
  deriving Repr, Inhabited

/-- The nodes of a document by their numbers. -/
abbrev Graph := Array Node

/-- The node of a number. -/
def Graph.node (g : Graph) (n : Nat) : Node := g.getD n default

namespace Node

/-- The type of a node. -/
def tag : Node → Option CoreTag
  | .scalar tag _ => tag
  | .seq tag _ => tag
  | .map tag _ => tag

/-- The node with another type. -/
def withTag (tag : Option CoreTag) : Node → Node
  | .scalar _ text => .scalar tag text
  | .seq _ items => .seq tag items
  | .map _ entries => .map tag entries

/-- What is known while nodes are built. -/
structure Builder where
  /-- The short forms of the starts of type names. -/
  handles : List (String × String) := []
  anchors : List (String × Nat) := []
  nodes : Graph := #[]
  tokens : List Token
  deriving Inhabited

/-- The short forms that every document has. -/
def commonHandles : List (String × String) := [("!", "!"), ("!!", coreNamespace)]

/-- An action on the tokens that are left. -/
abbrev Build := StateT Builder (Except Fault)

/-- The next token.  If the text could not be cut that far, the reason shows here. -/
def peek : Build Token := do
  match (← get).tokens with
  | .broken fault :: _ => throw fault
  | t :: _ => return t
  | [] => throw .malformed

/-- Passes one token. -/
def drop : Build Unit := modify (fun s => { s with tokens := s.tokens.drop 1 })

/-- The tokens do not go on as they should. -/
def unexpected {α : Type} : Build α := throw .malformed

/-- Whether the next token passes a test. -/
def next (test : Token → Bool) : Build Bool := return test (← peek)

/-- Passes the next token if it is the one expected. -/
def accept (t : Token) : Build Bool := do
  if ← next (· == t) then
    drop
    return true
  else return false

/-! ## 1. Properties of a node -/

/-- Passes an anchor, if there is one. -/
def anchor? : Build (Option String) := do
  match ← peek with
  | .anchor name =>
    drop
    return some name
  | _ => return none

/-- Passes a type, if there is one: its short form and the rest of its name. -/
def tag? : Build (Option (Option String × String)) := do
  match ← peek with
  | .tag handle suffix =>
    drop
    return some (handle, suffix)
  | _ => return none

/-- The full name of a type. -/
def fullName : Option String × String → Build String
  | (none, suffix) => return suffix
  | (some handle, suffix) => do
    match (← get).handles.lookup handle with
    | some start => return start ++ suffix
    | none => throw .malformed

/-- Passes anchor and type, in either order. -/
def properties : Build (Option String × Option String) := do
  match ← anchor? with
  | some a =>
    let tag ← tag?
    return (some a, ← tag.mapM fullName)
  | none =>
    match ← tag? with
    | some tag =>
      let a ← anchor?
      return (a, some (← fullName tag))
    | none => return (none, none)

/-- The type of a scalar: as named, or as the text looks if it is plain or an exclamation mark says
so. -/
def scalarTag (tag : Option String) (text : Text) (plain : Bool) : Option CoreTag :=
  match tag with
  | none => some (if plain then resolve text else .str)
  | some name => if name = "!" then some (resolve text) else CoreTag.ofName? name

/-- The type of a collection: as named, else that of its shape. -/
def collectionTag (tag : Option String) (shape : CoreTag) : Option CoreTag :=
  match tag with
  | none => some shape
  | some name => if name = "!" then some shape else CoreTag.ofName? name

/-- Adds a node, bound under its anchor. -/
def add (name : Option String) (n : Node) : Build Nat := do
  let s ← get
  let number := s.nodes.size
  let anchors := match name with
    | some a => Keyed.put (· == ·) a number s.anchors
    | none => s.anchors
  set { s with nodes := s.nodes.push n, anchors }
  return number

/-- Gives a node its content. -/
def fill (number : Nat) (n : Node) : Build Unit :=
  modify (fun s => { s with nodes := s.nodes.setIfInBounds number n })

/-- Adds the empty scalar that stands for a missing node. -/
def missing : Build Nat := add none (.scalar (some .null) [])

/-- Adds a sequence and then its items. -/
def addSeq (name : Option String) (tag : Option CoreTag) (items : Build (List Nat)) :
    Build Nat := do
  let number ← add name (.seq tag [])
  fill number (.seq tag (← items))
  return number

/-- Adds a mapping and then its entries. -/
def addMap (name : Option String) (tag : Option CoreTag) (entries : Build (List (Nat × Nat))) :
    Build Nat := do
  let number ← add name (.map tag [])
  fill number (.map tag (← entries))
  return number

/-! ## 2. Parts of collections -/

/-- Ends of the content of an entry in a block sequence that belongs to a mapping. -/
def endsIndentless (t : Token) : Bool :=
  t == .blockEntry || t == .key || t == .value || t == .blockEnd

/-- Ends of the content of an entry in a block sequence. -/
def endsItem (t : Token) : Bool := t == .blockEntry || t == .blockEnd

/-- Ends of a key or value in a block mapping. -/
def endsEntry (t : Token) : Bool := t == .key || t == .value || t == .blockEnd

/-- A node, unless the next token ends its place. -/
def nodeUnless (ends : Token → Bool) (item : Build Nat) : Build Nat := do
  if ← next ends then missing else item

/-- The items of a block sequence. -/
def blockItems (item : Build Nat) : (limit : Nat) → Build (List Nat)
  | 0 => unexpected
  | limit + 1 => do
    if ← accept .blockEntry then
      let n ← nodeUnless endsItem item
      return n :: (← blockItems item limit)
    else if ← accept .blockEnd then return []
    else unexpected

/-- The items of a block sequence at the column of its mapping. -/
def indentlessItems (item : Build Nat) : (limit : Nat) → Build (List Nat)
  | 0 => unexpected
  | limit + 1 => do
    if ← accept .blockEntry then
      let n ← nodeUnless endsIndentless item
      return n :: (← indentlessItems item limit)
    else return []

/-- The entries of a block mapping. -/
def blockEntries (item : Build Nat) : (limit : Nat) → Build (List (Nat × Nat))
  | 0 => unexpected
  | limit + 1 => do
    if ← accept .key then
      let k ← nodeUnless endsEntry item
      let v ← if ← accept .value then nodeUnless endsEntry item else missing
      return (k, v) :: (← blockEntries item limit)
    else if ← accept .blockEnd then return []
    else unexpected

/-- The value of an entry between brackets, up to `close` or a comma. -/
def flowValue (item : Build Nat) (close : Token) : Build Nat := do
  if ← accept .value then nodeUnless (fun t => t == .flowEntry || t == close) item else missing

/-- The key of an entry between brackets, after its indicator, up to `close`, a comma or a value. -/
def flowKey (item : Build Nat) (close : Token) : Build Nat :=
  nodeUnless (fun t => t == .value || t == .flowEntry || t == close) item

/-- Passes the comma before an item, which the first one does not have. -/
def flowSeparator (first : Bool) : Build Unit := do
  if !first then
    unless ← accept .flowEntry do unexpected

/-- The items of a sequence in brackets.  An entry of a mapping may stand for a mapping, and its
parts are `inner` nodes. -/
def flowItems (item inner : Build Nat) : (limit : Nat) → (first : Bool) → Build (List Nat)
  | 0, _ => unexpected
  | limit + 1, first => do
    if ← accept .flowSequenceEnd then return []
    flowSeparator first
    if ← accept .key then
      let n ← addMap none (some .map) do
        let k ← flowKey inner .flowSequenceEnd
        let v ← flowValue inner .flowSequenceEnd
        return [(k, v)]
      return n :: (← flowItems item inner limit false)
    else if ← accept .flowSequenceEnd then return []
    else
      let n ← item
      return n :: (← flowItems item inner limit false)

/-- The entries of a mapping in brackets.  A node without a value is a key. -/
def flowEntries (item : Build Nat) : (limit : Nat) → (first : Bool) → Build (List (Nat × Nat))
  | 0, _ => unexpected
  | limit + 1, first => do
    if ← accept .flowMappingEnd then return []
    flowSeparator first
    if ← accept .key then
      let k ← flowKey item .flowMappingEnd
      let v ← flowValue item .flowMappingEnd
      return (k, v) :: (← flowEntries item limit false)
    else if ← accept .flowMappingEnd then return []
    else
      let k ← item
      let v ← missing
      return (k, v) :: (← flowEntries item limit false)

/-! ## 3. Nodes -/

/-- How deep nodes may be nested. -/
def maxNesting : Nat := 488

/-- The node that an alias refers to. -/
def referred (name : String) : Build Nat := do
  drop
  match (← get).anchors.lookup name with
  | some n => return n
  | none => throw .malformed

/-- A node that is nested at most `depth` deep.  `block` allows block collections, `indentless` a
block sequence at the column of the mapping that it belongs to. -/
def node (limit : Nat) : (depth : Nat) → (block indentless : Bool) → Build Nat
  | 0, _, _ => throw .tooDeep
  | depth + 1, block, indentless => do
    let below (block indentless : Bool) : Build Nat := node limit depth block indentless
    let twoBelow : Build Nat := match depth with
      | 0 => throw .tooDeep
      | depth + 1 => node limit depth false false
    if let .alias name ← peek then return ← referred name
    let (a, tag) ← properties
    let t ← peek
    let anchors := (← get).anchors
    if a.any (fun name => (anchors.lookup name).isSome) then throw .malformed
    let seqTag := collectionTag tag .seq
    let mapTag := collectionTag tag .map
    if indentless && t == .blockEntry then
      addSeq a seqTag (indentlessItems (below true false) limit)
    else match t with
      | .scalar text plain =>
        drop
        add a (.scalar (scalarTag tag text plain) text)
      | .flowSequenceStart =>
        drop
        addSeq a seqTag (flowItems (below false false) twoBelow limit true)
      | .flowMappingStart =>
        drop
        addMap a mapTag (flowEntries (below false false) limit true)
      | t =>
        if block && t == .blockSequenceStart then
          drop
          addSeq a seqTag (blockItems (below true false) limit)
        else if block && t == .blockMappingStart then
          drop
          addMap a mapTag (blockEntries (below true true) limit)
        else if a.isSome || tag.isSome then add a (.scalar (scalarTag tag [] true) [])
        else unexpected

/-! ## 4. Documents -/

/-- What the directives before a document declare: whether a version was given, and the short forms
of its own. -/
def directives : (limit : Nat) → (versioned : Bool) → List (String × String) →
    Build (List (String × String))
  | 0, _, handles => return handles
  | limit + 1, versioned, handles => do
    match ← peek with
    | .directive d =>
      drop
      match d with
      | .version major =>
        if versioned || major != 1 then throw .malformed
        directives limit true handles
      | .shorthand handle start =>
        if (handles.lookup handle).isSome then throw .malformed
        directives limit versioned (handles ++ [(handle, start)])
      | .other => directives limit versioned handles
    | _ => return handles

/-- Passes markers of the end of a document. -/
def documentEnds : (limit : Nat) → Build Unit
  | 0 => return ()
  | limit + 1 => do
    if ← accept .documentEnd then documentEnds limit

/-- The start of a document that is marked as such, with the short forms that it declares. -/
def markedStart (limit : Nat) : Build Unit := do
  let handles ← directives limit false []
  unless ← accept .documentStart do unexpected
  modify (fun s => { s with handles := handles ++ commonHandles })

/-- A token that ends a document before its content. -/
def endsDocument (t : Token) : Bool :=
  match t with
  | .directive _ => true
  | .documentStart => true
  | .documentEnd => true
  | .streamEnd => true
  | _ => false

/-- The only document of a text. -/
def document (limit : Nat) : Build (Option Nat) := do
  let content : Build Nat := node limit maxNesting true false
  if ← next (· == .streamEnd) then return none
  let n ← if ← next (fun t => endsDocument t && t != .documentEnd) then do
      markedStart limit
      nodeUnless endsDocument content
    else do
      modify (fun s => { s with handles := commonHandles })
      content
  documentEnds limit
  if ← next (· == .streamEnd) then return some n
  markedStart limit
  unexpected

/-- The graph of the only document in a list of tokens, with the number of its first node. -/
def ofTokens? (ts : List Token) : Except Fault (Option (Nat × Graph)) := do
  let (n, s) ← (document (ts.length + 1)).run { tokens := ts }
  return n.map (fun n => (n, s.nodes))

end Node

end ApiDocs.Yaml
