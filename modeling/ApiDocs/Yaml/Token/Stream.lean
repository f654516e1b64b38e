import ApiDocs.Yaml.Token.Text

/-!
# From text to tokens

`tokensOf` cuts a text into tokens.  Indentation opens and closes block collections, and a key is
recognised only at the colon after it: until then the place of every token that may turn out to be
a key is kept, one for each level of brackets, and the token that introduces the key is inserted
there later.  A key has to end on its line and within 1024 characters.

**Where a text breaks off.**  A token is settled only when nothing can be inserted before it any
more.  If the text cannot be cut further, the tokens end with the settled ones
(`TokenStream.settled`).
-/

namespace ApiDocs.Yaml

/-- A token that may turn out to be a key. -/
structure PossibleKey where
  /-- The number of tokens before it. -/
  place : Nat
  /-- Whether it stands where only a key can stand. -/
  required : Bool
  index : Nat
  line : Nat
  column : Nat
  deriving Repr, Inhabited

/-- A text that is partly cut into tokens. -/
structure TokenStream where
  cursor : Cursor
  /-- The tokens so far, the last one first. -/
  tokens : List Token := []
  /-- The number of tokens so far. -/
  count : Nat := 0
  /-- The column of the innermost block collection, and `-1` outside all of them. -/
  indent : Int := -1
  /-- The columns of the block collections around it, the innermost first. -/
  outer : List Int := []
  /-- The possible key of each level of brackets, the innermost first. -/
  keys : List (Option PossibleKey) := [none]
  /-- Whether a key may stand at the cursor. -/
  keyAllowed : Bool := true
  deriving Inhabited

namespace TokenStream

/-- Whether the cursor is inside brackets. -/
def inFlow (s : TokenStream) : Bool := 1 < s.keys.length

/-- Adds a token. -/
def push (t : Token) (s : TokenStream) : TokenStream :=
  { s with tokens := t :: s.tokens, count := s.count + 1 }

/-- Adds a token of `n` characters. -/
def pushIndicator (n : Nat) (t : Token) (s : TokenStream) : TokenStream :=
  { s.push t with cursor := s.cursor.advance n }

/-- Inserts a token after the first `place` tokens. -/
def insertAt (place : Nat) (t : Token) (s : TokenStream) : TokenStream :=
  let back := s.count - place
  { s with tokens := s.tokens.take back ++ t :: s.tokens.drop back, count := s.count + 1 }

/-! ## 1. Indentation -/

/-- Closes the block collections to the right of a column. -/
def unwindFrom (column : Int) : (outer : List Int) → TokenStream → TokenStream
  | [], s => s
  | o :: os, s =>
    if column < s.indent then
      unwindFrom column os { s.push .blockEnd with indent := o, outer := os }
    else s

/-- Closes the block collections to the right of a column; brackets suspend indentation. -/
def unwind (column : Int) (s : TokenStream) : TokenStream :=
  if s.inFlow then s else unwindFrom column s.outer s

/-- Starts a block collection at a column, unless one stands there. -/
def open? (column : Nat) (s : TokenStream) : Option TokenStream :=
  if s.indent < column then some { s with outer := s.indent :: s.outer, indent := column } else none

/-! ## 2. Possible keys -/

/-- Gives up a possible key; one that is required must not be given up. -/
def dropKey : Option PossibleKey → Except Fault (Option PossibleKey)
  | none => .ok none
  | some k => if k.required then .error .malformed else .ok none

/-- Gives up the possible key of the current level. -/
def forgetKey (s : TokenStream) : Except Fault TokenStream :=
  match s.keys with
  | [] => .ok s
  | k :: ks => (dropKey k).map (fun k => { s with keys := k :: ks })

/-- Gives up the possible keys that are too far from the cursor. -/
def forgetStale (s : TokenStream) : Except Fault TokenStream := do
  let keys ← s.keys.mapM fun k => match k with
    | none => pure none
    | some p =>
      if p.line != s.cursor.line || p.index + 1024 < s.cursor.index then dropKey k else pure k
  return { s with keys }

/-- The number of tokens before which nothing can be inserted. -/
def settled (s : TokenStream) : Nat :=
  s.keys.foldl (fun n k => match k with
    | some p => min n p.place
    | none => n) s.count

/-- Notes that the next token may be a key. -/
def noteKey (s : TokenStream) : Except Fault TokenStream :=
  if s.keyAllowed then do
    let s ← s.forgetKey
    let c := s.cursor
    let key : PossibleKey := {
      place := s.count
      required := !s.inFlow && s.indent == c.column
      index := c.index, line := c.line, column := c.column }
    return { s with keys := some key :: s.keys.drop 1 }
  else .ok s

/-- Runs a scanning action at the cursor. -/
def run {α : Type} (action : Scan α) (s : TokenStream) : Except Fault (α × TokenStream) :=
  (action.run s.cursor).map (fun r => (r.1, { s with cursor := r.2 }))

/-! ## 3. Steps -/

/-- Passes spaces, comments and line breaks; a line break outside brackets allows a key. -/
def skipBlanks : (limit : Nat) → TokenStream → TokenStream
  | 0, s => s
  | limit + 1, s =>
    let c := s.cursor.skipWhile (· == ' ')
    let c := if c.rest.head? == some '#' then c.skipWhile (fun x => !isBreak x) else c
    match c.lineBreak? with
    | some (_, c) =>
      skipBlanks limit { s with cursor := c, keyAllowed := s.keyAllowed || !s.inFlow }
    | none => { s with cursor := c }

/-- A directive, or a marker between documents: outside all collections, and no key follows. -/
def atTopLevel (s : TokenStream) : Except Fault TokenStream := do
  let s ← (s.unwind (-1)).forgetKey
  return { s with keyAllowed := false }

/-- An opening bracket. -/
def openFlow (t : Token) (s : TokenStream) : Except Fault TokenStream := do
  let s ← s.noteKey
  return { s.pushIndicator 1 t with keys := none :: s.keys, keyAllowed := true }

/-- A closing bracket. -/
def closeFlow (t : Token) (s : TokenStream) : Except Fault TokenStream := do
  let s ← s.forgetKey
  if s.inFlow then
    return { s.pushIndicator 1 t with keys := s.keys.drop 1, keyAllowed := false }
  else throw .malformed

/-- A comma between brackets. -/
def flowEntry (s : TokenStream) : Except Fault TokenStream := do
  let s ← s.forgetKey
  return { s.pushIndicator 1 .flowEntry with keyAllowed := true }

/-- Starts a block collection at the cursor if there is none, where a key may stand. -/
def startBlock (t : Token) (s : TokenStream) : Except Fault TokenStream :=
  if s.inFlow then .ok s
  else if !s.keyAllowed then .error .malformed
  else match s.open? s.cursor.column with
    | some s => .ok (s.push t)
    | none => .ok s

/-- A hyphen before an item. -/
def blockEntry (s : TokenStream) : Except Fault TokenStream := do
  let s ← (← s.startBlock .blockSequenceStart).forgetKey
  return { s.pushIndicator 1 .blockEntry with keyAllowed := true }

/-- A question mark before a key. -/
def explicitKey (s : TokenStream) : Except Fault TokenStream := do
  let s ← (← s.startBlock .blockMappingStart).forgetKey
  return { s.pushIndicator 1 .key with keyAllowed := !s.inFlow }

/-- A colon: what was a possible key is one, or the colon belongs to an explicit key. -/
def valueIndicator (s : TokenStream) : Except Fault TokenStream := do
  match s.keys with
  | some k :: ks =>
    let s := { s.insertAt k.place .key with keys := none :: ks, keyAllowed := false }
    let s := if s.inFlow then s else match s.open? k.column with
      | some s => s.insertAt k.place .blockMappingStart
      | none => s
    return s.pushIndicator 1 .value
  | _ =>
    let s ← (← s.startBlock .blockMappingStart).forgetKey
    return { s.pushIndicator 1 .value with keyAllowed := !s.inFlow }

/-- A token that may be a key and that no key can follow. -/
def keyLike (action : Scan Token) (s : TokenStream) : Except Fault TokenStream := do
  let s ← s.noteKey
  let (t, s) ← s.run action
  return { s.push t with keyAllowed := false }

/-- A block scalar. -/
def block (folded : Bool) (s : TokenStream) : Except Fault TokenStream := do
  let s ← s.forgetKey
  let (t, s) ← s.run (Scan.blockScalar folded s.indent)
  return { s.push t with keyAllowed := true }

/-- A plain scalar. -/
def plain (s : TokenStream) : Except Fault TokenStream := do
  let s ← s.noteKey
  let ((t, crossed), s) ← s.run (Scan.plainScalar s.inFlow s.indent)
  return { s.push t with keyAllowed := crossed }

/-- Whether a plain scalar starts here. -/
def startsPlain (flow : Bool) (c : Char) (cs : List Char) : Bool :=
  !(isSeparation c || "-?:,[]\x7b\x7d#&*!|>'\"%@`".toList.contains c)
    || (!atSeparation cs && (c == '-' || (!flow && (c == '?' || c == ':'))))

/-- The next token, together with those that indentation puts before it. -/
def add (s : TokenStream) : Except Fault TokenStream := do
  let s ← (skipBlanks s.cursor.limit s).forgetStale
  let s := s.unwind s.cursor.column
  let column := s.cursor.column
  match s.cursor.rest with
  | [] =>
    let s ← s.atTopLevel
    return s.push .streamEnd
  | c :: cs =>
    if c == '%' && column == 0 then
      let (t, s) ← (← s.atTopLevel).run Scan.directive
      return s.push t
    else if column == 0 && atDocumentMarker (c :: cs) then
      let s ← s.atTopLevel
      return s.pushIndicator 3 (if c == '-' then .documentStart else .documentEnd)
    else if c == '[' then s.openFlow .flowSequenceStart
    else if c == '{' then s.openFlow .flowMappingStart
    else if c == ']' then s.closeFlow .flowSequenceEnd
    else if c == '}' then s.closeFlow .flowMappingEnd
    else if c == ',' then s.flowEntry
    else if c == '-' && atSeparation cs then s.blockEntry
    else if c == '?' && (s.inFlow || atSeparation cs) then s.explicitKey
    else if c == ':' && (s.inFlow || atSeparation cs) then s.valueIndicator
    else if c == '*' then s.keyLike (Token.alias <$> Scan.anchorName)
    else if c == '&' then s.keyLike (Token.anchor <$> Scan.anchorName)
    else if c == '!' then s.keyLike Scan.tag
    else if c == '|' && !s.inFlow then s.block false
    else if c == '>' && !s.inFlow then s.block true
    else if c == '\'' then s.keyLike (Scan.quotedScalar false)
    else if c == '"' then s.keyLike (Scan.quotedScalar true)
    else if startsPlain s.inFlow c cs then s.plain
    else throw .malformed

/-- Whether the text has been cut to its end. -/
def isAtEnd (s : TokenStream) : Bool := s.tokens.head? == some .streamEnd

/-- The next token; what can be a key no longer is given up after it. -/
def step (s : TokenStream) : Except Fault TokenStream := do
  let s ← s.add
  if s.isAtEnd then return s else s.forgetStale

/-- All further tokens, the last one first. -/
def toEnd : (limit : Nat) → TokenStream → List Token
  | 0, s => .broken .malformed :: s.tokens
  | limit + 1, s =>
    match s.step with
    | .error fault => .broken fault :: s.tokens.drop (s.count - s.settled)
    | .ok s => if s.isAtEnd then s.tokens else toEnd limit s

end TokenStream

/-- The tokens of a text.  The last one is the end of the text, or says why there are no more.  A
byte order mark at the start is passed over. -/
def tokensOf (cs : List Char) : List Token :=
  let start := Cursor.ofText cs
  let start := if cs.head? == some '\uFEFF' then start.next else start
  (TokenStream.toEnd (cs.length + 2) { cursor := start }).reverse

end ApiDocs.Yaml
