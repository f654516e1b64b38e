import ApiDocs.Text.Digits
import ApiDocs.Yaml.Cursor
import ApiDocs.Yaml.Token.Basic

/-!
# Tokens with text

Scalars in their five styles, names of anchors, names of types, and directives, each read at the
cursor.  Line breaks inside a scalar are folded: a single one is a space, and of several the first
is dropped.
-/

namespace ApiDocs.Yaml

namespace Scan

/-! ## 1. Names -/

/-- The name after an anchor or alias indicator. -/
def anchorName : Scan String := do
  next
  let name ← takeWhile isNameChar
  if name.isEmpty then fail
  require fun cs => match cs with
    | [] => true
    | c :: _ => isSeparation c || "?:,]\x7d%@`".toList.contains c
  return String.ofList name

/-- A character that may stand in the name of a type. -/
def isUriChar (c : Char) : Bool := c.isAlphanum || "-;/?:@&=+$,_.!~*'()[]".toList.contains c

/-- Bytes written as hexadecimal numbers, each after a percent sign. -/
def uriBytes : (limit : Nat) → Scan (List UInt8)
  | 0 => fail
  | limit + 1 => do
    match (← get).rest with
    | '%' :: a :: b :: _ =>
      match Text.readDigits 16 [a, b] with
      | some n =>
        modify (Cursor.advance 3)
        return UInt8.ofNat n :: (← uriBytes limit)
      | none => fail
    | '%' :: _ => fail
    | _ => return []

/-- The characters of the name of a type. -/
def uriChars : (limit : Nat) → Scan (List Char)
  | 0 => fail
  | limit + 1 => do
    match (← get).rest with
    | '%' :: _ =>
      let bytes ← uriBytes (← get).limit
      match String.fromUTF8? ⟨bytes.toArray⟩ with
      | some s => return s.toList ++ (← uriChars limit)
      | none => fail
    | c :: _ =>
      if isUriChar c then
        next
        return c :: (← uriChars limit)
      else return []
    | [] => return []

/-- The name of a type, which is not empty. -/
def uri : Scan String := do
  let start := (← get).index
  let cs ← uriChars (← get).limit
  if (← get).index == start then fail
  return String.ofList cs

/-- The short form of the start of a name: two exclamation marks with a name between them, or one on
its own before a space. -/
def handle : Scan String := do
  match (← get).rest with
  | '!' :: ' ' :: _ =>
    next
    return "!"
  | '!' :: cs =>
    let name := cs.takeWhile isNameChar
    if (cs.drop name.length).head? == some '!' then
      modify (Cursor.advance (name.length + 2))
      return String.ofList ('!' :: name ++ ['!'])
    else fail
  | _ => fail

/-- The type of a node. -/
def tag : Scan Token := do
  let token ← match (← get).rest.drop 1 with
    | '<' :: _ => do
      modify (Cursor.advance 2)
      let suffix ← uri
      require (fun cs => cs.head? == some '>')
      next
      pure (Token.tag none suffix)
    | cs =>
      if atSeparation cs then do
        next
        pure (Token.tag none "!")
      else do
        let word := cs.takeWhile (fun c => c != ' ' && !isBreak c)
        let h ← if word.contains '!' then handle else do
          next
          pure "!"
        pure (Token.tag (some h) (← uri))
  require atSpaceOrBreak
  return token

/-! ## 2. Directives -/

/-- A number in a directive. -/
def directiveNumber : Scan Nat := do
  let ds ← takeWhile Text.isDigit
  if ds.isEmpty then fail
  if Text.maxDigits < ds.length then throw .noNumber
  return Text.decimalValue ds

/-- A directive with the rest of its line. -/
def directive : Scan Token := do
  next
  let name ← takeWhile isNameChar
  if name.isEmpty then fail
  require atSpaceOrBreak
  let d ← match String.ofList name with
    | "YAML" => do
      spaces
      let major ← directiveNumber
      require (fun cs => cs.head? == some '.')
      next
      discard directiveNumber
      require atSpaceOrBreak
      pure (Directive.version major)
    | "TAG" => do
      spaces
      let h ← handle
      require (fun cs => cs.head? == some ' ')
      spaces
      let start ← uri
      require atSpaceOrBreak
      pure (Directive.shorthand h start)
    | _ => do
      discard (takeWhile (fun c => !isBreak c))
      pure Directive.other
  restOfLine
  return .directive d

/-! ## 3. Block scalars -/

/-- What happens to the line breaks at the end of a block scalar. -/
inductive Chomping where
  | strip
  | clip
  | keep
  deriving Repr, DecidableEq

/-- The chomping of an indicator. -/
def chomping? : List Char → Option Chomping
  | '+' :: _ => some .keep
  | '-' :: _ => some .strip
  | _ => none

/-- The indentation of an indicator; zero is not allowed. -/
def indentation? : List Char → Option Nat
  | c :: _ => if Text.isDigit c then some (c.toNat - 0x30) else none
  | [] => none

/-- The indicators at the head of a block scalar, in either order. -/
def blockHeader : Scan (Chomping × Option Nat) := do
  let chomp : Scan (Option Chomping) := do
    let found := chomping? (← get).rest
    if found.isSome then next
    return found
  let increment : Scan (Option Nat) := do
    let found := indentation? (← get).rest
    if found == some 0 then fail
    if found.isSome then next
    return found
  match ← chomp with
  | some c => return (c, ← increment)
  | none =>
    match ← increment with
    | some n => return ((← chomp).getD .clip, some n)
    | none => return (.clip, none)

/-- Blank lines at the start of a block scalar whose indentation is not known: their line breaks,
the last one first, and the largest column reached. -/
def leadingBreaks : (limit : Nat) → List Char → Nat → Scan (List Char × Nat)
  | 0, breaks, widest => return (breaks, widest)
  | limit + 1, breaks, widest => do
    match (← get).rest with
    | ' ' :: _ =>
      next
      leadingBreaks limit breaks (max widest (← get).column)
    | _ =>
      match ← lineBreak? with
      | some x => leadingBreaks limit (x :: breaks) widest
      | none => return (breaks, widest)

/-- Passes spaces up to a column. -/
def spacesTo (column : Nat) : Scan Unit := do
  let c ← get
  let n := (c.rest.takeWhile (· == ' ')).length
  set (c.advance (min n (column - c.column)))

/-- Blank lines in a block scalar: their line breaks, the last one first. -/
def blockBreaks (column : Nat) : (limit : Nat) → List Char → Scan (List Char)
  | 0, breaks => return breaks
  | limit + 1, breaks => do
    spacesTo column
    match ← lineBreak? with
    | some x => blockBreaks column limit (x :: breaks)
    | none => return breaks

/-- Whether the rest of the text starts with a blank. -/
def atBlank (cs : List Char) : Bool := cs.head? == some ' ' || cs.head? == some '\t'

/-- The lines of a block scalar.  `text` is what has been read, in reverse, `breaks` the line breaks
of the blank lines after it, the last one first. -/
def blockLines (folded : Bool) (column : Nat) (chomping : Chomping) :
    (limit : Nat) → (text breaks : List Char) → (last : Option Char) → Scan (List Char)
  | 0, text, _, _ => return text
  | limit + 1, text, breaks, last => do
    let finish : List Char :=
      (if chomping = .keep then breaks else [])
        ++ (if chomping = .strip then [] else last.toList) ++ text
    let c ← get
    if c.column != column || c.rest.isEmpty then return finish
    else
      let leadingBlank := atBlank c.rest
      let line ← takeWhile (fun x => !isBreak x)
      let text := line.reverse ++ breaks ++ text
      let last ← lineBreak?
      let breaks ← blockBreaks column (← get).limit []
      let c ← get
      if c.column != column || c.rest.isEmpty then
        blockLines folded column chomping limit text breaks last
      else if folded && last == some '\n' && !leadingBlank && !atBlank c.rest then
        let text := if breaks.isEmpty then ' ' :: text else text
        blockLines folded column chomping limit text breaks last
      else
        blockLines folded column chomping limit (last.toList ++ text) breaks last

/-- A block scalar inside a collection at column `indent`. -/
def blockScalar (folded : Bool) (indent : Int) : Scan Token := do
  next
  let (chomping, increment) ← blockHeader
  require atSpaceOrBreak
  restOfLine
  let least := (max (indent + 1) 1).toNat
  match increment with
  | some n =>
    let column := least + n - 1
    let breaks ← blockBreaks column (← get).limit []
    let text ← blockLines folded column chomping (← get).limit [] breaks none
    return .scalar (Text.ofChars text.reverse) false
  | none =>
    let (breaks, widest) ← leadingBreaks (← get).limit [] 0
    let column := max least widest
    let text ← blockLines folded column chomping (← get).limit [] breaks none
    return .scalar (Text.ofChars text.reverse) false

/-! ## 4. Quoted scalars -/

/-- The character that a letter after a backslash stands for. -/
def escaped? (c : Char) : Option Char :=
  [('0', 0), ('a', 7), ('b', 8), ('t', 9), ('\t', 9), ('n', 10), ('v', 11), ('f', 12), ('r', 13),
    ('e', 0x1B), (' ', 0x20), ('"', 0x22), ('\\', 0x5C), ('/', 0x2F), ('N', 0x85), ('_', 0xA0),
    ('L', 0x2028), ('P', 0x2029)].lookup c |>.map Char.ofNat

/-- The number of hexadecimal digits after a letter. -/
def escapeWidth? (c : Char) : Option Nat := [('x', 2), ('u', 4), ('U', 8)].lookup c

/-- The code point of a numeric escape. -/
def numericEscape (width : Nat) : Scan CodePoint := do
  let ds := (← get).rest.take width
  if ds.length != width || !ds.all Text.isHexDigit then fail
  let n := (Text.readDigits 16 ds).getD 0
  if 0x7FFFFFFF < n then throw .hugeCharacter
  if 0x10FFFF < n then throw .noCharacter
  modify (Cursor.advance width)
  return .ofNat n

/-- The line breaks of blank lines in a quoted scalar, the last one first; a marker between
documents must not follow. -/
def quotedBreaks : (limit : Nat) → List Char → Scan (List Char)
  | 0, breaks => return breaks
  | limit + 1, breaks => do
    require (fun cs => !atDocumentMarker cs)
    discard (takeWhile (fun x => x == ' ' || x == '\t'))
    match ← lineBreak? with
    | some x => quotedBreaks limit (x :: breaks)
    | none => return breaks

/-- What the line breaks between two lines of a quoted or plain scalar fold to, in reverse. -/
def foldBreaks (first : Char) (others : List Char) : List Char :=
  if first != '\n' then others ++ [first] else if others.isEmpty then [' '] else others

/-- The rest of a quoted scalar up to its closing quote; `text` is what has been read, in
reverse. -/
def quotedFrom (double : Bool) : (limit : Nat) → (text : Text) → Scan Text
  | 0, _ => fail
  | limit + 1, text => do
    match (← get).rest with
    | [] => fail
    | c :: cs =>
      if c == ' ' || c == '\t' || isBreak c then
        let blanks ← takeWhile (fun x => x == ' ' || x == '\t')
        if (← get).rest.isEmpty then fail
        match ← lineBreak? with
        | none => quotedFrom double limit (Text.ofChars blanks.reverse ++ text)
        | some first =>
          let others ← quotedBreaks (← get).limit []
          quotedFrom double limit (Text.ofChars (foldBreaks first others) ++ text)
      else if !double && c == '\'' then
        if cs.head? == some '\'' then
          modify (Cursor.advance 2)
          quotedFrom double limit (.char '\'' :: text)
        else
          next
          return text
      else if double && c == '"' then
        next
        return text
      else if double && c == '\\' then
        next
        match cs with
        | [] => fail
        | e :: _ =>
          match escaped? e, escapeWidth? e with
          | some x, _ =>
            next
            quotedFrom double limit (.char x :: text)
          | none, some width =>
            next
            let x ← numericEscape width
            quotedFrom double limit (x :: text)
          | none, none =>
            match ← lineBreak? with
            | some _ =>
              let others ← quotedBreaks (← get).limit []
              quotedFrom double limit (Text.ofChars others ++ text)
            | none => fail
      else
        next
        quotedFrom double limit (.char c :: text)

/-- A quoted scalar. -/
def quotedScalar (double : Bool) : Scan Token := do
  next
  let text ← quotedFrom double (← get).limit []
  return .scalar text.reverse false

/-! ## 5. Plain scalars -/

/-- A character that ends a plain scalar inside brackets. -/
def isFlowIndicator (c : Char) : Bool := c == ',' || c == '[' || c == ']' || c == '{' || c == '}'

/-- The characters up to the next separation, or to an indicator that ends a plain scalar. -/
def plainChunk (flow : Bool) : List Char → List Char
  | [] => []
  | c :: cs =>
    if isSeparation c
        || (c == ':' && (atSeparation cs || (flow && cs.head?.any isFlowIndicator)))
        || (flow && (c == '?' || isFlowIndicator c)) then []
    else c :: plainChunk flow cs

/-- The line breaks of blank lines in a plain scalar, the last one first; none if a marker between
documents follows. -/
def plainBreaks : (limit : Nat) → List Char → Scan (Option (List Char))
  | 0, breaks => return some breaks
  | limit + 1, breaks => do
    if atDocumentMarker (← get).rest && (← get).column == 0 then return none
    spaces
    match ← lineBreak? with
    | some x => plainBreaks limit (x :: breaks)
    | none => return some breaks

/-- The separation after a chunk of a plain scalar: what it folds to, in reverse, and whether it
holds a line break.  An empty result ends the scalar. -/
def plainGap : Scan (List Char × Bool) := do
  let blanks ← takeWhile (· == ' ')
  match ← lineBreak? with
  | none => return (blanks, false)
  | some first =>
    match ← plainBreaks (← get).limit [] with
    | none => return ([], true)
    | some others => return (foldBreaks first others, true)

/-- The rest of a plain scalar.  `text` is what has been read, in reverse, `gap` the separation
after it; the result says whether the last separation holds a line break. -/
def plainFrom (flow : Bool) (column : Int) :
    (limit : Nat) → (text gap : List Char) → (crossed : Bool) → Scan (List Char × Bool)
  | 0, text, _, crossed => return (text, crossed)
  | limit + 1, text, gap, crossed => do
    let c ← get
    if c.rest.head? == some '#' then return (text, crossed)
    let chunk := plainChunk flow c.rest
    if chunk.isEmpty then return (text, crossed)
    set (c.advance chunk.length)
    let text := chunk.reverse ++ gap ++ text
    let (gap, crossed) ← plainGap
    let c ← get
    if gap.isEmpty || (!flow && (c.column : Int) < column) then return (text, crossed)
    plainFrom flow column limit text gap crossed

/-- A plain scalar inside a collection at column `indent`, and whether a line break follows it. -/
def plainScalar (flow : Bool) (indent : Int) : Scan (Token × Bool) := do
  let (text, crossed) ← plainFrom flow (indent + 1) (← get).limit [] [] false
  return (.scalar (Text.ofChars text.reverse) true, crossed)

end Scan

end ApiDocs.Yaml
