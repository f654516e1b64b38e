import ApiDocs.Yaml.Character
import ApiDocs.Yaml.Fault

/-!
# Places in a YAML text

A `Cursor` is the rest of a text with the place where it starts: the number of characters before it,
the line and the column.  Scanning functions are actions on a cursor that may fail (`Scan`).  Loops
carry a `limit` that is larger than the number of characters left, and each round takes at least
one.  A cursor counts the characters that are left (`IsCounted`), so that the limit need not be
counted anew.
-/

namespace ApiDocs.Yaml

/-- The rest of a text and the place where it starts. -/
structure Cursor where
  rest : List Char
  /-- The number of characters that are left. -/
  left : Nat
  index : Nat := 0
  line : Nat := 0
  column : Nat := 0
  deriving Repr, Inhabited

namespace Cursor

/-- The start of a text. -/
def ofText (cs : List Char) : Cursor := { rest := cs, left := cs.length }

/-- Whether the cursor knows how many characters are left. -/
def IsCounted (c : Cursor) : Prop := c.left = c.rest.length

/-- Passes one character.  A byte order mark takes no column. -/
def next (c : Cursor) : Cursor :=
  match c.rest with
  | [] => c
  | x :: xs =>
    if isBreak x && !(x == '\r' && xs.head? == some '\n') then
      { rest := xs, left := c.left - 1, index := c.index + 1, line := c.line + 1, column := 0 }
    else if x == '\uFEFF' then { c with rest := xs, left := c.left - 1, index := c.index + 1 }
    else { c with rest := xs, left := c.left - 1, index := c.index + 1, column := c.column + 1 }

/-- Passes `n` characters. -/
def advance : Nat → Cursor → Cursor
  | 0, c => c
  | n + 1, c => advance n c.next

/-- The characters of a class at the cursor, and the cursor after them. -/
def takeWhile (p : Char → Bool) (c : Cursor) : List Char × Cursor :=
  let cs := c.rest.takeWhile p
  (cs, c.advance cs.length)

/-- The cursor after the characters of a class. -/
def skipWhile (p : Char → Bool) (c : Cursor) : Cursor := (c.takeWhile p).2

/-- A limit for loops over the rest of the text. -/
def limit (c : Cursor) : Nat := c.left + 1

theorem isCounted_ofText (cs : List Char) : IsCounted (ofText cs) := rfl

theorem IsCounted.next {c : Cursor} (h : c.IsCounted) : c.next.IsCounted := by
  unfold Cursor.next
  split
  · exact h
  · rename_i x xs hx
    unfold IsCounted at h ⊢
    have : c.left - 1 = xs.length := by rw [h, hx]; rfl
    split
    · exact this
    · split <;> exact this

theorem IsCounted.advance {c : Cursor} (h : c.IsCounted) (n : Nat) : (c.advance n).IsCounted := by
  induction n generalizing c with
  | zero => exact h
  | succ n ih => exact ih h.next

/-- The limit of a counted cursor is larger than the number of characters left. -/
theorem IsCounted.length_lt_limit {c : Cursor} (h : c.IsCounted) : c.rest.length < c.limit := by
  unfold limit IsCounted at *
  omega

/-- The line break at the cursor, if there is one, and the cursor after it.  Line feed, carriage
return and next line are all read as a line feed; the two separators of Unicode stay as they are. -/
def lineBreak? (c : Cursor) : Option (Char × Cursor) :=
  match c.rest with
  | '\r' :: '\n' :: _ => some ('\n', c.next.next)
  | x :: _ =>
    if x == '\n' || x == '\r' || x == '\u0085' then some ('\n', c.next)
    else if isBreak x then some (x, c.next)
    else none
  | [] => none

end Cursor

/-- An action on a cursor. -/
abbrev Scan := StateT Cursor (Except Fault)

namespace Scan

/-- The text is no YAML document. -/
def fail {α : Type} : Scan α := throw .malformed

/-- Fails unless the rest of the text passes a test. -/
def require (test : List Char → Bool) : Scan Unit := do
  unless test (← get).rest do fail

/-- Passes the characters of a class. -/
def takeWhile (p : Char → Bool) : Scan (List Char) := do
  let (cs, c) := (← get).takeWhile p
  set c
  return cs

/-- Passes one character. -/
def next : Scan Unit := modify Cursor.next

/-- Passes spaces. -/
def spaces : Scan Unit := modify (Cursor.skipWhile (· == ' '))

/-- Passes a line break, if there is one. -/
def lineBreak? : Scan (Option Char) := do
  match (← get).lineBreak? with
  | some (x, c) =>
    set c
    return some x
  | none => return none

/-- Passes spaces, a comment if there is one, and the end of the line. -/
def restOfLine : Scan Unit := do
  spaces
  if (← get).rest.head? == some '#' then
    modify (Cursor.skipWhile (fun x => !isBreak x))
  require atBreak
  discard lineBreak?

end Scan

end ApiDocs.Yaml
