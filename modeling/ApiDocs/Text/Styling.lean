import ApiDocs.Text.Basic

/-!
# Styled text

A terminal takes some sequences in a text as commands, such as `ESC [ 3 1 m` for red letters.  Where
a text is printed that is not the program's own, they are left out (`withoutStyling`).
-/

namespace ApiDocs.Text

/-- Whether the character can stand between the start of a sequence and the letter that ends it. -/
def isStyleParameter (c : Char) : Bool := c.isDigit || c == ';' || c == '?'

/-- The number of code points of the sequence that a text starts with; 0 if there is none. -/
def styleLength (t : Text) : Nat :=
  match t with
  | .char '\x1b' :: .char '[' :: rest =>
    let parameters := rest.takeWhile (CodePoint.isIn isStyleParameter)
    match rest.drop parameters.length with
    | p :: _ => if p.isIn Char.isAlpha then parameters.length + 3 else 0
    | [] => 0
  | _ => 0

/-- The text without sequences, after `skipped` code points that belong to one. -/
def withoutStylingFrom : (skipped : Nat) → Text → Text
  | _, [] => []
  | skipped + 1, _ :: t => withoutStylingFrom skipped t
  | 0, p :: t =>
    match styleLength (p :: t) with
    | 0 => p :: withoutStylingFrom 0 t
    | n + 1 => withoutStylingFrom n t

/-- The text without the sequences that a terminal takes as commands. -/
def withoutStyling (t : Text) : Text := withoutStylingFrom 0 t

end ApiDocs.Text
