/-!
# Texts

A text is a list of code points.  Nearly always these are characters, and then the text is the same
as a `String`.  The exception is one half of a surrogate pair on its own.  The escapes of YAML and
JSON can name one, and it goes through everything that is done with texts; but it has no form in
UTF-8, so a text with a half can be neither stored nor printed (`toString?`).

Strings are texts (`ofString`), and `toString?` is the way back (`toString?_ofString`).
-/

namespace ApiDocs

/-- A code point of Unicode. -/
inductive CodePoint where
  | char (c : Char)
  /-- The half of a surrogate pair with the number `0xD800 + n`. -/
  | half (n : Fin 2048)
  deriving Repr, DecidableEq, Inhabited

namespace CodePoint

/-! ## 1. Code points -/

/-- The number of a code point. -/
def toNat : CodePoint → Nat
  | .char c => c.toNat
  | .half n => 0xD800 + n.val

/-- The code point of a number below `0x110000`. -/
def ofNat (n : Nat) : CodePoint :=
  if h : 0xD800 ≤ n ∧ n < 0xE000 then .half ⟨n - 0xD800, by omega⟩ else .char (Char.ofNat n)

/-- Whether the code point is a character of a class.  A half belongs to no class. -/
def isIn (p : Char → Bool) : CodePoint → Bool
  | .char c => p c
  | .half _ => false

/-- The character, unless the code point is a half. -/
def char? : CodePoint → Option Char
  | .char c => some c
  | .half _ => none

/-- The character, or the replacement character for a half. -/
def toChar (p : CodePoint) : Char := p.char?.getD '\uFFFD'

instance : Coe Char CodePoint := ⟨.char⟩

@[simp] theorem isIn_char (p : Char → Bool) (c : Char) : isIn p (.char c) = p c := rfl

@[simp] theorem char?_char (c : Char) : char? (.char c) = some c := rfl

end CodePoint

/-- A text. -/
abbrev Text := List CodePoint

namespace Text

/-! ## 2. Texts and strings -/

/-- The text of characters. -/
def ofChars (cs : List Char) : Text := cs.map .char

/-- The text of a string. -/
def ofString (s : String) : Text := ofChars s.toList

instance : Coe String Text := ⟨ofString⟩

/-- The characters of a text without halves. -/
def chars? (t : Text) : Option (List Char) := t.mapM CodePoint.char?

/-- The string of a text without halves. -/
def toString? (t : Text) : Option String := (chars? t).map String.ofList

/-- The characters of a text, with the replacement character for every half. -/
def toChars (t : Text) : List Char := t.map CodePoint.toChar

@[simp] theorem ofChars_nil : ofChars [] = [] := rfl

@[simp] theorem ofChars_cons (c : Char) (cs : List Char) :
    ofChars (c :: cs) = .char c :: ofChars cs := rfl

@[simp] theorem ofChars_append (as bs : List Char) :
    ofChars (as ++ bs) = ofChars as ++ ofChars bs := by
  simp [ofChars]

@[simp] theorem chars?_ofChars (cs : List Char) : chars? (ofChars cs) = some cs := by
  unfold chars?
  induction cs with
  | nil => rfl
  | cons c cs ih => simp [List.mapM_cons, ih]

@[simp] theorem toString?_ofString (s : String) : toString? (ofString s) = some s := by
  simp [toString?, ofString]

/-- Whether the first of two texts comes first or is the second: they are compared number by
number. -/
def notAfter : Text → Text → Bool
  | [], _ => true
  | _ :: _, [] => false
  | p :: t, q :: u => p.toNat < q.toNat || (p.toNat == q.toNat && notAfter t u)

/-- Texts one after another with a text between two. -/
def joinWith (separator : Text) (parts : List Text) : Text := List.intercalate separator parts

/-! ## 3. Replacing -/

/-- Every character of a text replaced by characters; halves stay. -/
def replaceEach (f : Char → List Char) (t : Text) : Text :=
  t.flatMap fun p => match p with
    | .char c => ofChars (f c)
    | .half n => [.half n]

@[simp] theorem replaceEach_ofChars (f : Char → List Char) (cs : List Char) :
    replaceEach f (ofChars cs) = ofChars (cs.flatMap f) := by
  unfold replaceEach
  induction cs with
  | nil => rfl
  | cons c cs ih => simp [ih]

end Text

end ApiDocs
