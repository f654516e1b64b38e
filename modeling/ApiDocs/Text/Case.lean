import ApiDocs.Text.Basic
import ApiDocs.Text.Case.Table

/-!
# Upper and lower case of a text

`upper` and `lower` are the full case mappings of Unicode 14: a character may become several, and
a capital sigma at the end of a word becomes the final form of the small letter.  On ASCII text
they agree with the mappings of `Char` (`upperChar_ascii`, `lowerChar_ascii`).  Halves of surrogate
pairs have no case and stay as they are.
-/

namespace ApiDocs.Text

namespace Case

/-! ## 1. Looking a character up -/

/-- The image of `n` under a run, if the run holds `n`. -/
def Run.image? (r : Run) (n : Nat) : Option Nat :=
  if r.first ≤ n ∧ n ≤ r.last ∧ (n - r.first) % r.step = 0 then some (n - r.first + r.image)
  else none

/-- The code points that `n` goes to: those of `expansions`, else the one of `runs`, else itself. -/
def imageOf (expansions : List (Nat × List Nat)) (runs : List Run) (n : Nat) : List Nat :=
  match expansions.lookup n with
  | some image => image
  | none => match runs.findSome? (fun r => r.image? n) with
    | some m => [m]
    | none => [n]

/-- Whether `n` lies in one of the closed ranges. -/
def inRanges (ranges : List (Nat × Nat)) (n : Nat) : Bool :=
  ranges.any (fun r => r.1 ≤ n && n ≤ r.2)

/-- A character that the search for a letter with case passes over. -/
def isIgnorable (c : Char) : Bool := inRanges ignorableRanges c.toNat

/-- A letter with case. -/
def isCased (c : Char) : Bool := inRanges casedRanges c.toNat

end Case

open Case

/-- The upper case of one character. -/
def upperChar (c : Char) : List Char :=
  if c.toNat < 128 then [c.toUpper]
  else (imageOf upperExpansions upperRuns c.toNat).map Char.ofNat

/-- The lower case of one character away from its context. -/
def lowerChar (c : Char) : List Char :=
  if c.toNat < 128 then [c.toLower]
  else (imageOf lowerExpansions lowerRuns c.toNat).map Char.ofNat

/-! ## 2. Texts -/

/-- A capital sigma between `before`, read backwards, and `after` ends a word: a letter with case
comes before it and none after it, ignorable characters aside. -/
def endsWord (before after : Text) : Bool :=
  let nearestIsCased (t : Text) : Bool :=
    match t.dropWhile (CodePoint.isIn isIgnorable) with
    | [] => false
    | p :: _ => p.isIn isCased
  nearestIsCased before && !nearestIsCased after

/-- Lower case of a text that stands after `before`, read backwards. -/
def lowerFrom (before : Text) : Text → Text
  | [] => []
  | .half n :: t => .half n :: lowerFrom (.half n :: before) t
  | .char c :: t =>
    ofChars (if c = 'Σ' then [if endsWord before t then 'ς' else 'σ'] else lowerChar c)
      ++ lowerFrom (.char c :: before) t

/-- The text in upper case. -/
def upper (t : Text) : Text := replaceEach upperChar t

/-- The text in lower case. -/
def lower (t : Text) : Text := lowerFrom [] t

/-! ## 3. ASCII -/

theorem upperChar_ascii {c : Char} (h : c.toNat < 128) : upperChar c = [c.toUpper] := by
  simp [upperChar, h]

theorem lowerChar_ascii {c : Char} (h : c.toNat < 128) : lowerChar c = [c.toLower] := by
  simp [lowerChar, h]

end ApiDocs.Text
