import ApiDocs.Text.Basic

/-!
# White space and lines

Two character classes and what is cut along them.

* `isBlank` is the white space of Unicode, with the four separators U+001C to U+001F: the class
  that trimming and splitting into fields use;
* `isLineEnd` is the smaller class of characters that end a line, and each of them is blank
  (`isBlank_of_isLineEnd`), so a trimmed text starts with a character of its first line.

Cutting is the same for characters and for code points, so it is written for lists.  A half of a
surrogate pair is neither blank nor a line end.
-/

namespace ApiDocs.Text

/-! ## 1. The two classes -/

/-- White space: what trimming removes and what separates two fields. -/
def isBlank (c : Char) : Bool :=
  let n := c.toNat
  (9 ≤ n && n ≤ 13) || (0x1C ≤ n && n ≤ 0x20) || n == 0x85 || n == 0xA0 || n == 0x1680
    || (0x2000 ≤ n && n ≤ 0x200A) || n == 0x2028 || n == 0x2029 || n == 0x202F || n == 0x205F
    || n == 0x3000

/-- The characters that end a line of text. -/
def isLineEnd (c : Char) : Bool :=
  let n := c.toNat
  (10 ≤ n && n ≤ 13) || (0x1C ≤ n && n ≤ 0x1E) || n == 0x85 || n == 0x2028 || n == 0x2029

theorem isBlank_of_isLineEnd {c : Char} (h : isLineEnd c = true) : isBlank c = true := by
  simp only [isLineEnd, isBlank, Bool.or_eq_true, Bool.and_eq_true, decide_eq_true_eq,
    beq_iff_eq] at h ⊢
  omega

/-! ## 2. Trimming -/

variable {α : Type}

/-- What stands between the first and the last member outside `p`. -/
def trim (p : α → Bool) (xs : List α) : List α := ((xs.dropWhile p).reverse.dropWhile p).reverse

@[simp] theorem trim_nil (p : α → Bool) : trim p [] = [] := rfl

/-- `t` without the white space at its two ends. -/
def strip (t : Text) : Text := trim (CodePoint.isIn isBlank) t

/-- `t` without the slashes at its two ends. -/
def stripSlashes (t : Text) : Text := trim (CodePoint.isIn (· == '/')) t

/-! ## 3. Splitting -/

/-- The stretches of a list between the members of `p`: one more than there are such members, so
some may be empty. -/
def splitAt (p : α → Bool) : List α → List (List α)
  | [] => [[]]
  | x :: xs =>
    if p x then [] :: splitAt p xs
    else match splitAt p xs with
      | [] => [[x]]
      | piece :: pieces => (x :: piece) :: pieces

/-- The stretches of a list outside `p` that are not empty. -/
def pieces (p : α → Bool) (xs : List α) : List (List α) :=
  (splitAt p xs).filter (fun piece => !piece.isEmpty)

/-- The words of `t` as white space separates them. -/
def fields (t : Text) : List Text := pieces (CodePoint.isIn isBlank) t

/-- `t` on one line: its fields with one space between two. -/
def squeeze (t : Text) : Text := joinWith " " (fields t)

/-- The first line of `t` that holds something other than white space, from there on and without
the white space at the end of the text; empty if there is none. -/
def firstLine (t : Text) : Text := (strip t).takeWhile (fun p => !p.isIn isLineEnd)

end ApiDocs.Text
