import ApiDocs.Text.Decomposition.CombiningClass
import ApiDocs.Text.Decomposition.Forms
import ApiDocs.Text.Decomposition.Ideographs
import ApiDocs.Text.Decomposition.Letters
import ApiDocs.Text.Decomposition.Supplementary
import ApiDocs.Text.Decomposition.Symbols

/-!
# Compatibility decomposition

`nfkd` takes every character of a text apart as far as Unicode 14 allows, ligatures, widths and
superscripts included, and sorts the marks after each letter by combining class: normalisation
form KD.  Hangul syllables are taken apart by arithmetic, all others by table.

ASCII characters are their own decomposition (`decompose_ascii`) and have class 0, so they are never
moved.
-/

namespace ApiDocs.Text

namespace Decomposition

/-! ## 1. One character -/

/-- The conjoining letters of a Hangul syllable, the `n`-th of the block. -/
def hangul (n : Nat) : List Nat :=
  let lead := 0x1100 + n / 588
  let vowel := 0x1161 + n % 588 / 28
  if n % 28 = 0 then [lead, vowel] else [lead, vowel, 0x11A7 + n % 28]

/-- The complete compatibility decomposition of a code point. -/
def decompose (n : Nat) : List Nat :=
  if n < 0xA0 then [n]
  else if 0xAC00 ≤ n ∧ n ≤ 0xD7A3 then hangul (n - 0xAC00)
  else
    let parts :=
      if n < 0x2000 then lettersParts
      else if n < 0xF900 then symbolsParts
      else if n < 0xFB00 then ideographsParts
      else if n < 0x10000 then formsParts
      else supplementaryParts
    (lookUp parts n).getD [n]

theorem decompose_ascii {n : Nat} (h : n < 128) : decompose n = [n] := by
  simp [decompose, show n < 0xA0 by omega]

/-! ## 2. The order of marks -/

/-- Puts a code point of non-zero class before the marks of higher class at the head of `rest`;
a code point of class 0 stays where it is. -/
def insertMark (n : Nat) : List Nat → List Nat
  | [] => [n]
  | m :: rest =>
    if combiningClass m ≠ 0 ∧ combiningClass m < combiningClass n then m :: insertMark n rest
    else n :: m :: rest

/-- Sorts every run of marks by combining class; marks of one class keep their order. -/
def reorder : List Nat → List Nat
  | [] => []
  | n :: rest => insertMark n (reorder rest)

end Decomposition

/-! ## 3. Texts -/

/-- Normalisation form KD. -/
def nfkd (cs : List Char) : List Char :=
  (Decomposition.reorder (cs.flatMap (fun c => Decomposition.decompose c.toNat))).map Char.ofNat

end ApiDocs.Text
