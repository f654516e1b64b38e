import ApiDocs.Value.Basic

/-!
# The order of a set

The items of a set have no order of their own.  Numbers are written in the order in which they lie
in a table that has more than twice as many places as there are items: a number lies at its residue,
or, where that place is taken, at the first free one of a sequence that starts there (`freePlace`).
Numbers that are equal have one residue (`residue?`), so truth values, integers and fractions can be
mixed.  A set with other items keeps the order in which it was given.
-/

namespace ApiDocs.Value

/-- The prime number for residues. -/
def modulus : Nat := Nat.pow 2 61 - 1

/-- The residue of a number with a sign.  There is no residue -1; such a number has the residue -2.
-/
def signedResidue (negative : Bool) (n : Nat) : Int :=
  let r : Int := if negative then -(n % modulus : Nat) else (n % modulus : Nat)
  if r = -1 then -2 else r

/-- The residue of a number.  A fraction is divided by its power of two, which has order 61. -/
def residue? : Value → Option Int
  | .bool b => some (if b then 1 else 0)
  | .int i => some (signedResidue (i < 0) i.natAbs)
  | .float (.finite negative m e) _ =>
    some (signedResidue negative (m * Nat.pow 2 (e % 61).toNat))
  | .float (.infinity negative) _ => some (signedResidue negative 314159)
  | _ => none

/-- A table for the items of a set. -/
abbrev Table := Array (Option Value)

/-- The number of places for a number of items: a power of two. -/
def tableSize (count : Nat) : Nat := if count < 5 then 8 else Nat.pow 2 ((2 * count).log2 + 1)

/-- The free place of an item.  From a place, nine more in a row are tried, unless the table ends
before that; then the next place follows from this one and from what is left of the residue. -/
def freePlace (table : Table) : (limit place residue : Nat) → Nat
  | 0, place, _ => place
  | limit + 1, place, residue =>
    let row := if place + 9 < table.size then 10 else 1
    match (List.range row).find? (fun i => (table.getD (place + i) none).isNone) with
    | some i => place + i
    | none =>
      let residue := residue / 32
      freePlace table limit ((place * 5 + 1 + residue) % table.size) residue

/-- The table with an item.  After 13 places nothing is left of a residue, and from then on every
place of the table is tried. -/
def put (table : Table) (residue : Int) (item : Value) : Table :=
  let residue := (residue % (Nat.pow 2 64 : Nat)).toNat
  let place := freePlace table (table.size + 13) (residue % table.size) residue
  table.setIfInBounds place (some item)

/-- The items of a set in the order in which they are written. -/
def inSetOrder (items : List Value) : List Value :=
  match items.mapM residue? with
  | none => items
  | some residues =>
    let empty : Table := Array.replicate (tableSize items.length) none
    let table := (residues.zip items).foldl (fun table p => put table p.1 p.2) empty
    table.toList.filterMap id

end ApiDocs.Value
