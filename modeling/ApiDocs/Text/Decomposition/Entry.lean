/-!
# Entries of a decomposition table

An entry says how the code points from `first` to `last` are taken apart completely.  Where an
entry holds several code points, each goes to one, at the same distance as in the entry.
-/

namespace ApiDocs.Text.Decomposition

/-- The code points from `first` to `last`: `first` decomposes into `image`, and each further one
into a single code point at the same distance from the head of `image`. -/
structure Entry where
  first : Nat
  last : Nat
  image : List Nat
  deriving Repr, DecidableEq

/-- The decomposition of `n` by this entry, if the entry holds `n`. -/
def Entry.image? (e : Entry) (n : Nat) : Option (List Nat) :=
  if e.first ≤ n ∧ n ≤ e.last then
    match e.image with
    | [] => some []
    | head :: tail => some ((n - e.first + head) :: tail)
  else none

/-- The decomposition of `n` in the first part that reaches `n`. -/
def lookUp (parts : List (Nat × List Entry)) (n : Nat) : Option (List Nat) :=
  match parts.find? (fun part => n ≤ part.1) with
  | some (_, entries) => entries.findSome? (fun e => e.image? n)
  | none => none

end ApiDocs.Text.Decomposition
