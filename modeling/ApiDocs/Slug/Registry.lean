import ApiDocs.Text.Digits

/-!
# Handing out slugs once

A `Registry` gives every slug that is claimed a form that nobody has: the slug itself, or the slug
with the first suffix `-2`, `-3`, … that is free.  It remembers for each slug the last suffix it
tried, since all smaller ones are taken.
-/

namespace ApiDocs.Slug

/-- The slugs handed out so far, the latest first, and the last suffix tried for each slug that was
claimed. -/
structure Registry where
  taken : List Text := []
  counts : List (Text × Nat) := []
  deriving Repr, Inhabited

/-- The slug with a numbered suffix. -/
def suffixed (slug : Text) (n : Nat) : Text := slug ++ "-" ++ Text.ofNat n

namespace Registry

/-- Whether the slug has been handed out. -/
def has (r : Registry) (slug : Text) : Bool := r.taken.contains slug

/-- The first suffix from `n` on that is free, among the next `steps`. -/
def freeFrom (taken : List Text) (slug : Text) : (steps n : Nat) → Nat
  | 0, n => n
  | steps + 1, n =>
    if taken.contains (suffixed slug n) then freeFrom taken slug steps (n + 1) else n

/-- Hands out the first free form of a slug.  One of the next suffixes is free as soon as they
outnumber the slugs that are taken. -/
def claim (r : Registry) (slug : Text) : Text × Registry :=
  let count := (r.counts.lookup slug).getD 1
  let (result, count) :=
    if r.taken.contains slug then
      let n := freeFrom r.taken slug (r.taken.length + 1) (count + 1)
      (suffixed slug n, n)
    else (slug, count)
  (result, ⟨result :: r.taken, (slug, count) :: r.counts.filter (fun e => e.1 != slug)⟩)

end Registry

end ApiDocs.Slug
