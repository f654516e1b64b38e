/-!
# Lists of entries under keys

A list of pairs in which a key is bound once, in the order in which the keys were first bound.
Which keys are the same is a parameter, since not every kind of key is compared for equality of
all its parts.

**Binding again keeps the place:** `put` replaces the value where the key already stands and
appends the entry otherwise, so the keys of `put same k v es` are those of `es`, followed by `k` if
it is new (`keys_put`).  So it is with `alter`, which makes the new value of the old one.
-/

namespace ApiDocs.Keyed

variable {κ β : Type}

/-! ## 1. Reading and writing one entry -/

/-- The value bound to `k`. -/
def find? (same : κ → κ → Bool) (k : κ) : List (κ × β) → Option β
  | [] => none
  | (k', v) :: es => if same k' k then some v else find? same k es

/-- Binds `k` to `v`. -/
def put (same : κ → κ → Bool) (k : κ) (v : β) : List (κ × β) → List (κ × β)
  | [] => [(k, v)]
  | (k', v') :: es => if same k' k then (k', v) :: es else (k', v') :: put same k v es

/-- Binds `k` to what `f` makes of the value bound to it, or of nothing if the key is new. -/
def alter (same : κ → κ → Bool) (k : κ) (f : Option β → β) : List (κ × β) → List (κ × β)
  | [] => [(k, f none)]
  | (k', v) :: es => if same k' k then (k', f (some v)) :: es else (k', v) :: alter same k f es

/-- The entries of `es` bound one after another. -/
def ofList (same : κ → κ → Bool) (es : List (κ × β)) : List (κ × β) :=
  es.foldl (fun acc e => put same e.1 e.2 acc) []

/-! ## 2. What binding does -/

theorem keys_put (same : κ → κ → Bool) (k : κ) (v : β) (es : List (κ × β)) :
    (put same k v es).map Prod.fst =
      if es.any (fun e => same e.1 k) then es.map Prod.fst else es.map Prod.fst ++ [k] := by
  induction es with
  | nil => rfl
  | cons e es ih =>
    by_cases h : same e.1 k = true
    · simp [put, h]
    · simp only [put, h, Bool.false_eq_true, if_false, List.map_cons, ih, List.any_cons,
        Bool.false_or]
      split <;> simp_all

theorem find?_put_self {same : κ → κ → Bool} (refl : ∀ k, same k k = true) (k : κ) (v : β)
    (es : List (κ × β)) : find? same k (put same k v es) = some v := by
  induction es with
  | nil => simp [put, find?, refl]
  | cons e es ih =>
    by_cases h : same e.1 k = true
    · simp [put, find?, h]
    · simp [put, find?, h, ih]

end ApiDocs.Keyed
