import ApiDocs.Calendar
import ApiDocs.Decimal.Binary64
import ApiDocs.Keyed
import ApiDocs.Text.Basic

/-!
# Loaded values

A `Value` is what a document in YAML or JSON denotes: scalars, lists and mappings.  A mapping keeps
the order of its entries, and its keys may be any value that `isHashable`.

**Values that contain themselves.**  An alias in YAML may refer to a collection that it stands in,
so a value can have endless depth.  It is written down with finitely many nodes: `knot label v` is
the collection `v` under a label, and `back label`, which stands inside it, is that collection
again.  `unfold` opens a knot by one level.  Nothing but `unfold` needs to be known to walk through
a value: `items?` and `entries?` show the parts of a list and of a mapping, however they are
written.

**Keys are compared as quantities.**  `sameKey` takes numbers and truth values by amount, so that
`1`, `1.0` and `true` are one key, and times by instant; a text is the same key only as an equal
text (`sameKey_str`).  Two results that are not a number are the same key only if they have one
origin.
-/

namespace ApiDocs

/-- A loaded value.  `set` and `pair` come from the YAML types `set`, `omap` and `pairs`. -/
inductive Value where
  | null
  | bool (b : Bool)
  | int (i : Int)
  /-- A number; `origin` tells those apart that are not a number, and is 0 for all others. -/
  | float (x : Decimal.Binary64) (origin : Nat)
  | str (s : Text)
  | bytes (bs : List UInt8)
  | date (d : Date)
  | datetime (t : DateTime)
  | list (items : List Value)
  | map (entries : List (Value × Value))
  | set (items : List Value)
  | pair (first second : Value)
  /-- A collection that may contain itself, where it is `back label`. -/
  | knot (label : Nat) (content : Value)
  | back (label : Nat)
  deriving Repr, Inhabited

namespace Value

/-! ## 1. Knots -/

mutual

/-- The value with `knot` in place of `back label`.  Labels are not used twice for different
collections, so what stands in a knot of the same label is that collection already. -/
def tie (label : Nat) (knot : Value) : Value → Value
  | .back l => if l = label then knot else .back l
  | .knot l v => if l = label then .knot l v else .knot l (tie label knot v)
  | .list items => .list (tieItems label knot items)
  | .map entries => .map (tieEntries label knot entries)
  | .set items => .set (tieItems label knot items)
  | .pair a b => .pair (tie label knot a) (tie label knot b)
  | .null => .null
  | .bool b => .bool b
  | .int i => .int i
  | .float x origin => .float x origin
  | .str s => .str s
  | .bytes bs => .bytes bs
  | .date d => .date d
  | .datetime t => .datetime t
  termination_by structural v => v

/-- Several values with `knot` in place of `back label`. -/
def tieItems (label : Nat) (knot : Value) : List Value → List Value
  | [] => []
  | v :: vs => tie label knot v :: tieItems label knot vs
  termination_by structural vs => vs

/-- Entries with `knot` in place of `back label`. -/
def tieEntries (label : Nat) (knot : Value) : List (Value × Value) → List (Value × Value)
  | [] => []
  | (k, v) :: es => (tie label knot k, tie label knot v) :: tieEntries label knot es
  termination_by structural es => es

end

/-- The value with its outermost level written out. -/
def unfold : Value → Value
  | .knot label v => tie label (.knot label v) v
  | v => v

/-- The entries of a mapping. -/
abbrev Entries := List (Value × Value)

/-- The items of a list. -/
def items? (v : Value) : Option (List Value) :=
  match v.unfold with
  | .list items => some items
  | _ => none

/-- The entries of a mapping. -/
def entries? (v : Value) : Option Entries :=
  match v.unfold with
  | .map entries => some entries
  | _ => none

@[simp] theorem items?_list (items : List Value) : items? (.list items) = some items := rfl

@[simp] theorem entries?_map (entries : Entries) : entries? (.map entries) = some entries := rfl

@[simp] theorem entries?_str (s : Text) : entries? (.str s) = none := rfl

@[simp] theorem entries?_list (items : List Value) : entries? (.list items) = none := rfl

/-! ## 2. Keys -/

/-- Whether the value can be a key: it holds nothing that could change under the key. -/
def isHashable : Value → Bool
  | .list _ => false
  | .map _ => false
  | .set _ => false
  | .knot _ _ => false
  | .back _ => false
  | .pair a b => a.isHashable && b.isHashable
  | _ => true

/-- The amount of an integer or a truth value. -/
def integer? : Value → Option Int
  | .bool b => some (if b then 1 else 0)
  | .int i => some i
  | _ => none

/-- Whether two values are the same key. -/
def sameKey : Value → Value → Bool
  | .null, .null => true
  | .str a, .str b => a == b
  | .bytes a, .bytes b => a == b
  | .date a, .date b => a == b
  | .datetime a, .datetime b => a.same b
  | .pair a b, .pair c d => sameKey a c && sameKey b d
  | .float x origin, .float y origin' => x.same y && origin == origin'
  | .float x _, v => match v.integer? with
    | some i => x.isInt i
    | none => false
  | v, .float y _ => match v.integer? with
    | some i => y.isInt i
    | none => false
  | v, w => match v.integer?, w.integer? with
    | some i, some j => i == j
    | _, _ => false

@[simp] theorem sameKey_str (a b : Text) : sameKey (.str a) (.str b) = (a == b) := rfl

/-! ## 3. Mappings -/

/-- The value under a text key. -/
def lookup? (name : String) : Entries → Option Value
  | [] => none
  | (k, v) :: es => if sameKey k (.str name) then some v else lookup? name es

/-- Whether there is an entry under a text key. -/
def hasKey (name : String) (es : Entries) : Bool := (lookup? name es).isSome

/-- The value under a text key, and null if there is none. -/
def lookup (name : String) (es : Entries) : Value := (lookup? name es).getD .null

/-! ## 4. Truth -/

/-- Whether the value is null. -/
def isNull : Value → Bool
  | .null => true
  | _ => false

/-- Whether the value counts as true in a condition: null, false, zero and what is empty do not. -/
def isTruthy : Value → Bool
  | .null => false
  | .bool b => b
  | .int i => i != 0
  | .float x _ => x.isNonzero
  | .str s => !s.isEmpty
  | .bytes bs => !bs.isEmpty
  | .date _ => true
  | .datetime _ => true
  | .list items => !items.isEmpty
  | .map entries => !entries.isEmpty
  | .set items => !items.isEmpty
  | .pair _ _ => true
  | .knot _ v => v.isTruthy
  | .back _ => true

end Value

end ApiDocs
