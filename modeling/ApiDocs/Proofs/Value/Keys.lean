import ApiDocs.Proofs.Decimal.Normal
import ApiDocs.Proofs.Text.Strings
import ApiDocs.Value.Basic

/-!
# Keys of mappings

A key stands for a quantity (`Value.quantity?`), and two keys are the same if they stand for one
quantity (`Value.sameKey_iff`): integers, truth values and numbers for their amount, times for their
instant, everything else for itself.  So what is the same key is an equivalence.

This takes numbers in their normal form, with an origin only if they are not a number
(`Value.isExact`), as all scalars of a document are: an amount that is written in two ways would be
two numbers, and yet the same key as one integer.
-/

namespace ApiDocs.Value

variable {v w : Value}

/-! ## 1. Texts as keys -/

/-- Only a text is the same key as a text. -/
theorem sameKey_str_iff {s : Text} : v.sameKey (.str s) = true ↔ v = .str s := by
  cases v <;> simp [sameKey, integer?]

theorem sameKey_name_iff {name other : String} :
    (Value.str name).sameKey (.str other) = true ↔ other = name := by
  rw [sameKey_str, beq_iff_eq, Text.ofString_injective.eq_iff, eq_comm]

/-- Putting a value under a text key changes what is found under that key only. -/
theorem lookup?_put (name other : String) (v : Value) (es : Entries) :
    lookup? other (Keyed.put sameKey (.str name) v es)
      = if other = name then some v else lookup? other es := by
  induction es with
  | nil =>
    show (if (Value.str name).sameKey (.str other) = true then some v else none) = _
    simp only [sameKey_name_iff, lookup?]
  | cons e es ih =>
    obtain ⟨k, w⟩ := e
    unfold Keyed.put
    by_cases hk : k.sameKey (.str name) = true
    · obtain rfl := sameKey_str_iff.mp hk
      rw [if_pos hk]
      simp only [lookup?, sameKey_name_iff]
      split <;> rfl
    · rw [if_neg hk]
      simp only [lookup?, ih]
      by_cases hother : other = name
      · subst hother
        rw [if_neg hk, if_pos rfl, if_pos rfl]
      · rw [if_neg hother, if_neg hother]

theorem lookup_put_self (name : String) (v : Value) (es : Entries) :
    lookup name (Keyed.put sameKey (.str name) v es) = v := by
  unfold lookup
  rw [lookup?_put, if_pos rfl, Option.getD_some]

theorem lookup_put_ne {name other : String} (h : other ≠ name) (v : Value) (es : Entries) :
    lookup other (Keyed.put sameKey (.str name) v es) = lookup other es := by
  unfold lookup
  rw [lookup?_put, if_neg h]

theorem lookup_append_cons_ne {name : String} {e : Value × Value} (h : e.1 ≠ .str name)
    {before after : Entries} :
    lookup name (before ++ e :: after) = lookup name (before ++ after) := by
  have hkey : ¬ e.1.sameKey (.str name) = true := mt sameKey_str_iff.mp h
  unfold lookup
  congr 1
  induction before with
  | nil =>
    show (if e.1.sameKey (.str name) = true then some e.2 else lookup? name after) = _
    rw [if_neg hkey]
    rfl
  | cons m before ih => simp only [List.cons_append, lookup?, ih]

theorem lookup_append_cons_self {name : String} {v : Value} {before after : Entries}
    (h : ∀ e ∈ before, e.1 ≠ .str name) : lookup name (before ++ (.str name, v) :: after) = v := by
  induction before with
  | nil =>
    unfold lookup
    rw [List.nil_append, lookup?, if_pos (sameKey_str_iff.mpr rfl), Option.getD_some]
  | cons e before ih =>
    have hkey : ¬ e.1.sameKey (.str name) = true :=
      mt sameKey_str_iff.mp (h e List.mem_cons_self)
    refine Eq.trans ?_ (ih fun m hm => h m (List.mem_cons_of_mem e hm))
    unfold lookup
    rw [List.cons_append, lookup?, if_neg hkey]

/-- What has no entry under a text key has null there, and no key that is the text. -/
theorem hasKey_eq_false {name : String} {es : Entries} (h : hasKey name es = false) :
    lookup name es = .null ∧ ∀ e ∈ es, e.1 ≠ .str name := by
  have hnone : lookup? name es = none :=
    Option.isNone_iff_eq_none.mp (Option.isSome_eq_false_iff.mp h)
  refine ⟨by rw [lookup, hnone]; rfl, ?_⟩
  clear h
  induction es with
  | nil => exact fun _ he => absurd he List.not_mem_nil
  | cons e es ih =>
    unfold lookup? at hnone
    split at hnone
    · cases hnone
    · next hkey =>
      exact List.forall_mem_cons.mpr ⟨mt Value.sameKey_str_iff.mpr hkey, ih hnone⟩

/-! ## 2. Quantities -/

/-- What a key stands for. -/
inductive Quantity where
  | null
  | integer (i : Int)
  /-- A number that equals no integer. -/
  | number (x : Decimal.Binary64) (origin : Nat)
  | text (s : Text)
  | bytes (bs : List UInt8)
  | date (d : Date)
  /-- A time, in universal time or on a clock with no offset. -/
  | instant (universal : Bool) (microseconds : Int)
  | pair (first second : Quantity)

/-- What a number stands for: the integer that it equals, if there is one, and else itself. -/
def Quantity.ofNumber (x : Decimal.Binary64) (origin : Nat) : Quantity :=
  match x.toInt? with
  | some i => .integer i
  | none => .number x origin

/-- What a value that can be a key stands for. -/
def quantity : Value → Quantity
  | .bool b => .integer (if b then 1 else 0)
  | .int i => .integer i
  | .float x origin => .ofNumber x origin
  | .str s => .text s
  | .bytes bs => .bytes bs
  | .date d => .date d
  | .datetime t => .instant t.offset.isSome t.instant
  | .pair a b => .pair a.quantity b.quantity
  | _ => .null

/-- The numbers in a key are in the normal form, and have no origin if they are numbers. -/
def isExact : Value → Bool
  | .float x origin => x.isNormal && (x == .nan || origin == 0)
  | .pair a b => a.isExact && b.isExact
  | _ => true

theorem Quantity.ofNumber_eq {x : Decimal.Binary64} {origin : Nat} {q : Quantity} :
    Quantity.ofNumber x origin = q ↔
      (∃ i, x.isInt i = true ∧ q = .integer i) ∨ x.toInt? = none ∧ q = .number x origin := by
  simp only [Quantity.ofNumber, Decimal.Binary64.isInt_iff]
  cases x.toInt? with
  | none => simp [eq_comm]
  | some i => simp [eq_comm]

theorem sameKey_float {x y : Decimal.Binary64} {origin origin' : Nat}
    (hx : (Value.float x origin).isExact = true) (hy : (Value.float y origin').isExact = true) :
    (Value.float x origin).sameKey (.float y origin') = true ↔
      Quantity.ofNumber x origin = .ofNumber y origin' := by
  have hexact : ∀ {z : Decimal.Binary64} {o : Nat}, (Value.float z o).isExact = true →
      z.isNormal = true ∧ ∀ i, z.toInt? = some i → o = 0 := by
    intro z o h
    obtain ⟨hnormal, horigin⟩ : z.isNormal = true ∧ (z = .nan ∨ o = 0) := by
      simpa [isExact] using h
    refine ⟨hnormal, fun i hi => horigin.resolve_left ?_⟩
    rintro rfl
    cases hi
  obtain ⟨hxnormal, hxorigin⟩ := hexact hx
  obtain ⟨hynormal, hyorigin⟩ := hexact hy
  have hsame : (Value.float x origin).sameKey (.float y origin') = true ↔
      x.same y = true ∧ origin = origin' := by
    simp [sameKey]
  rw [hsame]
  unfold Quantity.ofNumber
  constructor
  · rintro ⟨h, rfl⟩
    rcases Decimal.Binary64.same_cases h with rfl | ⟨hx0, hy0⟩
    · rfl
    · rw [hx0, hy0]
  · intro h
    cases hxi : x.toInt? with
    | none =>
      cases hyi : y.toInt? with
      | none =>
        rw [hxi, hyi] at h
        cases h
        exact ⟨Decimal.Binary64.same_self x, rfl⟩
      | some j =>
        rw [hxi, hyi] at h
        cases h
    | some i =>
      cases hyi : y.toInt? with
      | none =>
        rw [hxi, hyi] at h
        cases h
      | some j =>
        rw [hxi, hyi] at h
        cases h
        rw [hxorigin i hxi, hyorigin i hyi]
        exact ⟨Decimal.Binary64.same_of_isInt hxnormal hynormal
          (Decimal.Binary64.isInt_iff.mpr hxi) (Decimal.Binary64.isInt_iff.mpr hyi), rfl⟩

/-- **Keys are the same if they stand for one quantity.** -/
theorem sameKey_iff {v w : Value} (hv : v.isHashable = true) (hw : w.isHashable = true)
    (hv' : v.isExact = true) (hw' : w.isExact = true) :
    v.sameKey w = true ↔ v.quantity = w.quantity := by
  cases v <;> cases w
  case float.float => exact sameKey_float hv' hw'
  case datetime.datetime t u => simp [sameKey, quantity, DateTime.same]
  case pair.pair a b c d =>
    obtain ⟨ha, hb⟩ : a.isHashable = true ∧ b.isHashable = true := by simpa [isHashable] using hv
    obtain ⟨hc, hd⟩ : c.isHashable = true ∧ d.isHashable = true := by simpa [isHashable] using hw
    obtain ⟨ha', hb'⟩ : a.isExact = true ∧ b.isExact = true := by simpa [isExact] using hv'
    obtain ⟨hc', hd'⟩ : c.isExact = true ∧ d.isExact = true := by simpa [isExact] using hw'
    simp only [sameKey, quantity, Bool.and_eq_true, Quantity.pair.injEq,
      sameKey_iff ha hc ha' hc', sameKey_iff hb hd hb' hd']
  -- keys of two kinds, and those kinds that are compared as they stand
  all_goals simp [sameKey, quantity, integer?, Quantity.ofNumber_eq, isHashable,
    @eq_comm _ _ (Quantity.ofNumber _ _)] at hv hw ⊢
termination_by sizeOf v

end ApiDocs.Value
