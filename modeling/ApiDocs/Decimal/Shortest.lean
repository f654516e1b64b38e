import ApiDocs.Decimal.Binary64

/-!
# The shortest decimal text of a number

Of the decimals that round to a given binary number, `shortest` takes one with the fewest digits,
and among those the nearest; an exact tie goes to the even last digit.  On a decimal grid it is
enough to look at the two neighbours of the number: if any point of the grid lies in the interval of
reals that round to the number, one of the two does.

`Style` holds the decisions that formats make differently: when to use an exponent and how to
spell it.
-/

namespace ApiDocs.Decimal

/-! ## 1. The digits -/

/-- The exponent of the first decimal digit of `num / den`, a positive fraction. -/
def leadingExponent (num den : Nat) : Int :=
  if den ≤ num then ((Text.decimal (num / den)).length : Int) - 1
  else -((Text.decimal ((den + num - 1) / num - 1)).length : Int)

/-- Compares `a * 10 ^ p` with `b * 2 ^ q`. -/
def comparePowers (a : Nat) (p : Int) (b : Nat) (q : Int) : Ordering :=
  compare (a * Nat.pow 10 p.toNat * Nat.pow 2 (-q).toNat)
    (b * Nat.pow 2 q.toNat * Nat.pow 10 (-p).toNat)

/-- Whether `d * 10 ^ p` rounds to the number `m * 2 ^ e`: it lies between the midpoints to the two
neighbours, and the midpoints themselves belong to the number with the even mantissa. -/
def roundsTo (d : Nat) (p : Int) (m : Nat) (e : Int) : Bool :=
  let below := if m = Nat.pow 2 52 ∧ -1074 < e then 4 * m - 1 else 4 * m - 2
  match comparePowers d p below (e - 2), comparePowers d p (4 * m + 2) (e - 2) with
  | .gt, .lt => true
  | .eq, _ => m % 2 == 0
  | _, .eq => m % 2 == 0
  | _, _ => false

/-- The better of the two neighbours of `m * 2 ^ e` on the grid of `10 ^ p`, if one of them rounds
to it. -/
def onGrid (p : Int) (m : Nat) (e : Int) : Option (Nat × Int) :=
  let (num, den) := Binary64.ratio m e
  let d := if p < 0 then num * Nat.pow 10 (-p).toNat / den else num / (den * Nat.pow 10 p.toNat)
  match roundsTo d p m e, roundsTo (d + 1) p m e with
  | false, false => none
  | true, false => some (d, p)
  | false, true => some (d + 1, p)
  | true, true =>
    match comparePowers (2 * d + 1) p (2 * m) e with
    | .lt => some (d + 1, p)
    | .gt => some (d, p)
    | .eq => some (if d % 2 = 0 then d else d + 1, p)

/-- Digits and exponent of the shortest decimal that rounds to `m * 2 ^ e`, for a positive `m`.
Seventeen digits are always enough. -/
def shortest (m : Nat) (e : Int) : Nat × Int :=
  let (num, den) := Binary64.ratio m e
  let lead := leadingExponent num den
  ((List.range 17).findSome? (fun (k : Nat) => onGrid (lead - k) m e)).getD (0, 0)

/-! ## 2. The text -/

/-- The decisions of a format about the text of a number. -/
structure Style where
  /-- The least exponent of the first digit that is written without an exponent. -/
  leastPositional : Int := -4
  /-- The first exponent that is too large to be written without one. -/
  positionalLimit : Int := 16
  /-- Whether a single digit before an exponent is followed by `.0`. -/
  pointBeforeExponent : Bool := false
  /-- The text of the numbers that are not finite. -/
  nan : String := "nan"
  infinity : String := "inf"

/-- The digits `ds`, the first of which stands for `10 ^ lead`, in the style's notation. -/
def Style.layOut (st : Style) (ds : List Char) (lead : Int) : List Char :=
  if st.leastPositional ≤ lead ∧ lead < st.positionalLimit then
    if lead < 0 then
      '0' :: '.' :: List.replicate (-lead - 1).toNat '0' ++ ds
    else
      let width := lead.toNat + 1
      let whole := ds.take width ++ List.replicate (width - ds.length) '0'
      let fraction := ds.drop width
      whole ++ '.' :: (if fraction.isEmpty then ['0'] else fraction)
  else
    let fraction := ds.drop 1
    let point :=
      if !fraction.isEmpty then '.' :: fraction
      else if st.pointBeforeExponent then ['.', '0'] else []
    ds.take 1 ++ point ++ 'e' :: (if lead < 0 then '-' else '+') :: Text.zeroPadded 2 lead.natAbs

/-- The shortest text of a number in a style. -/
def Style.text (st : Style) : Binary64 → List Char
  | .nan => st.nan.toList
  | .infinity negative => (if negative then ['-'] else []) ++ st.infinity.toList
  | .finite negative m e =>
    (if negative then ['-'] else []) ++
      if m = 0 then ['0', '.', '0']
      else
        let (d, p) := shortest m e
        let all := Text.decimal d
        let ds := (all.reverse.dropWhile (· == '0')).reverse
        st.layOut ds (p + all.length - 1)

end ApiDocs.Decimal
