import ApiDocs.Text.Digits

/-!
# Binary floating-point numbers of 64 bits

A number is kept as sign, mantissa and exponent, so that every operation is exact arithmetic on
natural numbers.  `ofRatio` rounds a fraction to the nearest number of the format, a tie to the
even mantissa; sums, products and decimal texts are rounded through it.

The normal form: the mantissa of a finite number has 53 bits, or fewer with the least exponent
`-1074`.  `ofRatio` returns it, and all numbers of this library come from `ofRatio`.
-/

namespace ApiDocs.Decimal

/-- A binary64 number; `finite` stands for `± mantissa * 2 ^ exponent`. -/
inductive Binary64 where
  | nan
  | infinity (negative : Bool)
  | finite (negative : Bool) (mantissa : Nat) (exponent : Int)
  deriving Repr, DecidableEq, Inhabited

/-! ## 1. Rounding -/

/-- The integer nearest to `num / den`; of two, the even one. -/
def roundHalfEven (num den : Nat) : Nat :=
  let q := num / den
  let r := num % den
  if den < 2 * r ∨ (2 * r = den ∧ q % 2 = 1) then q + 1 else q

/-- The fraction `num / den / 2 ^ e`, again as a fraction. -/
def scaleDown (num den : Nat) (e : Int) : Nat × Nat :=
  if e < 0 then (num * Nat.pow 2 (-e).toNat, den) else (num, den * Nat.pow 2 e.toNat)

namespace Binary64

/-- The exponent with which the whole part of `num / den` has 53 bits. -/
def exponentFor (num den : Nat) : Int :=
  let e : Int := (num.log2 : Int) - (den.log2 : Int) - 52
  let (n, d) := scaleDown num den e
  if n < d * Nat.pow 2 52 then e - 1 else e

/-- The number nearest to `± num / den`, for a positive `den`. -/
def ofRatio (negative : Bool) (num den : Nat) : Binary64 :=
  if num = 0 then .finite negative 0 (-1074)
  else
    let e := max (exponentFor num den) (-1074)
    let (n, d) := scaleDown num den e
    let m := roundHalfEven n d
    let (m, e) := if m = Nat.pow 2 53 then (Nat.pow 2 52, e + 1) else (m, e)
    if 971 < e then .infinity negative else .finite negative m e

/-- Positive zero. -/
def zero : Binary64 := .finite false 0 (-1074)

/-- The number nearest to an integer. -/
def ofInt (i : Int) : Binary64 := ofRatio (i < 0) i.natAbs 1

/-- The number nearest to `± digits * 10 ^ exponent`.  Exponents far outside the range of the format
are answered without the power. -/
def ofDecimal (negative : Bool) (digits : Nat) (exponent : Int) : Binary64 :=
  let magnitude : Int := (Text.decimal digits).length + exponent
  if digits = 0 ∨ magnitude < -400 then ofRatio negative 0 1
  else if 400 < magnitude then .infinity negative
  else if exponent < 0 then ofRatio negative digits (Nat.pow 10 (-exponent).toNat)
  else ofRatio negative (digits * Nat.pow 10 exponent.toNat) 1

/-- The number with the other sign. -/
def neg : Binary64 → Binary64
  | .nan => .nan
  | .infinity s => .infinity (!s)
  | .finite s m e => .finite (!s) m e

/-! ## 2. Arithmetic -/

/-- A finite magnitude as a fraction. -/
def ratio (mantissa : Nat) (exponent : Int) : Nat × Nat :=
  if exponent < 0 then (mantissa, Nat.pow 2 (-exponent).toNat)
  else (mantissa * Nat.pow 2 exponent.toNat, 1)

/-- The sum of two numbers, rounded. -/
def add : Binary64 → Binary64 → Binary64
  | .nan, _ => .nan
  | _, .nan => .nan
  | .infinity s, .infinity s' => if s = s' then .infinity s else .nan
  | .infinity s, _ => .infinity s
  | _, .infinity s => .infinity s
  | .finite s m e, .finite s' m' e' =>
    let (n, d) := ratio m e
    let (n', d') := ratio m' e'
    let signed (negative : Bool) (k : Nat) : Int := if negative then -(k : Int) else k
    let sum := signed s (n * d') + signed s' (n' * d)
    ofRatio (sum < 0 || (s && s' && sum == 0)) sum.natAbs (d * d')

/-- The product of a number with a natural number, rounded; the factor is rounded first. -/
def scaleBy (factor : Nat) : Binary64 → Binary64
  | .nan => .nan
  | .infinity s => .infinity s
  | .finite s m e =>
    match ofRatio false factor 1 with
    | .finite _ m' e' =>
      let (n, d) := ratio m e
      let (n', d') := ratio m' e'
      ofRatio s (n * n') (d * d')
    | other => other

/-- Whether a finite number equals an integer. -/
def isInt (i : Int) : Binary64 → Bool
  | .finite s m e =>
    let (n, d) := ratio m e
    (if s then -(n : Int) else (n : Int)) == i * d
  | _ => false

/-- Equality of numbers: the two zeros are equal, and so is not-a-number to itself. -/
def same : Binary64 → Binary64 → Bool
  | .finite s m e, .finite s' m' e' =>
    (m == 0 && m' == 0) || (s == s' && m == m' && e == e')
  | x, y => x == y

/-- Neither of the two zeros. -/
def isNonzero : Binary64 → Bool
  | .finite _ m _ => m != 0
  | _ => true

/-! ## 3. Reading -/

/-- The exponent part of a decimal text: nothing, or `e` with a signed number. -/
def readExponent : List Char → Option Int
  | [] => some 0
  | c :: cs =>
    if c = 'e' ∨ c = 'E' then
      match cs with
      | '-' :: ds => (Text.readDigits 10 ds).map (fun n => -(n : Int))
      | '+' :: ds => (Text.readDigits 10 ds).map (fun n => (n : Int))
      | ds => (Text.readDigits 10 ds).map (fun n => (n : Int))
    else none

/-- A decimal text without sign: digits with at most one point among or around them, then an
exponent if there is one. -/
def readMagnitude (negative : Bool) (cs : List Char) : Option Binary64 :=
  let whole := cs.takeWhile Text.isDigit
  let (fraction, rest) := match cs.dropWhile Text.isDigit with
    | '.' :: r => (r.takeWhile Text.isDigit, r.dropWhile Text.isDigit)
    | r => ([], r)
  if whole.isEmpty && fraction.isEmpty then none
  else (readExponent rest).map fun e =>
    ofDecimal negative (Text.decimalValue (whole ++ fraction)) (e - fraction.length)

/-- A number in decimal notation, or one of the words `inf`, `infinity` and `nan` in any case, with
a sign if there is one. -/
def read? (cs : List Char) : Option Binary64 :=
  let (negative, body) := match cs with
    | '-' :: r => (true, r)
    | '+' :: r => (false, r)
    | r => (false, r)
  let word := String.ofList (body.map Char.toLower)
  if word = "inf" ∨ word = "infinity" then some (.infinity negative)
  else if word = "nan" then some .nan
  else readMagnitude negative body

end Binary64

end ApiDocs.Decimal
