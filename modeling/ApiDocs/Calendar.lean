import ApiDocs.Text.Digits

/-!
# Dates and times

Calendar dates of the years 1 to 9999 and times of day on them, to the microsecond and with an
offset from universal time if one is known.  The text is that of ISO 8601; `Date.ofIso?` and
`DateTime.ofIso?` read it back.
-/

namespace ApiDocs

/-- A calendar date. -/
structure Date where
  year : Nat
  month : Nat
  day : Nat
  deriving Repr, DecidableEq, Inhabited

/-- A time of day on a date; `offset` is the distance to universal time in microseconds. -/
structure DateTime where
  date : Date
  hour : Nat
  minute : Nat
  second : Nat
  microsecond : Nat
  offset : Option Int
  deriving Repr, DecidableEq, Inhabited

/-- The microseconds of a number of seconds. -/
def microsecondsOf (seconds : Nat) : Nat := seconds * 1000000

/-! ## 1. The calendar -/

/-- Whether February has 29 days. -/
def isLeapYear (year : Nat) : Bool := year % 4 = 0 && (year % 100 ≠ 0 || year % 400 = 0)

/-- The length of a month. -/
def daysInMonth (year month : Nat) : Nat :=
  if month = 2 then (if isLeapYear year then 29 else 28)
  else if month = 4 ∨ month = 6 ∨ month = 9 ∨ month = 11 then 30
  else 31

namespace Date

/-- Whether the calendar has the date. -/
def isValid (d : Date) : Bool :=
  1 ≤ d.year && d.year ≤ 9999 && 1 ≤ d.month && d.month ≤ 12 && 1 ≤ d.day
    && d.day ≤ daysInMonth d.year d.month

/-- The days before the date, counted from the first day of the year 1. -/
def dayNumber (d : Date) : Nat :=
  let y := d.year - 1
  365 * y + y / 4 - y / 100 + y / 400
    + (List.range (d.month - 1)).foldl (fun n m => n + daysInMonth d.year (m + 1)) (d.day - 1)

/-- The date in the form `2024-01-15`. -/
def text (d : Date) : List Char :=
  Text.zeroPadded 4 d.year ++ '-' :: Text.zeroPadded 2 d.month ++ '-' :: Text.zeroPadded 2 d.day

/-- Reads the form of `text`. -/
def ofIso? (cs : List Char) : Option Date :=
  match (Text.splitDigits [4, 2, 2] ['-', '-'] cs) with
  | some ([y, m, d], []) => some ⟨y, m, d⟩
  | _ => none

end Date

namespace DateTime

/-- Whether a clock can show the time; the offset is less than a day. -/
def isValid (t : DateTime) : Bool :=
  t.date.isValid && t.hour < 24 && t.minute < 60 && t.second < 60 && t.microsecond < 1000000
    && (match t.offset with
      | none => true
      | some o => o.natAbs < microsecondsOf 86400)

/-- The microseconds from the start of the year 1, in universal time where the offset is known. -/
def instant (t : DateTime) : Int :=
  let seconds := t.date.dayNumber * 86400 + t.hour * 3600 + t.minute * 60 + t.second
  (microsecondsOf seconds + t.microsecond : Nat) - t.offset.getD 0

/-- Whether two times are the same instant, or the same reading of two clocks with no offset. -/
def same (t u : DateTime) : Bool :=
  t.offset.isSome == u.offset.isSome && t.instant == u.instant

/-- Microseconds behind a point, if there are any. -/
def fractionText (micro : Nat) : List Char :=
  if micro = 0 then [] else '.' :: Text.zeroPadded 6 micro

/-- An offset in the form `+07:00`, with seconds if there are any. -/
def offsetText (o : Int) : List Char :=
  let micro := o.natAbs % microsecondsOf 1
  let n := o.natAbs / microsecondsOf 1
  (if o < 0 then '-' else '+') :: Text.zeroPadded 2 (n / 3600) ++ ':'
    :: Text.zeroPadded 2 (n / 60 % 60) ++
    (if n % 60 = 0 ∧ micro = 0 then [] else ':' :: Text.zeroPadded 2 (n % 60) ++ fractionText micro)

/-- The time in the form `2024-01-15T10:30:00+07:00`, with `separator` between date and time of
day; microseconds are written if there are any. -/
def text (separator : Char) (t : DateTime) : List Char :=
  t.date.text ++ separator :: Text.zeroPadded 2 t.hour ++ ':' :: Text.zeroPadded 2 t.minute
    ++ ':' :: Text.zeroPadded 2 t.second
    ++ fractionText t.microsecond
    ++ (match t.offset with
      | none => []
      | some o => offsetText o)

/-- Reads microseconds behind a point; further digits are dropped.  The rest of the text comes
second. -/
def readFraction : List Char → Nat × List Char
  | '.' :: cs =>
    let ds := cs.takeWhile Text.isDigit ++ List.replicate 6 '0'
    (Text.decimalValue (ds.take 6), cs.dropWhile Text.isDigit)
  | cs => (0, cs)

/-- Reads an offset in the form of `offsetText`. -/
def readOffset? : List Char → Option Int
  | sign :: cs =>
    if sign = '+' ∨ sign = '-' then
      let total : Option Nat := match Text.splitDigits [2, 2] [':'] cs with
        | some ([h, m], []) => some (microsecondsOf (h * 3600 + m * 60))
        | some ([h, m], ':' :: rest) => match Text.splitDigits [2] [] rest with
          | some ([s], rest) => match readFraction rest with
            | (micro, []) => some (microsecondsOf (h * 3600 + m * 60 + s) + micro)
            | _ => none
          | _ => none
        | _ => none
      total.map (fun n => if sign = '-' then -(n : Int) else (n : Int))
    else none
  | [] => none

/-- Reads the form of `text`, with any one character between date and time of day. -/
def ofIso? (cs : List Char) : Option DateTime :=
  match Text.splitDigits [4, 2, 2] ['-', '-'] cs with
  | some ([y, m, d], _ :: time) =>
    match Text.splitDigits [2, 2, 2] [':', ':'] time with
    | some ([h, mi, s], rest) =>
      let (micro, rest) := readFraction rest
      if rest.isEmpty then some ⟨⟨y, m, d⟩, h, mi, s, micro, none⟩
      else (readOffset? rest).map (fun o => ⟨⟨y, m, d⟩, h, mi, s, micro, some o⟩)
    | _ => none
  | _ => none

end DateTime

end ApiDocs
