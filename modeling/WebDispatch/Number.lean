import WebDispatch.Text.Split

/-!
# Binary fractions

Numbers of a binary floating format, held exactly: a finite one is a whole number of the least
positive units of its format. Reading rounds a decimal text to the nearest number of the format
(of two equally near ones to that with an even last digit); writing chooses the fewest decimal
digits that are read back as the same number and never uses an exponent.

* `FloatFormat.single`, `FloatFormat.double` — the two formats in use;
* `Fraction.read?`, `Fraction.text` — from and to decimal text;
* `Fraction.less`, `Fraction.same` — comparisons, false whenever a side is not a number.
-/

namespace WebDispatch

/-- A binary format: how many significant bits it has, and the exponents of its units. -/
structure FloatFormat where
  /-- Significant bits of a number. -/
  precision : Nat
  /-- The least positive number is 2 to the minus this. -/
  scale : Nat
  /-- Numbers from 2 to this power on are infinite. -/
  limit : Nat

def FloatFormat.single : FloatFormat := ⟨24, 149, 128⟩

def FloatFormat.double : FloatFormat := ⟨53, 1074, 1024⟩

/-- A number of a binary format: whole units of the least positive number, or no finite number. -/
inductive Fraction where
  | finite (negative : Bool) (units : Nat)
  | infinite (negative : Bool)
  | undefined
deriving DecidableEq, Repr, Inhabited

def bitLength (n : Nat) : Nat := if n = 0 then 0 else n.log2 + 1

def powerOfTen (exponent : Nat) : Nat := Nat.pow 10 exponent

/-- The whole number nearest to a quotient, the even one of two equally near. -/
def nearestQuotient (num den : Nat) : Nat :=
  let q := num / den
  let r := num % den
  if 2 * r < den then q
  else if den < 2 * r then q + 1
  else if q % 2 = 0 then q else q + 1

namespace FloatFormat

/-- Rounds a quotient of units to the format; `none` stands for infinity. -/
def round (f : FloatFormat) (num den : Nat) : Option Nat :=
  let excess := bitLength (num / den) - f.precision
  let units := nearestQuotient num (den <<< excess) <<< excess
  if units < 1 <<< (f.limit + f.scale) then some units else none

/-- The units of `digits · 10 ^ exponent`. -/
def ofDecimal (f : FloatFormat) (digits : Nat) (exponent : Int) : Option Nat :=
  if digits = 0 then some 0
  else
    let top := (Nat.toDigits 10 digits).length + exponent
    if top > 400 then none
    else if top < -400 then some 0
    else if 0 ≤ exponent then f.round ((digits * powerOfTen exponent.toNat) <<< f.scale) 1
    else f.round (digits <<< f.scale) (powerOfTen (-exponent).toNat)

end FloatFormat

def takeDigits (cs : List Char) : List Char × List Char :=
  (cs.takeWhile Char.isDigit, cs.dropWhile Char.isDigit)

def digitsValue (cs : List Char) : Nat := cs.foldl (fun n c => 10 * n + (c.toNat - '0'.toNat)) 0

def readDecimal? (cs : List Char) : Option (Nat × Int) :=
  let (whole, rest) := takeDigits cs
  let (part, rest) :=
    match rest with
    | '.' :: more => takeDigits more
    | _ => ([], rest)
  if whole.isEmpty && part.isEmpty then none
  else
    let digits := digitsValue (whole ++ part)
    match rest with
    | [] => some (digits, -part.length)
    | e :: more =>
      if e = 'e' || e = 'E' then
        let (negative, more) :=
          match more with
          | '-' :: m => (true, m)
          | '+' :: m => (false, m)
          | m => (false, m)
        let (power, rest) := takeDigits more
        if power.isEmpty || !rest.isEmpty then none
        else
          let n : Int := digitsValue power
          some (digits, (if negative then -n else n) - part.length)
      else none

namespace Fraction

/-- Reads a decimal number, an infinity or the mark of an undefined number. -/
def read? (f : FloatFormat) (s : String) : Option Fraction :=
  let (negative, cs) :=
    match s.toList with
    | '-' :: cs => (true, cs)
    | '+' :: cs => (false, cs)
    | cs => (false, cs)
  let word := String.ofList (cs.map Char.toLower)
  if word = "inf" || word = "infinity" then some (.infinite negative)
  else if word = "nan" then some .undefined
  else
    -- a point alone before an exponent is no number: the digits decide
    match readDecimal? cs with
    | none => none
    | some (digits, exponent) =>
      match f.ofDecimal digits exponent with
      | some units => some (.finite negative units)
      | none => some (.infinite negative)

/-- Decimal digits placed before and after the point: `digits · 10 ^ exponent`. -/
def positional (digits : Nat) (exponent : Int) : String :=
  let ds := Nat.toDigits 10 digits
  if 0 ≤ exponent then String.ofList (ds ++ List.replicate exponent.toNat '0')
  else
    let places := (-exponent).toNat
    if ds.length ≤ places then
      String.ofList (['0', '.'] ++ List.replicate (places - ds.length) '0' ++ ds)
    else
      String.ofList (ds.take (ds.length - places) ++ ['.'] ++ ds.drop (ds.length - places))

/-- The nearer of the two neighbours of `units` on the grid of steps of `10 ^ exponent` that are
read back as `units`, counted in steps. -/
def gridPoint? (f : FloatFormat) (units : Nat) (exponent : Int) : Option Nat :=
  let num := if 0 ≤ exponent then units else units * powerOfTen (-exponent).toNat
  let den := if 0 ≤ exponent then powerOfTen exponent.toNat <<< f.scale else 1 <<< f.scale
  let below := num / den
  let back (n : Nat) : Bool := f.ofDecimal n exponent = some units
  let nearer := nearestQuotient num den
  if back nearer then some nearer
  else if back below then some below
  else if back (below + 1) then some (below + 1)
  else none

/-- The fewest decimal digits that are read back as `units`, tried from `count` digits on. -/
def shortest (f : FloatFormat) (units : Nat) (magnitude : Int) : Nat → Nat → Nat × Int
  | 0, count => ((gridPoint? f units (magnitude - count)).getD 0, magnitude - count)
  | fuel + 1, count =>
    match gridPoint? f units (magnitude - count) with
    | some n => (n, magnitude - count)
    | none => shortest f units magnitude fuel (count + 1)

/-- The position of the first digit of a positive number: it lies below `10 ^ magnitude`. -/
def magnitude (f : FloatFormat) (units : Nat) : Int :=
  let whole := units >>> f.scale
  if 0 < whole then (Nat.toDigits 10 whole).length
  else
    let scaled := (units * powerOfTen f.scale) >>> f.scale
    (Nat.toDigits 10 scaled).length - f.scale

/-- Drops the zeros that end a number of steps. -/
def dropZeros : Nat → Nat × Int → Nat × Int
  | 0, d => d
  | fuel + 1, (n, e) => if n ≠ 0 ∧ n % 10 = 0 then dropZeros fuel (n / 10, e + 1) else (n, e)

def text (f : FloatFormat) : Fraction → String
  | .undefined => "NaN"
  | .infinite negative => if negative then "-inf" else "inf"
  | .finite negative units =>
    let digits :=
      if units = 0 then "0"
      else
        let (n, e) := dropZeros 400 (shortest f units (magnitude f units) 20 1)
        positional n e
    (if negative then "-" else "") ++ digits

def isWhole (f : FloatFormat) : Fraction → Bool
  | .finite _ units => units % (1 <<< f.scale) = 0
  | _ => false

/-- The place of a number on the line, infinities excepted. -/
def signed (negative : Bool) (units : Nat) : Int := if negative then -units else units

def less : Fraction → Fraction → Bool
  | .finite m a, .finite n b => signed m a < signed n b
  | .finite _ _, .infinite n => !n
  | .infinite m, .finite _ _ => m
  | .infinite m, .infinite n => m && !n
  | _, _ => false

/-- Whether two numbers are equal; the two zeros are. -/
def same : Fraction → Fraction → Bool
  | .finite m a, .finite n b => signed m a = signed n b
  | .infinite m, .infinite n => m == n
  | _, _ => false

end Fraction

end WebDispatch
