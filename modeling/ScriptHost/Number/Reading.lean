import ScriptHost.Number.Text

/-!
# Reading decimal text

A number text is an optional sign and then either `inf`, `infinity` or `nan` in any
mix of case, or a decimal: digits with at most one point and at least one digit, then
an optional exponent `e` or `E` with an optional sign and at least one digit. Nothing
may stand before or after it. The value is the double nearest to the exact decimal,
ties to even; decimals too large or too small for a double give an infinity or a zero
of the text's sign.
-/

namespace ScriptHost.Number

def infinity (negative : Bool) : Float :=
  ofFields ⟨negative, 2047, 0⟩

def nan : Float :=
  ofFields ⟨false, 2047, Nat.pow 2 51⟩

def digitsValue (ds : List Char) : Nat :=
  ds.foldl (fun acc c => acc * 10 + (c.toNat - '0'.toNat)) 0

/-- The quotient `num / den` rounded to the nearest natural; an exact half goes as `tie` says. -/
def roundDiv (num den : Nat) (tie : Tie) : Nat :=
  let w := num / den
  let r := num % den
  if den < 2 * r then w + 1
  else if 2 * r < den then w
  else
    match tie with
    | .up => w + 1
    | .down => w
    | .even => if w % 2 == 0 then w else w + 1

/-- The binary order of a positive quotient: the `t` with `2^t ≤ num / den < 2^(t+1)`. The
leading bits of `num` and `den` put it within one of their difference. -/
def binaryOrder (num den : Nat) : Int :=
  let t : Int := (Nat.log2 num : Int) - (Nat.log2 den : Int)
  if num * Nat.pow 2 (-t).toNat < den * Nat.pow 2 t.toNat then t - 1 else t

/-- The double nearest to the positive quotient `num / den`, ties to even, with the given sign.
The quotient is counted in units of `2^e`, where `e` puts it between `2^52` and `2^53` units, or
is the subnormal scale when that is smaller; the count is rounded to a whole mantissa, and a
result of `2^1024` or more is an infinity. -/
def ofQuotient (negative : Bool) (num den : Nat) : Float :=
  let e : Int := max (binaryOrder num den - 52) (-1074)
  let m := roundDiv (num * Nat.pow 2 (-e).toNat) (den * Nat.pow 2 e.toNat) .even
  if 1024 ≤ (Nat.log2 m : Int) + e then infinity negative else ofExact negative m e

/-- The double nearest to `±mantissa · 10^exponent`. Magnitudes of at least `10^310`
are beyond the largest double and those below `10^-326` round to zero, so the exact
rounding is only asked for in between. -/
def ofDecimal (negative : Bool) (mantissa : Nat) (exponent : Int) : Float :=
  if mantissa = 0 then signedZero negative
  else
    let order : Int := (digitCount mantissa : Int) + exponent
    if 310 < order then infinity negative
    else if order < -326 then signedZero negative
    else ofQuotient negative (mantissa * Nat.pow 10 exponent.toNat) (Nat.pow 10 (-exponent).toNat)

def takeSign : List Char → Bool × List Char
  | '-' :: rest => (true, rest)
  | '+' :: rest => (false, rest)
  | cs => (false, cs)

/-- Reads an exponent part: `e` or `E`, an optional sign, and at least one digit, with
nothing after them. The empty text is the exponent zero. -/
def readExponent : List Char → Option Int
  | [] => some 0
  | c :: rest =>
      if c = 'e' ∨ c = 'E' then
        let (negative, ds) := takeSign rest
        if !ds.isEmpty && ds.all Char.isDigit then
          let v : Int := digitsValue ds
          some (if negative then -v else v)
        else none
      else none

/-- Reads an unsigned decimal as `(mantissa, exponent)`. -/
def readUnsigned (cs : List Char) : Option (Nat × Int) :=
  let whole := cs.takeWhile Char.isDigit
  let rest := cs.dropWhile Char.isDigit
  let (frac, tail) :=
    match rest with
    | '.' :: more => (more.takeWhile Char.isDigit, more.dropWhile Char.isDigit)
    | _ => ([], rest)
  if whole.isEmpty && frac.isEmpty then none
  else
    (readExponent tail).map fun e => (digitsValue (whole ++ frac), e - (frac.length : Int))

/-- Reads a number text, or fails when the text is not one. -/
def readDouble (s : String) : Option Float :=
  let (negative, body) := takeSign s.toList
  let lower := String.ofList (body.map Char.toLower)
  if lower = "inf" ∨ lower = "infinity" then some (infinity negative)
  else if lower = "nan" then some (if negative then -nan else nan)
  else (readUnsigned body).map fun (m, e) => ofDecimal negative m e

/-! ## Fixed places and remainders

Rounding to `d` decimal places is done on the exact binary value: `|x| · 10^d` is
rounded to a whole number by `roundDiv` (halves to even) and read back as a decimal with
`d` places. The remainder of two doubles is exact as well: both are
put on the finer of their two binary grids, where the remainder is one of naturals.
-/

/-- The double `x` rounded to `places` decimal places (halves to even), as the double nearest to
that decimal; the sign of `x` is kept, also when the rounded value is zero. -/
def roundToPlaces (x : Float) (places : Nat) : Float :=
  let (m, q) := magnitude x
  let scaled := roundDiv (m * Nat.pow 2 q.toNat * Nat.pow 10 places) (Nat.pow 2 (-q).toNat) .even
  ofDecimal (isNegative x) scaled (-(places : Int))

/-- The remainder of `x` by `y` with the sign of `x`, as the host's `%` gives it: NaN
when either is NaN, `x` is infinite or `y` is zero; `x` itself when `y` is infinite or
`x` is zero. -/
def remainder (x y : Float) : Float :=
  if isNaN x || isNaN y || isInfinite x || isZero y then nan
  else if isInfinite y || isZero x then x
  else
    let (mx, qx) := magnitude x
    let (my, qy) := magnitude y
    let q := min qx qy
    let a := mx * Nat.pow 2 (qx - q).toNat
    let b := my * Nat.pow 2 (qy - q).toNat
    ofExact (isNegative x) (a % b) q

end ScriptHost.Number
