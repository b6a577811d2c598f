import ScriptHost.Number.Shortest

/-!
# Number text

A decimal is laid out positionally (`0.000015`) or with an exponent (`1.5e-7`); a
`NumberFormat` decides which, and `NumberFormat.standard` is the one values are shown with.
-/

namespace ScriptHost.Number

def digitsOf (n : Nat) : List Char :=
  Nat.toDigits 10 n

/-- The decimal `d` written without an exponent: zeros are appended for a positive exponent, and a
point is placed inside the digits or after `0.` and leading zeros for a negative one. -/
def Decimal.positional (d : Decimal) : String :=
  let ds := digitsOf d.digits
  if 0 ≤ d.exponent then
    String.ofList (ds ++ List.replicate d.exponent.toNat '0')
  else
    let point : Int := (ds.length : Int) + d.exponent
    if 0 < point then
      String.ofList (ds.take point.toNat ++ '.' :: ds.drop point.toNat)
    else
      String.ofList ('0' :: '.' :: List.replicate (-point).toNat '0' ++ ds)

def exponentText (plus : Bool) (e : Int) : String :=
  if e < 0 then "-" ++ toString e.natAbs
  else (if plus then "+" else "") ++ toString e.toNat

def Decimal.scientific (plus : Bool) (d : Decimal) : String :=
  let ds := digitsOf d.digits
  let lead : Int := (ds.length : Int) - 1 + d.exponent
  let mantissa := match ds with
    | [] => "0"
    | [c] => String.singleton c
    | c :: rest => String.ofList (c :: '.' :: rest)
  mantissa ++ "e" ++ exponentText plus lead

structure NumberFormat where
  /-- the least magnitude written positionally -/
  plainFrom : Float
  /-- magnitudes from this one up take an exponent -/
  plainBelow : Float
  /-- whether a non-negative exponent is written with `+` -/
  exponentPlus : Bool
  /-- which of two equally near shortest decimals is written -/
  tie : Tie
  nan : String
  infinity : String
  /-- the text of both zeros -/
  zero : String

/-- Values show numbers in the fewest digits that read back, the nearer of two and the
larger on a tie; positionally from `1e-6` up to `1e21`, otherwise with an exponent that
is always signed. Both zeros are `0`. -/
def NumberFormat.standard : NumberFormat :=
  { plainFrom := 1e-6
    plainBelow := 1e21
    exponentPlus := true
    tie := .up
    nan := "NaN"
    infinity := "Infinity"
    zero := "0" }

/-- The bit pattern of `|x|`; on non-negative doubles it orders as the values do. -/
def magnitudeBits (x : Float) : Nat :=
  x.toBits.toNat % Nat.pow 2 63

def NumberFormat.write (fmt : NumberFormat) (x : Float) : String :=
  let sign := if isNegative x then "-" else ""
  if isNaN x then fmt.nan
  else if isInfinite x then sign ++ fmt.infinity
  else if isZero x then fmt.zero
  else
    let d := shortest fmt.tie x
    let mag := magnitudeBits x
    if magnitudeBits fmt.plainFrom ≤ mag && mag < magnitudeBits fmt.plainBelow then
      sign ++ d.positional
    else
      sign ++ d.scientific fmt.exponentPlus

def format (x : Float) : String :=
  NumberFormat.standard.write x

end ScriptHost.Number
