/-!
# Doubles as exact binary values

A double is read off its 64-bit pattern: a sign, an 11-bit biased exponent and a
52-bit fraction. A finite nonzero double is exactly `m · 2^q` with `m < 2^53`; every
decision about numbers in this library (text, rounding, remainders, integrality) is
made on that exact value in `Nat` and `Int` arithmetic, never on a rounded one.
-/

namespace ScriptHost.Number

structure Fields where
  negative : Bool
  exponent : Nat
  fraction : Nat
  deriving DecidableEq, Repr

def fields (x : Float) : Fields :=
  let b := x.toBits.toNat
  { negative := decide (Nat.pow 2 63 ≤ b)
    exponent := b / Nat.pow 2 52 % Nat.pow 2 11
    fraction := b % Nat.pow 2 52 }

/-- Not a number: the top exponent with a nonzero fraction. -/
def isNaN (x : Float) : Bool :=
  (fields x).exponent == 2047 && (fields x).fraction != 0

def isInfinite (x : Float) : Bool :=
  (fields x).exponent == 2047 && (fields x).fraction == 0

def isFinite (x : Float) : Bool :=
  (fields x).exponent < 2047

def isZero (x : Float) : Bool :=
  (fields x).exponent == 0 && (fields x).fraction == 0

/-- The sign bit, which also separates `-0` from `0`. -/
def isNegative (x : Float) : Bool :=
  (fields x).negative

/-- The magnitude of a finite double as `(m, q)` with `|x| = m · 2^q`: subnormals
have the fixed scale `2^-1074`, normals carry the hidden leading bit. -/
def magnitude (x : Float) : Nat × Int :=
  let f := fields x
  if f.exponent = 0 then (f.fraction, -1074)
  else (Nat.pow 2 52 + f.fraction, (f.exponent : Int) - 1075)

def floorScaled (m : Nat) (q : Int) : Nat :=
  if 0 ≤ q then m * Nat.pow 2 q.toNat else m / Nat.pow 2 (-q).toNat

def wholePart (x : Float) : Nat :=
  floorScaled (magnitude x).1 (magnitude x).2

/-- A finite double without a fractional part; zeros count as whole. -/
def isWhole (x : Float) : Bool :=
  isFinite x &&
    (let (m, q) := magnitude x
     0 ≤ q || m % Nat.pow 2 (-q).toNat == 0)

def ofFields (f : Fields) : Float :=
  let sign := if f.negative then Nat.pow 2 63 else 0
  Float.ofBits (UInt64.ofNat (sign + f.exponent * Nat.pow 2 52 + f.fraction))

def signedZero (negative : Bool) : Float :=
  ofFields ⟨negative, 0, 0⟩

/-- The double `±m · 2^q`, for a value that a double holds exactly (results of
truncation and of remainders are such values). The mantissa is moved to the
exponent that its leading bit asks for, bounded below by the subnormal scale. -/
def ofExact (negative : Bool) (m : Nat) (q : Int) : Float :=
  if m = 0 then signedZero negative
  else
    let lead : Int := (Nat.log2 m : Int) + q
    if lead < -1022 then
      -- subnormal: the mantissa is counted in units of 2^-1074
      ofFields ⟨negative, 0, floorScaled m (q + 1074)⟩
    else
      let shift : Int := 52 - (Nat.log2 m : Int)
      let full := floorScaled m shift
      ofFields ⟨negative, (lead + 1023).toNat, full - Nat.pow 2 52⟩

/-- Rounds toward zero, keeping the sign; infinities and NaN stay as they are. -/
def trunc (x : Float) : Float :=
  let f := fields x
  if f.exponent = 2047 then x
  else if f.exponent < 1023 then signedZero f.negative
  else if 1075 ≤ f.exponent then x
  else
    -- clear the fraction bits that stand below the binary point
    let drop := 1075 - f.exponent
    ofFields { f with fraction := f.fraction - f.fraction % Nat.pow 2 drop }

/-- The host's `==` on doubles: NaN equals nothing, and the two zeros are equal. -/
def ieeeEq (x y : Float) : Bool :=
  !isNaN x && !isNaN y && (x.toBits == y.toBits || (isZero x && isZero y))

/-- Equality that also lets NaN match NaN; the two zeros stay equal. -/
def sameValueZero (x y : Float) : Bool :=
  ieeeEq x y || (isNaN x && isNaN y)

def toInt? (x : Float) : Option Int :=
  if isWhole x then
    let w : Int := wholePart x
    some (if isNegative x then -w else w)
  else none

theorem fields_exponent_lt (x : Float) : (fields x).exponent < 2048 := by
  simp only [fields]
  exact Nat.mod_lt _ (by decide)

theorem fields_fraction_lt (x : Float) : (fields x).fraction < Nat.pow 2 52 := by
  simp only [fields]
  exact Nat.mod_lt _ (by decide)

theorem sameValueZero_self (x : Float) : sameValueZero x x = true := by
  unfold sameValueZero ieeeEq
  cases h : isNaN x <;> simp

end ScriptHost.Number
