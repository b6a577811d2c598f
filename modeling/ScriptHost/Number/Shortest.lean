import ScriptHost.Number.Binary

/-!
# Shortest decimals that read back

Every finite nonzero double `m · 2^q` is the nearest double to each real of an interval
around it: half a step to either neighbour, a quarter step below when the step below is
the narrower one, both ends included exactly when `m` is even. The shortest decimal for
the double is the decimal with the fewest significant digits inside that interval, and of
two such the nearer; an exact tie is settled by a `Tie` rule.

The search tests, for 1, 2, … 17 digits, the two neighbours of the value on the decimal
grid of that many digits. If any grid point lies in the interval, one of those two does,
so the first grid with a hit gives the fewest digits. All comparisons are exact products
of naturals.
-/

namespace ScriptHost.Number

/-- The decimal `digits · 10^exponent`. -/
structure Decimal where
  digits : Nat
  exponent : Int
  deriving DecidableEq, Repr

inductive Tie where
  /-- the larger one -/
  | up
  /-- the smaller one -/
  | down
  /-- the one whose last digit is even -/
  | even
  deriving DecidableEq, Repr

/-- The reals that round to a double, as `(low, high)` in units of `2^scale`. -/
structure Interval where
  low : Nat
  high : Nat
  scale : Int
  closed : Bool
  deriving DecidableEq, Repr

def compareDecBin (a : Nat) (p : Int) (b : Nat) (e : Int) : Ordering :=
  compare (a * Nat.pow 10 p.toNat * Nat.pow 2 (-e).toNat)
    (b * Nat.pow 2 e.toNat * Nat.pow 10 (-p).toNat)

/-- The rounding interval of `m · 2^q`, in units of `2^(q-2)`. The step below is half
as wide when `m` is the smallest normal mantissa (`narrow`). -/
def Interval.around (m : Nat) (q : Int) (narrow : Bool) : Interval :=
  { low := 4 * m - (if narrow then 1 else 2)
    high := 4 * m + 2
    scale := q - 2
    closed := m % 2 == 0 }

def Interval.contains (i : Interval) (c : Nat) (p : Int) : Bool :=
  match compareDecBin c p i.low i.scale, compareDecBin c p i.high i.scale with
  | .gt, .lt => true
  | .eq, .lt => i.closed
  | .gt, .eq => i.closed
  | _, _ => false

/-- The number of decimal digits of `n`, counting `0` as one digit. -/
def digitCount (n : Nat) : Nat :=
  if n < 10 then 1 else digitCount (n / 10) + 1
termination_by n
decreasing_by omega

/-- The quotient `m · 2^q / 10^g`, rounded down. -/
def floorOnGrid (m : Nat) (q g : Int) : Nat :=
  (m * Nat.pow 2 q.toNat * Nat.pow 10 (-g).toNat) / (Nat.pow 2 (-q).toNat * Nat.pow 10 g.toNat)

/-- The least `k` with `m · 2^q < 10^k`, for `m > 0`. -/
def decimalOrder (m : Nat) (q : Int) : Int :=
  let num := m * Nat.pow 2 q.toNat
  let den := Nat.pow 2 (-q).toNat
  if den ≤ num then (digitCount (num / den) : Int)
  else 1 - (digitCount ((den - 1) / num) : Int)

/-- The decimal on grid `10^g` that the value keeps, if either neighbour on that grid
lies in the interval: the nearer of the two when both do. -/
def pickOnGrid (tie : Tie) (m : Nat) (q : Int) (i : Interval) (g : Int) : Option Decimal :=
  let c := floorOnGrid m q g
  let lowIn := i.contains c g
  let highIn := i.contains (c + 1) g
  if lowIn && highIn then
    -- compare the midpoint `(2c + 1) · 10^g / 2` with the value
    match compareDecBin (2 * c + 1) g m (q + 1) with
    | .lt => some ⟨c + 1, g⟩
    | .gt => some ⟨c, g⟩
    | .eq =>
        match tie with
        | .up => some ⟨c + 1, g⟩
        | .down => some ⟨c, g⟩
        | .even => some ⟨if c % 2 == 0 then c else c + 1, g⟩
  else if lowIn then some ⟨c, g⟩
  else if highIn then some ⟨c + 1, g⟩
  else none

def Decimal.trim (d : Decimal) : Decimal :=
  if h : d.digits ≠ 0 ∧ d.digits % 10 = 0 then
    Decimal.trim ⟨d.digits / 10, d.exponent + 1⟩
  else d
termination_by d.digits
decreasing_by
  show d.digits / 10 < d.digits
  omega

/-- The shortest decimal of `m · 2^q` (`m > 0`): the first of the grids with 1 to 17
significant digits that holds a point of the interval. Seventeen digits always do;
the last grid's nearer neighbour stands in otherwise. -/
def shortestOf (tie : Tie) (m : Nat) (q : Int) (narrow : Bool) : Decimal :=
  let i := Interval.around m q narrow
  let k := decimalOrder m q
  let found := (List.range 17).findSome? fun n => pickOnGrid tie m q i (k - (n + 1 : Nat))
  (found.getD ⟨floorOnGrid m q (k - 17), k - 17⟩).trim

def shortest (tie : Tie) (x : Float) : Decimal :=
  let f := fields x
  let (m, q) := magnitude x
  shortestOf tie m q (f.fraction == 0 && f.exponent != 0)

end ScriptHost.Number
