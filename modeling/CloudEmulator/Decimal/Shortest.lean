/-!
# Shortest decimals

The shortest decimal that reads back as a given floating-point number, and of
those the nearest. All arithmetic is exact on natural numbers.
-/

namespace CloudEmulator.Decimal

/-- The number `digits * 10 ^ exponent`. -/
structure Scaled where
  digits : Nat
  exponent : Int
  deriving Repr, DecidableEq

/-- A positive number `m * 2 ^ q` as a fraction. -/
def fraction (m : Nat) (q : Int) : Nat × Nat :=
  if 0 ≤ q then (m * Nat.pow 2 q.toNat, 1) else (m, Nat.pow 2 (-q).toNat)

/-- The number of decimal digits. -/
def width (n : Nat) : Nat :=
  (Nat.toDigits 10 n).length

/-- A fraction divided by `10 ^ s`. -/
def scaleDown (num den : Nat) (s : Int) : Nat × Nat :=
  if 0 ≤ s then (num, den * Nat.pow 10 s.toNat) else (num * Nat.pow 10 (-s).toNat, den)

/-- The exponent of the leading digit of a positive fraction. -/
def magnitude (num den : Nat) : Int :=
  let d : Int := (width num : Int) - (width den : Int)
  let (num, den) := scaleDown num den d
  if den ≤ num then d else d - 1

/-- The real numbers that round to one floating-point number, in units that make
the number `value` and its bounds whole; the bounds belong when `closed`. -/
structure Interval where
  low : Nat
  value : Nat
  high : Nat
  closed : Bool
  unit : Int

/-- The interval of `m * 2 ^ q`. Below a power of two the gap is half as wide,
except for the smallest exponent. -/
def interval (m : Nat) (q : Int) : Interval where
  low := if m = Nat.pow 2 52 ∧ q ≠ -1074 then 4 * m - 1 else 4 * m - 2
  value := 4 * m
  high := 4 * m + 2
  closed := m % 2 == 0
  unit := q - 2

/-- The point `n * 10 ^ s` of a decimal grid lies in the interval. -/
def Interval.holds (i : Interval) (n : Nat) (s : Int) : Bool :=
  let (un, ud) := fraction 1 i.unit
  let (pn, pd) := if 0 ≤ s then (n * Nat.pow 10 s.toNat, 1) else (n, Nat.pow 10 (-s).toNat)
  let point := pn * ud
  let scale := un * pd
  if i.closed then i.low * scale ≤ point && point ≤ i.high * scale
  else i.low * scale < point && point < i.high * scale

/-- The points of the grid `10 ^ s` next to a fraction: the floor, and whether
the point above is nearer; a half goes to the even neighbour. -/
def nearest (num den : Nat) (s : Int) : Nat × Bool :=
  let (num, den) := scaleDown num den s
  let floor := num / den
  let rest := 2 * (num % den)
  (floor, den < rest || (den == rest && floor % 2 == 1))

/-- The first of the grids with `count`, `count + 1`, … digits that has a point in the interval. -/
def search (i : Interval) (num den : Nat) (top : Int) : (tries count : Nat) → Scaled
  | 0, count => ⟨(nearest num den (top - count + 1)).1, top - count + 1⟩
  | tries + 1, count =>
    let s := top - count + 1
    let (floor, above) := nearest num den s
    let low := i.holds floor s
    let high := i.holds (floor + 1) s
    if low && (!above || !high) then ⟨floor, s⟩
    else if high then ⟨floor + 1, s⟩
    else search i num den top tries (count + 1)

/-- Drop trailing zeros of the digits. -/
def Scaled.trim (d : Scaled) : Scaled :=
  go (width d.digits) d
where
  go : Nat → Scaled → Scaled
    | n + 1, d =>
      if d.digits ≠ 0 ∧ d.digits % 10 = 0 then go n ⟨d.digits / 10, d.exponent + 1⟩ else d
    | 0, d => d

/-- The shortest decimal that reads back as `m * 2 ^ q`, for `m` positive. -/
def shortest (m : Nat) (q : Int) : Scaled :=
  let (num, den) := fraction m q
  (search (interval m q) num den (magnitude num den) 17 1).trim

/-- The significand and exponent of a finite number without its sign. -/
def decompose (x : Float) : Nat × Int :=
  let bits := x.toBits.toNat
  let biased : Nat := bits / Nat.pow 2 52 % 2048
  let low : Nat := bits % Nat.pow 2 52
  if biased = 0 then (low, -1074) else (Nat.pow 2 52 + low, (biased : Int) - 1075)

/-- The sign bit is set. -/
def isNegative (x : Float) : Bool :=
  x.toBits.toNat / Nat.pow 2 63 == 1

end CloudEmulator.Decimal
