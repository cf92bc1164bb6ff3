import CloudEmulator.Decimal.Shortest

/-!
# Texts of floating-point numbers

One printer for all formats; a record of decisions tells where positional
notation ends and how the rest is spelled.
-/

namespace CloudEmulator.Decimal

/-- The decisions of a format. Numbers from `10 ^ least` to below `10 ^ limit`
are written positionally, with at least one digit behind the point. -/
structure Format where
  least : Int
  limit : Int
  /-- The power `10 ^ limit` itself is positional, too. -/
  limitIncluded : Bool := false
  /-- The sign of positive exponents. -/
  plus : String := ""
  zero : String := "0.0"
  negativeZero : String := "0.0"

/-- Positional notation of `digits * 10 ^ exponent`. -/
def positional (d : Scaled) : String :=
  if 0 ≤ d.exponent then toString (d.digits * Nat.pow 10 d.exponent.toNat) ++ ".0"
  else
    let places := (-d.exponent).toNat
    let digits := (Nat.toDigits 10 d.digits)
    let padded := List.replicate (places + 1 - digits.length) '0' ++ digits
    let point := padded.length - places
    String.ofList (padded.take point ++ '.' :: padded.drop point)

/-- Notation with an exponent: one digit before the point, and no point without
more digits. -/
def exponential (plus : String) (d : Scaled) : String :=
  let digits := Nat.toDigits 10 d.digits
  let exponent := d.exponent + (digits.length - 1 : Nat)
  let fraction := if digits.length = 1 then "" else "." ++ String.ofList (digits.drop 1)
  let sign := if 0 ≤ exponent then plus else "-"
  String.ofList (digits.take 1) ++ fraction ++ "e" ++ sign ++ toString exponent.natAbs

/-- The text of a finite number under a format. -/
def Format.finite (f : Format) (x : Float) : String :=
  let (m, q) := decompose x
  if m = 0 then if isNegative x then f.negativeZero else f.zero
  else
    let d := shortest m q
    let top := d.exponent + (width d.digits - 1 : Nat)
    let isPositional := f.least ≤ top &&
      (top < f.limit || (f.limitIncluded && top == f.limit && d.digits == 1))
    let body := if isPositional then positional d else exponential f.plus d
    if isNegative x then "-" ++ body else body

/-- The text of a number under a format. -/
def Format.text (f : Format) (x : Float) : String :=
  if x.isNaN then "NaN"
  else if x.isInf then if isNegative x then "-inf" else "inf"
  else f.finite x

end CloudEmulator.Decimal
