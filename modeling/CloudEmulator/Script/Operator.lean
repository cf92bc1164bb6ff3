import CloudEmulator.Script.Fault
import CloudEmulator.Script.Printing
import CloudEmulator.Script.Tree

/-!
# Operators of scripts

Integer arithmetic fails where its result has no 64 bits; an integer beside a
float counts as a float; a text takes in any value. Values of different types
are unequal and in no order.
-/

namespace CloudEmulator.Script

namespace Value

/-- An integer result, if it has 64 bits. -/
def checked (n : Int) : Except Fault Value :=
  if inRange n then .ok (int n) else .error .overflow

/-- Shift to the left; bits fall out at the end, and a negative distance shifts
to the right. -/
def shiftLeft (n distance : Int) : Int :=
  if distance < 0 then n / Nat.pow 2 (min 64 distance.natAbs)
  else if 64 ≤ distance then 0
  else Int.bmod (n * Nat.pow 2 distance.toNat) (Nat.pow 2 64)

/-- The 64 bits of an integer in two's complement. -/
def bits (n : Int) : Nat :=
  (n % Nat.pow 2 64).toNat

/-- The integer of 64 bits in two's complement. -/
def ofBits (n : Nat) : Value :=
  int (Int.bmod n (Nat.pow 2 64))

/-- The float that a mantissa and a power of two make, which must be exact. -/
def scaled (mantissa : Nat) (exponent : Int) : Float :=
  let surplus := mantissa.log2 - 52
  Float.scaleB (Float.ofNat (mantissa >>> surplus)) (exponent + surplus)

/-- The exact remainder of a division that truncates, with the dividend's sign. -/
def remainder (x y : Float) : Float :=
  if !x.isFinite || y.isNaN || y == 0 then 0.0 / 0.0
  else if !y.isFinite then x
  else
    let (m, p) := Decimal.decompose x
    let (n, q) := Decimal.decompose y
    let low := min p q
    let r := (m * Nat.pow 2 (p - low).toNat) % (n * Nat.pow 2 (q - low).toNat)
    let size := scaled r low
    if Decimal.isNegative x then -size else size

/-- Operators on integers. -/
def onInts (op : BinaryOp) (m n : Int) : Except Fault Value :=
  match op with
  | .add => checked (m + n)
  | .sub => checked (m - n)
  | .mul => checked (m * n)
  | .div => if n = 0 then .error .divisionByZero else checked (m.tdiv n)
  | .mod =>
    if n = 0 then .error .divisionByZero
    else if m = minInt && n = -1 then .error .overflow
    else checked (m.tmod n)
  | .pow =>
    if n < 0 || 4294967295 < n then .error .overflow
    else if m = 0 || m = 1 then checked (if n = 0 then 1 else m)
    else if m = -1 then checked (if n % 2 = 0 then 1 else -1)
    else if 64 ≤ n then .error .overflow
    else checked (Int.pow m n.toNat)
  | .shiftLeft => .ok (int (shiftLeft m n))
  | .shiftRight => .ok (int (shiftLeft m (-n)))
  | .bitAnd => .ok (ofBits (bits m &&& bits n))
  | .bitOr => .ok (ofBits (bits m ||| bits n))
  | .bitXor => .ok (ofBits (bits m ^^^ bits n))
  | .equal => .ok (bool (m == n))
  | .unequal => .ok (bool (m != n))
  | .less => .ok (bool (m < n))
  | .lessEqual => .ok (bool (m ≤ n))
  | .greater => .ok (bool (n < m))
  | .greaterEqual => .ok (bool (n ≤ m))
  | .range => .ok (range m n false)
  | .closedRange => .ok (range m n true)
  | .member | .notMember => .error (.unknownFunction "contains")

/-- Operators on floats. -/
def onFloats (op : BinaryOp) (x y : Float) : Except Fault Value :=
  match op with
  | .add => .ok (float (x + y))
  | .sub => .ok (float (x - y))
  | .mul => .ok (float (x * y))
  | .div => .ok (float (x / y))
  | .mod => .ok (float (remainder x y))
  | .pow => .ok (float (Float.pow x y))
  | .equal => .ok (bool (x == y))
  | .unequal => .ok (bool (x != y))
  | .less => .ok (bool (x < y))
  | .lessEqual => .ok (bool (x ≤ y))
  | .greater => .ok (bool (y < x))
  | .greaterEqual => .ok (bool (y ≤ x))
  | _ => .error (.wrongType "f64")

/-- Comparisons by an order. -/
def compared (op : BinaryOp) (o : Ordering) : Option Value :=
  match op with
  | .less => some (bool o.isLT)
  | .lessEqual => some (bool o.isLE)
  | .greater => some (bool o.isGT)
  | .greaterEqual => some (bool o.isGE)
  | .equal => some (bool o.isEq)
  | .unequal => some (bool !o.isEq)
  | _ => none

/-- The text without any occurrence of a part. -/
def without (s part : String) : String :=
  if part.isEmpty then s else "".intercalate (s.splitOn part)

/-- What a text takes in when a value is added to it. -/
def joined : Value → String
  | blob bytes => Utf8.lossy bytes
  | v => v.text

/-- Operators on texts. -/
def onTexts (op : BinaryOp) (s t : String) : Except Fault Value :=
  match op with
  | .add => .ok (str (s ++ t))
  | .sub => .ok (str (without s t))
  | op =>
    match compared op (compare s t) with
    | some v => .ok v
    | none => .error (.wrongType "string")

/-- Operators on truth values. -/
def onBools (op : BinaryOp) (a b : Bool) : Except Fault Value :=
  match op with
  | .bitAnd => .ok (bool (a && b))
  | .bitOr => .ok (bool (a || b))
  | .bitXor => .ok (bool (a != b))
  | op =>
    match compared op (compare a.toNat b.toNat) with
    | some v => .ok v
    | none => .error (.wrongType "bool")

/-- The seconds that some nanoseconds last. -/
def inSeconds (nanos : Int) : Float :=
  let size := Float.ofNat (nanos.natAbs / 1000000000) +
    Float.ofNat (nanos.natAbs % 1000000000) / 1000000000
  if nanos < 0 then -size else size

/-- Operators on moments. -/
def onTimestamps (op : BinaryOp) (s t : Int) : Except Fault Value :=
  match op with
  | .sub => .ok (float (inSeconds (s - t)))
  | op =>
    match compared op (compare s t) with
    | some v => .ok v
    | none => .error (.wrongType "timestamp")

mutual

/-- Two values are equal; numbers compare by value and a character equals the
text that holds just it. -/
def equal : Value → Value → Bool
  | unit, unit => true
  | bool a, bool b => a == b
  | int m, int n => m == n
  | float x, float y => x == y
  | int m, float y => Float.ofInt m == y
  | float x, int n => x == Float.ofInt n
  | char c, char d => c == d
  | str s, str t => s == t
  | char c, str t => String.singleton c == t
  | str s, char d => s == String.singleton d
  | array ⟨as⟩, array bs => equalItems as bs.toList
  | map as, map bs => equalEntries as bs
  | blob as, blob bs => as == bs
  | range a b c, range d e f => a == d && b == e && c == f
  | function f, function g => f == g
  | timestamp s, timestamp t => s == t
  | _, _ => false

/-- Two lists of values are equal. -/
def equalItems : List Value → List Value → Bool
  | [], [] => true
  | a :: as, b :: bs => equal a b && equalItems as bs
  | _, _ => false

/-- Two lists of entries are equal. -/
def equalEntries : List (String × Value) → List (String × Value) → Bool
  | [], [] => true
  | (m, a) :: as, (n, b) :: bs => m == n && equal a b && equalEntries as bs
  | _, _ => false

end

/-- The text holds a part. -/
def holdsText (s part : String) : Bool :=
  part.isEmpty || 1 < (s.splitOn part).length

/-- The integer is in the range. -/
def inBounds (n low high : Int) (closed : Bool) : Bool :=
  low ≤ n && (n < high || (closed && n == high))

/-- The collection holds the value. -/
def holds (collection item : Value) : Except Fault Bool :=
  match collection, item with
  | array items, v => .ok (items.any (equal · v))
  | map entries, str s => .ok (find? s entries).isSome
  | str s, str t => .ok (holdsText s t)
  | str s, char c => .ok (s.toList.contains c)
  | blob bytes, int n => .ok (bytes.any fun b => (b.toNat : Int) == n)
  | range low high closed, int n => .ok (inBounds n low high closed)
  | _, _ => .error (.unknownFunction "contains")

/-- The entries of the second map put over those of the first. -/
def overlay (lower upper : List (String × Value)) : List (String × Value) :=
  upper.foldl (fun sofar e => insertEntry e.1 e.2 sofar) lower

/-- Operators on values of other types, or of two different ones. -/
def onOthers (op : BinaryOp) (v w : Value) : Except Fault Value :=
  match op, v, w with
  | .add, array as, array bs => .ok (array (as ++ bs))
  | .add, map as, map bs => .ok (map (overlay as bs))
  | .add, blob as, blob bs => .ok (blob (as ++ bs))
  | .equal, v, w => .ok (bool (equal v w))
  | .unequal, v, w => .ok (bool !(equal v w))
  | .less, v, w | .lessEqual, v, w | .greater, v, w | .greaterEqual, v, w =>
    if v.typeName == w.typeName then .error (.wrongType v.typeName) else .ok (bool false)
  | _, v, _ => .error (.wrongType v.typeName)

/-- The value of an operator with two operands. -/
def apply (op : BinaryOp) (v w : Value) : Except Fault Value :=
  match op, v, w with
  | .member, v, w => return bool (← holds w v)
  | .notMember, v, w => return bool !(← holds w v)
  | op, int m, int n => onInts op m n
  | op, float x, float y => onFloats op x y
  | op, int m, float y => onFloats op (Float.ofInt m) y
  | op, float x, int n => onFloats op x (Float.ofInt n)
  | op, bool a, bool b => onBools op a b
  | op, str s, str t => onTexts op s t
  | op, str s, char d => onTexts op s (String.singleton d)
  | op, char c, str t => onTexts op (String.singleton c) t
  | .add, char c, char d => .ok (str (String.ofList [c, d]))
  | op, char c, char d =>
    match compared op (compare c d) with
    | some v => .ok v
    | none => .error (.wrongType "char")
  | op, timestamp s, timestamp t => onTimestamps op s t
  | .add, str s, w => .ok (str (s ++ w.joined))
  | .add, v, str t => .ok (str (v.joined ++ t))
  | op, v, w => onOthers op v w

/-- The value of an assignment that combines the old value with a new one. An
array takes in a value as its last item. -/
def combine (op : BinaryOp) (old new : Value) : Except Fault Value :=
  match op, old, new with
  | .add, array as, array bs => .ok (array (as ++ bs))
  | .add, array as, v => .ok (array (as.push v))
  | .add, blob bytes, int n => .ok (blob (bytes ++ [UInt8.ofInt n]))
  | op, old, new => apply op old new

/-- The value of an operator with one operand. -/
def applyUnary (op : UnaryOp) (v : Value) : Except Fault Value :=
  match op, v with
  | .negate, int n => checked (-n)
  | .negate, float x => .ok (float (-x))
  | .plus, int n => .ok (int n)
  | .plus, float x => .ok (float x)
  | .not, bool b => .ok (bool !b)
  | _, v => .error (.wrongType v.typeName)

end Value

end CloudEmulator.Script
