import CloudEmulator.Script.Value
import CloudEmulator.Text.Quoted

/-!
# Texts of script values

The text that a value prints as, and the one it has inside of an array or a map,
where strings and characters are quoted and unit is written out.
-/

namespace CloudEmulator.Script.Value

/-- Floats that stand alone: positional from ten to the minus seventh up to ten
to the thirteenth itself. -/
def floatFormat : Decimal.Format where
  least := -7
  limit := 13
  limitIncluded := true

/-- Floats inside of arrays and maps: positional from ten to the minus fourth to
below ten to the sixteenth. -/
def innerFloatFormat : Decimal.Format where
  least := -4
  limit := 16
  negativeZero := "-0.0"

/-- Two hexadecimal digits. -/
def hexOctet (b : UInt8) : List Char :=
  [Nat.digitChar (b.toNat / 16), Nat.digitChar (b.toNat % 16)]

/-- The octets of a blob in groups of eight. -/
def blobText (bytes : Bytes) : String :=
  let digits := bytes.zipIdx.flatMap fun (b, i) =>
    (if i ≠ 0 && i % 8 == 0 then [' '] else []) ++ hexOctet b
  String.ofList ('[' :: digits ++ [']'])

/-- A character between single quotes. -/
def quotedChar (c : Char) : String :=
  let body := match c with
    | '\'' => ['\\', '\'']
    | '"' => ['"']
    | c => Text.Quoted.encodeChar c
  String.ofList ('\'' :: body ++ ['\''])

/-- The text of a range. -/
def rangeText (low high : Int) (closed : Bool) : String :=
  toString low ++ (if closed then "..=" else "..") ++ toString high

mutual

/-- The text of a value inside of an array or a map. -/
def inner : Value → String
  | unit => "()"
  | bool b => if b then "true" else "false"
  | int n => toString n
  | float x => innerFloatFormat.text x
  | char c => quotedChar c
  | str s => Text.Quoted.encode s
  | array ⟨items⟩ => "[" ++ ", ".intercalate (innerItems items) ++ "]"
  | map entries => "#\x7b" ++ ", ".intercalate (innerEntries entries) ++ "\x7d"
  | blob bytes => blobText bytes
  | range low high closed => rangeText low high closed
  | function name => "Fn(" ++ name ++ ")"
  | timestamp _ => "<timestamp>"

/-- The texts of the items of an array. -/
def innerItems : List Value → List String
  | [] => []
  | item :: items => inner item :: innerItems items

/-- The texts of the entries of a map. -/
def innerEntries : List (String × Value) → List String
  | [] => []
  | (name, value) :: entries =>
    (Text.Quoted.encode name ++ ": " ++ inner value) :: innerEntries entries

end

/-- The text that a value prints as. -/
def text : Value → String
  | unit => ""
  | float x => floatFormat.text x
  | char c => String.singleton c
  | str s => s
  | v => v.inner

end CloudEmulator.Script.Value
