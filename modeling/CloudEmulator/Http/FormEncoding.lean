import CloudEmulator.Text.Ascii
import CloudEmulator.Text.Utf8

/-!
# Form encoding

Parameters as query strings and form bodies carry them: pairs joined by `&`,
spaces as `+`, other octets as percent escapes.
-/

namespace CloudEmulator.Form

/-- The value of a hexadecimal digit. -/
def hexValue? (b : UInt8) : Option Nat :=
  let n := b.toNat
  if 48 ≤ n ∧ n ≤ 57 then some (n - 48)
  else if 65 ≤ n ∧ n ≤ 70 then some (n - 55)
  else if 97 ≤ n ∧ n ≤ 102 then some (n - 87)
  else none

/-- Undo percent escapes. What is no escape stays as it is. -/
def unescape : Bytes → Bytes
  | 37 :: a :: b :: rest =>
    match hexValue? a, hexValue? b with
    | some high, some low => UInt8.ofNat (high * 16 + low) :: unescape rest
    | _, _ => 37 :: unescape (a :: b :: rest)
  | b :: rest => b :: unescape rest
  | [] => []

/-- Decode a key or a value. Escapes that yield no UTF-8 are left as written. -/
def decodePart (raw : List Char) : String :=
  let spaced := raw.map fun c => if c == '+' then ' ' else c
  (Utf8.decode? (unescape (Utf8.encodeChars spaced))).getD (String.ofList spaced)

/-- Decode one `key=value` pair; the value may be missing. -/
def decodePair (pair : List Char) : String × String :=
  let (key, value) := Text.splitOnce '=' pair
  (decodePart key, decodePart (value.getD []))

/-- The pairs of a query, in order. -/
def pairs (query : String) : List (String × String) :=
  ((query.toList.splitOn '&').filter fun pair => !pair.isEmpty).map decodePair

/-- Parameters by name, in the order in which the names first appear. -/
abbrev Parameters := List (String × String)

/-- Set a parameter, keeping the place of its name. -/
def set (key value : String) : Parameters → Parameters
  | [] => [(key, value)]
  | (k, v) :: rest => if k == key then (key, value) :: rest else (k, v) :: set key value rest

/-- The parameters of a query; of pairs with the same key the last one wins. -/
def decode (query : String) : Parameters :=
  (pairs query).foldl (fun params p => set p.1 p.2 params) []

end CloudEmulator.Form
