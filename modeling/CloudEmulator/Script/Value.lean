import CloudEmulator.Json
import CloudEmulator.Text.Utf8

/-!
# Values of extension scripts

Scripts compute with dynamically typed values. Integers have 64 bits and never
wrap; the entries of a map are in the order of their names, each name once.

Two kinds of values are simpler than those of the language: a value that names a
function has no arguments bound to it, and no value is shared between variables, which
only happens to those that a closure captures.
-/

namespace CloudEmulator.Script

/-- A value of a script. -/
inductive Value where
  | unit
  | bool (b : Bool)
  | int (n : Int)
  | float (x : Float)
  | char (c : Char)
  | str (s : String)
  | array (items : Array Value)
  | map (entries : List (String × Value))
  | blob (bytes : Bytes)
  /-- The integers from `low` to `high`, with `high` itself if `closed`. -/
  | range (low high : Int) (closed : Bool)
  /-- A function named by a value. -/
  | function (name : String)
  /-- A moment of the clock for durations, in nanoseconds. -/
  | timestamp (steady : Int)
  deriving Inhabited

namespace Value

/-- The least and the greatest integer. -/
def minInt : Int := -9223372036854775808

/-- The greatest integer. -/
def maxInt : Int := 9223372036854775807

/-- The number is an integer of scripts. -/
def inRange (n : Int) : Bool :=
  minInt ≤ n && n ≤ maxInt

/-- The name of the type of a value. -/
def typeName : Value → String
  | unit => "()"
  | bool _ => "bool"
  | int _ => "i64"
  | float _ => "f64"
  | char _ => "char"
  | str _ => "string"
  | array _ => "array"
  | map _ => "map"
  | blob _ => "blob"
  | range _ _ false => "core::ops::range::Range<i64>"
  | range _ _ true => "core::ops::range::RangeInclusive<i64>"
  | function _ => "Fn"
  | timestamp _ => "timestamp"

/-- The name by which scripts see the type of a value. -/
def scriptTypeName : Value → String
  | range _ _ false => "range"
  | range _ _ true => "range="
  | v => v.typeName

/-- The value is the unit value. -/
def isUnit : Value → Bool
  | unit => true
  | _ => false

/-- The entry of a name. -/
def find? (name : String) : List (String × Value) → Option Value
  | [] => none
  | (n, v) :: rest => if n == name then some v else find? name rest

/-- The entries with one more, in its place by name, or changed. -/
def insertEntry (name : String) (value : Value) : List (String × Value) → List (String × Value)
  | [] => [(name, value)]
  | (n, v) :: rest =>
    if name == n then (name, value) :: rest
    else if name < n then (name, value) :: (n, v) :: rest
    else (n, v) :: insertEntry name value rest

/-- The entries without those of a name. -/
def eraseEntry (name : String) (entries : List (String × Value)) : List (String × Value) :=
  entries.filter fun e => e.1 != name

/-- The map of some entries; of equal names the last one counts. -/
def ofEntries (entries : List (String × Value)) : Value :=
  map (entries.foldl (fun sofar e => insertEntry e.1 e.2 sofar) [])

/-- The integers of a range. -/
def rangeSize (low high : Int) (closed : Bool) : Nat :=
  (high - low + if closed then 1 else 0).toNat

mutual

/-- The JSON value that a value stands for. Blobs, ranges, functions and moments have none. -/
def toJson? : Value → Option Json
  | unit => some .null
  | bool b => some (.bool b)
  | int n => some (.int n)
  | float x => some (.float x)
  | char c => some (.str (String.singleton c))
  | str s => some (.str s)
  | array ⟨items⟩ => (toJsonItems? items).map .array
  | map entries => (toJsonMembers? entries).map .object
  | _ => none

/-- The JSON values of the items of an array. -/
def toJsonItems? : List Value → Option (List Json)
  | [] => some []
  | item :: items => do return (← toJson? item) :: (← toJsonItems? items)

/-- The JSON members of the entries of a map. -/
def toJsonMembers? : List (String × Value) → Option (List (String × Json))
  | [] => some []
  | (name, value) :: entries =>
    do return (name, ← toJson? value) :: (← toJsonMembers? entries)

end

end Value

end CloudEmulator.Script
