import CloudEmulator.Script.Library

/-!
# The state of a running script

A run has a scope of variables, the value that `this` stands for, the readings of the
clocks that are left, and a count of the operations so far, which is bounded. What ends
a run early leaves all changes made before it.
-/

namespace CloudEmulator.Script

/-- A variable in scope. -/
structure Variable where
  name : String
  value : Value
  isConst : Bool := false

/-- The state of a run. The last variable comes first. -/
structure Machine where
  operations : Nat := 0
  level : Nat := 0
  scope : List Variable := []
  this : Option Value := none
  clock : Clock

/-- What ends a part of a script before its end. -/
inductive Stop where
  | thrown (v : Value)
  | fault (f : Fault)
  /-- A limit is exceeded; no script can catch that. -/
  | exhausted
  | returned (v : Value)
  | left (v : Value)
  | skipped

/-- A computation of a script. -/
abbrev Run := ExceptT Stop (StateM Machine)

/-- How many operations a run may perform. -/
def maxOperations : Nat := 200000

/-- How deeply calls may nest. -/
def maxLevels : Nat := 64

namespace Run

/-- Count an operation. -/
def tick : Run Unit := do
  let m ← get
  set { m with operations := m.operations + 1 }
  if maxOperations < m.operations + 1 then throw .exhausted

/-- Fail in a way that scripts can catch. -/
def fail (f : Fault) : Run α :=
  throw (.fault f)

/-- The value of a computation that may fail. -/
def ofExcept (x : Except Fault α) : Run α :=
  match x with
  | .ok a => pure a
  | .error f => fail f

/-- Run a part and see how it ends. -/
def attempt (x : Run α) : Run (Except Stop α) :=
  fun m => let (r, m) := x m; (.ok r, m)

/-- End as an earlier part ended. -/
def resume (r : Except Stop α) : Run α :=
  fun m => (r, m)

/-- Run a part whose variables are gone behind it. -/
def inScope (x : Run α) : Run α :=
  fun m =>
    let (r, after) := x m
    (r, { after with scope := after.scope.drop (after.scope.length - m.scope.length) })

/-- Bring a variable into scope. -/
def declare (name : String) (value : Value) (isConst : Bool) : Run Unit :=
  modify fun m => { m with scope := ⟨name, value, isConst⟩ :: m.scope }

/-- The latest variable of a name. -/
def lookup (name : String) : Run Variable := do
  match (← get).scope.find? (·.name == name) with
  | some x => return x
  | none => fail (.unknownVariable name)

/-- The variables after a change to the latest of a name. -/
def replaceIn (name : String) (value : Value) : List Variable → List Variable
  | [] => []
  | x :: rest =>
    if x.name == name then { x with value } :: rest else x :: replaceIn name value rest

/-- Change the latest variable of a name. -/
def assign (name : String) (value : Value) : Run Unit :=
  modify fun m => { m with scope := replaceIn name value m.scope }

/-- The value that `this` stands for. -/
def this : Run Value := do
  match (← get).this with
  | some v => return v
  | none => fail .noThis

/-- Change the value that `this` stands for. -/
def setThis (v : Value) : Run Unit :=
  modify fun m => { m with this := some v }

/-- Read the clocks. -/
def now : Run Moment :=
  modifyGet fun m => (m.clock.now, { m with clock := m.clock.later })

/-- Call a function of the library. -/
def callBuiltIn (name : String) (args : List Value) : Run Effect :=
  match Library.timed? name args with
  | some given => do return ⟨← ofExcept (given (← now)), args.headD .unit⟩
  | none =>
    match Library.call name args with
    | some r => ofExcept r
    | none => fail (.unknownFunction name)

/-- Run the body of a function, with its own variables and its own `this`, and
give that `this` back with the outcome. -/
def inCall (scope : List Variable) (self : Option Value) (body : Run Value) :
    Run (Except Stop Value × Option Value) :=
  fun m =>
    if maxLevels < m.level + 1 then (.error .exhausted, m)
    else
      let (r, after) := body { m with level := m.level + 1, scope, this := self }
      let r := match r with
        | .error (.returned v) => .ok v
        | r => r
      (.ok (r, after.this), { m with operations := after.operations, clock := after.clock })

/-- Run a text as a script of its own. It shares the variables but has no `this`,
and an answer that it gives is its value. -/
def inText (body : Run Value) : Run Value :=
  fun m =>
    let (r, after) := body { m with level := m.level + 1, this := none }
    let r := match r with
      | .error (.returned v) => .ok v
      | r => r
    (r, { after with level := m.level, this := m.this })

end Run

/-- The items that a loop goes through. -/
inductive Items where
  | values (rest : List Value)
  | ints (next stop : Int)

namespace Items

/-- The items of a value. -/
def ofValue : Value → Except Fault Items
  | .array items => .ok (.values items.toList)
  | .str s => .ok (.values (s.toList.map .char))
  | .blob bytes => .ok (.values (bytes.map fun b => .int b.toNat))
  | .range low high closed => .ok (.ints low (if closed then high + 1 else high))
  | _ => .error .notIterable

/-- The next item and those behind it. -/
def next? : Items → Option (Value × Items)
  | values [] => none
  | values (v :: rest) => some (v, values rest)
  | ints next stop => if next < stop then some (.int next, ints (next + 1) stop) else none

end Items

/-- A link of a chain whose expressions have been evaluated. -/
inductive Access where
  | property (name : String) (isOptional : Bool)
  | index (v : Value) (isOptional : Bool)
  | method (name : String) (args : List Value) (isOptional : Bool)

namespace Access

/-- The chain ends here when there is nothing to go on from. -/
def isOptional : Access → Bool
  | property _ b | index _ b | method _ _ b => b

end Access

namespace Value

/-- What an index or a property of a value leads to: a part that the value holds,
with the value that a changed part makes, or a copy. -/
inductive Target where
  | held (v : Value) (put : Value → Value)
  | missing (put : Value → Value)
  | copy (v : Value)

/-- Bit `i` of an integer. -/
def testBit (n : Int) (i : Nat) : Bool :=
  (bits n).testBit i

/-- The part under a name. -/
def property (v : Value) (name : String) : Except Fault Target :=
  match v with
  | map entries =>
    let put w := map (insertEntry name w entries)
    match find? name entries with
    | some w => .ok (.held w put)
    | none => .ok (.missing put)
  | v =>
    match Library.property? name v with
    | some w => .ok (.copy w)
    | none => .error (.unknownProperty name)

/-- The part under an index. -/
def index (v i : Value) : Except Fault Target :=
  match v, i with
  | map entries, str s => property (map entries) s
  | array items, int i =>
    match Library.place? items.size i with
    | some i => .ok (.held (items[i]?.getD unit) fun w => array (items.setIfInBounds i w))
    | none => .error .outOfBounds
  | str s, int i =>
    match Library.place? s.length i with
    | some i => .ok (.copy (((s.toList[i]?).map char).getD unit))
    | none => .error .outOfBounds
  | blob bytes, int i =>
    match Library.place? bytes.length i with
    | some i => .ok (.copy (int (bytes.getD i 0).toNat))
    | none => .error .outOfBounds
  | int n, int i =>
    match Library.place? 64 i with
    | some i => .ok (.copy (bool (testBit n i)))
    | none => .error .outOfBounds
  | _, i => .error (.wrongType i.typeName)

/-- The value after a change to one of its parts that are no values of their own:
characters of a text, octets of a blob, bits of an integer. -/
def setPart (v i new : Value) : Except Fault Value :=
  match v, i, new with
  | str s, int i, char c =>
    match Library.place? s.length i with
    | some i => .ok (str (String.ofList (s.toList.set i c)))
    | none => .error .outOfBounds
  | blob bytes, int i, int n =>
    match Library.place? bytes.length i with
    | some i => .ok (blob (bytes.set i (UInt8.ofInt n)))
    | none => .error .outOfBounds
  | int n, int i, bool b =>
    match Library.place? 64 i with
    | some i =>
      if testBit n i == b then .ok (int n) else .ok (ofBits (bits n ^^^ Nat.pow 2 i))
    | none => .error .outOfBounds
  | _, _, new => .error (.wrongType new.typeName)

/-- What an assignment makes of the old value. -/
def assigned (op : Option BinaryOp) (old new : Value) : Except Fault Value :=
  match op with
  | none => .ok new
  | some op => combine op old new

/-- Assign through accesses: the value afterwards, and the failure if there is
one. A missing entry is made before the new value is computed, and stays. -/
def assignThrough (v : Value) (op : Option BinaryOp) (new : Value) :
    List Access → Value × Except Fault Unit
  | [] =>
    match assigned op v new with
    | .ok w => (w, .ok ())
    | .error f => (v, .error f)
  | a :: rest =>
    let target := match a with
      | .property name _ => property v name
      | .index i _ => index v i
      | .method name _ _ => .error (.unknownProperty name)
    match target, a, rest with
    | .error f, _, _ => (v, .error f)
    | .ok (.held w put), _, rest =>
      let (w, r) := assignThrough w op new rest
      (put w, r)
    | .ok (.missing put), _, [] =>
      let (w, r) := assignThrough unit op new []
      (put w, r)
    | .ok (.missing _), _, rest => (v, (assignThrough unit op new rest).2)
    | .ok (.copy old), .index i _, [] =>
      match assigned op old new >>= setPart v i with
      | .ok w => (w, .ok ())
      | .error f => (v, .error f)
    | .ok (.copy _), .property name _, _ => (v, .error (.unknownProperty name))
    | .ok (.copy old), _, rest => (v, (assignThrough old op new rest).2)

end Value

end CloudEmulator.Script
