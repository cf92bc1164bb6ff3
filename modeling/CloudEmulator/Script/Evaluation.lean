import CloudEmulator.Script.Machine
import CloudEmulator.Script.Parser

/-!
# Running scripts

The meaning of expressions and statements. Every part of a script costs
operations, and these are bounded, so the supply of steps that the definitions
recurse on is never used up before a limit ends the run.
-/

namespace CloudEmulator.Script

open Run

/-- The function of a name and an arity. -/
def Function.find? (functions : List Function) (name : String) (arity : Nat) : Option Function :=
  functions.find? fun f => f.name == name && f.arity == arity

/-- The label stands for the value: equal and of one type. -/
def CaseLabel.isExactly (v : Value) : CaseLabel → Bool
  | value w => v.typeName == w.typeName && v.equal w
  | range .. => false

/-- The label is a range that holds the value. -/
def CaseLabel.spans (v : Value) : CaseLabel → Bool
  | range low high closed =>
    match v with
    | .int n => Value.inBounds n low high closed
    | _ => false
  | value _ => false

/-- The cases that a value may select: those with a label for exactly this value,
or else those with a range around it. -/
def Case.candidates (cases : List Case) (v : Value) : List Case :=
  let exact := cases.filter fun | .mk labels _ _ => labels.any (·.isExactly v)
  if exact.isEmpty then cases.filter fun | .mk labels _ _ => labels.any (·.spans v) else exact

/-- The truth value that a condition must have. -/
def Run.truth (v : Value) : Run Bool :=
  match v with
  | .bool b => pure b
  | v => fail (.wrongType v.typeName)

/-- What a script that catches a stop gets to see, if it can be caught. -/
def Stop.caught? : Stop → Option Value
  | thrown v => some v
  | fault f => some (.ofEntries [("error", .str f.kind), ("message", .str f.kind)])
  | _ => none

/-- What the first argument of a library function is held by. -/
inductive Holder where
  | named (name : String)
  | self
  | none

/-- What holds the value of an expression, if a function may change it there. -/
def Holder.ofExpr? : Option Expr → Holder
  | some (.variable name) => named name
  | some .this => self
  | _ => none

mutual

/-- The value of an expression. -/
def evaluate (fuel : Nat) (functions : List Function) (e : Expr) : Run Value :=
  match fuel with
  | 0 => throw .exhausted
  | fuel + 1 => do
    tick
    match e with
    | .literal v => return v
    | .template parts =>
      let vs ← evaluateAll fuel functions parts
      return .str (String.join (vs.map (·.joined)))
    | .array items => return .array (← evaluateAll fuel functions items).toArray
    | .map entries =>
      let vs ← evaluateAll fuel functions (entries.map (·.2))
      return .ofEntries ((entries.map (·.1)).zip vs)
    | .variable name => return (← lookup name).value
    | .this => this
    | .unary op e => ofExcept ((← evaluate fuel functions e).applyUnary op)
    | .binary op left right =>
      let v ← evaluate fuel functions left
      let w ← evaluate fuel functions right
      ofExcept (v.apply op w)
    | .shortcut op left right =>
      let v ← evaluate fuel functions left
      match op with
      | .and =>
        if ← truth v then return .bool (← truth (← evaluate fuel functions right))
        else return .bool false
      | .or =>
        if ← truth v then return .bool true
        else return .bool (← truth (← evaluate fuel functions right))
      | .coalesce => if v.isUnit then evaluate fuel functions right else return v
    | .call name args => evaluateCall fuel functions name args
    | .chain root links =>
      let path ← evaluateLinks fuel functions links
      match Holder.ofExpr? (some root) with
      | .named name =>
        let x ← lookup name
        assign name .unit
        let (v, r) ← follow fuel functions x.value path
        assign name (if x.isConst then x.value else v)
        resume r
      | .self =>
        let (v, r) ← follow fuel functions (← this) path
        setThis v
        resume r
      | .none =>
        let (_, r) ← follow fuel functions (← evaluate fuel functions root) path
        resume r
    | .block body => inScope (runAll fuel functions body .unit)

/-- The values of expressions, from left to right. -/
def evaluateAll (fuel : Nat) (functions : List Function) (es : List Expr) : Run (List Value) :=
  match fuel with
  | 0 => throw .exhausted
  | fuel + 1 =>
    match es with
    | [] => return []
    | e :: es => do
      let v ← evaluate fuel functions e
      return v :: (← evaluateAll fuel functions es)

/-- The links of a chain with their expressions evaluated, from left to right. -/
def evaluateLinks (fuel : Nat) (functions : List Function) (links : List Link) :
    Run (List Access) :=
  match fuel with
  | 0 => throw .exhausted
  | fuel + 1 =>
    match links with
    | [] => return []
    | .property name isOptional :: links =>
      return .property name isOptional :: (← evaluateLinks fuel functions links)
    | .index e isOptional :: links => do
      let v ← evaluate fuel functions e
      return .index v isOptional :: (← evaluateLinks fuel functions links)
    | .method name args isOptional :: links => do
      let vs ← evaluateAll fuel functions args
      return .method name vs isOptional :: (← evaluateLinks fuel functions links)

/-- Go along a path from a value: the value afterwards and the outcome. A change
that was made on the way stays even if the path ends in a failure. -/
def follow (fuel : Nat) (functions : List Function) (v : Value) (path : List Access) :
    Run (Value × Except Stop Value) :=
  match fuel with
  | 0 => throw .exhausted
  | fuel + 1 => do
    match path with
    | [] => return (v, .ok v)
    | a :: path =>
      if a.isOptional && v.isUnit then return (v, .ok .unit)
      match ← attempt tick with
      | .error stop => return (v, .error stop)
      | .ok () =>
        match a with
        | .method name args _ =>
          let (v, r) ← callMethod fuel functions name v args
          match r with
          | .error stop => return (v, .error stop)
          | .ok w =>
            let (_, r) ← follow fuel functions w path
            return (v, r)
        | .property name _ =>
          match Library.timed? name [v] with
          | some given =>
            let target := (given (← now)).map Value.Target.copy
            followTo fuel functions v target path
          | none => followTo fuel functions v (v.property name) path
        | .index i _ => followTo fuel functions v (v.index i) path

/-- Go on from a part of a value. -/
def followTo (fuel : Nat) (functions : List Function) (v : Value)
    (target : Except Fault Value.Target) (path : List Access) :
    Run (Value × Except Stop Value) :=
  match fuel with
  | 0 => throw .exhausted
  | fuel + 1 => do
    match target with
    | .error f => return (v, .error (.fault f))
    | .ok (.held w put) =>
      if path.isEmpty then return (v, .ok w)
      let (w, r) ← follow fuel functions w path
      return (put w, r)
    | .ok (.missing _) =>
      let (_, r) ← follow fuel functions .unit path
      return (v, r)
    | .ok (.copy w) =>
      let (_, r) ← follow fuel functions w path
      return (v, r)

/-- Call a function as a method of a value: the value afterwards and the outcome.
A function of the script sees the value as its `this`. -/
def callMethod (fuel : Nat) (functions : List Function) (name : String) (v : Value)
    (args : List Value) : Run (Value × Except Stop Value) :=
  match fuel with
  | 0 => throw .exhausted
  | fuel + 1 => do
    match Function.find? functions name args.length with
    | some f =>
      let (r, self) ← callScript fuel functions f args (some v)
      return (self.getD v, r)
    | none =>
      match v, name with
      | .function target, "call" =>
        match Function.find? functions target args.length with
        | some f =>
          let (r, _) ← callScript fuel functions f args none
          return (v, r)
        | none => return (v, (← attempt (callBuiltIn target args)).map (·.result))
      | _, _ =>
        match ← attempt (callBuiltIn name (v :: args)) with
        | .ok effect => return (effect.first, .ok effect.result)
        | .error stop => return (v, .error stop)

/-- Call a function of the script: its outcome and its `this` afterwards. -/
def callScript (fuel : Nat) (functions : List Function) (f : Function) (args : List Value)
    (self : Option Value) : Run (Except Stop Value × Option Value) :=
  match fuel with
  | 0 => throw .exhausted
  | fuel + 1 => do
    tick
    let scope := (f.params.zip args).reverse.map fun (name, value) => { name, value }
    inCall scope self (runAll fuel functions f.body .unit)

/-- The value of a function call. A function of the script gets copies of its
arguments; one of the library may change the variable that is its first. -/
def evaluateCall (fuel : Nat) (functions : List Function) (name : String) (args : List Expr) :
    Run Value :=
  match fuel with
  | 0 => throw .exhausted
  | fuel + 1 => do
    match Function.find? functions name args.length with
    | some f =>
      let vs ← evaluateAll fuel functions args
      let (r, _) ← callScript fuel functions f vs none
      resume r
    | none =>
      tick
      match Holder.ofExpr? args.head? with
      | .named x =>
        let rest ← evaluateAll fuel functions args.tail
        let held ← lookup x
        let effect ← callLibrary fuel functions name (held.value :: rest)
        unless held.isConst do assign x effect.first
        return effect.result
      | .self =>
        let rest ← evaluateAll fuel functions args.tail
        let effect ← callLibrary fuel functions name ((← this) :: rest)
        setThis effect.first
        return effect.result
      | .none =>
        let values ← evaluateAll fuel functions args
        return (← callLibrary fuel functions name values).result

/-- Call a function of the library. A text is evaluated as a script that sees and
may add variables, but cannot define functions. -/
def callLibrary (fuel : Nat) (functions : List Function) (name : String) (args : List Value) :
    Run Effect :=
  match fuel with
  | 0 => throw .exhausted
  | fuel + 1 => do
    match name, args with
    | "eval", [.str source] =>
      match Program.ofSource source with
      | .ok ⟨[], body⟩ => return ⟨← inText (runAll fuel functions body .unit), .str source⟩
      | _ => fail .badText
    | name, args => callBuiltIn name args

/-- Run statements in the scope that is there; the value is that of the last. -/
def runAll (fuel : Nat) (functions : List Function) (body : List Stmt) (last : Value) :
    Run Value :=
  match fuel with
  | 0 => throw .exhausted
  | fuel + 1 =>
    match body with
    | [] => return last
    | s :: body => do
      let v ← run fuel functions s
      runAll fuel functions body v

/-- Run a statement. -/
def run (fuel : Nat) (functions : List Function) (s : Stmt) : Run Value :=
  match fuel with
  | 0 => throw .exhausted
  | fuel + 1 => do
    tick
    match s with
    | .expr e => evaluate fuel functions e
    | .bind name isConst start =>
      let v ← match start with
        | some e => evaluate fuel functions e
        | none => pure .unit
      declare name v isConst
      return .unit
    | .assign op target value =>
      let new ← evaluate fuel functions value
      tick
      match target with
      | .variable name =>
        let x ← lookup name
        if x.isConst then fail (.readOnly name)
        assign name (← ofExcept (x.value.assigned op new))
      | .this => setThis (← ofExcept ((← this).assigned op new))
      | .chain root links =>
        let path ← evaluateLinks fuel functions links
        match Holder.ofExpr? (some root) with
        | .named name =>
          let x ← lookup name
          if x.isConst then fail (.readOnly name)
          let (v, r) := x.value.assignThrough op new path
          assign name v
          ofExcept r
        | .self =>
          let (v, r) := (← this).assignThrough op new path
          setThis v
          ofExcept r
        | .none => fail (.unknownProperty "")
      | _ => fail (.unknownProperty "")
      return .unit
    | .block body => inScope (runAll fuel functions body .unit)
    | .branch condition yes no =>
      if ← truth (← evaluate fuel functions condition) then
        inScope (runAll fuel functions yes .unit)
      else inScope (runAll fuel functions no .unit)
    | .switch subject cases otherwise =>
      let v ← evaluate fuel functions subject
      runCase fuel functions (Case.candidates cases v) otherwise
    | .loop condition body => runLoop fuel functions condition body
    | .repeated body condition goOn => runRepeated fuel functions body condition goOn
    | .each name counter items body =>
      let items ← ofExcept (Items.ofValue (← evaluate fuel functions items))
      inScope (runEach fuel functions name counter 0 items body)
    | .leave value => throw (.left (← evaluateOr fuel functions value))
    | .skip => throw .skipped
    | .answer value => throw (.returned (← evaluateOr fuel functions value))
    | .raise value => throw (.thrown (← evaluateOr fuel functions value))
    | .guard body name handler =>
      match ← attempt (inScope (runAll fuel functions body .unit)) with
      | .ok v => return v
      | .error stop =>
        match stop.caught? with
        | none => throw stop
        | some caught =>
          let handled ← attempt (inScope do
            if let some name := name then declare name caught false
            runAll fuel functions handler .unit)
          match handled with
          | .ok _ => return .unit
          | .error (.thrown .unit) => throw stop
          | .error later => throw later
    | .load source =>
      let _ ← evaluate fuel functions source
      fail .noModule

/-- The value of an expression that may be left out. -/
def evaluateOr (fuel : Nat) (functions : List Function) (e : Option Expr) : Run Value :=
  match fuel with
  | 0 => throw .exhausted
  | fuel + 1 =>
    match e with
    | some e => evaluate fuel functions e
    | none => return .unit

/-- Run the first case whose condition holds, or the one for all other values. -/
def runCase (fuel : Nat) (functions : List Function) (cases : List Case)
    (otherwise : Option Stmt) : Run Value :=
  match fuel with
  | 0 => throw .exhausted
  | fuel + 1 =>
    match cases with
    | [] =>
      match otherwise with
      | some s => inScope (run fuel functions s)
      | none => return .unit
    | .mk _ condition action :: cases => do
      let chosen ← match condition with
        | some c => truth (← evaluate fuel functions c)
        | none => pure true
      if chosen then inScope (run fuel functions action)
      else runCase fuel functions cases otherwise

/-- Repeat while a condition holds. -/
def runLoop (fuel : Nat) (functions : List Function) (condition : Option Expr)
    (body : List Stmt) : Run Value :=
  match fuel with
  | 0 => throw .exhausted
  | fuel + 1 => do
    tick
    let goOn ← match condition with
      | some c => truth (← evaluate fuel functions c)
      | none => pure true
    if goOn then
      match ← attempt (inScope (runAll fuel functions body .unit)) with
      | .ok _ | .error .skipped => runLoop fuel functions condition body
      | .error (.left v) => return v
      | .error stop => throw stop
    else return .unit

/-- Repeat as long as a condition has the value `goOn`. -/
def runRepeated (fuel : Nat) (functions : List Function) (body : List Stmt) (condition : Expr)
    (goOn : Bool) : Run Value :=
  match fuel with
  | 0 => throw .exhausted
  | fuel + 1 => do
    tick
    match ← attempt (inScope (runAll fuel functions body .unit)) with
    | .ok _ | .error .skipped =>
      if (← truth (← evaluate fuel functions condition)) == goOn then
        runRepeated fuel functions body condition goOn
      else return .unit
    | .error (.left v) => return v
    | .error stop => throw stop

/-- Go through items, counting them. -/
def runEach (fuel : Nat) (functions : List Function) (name : String) (counter : Option String)
    (index : Nat) (items : Items) (body : List Stmt) : Run Value :=
  match fuel with
  | 0 => throw .exhausted
  | fuel + 1 =>
    match items.next? with
    | none => return .unit
    | some (v, items) => do
      tick
      let r ← attempt (inScope do
        if let some counter := counter then declare counter (.int index) false
        declare name v false
        runAll fuel functions body .unit)
      match r with
      | .ok _ | .error .skipped => runEach fuel functions name counter (index + 1) items body
      | .error (.left v) => return v
      | .error stop => throw stop

end

/-- A supply of steps that no run uses up within the limits on operations. -/
def supply : Nat := Nat.pow 2 40

/-- The end of a run: its value or why it has none, `this` afterwards, and the readings of
the clocks that are left. -/
structure Ending where
  result : Except Stop Value
  this : Option Value
  clock : Clock

/-- Run a computation from the beginning, with clocks that show as given. -/
def Ending.ofRun (clock : Clock) (x : Run Value) (this : Option Value) : Ending :=
  let (r, m) := x { this, clock }
  match r with
  | .error (.returned v) => ⟨.ok v, m.this, m.clock⟩
  | r => ⟨r, m.this, m.clock⟩

namespace Program

/-- Run the statements of the file itself. -/
def runFile (p : Program) (clock : Clock) : Ending :=
  Ending.ofRun clock (runAll supply p.functions p.body .unit) none

/-- Call a function with exactly these arguments, in a scope of its own. -/
def call (p : Program) (clock : Clock) (name : String) (args : List Value)
    (this : Option Value) : Ending :=
  match Function.find? p.functions name args.length with
  | none => ⟨.error (.fault (.unknownFunction name)), this, clock⟩
  | some f =>
    let scope := (f.params.zip args).reverse.map fun (name, value) => { name, value }
    Ending.ofRun clock (do modify ({ · with scope }); runAll supply p.functions f.body .unit) this

end Program

end CloudEmulator.Script
