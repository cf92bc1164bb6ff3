import CloudEmulator.Extension.Conversion
import CloudEmulator.Script.Evaluation

/-!
# Extensions

Observers of the requests they select. The request hook may answer a request in
place of its handler, the response hook may replace the response. The hooks of a
script keep a state between calls, which they see as `this`, and may read the clocks.
-/

namespace CloudEmulator

open Script (Clock Program Value)

/-- The hooks of an extension. -/
inductive Hooks where
  /-- The functions of a script, where they are declared. -/
  | script (program : Program) (request response : Option String)
  /-- Functions of native code that only depend on what they are called with. Code that
  keeps a state of its own, or changes the pipeline while it is called, is none of them. -/
  | native (request : Option (ServiceRequest → Option Response))
      (response : Option (Response → Option Response))

/-- An extension with its state. -/
structure Extension where
  id : String
  typeName : String := ""
  /-- The operations it is for. -/
  selector : List String
  hooks : Hooks
  state : Value := .unit
  /-- What the clocks will show when a hook of a script reads them. -/
  clock : Clock := .still ⟨0, 0⟩

/-- How the call of a hook ends. -/
inductive HookOutcome where
  | response (r : Response)
  | none
  /-- The script failed. -/
  | failed
  /-- What the script returned is no response. -/
  | invalid (fault : ResponseFault)

namespace HookOutcome

/-- The response that a hook gives. -/
def response? : HookOutcome → Option Response
  | response r => some r
  | _ => Option.none

/-- The outcome of a hook of native code. -/
def ofOption : Option Response → HookOutcome
  | some r => response r
  | Option.none => none

/-- The outcome of a hook of a script. -/
def ofResult : Except Script.Stop Value → HookOutcome
  | .error _ => failed
  | .ok v =>
    if v.isUnit then none
    else
      match Response.ofValue v with
      | .ok r => response r
      | .error fault => invalid fault

end HookOutcome

namespace Extension

/-- The extension is for the operation. -/
def selects (e : Extension) (key : String) : Bool :=
  e.selector.contains key

/-- Call a function of the script with the state as `this`. -/
def callScript (e : Extension) (program : Program) (function : Option String)
    (args : List Value) : Extension × HookOutcome :=
  match function with
  | none => (e, .none)
  | some function =>
    let ending := program.call e.clock function args (some e.state)
    ({ e with state := ending.this.getD e.state, clock := ending.clock }, .ofResult ending.result)

/-- Call the request hook. -/
def onRequest (e : Extension) (r : ServiceRequest) : Extension × HookOutcome :=
  match e.hooks with
  | .script program request _ => e.callScript program request [r.toValue]
  | .native request _ => (e, .ofOption (request.bind (· r)))

/-- Call the response hook. -/
def onResponse (e : Extension) (r : Response) : Extension × HookOutcome :=
  match e.hooks with
  | .script program _ response => e.callScript program response r.toArguments
  | .native _ response => (e, .ofOption (response.bind (· r)))

end Extension

end CloudEmulator
