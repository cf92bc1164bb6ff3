import CloudEmulator.Emulator.Dispatch

/-!
# Activation

Scopes in which an emulator is active may nest. Only the outermost one has
effects: it exports the credentials and switches interception on, and at its end
puts the environment back exactly, switches interception off and resets all
backends if asked to.
-/

namespace CloudEmulator

/-- An emulator with the environment of its host and the scopes that are open. -/
structure Activation (σ : Type) where
  emulator : Emulator σ
  env : Environment := {}
  depth : Nat := 0
  /-- What the variables were before the outermost scope. -/
  saved : List (String × Option Bytes) := []

/-- Why a scope cannot end. -/
inductive LifecycleError where
  | underflow
  deriving DecidableEq, Repr

namespace LifecycleError

/-- The error in words. -/
def message : LifecycleError → String
  | underflow => "stop() called more times than start()"

end LifecycleError

namespace Activation

variable {σ : Type}

/-- The variable of the key's id. -/
def keyVariable : String := "AWS_ACCESS_KEY_ID"

/-- The variable of the key itself. -/
def secretVariable : String := "AWS_SECRET_ACCESS_KEY"

/-- Some scope is open. -/
def isActive (a : Activation σ) : Bool :=
  0 < a.depth

/-- Export the credentials and keep what the variables were. -/
def patch (a : Activation σ) : Activation σ :=
  let credentials := a.emulator.config.credentials
  { a with
    saved := [(keyVariable, a.env.octets? keyVariable),
      (secretVariable, a.env.octets? secretVariable)]
    env := (a.env.set keyVariable credentials.accessKeyId).set
      secretVariable credentials.secretAccessKey }

/-- Put the variables back. -/
def restore (a : Activation σ) : Activation σ :=
  { a with
    env := a.saved.foldl (fun env (name, value) => env.put name value) a.env
    saved := [] }

/-- Switch interception on or off. -/
def setIntercepting (a : Activation σ) (on : Bool) : Activation σ :=
  { a with emulator := { a.emulator with intercepting := on } }

/-- Open a scope. -/
def start (a : Activation σ) : Activation σ :=
  let a := { a with depth := a.depth + 1 }
  if 1 < a.depth then a
  else
    let a := if a.emulator.config.patchEnv then a.patch else a
    a.setIntercepting true

/-- End a scope, and reset the backends behind the outermost one if asked to. -/
def stop (a : Activation σ) (reset : Bool) :
    Except LifecycleError (Activation σ × List Event) :=
  match a.depth with
  | 0 => .error .underflow
  | depth + 1 =>
    let a := { a with depth }
    if 0 < depth then .ok (a, [])
    else
      let a := a.restore.setIntercepting false
      if reset then
        let (emulator, events, _) := a.emulator.reset
        .ok ({ a with emulator }, events)
      else .ok (a, [])

/-- End the scope of a guard. A guard whose scope was ended already does nothing. -/
def dropGuard (a : Activation σ) : Activation σ × List Event :=
  match a.stop true with
  | .ok ended => ended
  | .error _ => (a, [])

end Activation

end CloudEmulator
