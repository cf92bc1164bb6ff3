import CloudEmulator.Extension.Loader

/-!
# The extension pipeline

Extensions by ascending priority; those of one priority run in the order of their
registrations, which are numbered. Each sees only the operations it selects.
-/

namespace CloudEmulator

/-- An extension of the pipeline with its priority and the number of its registration. -/
structure Registered where
  priority : Int
  seq : Nat
  extension : Extension

/-- The entry runs before the other: by priority, then by registration. -/
def Registered.precedes (x y : Registered) : Bool :=
  x.priority < y.priority || (x.priority == y.priority && x.seq < y.seq)

/-- The extensions in the order in which they run, and the number of the next
registration. That number has 64 bits in the proxy, which is as good as none for fewer than
2 to the 64 registrations. -/
structure Pipeline where
  entries : List Registered := []
  nextSeq : Nat := 0

/-- The call of a hook. -/
inductive HookCall where
  | request (e : Extension)
  | response (e : Extension) (seen : Response)

namespace Pipeline

/-- The ids in the order in which the extensions run. -/
def ids (p : Pipeline) : List String :=
  p.entries.map (·.extension.id)

/-- The number of extensions. -/
def size (p : Pipeline) : Nat :=
  p.entries.length

/-- Drop the extension of an id. -/
def remove (p : Pipeline) (id : String) : Pipeline :=
  { p with entries := p.entries.filter fun r => r.extension.id != id }

/-- Drop the extension of an id, and tell whether there was one: then fewer are left. -/
def withdraw (p : Pipeline) (id : String) : Pipeline × Bool :=
  let rest := p.remove id
  (rest, p.size != rest.size)

/-- Drop all extensions. -/
def clear (p : Pipeline) : Pipeline :=
  { p with entries := [] }

/-- Put an entry in front of the first one that it precedes. -/
def place (r : Registered) : List Registered → List Registered
  | [] => [r]
  | x :: rest => if r.precedes x then r :: x :: rest else x :: place r rest

/-- Add an extension; one that has its id leaves. -/
def register (p : Pipeline) (priority : Int) (e : Extension) : Pipeline where
  entries := place ⟨priority, p.nextSeq, e⟩ (p.remove e.id).entries
  nextSeq := p.nextSeq + 1

/-- Add several extensions of one priority in turn. -/
def registerAll (p : Pipeline) (priority : Int) (es : List Extension) : Pipeline :=
  es.foldl (fun p e => p.register priority e) p

/-- Load a file: all its extensions join in the order of their ids, or none. -/
def load (p : Pipeline) (clocks : Extension.Clocks) (priority : Int) (catalog : OperationCatalog)
    (contents : Option Bytes) : Except Extension.LoadError (Pipeline × List String) := do
  let es ← Extension.ofFile clocks catalog contents
  return (p.registerAll priority es, es.map (·.id))

/-- Set the clocks, for what all hooks will read. -/
def setClock (p : Pipeline) (clock : Script.Clock) : Pipeline :=
  { p with entries := p.entries.map fun r => { r with extension := { r.extension with clock } } }

/-- What running hooks leaves: the entries with their new states, and the calls. -/
structure Pass (α : Type) where
  entries : List Registered
  calls : List HookCall
  result : α

/-- Call the request hooks for an operation up to the first answer. -/
def passRequest (key : String) (r : ServiceRequest) :
    List Registered → Pass (Option (String × Response))
  | [] => ⟨[], [], none⟩
  | x :: rest =>
    if x.extension.selects key then
      let (e, outcome) := x.extension.onRequest r
      let x' : Registered := { x with extension := e }
      match outcome.response? with
      | some answer => ⟨x' :: rest, [.request x.extension], some (e.id, answer)⟩
      | none =>
        let pass := passRequest key r rest
        ⟨x' :: pass.entries, .request x.extension :: pass.calls, pass.result⟩
    else
      let pass := passRequest key r rest
      ⟨x :: pass.entries, pass.calls, pass.result⟩

/-- Call the response hooks for an operation; each sees what the one before left. -/
def passResponse (key : String) (response : Response) : List Registered → Pass Response
  | [] => ⟨[], [], response⟩
  | x :: rest =>
    if x.extension.selects key then
      let (e, outcome) := x.extension.onResponse response
      let pass := passResponse key (outcome.response?.getD response) rest
      ⟨{ x with extension := e } :: pass.entries,
        .response x.extension response :: pass.calls, pass.result⟩
    else
      let pass := passResponse key response rest
      ⟨x :: pass.entries, pass.calls, pass.result⟩

/-- The first answer of a request hook, with the id of its extension. -/
def runRequest (p : Pipeline) (r : ServiceRequest) :
    Pipeline × List HookCall × Option (String × Response) :=
  match r.selectorKey? with
  | none => (p, [], none)
  | some key =>
    let pass := passRequest key r p.entries
    ({ p with entries := pass.entries }, pass.calls, pass.result)

/-- The response after all response hooks. -/
def runResponse (p : Pipeline) (r : ServiceRequest) (response : Response) :
    Pipeline × List HookCall × Response :=
  match r.selectorKey? with
  | none => (p, [], response)
  | some key =>
    let pass := passResponse key response p.entries
    ({ p with entries := pass.entries }, pass.calls, pass.result)

end Pipeline

end CloudEmulator
