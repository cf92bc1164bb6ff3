import CloudEmulator.Emulator.Dispatch

/-!
# Interception

While interception is on, requests whose URL belongs to a service are answered by
the emulator. All others pass through.
-/

namespace CloudEmulator

/-- An answer of the emulator, with the URL it answers. -/
structure InterceptedResponse where
  url : String
  response : Response

namespace InterceptedResponse

/-- The answer as a connection would carry it. -/
def encode (r : InterceptedResponse) : WireResponse :=
  r.response.encode

end InterceptedResponse

namespace Emulator

variable {σ : Type}

/-- A request to the URL would be answered right now. -/
def isAnswering (e : Emulator σ) (url : String) : Bool :=
  e.intercepting && (e.index.classify? url).isSome

/-- Answer a request whatever the switch says. -/
def dispatchFor (e : Emulator σ) (r : IncomingRequest) :
    Emulator σ × List Event × Except DispatchError InterceptedResponse :=
  let (e, events, outcome) := e.dispatch r
  (e, events, outcome.map (⟨r.url, ·⟩))

/-- Answer a request, or let it pass: then there is no response and nothing
happens. -/
def intercept (e : Emulator σ) (r : IncomingRequest) :
    Emulator σ × List Event × Except DispatchError (Option InterceptedResponse) :=
  if e.isAnswering r.url then
    let (e, events, outcome) := e.dispatchFor r
    (e, events, outcome.map some)
  else (e, [], .ok none)

end Emulator

end CloudEmulator
