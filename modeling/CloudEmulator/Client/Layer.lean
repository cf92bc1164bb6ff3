import CloudEmulator.Client.Request
import CloudEmulator.Emulator.Interception

/-!
# The client layer

Stands between an HTTP client and its network: requests that the emulator answers
never reach the network, and all others reach it unchanged.
-/

namespace CloudEmulator

/-- What a network makes of a request: a response or a failure in words. -/
abbrev Network := HttpRequest → Except String WireResponse

/-- The outcome of a request through the layer. -/
inductive Exchange where
  | intercepted (r : WireResponse)
  | failed (e : DispatchError)
  /-- The request reached the network. -/
  | passed (outcome : Except String WireResponse)

namespace Emulator

variable {σ : Type}

/-- Send a request through the layer. -/
def exchange (e : Emulator σ) (network : Network) (r : HttpRequest) :
    Emulator σ × List Event × Exchange :=
  let url := r.absoluteUrl "http" ""
  if e.isAnswering url then
    match e.dispatchFor (r.incoming url) with
    | (e, events, .ok answer) => (e, events, .intercepted answer.encode)
    | (e, events, .error fault) => (e, events, .failed fault)
  else (e, [], .passed (network r))

end Emulator

end CloudEmulator
