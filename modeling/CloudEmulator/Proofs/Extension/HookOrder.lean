import CloudEmulator.Extension.Pipeline
import Mathlib.Data.List.Basic

/-!
# The order of hooks

The pipeline runs hooks in one pass over its entries. Here the same is said about
the list of selected extensions alone: which request hooks are called, whose answer
counts, what each response hook gets to see, and what is left of the entries.
-/

namespace CloudEmulator

namespace Extension

/-- The response that the request hook gives, if it gives one. -/
def answer? (x : Extension) (r : ServiceRequest) : Option Response :=
  (x.onRequest r).2.response?

/-- The extension once its request hook was called. -/
def asked (x : Extension) (r : ServiceRequest) : Extension :=
  (x.onRequest r).1

/-- The response that the response hook leaves: its own or the one it saw. -/
def rewrite (x : Extension) (s : Response) : Response :=
  (x.onResponse s).2.response?.getD s

/-- The extension once its response hook was called. -/
def shown (x : Extension) (s : Response) : Extension :=
  (x.onResponse s).1

/-- The extension without what one call of a hook leaves to the next: the state of its script
and the readings of the clocks. -/
def stateless (x : Extension) : Extension :=
  { x with state := .unit, clock := .still ⟨0, 0⟩ }

/-- The shortest front that ends with an extension that answers, or all of them. -/
def consulted (r : ServiceRequest) (xs : List Extension) : List Extension :=
  xs.take (xs.findIdx (fun x => (x.answer? r).isSome) + 1)

/-- The first answer, with the id of its extension. -/
def firstAnswer? (r : ServiceRequest) (xs : List Extension) : Option (String × Response) :=
  xs.findSome? fun x => (x.answer? r).map (x.id, ·)

/-- The extensions after the request hooks; those not consulted are as before. -/
def afterRequest (r : ServiceRequest) (xs : List Extension) : List Extension :=
  (consulted r xs).map (·.asked r) ++ xs.drop (consulted r xs).length

/-- The responses between the response hooks: each extension sees the one at its
own position, and the last one is what all of them leave. -/
def responses (s : Response) (xs : List Extension) : List Response :=
  xs.scanl (fun s x => x.rewrite s) s

/-- The response that all response hooks leave. -/
def rewritten (s : Response) (xs : List Extension) : Response :=
  xs.foldl (fun s x => x.rewrite s) s

/-- The extensions after the response hooks. -/
def afterResponse (s : Response) (xs : List Extension) : List Extension :=
  List.zipWith shown xs (responses s xs)

/-- The calls of request hooks, in order. -/
def requestCalls (r : ServiceRequest) (xs : List Extension) : List HookCall :=
  (consulted r xs).map .request

/-- The calls of response hooks, in order. -/
def responseCalls (s : Response) (xs : List Extension) : List HookCall :=
  List.zipWith .response xs (responses s xs)

/-- A call of a script changes nothing but what it leaves to the next one. -/
theorem callScript_stateless (x : Extension) (program : Script.Program)
    (function : Option String) (args : List Script.Value) :
    (x.callScript program function args).1.stateless = x.stateless := by
  cases function <;> rfl

/-- A request hook changes nothing but what it leaves to the next one. -/
theorem asked_stateless (x : Extension) (r : ServiceRequest) :
    (x.asked r).stateless = x.stateless := by
  unfold asked onRequest
  cases x.hooks with
  | script program request response => exact callScript_stateless x program request _
  | native request response => rfl

/-- A response hook changes nothing but what it leaves to the next one. -/
theorem shown_stateless (x : Extension) (s : Response) :
    (x.shown s).stateless = x.stateless := by
  unfold shown onResponse
  cases x.hooks with
  | script program request response => exact callScript_stateless x program response _
  | native request response => rfl

/-- The id of an extension outlives its request hook. -/
@[simp] theorem asked_id (x : Extension) (r : ServiceRequest) : (x.asked r).id = x.id := by
  change (x.asked r).stateless.id = x.stateless.id
  rw [asked_stateless]

/-- An extension selects the same operations after its request hook. -/
@[simp] theorem asked_selects (x : Extension) (r : ServiceRequest) (key : String) :
    (x.asked r).selects key = x.selects key := by
  change (x.asked r).stateless.selects key = x.stateless.selects key
  rw [asked_stateless]

/-- An extension selects the same operations after its response hook. -/
@[simp] theorem shown_selects (x : Extension) (s : Response) (key : String) :
    (x.shown s).selects key = x.selects key := by
  change (x.shown s).stateless.selects key = x.stateless.selects key
  rw [shown_stateless]

/-- Nobody is consulted where nobody is there. -/
@[simp] theorem consulted_nil (r : ServiceRequest) : consulted r [] = [] := rfl

/-- An extension that answers is the last one to be consulted. -/
theorem consulted_cons_of_answer {r : ServiceRequest} {x : Extension} {answer : Response}
    (h : x.answer? r = some answer) (xs : List Extension) : consulted r (x :: xs) = [x] := by
  simp [consulted, List.findIdx_cons, h]

/-- Behind an extension that does not answer the others are consulted. -/
theorem consulted_cons_of_none {r : ServiceRequest} {x : Extension} (h : x.answer? r = none)
    (xs : List Extension) : consulted r (x :: xs) = x :: consulted r xs := by
  simp [consulted, List.findIdx_cons, h]

/-- Without an answer all extensions are consulted. -/
theorem consulted_eq_self {r : ServiceRequest} {xs : List Extension}
    (h : firstAnswer? r xs = none) : consulted r xs = xs := by
  induction xs with
  | nil => rfl
  | cons x xs ih =>
    cases hx : x.answer? r with
    | some answer => simp [firstAnswer?, hx] at h
    | none =>
      have hrest : firstAnswer? r xs = none := by simpa [firstAnswer?, hx] using h
      rw [consulted_cons_of_none hx, ih hrest]

/-- Without an answer every extension has been asked. -/
theorem afterRequest_eq_map {r : ServiceRequest} {xs : List Extension}
    (h : firstAnswer? r xs = none) : afterRequest r xs = xs.map (·.asked r) := by
  simp [afterRequest, consulted_eq_self h]

end Extension

namespace Registered

/-- The entry takes part in the hooks of a request. Without an operation none does. -/
def isFor (r : ServiceRequest) (x : Registered) : Bool :=
  r.selectorKey?.any x.extension.selects

/-- The entry without what one call of a hook leaves to the next. -/
def stateless (x : Registered) : Registered :=
  { x with extension := x.extension.stateless }

/-- With a known key, taking part is being selected by it. -/
theorem isFor_of_key {r : ServiceRequest} {key : String} (hkey : r.selectorKey? = some key)
    (x : Registered) : x.isFor r = x.extension.selects key := by
  simp [isFor, hkey]

end Registered

namespace Pipeline

open Extension (answer? asked shown rewrite consulted firstAnswer? afterRequest afterResponse
  responses rewritten requestCalls responseCalls)

/-- The extensions of some entries that select a request, in order. -/
def selectedIn (r : ServiceRequest) (entries : List Registered) : List Extension :=
  (entries.filter (Registered.isFor r)).map (·.extension)

/-- The extensions that select a request, in the order in which they run. -/
def selected (p : Pipeline) (r : ServiceRequest) : List Extension :=
  selectedIn r p.entries

/-- Entries in which the extensions that select a request are now `xs`, all others
are as before, and everything but the states of scripts stands where it stood. -/
structure Restated (r : ServiceRequest) (before : List Registered) (xs : List Extension)
    (after : List Registered) : Prop where
  selected : selectedIn r after = xs
  others : after.filter (fun x => !x.isFor r) = before.filter fun x => !x.isFor r
  stateless : after.map Registered.stateless = before.map Registered.stateless

namespace Restated

variable {r : ServiceRequest} {before after : List Registered} {xs : List Extension}

/-- Entries that nothing happens to. -/
theorem refl (r : ServiceRequest) (entries : List Registered) :
    Restated r entries (selectedIn r entries) entries := ⟨rfl, rfl, rfl⟩

/-- What happens first is not seen in the end. -/
theorem trans {between : List Registered} {ys : List Extension}
    (h : Restated r before xs between) (h' : Restated r between ys after) :
    Restated r before ys after :=
  ⟨h'.selected, h'.others.trans h.others, h'.stateless.trans h.stateless⟩

/-- An entry in front that takes part, with a new state. -/
theorem cons_selected {x y : Registered} (hx : x.isFor r = true) (hy : y.isFor r = true)
    (hstate : y.stateless = x.stateless) (h : Restated r before xs after) :
    Restated r (x :: before) (y.extension :: xs) (y :: after) where
  selected := by
    rw [← h.selected]
    simp [selectedIn, hy]
  others := by simpa [hx, hy] using h.others
  stateless := by simpa [hstate] using h.stateless

/-- An entry in front that does not take part. -/
theorem cons_other {x : Registered} (hx : x.isFor r = false) (h : Restated r before xs after) :
    Restated r (x :: before) xs (x :: after) where
  selected := by
    rw [← h.selected]
    simp [selectedIn, hx]
  others := by simpa [hx] using h.others
  stateless := by simpa using h.stateless

end Restated

variable {r : ServiceRequest} {key : String}

/-- The selected extensions behind an entry that takes part. -/
theorem selectedIn_cons_of_isFor {x : Registered} (hx : x.isFor r = true)
    (entries : List Registered) :
    selectedIn r (x :: entries) = x.extension :: selectedIn r entries := by
  simp [selectedIn, hx]

/-- The selected extensions behind an entry that does not take part. -/
theorem selectedIn_cons_of_not {x : Registered} (hx : x.isFor r = false)
    (entries : List Registered) : selectedIn r (x :: entries) = selectedIn r entries := by
  simp [selectedIn, hx]

/-- The pass of request hooks consults the selected extensions up to the first
answer, which is its result. The induction is on the entries; the answer of the one
in front decides whether the rest is reached. -/
theorem passRequest_eq (hkey : r.selectorKey? = some key) (entries : List Registered) :
    (passRequest key r entries).calls = requestCalls r (selectedIn r entries) ∧
      (passRequest key r entries).result = firstAnswer? r (selectedIn r entries) := by
  induction entries with
  | nil => exact ⟨rfl, rfl⟩
  | cons x entries ih =>
    obtain ⟨hcalls, hresult⟩ := ih
    have hfor := Registered.isFor_of_key hkey x
    cases hx : x.extension.selects key with
    | false =>
      rw [selectedIn_cons_of_not (hfor.trans hx)]
      simpa [passRequest, hx] using ⟨hcalls, hresult⟩
    | true =>
      rw [selectedIn_cons_of_isFor (hfor.trans hx)]
      cases hanswer : x.extension.answer? r with
      | none =>
        have hnone : (x.extension.onRequest r).2.response? = none := hanswer
        simp [passRequest, hx, hnone, requestCalls, Extension.consulted_cons_of_none hanswer,
          hcalls, hresult, firstAnswer?, hanswer]
      | some answer =>
        have hsome : (x.extension.onRequest r).2.response? = some answer := hanswer
        have hid : (x.extension.onRequest r).1.id = x.extension.id := Extension.asked_id _ r
        simp [passRequest, hx, hsome, requestCalls, Extension.consulted_cons_of_answer hanswer,
          firstAnswer?, hanswer, hid]

/-- The pass of request hooks changes the states of those it consults. -/
theorem passRequest_restated (hkey : r.selectorKey? = some key) (entries : List Registered) :
    Restated r entries (afterRequest r (selectedIn r entries))
      (passRequest key r entries).entries := by
  induction entries with
  | nil => exact Restated.refl r []
  | cons x entries ih =>
    have hfor := Registered.isFor_of_key hkey
    let y : Registered := { x with extension := x.extension.asked r }
    have hstate : y.stateless = x.stateless := by
      simp [y, Registered.stateless, Extension.asked_stateless]
    cases hx : x.extension.selects key with
    | false =>
      rw [selectedIn_cons_of_not ((hfor x).trans hx)]
      simpa [passRequest, hx] using ih.cons_other ((hfor x).trans hx)
    | true =>
      have hy : y.isFor r = true := by simp [hfor, y, hx]
      rw [selectedIn_cons_of_isFor ((hfor x).trans hx)]
      cases hanswer : x.extension.answer? r with
      | none =>
        have hnone : (x.extension.onRequest r).2.response? = none := hanswer
        have h := ih.cons_selected ((hfor x).trans hx) hy hstate
        simpa [passRequest, hx, hnone, afterRequest, Extension.consulted_cons_of_none hanswer,
          y, asked] using h
      | some answer =>
        have hsome : (x.extension.onRequest r).2.response? = some answer := hanswer
        have h := (Restated.refl r entries).cons_selected ((hfor x).trans hx) hy hstate
        simpa [passRequest, hx, hsome, afterRequest, Extension.consulted_cons_of_answer hanswer,
          y, asked] using h

/-- The pass of response hooks calls every selected extension on the response that
the ones before it left. -/
theorem passResponse_eq (hkey : r.selectorKey? = some key) (s : Response)
    (entries : List Registered) :
    (passResponse key s entries).calls = responseCalls s (selectedIn r entries) ∧
      (passResponse key s entries).result = rewritten s (selectedIn r entries) := by
  induction entries generalizing s with
  | nil => exact ⟨rfl, rfl⟩
  | cons x entries ih =>
    have hfor := Registered.isFor_of_key hkey x
    cases hx : x.extension.selects key with
    | false =>
      rw [selectedIn_cons_of_not (hfor.trans hx)]
      simpa [passResponse, hx] using ih s
    | true =>
      obtain ⟨hcalls, hresult⟩ := ih (x.extension.rewrite s)
      rw [selectedIn_cons_of_isFor (hfor.trans hx)]
      constructor
      · simpa [passResponse, hx, responseCalls, responses, rewrite] using hcalls
      · simpa [passResponse, hx, rewritten, rewrite] using hresult

/-- The pass of response hooks changes the states of the selected extensions. -/
theorem passResponse_restated (hkey : r.selectorKey? = some key) (s : Response)
    (entries : List Registered) :
    Restated r entries (afterResponse s (selectedIn r entries))
      (passResponse key s entries).entries := by
  induction entries generalizing s with
  | nil => exact Restated.refl r []
  | cons x entries ih =>
    have hfor := Registered.isFor_of_key hkey
    cases hx : x.extension.selects key with
    | false =>
      rw [selectedIn_cons_of_not ((hfor x).trans hx)]
      simpa [passResponse, hx] using (ih s).cons_other ((hfor x).trans hx)
    | true =>
      let y : Registered := { x with extension := x.extension.shown s }
      have hy : y.isFor r = true := by simp [hfor, y, hx]
      have hstate : y.stateless = x.stateless := by
        simp [y, Registered.stateless, Extension.shown_stateless]
      rw [selectedIn_cons_of_isFor ((hfor x).trans hx)]
      have h := (ih (x.extension.rewrite s)).cons_selected ((hfor x).trans hx) hy hstate
      simpa [passResponse, hx, afterResponse, responses, rewrite, shown, y] using h

/-- Without a key no extension is selected. -/
theorem selectedIn_of_no_key (hkey : r.selectorKey? = none) (entries : List Registered) :
    selectedIn r entries = [] := by
  simp [selectedIn, Registered.isFor, hkey]

/-- Running the request hooks of a pipeline, with or without a key: the calls, the
answer, and the extensions that are left. -/
theorem runRequest_eq (p : Pipeline) (r : ServiceRequest) :
    (p.runRequest r).2.1 = requestCalls r (p.selected r) ∧
      (p.runRequest r).2.2 = firstAnswer? r (p.selected r) ∧
      Restated r p.entries (afterRequest r (p.selected r)) (p.runRequest r).1.entries := by
  unfold selected runRequest
  cases hkey : r.selectorKey? with
  | none =>
    have h := Restated.refl r p.entries
    rw [selectedIn_of_no_key hkey] at h ⊢
    exact ⟨rfl, rfl, h⟩
  | some key =>
    obtain ⟨hcalls, hresult⟩ := passRequest_eq hkey p.entries
    exact ⟨hcalls, hresult, passRequest_restated hkey p.entries⟩

/-- Running the response hooks of a pipeline, with or without a key: the calls, the
response, and the extensions that are left. -/
theorem runResponse_eq (p : Pipeline) (r : ServiceRequest) (s : Response) :
    (p.runResponse r s).2.1 = responseCalls s (p.selected r) ∧
      (p.runResponse r s).2.2 = rewritten s (p.selected r) ∧
      Restated r p.entries (afterResponse s (p.selected r)) (p.runResponse r s).1.entries := by
  unfold selected runResponse
  cases hkey : r.selectorKey? with
  | none =>
    have h := Restated.refl r p.entries
    rw [selectedIn_of_no_key hkey] at h ⊢
    exact ⟨rfl, rfl, h⟩
  | some key =>
    obtain ⟨hcalls, hresult⟩ := passResponse_eq hkey s p.entries
    exact ⟨hcalls, hresult, passResponse_restated hkey s p.entries⟩

end Pipeline

end CloudEmulator
