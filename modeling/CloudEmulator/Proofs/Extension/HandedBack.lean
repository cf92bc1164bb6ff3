import CloudEmulator.Proofs.Extension.HeaderView
import CloudEmulator.Proofs.Extension.HookAnswers
import CloudEmulator.Proofs.Http.HeaderEquality
import CloudEmulator.Proofs.Script.Entries
import CloudEmulator.Proofs.Script.Records
import CloudEmulator.Proofs.Text.Encoding
import CloudEmulator.Proofs.Text.Letters

/-!
# Response hooks that hand back what they get

A script gets a response as a status, a map of headers and a text, and answers with a map of the
three. Where it hands back its own arguments the response stays the same, but for the order of
the headers and the case of their names, and no script behind it can tell.
-/

namespace CloudEmulator

open Script (Function Program Stop Value)
open Extension (rewritten afterResponse)

namespace Headers

variable {h other : Headers}

/-- The entries of which the map of the headers is made. -/
def shown (h : Headers) : List (String × Value) :=
  h.entries.map fun (name, value) => (Text.lower name, .str value)

/-- An entry of a map as a header. -/
def told (entry : String × Value) : String × String :=
  (entry.1, entry.2.text)

/-- The headers that a script hands back with the map of the headers. -/
def reread (h : Headers) : Headers :=
  .ofList ((Value.collected h.shown).map told)

/-- The entries are shown by their names in lower case. -/
theorem names_shown (h : Headers) : h.shown.map (·.1) = h.names := by
  rw [shown, List.map_map]
  rfl

/-- What is shown of headers is told by their entries with names in lower case. -/
theorem shown_eq (h : Headers) : h.shown = h.keys.map fun (name, value) => (name, .str value) := by
  rw [keys, List.map_map]
  rfl

/-- Rearranged headers of different names are one map. -/
theorem toValue_eq_of_rearranges (hnodup : h.names.Nodup) (hperm : h.Rearranges other) :
    h.toValue = other.toValue := by
  have hshown : h.shown.Perm other.shown := by
    rw [shown_eq, shown_eq]
    exact hperm.map _
  exact Value.ofEntries_eq_of_perm (h.names_shown ▸ hnodup) hshown

/-- The map of headers of different names holds all their entries, in another order. -/
theorem map_told_perm (hnodup : h.names.Nodup) :
    ((Value.collected h.shown).map told).Perm h.keys := by
  have htold : h.shown.map told = h.keys := by
    rw [shown, List.map_map]
    rfl
  have hcollected : (Value.collected h.shown).Perm h.shown :=
    Value.collected_perm (h.names_shown ▸ hnodup)
  exact htold ▸ hcollected.map told

/-- They are set one after the other, each behind those before. -/
theorem entries_reread (hnodup : h.names.Nodup) :
    h.reread.entries = (Value.collected h.shown).map told := by
  have hnames : (h.keys.map fun entry => Text.lower entry.1) = h.names := by
    rw [keys, List.map_map]
    exact List.map_congr_left fun entry _ => Text.lower_lower entry.1
  have hperm := (map_told_perm hnodup).map fun entry => Text.lower entry.1
  rw [hnames] at hperm
  exact entries_ofList (hperm.nodup_iff.mpr hnodup)

/-- Headers of different names come back in another order, with their names in lower case. -/
theorem rearranges_reread (hnodup : h.names.Nodup) : h.Rearranges h.reread := by
  have hlower : ∀ entry ∈ (Value.collected h.shown).map told, key entry = entry := by
    intro entry hentry
    obtain ⟨original, -, rfl⟩ := List.mem_map.mp ((map_told_perm hnodup).mem_iff.mp hentry)
    rw [key, key, Text.lower_lower]
  have hkeys : h.reread.keys = (Value.collected h.shown).map told := by
    rw [keys, entries_reread hnodup]
    exact (List.map_congr_left hlower).trans (List.map_id _)
  rw [Rearranges, hkeys]
  exact (map_told_perm hnodup).symm

end Headers

namespace Response

variable {r back : Response}

/-- The value of a map of the arguments of a response hook. -/
def handedBack (r : Response) : Value :=
  .ofEntries (["status", "headers", "body"].zip r.toArguments)

/-- The responses are the same up to the order of their headers and the case of the names. -/
structure Alike (r back : Response) : Prop where
  status : back.status = r.status
  body : back.body = r.body
  headers : r.headers.Rearranges back.headers

/-- Scripts see the response as it is: its body is a text, and it has each header once. -/
structure Tellable (r : Response) : Prop where
  body : ∃ text, r.body = Utf8.encode text
  names : r.headers.names.Nodup

/-- A response is like itself. -/
theorem Alike.refl (r : Response) : r.Alike r := ⟨rfl, rfl, List.Perm.refl _⟩

/-- What is alike has the same names. -/
theorem Alike.nodup_names_iff (h : r.Alike back) :
    r.headers.names.Nodup ↔ back.headers.names.Nodup := by
  have hnames (headers : Headers) : headers.keys.map (·.1) = headers.names := by
    rw [Headers.keys, List.map_map]
    rfl
  rw [← hnames, ← hnames]
  exact (h.headers.map _).nodup_iff

/-- Scripts get the same arguments for responses that are alike. -/
theorem Alike.toArguments_eq (h : r.Alike back) (hnodup : r.headers.names.Nodup) :
    back.toArguments = r.toArguments := by
  rw [toArguments, toArguments, bodyText, bodyText, h.status, h.body,
    Headers.toValue_eq_of_rearranges hnodup h.headers]

/-- The entries of the map that is handed back. -/
def parts (r : Response) : List (String × Value) :=
  Value.collected (["status", "headers", "body"].zip r.toArguments)

/-- The parts of the map are found under their names. -/
theorem find?_parts (r : Response) :
    Value.find? "status" r.parts = some (.int r.status.toNat) ∧
      Value.find? "headers" r.parts = some r.headers.toValue ∧
      Value.find? "body" r.parts = some (.str r.bodyText) := by
  simp [parts, Value.collected, toArguments, Value.find?_insertEntry]

/-- The status comes back if it is in its bounds. -/
theorem statusOf_parts (r : Response) : statusOf r.parts =
    if 100 ≤ r.status.toNat ∧ r.status.toNat ≤ 999 then .ok r.status
    else .error (.statusRange r.status.toNat) := by
  have hbounds : (100 ≤ (r.status.toNat : Int) ∧ (r.status.toNat : Int) ≤ 999) ↔
      100 ≤ r.status.toNat ∧ r.status.toNat ≤ 999 := by omega
  rw [statusOf, (find?_parts r).1]
  simp only [hbounds, Int.toNat_natCast, UInt16.ofNat_toNat]

/-- Headers come back by way of their map. -/
theorem headersOf_parts (r : Response) : headersOf r.parts = .ok r.headers.reread := by
  rw [headersOf, (find?_parts r).2.1]
  rfl

/-- The body comes back as the text that it is read as. -/
theorem bodyOf_parts (r : Response) : bodyOf r.parts = .ok (Utf8.encode r.bodyText) := by
  rw [bodyOf, (find?_parts r).2.2]
  rfl

/-- What comes of handing back the arguments. -/
theorem ofValue_handedBack (r : Response) : ofValue r.handedBack =
    if 100 ≤ r.status.toNat ∧ r.status.toNat ≤ 999 then
      .ok ⟨r.status, r.headers.reread, Utf8.encode r.bodyText⟩
    else .error (.statusRange r.status.toNat) := by
  change (do
    let status ← statusOf r.parts
    let headers ← headersOf r.parts
    let body ← bodyOf r.parts
    return ({ status, headers, body } : Response)) = _
  rw [statusOf_parts, headersOf_parts, bodyOf_parts]
  split <;> rfl

/-- A response that scripts see as it is comes back like itself. -/
theorem Tellable.alike_reread (h : r.Tellable) :
    r.Alike ⟨r.status, r.headers.reread, Utf8.encode r.bodyText⟩ where
  status := rfl
  body := by
    obtain ⟨text, htext⟩ := h.body
    rw [bodyText, htext, Utf8.lossy_encode]
  headers := Headers.rearranges_reread h.names

/-- A response comes back like itself exactly if its status is in its bounds and scripts see it as
it is. -/
theorem exists_alike_iff : (∃ back, ofValue r.handedBack = .ok back ∧ r.Alike back) ↔
    (100 ≤ r.status.toNat ∧ r.status.toNat ≤ 999) ∧ r.Tellable := by
  rw [ofValue_handedBack]
  constructor
  · rintro ⟨back, hback, halike⟩
    split at hback
    next hbounds =>
      obtain rfl := Except.ok.inj hback
      have hnames := halike.nodup_names_iff.mpr (Headers.nodup_names_ofList _)
      exact ⟨hbounds, ⟨_, halike.body.symm⟩, hnames⟩
    next => cases hback
  · rintro ⟨hbounds, htellable⟩
    exact ⟨_, if_pos hbounds, htellable.alike_reread⟩

end Response

namespace HookOutcome

/-- An answer of a script has each header once. -/
theorem nodup_names_of_ofResult {ending : Except Stop Value} {answer : Response}
    (h : (ofResult ending).response? = some answer) : answer.headers.names.Nodup := by
  obtain ⟨v, -, hvalue⟩ := response?_ofResult_eq_some_iff.mp h
  obtain ⟨entries, -, -, hheaders, -⟩ := Response.ofValue_eq_ok_iff.mp hvalue
  exact Response.nodup_names_of_headersOf hheaders

end HookOutcome

namespace Extension

variable {x : Extension} {xs : List Extension} {r back : Response}

/-- The response hook ends with the map of its own arguments, whatever it is called with. -/
def HandsBack (x : Extension) : Prop :=
  ∀ s : Response, (x.onResponse s).2 = .ofResult (.ok s.handedBack)

/-- The hooks of the extension are functions of a script. -/
def IsScript (x : Extension) : Prop :=
  ∃ program request response, x.hooks = .script program request response

/-- What a hook that hands back leaves. -/
theorem HandsBack.rewrite_eq (hx : x.HandsBack) (r : Response) : x.rewrite r =
    if 100 ≤ r.status.toNat ∧ r.status.toNat ≤ 999 then
      ⟨r.status, r.headers.reread, Utf8.encode r.bodyText⟩
    else r := by
  have hvalue := Response.ofValue_handedBack r
  have hanswer (back : Response) : (x.onResponse r).2.response? = some back ↔
      Response.ofValue r.handedBack = .ok back := by
    rw [hx r, HookOutcome.response?_ofResult_eq_some_iff]
    exact ⟨fun ⟨v, hv, h⟩ => Except.ok.inj hv ▸ h, fun h => ⟨_, rfl, h⟩⟩
  rw [rewrite]
  split
  next hbounds =>
    rw [if_pos hbounds] at hvalue
    rw [(hanswer _).mpr hvalue, Option.getD_some]
  next hbounds =>
    rw [if_neg hbounds] at hvalue
    have hnone : (x.onResponse r).2.response? = none :=
      Option.eq_none_iff_forall_ne_some.mpr fun back hback => by
        cases hvalue.symm.trans ((hanswer back).mp hback)
    rw [hnone, Option.getD_none]

/-- A response that scripts see as it is stays the same, or comes back like itself. -/
theorem HandsBack.alike (hx : x.HandsBack) (hr : r.Tellable) : r.Alike (x.rewrite r) := by
  rw [hx.rewrite_eq]
  split
  · exact hr.alike_reread
  · exact Response.Alike.refl r

/-- A script does the same where it gets the same arguments. -/
theorem IsScript.onResponse_congr (hx : x.IsScript) (h : back.toArguments = r.toArguments) :
    x.onResponse back = x.onResponse r := by
  obtain ⟨program, request, response, hhooks⟩ := hx
  simp only [onResponse, hhooks, h]

/-- Behind a script each header is there once if it was so before. -/
theorem IsScript.nodup_names_rewrite (hx : x.IsScript) (hnodup : r.headers.names.Nodup) :
    (x.rewrite r).headers.names.Nodup := by
  obtain ⟨program, request, response, hhooks⟩ := hx
  rw [rewrite, onResponse, hhooks]
  cases response with
  | none => exact hnodup
  | some function =>
    simp only [callScript]
    cases hanswer : (HookOutcome.ofResult
        (program.call x.clock function r.toArguments (some x.state)).result).response? with
    | none => exact hnodup
    | some answer => exact HookOutcome.nodup_names_of_ofResult hanswer

/-- A script leaves what is alike alike, and itself as it would be otherwise. -/
theorem IsScript.alike (hx : x.IsScript) (hnodup : r.headers.names.Nodup) (h : r.Alike back) :
    (x.rewrite r).Alike (x.rewrite back) ∧ x.shown back = x.shown r := by
  have hsame := hx.onResponse_congr (h.toArguments_eq hnodup)
  rw [rewrite, rewrite, shown, shown, hsame]
  refine ⟨?_, rfl⟩
  cases (x.onResponse r).2.response? with
  | none => exact h
  | some answer => exact Response.Alike.refl answer

/-- So do all scripts behind. -/
theorem rewritten_alike (hxs : ∀ x ∈ xs, x.IsScript) (hnodup : r.headers.names.Nodup)
    (h : r.Alike back) : (rewritten r xs).Alike (rewritten back xs) ∧
      afterResponse back xs = afterResponse r xs := by
  induction xs generalizing r back with
  | nil => exact ⟨h, rfl⟩
  | cons x xs ih =>
    obtain ⟨hx, hxs⟩ := List.forall_mem_cons.mp hxs
    obtain ⟨halike, hshown⟩ := hx.alike hnodup h
    obtain ⟨hresult, hafter⟩ := ih hxs (hx.nodup_names_rewrite hnodup) halike
    refine ⟨hresult, ?_⟩
    have hcons (s : Response) : afterResponse s (x :: xs) =
        x.shown s :: afterResponse (x.rewrite s) xs := by
      simp [afterResponse, responses]
    rw [hcons, hcons, hshown, hafter]

/-- The response hook is a function whose body is the map of its parameters. -/
def echoes (x : Extension) : Bool :=
  match x.hooks with
  | .script program _ (some function) =>
    (Function.find? program.functions function 3).any fun f =>
      f.params.Nodup && f.isRecord ["status", "headers", "body"]
  | _ => false

/-- Such a hook hands back its arguments, and keeps its state. -/
theorem handsBack_of_echoes (hx : x.echoes = true) : x.HandsBack ∧ ∀ s, x.shown s = x := by
  unfold echoes at hx
  split at hx
  next program request function hhooks =>
    cases hfound : Function.find? program.functions function 3 with
    | none => simp [hfound] at hx
    | some f =>
      obtain ⟨hnodup, hbody⟩ :
          f.params.Nodup ∧ f.isRecord ["status", "headers", "body"] = true := by
        simpa [hfound] using hx
      have hrecords : f.Records ["status", "headers", "body"] :=
        Function.records_of_isRecord (Function.length_of_find? hfound).symm hnodup hbody
      have hcall (s : Response) : program.call x.clock function s.toArguments
          (some x.state) = ⟨.ok s.handedBack, some x.state, x.clock⟩ :=
        Program.call_records hfound hrecords (show 3 + 2 ≤ _ by decide) x.clock (some x.state)
      refine ⟨fun s => ?_, fun s => ?_⟩
      · simp only [onResponse, hhooks, callScript, hcall]
      · simp only [shown, onResponse, hhooks, callScript, hcall, Option.getD_some]
        rw [← hhooks]
  next => cases hx

end Extension

namespace Response

/-- What becomes of a response in a hook that hands back its arguments. -/
structure EchoLaws (r : Response) : Prop where
  /-- It comes back like itself exactly if its status is in its bounds, its body is a text, and
  it has each header once. -/
  returned_iff : (∃ back, ofValue r.handedBack = .ok back ∧ r.Alike back) ↔
    (100 ≤ r.status.toNat ∧ r.status.toNat ≤ 999) ∧ r.Tellable
  rejected : ¬ (100 ≤ r.status.toNat ∧ r.status.toNat ≤ 999) →
    ofValue r.handedBack = .error (.statusRange r.status.toNat)
  /-- The hook leaves it like itself, and as it is where its status is out of bounds. -/
  kept : r.Tellable → ∀ x : Extension, x.HandsBack → r.Alike (x.rewrite r)
  same : ¬ (100 ≤ r.status.toNat ∧ r.status.toNat ≤ 999) →
    ∀ x : Extension, x.HandsBack → x.rewrite r = r
  /-- Of two pipelines that have the same hooks but for this one, where it gets the response, the
  results are alike. The scripts behind it get the same arguments, and have the same states. -/
  unseen : r.Tellable → ∀ (p without : Pipeline) (q : ServiceRequest) (s : Response)
    (front behind : List Extension) (x : Extension), p.selected q = front ++ x :: behind →
    without.selected q = front ++ behind → rewritten s front = r → x.HandsBack →
    (∀ y ∈ behind, y.IsScript) →
      (without.runResponse q s).2.2.Alike (p.runResponse q s).2.2 ∧
        afterResponse (x.rewrite r) behind = afterResponse r behind
  /-- The function that makes a map of its parameters is such a hook, and has no state. -/
  script : ∀ x : Extension, x.echoes = true → x.HandsBack ∧ x.shown r = x

/-- **Hooks that hand back their arguments.** For a response with a text as its body and each
header once such a hook is as good as none. A status that is out of bounds is not taken, and the
response stays as it is. -/
theorem echoLaws (r : Response) : EchoLaws r where
  returned_iff := exists_alike_iff
  rejected := by
    intro hbounds
    rw [ofValue_handedBack, if_neg hbounds]
  kept := fun hr _ hx => hx.alike hr
  same := by
    intro hbounds x hx
    rw [hx.rewrite_eq, if_neg hbounds]
  unseen := by
    intro hr p without q s front behind x hp hwithout hfront hx hscripts
    have halike := Extension.rewritten_alike hscripts hr.names (hx.alike hr)
    rw [(p.runResponse_eq q s).2.1, (without.runResponse_eq q s).2.1, hp, hwithout]
    simp only [rewritten, List.foldl_append, List.foldl_cons] at hfront halike ⊢
    rw [hfront]
    exact halike
  script := by
    intro x hx
    obtain ⟨hhands, hshown⟩ := Extension.handsBack_of_echoes hx
    exact ⟨hhands, hshown r⟩

/-- Headers come back by ascending names, and a text that is not in ASCII as it was. -/
example :
    (ofValue (handedBack ⟨201, ⟨[("X-B", "é"), ("Accept", "a")]⟩, Utf8.encode "é"⟩)).toOption.map
      (fun r => (r.status, r.headers.entries, r.body)) =
      some (201, [("accept", "a"), ("x-b", "é")], Utf8.encode "é") := by
  decide +kernel

end Response

namespace Extension

/-- A file with a hook that hands back its arguments. -/
def echoSource : String :=
  "fn id() \x7b \"echo\" \x7d fn selector() \x7b [\"svc1:Ping\"] \x7d" ++
  "fn response_hook(status, headers, body) \x7b" ++
  "  #\x7b status: status, headers: headers, body: body \x7d" ++
  "\x7d"

/-- The extension of the file hands back. -/
theorem echoSource_handsBack :
    ∃ x, ofSource (.still ⟨0, 0⟩) (.ofList ["svc1:Ping"]) echoSource = .ok [x] ∧ x.HandsBack := by
  have hechoes : (ofSource (.still ⟨0, 0⟩) (.ofList ["svc1:Ping"]) echoSource).toOption.map
      (·.map echoes) = some [true] := by decide +kernel
  cases hload : ofSource (.still ⟨0, 0⟩) (.ofList ["svc1:Ping"]) echoSource with
  | error fault => simp [hload, Except.toOption] at hechoes
  | ok es =>
    have hlist : es.map echoes = [true] := by simpa [hload, Except.toOption] using hechoes
    obtain ⟨x, rfl, hx⟩ := List.map_eq_singleton_iff.mp hlist
    exact ⟨x, rfl, (handsBack_of_echoes hx).1⟩

end Extension

end CloudEmulator
