import CloudEmulator.Http.Message
import CloudEmulator.Proofs.Http.FieldValues

/-!
# Responses on the wire

An encoded response has the body of the response and states its length, once and truly, whatever
framing the headers of the response tell of. All other headers that may be sent are sent, with
the values of each name in their order.
-/

namespace CloudEmulator

section Numbers

variable {n : ℕ}

/-- The decimal digits of a number are its text. -/
theorem toList_toString (n : ℕ) : (toString n).toList = Nat.toDigits 10 n := by
  rw [Nat.toString_eq_repr, Nat.toList_repr]

/-- Decimal digits are digits. -/
theorem isDigit_of_mem {c : Char} (hc : c ∈ Nat.toDigits 10 n) : c.isDigit = true :=
  Nat.isDigit_of_mem_toDigits (by omega) (by omega) hc

/-- A number is read from its decimal text. -/
theorem Text.number?_toString {limit : ℕ} (h : n ≤ limit) :
    Text.number? limit (toString n) = some n := by
  have hvalue : (Nat.toDigits 10 n).foldl (fun m c => m * 10 + (c.toNat - 48)) 0 = n := by
    have hread : Nat.ofDigitChars 10 (Nat.toDigits 10 n) 0 = n := Nat.ofDigitChars_ten_toDigits
    rw [Nat.ofDigitChars_eq_foldl] at hread
    simpa only [Nat.mul_comm, Char.reduceToNat] using hread
  have hdigits : (Nat.toDigits 10 n).all Char.isDigit = true :=
    List.all_eq_true.mpr fun c hc => isDigit_of_mem hc
  have hne : (Nat.toDigits 10 n).isEmpty = false :=
    List.isEmpty_eq_false_iff.mpr Nat.toDigits_ne_nil
  simp only [Text.number?, toList_toString]
  -- Digits do not begin with a sign, so that all of the text is read as digits.
  split
  next ds hds =>
    have hplus : '+'.isDigit = true := isDigit_of_mem (by rw [hds]; exact List.mem_cons_self)
    exact absurd hplus (by decide)
  next => simp [hvalue, hdigits, hne, h]

/-- Decimal text is in lower case. -/
theorem Text.lower_toString (n : ℕ) : Text.lower (toString n) = toString n := by
  have hsame : (toString n).toList.map Char.toLower = (toString n).toList := by
    rw [toList_toString]
    refine (List.map_congr_left fun c hc => ?_).trans (List.map_id _)
    exact toLower_of_isDigit (isDigit_of_mem hc)
  rw [Text.lower, hsame, String.ofList_toList]

end Numbers

section Framing

variable {r : Response} {name : String}

/-- The names that tell where a body ends. -/
def framingNames : List String :=
  ["content-length", "transfer-encoding"]

/-- The fields of an encoded response are proper. -/
theorem Response.proper_encode (r : Response) : r.encode.fields.Proper :=
  ((FieldMap.proper_ofHeaders r.headers).erase "transfer-encoding").insert (by decide) _

/-- The values that are sent under a name: the length of the body, nothing for the other
framing name, and the values of the response for all others. -/
theorem Response.sent_encode (r : Response) (name : String) :
    r.encode.fields.sent name =
      if Text.lower name = "content-length" then [Utf8.encode (toString r.body.length)]
      else if Text.lower name = "transfer-encoding" then []
      else (r.headers.sendable.values name).map Utf8.encode := by
  rw [r.proper_encode.sent_eq, Response.encode, FieldMap.values_insert, FieldMap.values_erase,
    ← FieldMap.sent_ofHeaders, (FieldMap.proper_ofHeaders r.headers).sent_eq]

/-- All fields of an encoded response have valid names. -/
theorem Response.isFieldName_of_mem_encode {entry : String × Bytes}
    (hentry : entry ∈ r.encode.fields.toList) : Http.isFieldName entry.1 = true := by
  have hlower := r.proper_encode.lower_of_mem hentry
  have hsent := FieldMap.mem_sent hentry
  rw [r.sent_encode] at hsent
  split_ifs at hsent with hlength hencoding
  · rw [← hlower, hlength]
    decide
  · cases hsent
  · -- The entry stems from one of the response that may be sent, with its name in lower case.
    obtain ⟨value, hvalue, -⟩ := List.mem_map.mp hsent
    obtain ⟨original, horiginal, -⟩ := List.mem_map.mp hvalue
    obtain ⟨hmem, hnamed⟩ := List.mem_filter.mp horiginal
    have hsendable := (List.mem_filter.mp hmem).2
    rw [← hlower, ← Headers.named_iff.mp hnamed]
    exact Http.isFieldName_lower (Bool.and_eq_true_iff.mp hsendable).1

/-- A reader sees under a name what is sent under it, in lower case. -/
theorem Message.Head.values_eq_sent {head : RequestHead} {m : FieldMap}
    (hheaders : head.headers = m.toList) (name : String) :
    Message.Head.values head name =
      (m.sent name).map fun value => Text.lower (Utf8.lossy value) := by
  rw [Message.Head.values, hheaders, FieldMap.sent, List.map_map]
  rfl

/-- A reader that goes by the fields of an encoded response finds its body, and what stands
behind it. -/
theorem Response.readBody_encode {head : RequestHead} (rest : Bytes)
    (hheaders : head.headers = r.encode.fields.toList) (hlength : r.body.length ≤ 2 ^ 63) :
    Message.readBody head (r.body ++ rest) = .done r.body rest := by
  have hencoding : Message.Head.values head "transfer-encoding" = [] := by
    rw [Message.Head.values_eq_sent hheaders, r.sent_encode]
    rfl
  have hcount : Message.Head.values head "content-length" = [toString r.body.length] := by
    rw [Message.Head.values_eq_sent hheaders, r.sent_encode, if_pos (by decide),
      List.map_singleton, Utf8.lossy_encode, Text.lower_toString]
  have hnumber : Text.number? (Nat.pow 2 63) (toString r.body.length) = some r.body.length :=
    Text.number?_toString hlength
  have henough : ¬ (r.body ++ rest).length < r.body.length := by
    rw [List.length_append]
    omega
  rw [Message.readBody, hencoding, hcount]
  simp only [List.contains_nil, Bool.false_eq_true, if_false, hnumber, henough,
    List.take_left, List.drop_left]

end Framing

/-- What a response becomes on the wire. -/
structure WireLaws (r : Response) : Prop where
  body : r.encode.body = r.body
  /-- The status stays if it is one of HTTP. -/
  status : r.encode.status =
    if 100 ≤ r.status.toNat ∧ r.status.toNat ≤ 999 then r.status.toNat else 500
  /-- The length of the body is stated once, under no other spelling of its name. -/
  contentLength : r.encode.fields.sent "content-length" = [Utf8.encode (toString r.body.length)]
  transferEncoding : r.encode.fields.sent "transfer-encoding" = []
  /-- Under every other name, in any spelling, the values that may be sent are sent. -/
  others : ∀ name, Text.lower name ∉ framingNames →
    r.encode.fields.sent name = (r.headers.sendable.values name).map Utf8.encode
  /-- All names are valid, and in lower case. -/
  names : ∀ entry ∈ r.encode.fields.toList,
    Http.isFieldName entry.1 = true ∧ Text.lower entry.1 = entry.1
  /-- A reader that goes by the fields finds the body, and what stands behind it. -/
  framed : ∀ (head : RequestHead) (rest : Bytes), head.headers = r.encode.fields.toList →
    r.body.length ≤ 2 ^ 63 → Message.readBody head (r.body ++ rest) = .done r.body rest

/-- **Encoding of responses.** The body stays as it is, its length is stated once and truly, and
every other header keeps those of its values that are valid, in their order. -/
theorem wireLaws (r : Response) : WireLaws r where
  body := rfl
  status := rfl
  contentLength := r.sent_encode "content-length"
  transferEncoding := r.sent_encode "transfer-encoding"
  others := by
    intro name hname
    obtain ⟨hlength, hencoding⟩ : Text.lower name ≠ "content-length" ∧
        Text.lower name ≠ "transfer-encoding" := by simpa [framingNames] using hname
    rw [r.sent_encode, if_neg hlength, if_neg hencoding]
  names := fun _ hentry =>
    ⟨Response.isFieldName_of_mem_encode hentry, r.proper_encode.lower_of_mem hentry⟩
  framed := fun _ rest hheaders hlength => Response.readBody_encode rest hheaders hlength

end CloudEmulator
