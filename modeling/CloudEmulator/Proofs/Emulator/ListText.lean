import CloudEmulator.Emulator.Basic
import CloudEmulator.Proofs.Text.Encoding

/-!
# The list of instances as a text

The text that the management service writes for a list of keys can be read again, and is read as
these keys in this order. How JSON is read is told here on its own.
-/

namespace CloudEmulator

namespace Json

/-- The character that an escape of one letter stands for. -/
def unescaped? : Char → Option Char
  | '"' => some '"'
  | '\\' => some '\\'
  | '/' => some '/'
  | 'b' => some '\x08'
  | 'f' => some '\x0c'
  | 'n' => some '\n'
  | 'r' => some '\r'
  | 't' => some '\t'
  | _ => none

/-- Read a string behind its opening quote: its characters, and what stands behind the closing
quote. Pairs of surrogates are not put together. -/
def readString? : List Char → Option (List Char × List Char)
  | [] => none
  | '"' :: rest => some ([], rest)
  | '\\' :: 'u' :: a :: b :: c :: d :: rest =>
    (Pattern.hexNumber? [a, b, c, d]).bind fun n =>
      (readString? rest).map fun (s, rest) => (Char.ofNat n :: s, rest)
  | '\\' :: letter :: rest =>
    (unescaped? letter).bind fun c => (readString? rest).map fun (s, rest) => (c :: s, rest)
  | c :: rest =>
    if c.toNat < 32 then none else (readString? rest).map fun (s, rest) => (c :: s, rest)

/-- A control character is told by four digits. -/
theorem exists_unicodeEscape_eq {n : Nat} (h : n < 32) : ∃ a b c d,
    unicodeEscape n = ['\\', 'u', a, b, c, d] ∧ Pattern.hexNumber? [a, b, c, d] = some n := by
  have hdigits : ∀ n < 32,
      unicodeEscape n = ['\\', 'u', '0', '0', Nat.digitChar (n / 16), Nat.digitChar (n % 16)] ∧
        Pattern.hexNumber? ['0', '0', Nat.digitChar (n / 16), Nat.digitChar (n % 16)] =
          some n := by
    decide
  exact ⟨_, _, _, _, hdigits n h⟩

/-- Each character is read as it is written. -/
theorem readString?_escapeChar (c : Char) (text : List Char) :
    readString? (escapeChar c ++ text) =
      (readString? text).map fun (s, rest) => (c :: s, rest) := by
  unfold escapeChar
  split
  case h_8 hquote hslash _ _ _ _ _ =>
    split
    next hcontrol =>
      obtain ⟨a, b, d, e, hescape, hvalue⟩ := exists_unicodeEscape_eq hcontrol
      rw [hescape]
      simp [readString?, hvalue]
    next hplain =>
      rw [List.singleton_append, readString?, if_neg hplain]
      · exact hquote
      · exact fun _ _ _ _ _ h => (hslash h).elim
      · exact fun _ _ h => (hslash h).elim
  all_goals simp [readString?, unescaped?]

/-- Characters are read as they are written, up to the closing quote. -/
theorem readString?_flatMap_escapeChar (cs rest : List Char) :
    readString? (cs.flatMap escapeChar ++ '"' :: rest) = some (cs, rest) := by
  induction cs with
  | nil => rfl
  | cons c cs ih =>
    rw [List.flatMap_cons, List.append_assoc, readString?_escapeChar, ih, Option.map_some]

/-- The items of an array are written one by one. -/
theorem compactItems_eq_map (items : List Json) : compactItems items = items.map compact := by
  induction items with
  | nil => rfl
  | cons item items ih => rw [compactItems, ih, List.map_cons]

end Json

namespace Management

open Json (quote escapeChar readString? readString?_flatMap_escapeChar)

/-- What stands behind a text with which another starts. -/
def behind? (front : String) (text : List Char) : Option (List Char) :=
  if front.toList <+: text then some (text.drop front.toList.length) else none

/-- Read the object of a key, and what stands behind it. -/
def readKey? (text : List Char) : Option (BackendKey × List Char) := do
  let (account, rest) ← readString? (← behind? "\x7b\"account\":\"" text)
  let (region, rest) ← readString? (← behind? ",\"region\":\"" rest)
  let (service, rest) ← readString? (← behind? ",\"service\":\"" rest)
  let rest ← behind? "\x7d" rest
  return (⟨String.ofList service, String.ofList account, String.ofList region⟩, rest)

/-- Read no more objects of keys than `bound`, up to the end of their array. -/
def readItems? : Nat → List Char → Option (List BackendKey)
  | 0, _ => none
  | bound + 1, text => do
    let (key, rest) ← readKey? text
    match rest with
    | [']'] => some [key]
    | ',' :: rest => (readItems? bound rest).map (key :: ·)
    | _ => none

/-- Read the array of keys that a text is. -/
def readKeys? (text : String) : Option (List BackendKey) := do
  let rest ← behind? "[" text.toList
  if rest = [']'] then some [] else readItems? rest.length rest

/-- What was put behind a text stands behind it. -/
theorem behind?_append (front : String) (text : List Char) :
    behind? front (front.toList ++ text) = some text := by
  simp [behind?]

/-- The text of the object of a key. -/
def keyText (k : BackendKey) : String :=
  "\x7b\"account\":" ++ quote k.account ++ ",\"region\":" ++ quote k.region ++
    ",\"service\":" ++ quote k.service ++ "\x7d"

/-- The service writes the object of a key so. -/
theorem compact_key (k : BackendKey) :
    (Json.object [("account", .str k.account), ("region", .str k.region),
      ("service", .str k.service)]).compact = keyText k := by
  simp [← String.toList_inj, keyText, Json.compact, Json.compactMembers, quote, escapeChar,
    String.intercalate_cons_cons]

/-- The object of a key is read as the key. -/
theorem readKey?_keyText (k : BackendKey) (rest : List Char) :
    readKey? ((keyText k).toList ++ rest) = some (k, rest) := by
  have htext : (keyText k).toList ++ rest =
      "\x7b\"account\":\"".toList ++ (k.account.toList.flatMap escapeChar ++ '"' ::
        (",\"region\":\"".toList ++ (k.region.toList.flatMap escapeChar ++ '"' ::
          (",\"service\":\"".toList ++ (k.service.toList.flatMap escapeChar ++ '"' ::
            ("\x7d".toList ++ rest)))))) := by
    simp [keyText, quote]
  rw [htext]
  simp only [readKey?, behind?_append, readString?_flatMap_escapeChar, Option.bind_eq_bind,
    Option.bind_some, Option.pure_def, String.ofList_toList]

/-- The objects of keys are read as the keys. The induction is on the keys. -/
theorem readItems?_keyText (k : BackendKey) (ks : List BackendKey) {bound : Nat}
    (h : ks.length < bound) :
    readItems? bound ([','].intercalate ((k :: ks).map (keyText · |>.toList)) ++ [']']) =
      some (k :: ks) := by
  induction ks generalizing k bound with
  | nil =>
    cases bound with
    | zero => cases h
    | succ bound =>
      rw [List.map_singleton, List.intercalate_singleton, readItems?, readKey?_keyText]
      rfl
  | cons k' ks ih =>
    cases bound with
    | zero => cases h
    | succ bound =>
      have hlater := ih k' (Nat.lt_of_succ_lt_succ h)
      rw [List.map_cons] at hlater
      rw [List.map_cons, List.map_cons, List.intercalate_cons_cons, List.append_assoc,
        List.append_assoc, readItems?, readKey?_keyText]
      simp [hlater]

/-- Each item but the first comes with a separator. -/
theorem le_length_intercalate {α : Type} (x : α) (first : List α) (items : List (List α)) :
    items.length ≤ ([x].intercalate (first :: items)).length := by
  induction items generalizing first with
  | nil => exact Nat.zero_le _
  | cons item items ih =>
    have hlater := ih item
    rw [List.intercalate_cons_cons, List.length_append, List.length_append, List.length_cons,
      List.length_singleton]
    omega

/-- The list of keys is read as the keys. -/
theorem readKeys?_keysJson (keys : List BackendKey) :
    readKeys? (keysJson keys).compact = some keys := by
  have htext : (keysJson keys).compact.toList =
      "[".toList ++ ([','].intercalate (keys.map (keyText · |>.toList)) ++ [']']) := by
    rw [keysJson, Json.compact, Json.compactItems_eq_map]
    simp [Function.comp_def, compact_key]
  rw [readKeys?, htext, behind?_append, Option.bind_eq_bind, Option.bind_some]
  cases keys with
  | nil => rfl
  | cons k ks =>
    generalize hitems : [','].intercalate ((k :: ks).map (keyText · |>.toList)) ++ [']'] = text
    have hlength : ks.length < text.length := by
      have hle := le_length_intercalate ',' (keyText k).toList (ks.map (keyText · |>.toList))
      rw [← hitems, List.length_append, List.length_singleton, List.map_cons]
      rw [List.length_map] at hle
      exact Nat.lt_succ_of_le hle
    have hread := readItems?_keyText k ks hlength
    rw [hitems] at hread
    rw [if_neg, hread]
    rintro rfl
    cases hread

-- What stands in a name can need escapes, and is read without them.
example : readKeys? "[\x7b\"account\":\"1\",\"region\":\"a\\u0062\",\"service\":\"\\\"s\"\x7d]" =
    some [⟨"\"s", "1", "ab"⟩] := by decide +kernel

end Management

end CloudEmulator
