/-!
# ASCII case and cuts of texts

Names in HTTP are compared ignoring the case of ASCII letters; all other
characters count as they are.
-/

namespace CloudEmulator.Text

/-- The text with its ASCII letters in lower case. -/
def lower (s : String) : String :=
  String.ofList (s.toList.map Char.toLower)

/-- The text with its ASCII letters in upper case. -/
def upper (s : String) : String :=
  String.ofList (s.toList.map Char.toUpper)

/-- Two texts are equal up to the case of ASCII letters. -/
def sameName (a b : String) : Bool :=
  a.toList.map Char.toLower == b.toList.map Char.toLower

/-- The characters before the first one that satisfies `p`, and those from it on. -/
def cutAt (p : Char → Bool) (cs : List Char) : List Char × List Char :=
  (cs.takeWhile fun c => !p c, cs.dropWhile fun c => !p c)

/-- The characters before the first `sep` and after it, or all of them and none. -/
def splitOnce (sep : Char) (cs : List Char) : List Char × Option (List Char) :=
  match cutAt (· == sep) cs with
  | (front, []) => (front, none)
  | (front, _ :: back) => (front, some back)

/-- What follows the first occurrence of `mark`. -/
def after? (mark : List Char) : List Char → Option (List Char)
  | [] => if mark.isEmpty then some [] else none
  | c :: cs =>
    if mark.isPrefixOf (c :: cs) then some ((c :: cs).drop mark.length) else after? mark cs

end CloudEmulator.Text
