import CloudEmulator.Text.Utf8

/-!
# Armoured sections

Texts hold binary contents between a line that begins a section and one that ends
it, written in base 64. Lines outside of sections are ignored.
-/

namespace CloudEmulator.Pem

/-- A section that is complete. -/
structure Section where
  label : Bytes
  contents : Bytes
  deriving DecidableEq, Repr

/-- Why a text cannot be read further. -/
inductive Fault where
  | malformedStart
  | missingEnd
  | invalidContents
  deriving DecidableEq, Repr

/-- The octet ends a line. -/
def isLineEnd (b : UInt8) : Bool :=
  b == 10

/-- The lines of a text without the marks of their ends. -/
def lines (fuel : Nat) (bytes : Bytes) : List Bytes :=
  match fuel with
  | 0 => []
  | fuel + 1 =>
    match bytes with
    | [] => []
    | bytes =>
      let line := bytes.takeWhile fun b => !isLineEnd b
      line :: lines fuel (bytes.drop (line.length + 1))

/-- An octet that may stand behind a line without belonging to it. -/
def isTrailing (b : UInt8) : Bool :=
  b == 10 || b == 13 || b == 32

/-- The line without blanks at its end. -/
def trimEnd (line : Bytes) : Bytes :=
  (line.reverse.dropWhile isTrailing).reverse

/-- The value of a digit in base 64. -/
def digit? (b : UInt8) : Option Nat :=
  let n := b.toNat
  if 65 ≤ n ∧ n ≤ 90 then some (n - 65)
  else if 97 ≤ n ∧ n ≤ 122 then some (n - 71)
  else if 48 ≤ n ∧ n ≤ 57 then some (n + 4)
  else if n = 43 then some 62
  else if n = 47 then some 63
  else none

/-- The octets of a group of up to four digits. Bits that fill no octet are zero. -/
def group? : List Nat → Option Bytes
  | [] => some []
  | [a, b, c, d] =>
    let n := ((a * 64 + b) * 64 + c) * 64 + d
    some [UInt8.ofNat (n / 65536), UInt8.ofNat (n / 256), UInt8.ofNat n]
  | [a, b, c] =>
    let n := (a * 64 + b) * 64 + c
    if n % 4 = 0 then some [UInt8.ofNat (n / 1024), UInt8.ofNat (n / 4)] else none
  | [a, b] =>
    let n := a * 64 + b
    if n % 16 = 0 then some [UInt8.ofNat (n / 16)] else none
  | _ => none

/-- The octets of digits. -/
def ofDigits? (ds : List Nat) : Option Bytes :=
  match ds with
  | a :: b :: c :: d :: rest => do return (← group? [a, b, c, d]) ++ (← ofDigits? rest)
  | ds => group? ds

/-- The octets that a text in base 64 stands for. It may be padded. -/
def decode? (text : Bytes) : Option Bytes :=
  let padding := (text.reverse.takeWhile (· == 61)).length
  if 2 < padding || (padding != 0 && text.length % 4 != 0) then none
  else ((text.take (text.length - padding)).mapM digit?).bind ofDigits?

/-- What the lines begin that begin and end sections. -/
def startMark : Bytes := Utf8.encode "-----BEGIN "

/-- What begins the line that ends a section. -/
def endMark (label : Bytes) : Bytes :=
  Utf8.encode "-----END " ++ label ++ Utf8.encode "-----"

/-- The label in a line that begins a section: it ends in five hyphens. -/
def label? (line : Bytes) : Option Bytes :=
  let back := (trimEnd line).reverse
  if (back.takeWhile (· == 45)).length = 5 then
    some ((back.drop 5).reverse.drop startMark.length)
  else none

/-- The complete sections of lines up to a fault, if there is one. `current` is the
label of the section around them and what it holds so far. -/
def read (current : Option (Bytes × Bytes)) : List Bytes → List Section × Option Fault
  | [] => ([], if current.isSome then some .missingEnd else none)
  | line :: rest =>
    if startMark.isPrefixOf line then
      match label? line with
      | none => ([], some .malformedStart)
      | some label => read (some (label, [])) rest
    else
      match current with
      | none => read none rest
      | some (label, text) =>
        if (endMark label).isPrefixOf line then
          match decode? text with
          | none => ([], some .invalidContents)
          | some contents =>
            let (sections, fault) := read none rest
            (⟨label, contents⟩ :: sections, fault)
        else read (some (label, text ++ trimEnd line)) rest

/-- The label of certificates. -/
def certificateLabel : Bytes := Utf8.encode "CERTIFICATE"

/-- The first certificate of a text. A fault in front of it counts. -/
def firstCertificate (bytes : Bytes) : Except Fault (Option Bytes) :=
  let (sections, fault) := read none (lines (bytes.length + 1) bytes)
  match sections.find? (·.label == certificateLabel), fault with
  | some s, _ => .ok (some s.contents)
  | none, some fault => .error fault
  | none, none => .ok none

end CloudEmulator.Pem
