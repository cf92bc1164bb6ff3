/-!
# IP addresses

Addresses of both versions, read from their usual texts and written in the
shortest one.
-/

namespace CloudEmulator

/-- An address: four octets, or eight groups of sixteen bits. -/
inductive IpAddress where
  | v4 (octets : List Nat)
  | v6 (groups : List Nat)
  deriving DecidableEq, Repr

namespace IpAddress

/-- The value of a digit in bases up to 16. -/
def digit? (base : Nat) (c : Char) : Option Nat :=
  let n := if c.isDigit then c.toNat - 48
    else if 'a' ≤ c && c ≤ 'f' then c.toNat - 87
    else if 'A' ≤ c && c ≤ 'F' then c.toNat - 55
    else 16
  if n < base then some n else none

/-- Read a number of at most `width` digits, and what follows it. -/
def readNumber (base width : Nat) (cs : List Char) : Option (Nat × List Char) :=
  let ds := cs.takeWhile fun c => (digit? base c).isSome
  if ds.isEmpty || width < ds.length then none
  else some ((ds.filterMap (digit? base)).foldl (fun n d => n * base + d) 0, cs.drop ds.length)

/-- Read an octet, which has no leading zero. -/
def readOctet (cs : List Char) : Option (Nat × List Char) := do
  let (n, rest) ← readNumber 10 3 cs
  let digits := cs.length - rest.length
  if 255 < n || (cs.head? == some '0' && 1 < digits) then none else some (n, rest)

/-- Read a separator in front of all but the first of several parts. -/
def readSeparator (mark : Char) (isFirst : Bool) (cs : List Char) : Option (List Char) :=
  if isFirst then some cs
  else
    match cs with
    | c :: rest => if c == mark then some rest else none
    | [] => none

/-- Read so many octets. -/
def readOctets : Nat → Bool → List Char → Option (List Nat × List Char)
  | 0, _, cs => some ([], cs)
  | n + 1, isFirst, cs => do
    let (octet, rest) ← readOctet (← readSeparator '.' isFirst cs)
    let (octets, rest) ← readOctets n false rest
    return (octet :: octets, rest)

/-- The two groups that four octets make. -/
def groupsOf : List Nat → List Nat
  | [a, b, c, d] => [a * 256 + b, c * 256 + d]
  | _ => []

/-- Read up to so many groups. The last two may be written as octets; whether they
were comes last. -/
def readGroups : Nat → Bool → List Char → List Nat × List Char × Bool
  | 0, _, cs => ([], cs, false)
  | n + 1, isFirst, cs =>
    match readSeparator ':' isFirst cs with
    | none => ([], cs, false)
    | some start =>
      match (if n = 0 then none else readOctets 4 true start) with
      | some (octets, rest) => (groupsOf octets, rest, true)
      | none =>
        match readNumber 16 4 start with
        | none => ([], cs, false)
        | some (group, rest) =>
          let (groups, rest, hasOctets) := readGroups n false rest
          (group :: groups, rest, hasOctets)

/-- Read eight groups, where a double colon stands for one or more zero groups. -/
def readV6 (cs : List Char) : Option (List Nat × List Char) :=
  let (head, rest, hasOctets) := readGroups 8 true cs
  if head.length = 8 then some (head, rest)
  else if hasOctets then none
  else
    match rest with
    | ':' :: ':' :: rest =>
      let (tail, rest, _) := readGroups (7 - head.length) true rest
      some (head ++ List.replicate (8 - head.length - tail.length) 0 ++ tail, rest)
    | _ => none

/-- Read an address. -/
def parse? (s : String) : Option IpAddress :=
  let cs := s.toList
  match readOctets 4 true cs with
  | some (octets, []) => some (.v4 octets)
  | _ =>
    match readV6 cs with
    | some (groups, []) => some (.v6 groups)
    | _ => none

/-- The octets of an address. -/
def octets : IpAddress → List Nat
  | v4 octets => octets
  | v6 groups => groups.flatMap fun g => [g / 256, g % 256]

/-- Four octets between dots. -/
def octetsText (octets : List Nat) : String :=
  ".".intercalate (octets.map toString)

/-- Groups between colons. -/
def groupsText (groups : List Nat) : String :=
  ":".intercalate (groups.map fun g => String.ofList (Nat.toDigits 16 g))

/-- The first longest run of zeros: its start and its length. `best` is the longest
before `position`, and `current` the length of the run that ends there. -/
def zeroRun (position current : Nat) (best : Nat × Nat) : List Nat → Nat × Nat
  | [] => best
  | g :: rest =>
    if g = 0 then
      let current := current + 1
      let best := if best.2 < current then (position + 1 - current, current) else best
      zeroRun (position + 1) current best rest
    else zeroRun (position + 1) 0 best rest

/-- The text of an address. -/
def text : IpAddress → String
  | v4 octets => octetsText octets
  | v6 [0, 0, 0, 0, 0, 0xffff, a, b] =>
    "::ffff:" ++ octetsText [a / 256, a % 256, b / 256, b % 256]
  | v6 groups =>
    let (start, length) := zeroRun 0 0 (0, 0) groups
    if 1 < length then
      groupsText (groups.take start) ++ "::" ++ groupsText (groups.drop (start + length))
    else groupsText groups

/-- The address with a port behind it. -/
def withPort (address : IpAddress) (port : Nat) : String :=
  match address with
  | v4 _ => address.text ++ ":" ++ toString port
  | v6 _ => "[" ++ address.text ++ "]:" ++ toString port

/-- The address belongs to this host alone, or stands for all of its addresses. -/
def isLocal : IpAddress → Bool
  | v4 octets => octets.head? == some 127 || octets == [0, 0, 0, 0]
  | v6 groups => groups == [0, 0, 0, 0, 0, 0, 0, 1] || groups == [0, 0, 0, 0, 0, 0, 0, 0]

end IpAddress

end CloudEmulator
