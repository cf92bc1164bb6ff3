import CloudEmulator.Net.IpAddress
import CloudEmulator.Text.Utf8

/-!
# Certificates

What is asked for when a certificate is made, and the cryptography that makes it.
-/

namespace CloudEmulator

/-- The name that a certificate vouches for. -/
inductive SubjectName where
  | dns (name : String)
  | ip (address : IpAddress)
  deriving DecidableEq, Repr

/-- What the key of a certificate may be used for. -/
inductive KeyUsage where
  | digitalSignature | keyEncipherment | certificateSigning | listSigning
  deriving DecidableEq, Repr

/-- What a certificate may be used for. -/
inductive ExtendedKeyUsage where
  | serverAuth | clientAuth
  deriving DecidableEq, Repr

/-- What a certificate says. Times are milliseconds since the epoch. -/
structure Certificate where
  commonName : String
  subjects : List SubjectName
  /-- The serial number, the most significant octet first. -/
  serial : Bytes
  notBefore : Int
  notAfter : Int
  keyUsages : List KeyUsage
  extendedKeyUsages : List ExtendedKeyUsage
  isAuthority : Bool := false
  deriving DecidableEq, Repr

namespace Certificate

/-- How many days a certificate is valid. -/
def validityDays : Nat := 3650

/-- The milliseconds of a day. -/
def millisPerDay : Nat := 24 * 60 * 60 * 1000

/-- The name that a certificate for a host vouches for. -/
def subjectOf (host : String) : SubjectName :=
  match IpAddress.parse? host with
  | some address => .ip address
  | none => .dns host

/-- The certificate of a host. -/
def ofHost (host : String) (serial : Bytes) (now : Int) : Certificate where
  commonName := host
  subjects := [subjectOf host]
  serial := serial
  notBefore := now
  notAfter := now + validityDays * millisPerDay
  keyUsages := [.digitalSignature, .keyEncipherment]
  extendedKeyUsages := [.serverAuth]

end Certificate

namespace Serial

/-- A reading of the clock, in milliseconds since the epoch, as a number: zero before
the epoch. -/
def reading (clock : Int) : UInt64 :=
  UInt64.ofNat clock.toNat

/-- The number behind `last` at a reading of the clock: the reading, or one more than
`last` where the clock stands still or goes back. -/
def next (last : UInt64) (clock : Int) : UInt64 :=
  max (reading clock) (last + 1)

/-- The eight octets of a number, the most significant first. -/
def octets (n : UInt64) : Bytes :=
  ([56, 48, 40, 32, 24, 16, 8, 0] : List UInt64).map fun shift => (n >>> shift).toUInt8

/-- The octets from the first that is not zero; the last one always stays. -/
def strip (bytes : Bytes) : Bytes :=
  bytes.drop ((bytes.findIdx? (· != 0)).getD (bytes.length - 1))

/-- The octets of a number without zeros in front. -/
def encode (n : UInt64) : Bytes :=
  strip (octets n)

end Serial

/-- The cryptography behind certificates. Certificates are octets here. -/
structure Cryptography where
  /-- The text holds a private key. -/
  isKey : String → Bool
  /-- The octets are a certificate. -/
  isCertificate : Bytes → Bool
  /-- The armoured certificate that says so, signed by the authority. -/
  sign : Certificate → Option Bytes

end CloudEmulator
