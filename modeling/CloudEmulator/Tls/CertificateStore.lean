import CloudEmulator.Tls.HostName
import CloudEmulator.Tls.Material
import CloudEmulator.Tls.Path

/-!
# The store of certificates

One certificate for each host, made when it is first asked for and kept in a file
from then on. The file is written under a temporary name and then moved, so it is
never seen half written.
-/

namespace CloudEmulator

/-- How a connection presents itself: its chain of certificates and the protocols
it speaks. Configurations are numbered as they are made. -/
structure TlsConfig where
  id : Nat
  chain : List Bytes
  protocols : List String := ["http/1.1"]
  deriving DecidableEq, Repr

/-- Loaded material, and what was made with it. -/
structure CertificateStore where
  authorityText : Bytes
  authority : Bytes
  directory : Directory
  lastSerial : UInt64 := 0
  configs : List (String × TlsConfig) := []
  /-- How many certificates were made. -/
  minted : Nat := 0

namespace CertificateStore

/-- A store over material. -/
def ofMaterial (m : LoadedMaterial) : CertificateStore where
  authorityText := m.authorityText
  authority := m.authority
  directory := m.directory

/-- A store over material that is still to be loaded. -/
def load (crypto : Cryptography) (m : Material) : Except CertificateError CertificateStore :=
  (m.load crypto).map ofMaterial

/-- The file name without what follows its last dot; a leading dot does not count. -/
def stem (name : String) : String :=
  let back := name.toList.reverse
  match back.dropWhile (· != '.') with
  | '.' :: rest => if rest.isEmpty then name else String.ofList rest.reverse
  | _ => name

/-- The file name with another ending. -/
def withEnding (name ending : String) : String :=
  stem name ++ "." ++ ending

/-- The file of a host's certificate. -/
def fileOf (host : String) : String :=
  host ++ ".crt"

/-- The file that a host's certificate is written to first. -/
def temporaryFileOf (host : String) : String :=
  withEnding (fileOf host) "crt.tmp"

/-- The path of a host's certificate, in the directory of the material. -/
def certificatePath (directory host : String) : String :=
  Path.join (Path.join directory Material.certificateDirectory) (fileOf host)

/-- The path that a host's certificate is written to first. -/
def temporaryPath (directory host : String) : String :=
  Path.mapName (withEnding · "crt.tmp") (certificatePath directory host)

/-- What an operation leaves: the store, and the outcome. The store may have
changed even in a failure, since a serial number is used only once. -/
abbrev Outcome (α : Type) := CertificateStore × Except CertificateError α

/-- Put into a cell what a function makes of its contents, unless the function declines:
the contents then, and those before, as a failure if it declined. -/
def fetchUpdate {α : Type} (f : α → Option α) (held : α) : α × Except α α :=
  match f held with
  | some new => (new, .ok held)
  | none => (held, .error held)

/-- Take the next serial number. It is computed once for the cell that keeps it, and
again from what the cell held before. -/
def takeSerial (s : CertificateStore) (clock : Int) : CertificateStore × UInt64 :=
  let (stored, previous) := fetchUpdate (fun last => some (Serial.next last clock)) s.lastSerial
  let last := match previous with
    | .ok last | .error last => last
  ({ s with lastSerial := stored }, Serial.next last clock)

/-- Make the certificate of a host. -/
def mint (s : CertificateStore) (crypto : Cryptography) (clock : Int) (host : String) :
    Outcome Bytes :=
  let (s, serial) := s.takeSerial clock
  match crypto.sign (Certificate.ofHost host (Serial.encode serial) clock) with
  | some text => (s, .ok text)
  | none => (s, .error .generation)

/-- Write the certificate of a host into its file. -/
def save (s : CertificateStore) (host : String) (text : Bytes) : Outcome String :=
  match s.directory.write? (temporaryFileOf host) text with
  | none => (s, .error (.file (temporaryFileOf host)))
  | some written =>
    match written.rename? (temporaryFileOf host) (fileOf host) with
    | none => ({ s with directory := written }, .error (.file (fileOf host)))
    | some directory => ({ s with directory, minted := s.minted + 1 }, .ok (fileOf host))

/-- The file of a host's certificate, which is made if it is not there. A file
that is there is never written again. -/
def certificateFile (s : CertificateStore) (crypto : Cryptography) (clock : Int) (host : String) :
    Outcome String :=
  if !HostName.isValid host then (s, .error (.invalidHost host))
  else if s.directory.contains (fileOf host) then (s, .ok (fileOf host))
  else
    match s.mint crypto clock host with
    | (s, .error e) => (s, .error e)
    | (s, .ok text) => s.save host text

/-- The certificate in a file, if connections can present it. -/
def presentable (s : CertificateStore) (crypto : Cryptography) (file : String) :
    Except CertificateError Bytes := do
  match s.directory.get? file with
  | none => throw (.file file)
  | some contents =>
    let certificate ← Material.certificateIn file contents
    if crypto.isCertificate certificate then return certificate else throw .presentation

/-- How connections to a host present themselves. Once there is a configuration
it is given again and again. -/
def tlsConfig (s : CertificateStore) (crypto : Cryptography) (clock : Int) (host : String) :
    Outcome TlsConfig :=
  match s.configs.lookup host with
  | some config => (s, .ok config)
  | none =>
    match s.certificateFile crypto clock host with
    | (s, .error e) => (s, .error e)
    | (s, .ok file) =>
      match s.presentable crypto file with
      | .error e => (s, .error e)
      | .ok certificate =>
        let config : TlsConfig := { id := s.configs.length, chain := [certificate, s.authority] }
        ({ s with configs := s.configs ++ [(host, config)] }, .ok config)

end CertificateStore

end CloudEmulator
