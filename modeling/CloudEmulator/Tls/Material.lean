import CloudEmulator.Tls.Certificate
import CloudEmulator.Tls.Directory
import CloudEmulator.Tls.Pem

/-!
# Material of a certificate authority

A directory with the certificate of the authority, its key, the key of all
certificates it makes, and a directory for these.
-/

namespace CloudEmulator

/-- Why there is no certificate. -/
inductive CertificateError where
  | invalidHost (host : String)
  | missingMaterial
  /-- A file cannot be read or written. -/
  | file (name : String)
  | noCertificate (name : String)
  /-- A key or certificate is not genuine, or signing failed. -/
  | generation
  /-- A certificate is not one that a connection can present. -/
  | presentation
  deriving DecidableEq, Repr

namespace CertificateError

/-- The error in words. -/
def message : CertificateError → String
  | invalidHost host => "Invalid host name '" ++ host ++ "'"
  | missingMaterial => "CA material incomplete"
  | file name => "I/O error on " ++ name
  | noCertificate name => "No certificate found in " ++ name
  | generation => "Certificate generation failed"
  | presentation => "TLS configuration failed"

end CertificateError

/-- An entry of the material's directory. -/
inductive MaterialEntry where
  | file (contents : Bytes)
  | directory (d : Directory)

/-- The entries of the material's directory by name. -/
structure Material where
  entries : List (String × MaterialEntry) := []

/-- Material that was loaded: the authority's certificate as it stands in its file
and as octets, and the directory of certificates. -/
structure LoadedMaterial where
  authorityText : Bytes
  authority : Bytes
  directory : Directory

namespace Material

/-- The file of the authority's certificate. -/
def authorityFile : String := "ca.crt"

/-- The file of the authority's key. -/
def authorityKeyFile : String := "ca.key"

/-- The file of the key that all certificates share. -/
def leafKeyFile : String := "cert.key"

/-- The directory of certificates. -/
def certificateDirectory : String := "certs"

/-- The contents of a file. -/
def file? (m : Material) (name : String) : Option Bytes :=
  match m.entries.lookup name with
  | some (.file contents) => some contents
  | _ => none

/-- The files of a directory. -/
def directory? (m : Material) (name : String) : Option Directory :=
  match m.entries.lookup name with
  | some (.directory d) => some d
  | _ => none

/-- All three files and the directory are there. -/
def isComplete (m : Material) : Bool :=
  (m.file? authorityFile).isSome && (m.file? authorityKeyFile).isSome &&
    (m.file? leafKeyFile).isSome && (m.directory? certificateDirectory).isSome

/-- Check that a file holds a key. -/
def checkKey (crypto : Cryptography) (name : String) (contents : Bytes) :
    Except CertificateError Unit :=
  match Utf8.decode? contents with
  | none => .error (.file name)
  | some text => if crypto.isKey text then .ok () else .error .generation

/-- The first certificate of a file. -/
def certificateIn (name : String) (contents : Bytes) : Except CertificateError Bytes :=
  match Pem.firstCertificate contents with
  | .error _ => .error (.file name)
  | .ok none => .error (.noCertificate name)
  | .ok (some octets) => .ok octets

/-- Load the material. -/
def load (crypto : Cryptography) (m : Material) : Except CertificateError LoadedMaterial :=
  match m.file? authorityFile, m.file? authorityKeyFile, m.file? leafKeyFile,
    m.directory? certificateDirectory with
  | some authorityText, some key, some leafKey, some directory => do
    let authority ← certificateIn authorityFile authorityText
    checkKey crypto authorityKeyFile key
    if crypto.isCertificate authority then
      checkKey crypto leafKeyFile leafKey
      return { authorityText, authority, directory }
    else
      throw .generation
  | _, _, _, _ => .error .missingMaterial

end Material

end CloudEmulator
