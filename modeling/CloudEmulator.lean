import CloudEmulator.Backend.Handler
import CloudEmulator.Backend.OperationCatalog
import CloudEmulator.Backend.RegionScope
import CloudEmulator.Backend.Registry
import CloudEmulator.Backend.Stub
import CloudEmulator.Client.Layer
import CloudEmulator.Client.Request
import CloudEmulator.CommandLine.Launch
import CloudEmulator.CommandLine.Options
import CloudEmulator.Config.ConfigError
import CloudEmulator.Config.EmulatorConfig
import CloudEmulator.Config.Environment
import CloudEmulator.Config.ProxyConfig
import CloudEmulator.Counters
import CloudEmulator.Decimal.Format
import CloudEmulator.Decimal.Shortest
import CloudEmulator.Emulator.Activation
import CloudEmulator.Emulator.Basic
import CloudEmulator.Emulator.Dispatch
import CloudEmulator.Emulator.Interception
import CloudEmulator.Extension.Basic
import CloudEmulator.Extension.Conversion
import CloudEmulator.Extension.Declaration
import CloudEmulator.Extension.LoadError
import CloudEmulator.Extension.Loader
import CloudEmulator.Extension.Pipeline
import CloudEmulator.Http.FieldMap
import CloudEmulator.Http.FormEncoding
import CloudEmulator.Http.Headers
import CloudEmulator.Http.Message
import CloudEmulator.Http.Uri
import CloudEmulator.Http.Url
import CloudEmulator.Json
import CloudEmulator.Main
import CloudEmulator.Net.IpAddress
import CloudEmulator.Pattern.Bracket
import CloudEmulator.Pattern.CharClass
import CloudEmulator.Pattern.Escape
import CloudEmulator.Pattern.Fault
import CloudEmulator.Pattern.Match
import CloudEmulator.Pattern.Reader
import CloudEmulator.Pattern.Reading
import CloudEmulator.Pattern.Repetition
import CloudEmulator.Pattern.Size
import CloudEmulator.Proofs.Emulator.Admission
import CloudEmulator.Proofs.Extension.HookOrder
import CloudEmulator.Proxy.Handler
import CloudEmulator.Proxy.Listener
import CloudEmulator.Proxy.Relay
import CloudEmulator.Proxy.Server
import CloudEmulator.Request
import CloudEmulator.Response
import CloudEmulator.Routing.AnchoredPattern
import CloudEmulator.Routing.RouteTable
import CloudEmulator.Routing.UrlIndex
import CloudEmulator.Script.Clock
import CloudEmulator.Script.Evaluation
import CloudEmulator.Script.Fault
import CloudEmulator.Script.Lexer
import CloudEmulator.Script.Library
import CloudEmulator.Script.Machine
import CloudEmulator.Script.Operator
import CloudEmulator.Script.Parser
import CloudEmulator.Script.Printing
import CloudEmulator.Script.Token
import CloudEmulator.Script.Tree
import CloudEmulator.Script.Value
import CloudEmulator.Text.Ascii
import CloudEmulator.Text.Blank
import CloudEmulator.Text.CaseFold
import CloudEmulator.Text.Category
import CloudEmulator.Text.Date
import CloudEmulator.Text.LetterCase
import CloudEmulator.Text.Number
import CloudEmulator.Text.Quoted
import CloudEmulator.Text.Utf8
import CloudEmulator.Tls.Certificate
import CloudEmulator.Tls.CertificateStore
import CloudEmulator.Tls.Directory
import CloudEmulator.Tls.HostName
import CloudEmulator.Tls.Material
import CloudEmulator.Tls.Path
import CloudEmulator.Tls.Pem
import CloudEmulator.Yaml.Cursor
import CloudEmulator.Yaml.Node
import CloudEmulator.Yaml.Reader
import CloudEmulator.Yaml.Scalar
import CloudEmulator.Proofs.Emulator.Schedule
import CloudEmulator.Proofs.Http.HeaderInsertion
import CloudEmulator.Proofs.Emulator.ContentLength
import CloudEmulator.Proofs.Backend.Access
import CloudEmulator.Proofs.Backend.Consistency
import CloudEmulator.Proofs.Backend.Runs
import CloudEmulator.Proofs.Backend.ObjectIdentity
import CloudEmulator.Proofs.Backend.Faces
import CloudEmulator.Proofs.Backend.Lookup
import CloudEmulator.Proofs.Emulator.Failure
import CloudEmulator.Proofs.Fallible
import CloudEmulator.Proofs.Emulator.Scopes
import CloudEmulator.Proofs.Emulator.Credentials
import CloudEmulator.Proofs.Emulator.Front
import CloudEmulator.Proofs.Emulator.Management
import CloudEmulator.Proofs.Emulator.Renewal
import CloudEmulator.Proofs.Emulator.Frame
import CloudEmulator.Proofs.Extension.ExecutionOrder
import CloudEmulator.Proofs.Extension.FunctionNames
import CloudEmulator.Proofs.Extension.Loading
import CloudEmulator.Proofs.Extension.StoredHooks
import CloudEmulator.Proofs.Extension.BlockLoading
import CloudEmulator.Proofs.Extension.DeclaredTypes
import CloudEmulator.Proofs.Extension.Stems
import CloudEmulator.Proofs.Extension.Precedence
import CloudEmulator.Proofs.Tls.Files
import CloudEmulator.Proofs.Tls.MintedOnce
import CloudEmulator.Proofs.Script.Lookup
import CloudEmulator.Proofs.Script.Signatures
import CloudEmulator.Proofs.Pattern.Meaning
import CloudEmulator.Proofs.Pattern.Locality
import CloudEmulator.Proofs.Pattern.Steady
import CloudEmulator.Proofs.Pattern.SteadyClasses
import CloudEmulator.Proofs.Pattern.SteadyReaders
import CloudEmulator.Proofs.Pattern.Reads
import CloudEmulator.Proofs.Pattern.Grouping
import CloudEmulator.Proofs.Pattern.FirstParts
import CloudEmulator.Proofs.Routing.Anchoring
import CloudEmulator.Proofs.Routing.QueryIndependence
import CloudEmulator.Proofs.Routing.Scheme
import CloudEmulator.Proofs.Routing.Joining
import CloudEmulator.Proofs.Proxy.EntryPaths
import CloudEmulator.Proofs.Emulator.Passage
import CloudEmulator.Proofs.Backend.Materialized
import CloudEmulator.Proofs.Emulator.Histories
import CloudEmulator.Proofs.Emulator.ListText
import CloudEmulator.Proofs.Routing.FirstMatch
import CloudEmulator.Proofs.Emulator.Classification
import CloudEmulator.Proofs.Emulator.Registering
import CloudEmulator.Proofs.Emulator.Listing
import CloudEmulator.Proofs.Emulator.Accounting
import CloudEmulator.Proofs.Proxy.Containment
import CloudEmulator.Proofs.Http.HeaderEquality
import CloudEmulator.Proofs.Extension.Acceptance
import CloudEmulator.Proofs.Extension.HeaderView
import CloudEmulator.Proofs.Extension.LoadedTypes
import CloudEmulator.Proofs.Http.UrlParts
import CloudEmulator.Proofs.Associations
import CloudEmulator.Proofs.Text.Encoding
import CloudEmulator.Proofs.Text.Letters
import CloudEmulator.Proofs.Http.FormEncoding
import CloudEmulator.Proofs.Http.FieldValues
import CloudEmulator.Proofs.Http.ResponseEncoding
import CloudEmulator.Proofs.Http.HeaderRoundTrip
import CloudEmulator.Proofs.Emulator.NamedOperation
import CloudEmulator.Proofs.Script.JsonValues
import CloudEmulator.Proofs.Script.Entries
import CloudEmulator.Proofs.Script.Records
import CloudEmulator.Proofs.Extension.HookAnswers
import CloudEmulator.Proofs.Extension.HandedBack
import CloudEmulator.Proofs.Proxy.Relaying
import CloudEmulator.Proofs.Tls.Serials
import CloudEmulator.Proofs.Tls.DistinctSerials
import CloudEmulator.Proofs.Http.HeaderReplacement
import CloudEmulator.Proofs.Tls.Paths
import CloudEmulator.Proofs.Tls.Naming
import CloudEmulator.Proofs.Tls.NameLengths
import CloudEmulator.Proofs.Config.FileSettings
import CloudEmulator.Proofs.CommandLine.Settings
