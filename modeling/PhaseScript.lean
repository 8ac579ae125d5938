import PhaseScript.Answer
import PhaseScript.Calendar.Basic
import PhaseScript.Calendar.Text
import PhaseScript.Codec.Basic
import PhaseScript.Codec.Catalog
import PhaseScript.Codec.DomainName
import PhaseScript.Codec.Unicode
import PhaseScript.Codec.Shifted
import PhaseScript.Codec.Table
import PhaseScript.Codec.TableData
import PhaseScript.CommandLine
import PhaseScript.Datum.Basic
import PhaseScript.Datum.Equal
import PhaseScript.Datum.Exception
import PhaseScript.Datum.ExceptionKind
import PhaseScript.Datum.JsonSafe
import PhaseScript.Datum.JsonText
import PhaseScript.Datum.Text
import PhaseScript.Envelope
import PhaseScript.Invocation
import PhaseScript.Failure
import PhaseScript.Host
import PhaseScript.Http.Client
import PhaseScript.Http.Fetch
import PhaseScript.Http.Response
import PhaseScript.Http.Session
import PhaseScript.Json.Basic
import PhaseScript.Json.Reader
import PhaseScript.Json.Writer
import PhaseScript.Machine.Arithmetic
import PhaseScript.Machine.Attributes
import PhaseScript.Machine.CalendarMethods
import PhaseScript.Machine.Call
import PhaseScript.Machine.CollectionMethods
import PhaseScript.Machine.Compare
import PhaseScript.Machine.Construct
import PhaseScript.Machine.CoreFunctions
import PhaseScript.Machine.Execution
import PhaseScript.Machine.Exports
import PhaseScript.Machine.Format
import PhaseScript.Machine.Scope
import PhaseScript.Machine.Handlers
import PhaseScript.Machine.Heap
import PhaseScript.Machine.HostFunctions
import PhaseScript.Machine.Identity
import PhaseScript.Machine.Intake
import PhaseScript.Machine.Interp
import PhaseScript.Machine.ItemTable
import PhaseScript.Machine.Iterate
import PhaseScript.Machine.JsonFunctions
import PhaseScript.Machine.Makers
import PhaseScript.Machine.MathFunctions
import PhaseScript.Machine.Modules
import PhaseScript.Machine.NumberMethods
import PhaseScript.Machine.OctetMethods
import PhaseScript.Machine.Promise
import PhaseScript.Machine.Sandbox
import PhaseScript.Machine.Sessions
import PhaseScript.Machine.Snapshot
import PhaseScript.Machine.Sorting
import PhaseScript.Machine.Step
import PhaseScript.Machine.Subscript
import PhaseScript.Machine.TextMethods
import PhaseScript.Machine.Value
import PhaseScript.Main
import PhaseScript.Number.Binary64
import PhaseScript.Number.Bits
import PhaseScript.Number.Complex
import PhaseScript.Number.Decimal
import PhaseScript.Number.FloatText
import PhaseScript.Number.Reading
import PhaseScript.Pattern.Basic
import PhaseScript.Pattern.Move
import PhaseScript.Pattern.Reader
import PhaseScript.Pattern.Search
import PhaseScript.Phase
import PhaseScript.Proofs.Datum.Enumeration
import PhaseScript.Proofs.Datum.Keeping
import PhaseScript.Proofs.Datum.Safe
import PhaseScript.Proofs.Datum.JsonText
import PhaseScript.Proofs.Envelope
import PhaseScript.Proofs.Failures
import PhaseScript.Proofs.Forwarding
import PhaseScript.Proofs.Hosts
import PhaseScript.Proofs.Http.Fetch
import PhaseScript.Proofs.Http.Header
import PhaseScript.Proofs.Http.Session
import PhaseScript.Proofs.Invocation
import PhaseScript.Proofs.Json.Finite
import PhaseScript.Proofs.Machine.Binding
import PhaseScript.Proofs.Machine.Chain
import PhaseScript.Proofs.Machine.Exports
import PhaseScript.Proofs.Machine.Fulfilment
import PhaseScript.Proofs.Machine.Gathering
import PhaseScript.Proofs.Machine.HandlerCall
import PhaseScript.Proofs.Machine.Logging
import PhaseScript.Proofs.Machine.ModuleNames
import PhaseScript.Proofs.Machine.Picture
import PhaseScript.Proofs.Machine.Plain
import PhaseScript.Proofs.Machine.Promise
import PhaseScript.Proofs.Machine.Rejection
import PhaseScript.Proofs.Machine.Requests
import PhaseScript.Proofs.Machine.Sandbox
import PhaseScript.Proofs.Machine.Settings
import PhaseScript.Proofs.PassThrough
import PhaseScript.Proofs.Rpc.CallerHeaders
import PhaseScript.Proofs.Rpc.Calls
import PhaseScript.Proofs.Rpc.Failures
import PhaseScript.Proofs.Rpc.Posting
import PhaseScript.Proofs.ServerAddress
import PhaseScript.Proofs.Service.Failures
import PhaseScript.Proofs.Service.Search
import PhaseScript.Proofs.Service.Storage
import PhaseScript.Proofs.Store.Agreement
import PhaseScript.Proofs.Store.Backend
import PhaseScript.Proofs.Store.Foreign
import PhaseScript.Rpc.Channel
import PhaseScript.Script.Block
import PhaseScript.Script.Code
import PhaseScript.Script.Grammar.Basic
import PhaseScript.Script.Grammar.Expression
import PhaseScript.Script.Grammar.Pattern
import PhaseScript.Script.Grammar.Statement
import PhaseScript.Script.Grammar.Target
import PhaseScript.Script.Literal
import PhaseScript.Script.Lowering
import PhaseScript.Script.Names
import PhaseScript.Script.Policy
import PhaseScript.Script.Source
import PhaseScript.Script.Syntax
import PhaseScript.Script.Token
import PhaseScript.Service.Body
import PhaseScript.Service.Logger
import PhaseScript.Service.Plugins
import PhaseScript.Service.Routes
import PhaseScript.Service.Storage
import PhaseScript.Settings.Basic
import PhaseScript.Settings.Reader
import PhaseScript.Signature
import PhaseScript.Store.Backend
import PhaseScript.Store.Basic
import PhaseScript.Store.Memory
import PhaseScript.Store.Redis
import PhaseScript.Text.Basic
import PhaseScript.Text.Category
import PhaseScript.Text.CategoryData
import PhaseScript.Text.Composed
import PhaseScript.Text.Encoding
import PhaseScript.Text.Layout
import PhaseScript.Text.Octets
import PhaseScript.Text.Punycode
import PhaseScript.Text.Quoted
import PhaseScript.Text.Search
import PhaseScript.Text.Template
import PhaseScript.Url.Basic
import PhaseScript.Url.HostName
import PhaseScript.Url.Label
import PhaseScript.Url.NameData
import PhaseScript.Url.Reader
