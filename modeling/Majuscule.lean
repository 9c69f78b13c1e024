import Majuscule.Command
import Majuscule.CommandLine
import Majuscule.Completion
import Majuscule.Decode.Error
import Majuscule.Decode.Record
import Majuscule.Decode.Scalar
import Majuscule.Decode.Shape
import Majuscule.Documents
import Majuscule.Json
import Majuscule.Json.Parser
import Majuscule.Json.Printer
import Majuscule.Lifecycle
import Majuscule.Lifecycle.Call
import Majuscule.Log
import Majuscule.Main
import Majuscule.Number.Binary64
import Majuscule.Number.Decimal
import Majuscule.Protocol.Capabilities
import Majuscule.Protocol.CompletionItem
import Majuscule.Protocol.Diagnostic
import Majuscule.Protocol.Params
import Majuscule.Protocol.Range
import Majuscule.Protocol.Rpc
import Majuscule.Protocol.Unserved
import Majuscule.Scan
import Majuscule.Server.Dispatch
import Majuscule.Server.Handler
import Majuscule.Server.State
import Majuscule.Server.Step
import Majuscule.Settings
import Majuscule.Text.Blank
import Majuscule.Text.CodeSet
import Majuscule.Text.Composition
import Majuscule.Text.Composition.Table
import Majuscule.Text.Hidden
import Majuscule.Text.Pieces
import Majuscule.Text.Quoted
import Majuscule.Text.Terminal
import Majuscule.Text.Utf16
import Majuscule.Text.WordChar
import Majuscule.Url
import Majuscule.Url.Domain
import Majuscule.Url.Domain.Label
import Majuscule.Url.Domain.LetterTable
import Majuscule.Url.Domain.Mapping
import Majuscule.Url.Domain.MappingTable
import Majuscule.Url.Domain.Punycode
import Majuscule.Url.Host
import Majuscule.Url.Percent
import Majuscule.Wire.Connection
import Majuscule.Wire.Frame
import Majuscule.Wire.Message
import Majuscule.Wire.Workload
import Majuscule.Proofs.Server.Frame
import Majuscule.Proofs.Server.InStep
import Majuscule.Proofs.Server.ClientView
import Majuscule.Proofs.Scan.Spans
import Majuscule.Proofs.Text.Lines
import Majuscule.Proofs.Scan.QuickFix
import Majuscule.Proofs.Server.ExitCode
import Majuscule.Proofs.Server.WorkingTime
import Majuscule.Proofs.Server.Isolation
import Majuscule.Proofs.Decode.Record
import Majuscule.Proofs.Protocol.Diagnostic
import Majuscule.Proofs.Server.Remedy
import Majuscule.Proofs.Server.Failure
import Majuscule.Proofs.Scan.Parts
import Majuscule.Proofs.Scan.Ranges
import Majuscule.Proofs.Scan.FixAll
import Majuscule.Proofs.Command
import Majuscule.Proofs.Server.Delivery
import Majuscule.Proofs.Settings
import Majuscule.Proofs.Server.Commands
import Majuscule.Proofs.Decode.RoundTrip
import Majuscule.Proofs.Lifecycle
import Majuscule.Proofs.Scan.LineBreaks
import Majuscule.Proofs.Server.Completion
