import LoadOrder.Text.Blank
import LoadOrder.Text.Lines
import LoadOrder.Text.Decimal
import LoadOrder.Text.Quoted
import LoadOrder.LoadedType
import LoadOrder.Source
import LoadOrder.FilePath
import LoadOrder.Config
import LoadOrder.Error
import LoadOrder.Entry.Parser
import LoadOrder.Manifest
import LoadOrder.Manifest.Order
import LoadOrder.Registry
import LoadOrder.Catalog.Policy
import LoadOrder.Notice
import LoadOrder.Output
import LoadOrder.Directory
import LoadOrder.Sink
import LoadOrder.Writer.Session
import LoadOrder.Json.Parser
import LoadOrder.Json.Strict
import LoadOrder.Event.Decoding
import LoadOrder.Replay
import LoadOrder.Program
import LoadOrder.Main
import LoadOrder.Proofs.Text.Words
import LoadOrder.Proofs.Text.Lines
import LoadOrder.Proofs.Text.Utf8
import LoadOrder.Proofs.Output
import LoadOrder.Proofs.Catalog
import LoadOrder.Proofs.Registry
import LoadOrder.Proofs.Eligibility
import LoadOrder.Proofs.Sink
import LoadOrder.Proofs.Writer.Calls
import LoadOrder.Proofs.Writer.Contents
import LoadOrder.Proofs.Manifest.Order
import LoadOrder.Proofs.Writer.References
import LoadOrder.Proofs.Writer.Names
import LoadOrder.Proofs.Writer.Rejections
import LoadOrder.Proofs.Writer.LostLines
import LoadOrder.Proofs.Writer.Stopping
import LoadOrder.Proofs.Entry.Line
import LoadOrder.Proofs.Entry.Grammar
import LoadOrder.Proofs.Manifest.RoundTrip
import LoadOrder.Proofs.Writer.Operations
import LoadOrder.Proofs.Acceptance
import LoadOrder.Proofs.Writer.Warnings
import LoadOrder.Proofs.Registry.Renaming
import LoadOrder.Proofs.Registry.Calls
import LoadOrder.Proofs.Writer.Renaming
import LoadOrder.Proofs.Writer.Ids
import LoadOrder.Proofs.Eligibility.Independence
import LoadOrder.Proofs.Eligibility.Rules
import LoadOrder.Proofs.Writer.Exchange
import LoadOrder.Proofs.Writer.Sources
import LoadOrder.Proofs.Writer.Candidates
import LoadOrder.Proofs.Json.Reading
import LoadOrder.Proofs.Json.Records
import LoadOrder.Proofs.Json.Writing
import LoadOrder.Proofs.Event.RoundTrip
import LoadOrder.Proofs.Directory
import LoadOrder.Proofs.Sink.File
import LoadOrder.Proofs.Program
import LoadOrder.Proofs.LogName
import LoadOrder.Proofs.Manifest.Appending
import LoadOrder.Proofs.Replay.Streams
