import CallReplay.Artifact
import CallReplay.Blake3
import CallReplay.CallRecord
import CallReplay.CommandLine.Arguments
import CallReplay.CommandLine.Command
import CallReplay.CommandLine.Help
import CallReplay.CommandLine.Run
import CallReplay.Database.Format
import CallReplay.Database.Location
import CallReplay.Database.Name
import CallReplay.Database.Opening
import CallReplay.Database.PlainFormat
import CallReplay.Database.Recovery
import CallReplay.Database.Setup
import CallReplay.Database.SideFile
import CallReplay.Decimal.Ieee
import CallReplay.Decimal.Numeral
import CallReplay.Decimal.Shortest
import CallReplay.Files
import CallReplay.Frame
import CallReplay.Heap
import CallReplay.Http.Exchange
import CallReplay.Http.MediaType
import CallReplay.Http.Message
import CallReplay.Http.Route
import CallReplay.Json
import CallReplay.Json.Artifact
import CallReplay.Json.Decode
import CallReplay.Json.Graph
import CallReplay.Json.Number
import CallReplay.Json.Session
import CallReplay.Json.Source
import CallReplay.Lists
import CallReplay.Literal
import CallReplay.Main
import CallReplay.Payload
import CallReplay.RecordError
import CallReplay.Recorder
import CallReplay.RemotePath
import CallReplay.Script.Compiler
import CallReplay.Script.Statement
import CallReplay.Server.Basic
import CallReplay.Server.Failure
import CallReplay.Server.Post
import CallReplay.Server.Session
import CallReplay.Server.SessionId
import CallReplay.Signature
import CallReplay.Store
import CallReplay.Text.Blank
import CallReplay.Text.Hex
import CallReplay.Text.LetterCase
import CallReplay.Text.Percent
import CallReplay.Text.Quoted
import CallReplay.Text.Replace
import CallReplay.Text.Split
import CallReplay.Text.Units
import CallReplay.Text.Utf8
import CallReplay.TextMap
import CallReplay.TypeDesc
import CallReplay.Value
import CallReplay.VariableName
import CallReplay.Wire.Decoder
import CallReplay.Wire.Graph
import CallReplay.Proofs.ArtifactId
import CallReplay.Proofs.CallRecord
import CallReplay.Proofs.CommandLine.Agreement
import CallReplay.Proofs.CommandLine.Generate
import CallReplay.Proofs.Database.Format
import CallReplay.Proofs.Database.Opening
import CallReplay.Proofs.Except
import CallReplay.Proofs.Files
import CallReplay.Proofs.Frame
import CallReplay.Proofs.Framing
import CallReplay.Proofs.Heap
import CallReplay.Proofs.Heap.Operations
import CallReplay.Proofs.Heap.Runs
import CallReplay.Proofs.Http.PostedRecords
import CallReplay.Proofs.Http.Requests
import CallReplay.Proofs.Http.SessionView
import CallReplay.Proofs.Http.Target
import CallReplay.Proofs.Http.Transcript
import CallReplay.Proofs.Json.Forms
import CallReplay.Proofs.Json.Records
import CallReplay.Proofs.Json.Spelling
import CallReplay.Proofs.Json.Vetted
import CallReplay.Proofs.Json.Written
import CallReplay.Proofs.Layout
import CallReplay.Proofs.Lifecycle
import CallReplay.Proofs.Lists
import CallReplay.Proofs.Literal
import CallReplay.Proofs.Pipeline
import CallReplay.Proofs.Preorder
import CallReplay.Proofs.Quoting
import CallReplay.Proofs.RemotePath
import CallReplay.Proofs.RemoteSearch
import CallReplay.Proofs.Renaming
import CallReplay.Proofs.Repacking
import CallReplay.Proofs.RoundTrip
import CallReplay.Proofs.SamplerName
import CallReplay.Proofs.Script.Arguments
import CallReplay.Proofs.Script.ArrayTypes
import CallReplay.Proofs.Script.Attempts
import CallReplay.Proofs.Script.Depth
import CallReplay.Proofs.Script.Dimensions
import CallReplay.Proofs.Script.Execution
import CallReplay.Proofs.Script.Filling
import CallReplay.Proofs.Script.Identity
import CallReplay.Proofs.Script.Plan
import CallReplay.Proofs.Script.Positions
import CallReplay.Proofs.Script.Rebuild
import CallReplay.Proofs.Script.Registration
import CallReplay.Proofs.Script.Renaming
import CallReplay.Proofs.Script.Run
import CallReplay.Proofs.Script.Scope
import CallReplay.Proofs.Script.TagLine
import CallReplay.Proofs.Script.Writing
import CallReplay.Proofs.Server.CallOrder
import CallReplay.Proofs.Server.Isolation
import CallReplay.Proofs.Server.Posting
import CallReplay.Proofs.Server.Registry
import CallReplay.Proofs.Server.Traffic
import CallReplay.Proofs.Signature
import CallReplay.Proofs.Sorting
import CallReplay.Proofs.Stability
import CallReplay.Proofs.Store.Integrity
import CallReplay.Proofs.Store.LastDelivery
import CallReplay.Proofs.Store.Listing
import CallReplay.Proofs.Store.Log
import CallReplay.Proofs.Store.Rows
import CallReplay.Proofs.Store.Transaction
import CallReplay.Proofs.Surplus
import CallReplay.Proofs.Text.Hex
import CallReplay.Proofs.Text.Lines
import CallReplay.Proofs.Text.Replace
import CallReplay.Proofs.Text.Split
import CallReplay.Proofs.Text.Utf8
import CallReplay.Proofs.TextMap
import CallReplay.Proofs.Transfer
import CallReplay.Proofs.TypeDesc
import CallReplay.Proofs.Wire.Decoded
import CallReplay.Proofs.Wire.Decoder
import CallReplay.Proofs.Wire.Graph
