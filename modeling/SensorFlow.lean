import SensorFlow.Analysis.Run
import SensorFlow.Digest.Blake3
import SensorFlow.File.CharClass
import SensorFlow.File.Glob
import SensorFlow.File.Ignore
import SensorFlow.File.Inventory
import SensorFlow.File.Path
import SensorFlow.File.Tree
import SensorFlow.Graph.Basic
import SensorFlow.Graph.Build
import SensorFlow.Graph.Flow
import SensorFlow.Graph.Reach
import SensorFlow.Issue.Basic
import SensorFlow.Issue.Detection
import SensorFlow.Java.Combinator
import SensorFlow.Java.Grammar.Declaration
import SensorFlow.Java.Grammar.Expression
import SensorFlow.Java.Grammar.Name
import SensorFlow.Java.Grammar.Statement
import SensorFlow.Java.Outline
import SensorFlow.Java.Parse
import SensorFlow.Java.Token
import SensorFlow.Java.Tree
import SensorFlow.Json.Basic
import SensorFlow.Json.Decode
import SensorFlow.Json.Indent
import SensorFlow.Json.Parse
import SensorFlow.Json.Render
import SensorFlow.Kotlin.Call
import SensorFlow.Kotlin.Declaration
import SensorFlow.Kotlin.Field
import SensorFlow.Kotlin.Function
import SensorFlow.Kotlin.Outline
import SensorFlow.Language
import SensorFlow.Main
import SensorFlow.Number.Binary
import SensorFlow.Report.Basic
import SensorFlow.Report.Codec
import SensorFlow.Sensor
import SensorFlow.Sensor.Detection
import SensorFlow.Service.CommandLine
import SensorFlow.Service.Error
import SensorFlow.Service.Job
import SensorFlow.Service.Query
import SensorFlow.Service.Session
import SensorFlow.Service.Settings
import SensorFlow.Service.Symbols
import SensorFlow.Service.Workbench
import SensorFlow.Source.Brackets
import SensorFlow.Source.Masking
import SensorFlow.Store.Cache
import SensorFlow.Store.Fingerprint
import SensorFlow.Symbol.Basic
import SensorFlow.Symbol.CallTarget
import SensorFlow.Symbol.Codec
import SensorFlow.Symbol.Extractor
import SensorFlow.Symbol.Naming
import SensorFlow.Symbol.Table
import SensorFlow.Text.Alphanumeric
import SensorFlow.Text.Blank
import SensorFlow.Text.CaseMap
import SensorFlow.Text.Digit
import SensorFlow.Text.Integer
import SensorFlow.Text.Order
import SensorFlow.Text.Printable
import SensorFlow.Text.Range
import SensorFlow.Text.Scan
import SensorFlow.Text.Utf8
import SensorFlow.Proofs.Graph.Route
import SensorFlow.Proofs.Graph.Search
import SensorFlow.Proofs.Analysis.Schedule
import SensorFlow.Proofs.Analysis.Cancellation
import SensorFlow.Proofs.Order
import SensorFlow.Proofs.Symbol.Table
import SensorFlow.Proofs.Analysis.Reordering
import SensorFlow.Proofs.Graph.Build
import SensorFlow.Proofs.Analysis.Checkpoint
import SensorFlow.Proofs.File.Tree
import SensorFlow.Proofs.Store.Cache
import SensorFlow.Proofs.Service.Ending
import SensorFlow.Proofs.Service.SavedResult
import SensorFlow.Proofs.Service.History
import SensorFlow.Proofs.Kotlin.Header
import SensorFlow.Proofs.Kotlin.Ownership
import SensorFlow.Proofs.Graph.Reach
import SensorFlow.Proofs.Issue.Agreement
import SensorFlow.Proofs.Issue.Pairs
import SensorFlow.Proofs.Issue.Growth
import SensorFlow.Proofs.Issue.Listeners
import SensorFlow.Proofs.Symbol.Locality
import SensorFlow.Proofs.Symbol.Files
import SensorFlow.Proofs.Json.Widening
import SensorFlow.Proofs.Service.JobLifecycle
import SensorFlow.Proofs.Report.RoundTrip
import SensorFlow.Proofs.Store.Fingerprint
import SensorFlow.Proofs.File.Inventory
import SensorFlow.Proofs.Analysis.Findings
import SensorFlow.Proofs.Store.Saving
import SensorFlow.Proofs.Store.Staleness
import SensorFlow.Proofs.Service.Transparency
import SensorFlow.Proofs.Service.Ranking
import SensorFlow.Proofs.Source.Masking
import SensorFlow.Proofs.Source.Balance
import SensorFlow.Proofs.Source.Depth
import SensorFlow.Proofs.Source.LineBreak
import SensorFlow.Proofs.Source.Lines
import SensorFlow.Proofs.Source.Parts
import SensorFlow.Proofs.Kotlin.Contents
import SensorFlow.Proofs.Kotlin.Attribution
import SensorFlow.Proofs.Kotlin.CallSite
import SensorFlow.Proofs.Java.Address
import SensorFlow.Proofs.Java.Attribution
import SensorFlow.Proofs.Kotlin.Body
import SensorFlow.Proofs.Kotlin.Enclosure
import SensorFlow.Proofs.Kotlin.FunctionHeader
import SensorFlow.Proofs.Kotlin.Clause
import SensorFlow.Proofs.Kotlin.Annotation
import SensorFlow.Proofs.Kotlin.Quiet
import SensorFlow.Proofs.Kotlin.Generic
