import Playback.CommandLine.Command
import Playback.CommandLine.Options
import Playback.Cpp.Declaration
import Playback.Cpp.Dumper
import Playback.Cpp.Rewrite
import Playback.Cpp.Scope
import Playback.Cpp.Support
import Playback.Fault
import Playback.InputStore
import Playback.Instrument
import Playback.Java.Rewrite
import Playback.Java.Support
import Playback.Json.Basic
import Playback.Json.Coerce
import Playback.Json.Display
import Playback.Json.Lookup
import Playback.Json.Reader
import Playback.Json.Writer
import Playback.Judge.Address
import Playback.Judge.Config
import Playback.Judge.Host
import Playback.Judge.HostName.Composite
import Playback.Judge.HostName.Context
import Playback.Judge.HostName.Direction
import Playback.Judge.HostName.Label
import Playback.Judge.HostName.Letter
import Playback.Judge.HostName.Punycode
import Playback.Judge.NumericHost
import Playback.Judge.Remote
import Playback.Judge.Verdict
import Playback.Language
import Playback.Main
import Playback.Monitor.Job
import Playback.Monitor.Program
import Playback.Monitor.Snapshot
import Playback.Monitor.Supply
import Playback.Number.Basic
import Playback.Number.Binary64
import Playback.Number.Shortest
import Playback.Object.Encoder
import Playback.Object.Kind
import Playback.Object.Memory
import Playback.Pattern.Basic
import Playback.Process
import Playback.Proofs.Cpp.Added
import Playback.Proofs.Cpp.Body
import Playback.Proofs.Cpp.Braces
import Playback.Proofs.Cpp.Calls
import Playback.Proofs.Cpp.Declaration
import Playback.Proofs.Cpp.Declarator
import Playback.Proofs.Cpp.Entry
import Playback.Proofs.Cpp.Fields
import Playback.Proofs.Cpp.Fragment
import Playback.Proofs.Cpp.Friends
import Playback.Proofs.Cpp.Header
import Playback.Proofs.Cpp.Lead
import Playback.Proofs.Cpp.Names
import Playback.Proofs.Cpp.Parameter
import Playback.Proofs.Cpp.Plain
import Playback.Proofs.Cpp.Scopes
import Playback.Proofs.Cpp.Size
import Playback.Proofs.Cpp.Span
import Playback.Proofs.Cpp.Statements
import Playback.Proofs.Cpp.Structures
import Playback.Proofs.Cpp.Template
import Playback.Proofs.Cpp.Visible
import Playback.Proofs.InputStore
import Playback.Proofs.Instrument
import Playback.Proofs.Java.Added
import Playback.Proofs.Java.Fragment
import Playback.Proofs.Java.Lines
import Playback.Proofs.Java.Recognition
import Playback.Proofs.Java.Statements
import Playback.Proofs.Json.Escapes
import Playback.Proofs.Json.Reading
import Playback.Proofs.Json.RoundTrip
import Playback.Proofs.Json.Strings
import Playback.Proofs.Judge.Address
import Playback.Proofs.Judge.Course
import Playback.Proofs.Judge.Reply
import Playback.Proofs.Judge.Submission
import Playback.Proofs.Monitor.Capture
import Playback.Proofs.Monitor.Document
import Playback.Proofs.Monitor.Machine
import Playback.Proofs.Monitor.Report
import Playback.Proofs.Monitor.Supply
import Playback.Proofs.Number.Rounding
import Playback.Proofs.Object.Bounds
import Playback.Proofs.Object.Change
import Playback.Proofs.Object.Depth
import Playback.Proofs.Object.Effects
import Playback.Proofs.Object.Encoding
import Playback.Proofs.Object.Identity
import Playback.Proofs.Object.Kind
import Playback.Proofs.Object.Session
import Playback.Proofs.Object.Texts
import Playback.Proofs.Object.Written
import Playback.Proofs.Pattern.Captures
import Playback.Proofs.Pattern.Local
import Playback.Proofs.Pattern.Repetition
import Playback.Proofs.Pattern.Run
import Playback.Proofs.Pattern.Search
import Playback.Proofs.Pattern.Words
import Playback.Proofs.Run.Answer
import Playback.Proofs.Run.Coherence
import Playback.Proofs.Run.Ending
import Playback.Proofs.Run.ScriptFailure
import Playback.Proofs.Run.Setback
import Playback.Proofs.Run.Truncation
import Playback.Proofs.Screening.Imports
import Playback.Proofs.Screening.Padding
import Playback.Proofs.Script.Added
import Playback.Proofs.Script.Innermost
import Playback.Proofs.Script.Prelude
import Playback.Proofs.Script.Preorder
import Playback.Proofs.Source.Automaton
import Playback.Proofs.Source.Cuts
import Playback.Proofs.Source.Layout
import Playback.Proofs.Source.Name
import Playback.Proofs.Source.Nesting
import Playback.Proofs.Source.Scan
import Playback.Proofs.Source.Weave
import Playback.Proofs.Text.Blank
import Playback.Proofs.Text.Lines
import Playback.Proofs.Text.Replace
import Playback.Proofs.Text.Spacing
import Playback.Proofs.Trace.Coherence
import Playback.Proofs.Trace.Cut
import Playback.Proofs.Trace.Emitted
import Playback.Proofs.Trace.Executed
import Playback.Proofs.Trace.Export
import Playback.Proofs.Trace.Faults
import Playback.Proofs.Trace.Interleaving
import Playback.Proofs.Trace.Latest
import Playback.Proofs.Trace.Parse
import Playback.Proofs.Trace.Payload
import Playback.Proofs.Trace.Records
import Playback.Proofs.Trace.Repair
import Playback.Proofs.Trace.Replay
import Playback.Proofs.Trace.Skipped
import Playback.Proofs.Trace.Written
import Playback.Run.Execution
import Playback.Run.Session
import Playback.Run.Strategy
import Playback.Run.Surroundings
import Playback.Run.Tracing
import Playback.Screening
import Playback.Script.Capture
import Playback.Script.Names
import Playback.Script.Prelude
import Playback.Script.Tree
import Playback.Source.Code
import Playback.Source.Scan
import Playback.Text.Blank
import Playback.Text.Digit
import Playback.Text.Lines
import Playback.Text.Lowercase
import Playback.Text.Mark
import Playback.Text.Numeral
import Playback.Text.Percent
import Playback.Text.Printable
import Playback.Text.Quoted
import Playback.Text.Ranges
import Playback.Text.Replace
import Playback.Text.ShellWords
import Playback.Text.Slice
import Playback.Text.Template
import Playback.Text.Utf8
import Playback.Text.Word
import Playback.Trace.Heap
import Playback.Trace.Record
import Playback.Trace.Result
import Playback.Trace.Step
import Playback.Trace.Timeline
