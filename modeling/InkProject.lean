import InkProject.Command.Arguments
import InkProject.Command.Run
import InkProject.Command.Usage
import InkProject.Compiler.Candidates
import InkProject.Compiler.Codec
import InkProject.Compiler.Locate
import InkProject.Compiler.Location
import InkProject.Compiler.Message
import InkProject.Compiler.Report
import InkProject.Compiler.Settings
import InkProject.Disk.Error
import InkProject.Disk.Listing
import InkProject.Disk.Operations
import InkProject.Disk.Tree
import InkProject.Disk.Walk
import InkProject.FileName
import InkProject.Files.Create
import InkProject.Files.Fresh
import InkProject.Files.Series
import InkProject.Json.Basic
import InkProject.Json.Decode
import InkProject.Json.Failure
import InkProject.Json.Read
import InkProject.Json.Write
import InkProject.Log
import InkProject.Main
import InkProject.Notice
import InkProject.Number.Double
import InkProject.Number.Shortest
import InkProject.Outcome
import InkProject.Path.Basic
import InkProject.Path.Relative
import InkProject.Project.Config
import InkProject.Proofs.Compiler.Choice
import InkProject.Proofs.Compiler.Companion
import InkProject.Proofs.Compiler.Idempotence
import InkProject.Proofs.Compiler.Relocations
import InkProject.Proofs.Compiler.Rerun
import InkProject.Proofs.Compiler.Search
import InkProject.Proofs.Compiler.Steps
import InkProject.Proofs.Compiler.Usable
import InkProject.Proofs.Disk.Change
import InkProject.Proofs.Disk.Clear
import InkProject.Proofs.Disk.Ending
import InkProject.Proofs.Disk.Moved
import InkProject.Proofs.Disk.Plain
import InkProject.Proofs.Disk.View
import InkProject.Proofs.Disk.Way
import InkProject.Proofs.Json.Decode
import InkProject.Proofs.Json.Reading
import InkProject.Proofs.Json.RoundTrip
import InkProject.Proofs.Json.Scalars
import InkProject.Proofs.Path.Canonical
import InkProject.Proofs.Results
import InkProject.Proofs.Story.Globals
import InkProject.Proofs.Story.Saving
import InkProject.Proofs.Story.State
import InkProject.Proofs.Table
import InkProject.Proofs.Text.Encoding
import InkProject.Script.Arithmetic
import InkProject.Script.Builtin.Basic
import InkProject.Script.Builtin.Control
import InkProject.Script.Builtin.Variables
import InkProject.Script.Builtin.Whereabouts
import InkProject.Script.Builtin.Words
import InkProject.Script.Call
import InkProject.Script.Command
import InkProject.Script.Condition
import InkProject.Script.Expand
import InkProject.Script.Format
import InkProject.Script.Glob
import InkProject.Script.Launch
import InkProject.Script.Pattern
import InkProject.Script.Process
import InkProject.Script.Program.Basic
import InkProject.Script.Program.Copying
import InkProject.Script.Program.Listing
import InkProject.Script.Program.Making
import InkProject.Script.Program.Names
import InkProject.Script.Program.Streams
import InkProject.Script.Program.Table
import InkProject.Script.Program.Translate
import InkProject.Script.Read
import InkProject.Script.Real
import InkProject.Script.Redirect
import InkProject.Script.Run
import InkProject.Script.Shell
import InkProject.Script.Signal
import InkProject.Script.Source
import InkProject.Script.Split
import InkProject.Script.Token
import InkProject.Script.Word
import InkProject.Shape
import InkProject.Story.Basic
import InkProject.Story.Document
import InkProject.Story.Error
import InkProject.Story.Globals
import InkProject.Story.Guarded
import InkProject.Story.Session
import InkProject.Story.State
import InkProject.Story.Validation
import InkProject.Table
import InkProject.Text.Blank
import InkProject.Text.Printable
import InkProject.Text.Quoted
import InkProject.Text.Utf8
import InkProject.Toml.Basic
import InkProject.Toml.Read
import InkProject.Toml.Scalar
import InkProject.Toml.Tables
import InkProject.Toml.Text
import InkProject.Proofs.Story.History
import InkProject.Proofs.Story.Format
import InkProject.Proofs.Story.Validation
import InkProject.Proofs.Files.Series
import InkProject.Proofs.Compiler.Order
import InkProject.Proofs.Compiler.Failure
import InkProject.Proofs.Compiler.Additions
import InkProject.Proofs.Compiler.Replay
import InkProject.Proofs.Story.Declarations
import InkProject.Proofs.Story.Acceptance
import InkProject.Proofs.Compiler.Codec
import InkProject.Proofs.Disk.Carried
import InkProject.Proofs.Compiler.Crossing
import InkProject.Proofs.Command.Source
import InkProject.Proofs.Story.Compiled
import InkProject.Proofs.Text.Blank
import InkProject.Proofs.Compiler.Output
import InkProject.Proofs.Compiler.Report
import InkProject.Proofs.Files.Marked
import InkProject.Proofs.Path.Parts
import InkProject.Proofs.Path.Relative
import InkProject.Proofs.Story.Recorded
import InkProject.Proofs.Compiler.Exploration
