import WidgetForge.CommandLine.CompilerProgram
import WidgetForge.CommandLine.Finish
import WidgetForge.CommandLine.Grammar
import WidgetForge.CommandLine.HostProgram
import WidgetForge.Compiler.Compile
import WidgetForge.Compiler.Error
import WidgetForge.Compiler.Options
import WidgetForge.Compiler.Persist
import WidgetForge.Decimal.Rounded
import WidgetForge.Decimal.Shortest
import WidgetForge.Disk.Calls
import WidgetForge.Disk.Entries
import WidgetForge.Disk.IoError
import WidgetForge.Disk.OsError
import WidgetForge.Disk.Pathname
import WidgetForge.Disk.Save
import WidgetForge.Disk.Tree
import WidgetForge.Disk.Walk
import WidgetForge.Document
import WidgetForge.Editing.Program
import WidgetForge.Editing.Reader
import WidgetForge.Editing.Run
import WidgetForge.Editing.Script
import WidgetForge.Host.Basic
import WidgetForge.Host.Config
import WidgetForge.Host.Incoming
import WidgetForge.Host.Instructions
import WidgetForge.Host.Reply
import WidgetForge.Host.Session
import WidgetForge.Json.Fault
import WidgetForge.Json.Number
import WidgetForge.Json.Printer
import WidgetForge.Json.Reader
import WidgetForge.Json.Record
import WidgetForge.Json.Schema
import WidgetForge.Json.Shape
import WidgetForge.Json.Skip
import WidgetForge.Json.Value
import WidgetForge.Keyed
import WidgetForge.Machine.Basic
import WidgetForge.Machine.Invocation
import WidgetForge.Machine.Launch
import WidgetForge.Main
import WidgetForge.Operator.Command
import WidgetForge.Operator.Programs
import WidgetForge.Operator.Prompt
import WidgetForge.Operator.Terminal
import WidgetForge.Procedure.Basic
import WidgetForge.Procedure.World
import WidgetForge.Records.Program
import WidgetForge.Records.Reader
import WidgetForge.Records.Run
import WidgetForge.Records.Script
import WidgetForge.Records.State
import WidgetForge.Records.Token
import WidgetForge.Records.Value
import WidgetForge.Regex.Basic
import WidgetForge.Regex.Reader
import WidgetForge.Shell.Arithmetic
import WidgetForge.Shell.Builtin
import WidgetForge.Shell.Execution
import WidgetForge.Shell.Expansion
import WidgetForge.Shell.Field
import WidgetForge.Shell.Glob
import WidgetForge.Shell.Pattern
import WidgetForge.Shell.Program
import WidgetForge.Shell.Reader
import WidgetForge.Shell.Script
import WidgetForge.Shell.Source
import WidgetForge.Shell.State
import WidgetForge.Surroundings
import WidgetForge.Text.Alphanumeric
import WidgetForge.Text.Blank
import WidgetForge.Text.Concealed
import WidgetForge.Text.Hexadecimal
import WidgetForge.Text.Identifier
import WidgetForge.Text.Octetwise
import WidgetForge.Text.Quoted
import WidgetForge.Text.Replace
import WidgetForge.Text.Split
import WidgetForge.Text.Utf8
import WidgetForge.Tool.Basic
import WidgetForge.Tool.Compile
import WidgetForge.Tool.Error
import WidgetForge.Tool.Registry
import WidgetForge.Tool.Spec
import WidgetForge.Tool.TotalLength
import WidgetForge.Utility.Characters
import WidgetForge.Utility.Columns
import WidgetForge.Utility.Comparison
import WidgetForge.Utility.Condition
import WidgetForge.Utility.Copying
import WidgetForge.Utility.Counting
import WidgetForge.Utility.Ends
import WidgetForge.Utility.Escape
import WidgetForge.Utility.Expression
import WidgetForge.Utility.Files
import WidgetForge.Utility.Finding
import WidgetForge.Utility.Format
import WidgetForge.Utility.Identity
import WidgetForge.Utility.Launching
import WidgetForge.Utility.Lines
import WidgetForge.Utility.Listing
import WidgetForge.Utility.Names
import WidgetForge.Utility.Options
import WidgetForge.Utility.Printing
import WidgetForge.Utility.Quoting
import WidgetForge.Utility.Search
import WidgetForge.Utility.Sorting
import WidgetForge.Utility.Transliteration
import WidgetForge.Widget.Literal
import WidgetForge.Widget.Request
import WidgetForge.Widget.Script
import WidgetForge.Widget.StyleMapping
import WidgetForge.Widget.Violation
import WidgetForge.Proofs.CommandLine.CompileJob
import WidgetForge.Proofs.CommandLine.Flags
import WidgetForge.Proofs.CommandLine.Preview
import WidgetForge.Proofs.CommandLine.StatusLine
import WidgetForge.Proofs.Compiler.Again
import WidgetForge.Proofs.Compiler.Effects
import WidgetForge.Proofs.Compiler.Generate
import WidgetForge.Proofs.Compiler.LastResort
import WidgetForge.Proofs.Compiler.Runs
import WidgetForge.Proofs.Compiler.Series
import WidgetForge.Proofs.Compiler.StyleTexts
import WidgetForge.Proofs.Disk.Calls
import WidgetForge.Proofs.Disk.Extension
import WidgetForge.Proofs.Disk.Folders
import WidgetForge.Proofs.Disk.FoldersAgain
import WidgetForge.Proofs.Disk.Parents
import WidgetForge.Proofs.Disk.Protocol
import WidgetForge.Proofs.Disk.SameFolders
import WidgetForge.Proofs.Disk.Save
import WidgetForge.Proofs.Disk.SaveRun
import WidgetForge.Proofs.Disk.SideBySide
import WidgetForge.Proofs.Disk.Tree
import WidgetForge.Proofs.Disk.Walk
import WidgetForge.Proofs.EntryPoints
import WidgetForge.Proofs.Host.Alone
import WidgetForge.Proofs.Host.Answers
import WidgetForge.Proofs.Host.Calls
import WidgetForge.Proofs.Host.Identifiers
import WidgetForge.Proofs.Host.Isolation
import WidgetForge.Proofs.Host.Lines
import WidgetForge.Proofs.Host.Messages
import WidgetForge.Proofs.Host.Replies
import WidgetForge.Proofs.Host.Serve
import WidgetForge.Proofs.Host.Session
import WidgetForge.Proofs.Host.Unheard
import WidgetForge.Proofs.Json.Agreement
import WidgetForge.Proofs.Json.Consumption
import WidgetForge.Proofs.Json.Fields
import WidgetForge.Proofs.Json.Grammar
import WidgetForge.Proofs.Json.Locality
import WidgetForge.Proofs.Json.Nesting
import WidgetForge.Proofs.Json.Numbers
import WidgetForge.Proofs.Json.Numerals
import WidgetForge.Proofs.Json.OneLine
import WidgetForge.Proofs.Json.Records
import WidgetForge.Proofs.Json.Schemas
import WidgetForge.Proofs.Json.Spelling
import WidgetForge.Proofs.Json.Strings
import WidgetForge.Proofs.Json.Values
import WidgetForge.Proofs.Keyed
import WidgetForge.Proofs.Machine.Quiet
import WidgetForge.Proofs.Operator.Expansion
import WidgetForge.Proofs.Operator.FirstLine
import WidgetForge.Proofs.Operator.Speakers
import WidgetForge.Proofs.Procedure.Ends
import WidgetForge.Proofs.Procedure.Progress
import WidgetForge.Proofs.Procedure.Run
import WidgetForge.Proofs.Text.Blank
import WidgetForge.Proofs.Text.First
import WidgetForge.Proofs.Text.Identifier
import WidgetForge.Proofs.Text.Lossy
import WidgetForge.Proofs.Text.OneLine
import WidgetForge.Proofs.Text.Overlap
import WidgetForge.Proofs.Text.Split
import WidgetForge.Proofs.Text.Utf8
import WidgetForge.Proofs.Tool.Arguments
import WidgetForge.Proofs.Tool.Compile
import WidgetForge.Proofs.Tool.Outcomes
import WidgetForge.Proofs.Tool.Registering
import WidgetForge.Proofs.Widget.Decoding
import WidgetForge.Proofs.Widget.Generator
import WidgetForge.Proofs.Widget.Imitation
import WidgetForge.Proofs.Widget.Literal
import WidgetForge.Proofs.Widget.Request
import WidgetForge.Proofs.Widget.Script
import WidgetForge.Proofs.Widget.StyleMapping
import WidgetForge.Proofs.Widget.UnusedStyles
