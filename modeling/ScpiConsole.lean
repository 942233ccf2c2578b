import ScpiConsole.Act
import ScpiConsole.CommandLine
import ScpiConsole.CommandLine.Arguments
import ScpiConsole.Completion
import ScpiConsole.Completion.Insertion
import ScpiConsole.Connection
import ScpiConsole.Decimal.Shortest
import ScpiConsole.Disk
import ScpiConsole.Disk.Path
import ScpiConsole.Effect
import ScpiConsole.Failure
import ScpiConsole.Grammar
import ScpiConsole.History
import ScpiConsole.InputLine
import ScpiConsole.Json.Basic
import ScpiConsole.Json.Parser
import ScpiConsole.Json.Printer
import ScpiConsole.Json.Record
import ScpiConsole.Key
import ScpiConsole.Log
import ScpiConsole.Log.Display
import ScpiConsole.Log.Entry
import ScpiConsole.Log.Export
import ScpiConsole.Log.Selection
import ScpiConsole.Main
import ScpiConsole.Mnemonic
import ScpiConsole.Mnemonic.Matching
import ScpiConsole.Notification
import ScpiConsole.Preferences
import ScpiConsole.Program
import ScpiConsole.Prompt
import ScpiConsole.Prompt.Press
import ScpiConsole.Prompt.Screen
import ScpiConsole.Proofs.Act.Asks
import ScpiConsole.Proofs.Act.Ends
import ScpiConsole.Proofs.Act.Keeps
import ScpiConsole.Proofs.Act.Terms
import ScpiConsole.Proofs.Act.Waits
import ScpiConsole.Proofs.Completion.Branch
import ScpiConsole.Proofs.Completion.Case
import ScpiConsole.Proofs.Completion.Gathering
import ScpiConsole.Proofs.Completion.Kin
import ScpiConsole.Proofs.Completion.Labels
import ScpiConsole.Proofs.Completion.Line
import ScpiConsole.Proofs.Completion.Numbers
import ScpiConsole.Proofs.Completion.Siblings
import ScpiConsole.Proofs.Completion.Walk
import ScpiConsole.Proofs.Connection.Identification
import ScpiConsole.Proofs.Disk.Write
import ScpiConsole.Proofs.Grammar.Writing
import ScpiConsole.Proofs.History.Contents
import ScpiConsole.Proofs.History.Cursor
import ScpiConsole.Proofs.InputLine.RoundTrip
import ScpiConsole.Proofs.InputLine.Run
import ScpiConsole.Proofs.InputLine.Sources
import ScpiConsole.Proofs.Json.Canonical
import ScpiConsole.Proofs.Json.Doubles
import ScpiConsole.Proofs.Json.Numbers
import ScpiConsole.Proofs.Json.Record
import ScpiConsole.Proofs.Json.RoundTrip
import ScpiConsole.Proofs.Log.Export
import ScpiConsole.Proofs.Log.Selection
import ScpiConsole.Proofs.Mnemonic.Order
import ScpiConsole.Proofs.Mnemonic.Spelling
import ScpiConsole.Proofs.Mnemonic.Written
import ScpiConsole.Proofs.Preferences.Numbers
import ScpiConsole.Proofs.Prompt.Events
import ScpiConsole.Proofs.Prompt.Highlight
import ScpiConsole.Proofs.Prompt.Line
import ScpiConsole.Proofs.Prompt.Piped
import ScpiConsole.Proofs.Prompt.RawMode
import ScpiConsole.Proofs.Script.Lines
import ScpiConsole.Proofs.Server.Base
import ScpiConsole.Proofs.Session.Bench
import ScpiConsole.Proofs.Session.Books
import ScpiConsole.Proofs.Session.Console
import ScpiConsole.Proofs.Session.Dispatch
import ScpiConsole.Proofs.Session.Guard
import ScpiConsole.Proofs.Session.Identity
import ScpiConsole.Proofs.Session.Line
import ScpiConsole.Proofs.Session.OneInFlight
import ScpiConsole.Proofs.Session.Replay
import ScpiConsole.Proofs.Session.Restart
import ScpiConsole.Proofs.Session.ScriptRun
import ScpiConsole.Proofs.Session.Settings
import ScpiConsole.Proofs.Session.Stored
import ScpiConsole.Proofs.Session.StoredScript
import ScpiConsole.Proofs.Session.Submissions
import ScpiConsole.Proofs.Session.Turns
import ScpiConsole.Proofs.Session.Watching
import ScpiConsole.Proofs.Shell.Endings
import ScpiConsole.Proofs.Shell.Execute
import ScpiConsole.Proofs.State.Durable
import ScpiConsole.Proofs.State.Memory
import ScpiConsole.Proofs.State.Opening
import ScpiConsole.Proofs.Text.Blank
import ScpiConsole.Proofs.Text.Case
import ScpiConsole.Proofs.Text.Ends
import ScpiConsole.Proofs.Text.Letters
import ScpiConsole.Proofs.Text.Lines
import ScpiConsole.Proofs.Text.Percent
import ScpiConsole.Proofs.Text.Trim
import ScpiConsole.Proofs.Text.Utf8
import ScpiConsole.Proofs.Time.Rfc3339
import ScpiConsole.Proofs.Unicode.Blank
import ScpiConsole.Proofs.Url.Extension
import ScpiConsole.Proofs.Url.Host
import ScpiConsole.Proofs.Url.Pairs
import ScpiConsole.Proofs.Url.Parts
import ScpiConsole.Proofs.Url.Path
import ScpiConsole.Script
import ScpiConsole.Server
import ScpiConsole.Server.Message
import ScpiConsole.Server.Request
import ScpiConsole.Session
import ScpiConsole.Session.Batch
import ScpiConsole.Session.Dispatch
import ScpiConsole.Session.Instrument
import ScpiConsole.Session.Settings
import ScpiConsole.Shell
import ScpiConsole.Shell.Directive
import ScpiConsole.Shell.Input
import ScpiConsole.State
import ScpiConsole.State.File
import ScpiConsole.Surroundings
import ScpiConsole.Text.Ascii
import ScpiConsole.Text.Blank
import ScpiConsole.Text.Digit
import ScpiConsole.Text.Lines
import ScpiConsole.Text.Numeral
import ScpiConsole.Text.Utf8
import ScpiConsole.Time.Date
import ScpiConsole.Time.Rfc3339
import ScpiConsole.Time.Timestamp
import ScpiConsole.Unicode.Combining
import ScpiConsole.Unicode.Composition
import ScpiConsole.Unicode.Direction
import ScpiConsole.Unicode.Joining
import ScpiConsole.Unicode.NormalForm
import ScpiConsole.Unicode.Table
import ScpiConsole.Url
import ScpiConsole.Url.DomainName
import ScpiConsole.Url.DomainName.Mapping
import ScpiConsole.Url.Host
import ScpiConsole.Url.Punycode
