import CodePermit.Board
import CodePermit.Chain
import CodePermit.CommandLine.Acquisition
import CodePermit.CommandLine.Arguments
import CodePermit.CommandLine.Help
import CodePermit.CommandLine.Printout
import CodePermit.Deed
import CodePermit.Eligibility
import CodePermit.FileTree
import CodePermit.Helper.Command
import CodePermit.Helper.Exchange
import CodePermit.Helper.Message
import CodePermit.Installation
import CodePermit.Json.Reader
import CodePermit.Json.Value
import CodePermit.Json.Writer
import CodePermit.Machine
import CodePermit.Main
import CodePermit.Manners
import CodePermit.Phase
import CodePermit.Playback
import CodePermit.Policy
import CodePermit.ProcessStatus
import CodePermit.Proofs.Acceptance
import CodePermit.Proofs.Aftermath
import CodePermit.Proofs.Agreement
import CodePermit.Proofs.Ascent
import CodePermit.Proofs.AtOnce
import CodePermit.Proofs.Blame
import CodePermit.Proofs.Bounds
import CodePermit.Proofs.Breakdown
import CodePermit.Proofs.Budgets
import CodePermit.Proofs.Credit
import CodePermit.Proofs.Deletion
import CodePermit.Proofs.Dialogue
import CodePermit.Proofs.Encodings
import CodePermit.Proofs.Explained
import CodePermit.Proofs.Extension
import CodePermit.Proofs.GroundTruth
import CodePermit.Proofs.HelperAnswers
import CodePermit.Proofs.IndentedJson
import CodePermit.Proofs.JsonTexts
import CodePermit.Proofs.Leading
import CodePermit.Proofs.Lifecycle
import CodePermit.Proofs.Lockstep
import CodePermit.Proofs.Moments
import CodePermit.Proofs.Numerals
import CodePermit.Proofs.OnceInstalled
import CodePermit.Proofs.Operations
import CodePermit.Proofs.Persistence
import CodePermit.Proofs.Placeholders
import CodePermit.Proofs.PrintedReports
import CodePermit.Proofs.PrintedSettings
import CodePermit.Proofs.Priorities
import CodePermit.Proofs.ProcessWide
import CodePermit.Proofs.Questions
import CodePermit.Proofs.Recovery
import CodePermit.Proofs.Requests
import CodePermit.Proofs.Resumption
import CodePermit.Proofs.RunManners
import CodePermit.Proofs.RunOrder
import CodePermit.Proofs.RunShape
import CodePermit.Proofs.RunStories
import CodePermit.Proofs.Scene
import CodePermit.Proofs.ServiceRuns
import CodePermit.Proofs.ShortCircuit
import CodePermit.Proofs.SingleFlight
import CodePermit.Proofs.StatusLines
import CodePermit.Proofs.Timekeeping
import CodePermit.Proofs.TomlDocuments
import CodePermit.Proofs.TomlTexts
import CodePermit.Proofs.TomlValues
import CodePermit.Proofs.Tour
import CodePermit.Proofs.Undisturbed
import CodePermit.Proofs.Verdict
import CodePermit.Proofs.VersionGrammar
import CodePermit.Proofs.VersionRoundTrip
import CodePermit.Proofs.Vigilance
import CodePermit.Proofs.Waiting
import CodePermit.Rehearsal
import CodePermit.Report
import CodePermit.Routine
import CodePermit.Serial
import CodePermit.Service
import CodePermit.Settings.Assembly
import CodePermit.Settings.Basic
import CodePermit.Settings.Loading
import CodePermit.Settings.Table
import CodePermit.Shell.Arithmetic
import CodePermit.Shell.Builtin
import CodePermit.Shell.Condition
import CodePermit.Shell.Execution
import CodePermit.Shell.Expansion
import CodePermit.Shell.Format
import CodePermit.Shell.Pattern
import CodePermit.Shell.Program
import CodePermit.Shell.Redirection
import CodePermit.Shell.Script
import CodePermit.Shell.Signal
import CodePermit.Shell.Situation
import CodePermit.Shell.Word
import CodePermit.Strategy
import CodePermit.Strategy.Companion
import CodePermit.Strategy.Polling
import CodePermit.Technique
import CodePermit.Text.Blank
import CodePermit.Text.Decimal
import CodePermit.Text.Encoding
import CodePermit.Text.Extending
import CodePermit.Text.Line
import CodePermit.Text.Natural
import CodePermit.Text.Quoted
import CodePermit.Text.Range
import CodePermit.Text.Substitution
import CodePermit.Text.Unseen
import CodePermit.Toml.Number
import CodePermit.Toml.Reader
import CodePermit.Toml.Table
import CodePermit.Toml.Text
import CodePermit.Toml.Value
import CodePermit.Toml.Writer
import CodePermit.Version
import CodePermit.Warning
