import EntropyTables.Command.Arguments
import EntropyTables.Command.Run
import EntropyTables.Config
import EntropyTables.Entry
import EntropyTables.Error
import EntropyTables.Files.Output
import EntropyTables.Files.System
import EntropyTables.Files.Tree
import EntropyTables.Generate
import EntropyTables.Grammar
import EntropyTables.Grid
import EntropyTables.Grid.Wrap
import EntropyTables.Layout
import EntropyTables.Line
import EntropyTables.Log.Directive
import EntropyTables.Log.Event
import EntropyTables.Log.Filter
import EntropyTables.Log.Format
import EntropyTables.Main
import EntropyTables.Path
import EntropyTables.Prompt
import EntropyTables.Proofs.CavlcConcat
import EntropyTables.Proofs.CavlcForms
import EntropyTables.Proofs.CavlcRows
import EntropyTables.Proofs.CellRows
import EntropyTables.Proofs.Checking
import EntropyTables.Proofs.Collecting
import EntropyTables.Proofs.Failing
import EntropyTables.Proofs.FaultReport
import EntropyTables.Proofs.Gathering
import EntropyTables.Proofs.LineGrammar
import EntropyTables.Proofs.OrderIndependence
import EntropyTables.Proofs.Reading
import EntropyTables.Render
import EntropyTables.Run
import EntropyTables.Summary
import EntropyTables.Table
import EntropyTables.Text.Alphanumeric
import EntropyTables.Text.Blank
import EntropyTables.Text.Cluster
import EntropyTables.Text.Columns
import EntropyTables.Text.Decimal
import EntropyTables.Text.Emoji
import EntropyTables.Text.Extend
import EntropyTables.Text.Ignorable
import EntropyTables.Text.Lines
import EntropyTables.Text.Pattern
import EntropyTables.Text.Pattern.Reader
import EntropyTables.Text.Quoted
import EntropyTables.Text.Shown
import EntropyTables.Text.Styled
import EntropyTables.Text.Unprintable
import EntropyTables.Text.Wide
import EntropyTables.Toml.Draft
import EntropyTables.Toml.Reader
import EntropyTables.Toml.Scalar
import EntropyTables.Toml.Value
import EntropyTables.Validator
import EntropyTables.Proofs.Retelling
import EntropyTables.Proofs.Transcription
import EntropyTables.Proofs.PathNames
import EntropyTables.Proofs.Places
import EntropyTables.Proofs.Replacing
import EntropyTables.Proofs.Bystanders
import EntropyTables.Proofs.EntryForms
import EntropyTables.Proofs.TextLines
import EntropyTables.Proofs.Agreement
import EntropyTables.Proofs.SilentRuns
import EntropyTables.Proofs.UniqueReading
import EntropyTables.Proofs.Rerun
import EntropyTables.Proofs.CommandOutcome
import EntropyTables.Proofs.DryRunOption
import EntropyTables.Proofs.CallHistory
import EntropyTables.Proofs.Lockstep
import EntropyTables.Proofs.UnreadInput
import EntropyTables.Proofs.HiddenFile
import EntropyTables.Proofs.ModeSources
import EntropyTables.Proofs.Columns
import EntropyTables.Proofs.EntryLines
import EntropyTables.Proofs.CavlcLines
import EntropyTables.Proofs.PrintedLines
import EntropyTables.Proofs.NormalForm
import EntropyTables.Proofs.TreeShape
import EntropyTables.Proofs.LineEndings
import EntropyTables.Proofs.Regenerated
import EntropyTables.Proofs.QuotedText
import EntropyTables.Proofs.Messages
import EntropyTables.Proofs.StableOrder
import EntropyTables.Proofs.OneAnswer
import EntropyTables.Proofs.SettingsDocument
