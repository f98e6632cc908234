import DeviceFlags.Blueprint
import DeviceFlags.Cli.Arguments
import DeviceFlags.Cli.Command
import DeviceFlags.Cli.Run
import DeviceFlags.Decimal
import DeviceFlags.EffectiveTable
import DeviceFlags.Event
import DeviceFlags.Files.FileSystem
import DeviceFlags.Files.FileTree
import DeviceFlags.Files.Path
import DeviceFlags.Host.Module
import DeviceFlags.Host.Registry
import DeviceFlags.Host.Run
import DeviceFlags.Json
import DeviceFlags.Main
import DeviceFlags.Manifest
import DeviceFlags.Properties
import DeviceFlags.RuleFile
import DeviceFlags.RuleTable.Basic
import DeviceFlags.RuleTable.Edit
import DeviceFlags.RuleTable.Issue
import DeviceFlags.RuleTable.Toml
import DeviceFlags.Text.CharClass
import DeviceFlags.Text.Hex
import DeviceFlags.Text.Lines
import DeviceFlags.Text.Quoted
import DeviceFlags.Toml.Document
import DeviceFlags.Toml.Expression
import DeviceFlags.Toml.Moment
import DeviceFlags.Toml.Number
import DeviceFlags.Toml.Reader
import DeviceFlags.Toml.Schema
import DeviceFlags.Toml.StringLiteral.Printer
import DeviceFlags.Toml.StringLiteral.Reader
import DeviceFlags.Toml.Table
import DeviceFlags.Toml.Value
import DeviceFlags.Proofs.Toml.LineEnd
import DeviceFlags.Proofs.Toml.StringLiteral.Escape
import DeviceFlags.Proofs.Toml.StringLiteral.Multiline
import DeviceFlags.Proofs.Toml.StringLiteral.RoundTrip
import DeviceFlags.Proofs.Toml.Lines
import DeviceFlags.Proofs.RuleTable.RoundTrip
import DeviceFlags.Proofs.RuleTable.Growth
import DeviceFlags.Proofs.RuleTable.Reordering
import DeviceFlags.Proofs.RuleTable.Screening
import DeviceFlags.Proofs.FirstOccurrence
import DeviceFlags.Proofs.RuleTable.Repetition
import DeviceFlags.Proofs.RuleTable.Devices
import DeviceFlags.Proofs.Files.Segments
import DeviceFlags.Proofs.Files.Upward
import DeviceFlags.Proofs.RuleFile.Outcome
import DeviceFlags.Proofs.RuleFile.Discovery
import DeviceFlags.Proofs.RuleFile.Listing
import DeviceFlags.Proofs.EffectiveTable
import DeviceFlags.Proofs.Manifest
import DeviceFlags.Proofs.Blueprint.Lines
import DeviceFlags.Proofs.Blueprint.Reader
import DeviceFlags.Proofs.Blueprint.ReadBack
import DeviceFlags.Proofs.Cli.Eval
import DeviceFlags.Proofs.Cli.FlagText
import DeviceFlags.Proofs.Cli.Validate
import DeviceFlags.Proofs.Cli.ModuleText
import DeviceFlags.Proofs.Cli.FlagData
import DeviceFlags.Proofs.Host.Modules
import DeviceFlags.Proofs.Host.Life
import DeviceFlags.Proofs.Host.Lineage
import DeviceFlags.Proofs.Blueprint.Fragment
import DeviceFlags.Proofs.Json.Reader
import DeviceFlags.Proofs.Json.RoundTrip
import DeviceFlags.Proofs.RuleTable.Concatenation
import DeviceFlags.Proofs.RuleTable.Conversion
import DeviceFlags.Proofs.Toml.Entries
import DeviceFlags.Proofs.Toml.KeyOrder
import DeviceFlags.Proofs.Toml.Schema
import DeviceFlags.Proofs.Toml.Distinct
import DeviceFlags.Proofs.Toml.Elements
import DeviceFlags.Proofs.Toml.Inline
import DeviceFlags.Proofs.RuleTable.Decoding
import DeviceFlags.Proofs.Manifest.Decoding
import DeviceFlags.Proofs.EffectiveTable.Events
import DeviceFlags.Proofs.Host.Loading
import DeviceFlags.Proofs.Host.Log
import DeviceFlags.Proofs.Cli.RuleList
