import PlatformLauncher.Advice
import PlatformLauncher.Bootstrap.Commands
import PlatformLauncher.Bootstrap.Flow
import PlatformLauncher.Bootstrap.Run
import PlatformLauncher.CommandLine.Grammar
import PlatformLauncher.CommandLine.Prompt
import PlatformLauncher.CommandLine.Run
import PlatformLauncher.Execution.Format
import PlatformLauncher.Execution.Interpreter
import PlatformLauncher.Execution.Pattern
import PlatformLauncher.Execution.Program
import PlatformLauncher.Execution.Script
import PlatformLauncher.Execution.Shell
import PlatformLauncher.Execution.Utility
import PlatformLauncher.Failure
import PlatformLauncher.Fault
import PlatformLauncher.Home
import PlatformLauncher.Host.Address
import PlatformLauncher.Host.Name
import PlatformLauncher.Host.Punycode
import PlatformLauncher.Host.Tables
import PlatformLauncher.Install.Packages
import PlatformLauncher.Install.Request
import PlatformLauncher.Main
import PlatformLauncher.Number.Binary64
import PlatformLauncher.Number.Numeral
import PlatformLauncher.Number.Shortest
import PlatformLauncher.Path
import PlatformLauncher.PidRecord
import PlatformLauncher.Proofs.Bootstrap.Accepted
import PlatformLauncher.Proofs.Bootstrap.Again
import PlatformLauncher.Proofs.Bootstrap.Course
import PlatformLauncher.Proofs.Bootstrap.DaemonRecord
import PlatformLauncher.Proofs.Bootstrap.Footprint
import PlatformLauncher.Proofs.Bootstrap.KeptHome
import PlatformLauncher.Proofs.Bootstrap.Outcome
import PlatformLauncher.Proofs.Bootstrap.Passage
import PlatformLauncher.Proofs.Bootstrap.PollTime
import PlatformLauncher.Proofs.Bootstrap.PollTrace
import PlatformLauncher.Proofs.Bootstrap.RecordEntry
import PlatformLauncher.Proofs.Bootstrap.Stages
import PlatformLauncher.Proofs.Bootstrap.Truncation
import PlatformLauncher.Proofs.Bootstrap.World
import PlatformLauncher.Proofs.CommandLine.Clauses
import PlatformLauncher.Proofs.CommandLine.Entries
import PlatformLauncher.Proofs.CommandLine.InstallOrder
import PlatformLauncher.Proofs.CommandLine.Lines
import PlatformLauncher.Proofs.CommandLine.Phrases
import PlatformLauncher.Proofs.CommandLine.PlacedHome
import PlatformLauncher.Proofs.CommandLine.TypedHome
import PlatformLauncher.Proofs.Home.Exported
import PlatformLauncher.Proofs.Home.Made
import PlatformLauncher.Proofs.Home.ReadBack
import PlatformLauncher.Proofs.Install.Checkouts
import PlatformLauncher.Proofs.Install.Outcomes
import PlatformLauncher.Proofs.Number.Numerals
import PlatformLauncher.Proofs.Number.Rounding
import PlatformLauncher.Proofs.Settings.Gate
import PlatformLauncher.Proofs.Settings.Layering
import PlatformLauncher.Proofs.Settings.Layers
import PlatformLauncher.Proofs.Settings.Leaf
import PlatformLauncher.Proofs.Settings.NamedFile
import PlatformLauncher.Proofs.Settings.PollNumbers
import PlatformLauncher.Proofs.Settings.Rendered
import PlatformLauncher.Proofs.Settings.SingleLeaf
import PlatformLauncher.Proofs.Settings.Sources
import PlatformLauncher.Proofs.Settings.TextVariables
import PlatformLauncher.Proofs.Settings.Variables
import PlatformLauncher.Proofs.Source.Argument
import PlatformLauncher.Proofs.Source.Classification
import PlatformLauncher.Proofs.Text.Octets
import PlatformLauncher.Proofs.Toml.Documents
import PlatformLauncher.Proofs.Toml.Layouts
import PlatformLauncher.Proofs.Toml.Strings
import PlatformLauncher.Proofs.Toml.Values
import PlatformLauncher.Proofs.Tree.Alike
import PlatformLauncher.Proofs.Tree.Canonical
import PlatformLauncher.Proofs.Tree.Directories
import PlatformLauncher.Proofs.Tree.Files
import PlatformLauncher.Proofs.Tree.Fronts
import PlatformLauncher.Proofs.Tree.Growth
import PlatformLauncher.Proofs.Tree.Joined
import PlatformLauncher.Proofs.Tree.Moves
import PlatformLauncher.Proofs.Tree.Nested
import PlatformLauncher.Proofs.Tree.Seen
import PlatformLauncher.Proofs.Upkeep.RecordContents
import PlatformLauncher.Proofs.Upkeep.RecordHistory
import PlatformLauncher.Readiness
import PlatformLauncher.Settings.Basic
import PlatformLauncher.Settings.Check
import PlatformLauncher.Settings.Decode
import PlatformLauncher.Settings.KeyPath
import PlatformLauncher.Settings.Layer
import PlatformLauncher.Settings.Load
import PlatformLauncher.Settings.Render
import PlatformLauncher.Source.Basic
import PlatformLauncher.Source.Url
import PlatformLauncher.Span
import PlatformLauncher.Text
import PlatformLauncher.Text.Blank
import PlatformLauncher.Text.Clusters
import PlatformLauncher.Text.Lines
import PlatformLauncher.Text.Octets
import PlatformLauncher.Text.Properties
import PlatformLauncher.Text.RangeTable
import PlatformLauncher.Toml.Document
import PlatformLauncher.Toml.Moment
import PlatformLauncher.Toml.Number
import PlatformLauncher.Toml.Printer
import PlatformLauncher.Toml.Reader
import PlatformLauncher.Toml.Strings
import PlatformLauncher.Tree
import PlatformLauncher.Tree.Access
import PlatformLauncher.Tree.Listing
import PlatformLauncher.Tree.Walk
import PlatformLauncher.Upkeep
