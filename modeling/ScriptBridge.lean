import ScriptBridge.Main
import ScriptBridge.Json.Reader
import ScriptBridge.Proofs.Session.RegistryHistory
import ScriptBridge.Proofs.Session.Host
import ScriptBridge.Proofs.Session.Freshness
import ScriptBridge.Proofs.Document.LineTable
import ScriptBridge.Proofs.Document.WholeText
import ScriptBridge.Proofs.Document.FindingGrammar
import ScriptBridge.Proofs.Document.FindingRoundTrip
import ScriptBridge.Proofs.Text.Pieces
import ScriptBridge.Proofs.Document.Positions
import ScriptBridge.Proofs.Document.LintOutput
import ScriptBridge.Proofs.Session.LintingOff
import ScriptBridge.Proofs.Session.OverlappingBegins
import ScriptBridge.Proofs.Session.ConcurrentReload
import ScriptBridge.Proofs.Session.Outcomes
import ScriptBridge.Proofs.Session.FormatForms
import ScriptBridge.Proofs.Session.Invocations
import ScriptBridge.Proofs.Settings.Rules
import ScriptBridge.Proofs.Tool.LintArguments
import ScriptBridge.Proofs.Table
import ScriptBridge.Proofs.Settings.QualifiedNames
import ScriptBridge.Proofs.Settings.StoreHistories
import ScriptBridge.Proofs.Settings.Influence
import ScriptBridge.Proofs.Toml.DistinctKeys
import ScriptBridge.Proofs.Settings.Snapshot
import ScriptBridge.Proofs.Settings.Layers
import ScriptBridge.Proofs.Settings.Reloads
import ScriptBridge.Proofs.Document.Identity
import ScriptBridge.Proofs.Cli.ScriptLints
import ScriptBridge.Proofs.Cli.OverlappingLints
import ScriptBridge.Proofs.Text.Trimming
import ScriptBridge.Proofs.Settings.WellFormed
import ScriptBridge.Proofs.Settings.NormalForms
import ScriptBridge.Proofs.Session.LintCalls
import ScriptBridge.Proofs.Session.FailureLog
import ScriptBridge.Proofs.Cli.ExitCodes
import ScriptBridge.Proofs.Session.RegistryEntries
import ScriptBridge.Proofs.Tool.DisplayedCommand
import ScriptBridge.Proofs.Text.Encoding
import ScriptBridge.Proofs.Files.WriteRead
import ScriptBridge.Proofs.Cli.FormatRun
import ScriptBridge.Proofs.Files.ScriptOrder
import ScriptBridge.Proofs.Cli.LintReports
import ScriptBridge.Proofs.Cli.LintCommand
import ScriptBridge.Proofs.Document.LintChunks
import ScriptBridge.Proofs.Document.PositionOrder
import ScriptBridge.Proofs.Path
import ScriptBridge.Proofs.Cli.ShownNames
import ScriptBridge.Proofs.Session.Isolation
import ScriptBridge.Proofs.Document.LinePieces
import ScriptBridge.Proofs.Settings.RuleSpellings
import ScriptBridge.Proofs.Files.Walks
import ScriptBridge.Proofs.Settings.DefaultSettings
import ScriptBridge.Proofs.Files.ScriptTree
import ScriptBridge.Proofs.Settings.Counts
