import RelayPool.Main
import RelayPool.Session
import RelayPool.Proofs.Text.Trimmed
import RelayPool.Proofs.Text.Encoding
import RelayPool.Proofs.Text.PieceCount
import RelayPool.Proofs.Text.Separated
import RelayPool.Proofs.NodeList.RoundTrip
import RelayPool.Proofs.Uri.Escape
import RelayPool.Proofs.Uri.Parts
import RelayPool.Proofs.Uri.NameEncoding
import RelayPool.Proofs.Uri.Grammar
import RelayPool.Proofs.Uri.Acceptance
import RelayPool.Proofs.Uri.NameSource
import RelayPool.Proofs.Log.Outcome
import RelayPool.Proofs.Document.LongInteger
import RelayPool.Proofs.Number.Rounding
import RelayPool.Proofs.Number.DecimalReading
import RelayPool.Proofs.Number.DecimalNotation
import RelayPool.Proofs.Number.DecimalDigits
import RelayPool.Proofs.Number.ShortestDigits
import RelayPool.Proofs.Number.FloatNotation
import RelayPool.Proofs.Number.SixDigits
import RelayPool.Proofs.Number.WholeNumbers
import RelayPool.Proofs.Time.Span
import RelayPool.Proofs.Duration.Grammar
import RelayPool.Proofs.Duration.Acceptance
import RelayPool.Proofs.Duration.WholeSeconds
import RelayPool.Proofs.Duration.RoundTrip
import RelayPool.Proofs.Document.Route
import RelayPool.Proofs.Document.Lookup
import RelayPool.Proofs.Yaml.MergedNodes
import RelayPool.Proofs.Yaml.ScalarLeaves
import RelayPool.Proofs.Yaml.Unfolding
import RelayPool.Proofs.Yaml.FloatNotation
import RelayPool.Proofs.Yaml.NumberNotation
import RelayPool.Proofs.Config.NodePass
import RelayPool.Proofs.Config.Resolution
import RelayPool.Proofs.Config.ListedNodes
import RelayPool.Proofs.Config.ResolveFaults
import RelayPool.Proofs.Config.ResolvedNodes
import RelayPool.Proofs.Config.PortAssignment
import RelayPool.Proofs.Config.PartialResolution
import RelayPool.Proofs.Config.Decoding
import RelayPool.Proofs.Config.SchemaChecks
import RelayPool.Proofs.Config.UnknownKeys
import RelayPool.Proofs.Config.InertEntries
import RelayPool.Proofs.Config.Encoding
import RelayPool.Proofs.Config.Credentials
import RelayPool.Proofs.Config.NumericCredentials
import RelayPool.Proofs.Config.DigitFaults
import RelayPool.Proofs.Config.Loading
import RelayPool.Proofs.Config.LoadContract
import RelayPool.Proofs.Config.Resolved
import RelayPool.Proofs.Config.ResolvedTwice
import RelayPool.Proofs.Config.PortRange
import RelayPool.Proofs.Config.SettledSettings
import RelayPool.Proofs.Session.Trace
import RelayPool.Proofs.Session.PortRange
import RelayPool.Proofs.Session.SettledSettings
import RelayPool.Proofs.CommandLine.ConfigArgument
import RelayPool.Proofs.CommandLine.Exit
import RelayPool.Proofs.Uri.Unescaping
import RelayPool.Proofs.Uri.NameSurvival
import RelayPool.Proofs.Config.NodeNames
import RelayPool.Proofs.CommandLine.NodeTable
import RelayPool.Proofs.Config.PassPorts
import RelayPool.Proofs.Config.CorrectedRetry
import RelayPool.Proofs.NodeList.Reading
import RelayPool.Proofs.Session.NodeInclusion
import RelayPool.Proofs.Log.LevelName
import RelayPool.Proofs.Log.Alike
import RelayPool.Proofs.Config.LogLevel
import RelayPool.Proofs.CommandLine.Flags
import RelayPool.Proofs.Number.RoundingBounds
import RelayPool.Proofs.Number.SixDigitNumeral
import RelayPool.Proofs.Duration.Canonical
import RelayPool.Proofs.Duration.ReadBack
import RelayPool.Proofs.Duration.Positive
import RelayPool.Proofs.Config.BlacklistDuration
import RelayPool.Proofs.Uri.EscapePieces
import RelayPool.Proofs.Duration.Signs
import RelayPool.Proofs.FileTree.Lookup
import RelayPool.Proofs.Config.MissingFile
import RelayPool.Proofs.CommandLine.MissingFile
