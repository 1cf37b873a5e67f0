import ReleasePackaging.Archive.Basic
import ReleasePackaging.Archive.Gzip
import ReleasePackaging.Archive.Inflate
import ReleasePackaging.Archive.Stream
import ReleasePackaging.Artifact.ArchiveName
import ReleasePackaging.Artifact.Resolve
import ReleasePackaging.Artifact.Template
import ReleasePackaging.Calendar.Moment
import ReleasePackaging.Call.Signature
import ReleasePackaging.CommandLine.Reader
import ReleasePackaging.CommandLine.Run
import ReleasePackaging.CommandLine.Switch
import ReleasePackaging.CommandLine.Usage
import ReleasePackaging.Config.Basic
import ReleasePackaging.Config.Environment
import ReleasePackaging.Config.File
import ReleasePackaging.Config.Load
import ReleasePackaging.Config.Merge
import ReleasePackaging.Config.Settings
import ReleasePackaging.Config.Validation
import ReleasePackaging.Distribution.Metadata
import ReleasePackaging.Distribution.Package
import ReleasePackaging.Failure
import ReleasePackaging.Failure.Given
import ReleasePackaging.Fault
import ReleasePackaging.FileTree.Access
import ReleasePackaging.FileTree.Basic
import ReleasePackaging.FileTree.Fault
import ReleasePackaging.Hook.Basic
import ReleasePackaging.Hook.Load
import ReleasePackaging.Hook.Registry
import ReleasePackaging.Json.Reader
import ReleasePackaging.Json.Writer
import ReleasePackaging.Logging.Level
import ReleasePackaging.Logging.LogFile
import ReleasePackaging.Logging.Manager
import ReleasePackaging.Logging.Record
import ReleasePackaging.Logging.System
import ReleasePackaging.Main
import ReleasePackaging.Manifest
import ReleasePackaging.Misuse
import ReleasePackaging.Number.Binary64
import ReleasePackaging.Number.Integer
import ReleasePackaging.Number.Shortest
import ReleasePackaging.OutputDirectory
import ReleasePackaging.Path.Basic
import ReleasePackaging.Platform.Host
import ReleasePackaging.Proofs.Action.Run
import ReleasePackaging.Proofs.Action.Trail
import ReleasePackaging.Proofs.Archive.Outcome
import ReleasePackaging.Proofs.Archive.RoundTrip
import ReleasePackaging.Proofs.Archive.Stream
import ReleasePackaging.Proofs.Archive.Write
import ReleasePackaging.Proofs.Artifact.ArchiveName
import ReleasePackaging.Proofs.Artifact.Placement
import ReleasePackaging.Proofs.Artifact.Resolve
import ReleasePackaging.Proofs.CommandLine.Outcome
import ReleasePackaging.Proofs.Config.Acceptance
import ReleasePackaging.Proofs.Config.Assignments
import ReleasePackaging.Proofs.Config.Declared
import ReleasePackaging.Proofs.Config.FileAlone
import ReleasePackaging.Proofs.Config.Grouping
import ReleasePackaging.Proofs.Config.KeyGroups
import ReleasePackaging.Proofs.Config.Layers
import ReleasePackaging.Proofs.Config.LoggingSection
import ReleasePackaging.Proofs.Config.MergedPaths
import ReleasePackaging.Proofs.Config.NumberVariables
import ReleasePackaging.Proofs.Config.PathWrites
import ReleasePackaging.Proofs.Config.PlainSettings
import ReleasePackaging.Proofs.Config.Precedence
import ReleasePackaging.Proofs.Config.Reported
import ReleasePackaging.Proofs.Config.RoundTrip
import ReleasePackaging.Proofs.Config.Sources
import ReleasePackaging.Proofs.Config.TextKeys
import ReleasePackaging.Proofs.Config.VariableNames
import ReleasePackaging.Proofs.Config.Variables
import ReleasePackaging.Proofs.Distribution.Version
import ReleasePackaging.Proofs.FileTree.Beside
import ReleasePackaging.Proofs.FileTree.Directories
import ReleasePackaging.Proofs.FileTree.Frame
import ReleasePackaging.Proofs.FileTree.Growth
import ReleasePackaging.Proofs.FileTree.Making
import ReleasePackaging.Proofs.FileTree.Walk
import ReleasePackaging.Proofs.Json.Document
import ReleasePackaging.Proofs.Json.Keyed
import ReleasePackaging.Proofs.Json.Pieces
import ReleasePackaging.Proofs.Json.RoundTrip
import ReleasePackaging.Proofs.Json.Scalar
import ReleasePackaging.Proofs.Logging.Calls
import ReleasePackaging.Proofs.Logging.Effect
import ReleasePackaging.Proofs.Logging.Formats
import ReleasePackaging.Proofs.Logging.Handlers
import ReleasePackaging.Proofs.Logging.LogFile
import ReleasePackaging.Proofs.Logging.Managers
import ReleasePackaging.Proofs.Logging.Report
import ReleasePackaging.Proofs.Logging.SetUp
import ReleasePackaging.Proofs.Manifest.Version
import ReleasePackaging.Proofs.Number.Integral
import ReleasePackaging.Proofs.OutputDirectory.Frame
import ReleasePackaging.Proofs.OutputDirectory.Renewal
import ReleasePackaging.Proofs.Path.Text
import ReleasePackaging.Proofs.Platform.Detection
import ReleasePackaging.Proofs.Release.ArchivePlace
import ReleasePackaging.Proofs.Release.ArtifactEnd
import ReleasePackaging.Proofs.Release.Gate
import ReleasePackaging.Proofs.Release.HostName
import ReleasePackaging.Proofs.Release.Naming
import ReleasePackaging.Proofs.Release.Outcome
import ReleasePackaging.Proofs.Release.Packaging
import ReleasePackaging.Proofs.Release.PrefixLaw
import ReleasePackaging.Proofs.Shell.Launch
import ReleasePackaging.Proofs.Text.Decode
import ReleasePackaging.Proofs.Text.Digit
import ReleasePackaging.Proofs.Text.Lines
import ReleasePackaging.Proofs.Text.LowerCase
import ReleasePackaging.Proofs.Text.Split
import ReleasePackaging.Proofs.Text.Words
import ReleasePackaging.Proofs.Toolchain.Course
import ReleasePackaging.Proofs.Toolchain.Outcome
import ReleasePackaging.Proofs.Toolchain.Output
import ReleasePackaging.Proofs.Value.Key
import ReleasePackaging.Proofs.Value.Leaves
import ReleasePackaging.Proofs.Value.Plain
import ReleasePackaging.Proofs.Value.TextKeyed
import ReleasePackaging.Proofs.Yaml.Keyed
import ReleasePackaging.Proofs.Yaml.Source
import ReleasePackaging.Release.Basic
import ReleasePackaging.Release.Build
import ReleasePackaging.Release.Packaging
import ReleasePackaging.Shell.Arithmetic
import ReleasePackaging.Shell.Commands
import ReleasePackaging.Shell.Condition
import ReleasePackaging.Shell.Field
import ReleasePackaging.Shell.Launch
import ReleasePackaging.Shell.Mask
import ReleasePackaging.Shell.Numeral
import ReleasePackaging.Shell.Options
import ReleasePackaging.Shell.Output
import ReleasePackaging.Shell.Reader
import ReleasePackaging.Shell.Running
import ReleasePackaging.Shell.Script
import ReleasePackaging.Shell.Signal
import ReleasePackaging.Shell.State
import ReleasePackaging.Shell.Variables
import ReleasePackaging.Shell.Wildcard
import ReleasePackaging.Text.Base64
import ReleasePackaging.Text.Blank
import ReleasePackaging.Text.Compatibility
import ReleasePackaging.Text.Digit
import ReleasePackaging.Text.Lines
import ReleasePackaging.Text.LowerCase
import ReleasePackaging.Text.NameChar
import ReleasePackaging.Text.Place
import ReleasePackaging.Text.Printable
import ReleasePackaging.Text.Quoted
import ReleasePackaging.Text.Ranges
import ReleasePackaging.Text.Split
import ReleasePackaging.Text.Utf8
import ReleasePackaging.Toml.Basic
import ReleasePackaging.Toml.Document
import ReleasePackaging.Toml.Lexeme
import ReleasePackaging.Toolchain.Command
import ReleasePackaging.Toolchain.Invocation
import ReleasePackaging.Toolchain.Launcher
import ReleasePackaging.Value.Basic
import ReleasePackaging.Value.Conversion
import ReleasePackaging.Value.Export
import ReleasePackaging.Value.Literal
import ReleasePackaging.VersionFile.Basic
import ReleasePackaging.VersionFile.Definitions
import ReleasePackaging.VersionFile.Formatted
import ReleasePackaging.VersionFile.Lexeme
import ReleasePackaging.VersionFile.Numeral
import ReleasePackaging.VersionFile.Reader
import ReleasePackaging.VersionFile.Statement
import ReleasePackaging.VersionFile.Term
import ReleasePackaging.VersionFile.Text
import ReleasePackaging.World
import ReleasePackaging.Yaml.Assembly
import ReleasePackaging.Yaml.Cursor
import ReleasePackaging.Yaml.Fault
import ReleasePackaging.Yaml.Literal
import ReleasePackaging.Yaml.Node
import ReleasePackaging.Yaml.Reader
import ReleasePackaging.Yaml.Resolution
import ReleasePackaging.Yaml.Scalar
import ReleasePackaging.Yaml.Scanner
import ReleasePackaging.Yaml.Source
import ReleasePackaging.Yaml.Tag
import ReleasePackaging.Yaml.Token
