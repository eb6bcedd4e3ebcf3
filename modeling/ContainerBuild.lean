import ContainerBuild.Author
import ContainerBuild.Build.Basic
import ContainerBuild.Build.Schedule
import ContainerBuild.Buildx.Command
import ContainerBuild.Buildx.Response
import ContainerBuild.CacheImport
import ContainerBuild.Cli.Arguments
import ContainerBuild.Cli.Command
import ContainerBuild.Cli.Run
import ContainerBuild.Config.Basic
import ContainerBuild.Config.Json
import ContainerBuild.Config.Resolve
import ContainerBuild.Decimal.Shortest
import ContainerBuild.Dict
import ContainerBuild.Digest.Blake3
import ContainerBuild.Files
import ContainerBuild.Flavor
import ContainerBuild.FrontendOptions
import ContainerBuild.Json.Basic
import ContainerBuild.Json.Number
import ContainerBuild.Json.Reader
import ContainerBuild.LockPath
import ContainerBuild.Main
import ContainerBuild.Manifest.Basic
import ContainerBuild.Manifest.Declaration
import ContainerBuild.Manifest.Decode
import ContainerBuild.Manifest.Problems
import ContainerBuild.Manifest.Record
import ContainerBuild.PackageIndex
import ContainerBuild.Packages
import ContainerBuild.Platform
import ContainerBuild.Proofs.Author.Stable
import ContainerBuild.Proofs.Build.Aggregate
import ContainerBuild.Proofs.Build.Course
import ContainerBuild.Proofs.Build.Outcome
import ContainerBuild.Proofs.Buildx.Tags
import ContainerBuild.Proofs.CacheImport.Fields
import ContainerBuild.Proofs.Cli.Flags
import ContainerBuild.Proofs.Config.Bounds
import ContainerBuild.Proofs.Config.Checks
import ContainerBuild.Proofs.Config.Dependencies
import ContainerBuild.Proofs.Config.Isolation
import ContainerBuild.Proofs.Config.Problems
import ContainerBuild.Proofs.Config.Resolved
import ContainerBuild.Proofs.Config.Selection
import ContainerBuild.Proofs.Config.Validity
import ContainerBuild.Proofs.Config.VersionSource
import ContainerBuild.Proofs.Dict.Lookup
import ContainerBuild.Proofs.Dict.Merge
import ContainerBuild.Proofs.FrontendOptions.Blank
import ContainerBuild.Proofs.FrontendOptions.Reading
import ContainerBuild.Proofs.List.FirstOccurrences
import ContainerBuild.Proofs.LockPath.Inside
import ContainerBuild.Proofs.Manifest.Dependency
import ContainerBuild.Proofs.Manifest.Requirement
import ContainerBuild.Proofs.PackageIndex.Credentials
import ContainerBuild.Proofs.Platform.Canonical
import ContainerBuild.Proofs.Platform.Names
import ContainerBuild.Proofs.Quote.OneLine
import ContainerBuild.Proofs.Quote.Reading
import ContainerBuild.Proofs.Script.BaseImage
import ContainerBuild.Proofs.Script.Failures
import ContainerBuild.Proofs.Script.IndexCredentials
import ContainerBuild.Proofs.Script.IndexOption
import ContainerBuild.Proofs.Script.IndexUrl
import ContainerBuild.Proofs.Script.Installation
import ContainerBuild.Proofs.Script.Keys
import ContainerBuild.Proofs.Script.Keywords
import ContainerBuild.Proofs.Script.Labels
import ContainerBuild.Proofs.Script.Layout
import ContainerBuild.Proofs.Script.Lines
import ContainerBuild.Proofs.Script.Mounts
import ContainerBuild.Proofs.Script.Outline
import ContainerBuild.Proofs.Script.Parameters
import ContainerBuild.Proofs.Script.Rendering
import ContainerBuild.Proofs.Script.Secrecy
import ContainerBuild.Proofs.Script.SystemPackages
import ContainerBuild.Proofs.Script.Tools
import ContainerBuild.Proofs.Script.Values
import ContainerBuild.Proofs.Shell.Commands
import ContainerBuild.Proofs.Shell.Reader
import ContainerBuild.Proofs.Shell.Words
import ContainerBuild.Proofs.Template.FirstFault
import ContainerBuild.Proofs.Template.Literal
import ContainerBuild.Proofs.Template.Reading
import ContainerBuild.Proofs.Text.ByteOrder
import ContainerBuild.Proofs.Text.Decimal
import ContainerBuild.Proofs.Text.Hex
import ContainerBuild.Proofs.Text.Numeral
import ContainerBuild.Proofs.Text.OneLine
import ContainerBuild.Proofs.Text.Trim
import ContainerBuild.Proofs.Text.Words
import ContainerBuild.Proofs.Transport.Packages
import ContainerBuild.Proofs.Url.Address
import ContainerBuild.Proofs.Url.Authority
import ContainerBuild.Proofs.Url.Decoding
import ContainerBuild.Proofs.Url.Encoding
import ContainerBuild.Proofs.Url.Host
import ContainerBuild.Proofs.Url.Parts
import ContainerBuild.Proofs.Url.Path
import ContainerBuild.Proofs.Url.Printable
import ContainerBuild.Proofs.Url.RoundTrip
import ContainerBuild.Proofs.Version.Bounds
import ContainerBuild.Proofs.Version.Choice
import ContainerBuild.Proofs.Version.Clause
import ContainerBuild.Proofs.Version.Interval
import ContainerBuild.Proofs.Version.Layout
import ContainerBuild.Proofs.Version.Newest
import ContainerBuild.Proofs.Version.Release
import ContainerBuild.Proofs.Version.Shorthand
import ContainerBuild.Proofs.Version.Tokens
import ContainerBuild.Proofs.Version.Written
import ContainerBuild.Quote
import ContainerBuild.Script.Basic
import ContainerBuild.Script.Compile
import ContainerBuild.Script.IndexOption
import ContainerBuild.Shape
import ContainerBuild.Template
import ContainerBuild.Template.Expand
import ContainerBuild.Text.Blank
import ContainerBuild.Text.Bytes
import ContainerBuild.Text.Canonical
import ContainerBuild.Text.CharMap
import ContainerBuild.Text.CodePoints
import ContainerBuild.Text.Composition
import ContainerBuild.Text.Decimal
import ContainerBuild.Text.Hex
import ContainerBuild.Text.Lines
import ContainerBuild.Text.Lower
import ContainerBuild.Text.Quoted
import ContainerBuild.Text.Split
import ContainerBuild.Text.Utf8
import ContainerBuild.Toml.Basic
import ContainerBuild.Toml.Reader
import ContainerBuild.Toml.Scalar
import ContainerBuild.Toml.Tables
import ContainerBuild.Toml.Text
import ContainerBuild.Transport
import ContainerBuild.Url.Address
import ContainerBuild.Url.Basic
import ContainerBuild.Url.Bidi
import ContainerBuild.Url.Domain
import ContainerBuild.Url.DomainChars
import ContainerBuild.Url.Joining
import ContainerBuild.Url.Label
import ContainerBuild.Url.Percent
import ContainerBuild.Url.Punycode
import ContainerBuild.Version.Basic
import ContainerBuild.Version.Choice
import ContainerBuild.Version.Constraint
import ContainerBuild.Version.Error
import ContainerBuild.Version.Release
import ContainerBuild.Version.Shorthand
