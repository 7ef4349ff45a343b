import ApiForge.Backend
import ApiForge.Backend.Manifest
import ApiForge.Backend.ManifestBackend
import ApiForge.Backend.References
import ApiForge.Bundle
import ApiForge.CommandLine.Arguments
import ApiForge.CommandLine.Clock
import ApiForge.CommandLine.Definition
import ApiForge.CommandLine.Execute
import ApiForge.CommandLine.Reach
import ApiForge.CommandLine.Usage
import ApiForge.Config
import ApiForge.Context
import ApiForge.Description.Basic
import ApiForge.Description.Decode
import ApiForge.Description.Encode
import ApiForge.Description.Load
import ApiForge.Description.Normalize
import ApiForge.Description.Security
import ApiForge.Dict
import ApiForge.Disk
import ApiForge.Failure
import ApiForge.Gate
import ApiForge.Ignore.Glob
import ApiForge.Ignore.Rules
import ApiForge.Imports
import ApiForge.Json.Basic
import ApiForge.Json.Decode
import ApiForge.Json.Parser
import ApiForge.Json.Printer
import ApiForge.Log
import ApiForge.Main
import ApiForge.Models.Build
import ApiForge.Models.Files
import ApiForge.Models.Table
import ApiForge.NameSet
import ApiForge.Number.Binary64
import ApiForge.Number.Bounds
import ApiForge.Operations.Files
import ApiForge.Operations.GroupContext
import ApiForge.Operations.Groups
import ApiForge.Output.Emitter
import ApiForge.Output.Sink
import ApiForge.Output.Task
import ApiForge.Output.Templates
import ApiForge.Parameters
import ApiForge.Path
import ApiForge.Product
import ApiForge.Projection
import ApiForge.Proofs.Bundle
import ApiForge.Proofs.ClassNames
import ApiForge.Proofs.CommandLine.Arguments
import ApiForge.Proofs.CommandLine.Definition
import ApiForge.Proofs.Context
import ApiForge.Proofs.Description.ReadBack
import ApiForge.Proofs.Description.RoundTrip
import ApiForge.Proofs.Description.Security
import ApiForge.Proofs.Description.Straight
import ApiForge.Proofs.Description.WrittenOut
import ApiForge.Proofs.Dict
import ApiForge.Proofs.Disk.Change
import ApiForge.Proofs.Disk.Confined
import ApiForge.Proofs.Disk.Folders
import ApiForge.Proofs.Disk.Place
import ApiForge.Proofs.Disk.Put
import ApiForge.Proofs.Except
import ApiForge.Proofs.FileNames
import ApiForge.Proofs.FirstOccurrences
import ApiForge.Proofs.Identifiers
import ApiForge.Proofs.Ignore.Comments
import ApiForge.Proofs.Ignore.Relative
import ApiForge.Proofs.Imports
import ApiForge.Proofs.Json.ReadBack
import ApiForge.Proofs.Models.Admission
import ApiForge.Proofs.Models.Composed
import ApiForge.Proofs.Models.Flags
import ApiForge.Proofs.Models.Invariant
import ApiForge.Proofs.Models.Kept
import ApiForge.Proofs.Models.Selected
import ApiForge.Proofs.Models.Table
import ApiForge.Proofs.Naming
import ApiForge.Proofs.Operations.Auth
import ApiForge.Proofs.Operations.GroupContext
import ApiForge.Proofs.Operations.Groups
import ApiForge.Proofs.Operations.Nicknames
import ApiForge.Proofs.Output.Intent
import ApiForge.Proofs.Output.Look
import ApiForge.Proofs.Output.Rendered
import ApiForge.Proofs.Output.Trace
import ApiForge.Proofs.Parameters
import ApiForge.Proofs.Path
import ApiForge.Proofs.Properties
import ApiForge.Proofs.References
import ApiForge.Proofs.Run.Account
import ApiForge.Proofs.Run.Again
import ApiForge.Proofs.Run.Confined
import ApiForge.Proofs.Run.Contract
import ApiForge.Proofs.Run.Destinations
import ApiForge.Proofs.Run.DryRun
import ApiForge.Proofs.Run.Failures
import ApiForge.Proofs.Run.Frame
import ApiForge.Proofs.Run.Obliging
import ApiForge.Proofs.Run.Plan
import ApiForge.Proofs.Run.Rerun
import ApiForge.Proofs.Run.Selection
import ApiForge.Proofs.Run.Separators
import ApiForge.Proofs.Run.Shown
import ApiForge.Proofs.Run.Stages
import ApiForge.Proofs.Run.Symbols
import ApiForge.Proofs.Run.Tags
import ApiForge.Proofs.Security
import ApiForge.Proofs.Separators
import ApiForge.Proofs.Server
import ApiForge.Proofs.Text.Identifier
import ApiForge.Proofs.Text.Literal
import ApiForge.Proofs.Text.Pieces
import ApiForge.Proofs.Text.Slots
import ApiForge.Proofs.Url
import ApiForge.Proofs.Variables
import ApiForge.Properties
import ApiForge.Readers.Basic
import ApiForge.Readers.Standard
import ApiForge.Run
import ApiForge.RunInfo
import ApiForge.Security
import ApiForge.Server
import ApiForge.Template.Lexeme
import ApiForge.Template.Parse
import ApiForge.Template.Render
import ApiForge.Template.Syntax
import ApiForge.Template.Value
import ApiForge.Text.Identifier
import ApiForge.Text.Letter
import ApiForge.Text.LetterTable
import ApiForge.Text.Literal
import ApiForge.Text.Pieces
import ApiForge.Text.Utf8
import ApiForge.Toggles
import ApiForge.Toml.Document
import ApiForge.Toml.Scalar
import ApiForge.Toml.Table
import ApiForge.Toml.Text
import ApiForge.Url.Basic
import ApiForge.Url.Encoding
import ApiForge.Url.Host
import ApiForge.Url.Punycode
import ApiForge.Yaml.Cursor
import ApiForge.Yaml.Event
import ApiForge.Yaml.Layout
import ApiForge.Yaml.Scalar
import ApiForge.Yaml.Token
import ApiForge.Yaml.Value
