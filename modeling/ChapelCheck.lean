import ChapelCheck.Check
import ChapelCheck.CommandLine.Filter
import ChapelCheck.CommandLine.Help
import ChapelCheck.CommandLine.LogFile
import ChapelCheck.CommandLine.Options
import ChapelCheck.CommandLine.Verbosity
import ChapelCheck.Compiler
import ChapelCheck.Diagnostic
import ChapelCheck.Diagnostic.Line
import ChapelCheck.Diagnostic.Merge
import ChapelCheck.Diagnostic.Output
import ChapelCheck.Editor.Diagnostic
import ChapelCheck.Event
import ChapelCheck.FileSystem
import ChapelCheck.FileSystem.Change
import ChapelCheck.FileSystem.Resolve
import ChapelCheck.FileSystem.Tree
import ChapelCheck.FileSystem.Visit
import ChapelCheck.Json
import ChapelCheck.Json.Binary64
import ChapelCheck.Json.Parse
import ChapelCheck.Json.Render
import ChapelCheck.Json.Schema
import ChapelCheck.Json.Shape
import ChapelCheck.Logged
import ChapelCheck.Machine
import ChapelCheck.Main
import ChapelCheck.Path
import ChapelCheck.Path.Set
import ChapelCheck.Program
import ChapelCheck.Project
import ChapelCheck.Project.Includes
import ChapelCheck.Project.Root
import ChapelCheck.Proofs.Check
import ChapelCheck.Proofs.Decimal
import ChapelCheck.Proofs.Diagnostic.Chunks
import ChapelCheck.Proofs.Diagnostic.Line
import ChapelCheck.Proofs.Diagnostic.Merge
import ChapelCheck.Proofs.Diagnostic.Merged
import ChapelCheck.Proofs.Diagnostic.Number
import ChapelCheck.Proofs.Diagnostic.Output
import ChapelCheck.Proofs.Documents
import ChapelCheck.Proofs.Except
import ChapelCheck.Proofs.FileSystem
import ChapelCheck.Proofs.Folders
import ChapelCheck.Proofs.Includes
import ChapelCheck.Proofs.Installation
import ChapelCheck.Proofs.Manifest
import ChapelCheck.Proofs.Path
import ChapelCheck.Proofs.Path.Anchor
import ChapelCheck.Proofs.Path.Climb
import ChapelCheck.Proofs.Path.Join
import ChapelCheck.Proofs.Published
import ChapelCheck.Proofs.Ranges
import ChapelCheck.Proofs.Remembered
import ChapelCheck.Proofs.Root
import ChapelCheck.Proofs.Root.Spelling
import ChapelCheck.Proofs.Settings
import ChapelCheck.Proofs.Shown
import ChapelCheck.Proofs.Sources
import ChapelCheck.Proofs.Started
import ChapelCheck.Proofs.Text
import ChapelCheck.Proofs.Visit
import ChapelCheck.Proofs.Workspace
import ChapelCheck.Session
import ChapelCheck.Session.Capabilities
import ChapelCheck.Session.Params
import ChapelCheck.Session.Requests
import ChapelCheck.Session.Server
import ChapelCheck.Session.Vocabulary
import ChapelCheck.Settings
import ChapelCheck.Shell.Arithmetic
import ChapelCheck.Shell.Builtin
import ChapelCheck.Shell.Command
import ChapelCheck.Shell.Expand
import ChapelCheck.Shell.Number
import ChapelCheck.Shell.Parse
import ChapelCheck.Shell.Pattern
import ChapelCheck.Shell.Print
import ChapelCheck.Shell.Redirect
import ChapelCheck.Shell.Run
import ChapelCheck.Shell.State
import ChapelCheck.Shell.Test
import ChapelCheck.SystemError
import ChapelCheck.Text.Blank
import ChapelCheck.Text.Decimal
import ChapelCheck.Text.Hexadecimal
import ChapelCheck.Text.Letter
import ChapelCheck.Text.Mark
import ChapelCheck.Text.Normal
import ChapelCheck.Text.Quoted
import ChapelCheck.Text.Ranges
import ChapelCheck.Text.Split
import ChapelCheck.Text.Unprinted
import ChapelCheck.Text.Utf8
import ChapelCheck.Url
import ChapelCheck.Url.Address
import ChapelCheck.Url.Domain
import ChapelCheck.Url.Domain.Direction
import ChapelCheck.Url.Domain.Joining
import ChapelCheck.Url.Domain.Mapping
import ChapelCheck.Url.Domain.Punycode
import ChapelCheck.Url.Host
import ChapelCheck.Url.Kind
import ChapelCheck.Url.Parse
import ChapelCheck.Url.ParseError
import ChapelCheck.Url.Percent
import ChapelCheck.Url.Resolve
