import DocPress.Annotations
import DocPress.Annotations.Scan
import DocPress.Assets
import DocPress.Build
import DocPress.CommandLine
import DocPress.CommandLine.Options
import DocPress.CommandLine.Request
import DocPress.Composition
import DocPress.Composition.Imports
import DocPress.Composition.Markers
import DocPress.Composition.Part
import DocPress.Console
import DocPress.Decimal.Layout
import DocPress.Decimal.Shortest
import DocPress.Diagram
import DocPress.Drawer
import DocPress.Fault
import DocPress.FileSystem.Basic
import DocPress.FileSystem.Errno
import DocPress.FileSystem.Walk
import DocPress.Json.Basic
import DocPress.Json.Reader
import DocPress.Main
import DocPress.Markdown.Block
import DocPress.Markdown.Block.Basic
import DocPress.Markdown.Block.Leaf
import DocPress.Markdown.Block.List
import DocPress.Markdown.Block.Table
import DocPress.Markdown.Document
import DocPress.Markdown.Entity
import DocPress.Markdown.Escape
import DocPress.Markdown.Html
import DocPress.Markdown.Inline
import DocPress.Markdown.Inline.Basic
import DocPress.Markdown.Inline.Delimiter
import DocPress.Markdown.Link
import DocPress.Markdown.Node
import DocPress.Markdown.RawHtml
import DocPress.Markdown.Token
import DocPress.Path
import DocPress.Pdf
import DocPress.Project
import DocPress.Proofs.Annotations.Expansion
import DocPress.Proofs.Annotations.Name
import DocPress.Proofs.Annotations.Passage
import DocPress.Proofs.Annotations.Passes
import DocPress.Proofs.Annotations.Pieces
import DocPress.Proofs.Annotations.Replacement
import DocPress.Proofs.Annotations.Substitution
import DocPress.Proofs.Assets.Copying
import DocPress.Proofs.Assets.Listing
import DocPress.Proofs.Assets.Outcome
import DocPress.Proofs.Assets.Recopying
import DocPress.Proofs.Assets.Transfer
import DocPress.Proofs.Build.Acceptance
import DocPress.Proofs.Build.Description
import DocPress.Proofs.Build.Effect
import DocPress.Proofs.Build.Failure
import DocPress.Proofs.Build.Loading
import DocPress.Proofs.Build.Printing
import DocPress.Proofs.Build.Rebuilding
import DocPress.Proofs.Build.Reporting
import DocPress.Proofs.Build.Stages
import DocPress.Proofs.Composition.Answers
import DocPress.Proofs.Composition.ContextFree
import DocPress.Proofs.Composition.DepthBound
import DocPress.Proofs.Composition.Faults
import DocPress.Proofs.Composition.HigherBound
import DocPress.Proofs.Composition.ImportTree
import DocPress.Proofs.Composition.LineEnds
import DocPress.Proofs.Composition.Lines
import DocPress.Proofs.Composition.OwnLines
import DocPress.Proofs.Composition.Reading
import DocPress.Proofs.Composition.Recomposition
import DocPress.Proofs.Composition.RelativeBase
import DocPress.Proofs.Composition.Relocation
import DocPress.Proofs.Composition.Retargeting
import DocPress.Proofs.Composition.Spelling
import DocPress.Proofs.Composition.Visits
import DocPress.Proofs.Diagram.Cleanup
import DocPress.Proofs.Diagram.Detection
import DocPress.Proofs.Diagram.Drawing
import DocPress.Proofs.Diagram.Finding
import DocPress.Proofs.Diagram.Html
import DocPress.Proofs.Diagram.Renderer
import DocPress.Proofs.Diagram.Simulation
import DocPress.Proofs.Diagram.Substitution
import DocPress.Proofs.Diagram.Verdict
import DocPress.Proofs.FileSystem.Ancestors
import DocPress.Proofs.FileSystem.Growth
import DocPress.Proofs.FileSystem.Keeping
import DocPress.Proofs.FileSystem.LinkFree
import DocPress.Proofs.FileSystem.Mirroring
import DocPress.Proofs.FileSystem.Overwriting
import DocPress.Proofs.FileSystem.Placing
import DocPress.Proofs.FileSystem.Planting
import DocPress.Proofs.FileSystem.Reading
import DocPress.Proofs.FileSystem.Refusal
import DocPress.Proofs.FileSystem.Removal
import DocPress.Proofs.FileSystem.Standpoint
import DocPress.Proofs.Follows
import DocPress.Proofs.Markdown.BlockStream
import DocPress.Proofs.Markdown.Document
import DocPress.Proofs.Markdown.Html
import DocPress.Proofs.Markdown.InlineStream
import DocPress.Proofs.Markdown.Language
import DocPress.Proofs.Markdown.Stream
import DocPress.Proofs.Path.Absolute
import DocPress.Proofs.Path.Components
import DocPress.Proofs.Path.Relative
import DocPress.Proofs.Path.Resolution
import DocPress.Proofs.Settings.Failing
import DocPress.Proofs.Settings.Loading
import DocPress.Proofs.Settings.Saving
import DocPress.Proofs.Settings.Sections
import DocPress.Proofs.Settings.Storing
import DocPress.Proofs.Template.Filling
import DocPress.Proofs.Text.Pieces
import DocPress.Proofs.Text.Search
import DocPress.Proofs.Text.Spelling
import DocPress.Proofs.Text.Storable
import DocPress.Proofs.Text.Substitution
import DocPress.Proofs.Text.Utf8
import DocPress.Proofs.Toml.Beside
import DocPress.Proofs.Toml.Levels
import DocPress.Proofs.Toml.Lines
import DocPress.Proofs.Toml.Meaning
import DocPress.Proofs.Toml.Members
import DocPress.Proofs.Toml.NumericEscapes
import DocPress.Proofs.Toml.Scanning
import DocPress.Proofs.Toml.SectionLines
import DocPress.Proofs.Toml.SectionReading
import DocPress.Proofs.Toml.SectionWriting
import DocPress.Proofs.Toml.StoredString
import DocPress.Proofs.Toml.StringReading
import DocPress.Proofs.Toml.Surroundings
import DocPress.Proofs.Toml.Unwritable
import DocPress.Proofs.Toml.Writable
import DocPress.Proofs.Toml.Writing
import DocPress.Proofs.World.Directories
import DocPress.Proofs.World.OwnFaults
import DocPress.Proofs.World.Running
import DocPress.Proofs.Yields
import DocPress.Settings
import DocPress.Shell.Glob
import DocPress.Shell.Interpreter
import DocPress.Shell.Machine
import DocPress.Shell.Process
import DocPress.Shell.Script
import DocPress.Shell.Utility
import DocPress.Site
import DocPress.Template
import DocPress.Text.Alphanumeric
import DocPress.Text.Basic
import DocPress.Text.Blank
import DocPress.Text.Caseless
import DocPress.Text.Emoji
import DocPress.Text.Pattern
import DocPress.Text.Printable
import DocPress.Text.Punctuation
import DocPress.Text.Quoted
import DocPress.Text.Ranges
import DocPress.Text.Utf8
import DocPress.Toml.Basic
import DocPress.Toml.Item
import DocPress.Toml.Line
import DocPress.Toml.Number
import DocPress.Toml.Reader
import DocPress.Toml.StringItem
import DocPress.Toml.Writer
import DocPress.Tool
import DocPress.Url.Basic
import DocPress.Url.Percent
import DocPress.Url.Punycode
import DocPress.World
