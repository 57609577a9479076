import FieldSelection.Text.RangeTable
import FieldSelection.Text.Packed
import FieldSelection.Text.Category
import FieldSelection.Text.Script
import FieldSelection.Text.BinaryProperty
import FieldSelection.Text.Segment
import FieldSelection.Text.PropertyName
import FieldSelection.Text.Blank
import FieldSelection.Text.Alnum
import FieldSelection.Text.Word
import FieldSelection.Text.CaseFold
import FieldSelection.Text.Escaped
import FieldSelection.Json.Value
import FieldSelection.Json.Shortest
import FieldSelection.Json.Reader
import FieldSelection.Json.Writer
import FieldSelection.Regex.CharSet
import FieldSelection.Regex.Property
import FieldSelection.Regex.Syntax
import FieldSelection.Regex.Parser
import FieldSelection.Regex.Automaton
import FieldSelection.Name.Glob
import FieldSelection.Name.Matcher
import FieldSelection.Selection.Node
import FieldSelection.Selection.Draft
import FieldSelection.Selection.Arena
import FieldSelection.Selection.Error
import FieldSelection.Selection.Parser
import FieldSelection.Selection.Render
import FieldSelection.Cache.Spec
import FieldSelection.Cache.Lru
import FieldSelection.Cache.Calls
import FieldSelection.Config
import FieldSelection.Views
import FieldSelection.Trace
import FieldSelection.Decision
import FieldSelection.Schema.Basic
import FieldSelection.Schema.Decode
import FieldSelection.Engine
import FieldSelection.Selection.Cached
import FieldSelection.Context
import FieldSelection.Projection
import FieldSelection.Session
import FieldSelection.Decision.Path
import FieldSelection.Views.Report
import FieldSelection.Toml.Document
import FieldSelection.Toml.Scan
import FieldSelection.Toml.Strings
import FieldSelection.Toml.Numbers
import FieldSelection.Toml.Tables
import FieldSelection.Toml.Values
import FieldSelection.Toml.Reader
import FieldSelection.Toml.Decode
import FieldSelection.Decision.Render
import FieldSelection.Text.Similarity
import FieldSelection.Cli.Help
import FieldSelection.Cli.CommandLine
import FieldSelection.Regex.Diagnostic
import FieldSelection.Cli.Logging
import FieldSelection.Cli.Table
import FieldSelection.Cli.Program
import FieldSelection.Cli.Workspace
import FieldSelection.Main
import FieldSelection.Proofs.Regex.Simulation
import FieldSelection.Proofs.Name.GlobMatching
import FieldSelection.Proofs.Name.Wildcard
import FieldSelection.Proofs.CacheSpec.RoundTrip
import FieldSelection.Proofs.Cache.Entries
import FieldSelection.Proofs.Projection.Uncached
import FieldSelection.Proofs.Selection.Compiled
import FieldSelection.Proofs.Selection.Grammar
import FieldSelection.Proofs.Selection.Reading
import FieldSelection.Proofs.Selection.Acceptance
import FieldSelection.Proofs.Decision.Content
import FieldSelection.Proofs.Decision.Pooling
import FieldSelection.Proofs.Session.Transparency
import FieldSelection.Proofs.Projection.SubDocument
import FieldSelection.Proofs.Projection.SelectAll
import FieldSelection.Proofs.Projection.Idempotence
import FieldSelection.Proofs.Cache.Recency
import FieldSelection.Proofs.Selection.Tokens
import FieldSelection.Proofs.Selection.Layout
import FieldSelection.Proofs.Decision.Reference
import FieldSelection.Proofs.Selection.Locality
import FieldSelection.Proofs.Selection.Places
import FieldSelection.Proofs.Selection.Broadcast
import FieldSelection.Proofs.Selection.Follow
import FieldSelection.Proofs.Selection.Merging
import FieldSelection.Proofs.Selection.Repeated
import FieldSelection.Proofs.Views.Full
import FieldSelection.Proofs.Decision.Exclusions
import FieldSelection.Proofs.Selection.Flags
import FieldSelection.Proofs.Selection.Erasure
import FieldSelection.Proofs.Selection.DotPaths
import FieldSelection.Proofs.Projection.Validated
import FieldSelection.Proofs.Selection.Siblings
import FieldSelection.Proofs.Arena.Invariant
import FieldSelection.Proofs.Arena.Tree
import FieldSelection.Proofs.Arena.Refinement
import FieldSelection.Proofs.Selection.Fuel
import FieldSelection.Proofs.Selection.Boundaries
import FieldSelection.Proofs.Selection.Nesting
