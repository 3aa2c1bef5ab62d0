import Scaffold.Artifact.AdminPage
import Scaffold.Artifact.Client
import Scaffold.Artifact.Demo
import Scaffold.Artifact.Display
import Scaffold.Artifact.Endpoint
import Scaffold.Artifact.File
import Scaffold.Artifact.Hook
import Scaffold.Artifact.Kind
import Scaffold.Artifact.Migration
import Scaffold.Artifact.Model
import Scaffold.Artifact.Paths
import Scaffold.Artifact.Rendering
import Scaffold.Artifact.Repository
import Scaffold.Artifact.Script
import Scaffold.Artifact.Service
import Scaffold.Artifact.Template
import Scaffold.Artifact.Validation
import Scaffold.Artifact.Variables
import Scaffold.Calendar.Date
import Scaffold.Calendar.Directive
import Scaffold.Calendar.Format
import Scaffold.Checked
import Scaffold.Checked.Record
import Scaffold.Checked.Scalar
import Scaffold.Command.Execution
import Scaffold.Command.Grammar
import Scaffold.Command.Invocation
import Scaffold.Command.Survey
import Scaffold.Command.Words
import Scaffold.Config
import Scaffold.Digest.Sha256
import Scaffold.Distinct
import Scaffold.Document
import Scaffold.Document.Json
import Scaffold.Emission
import Scaffold.Failure
import Scaffold.FileSystem
import Scaffold.Generation
import Scaffold.Journal
import Scaffold.Loading
import Scaffold.Main
import Scaffold.Number.Binary64
import Scaffold.Number.Decimal
import Scaffold.Number.Power
import Scaffold.Path
import Scaffold.Report
import Scaffold.Run
import Scaffold.Schema.Entity
import Scaffold.Schema.Field
import Scaffold.Schema.Filters
import Scaffold.Schema.Reading
import Scaffold.Schema.Types
import Scaffold.Schema.Violation
import Scaffold.Schema.Writing
import Scaffold.Text.Base64
import Scaffold.Text.Blank
import Scaffold.Text.Case
import Scaffold.Text.CaseTable
import Scaffold.Text.CharSet
import Scaffold.Text.Digit
import Scaffold.Text.Lines
import Scaffold.Text.Literal
import Scaffold.Text.Naming
import Scaffold.Text.Pad
import Scaffold.Text.Printable
import Scaffold.Text.Utf8
import Scaffold.Timer
import Scaffold.Yaml
import Scaffold.Yaml.Block
import Scaffold.Yaml.Cursor
import Scaffold.Yaml.Fault
import Scaffold.Yaml.Flow
import Scaffold.Yaml.Graph
import Scaffold.Yaml.Merge
import Scaffold.Yaml.Node
import Scaffold.Yaml.Property
import Scaffold.Yaml.Scalar
import Scaffold.Yaml.Tag
import Scaffold.Yaml.Token
import Scaffold.Yaml.Value
import Scaffold.Proofs.Acceptance
import Scaffold.Proofs.Collision
import Scaffold.Proofs.Filtering
import Scaffold.Proofs.Files
import Scaffold.Proofs.Emitting
import Scaffold.Proofs.Stages
import Scaffold.Proofs.Layers
import Scaffold.Proofs.Steadiness
import Scaffold.Proofs.Breakdowns
import Scaffold.Proofs.Batch
import Scaffold.Proofs.Targets
import Scaffold.Proofs.Completion
import Scaffold.Proofs.Records
import Scaffold.Proofs.Absence
import Scaffold.Proofs.Inputs
import Scaffold.Proofs.JsonLimits
import Scaffold.Proofs.Stumbling
import Scaffold.Proofs.Sight
import Scaffold.Proofs.Interference
import Scaffold.Proofs.Ambiguity
import Scaffold.Proofs.Provision
import Scaffold.Proofs.Spelling
import Scaffold.Proofs.Imports
import Scaffold.Proofs.Identifiers
import Scaffold.Proofs.Containment
import Scaffold.Proofs.Literals
import Scaffold.Proofs.Restrictions
import Scaffold.Proofs.Effects
import Scaffold.Proofs.Regeneration
import Scaffold.Proofs.Rehearsal
import Scaffold.Proofs.Commands
import Scaffold.Proofs.Overwriting
import Scaffold.Proofs.Attempts
import Scaffold.Proofs.Territories
import Scaffold.Proofs.Respelling
import Scaffold.Proofs.Aliases
import Scaffold.Proofs.Rereading
import Scaffold.Proofs.Declarations
import Scaffold.Proofs.Parameters
import Scaffold.Proofs.Notation
import Scaffold.Proofs.Cursors
import Scaffold.Proofs.Portability
import Scaffold.Proofs.Lexemes
import Scaffold.Proofs.Scanning
import Scaffold.Proofs.Sketching
import Scaffold.Proofs.Making
import Scaffold.Proofs.Numerals
import Scaffold.Proofs.Unrolling
import Scaffold.Proofs.Equality
import Scaffold.Proofs.Formats
import Scaffold.Proofs.FirstFit
import Scaffold.Proofs.Soundness
import Scaffold.Proofs.Quotation
import Scaffold.Proofs.Comments
import Scaffold.Proofs.Atomicity
import Scaffold.Proofs.Stopping
import Scaffold.Proofs.FirstUse
import Scaffold.Proofs.Reasons
import Scaffold.Proofs.Problems
import Scaffold.Proofs.Views
import Scaffold.Proofs.Tables
import Scaffold.Proofs.Enumerations
import Scaffold.Proofs.Decoding
import Scaffold.Proofs.Patterns
import Scaffold.Proofs.Excerpts
import Scaffold.Proofs.HelperNames
import Scaffold.Proofs.Exclusions
import Scaffold.Proofs.Casing
import Scaffold.Proofs.Endings
