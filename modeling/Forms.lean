import Forms.OrderedMap
import Forms.Decimal.Shortest
import Forms.Json.Printer
import Forms.Json.Draft
import Forms.Path.Reader
import Forms.Unicode.Folding
import Forms.Unicode.Property
import Forms.Unicode.Script
import Forms.Text.Blank
import Forms.Text.Quoted
import Forms.Catalog
import Forms.Options
import Forms.Schema.Decode
import Forms.Schema.Encode
import Forms.Schema.Document
import Forms.Unicode.Query
import Forms.Pattern.Match
import Forms.Decimal.Nearest
import Forms.Calendar.Reader
import Forms.Form
import Forms.Proofs.Catalog.Substitution
import Forms.Proofs.Check.Bounds
import Forms.Proofs.Check.References
import Forms.Proofs.Compiler.Contents
import Forms.Proofs.Compiler.Extensions
import Forms.Proofs.Compiler.Inspections
import Forms.Proofs.Compiler.Labels
import Forms.Proofs.Compiler.Mirror
import Forms.Proofs.Engine.BlankFields
import Forms.Proofs.Engine.Changes
import Forms.Proofs.Engine.Feedback
import Forms.Proofs.Engine.Isolation
import Forms.Proofs.Engine.Passes
import Forms.Proofs.Engine.Reordering
import Forms.Proofs.Engine.Untouched
import Forms.Proofs.Feedback.Lists
import Forms.Proofs.Feedback.Wire
import Forms.Proofs.Form.Configuration
import Forms.Proofs.Form.ElementReport
import Forms.Proofs.Form.Sessions
import Forms.Proofs.Path.Faults
import Forms.Proofs.Path.Spelling
import Forms.Proofs.Report.Differences
import Forms.Proofs.Schema.Codec
import Forms.Proofs.Schema.Text
