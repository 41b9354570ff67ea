import Siblings.BaseClass
import Siblings.Catalog.Basic
import Siblings.Catalog.Builtin
import Siblings.Catalog.Lookup
import Siblings.Command
import Siblings.Command.Arguments
import Siblings.Command.Listing
import Siblings.Decimal
import Siblings.Derivation
import Siblings.Descriptor
import Siblings.Disk.Basic
import Siblings.Disk.Fault
import Siblings.Disk.Path
import Siblings.Disk.Script
import Siblings.Document.Forms
import Siblings.Document.Json
import Siblings.Document.JsonReader
import Siblings.Document.Reader
import Siblings.Document.Value
import Siblings.Error
import Siblings.Field
import Siblings.Generation
import Siblings.Grid
import Siblings.Kind
import Siblings.Log
import Siblings.Main
import Siblings.Marker
import Siblings.Operand
import Siblings.Options
import Siblings.Proofs.Acceptance
import Siblings.Proofs.Angles
import Siblings.Proofs.BaseClass
import Siblings.Proofs.Baseless
import Siblings.Proofs.Brackets
import Siblings.Proofs.CastPrefix
import Siblings.Proofs.ClassBody
import Siblings.Proofs.Declaration
import Siblings.Proofs.Delivery
import Siblings.Proofs.Derivation
import Siblings.Proofs.Directories
import Siblings.Proofs.Disk
import Siblings.Proofs.DryRun
import Siblings.Proofs.Except
import Siblings.Proofs.Failure
import Siblings.Proofs.Header
import Siblings.Proofs.Identity
import Siblings.Proofs.Inequality
import Siblings.Proofs.Interruption
import Siblings.Proofs.JsonText
import Siblings.Proofs.LineLocality
import Siblings.Proofs.MarkedLines
import Siblings.Proofs.Marker
import Siblings.Proofs.MasterFile
import Siblings.Proofs.Naming
import Siblings.Proofs.Operand
import Siblings.Proofs.Pass
import Siblings.Proofs.Receiver
import Siblings.Proofs.Records
import Siblings.Proofs.Regeneration
import Siblings.Proofs.Renaming
import Siblings.Proofs.Report
import Siblings.Proofs.Residue
import Siblings.Proofs.RoundTrip
import Siblings.Proofs.RuleOrder
import Siblings.Proofs.Run
import Siblings.Proofs.Scan
import Siblings.Proofs.Scope
import Siblings.Proofs.Script
import Siblings.Proofs.Segmentation
import Siblings.Proofs.Table
import Siblings.Proofs.Template
import Siblings.Proofs.Text
import Siblings.Proofs.Tokens
import Siblings.Proofs.Untouched
import Siblings.Proofs.Writes
import Siblings.RuleSet
import Siblings.Run
import Siblings.Specialization
import Siblings.Table
import Siblings.Text.Basic
import Siblings.Text.Blank
import Siblings.Text.Columns
import Siblings.Text.Emoji
import Siblings.Text.Escape
import Siblings.Text.Line
import Siblings.Text.Mark
import Siblings.Text.Quoted
import Siblings.Text.Ranges
import Siblings.Text.Utf8
import Siblings.Text.Width
import Siblings.Text.Word
import Siblings.Text.Wrap
import Siblings.Toml.Assembly
import Siblings.Toml.Document
import Siblings.Toml.Quotation
import Siblings.Toml.Scalar
