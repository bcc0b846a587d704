import SchemaTyping.Main
import SchemaTyping.Proofs.Inference.Agreement
import SchemaTyping.Proofs.Inference.Assignable
import SchemaTyping.Proofs.Inference.Canonical
import SchemaTyping.Proofs.Inference.CastText
import SchemaTyping.Proofs.Inference.Delegation
import SchemaTyping.Proofs.Inference.DialectRole
import SchemaTyping.Proofs.Inference.Nullable
import SchemaTyping.Proofs.Inference.Relevance
import SchemaTyping.Proofs.Migration.FlatForm
import SchemaTyping.Proofs.Model.LastDefinition
import SchemaTyping.Proofs.Model.LastItem
import SchemaTyping.Proofs.Model.NameSearch
import SchemaTyping.Proofs.Naming.Notation
import SchemaTyping.Proofs.Outcome
import SchemaTyping.Proofs.Project.Chronology
import SchemaTyping.Proofs.PropertyType.Composition
import SchemaTyping.Proofs.PropertyType.Literal
import SchemaTyping.Proofs.PropertyType.Reading
import SchemaTyping.Proofs.PropertyType.RoundTrip
import SchemaTyping.Proofs.PropertyType.SetUnion
import SchemaTyping.Proofs.PropertyType.Unambiguous
import SchemaTyping.Proofs.PropertyType.Whole
import SchemaTyping.Proofs.Replay.Effect
import SchemaTyping.Proofs.Replay.Expansion
import SchemaTyping.Proofs.Replay.Interleaving
import SchemaTyping.Proofs.Replay.Locality
import SchemaTyping.Proofs.Replay.Origin
import SchemaTyping.Proofs.Replay.Repetition
import SchemaTyping.Proofs.Replay.Rollback
import SchemaTyping.Proofs.Replay.Skipped
import SchemaTyping.Proofs.Replay.Snapshot
import SchemaTyping.Proofs.Report.Agreement
import SchemaTyping.Proofs.Sql.Boundary
import SchemaTyping.Proofs.Sql.Chunk
import SchemaTyping.Proofs.Sql.Closed
import SchemaTyping.Proofs.Sql.ColumnLine
import SchemaTyping.Proofs.Sql.ColumnReading
import SchemaTyping.Proofs.Sql.Comment
import SchemaTyping.Proofs.Sql.Description
import SchemaTyping.Proofs.Sql.DumpReading
import SchemaTyping.Proofs.Sql.EnumScope
import SchemaTyping.Proofs.Sql.EnumStatement
import SchemaTyping.Proofs.Sql.EscapedLiteral
import SchemaTyping.Proofs.Sql.HeaderReading
import SchemaTyping.Proofs.Sql.ListedValues
import SchemaTyping.Proofs.Sql.Nullability
import SchemaTyping.Proofs.Sql.SchemaName
import SchemaTyping.Proofs.Sql.Sealed
import SchemaTyping.Proofs.Sql.Splitting
import SchemaTyping.Proofs.Sql.TableBody
import SchemaTyping.Proofs.Sql.TableItem
import SchemaTyping.Proofs.Sql.TypeSpelling
import SchemaTyping.Proofs.Sql.Unclosed
import SchemaTyping.Proofs.Text.Number
