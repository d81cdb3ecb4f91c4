import ClassLiterals.Bytes.Item
import ClassLiterals.Command.FileTree
import ClassLiterals.Main
import ClassLiterals.Proofs.Rewrite.CodeAttributes
import ClassLiterals.Proofs.Rewrite.Loads
import ClassLiterals.Proofs.Class.Edits
import ClassLiterals.Proofs.Class.Prefixes
import ClassLiterals.Proofs.Bytecode.Operation
import ClassLiterals.Proofs.Bytecode.Scanning
import ClassLiterals.Proofs.Bytes.Splicing
import ClassLiterals.Proofs.Rewrite.Splicing
import ClassLiterals.Proofs.Rewrite.Idempotence
import ClassLiterals.Proofs.Command.Placement
import ClassLiterals.Proofs.Pool.Requests
import ClassLiterals.Proofs.Rewrite.Resolution
import ClassLiterals.Proofs.Rewrite.Independence
import ClassLiterals.Proofs.Batch.Aggregation
import ClassLiterals.Proofs.Batch.Order
import ClassLiterals.Proofs.Class.OperandReading
import ClassLiterals.Proofs.Rewrite.Grouping
import ClassLiterals.Proofs.Rewrite.Partition
import ClassLiterals.Proofs.Bytecode.Truncation
import ClassLiterals.Proofs.Text.Canonical
import ClassLiterals.Proofs.Text.ByteOrder
import ClassLiterals.Proofs.Batch.Outcomes
import ClassLiterals.Proofs.Batch.Additions
import ClassLiterals.Proofs.Paths.SharedDirectory
import ClassLiterals.Proofs.Command.Separation
import ClassLiterals.Proofs.Command.Accounting
import ClassLiterals.Proofs.Rewrite.Narrowing
import ClassLiterals.Proofs.Class.CodePayload
import ClassLiterals.Proofs.Class.OperandPlaces
import ClassLiterals.Proofs.Visibility.Descriptors
import ClassLiterals.Proofs.Class.SlotReports
import ClassLiterals.Proofs.Bytes.ReadBack
