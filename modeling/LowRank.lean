import LowRank.Block.Basic
import LowRank.Block.Text
import LowRank.Cell
import LowRank.CommandLine.Report
import LowRank.CommandLine.Run
import LowRank.Decimal.Binary
import LowRank.Decimal.Digits
import LowRank.Decimal.Notation
import LowRank.Decimal.Shortest
import LowRank.Error
import LowRank.Execution
import LowRank.Inputs
import LowRank.Instruction.Basic
import LowRank.Instruction.Decode
import LowRank.Instruction.Fields
import LowRank.Instruction.Format
import LowRank.Instruction.Operand
import LowRank.Kernel.Basic
import LowRank.Kernel.Dense
import LowRank.Kernel.Workers
import LowRank.Main
import LowRank.Mismatch
import LowRank.Operator.Basic
import LowRank.Operator.Family
import LowRank.Operator.Unary
import LowRank.Random.Block
import LowRank.Random.Sampling
import LowRank.Random.Stream
import LowRank.Session
import LowRank.Settings
import LowRank.Store.Basic
import LowRank.Store.Value
import LowRank.Text.Blank
import LowRank.Text.CodePoints
import LowRank.Text.Extending
import LowRank.Text.Graphic
import LowRank.Text.Letter
import LowRank.Text.Numeral
import LowRank.Text.Pieces
import LowRank.Text.Quoted
import LowRank.Text.Visible
import LowRank.Word
import LowRank.Proofs.Store.Consistency
import LowRank.Proofs.Execution.Course
import LowRank.Proofs.Instruction.Decoding
import LowRank.Proofs.Text.Pieces
import LowRank.Proofs.Text.Trim
import LowRank.Proofs.Instruction.RoundTrip
import LowRank.Proofs.Instruction.Accepted
import LowRank.Proofs.Session.Reachable
import LowRank.Proofs.Session.Memory
import LowRank.Proofs.Session.Outcome
import LowRank.Proofs.Block.Tabulated
import LowRank.Proofs.Kernel.Reading
import LowRank.Proofs.Kernel.WeightedProduct
import LowRank.Proofs.Kernel.Shapes
import LowRank.Proofs.Kernel.Totals
import LowRank.Proofs.Kernel.Cellwise
import LowRank.Proofs.Kernel.Outcome
import LowRank.Proofs.Session.Steps
import LowRank.Proofs.Kernel.Built
import LowRank.Proofs.Session.Dense
import LowRank.Proofs.Operator.Tokens
import LowRank.Proofs.Instruction.Grammar
import LowRank.Proofs.Text.Numeral
import LowRank.Proofs.Instruction.Writing
import LowRank.Proofs.Session.Effects
import LowRank.Proofs.Store.Alike
import LowRank.Proofs.Session.Independence
import LowRank.Proofs.Session.Repetition
import LowRank.Proofs.Kernel.Skipping
import LowRank.Proofs.Session.Limits
import LowRank.Proofs.Kernel.Transposed
import LowRank.Proofs.CommandLine.Seeding
import LowRank.Proofs.CommandLine.Lines
import LowRank.Proofs.CommandLine.Programs
import LowRank.Proofs.CommandLine.Shapes
import LowRank.Proofs.CommandLine.Roles
import LowRank.Proofs.Block.Rows
import LowRank.Proofs.Kernel.RowByRow
import LowRank.Proofs.Kernel.Losses
import LowRank.Proofs.Kernel.Cells
import LowRank.Proofs.Kernel.Storage
import LowRank.Proofs.Cell.Doubles
import LowRank.Proofs.Kernel.LossKinds
import LowRank.Proofs.Instruction.Respelling
import LowRank.Proofs.Instruction.Layout
import LowRank.Proofs.Session.Operations
import LowRank.Proofs.Block.RowMajor
import LowRank.Proofs.Instruction.Operands
import LowRank.Proofs.Instruction.Threads
