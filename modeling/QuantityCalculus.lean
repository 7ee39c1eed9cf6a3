import QuantityCalculus.Builtin
import QuantityCalculus.Calculator.Any
import QuantityCalculus.Calculator.Basic
import QuantityCalculus.Calculator.Outcome
import QuantityCalculus.Calculator.Register
import QuantityCalculus.CommandLine
import QuantityCalculus.CommandLine.Arguments
import QuantityCalculus.CommandLine.Files
import QuantityCalculus.Complex.Basic
import QuantityCalculus.Complex.Elementary
import QuantityCalculus.Complex.Gamma
import QuantityCalculus.Error
import QuantityCalculus.Expr.Basic
import QuantityCalculus.Expr.Reader
import QuantityCalculus.Expr.Token
import QuantityCalculus.Expr.Value
import QuantityCalculus.Journal
import QuantityCalculus.Json.Basic
import QuantityCalculus.Json.Bytes
import QuantityCalculus.Json.Read
import QuantityCalculus.Json.Same
import QuantityCalculus.Json.Shown
import QuantityCalculus.Json.Write
import QuantityCalculus.Log
import QuantityCalculus.Main
import QuantityCalculus.Name
import QuantityCalculus.Number.Binary
import QuantityCalculus.Number.Decimal
import QuantityCalculus.Number.Elementary
import QuantityCalculus.Number.Gamma
import QuantityCalculus.Number.Literal
import QuantityCalculus.Number.Notation
import QuantityCalculus.Number.Rounding
import QuantityCalculus.Number.Scientific
import QuantityCalculus.Proofs.Calculator.AnswerVariable
import QuantityCalculus.Proofs.Calculator.Answers
import QuantityCalculus.Proofs.Calculator.Built
import QuantityCalculus.Proofs.Calculator.Complaint
import QuantityCalculus.Proofs.Calculator.Definitions
import QuantityCalculus.Proofs.Calculator.Limits
import QuantityCalculus.Proofs.Calculator.Numbers
import QuantityCalculus.Proofs.Calculator.Operations
import QuantityCalculus.Proofs.Calculator.OutputUnits
import QuantityCalculus.Proofs.Calculator.PrefixedUnits
import QuantityCalculus.Proofs.Calculator.Reachable
import QuantityCalculus.Proofs.Calculator.RefusedUnits
import QuantityCalculus.Proofs.Calculator.Texts
import QuantityCalculus.Proofs.Except
import QuantityCalculus.Proofs.Expr.Acceptance
import QuantityCalculus.Proofs.Expr.Content
import QuantityCalculus.Proofs.Expr.Cut
import QuantityCalculus.Proofs.Expr.FirstError
import QuantityCalculus.Proofs.Expr.Front
import QuantityCalculus.Proofs.Expr.Grammar
import QuantityCalculus.Proofs.Expr.Names
import QuantityCalculus.Proofs.Expr.Nodes
import QuantityCalculus.Proofs.Expr.Numerals
import QuantityCalculus.Proofs.Expr.Paired
import QuantityCalculus.Proofs.Expr.Partition
import QuantityCalculus.Proofs.Expr.Print
import QuantityCalculus.Proofs.Expr.Prompt
import QuantityCalculus.Proofs.Expr.PromptReaders
import QuantityCalculus.Proofs.Expr.Readers
import QuantityCalculus.Proofs.Expr.Reads
import QuantityCalculus.Proofs.Expr.Reread
import QuantityCalculus.Proofs.Expr.Roundtrip
import QuantityCalculus.Proofs.Expr.Scan
import QuantityCalculus.Proofs.Expr.Simulation
import QuantityCalculus.Proofs.Expr.Spacing
import QuantityCalculus.Proofs.Expr.Trimmed
import QuantityCalculus.Proofs.Expr.UsableNames
import QuantityCalculus.Proofs.Expr.Words
import QuantityCalculus.Proofs.Machine.Depth
import QuantityCalculus.Proofs.Machine.Faults
import QuantityCalculus.Proofs.Machine.Frame
import QuantityCalculus.Proofs.Machine.Limits
import QuantityCalculus.Proofs.Machine.Numbers
import QuantityCalculus.Proofs.Machine.Plain
import QuantityCalculus.Proofs.Machine.Runs
import QuantityCalculus.Proofs.Machine.Substitution
import QuantityCalculus.Proofs.Machine.Unique
import QuantityCalculus.Proofs.Machine.Values
import QuantityCalculus.Proofs.Machine.Writes
import QuantityCalculus.Proofs.Number.Nearest
import QuantityCalculus.Proofs.Number.Numeral
import QuantityCalculus.Proofs.Number.Scientific
import QuantityCalculus.Proofs.Number.Written
import QuantityCalculus.Proofs.Quantity.Complaint
import QuantityCalculus.Proofs.Quantity.TwosComplement
import QuantityCalculus.Proofs.Scalar.Zero
import QuantityCalculus.Proofs.Scopes.Alike
import QuantityCalculus.Proofs.Scopes.Calls
import QuantityCalculus.Proofs.Scopes.Relevant
import QuantityCalculus.Proofs.Scopes.SideBySide
import QuantityCalculus.Proofs.Scopes.Visible
import QuantityCalculus.Proofs.Service.Deeds
import QuantityCalculus.Proofs.Service.Exchange
import QuantityCalculus.Proofs.Service.Expiry
import QuantityCalculus.Proofs.Service.Isolation
import QuantityCalculus.Proofs.Service.RefusedUnits
import QuantityCalculus.Proofs.Session.Expiry
import QuantityCalculus.Proofs.Session.History
import QuantityCalculus.Proofs.Session.Single
import QuantityCalculus.Proofs.Session.Stored
import QuantityCalculus.Proofs.Snapshot.Faults
import QuantityCalculus.Proofs.Snapshot.Functions
import QuantityCalculus.Proofs.Snapshot.Load
import QuantityCalculus.Proofs.Snapshot.Loadable
import QuantityCalculus.Proofs.Snapshot.Overlay
import QuantityCalculus.Proofs.Snapshot.Shapes
import QuantityCalculus.Proofs.Snapshot.SignedZero
import QuantityCalculus.Proofs.Snapshot.Validation
import QuantityCalculus.Proofs.Snapshot.Values
import QuantityCalculus.Proofs.Steps
import QuantityCalculus.Proofs.Table
import QuantityCalculus.Proofs.Text.Blank
import QuantityCalculus.Proofs.Units.Canonical
import QuantityCalculus.Proofs.Units.Expansion
import QuantityCalculus.Proofs.Units.Printed
import QuantityCalculus.Proofs.Units.Reread
import QuantityCalculus.Quantity.Arithmetic
import QuantityCalculus.Quantity.Basic
import QuantityCalculus.Quantity.Bitwise
import QuantityCalculus.Quantity.Precision
import QuantityCalculus.Scalar.Basic
import QuantityCalculus.Scalar.Complex
import QuantityCalculus.Scalar.Real
import QuantityCalculus.Service
import QuantityCalculus.Service.Configuration
import QuantityCalculus.Service.Listening
import QuantityCalculus.Service.Listing
import QuantityCalculus.Service.Payload
import QuantityCalculus.Service.Problem
import QuantityCalculus.Service.Request
import QuantityCalculus.Service.Route
import QuantityCalculus.Service.Schema
import QuantityCalculus.Service.Target
import QuantityCalculus.Session.Instant
import QuantityCalculus.Session.Pool
import QuantityCalculus.Settings
import QuantityCalculus.Snapshot
import QuantityCalculus.Snapshot.Units
import QuantityCalculus.Table
import QuantityCalculus.Text.Blank
import QuantityCalculus.Text.Bytes
import QuantityCalculus.Text.Letter
import QuantityCalculus.Text.Numeral
import QuantityCalculus.Text.Printable
import QuantityCalculus.Text.Quoted
import QuantityCalculus.Text.Range
import QuantityCalculus.Text.Surrogate
import QuantityCalculus.UnitSet
import QuantityCalculus.UnitSet.Basic
import QuantityCalculus.UnitSet.Common
import QuantityCalculus.UnitSet.Customary
import QuantityCalculus.UnitSet.Electronics
import QuantityCalculus.Units.Basic
import QuantityCalculus.Units.Exponent
import QuantityCalculus.Units.Text
