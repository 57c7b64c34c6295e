import SqlSelect.Session
import SqlSelect.Query.Operand
import SqlSelect.Proofs.DialectIndependence
import SqlSelect.Proofs.Injection
import SqlSelect.Proofs.Acceptance
import SqlSelect.Proofs.Soundness
import SqlSelect.Proofs.ConditionReader
import SqlSelect.Proofs.EmptyConditions
import SqlSelect.Proofs.Warnings
import SqlSelect.Proofs.EditOrder
import SqlSelect.Proofs.Contexts
import SqlSelect.Proofs.TrimmedCheck
import SqlSelect.Proofs.LiteralReader
import SqlSelect.Proofs.EscapeString
import SqlSelect.Proofs.UnicodeString
import SqlSelect.Proofs.Appending
import SqlSelect.Proofs.Counting
import SqlSelect.Proofs.Rounding
import SqlSelect.Proofs.SessionRun
import SqlSelect.Proofs.Instants
import SqlSelect.Proofs.Chronology
import SqlSelect.Proofs.Collecting
import SqlSelect.Proofs.Siblings
import SqlSelect.Proofs.BytesReader
import SqlSelect.Proofs.DerivedTables
import SqlSelect.Proofs.LateValues
import SqlSelect.Proofs.Parentheses
import SqlSelect.Proofs.PairedParentheses
import SqlSelect.Proofs.Pages
import SqlSelect.Proofs.AtomicWriting
import SqlSelect.Proofs.OperandEquality
import SqlSelect.Proofs.DateReader
