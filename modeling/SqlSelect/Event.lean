import SqlSelect.Query.Fault
import SqlSelect.Rendering

/-! # Events

What a caller can watch while queries are rendered and checked. An answer comes together
with the events that led to it. -/

namespace SqlSelect

/-- Something that happened on the way to an answer. -/
inductive Event where
  /-- A value was written as a null. -/
  | warned (warning : Warning)
  | rendered (dialect : Dialect) (sql : String)
  | rejected (fault : Fault) (dialect : Dialect)
  deriving DecidableEq, Repr

namespace Event

/-- How much an event matters. -/
def level : Event → String
  | warned _ => "WARN"
  | rendered .. => "TRACE"
  | rejected .. => "DEBUG"

def message : Event → String
  | warned ⟨.nonFinite _, _⟩ | warned ⟨.unformatted _, _⟩ =>
    "literal cannot be formatted, rendering NULL"
  | warned ⟨.notSupplied _, _⟩ => "sql valuer failed, rendering NULL"
  | rendered .. => "select rendered"
  | rejected .. => "select rejected by validation"

/-- The further particulars, by name. A failure to supply a value has no dialect. -/
def details : Event → List (String × String)
  | warned ⟨error, d⟩ =>
    match error with
    | .nonFinite _ | .unformatted _ => [("error", error.message), ("flavor", d.name)]
    | .notSupplied _ => [("error", error.message)]
  | rendered d sql => [("flavor", d.name), ("sql", sql)]
  | rejected fault d => [("error", fault.message), ("flavor", d.name)]

end Event

/-- An answer, and the events that led to it in order. -/
structure Traced (α : Type) where
  value : α
  events : List Event := []

end SqlSelect
