/-! # Keywords

The fixed words of a statement: what connects two conditions, what compares a field with
an operand, how a table is joined and how rows are ordered. -/

namespace SqlSelect

/-- What connects a condition with the one before it. -/
inductive Connective where
  | and
  | or
  deriving DecidableEq, Repr

namespace Connective

instance : Inhabited Connective := ⟨.and⟩

def sql : Connective → String
  | and => "AND"
  | or => "OR"

end Connective

/-- What a comparison expects to its right. -/
inductive Arity where
  /-- One operand, written as it is. -/
  | one
  /-- A list of candidates in parentheses. -/
  | many
  /-- Nothing. -/
  | none
  /-- Two bounds, connected by a word. -/
  | two
  deriving DecidableEq, Repr

/-- How a field is compared with an operand. -/
inductive Comparison where
  | equal
  | notEqual
  | greater
  | greaterOrEqual
  | less
  | lessOrEqual
  | like
  | notLike
  | ilike
  | notIlike
  | isIn
  | isNotIn
  | isNull
  | isNotNull
  | between
  | notBetween
  deriving DecidableEq, Repr

namespace Comparison

def sql : Comparison → String
  | equal => "="
  | notEqual => "<>"
  | greater => ">"
  | greaterOrEqual => ">="
  | less => "<"
  | lessOrEqual => "<="
  | like => "LIKE"
  | notLike => "NOT LIKE"
  | ilike => "ILIKE"
  | notIlike => "NOT ILIKE"
  | isIn => "IN"
  | isNotIn => "NOT IN"
  | isNull => "IS NULL"
  | isNotNull => "IS NOT NULL"
  | between => "BETWEEN"
  | notBetween => "NOT BETWEEN"

def arity : Comparison → Arity
  | isIn | isNotIn => .many
  | isNull | isNotNull => .none
  | between | notBetween => .two
  | _ => .one

/-- The operand is a set of candidates. -/
def isMembership (c : Comparison) : Bool := c.arity == .many

/-- There is no operand. -/
def isNullCheck (c : Comparison) : Bool := c.arity == .none

/-- The operand is a pair of bounds. -/
def isRange (c : Comparison) : Bool := c.arity == .two

section Arity

variable {c : Comparison}

theorem isMembership_iff : c.isMembership = true ↔ c = .isIn ∨ c = .isNotIn := by
  cases c <;> decide

theorem isNullCheck_iff : c.isNullCheck = true ↔ c = .isNull ∨ c = .isNotNull := by
  cases c <;> decide

theorem isRange_iff : c.isRange = true ↔ c = .between ∨ c = .notBetween := by
  cases c <;> decide

end Arity

end Comparison

/-- How a table is joined to those before it. -/
inductive JoinKind where
  | inner
  | left
  | right
  | full
  | cross
  deriving DecidableEq, Repr

namespace JoinKind

def sql : JoinKind → String
  | inner => "INNER JOIN"
  | left => "LEFT JOIN"
  | right => "RIGHT JOIN"
  | full => "FULL JOIN"
  | cross => "CROSS JOIN"

end JoinKind

/-- The order of rows by one key. -/
inductive Direction where
  | ascending
  | descending
  deriving DecidableEq, Repr

namespace Direction

instance : Inhabited Direction := ⟨.ascending⟩

def sql : Direction → String
  | ascending => "ASC"
  | descending => "DESC"

end Direction

end SqlSelect
