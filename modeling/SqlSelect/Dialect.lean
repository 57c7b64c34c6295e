/-! # SQL dialects

The five dialects a statement can be written in. A dialect decides the spelling of
literals and of nothing else; the questions asked of it are collected here. -/

namespace SqlSelect

/-- A dialect of SQL. -/
inductive Dialect where
  | mysql
  | postgresql
  | sqlite
  | sqlserver
  | oracle
  deriving DecidableEq, Repr

namespace Dialect

/-- The dialect of a session that has chosen none. -/
instance : Inhabited Dialect := ⟨.mysql⟩

/-- Every dialect, in the order in which they are listed to a user. -/
def all : List Dialect :=
  [.mysql, .postgresql, .sqlite, .sqlserver, .oracle]

theorem mem_all (d : Dialect) : d ∈ all := by
  cases d <;> decide

/-- The number that a dialect is stored as: its place among all of them. -/
def code : Dialect → UInt8
  | mysql => 0
  | postgresql => 1
  | sqlite => 2
  | sqlserver => 3
  | oracle => 4

/-- The dialect that is stored as a number, or the default one if there is none. -/
def ofCode (code : UInt8) : Dialect :=
  all[code.toNat]?.getD default

@[simp] theorem ofCode_code (d : Dialect) : ofCode d.code = d := by
  cases d <;> rfl

/-- The product name. -/
def name : Dialect → String
  | mysql => "MySQL"
  | postgresql => "PostgreSQL"
  | sqlite => "SQLite"
  | sqlserver => "SQLServer"
  | oracle => "Oracle"

/-- The dialect of a given product name. -/
def ofName? (text : String) : Option Dialect :=
  all.find? (·.name == text)

theorem ofName?_name (d : Dialect) : ofName? d.name = some d := by
  cases d <;> decide

/-- Inside a string literal a backslash starts an escape sequence. -/
def escapesWithBackslash : Dialect → Bool
  | mysql | postgresql => true
  | sqlite | sqlserver | oracle => false

/-- Truth values are the numbers one and zero, for want of boolean keywords. -/
def writesTruthAsNumber : Dialect → Bool
  | sqlserver | oracle => true
  | mysql | postgresql | sqlite => false

end Dialect

end SqlSelect
