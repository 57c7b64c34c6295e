import SqlSelect.Query.Condition

/-! # Criteria

A criterion is one step in collecting conditions. A nested criterion collects its own
conditions first and contributes them as one group, or nothing if they ask for nothing. -/

namespace SqlSelect

/-- One step in collecting conditions. -/
inductive Criterion where
  | test (connective : Connective) (field : Expr) (comparison : Comparison)
      (operand : Operand)
  | nested (connective : Connective) (criteria : List Criterion)
  /-- Conditions that were made elsewhere, each with its own connective. -/
  | given (conditions : List Condition)

mutual

/-- The conditions that a criterion contributes. -/
def Criterion.conditions : Criterion → List Condition
  | .test c field comparison operand => [.test c field comparison operand]
  | .nested c criteria => (Condition.grouped? c (Criterion.collect criteria)).toList
  | .given conditions => conditions

/-- The conditions that criteria contribute, in order. -/
def Criterion.collect : List Criterion → List Condition
  | [] => []
  | c :: cs => c.conditions ++ Criterion.collect cs

end

namespace Criterion

/-- A comparison behind AND. -/
def andTest (field : Expr) (comparison : Comparison) (operand : Operand) : Criterion :=
  test .and field comparison operand

def orTest (field : Expr) (comparison : Comparison) (operand : Operand) : Criterion :=
  test .or field comparison operand

/-- A group behind AND. -/
def andGroup (criteria : List Criterion) : Criterion :=
  nested .and criteria

def orGroup (criteria : List Criterion) : Criterion :=
  nested .or criteria

@[simp] theorem collect_nil : collect [] = [] := by
  rw [collect]

@[simp] theorem collect_cons (c : Criterion) (cs : List Criterion) :
    collect (c :: cs) = c.conditions ++ collect cs := by
  rw [collect]

@[simp] theorem collect_append (cs ds : List Criterion) :
    collect (cs ++ ds) = collect cs ++ collect ds := by
  induction cs with
  | nil => simp
  | cons c cs ih => simp [ih]

end Criterion

end SqlSelect
