import SqlSelect.Query.Basic

/-! # Conditions

A condition is empty if it is built of groups alone. Empty conditions can be added
anywhere without asking for anything; every function on lists of conditions has to treat
them as absent. -/

namespace SqlSelect

namespace Condition

/-- The connection to the condition before. -/
def connective : Condition → Connective
  | test c .. => c
  | group c _ => c

/-- The same condition with another connection to the one before. -/
def withConnective (c : Connective) : Condition → Condition
  | test _ field comparison operand => test c field comparison operand
  | group _ children => group c children

@[simp] theorem connective_withConnective (c : Connective) (x : Condition) :
    (x.withConnective c).connective = c := by
  cases x <;> rfl

/-- A comparison of a field with a text that is written as it stands. -/
def columns (left : Expr) (comparison : Comparison) (right : String) : Condition :=
  test .and left comparison (.raw right)

def isGroup : Condition → Bool
  | test .. => false
  | group .. => true

end Condition

mutual

/-- There is no comparison in the condition, however deep. -/
def Condition.isEmpty : Condition → Bool
  | .test .. => false
  | .group _ children => Condition.areEmpty children

/-- There is no comparison in any of the conditions. -/
def Condition.areEmpty : List Condition → Bool
  | [] => true
  | c :: cs => c.isEmpty && areEmpty cs

end

namespace Condition

@[simp] theorem isEmpty_test (c : Connective) (field : Expr) (comparison : Comparison)
    (operand : Operand) : (test c field comparison operand).isEmpty = false := by
  rw [isEmpty]

@[simp] theorem isEmpty_group (c : Connective) (children : List Condition) :
    (group c children).isEmpty = areEmpty children := by
  rw [isEmpty]

@[simp] theorem areEmpty_nil : areEmpty [] = true := by
  rw [areEmpty]

@[simp] theorem areEmpty_cons (c : Condition) (cs : List Condition) :
    areEmpty (c :: cs) = (c.isEmpty && areEmpty cs) := by
  rw [areEmpty]

theorem areEmpty_eq_all (cs : List Condition) : areEmpty cs = cs.all isEmpty := by
  induction cs with
  | nil => simp
  | cons c cs ih => simp [ih]

@[simp] theorem areEmpty_append (cs ds : List Condition) :
    areEmpty (cs ++ ds) = (areEmpty cs && areEmpty ds) := by
  simp [areEmpty_eq_all]

@[simp] theorem isEmpty_withConnective (c : Connective) (x : Condition) :
    (x.withConnective c).isEmpty = x.isEmpty := by
  cases x <;> simp [withConnective]

/-- The conditions as one group, unless they ask for nothing. -/
def grouped? (c : Connective) (cs : List Condition) : Option Condition :=
  if areEmpty cs then none else some (group c cs)

@[simp] theorem grouped?_eq_none_iff {c : Connective} {cs : List Condition} :
    grouped? c cs = none ↔ areEmpty cs = true := by
  simp [grouped?]

end Condition

end SqlSelect
