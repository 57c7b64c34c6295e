import SqlSelect.Query.Basic

/-! # Equality of operands

Operands are compared as far as their identity is known. A deferred value may be another
one whenever it is asked for, and a query is not looked into, so neither equals anything,
itself included. -/

namespace SqlSelect

mutual

/-- Equality of operands. -/
protected def Operand.beq : Operand → Operand → Bool
  | .value v, .value w => v == w
  | .raw s, .raw t => s == t
  | .list items, .list others => Operand.beqList items others
  | _, _ => false

/-- Equality of lists of operands, item by item. -/
protected def Operand.beqList : List Operand → List Operand → Bool
  | [], [] => true
  | a :: as, b :: bs => Operand.beq a b && Operand.beqList as bs
  | _, _ => false

end

instance : BEq Operand := ⟨Operand.beq⟩

namespace Operand

theorem beq_def (a b : Operand) : (a == b) = Operand.beq a b := rfl

@[simp] theorem value_beq_value (v w : Value) : (value v == value w) = (v == w) := by
  rw [beq_def, Operand.beq]

@[simp] theorem raw_beq_raw (s t : String) : (raw s == raw t) = (s == t) := by
  rw [beq_def, Operand.beq]

@[simp] theorem list_beq_list (items others : List Operand) :
    (list items == list others) = (items == others) := by
  rw [beq_def, Operand.beq]
  induction items generalizing others with
  | nil => cases others <;> simp [Operand.beqList]
  | cons a as ih => cases others <;> simp [Operand.beqList, ih, beq_def]

@[simp] theorem deferred_beq (supply : Except String Value) (b : Operand) :
    (deferred supply == b) = false := by
  rw [beq_def]
  cases b <;> simp [Operand.beq]

@[simp] theorem subquery_beq (q : Query) (b : Operand) : (subquery q == b) = false := by
  rw [beq_def]
  cases b <;> simp [Operand.beq]

end Operand

end SqlSelect
