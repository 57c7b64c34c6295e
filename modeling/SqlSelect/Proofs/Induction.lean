import SqlSelect.Query.Condition

/-!
# Induction over queries

A query, its expressions, operands, conditions and joins contain each other. A property of
all of them is proved from one step for each form; the steps are collected in a structure,
so that a proof names each of its cases. A case in which nothing is asked can be left out.

## Implementation notes

Hypotheses on lists are given for each member. The table of a source is not treated as an
expression, since a source gives a query another name than an expression does: there is a
hypothesis only where the table is a query.
-/

namespace SqlSelect

/-- The steps of an induction over everything that a query is made of. -/
structure Query.Induction (E : Expr → Prop) (A : Operand → Prop) (C : Condition → Prop)
    (J : Join → Prop) (Q : Query → Prop) : Prop where
  raw_expr : ∀ text, E (.raw text) := by intros; trivial
  subquery_expr : ∀ q, Q q → E (.subquery q) := by intros; trivial
  value : ∀ v, A (.value v) := by intros; trivial
  deferred : ∀ supply, A (.deferred supply) := by intros; trivial
  raw_operand : ∀ text, A (.raw text) := by intros; trivial
  list : ∀ items, (∀ a ∈ items, A a) → A (.list items) := by intros; trivial
  subquery_operand : ∀ q, Q q → A (.subquery q) := by intros; trivial
  test : ∀ c field comparison operand, E field → A operand →
    C (.test c field comparison operand) := by intros; trivial
  group : ∀ c children, (∀ x ∈ children, C x) → C (.group c children) := by intros; trivial
  product : ∀ table, E table → J (.product table) := by intros; trivial
  matching : ∀ kind table on, E table → C on → J (.matching kind table on) := by
    intros; trivial
  clauses : ∀ q : Query, (∀ e ∈ q.columns, E e) →
    (∀ r name, q.source = some ⟨.subquery r, name⟩ → Q r) →
    (∀ j ∈ q.joins, J j) → (∀ c ∈ q.filters, C c) → (∀ c ∈ q.havings, C c) → Q q := by
    intros; trivial

namespace Query.Induction

variable {E : Expr → Prop} {A : Operand → Prop} {C : Condition → Prop} {J : Join → Prop}
  {Q : Query → Prop}

mutual

theorem expr (h : Query.Induction E A C J Q) : ∀ e, E e
  | .raw text => h.raw_expr text
  | .subquery q => h.subquery_expr q (h.query q)

theorem operand (h : Query.Induction E A C J Q) : ∀ a, A a
  | .value v => h.value v
  | .deferred supply => h.deferred supply
  | .raw text => h.raw_operand text
  | .list items => h.list items (h.operands items)
  | .subquery q => h.subquery_operand q (h.query q)

theorem condition (h : Query.Induction E A C J Q) : ∀ c, C c
  | .test c field comparison operand =>
      h.test c field comparison operand (h.expr field) (h.operand operand)
  | .group c children => h.group c children (h.conditions children)

theorem join (h : Query.Induction E A C J Q) : ∀ j, J j
  | .product table => h.product table (h.expr table)
  | .matching kind table on => h.matching kind table on (h.expr table) (h.condition on)

theorem source (h : Query.Induction E A C J Q) :
    ∀ (source : Option (Source Expr)) r name, source = some ⟨.subquery r, name⟩ → Q r
  | none, _, _, found => nomatch found
  | some ⟨.raw _, _⟩, _, _, found => nomatch found
  | some ⟨.subquery q, _⟩, _, _, found => by
      cases found
      exact h.query q

theorem query (h : Query.Induction E A C J Q) : ∀ q, Q q
  | ⟨columns, _, source, joins, filters, _, havings, _, _, _, _, _⟩ =>
      h.clauses _ (h.exprs columns) (h.source source) (h.joins joins) (h.conditions filters)
        (h.conditions havings)

theorem exprs (h : Query.Induction E A C J Q) : ∀ es : List Expr, ∀ e ∈ es, E e
  | [] => fun _ member => nomatch member
  | e :: es => List.forall_mem_cons.mpr ⟨h.expr e, h.exprs es⟩

theorem operands (h : Query.Induction E A C J Q) : ∀ as : List Operand, ∀ a ∈ as, A a
  | [] => fun _ member => nomatch member
  | a :: as => List.forall_mem_cons.mpr ⟨h.operand a, h.operands as⟩

theorem conditions (h : Query.Induction E A C J Q) : ∀ cs : List Condition, ∀ c ∈ cs, C c
  | [] => fun _ member => nomatch member
  | c :: cs => List.forall_mem_cons.mpr ⟨h.condition c, h.conditions cs⟩

theorem joins (h : Query.Induction E A C J Q) : ∀ js : List Join, ∀ j ∈ js, J j
  | [] => fun _ member => nomatch member
  | j :: js => List.forall_mem_cons.mpr ⟨h.join j, h.joins js⟩

end

end Query.Induction

/-- A source is absent, a text or a query. -/
@[elab_as_elim]
theorem Query.source_cases {P : Option (Source Expr) → Prop} (absent : P none)
    (raw : ∀ text name, P (some ⟨.raw text, name⟩))
    (subquery : ∀ r name, P (some ⟨.subquery r, name⟩)) : ∀ source, P source
  | none => absent
  | some ⟨.raw text, name⟩ => raw text name
  | some ⟨.subquery r, name⟩ => subquery r name

/-- Induction over the groups of a condition alone. -/
@[elab_as_elim]
theorem Condition.induction {P : Condition → Prop}
    (test : ∀ c field comparison operand, P (.test c field comparison operand))
    (group : ∀ c children, (∀ x ∈ children, P x) → P (.group c children)) (c : Condition) :
    P c := by
  have steps : Query.Induction (fun _ => True) (fun _ => True) P (fun _ => True)
      (fun _ => True) :=
    { test := fun c field comparison operand _ _ => test c field comparison operand
      group }
  exact steps.condition c

/-- Induction over the lists of an operand alone. -/
@[elab_as_elim]
theorem Operand.induction {P : Operand → Prop} (value : ∀ v, P (.value v))
    (deferred : ∀ supply, P (.deferred supply)) (raw : ∀ text, P (.raw text))
    (list : ∀ items, (∀ a ∈ items, P a) → P (.list items))
    (subquery : ∀ q, P (.subquery q)) (a : Operand) : P a := by
  have steps : Query.Induction (fun _ => True) P (fun _ => True) (fun _ => True)
      (fun _ => True) :=
    { value, deferred, raw_operand := raw, list
      subquery_operand := fun q _ => subquery q }
  exact steps.operand a

end SqlSelect
