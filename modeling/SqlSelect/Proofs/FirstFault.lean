import SqlSelect.Proofs.Requirement

/-!
# The first fault of a query

The requirements of a query are listed in the order in which the query is written, those of
an inner query where it stands. The fault that is reported is that of the first requirement
that is not met.

The operand of a null check is neither written nor checked. The field of a comparison with an
empty set of candidates is not written, but it is checked.
-/

namespace SqlSelect

mutual

/-- What is asked of an expression. -/
def Expr.requirements : Expr → List Requirement
  | .raw _ => []
  | .subquery q => Query.requirements q

/-- What is asked of a table to be joined. -/
def Expr.joinRequirements : Expr → List Requirement
  | .raw _ => []
  | .subquery q => .tableName .join q.name :: Query.requirements q

/-- What is asked of an operand. -/
def Operand.requirements : Operand → List Requirement
  | .value v => [.literal (.ok v)]
  | .deferred supply => [.literal supply]
  | .raw _ => []
  | .list items => items.flatMap Operand.requirements
  | .subquery q => Query.requirements q

/-- What is asked of a condition: first of the field, then of the number of operands, then
of the operands themselves. -/
def Condition.requirements : Condition → List Requirement
  | .test _ field comparison operand =>
    field.requirements ++
      if comparison = .isNull ∨ comparison = .isNotNull then []
      else .bounds field comparison operand :: operand.requirements
  | .group _ children => children.flatMap Condition.requirements

/-- What is asked of a join. -/
def Join.requirements : Join → List Requirement
  | .product table => table.joinRequirements
  | .matching kind table on =>
    table.joinRequirements ++ .matching kind table on :: on.requirements

/-- What is asked of a source that is there. -/
def Query.sourceRequirements : Option (Source Expr) → List Requirement
  | none => []
  | some ⟨.raw _, _⟩ => []
  | some ⟨.subquery q, name⟩ => .tableName .source (name.or q.name) :: Query.requirements q

/-- What is asked of a query. -/
def Query.requirements : Query → List Requirement
  | { columns, source, joins, filters, havings, limit, fetch, .. } =>
    columns.flatMap Expr.requirements ++ .source source :: Query.sourceRequirements source ++
      joins.flatMap Join.requirements ++ filters.flatMap Condition.requirements ++
      havings.flatMap Condition.requirements ++ [.onePage limit fetch]

end

theorem Condition.requirements_group (c : Connective) (children : List Condition) :
    (group c children).requirements = children.flatMap requirements := by
  rw [requirements]

theorem Query.requirements_eq (q : Query) :
    q.requirements =
      q.columns.flatMap Expr.requirements ++ .source q.source :: sourceRequirements q.source ++
        q.joins.flatMap Join.requirements ++ q.filters.flatMap Condition.requirements ++
        q.havings.flatMap Condition.requirements ++ [.onePage q.limit q.fetch] := by
  cases q
  rw [Query.requirements]

/-- The clause of a query in which a requirement arises. -/
inductive Query.Asks (q : Query) (r : Requirement) : Prop
  | column {e : Expr} (member : e ∈ q.columns) (asked : r ∈ e.requirements)
  | source (same : r = .source q.source)
  | sourceTable (asked : r ∈ sourceRequirements q.source)
  | join {j : Join} (member : j ∈ q.joins) (asked : r ∈ j.requirements)
  | filter {c : Condition} (member : c ∈ q.filters) (asked : r ∈ c.requirements)
  | having {c : Condition} (member : c ∈ q.havings) (asked : r ∈ c.requirements)
  | page (same : r = .onePage q.limit q.fetch)

theorem Query.mem_requirements {q : Query} {r : Requirement} :
    r ∈ q.requirements ↔ q.Asks r := by
  simp only [requirements_eq, List.mem_append, List.mem_cons, List.mem_flatMap, List.not_mem_nil,
    or_false, or_assoc]
  constructor
  · rintro (⟨e, member, asked⟩ | same | asked | ⟨j, member, asked⟩ | ⟨c, member, asked⟩ |
      ⟨c, member, asked⟩ | same)
    · exact .column member asked
    · exact .source same
    · exact .sourceTable asked
    · exact .join member asked
    · exact .filter member asked
    · exact .having member asked
    · exact .page same
  · rintro (⟨member, asked⟩ | same | asked | ⟨member, asked⟩ | ⟨member, asked⟩ |
      ⟨member, asked⟩ | same)
    · exact .inl ⟨_, member, asked⟩
    · exact .inr (.inl same)
    · exact .inr (.inr (.inl asked))
    · exact .inr (.inr (.inr (.inl ⟨_, member, asked⟩)))
    · exact .inr (.inr (.inr (.inr (.inl ⟨_, member, asked⟩))))
    · exact .inr (.inr (.inr (.inr (.inr (.inl ⟨_, member, asked⟩)))))
    · exact .inr (.inr (.inr (.inr (.inr (.inr same)))))

/-- Only a query among expressions has requirements. -/
theorem Expr.mem_requirements {e : Expr} {r : Requirement} :
    r ∈ e.requirements ↔ ∃ q, e = .subquery q ∧ r ∈ Query.requirements q := by
  cases e with
  | raw text => simp [requirements]
  | subquery q => simp [requirements]

theorem Expr.mem_joinRequirements {e : Expr} {r : Requirement} :
    r ∈ e.joinRequirements ↔
      ∃ q, e = .subquery q ∧ (r = .tableName .join q.name ∨ r ∈ Query.requirements q) := by
  cases e with
  | raw text => simp [joinRequirements]
  | subquery q => simp [joinRequirements]

theorem Query.mem_sourceRequirements {source : Option (Source Expr)} {r : Requirement} :
    r ∈ sourceRequirements source ↔
      ∃ q name, source = some ⟨.subquery q, name⟩ ∧
        (r = .tableName .source (name.or q.name) ∨ r ∈ Query.requirements q) := by
  cases source using source_cases with
  | absent => simp [sourceRequirements]
  | raw text name => simp [sourceRequirements]
  | subquery q name => simp [sourceRequirements]

theorem Condition.mem_requirements_test {c : Connective} {field : Expr}
    {comparison : Comparison} {operand : Operand} {r : Requirement} :
    r ∈ (test c field comparison operand).requirements ↔
      r ∈ field.requirements ∨ ¬ (comparison = .isNull ∨ comparison = .isNotNull) ∧
        (r = .bounds field comparison operand ∨ r ∈ operand.requirements) := by
  rw [requirements, List.mem_append]
  split
  · next nullCheck => simp [nullCheck]
  · next operands => simp [operands]

/-- Nothing is asked of a condition without comparisons. -/
theorem Condition.requirements_of_isEmpty {c : Condition} (empty : c.isEmpty = true) :
    c.requirements = [] := by
  induction c using Condition.induction with
  | test c field comparison operand => simp at empty
  | group c children ih =>
      rw [isEmpty_group, areEmpty_eq_all, List.all_eq_true] at empty
      rw [requirements_group, List.flatMap_eq_nil_iff]
      exact fun x member => ih x member (empty x member)

/-- What is looked for in a list of parts is looked for in each part. -/
theorem findSome?_flatMap_of_forall {α β γ : Type} {f : α → Option γ} {g : β → Option γ}
    {parts : α → List β} {xs : List α} (same : ∀ x ∈ xs, f x = (parts x).findSome? g) :
    xs.findSome? f = (xs.flatMap parts).findSome? g := by
  induction xs with
  | nil => rfl
  | cons x xs ih =>
      obtain ⟨first, others⟩ := List.forall_mem_cons.mp same
      rw [List.flatMap_cons, List.findSome?_append, ← first, ← ih others, findSome?_cons_eq_or]

/-- A part of a query reports the fault of the first requirement on it that is not met. -/
theorem Query.fault?_induction (d : Dialect) :
    Query.Induction
      (fun e => e.fault? d = e.requirements.findSome? Requirement.fault? ∧
        e.joinFault? d = e.joinRequirements.findSome? Requirement.fault?)
      (fun a => a.fault? d = a.requirements.findSome? Requirement.fault?)
      (fun c => c.fault? d = c.requirements.findSome? Requirement.fault?)
      (fun j => j.fault? d = j.requirements.findSome? Requirement.fault?)
      (fun q => q.fault? d = q.requirements.findSome? Requirement.fault?) where
  raw_expr text := by
    rw [Expr.fault?, Expr.requirements, Expr.joinFault?, Expr.joinRequirements]
    exact ⟨rfl, rfl⟩
  subquery_expr q ih := by
    rw [Expr.fault?, Expr.requirements, Expr.joinFault?, Expr.joinRequirements, ih]
    refine ⟨rfl, ?_⟩
    cases named : q.name with
    | none => rfl
    | some name => rfl
  value v := by
    rw [Operand.fault?, Operand.requirements, Fault.ofSupply?_eq, List.findSome?_singleton]
  deferred supply := by
    rw [Operand.fault?, Operand.requirements, Fault.ofSupply?_eq, List.findSome?_singleton]
  raw_operand text := by
    rw [Operand.fault?, Operand.requirements]
    rfl
  list items ih := by
    rw [Operand.fault?, Operand.requirements, Operand.firstFault?_eq_findSome?]
    exact findSome?_flatMap_of_forall ih
  subquery_operand q ih := by
    rw [Operand.fault?, Operand.requirements, ih]
  test c field comparison operand fieldIh operandIh := by
    rw [Condition.fault?, Condition.requirements, List.findSome?_append, fieldIh.1]
    congr 1
    simp only [Comparison.isNullCheck_iff]
    split
    · rfl
    · rw [operandIh, findSome?_cons_eq_or, Fault.ofBounds?_eq]
  group c children ih := by
    rw [Condition.fault?, Condition.requirements_group, Condition.firstFault?_eq_findSome?]
    exact findSome?_flatMap_of_forall ih
  product table ih := by
    rw [Join.fault?, Join.requirements, ih.2]
  matching kind table on tableIh onIh := by
    rw [Join.fault?, Join.requirements, List.findSome?_append, tableIh.2]
    rw [findSome?_cons_eq_or, Requirement.fault?, Requirement.label_eq_called]
    cases empty : on.isEmpty with
    | true =>
        rw [Condition.requirements_of_isEmpty empty]
        cases kind <;> rfl
    | false => simp [onIh]
  clauses q columns source joins filters havings := by
    have sourceFault : sourceFault? d q.source =
        (Requirement.source q.source :: sourceRequirements q.source).findSome?
          Requirement.fault? := by
      cases given : q.source using source_cases with
      | absent => rw [sourceFault?]; rfl
      | raw text name => rw [sourceFault?, sourceRequirements]; rfl
      | subquery r name =>
          rw [sourceFault?, sourceRequirements, source r name given]
          cases name.or r.name with
          | none => rfl
          | some used => rfl
    have pages : Fault.ofPages? q.limit q.fetch =
        [Requirement.onePage q.limit q.fetch].findSome? Requirement.fault? := by
      rw [List.findSome?_singleton, Fault.ofPages?_eq]
    rw [fault?_eq, requirements_eq]
    simp only [List.findSome?_append, sourceFault, pages, Option.or_assoc,
      findSome?_flatMap_of_forall fun e member => (columns e member).1,
      findSome?_flatMap_of_forall joins, findSome?_flatMap_of_forall filters,
      findSome?_flatMap_of_forall havings]

/-- The fault of a query is that of its first requirement that is not met. -/
theorem Query.fault?_eq_findSome? (d : Dialect) (q : Query) :
    q.fault? d = q.requirements.findSome? Requirement.fault? :=
  (fault?_induction d).query q

theorem Query.fault?_eq_none_iff {d : Dialect} {q : Query} :
    q.fault? d = none ↔ ∀ r ∈ q.requirements, r.Met := by
  rw [fault?_eq_findSome?, List.findSome?_eq_none_iff]
  exact forall₂_congr fun r _ => Requirement.fault?_eq_none_iff

theorem Query.fault?_eq_some_iff {d : Dialect} {q : Query} {fault : Fault} :
    q.fault? d = some fault ↔
      ∃ before r after, q.requirements = before ++ r :: after ∧ (∀ p ∈ before, p.Met) ∧
        ¬ r.Met ∧ r.fault? = some fault := by
  rw [fault?_eq_findSome?, List.findSome?_eq_some_iff]
  constructor
  · rintro ⟨before, r, after, shape, reported, earlier⟩
    refine ⟨before, r, after, shape, fun p member => ?_, ?_, reported⟩
    · exact Requirement.fault?_eq_none_iff.mp (earlier p member)
    · intro met
      rw [Requirement.fault?_eq_none_iff.mpr met] at reported
      cases reported
  · rintro ⟨before, r, after, shape, earlier, _, reported⟩
    refine ⟨before, r, after, shape, reported, fun p member => ?_⟩
    exact Requirement.fault?_eq_none_iff.mpr (earlier p member)

/-- The fault of an inner query comes before the missing source of the outer one. -/
example : Query.fault? .mysql
    { columns := [.subquery
        { source := some { table := .raw "t" }
          joins := [.matching .left (.raw "u") (.group .and [])] }] } =
    some (.unmatchedJoin .left "u") := by decide +kernel

end SqlSelect
