import SqlSelect.Proofs.FirstFault
import SqlSelect.Proofs.Warnings

/-!
# An accepted query is written without a stand-in

A value without a literal is written as a null, with a warning. A check asks for a literal of
every value that is written, so a query that is accepted in one dialect is written without a
warning in every dialect.

The converse fails: a check also looks at values that are not written.
-/

namespace SqlSelect

/-- Each value among the parts is among the literals that are asked for. -/
def Covered (parts : List Piece) (asked : List Requirement) : Prop :=
  ∀ supply, .slot supply ∈ parts → .literal supply ∈ asked

namespace Covered

variable {parts others : List Piece} {asked more : List Requirement}

theorem mono (covered : Covered parts asked) (kept : asked ⊆ more) : Covered parts more :=
  fun supply written => kept (covered supply written)

theorem append (first : Covered parts asked) (second : Covered others asked) :
    Covered (parts ++ others) asked := by
  intro supply written
  rcases List.mem_append.mp written with inFirst | inSecond
  · exact first supply inFirst
  · exact second supply inSecond

theorem flatMap {α : Type} {xs : List α} {partsOf : α → List Piece}
    {askedOf : α → List Requirement} (each : ∀ x ∈ xs, Covered (partsOf x) (askedOf x)) :
    Covered (xs.flatMap partsOf) (xs.flatMap askedOf) := by
  intro supply written
  obtain ⟨x, member, inPart⟩ := List.mem_flatMap.mp written
  exact List.mem_flatMap.mpr ⟨x, member, each x member supply inPart⟩

/-- What covers the members of a list is covered by a list that holds it for each of them. -/
theorem members {α : Type} {xs : List α} {partsOf : α → List Piece}
    {askedOf : α → List Requirement} (each : ∀ x ∈ xs, Covered (partsOf x) (askedOf x))
    (kept : ∀ x ∈ xs, ∀ r ∈ askedOf x, r ∈ asked) : Covered (xs.flatMap partsOf) asked := by
  apply (Covered.flatMap each).mono
  intro r member
  obtain ⟨x, inList, asksFor⟩ := List.mem_flatMap.mp member
  exact kept x inList r asksFor

theorem slot (supply : Except String Value) : Covered [.slot supply] [.literal supply] := by
  intro other written
  cases List.mem_singleton.mp written
  exact List.mem_singleton_self _

/-- Nothing is asked of texts that are written as they stand. -/
theorem fragments {α : Type} (text : α → String) (xs : List α) :
    Covered (xs.map fun x => .fragment (text x)) asked := by
  intro supply written
  obtain ⟨x, _, same⟩ := List.mem_map.mp written
  cases same

theorem named (covered : Covered parts asked) (name : Option String) :
    Covered (parts ++ name.toList.map .fragment) asked :=
  covered.append (fragments id name.toList)

end Covered

theorem Expr.requirements_subset_joinRequirements (e : Expr) :
    e.requirements ⊆ e.joinRequirements := by
  intro r asked
  obtain ⟨q, rfl, ofQuery⟩ := mem_requirements.mp asked
  exact mem_joinRequirements.mpr ⟨q, rfl, .inr ofQuery⟩

theorem Query.covered_sourceParts {source : Option (Source Expr)}
    (inner : ∀ (r : Query) name, source = some ⟨.subquery r, name⟩ →
      Covered r.bodyParts r.requirements) :
    Covered (sourceParts source) (sourceRequirements source) := by
  cases source using source_cases with
  | absent =>
      rw [sourceParts]
      exact Covered.fragments id []
  | raw text name =>
      rw [sourceParts]
      exact (Covered.fragments id [text]).named name
  | subquery r name =>
      rw [sourceParts, sourceRequirements]
      have ofQuery := inner r name rfl
      exact (ofQuery.mono (List.subset_cons_self _ _)).named _

/-- Every value that is written is checked. -/
theorem Query.covered_induction :
    Query.Induction (fun e => Covered e.parts e.requirements)
      (fun a => Covered a.parts a.requirements) (fun c => Covered c.parts c.requirements)
      (fun j => Covered j.parts j.requirements)
      (fun q => Covered q.bodyParts q.requirements) where
  raw_expr text := by
    rw [Expr.parts]
    exact Covered.fragments id [text]
  subquery_expr q ih := by
    rw [Expr.parts, Expr.requirements]
    exact ih.named q.name
  value v := by
    rw [Operand.parts, Operand.requirements]
    exact Covered.slot _
  deferred supply := by
    rw [Operand.parts, Operand.requirements]
    exact Covered.slot _
  raw_operand text := by
    rw [Operand.parts]
    exact Covered.fragments id [text]
  list items ih := by
    rw [Operand.parts, Operand.requirements]
    exact Covered.flatMap ih
  subquery_operand q ih := by
    rw [Operand.parts, Operand.requirements]
    exact ih.named q.name
  test c field comparison operand fieldIh operandIh := by
    rw [Condition.parts, Condition.requirements]
    split
    · exact Covered.fragments id []
    · split
      · exact fieldIh.mono (List.subset_append_left _ _)
      · apply Covered.append
        · exact fieldIh.mono (List.subset_append_left _ _)
        · apply operandIh.mono
          exact List.Subset.trans (List.subset_cons_self _ _) (List.subset_append_right _ _)
  group c children ih := by
    rw [Condition.parts, Condition.requirements_group]
    exact Covered.flatMap ih
  product table ih := by
    rw [Join.parts, Join.requirements]
    exact ih.mono table.requirements_subset_joinRequirements
  matching kind table on tableIh onIh := by
    rw [Join.parts, Join.requirements]
    apply Covered.append
    · apply tableIh.mono
      exact List.Subset.trans table.requirements_subset_joinRequirements
        (List.subset_append_left _ _)
    · apply onIh.mono
      exact List.Subset.trans (List.subset_cons_self _ _) (List.subset_append_right _ _)
  clauses q columns source joins filters havings := by
    rw [bodyParts_eq]
    -- The parts are nested to the left, so the last clause comes off first.
    refine Covered.append (Covered.append (Covered.append (Covered.append (Covered.append
      (Covered.append ?columns ?source) ?joins) ?filters) ?groupKeys) ?havings) ?orderKeys
    case columns =>
      apply Covered.members columns
      exact fun e inColumns r asked => mem_requirements.mpr (.column inColumns asked)
    case source =>
      apply (covered_sourceParts source).mono
      intro r member
      exact mem_requirements.mpr (.sourceTable member)
    case joins =>
      apply Covered.members joins
      exact fun j inJoins r asked => mem_requirements.mpr (.join inJoins asked)
    case filters =>
      apply Covered.members filters
      exact fun c inFilters r asked => mem_requirements.mpr (.filter inFilters asked)
    case havings =>
      apply Covered.members havings
      exact fun c inHavings r asked => mem_requirements.mpr (.having inHavings asked)
    case groupKeys => exact Covered.fragments id q.groupKeys
    case orderKeys => exact Covered.fragments Prod.fst q.orderKeys

theorem Query.covered_parts (q : Query) : Covered q.parts q.requirements :=
  (covered_induction.query q).named q.name

/-- A value with a literal needs no warning. -/
theorem Requirement.ofSupply?_eq_none {supply : Except String Value}
    (met : (Requirement.literal supply).Met) (d : Dialect) :
    Warning.ofSupply? d supply = none := by
  obtain ⟨v, rfl, written⟩ := met
  obtain ⟨text, literal⟩ := written d
  simp only [Warning.ofSupply?_eq, Value.suppliedLiteral, literal]

namespace Query

/-- A query that is accepted in one dialect is written without a warning in any other. -/
theorem warnings_render {d : Dialect} {q : Query} (accepted : q.fault? d = none)
    (other : Dialect) : (q.render other).warnings = [] := by
  rw [warnings_render_eq_supplies, List.filterMap_eq_nil_iff]
  intro supply written
  obtain ⟨p, inParts, given⟩ := List.mem_filterMap.mp written
  obtain rfl := Piece.supply?_eq_some_iff.mp given
  have met := fault?_eq_none_iff.mp accepted _ (covered_parts q supply inParts)
  exact Requirement.ofSupply?_eq_none met other

theorem events_sqlIn {d : Dialect} {q : Query} (accepted : q.fault? d = none)
    (other : Dialect) : (q.sqlIn other).events = [.rendered other (q.sqlIn other).value] := by
  rw [sqlIn, warnings_render accepted other]
  rfl

theorem checkedSql_of_no_fault {sessionDefault : Dialect} {q : Query}
    (accepted : q.fault? (q.dialect sessionDefault) = none) :
    q.checkedSql sessionDefault =
      { value := .ok (q.sql sessionDefault).value
        events := [.rendered (q.dialect sessionDefault) (q.sql sessionDefault).value] } := by
  have own := events_sqlIn accepted (q.dialect sessionDefault)
  rw [checkedSql, check_of_no_fault accepted]
  exact congrArg (Traced.mk _) own

theorem checkedSql_of_fault? {sessionDefault : Dialect} {q : Query} {fault : Fault}
    (found : q.fault? (q.dialect sessionDefault) = some fault) :
    q.checkedSql sessionDefault =
      { value := .error fault, events := [.rejected fault (q.dialect sessionDefault)] } := by
  rw [checkedSql, check_of_fault? found]

/-- An accepted query is written without a null for a missing literal, in every dialect. A
checked text is the text of the query, given exactly if the query is accepted and with no
event but its own; otherwise the fault is given, with no event but the rejection. -/
theorem accepted_needs_no_null (sessionDefault : Dialect) (q : Query) :
    ((q.check sessionDefault).value = .ok () →
      ∀ d, (q.sqlIn d).events = [.rendered d (q.sqlIn d).value] ∧
        (q.sqlIn d).events.map Event.entry =
          [{ level := "TRACE"
             message := "select rendered"
             details := [("flavor", d.name), ("sql", (q.sqlIn d).value)] }]) ∧
    (∀ text, (q.checkedSql sessionDefault).value = .ok text ↔
      (q.check sessionDefault).value = .ok () ∧ text = (q.sql sessionDefault).value) ∧
    (∀ text, (q.checkedSql sessionDefault).value = .ok text →
      (q.checkedSql sessionDefault).events = [.rendered (q.dialect sessionDefault) text] ∧
        (q.checkedSql sessionDefault).events.map Event.entry =
          [{ level := "TRACE"
             message := "select rendered"
             details := [("flavor", (q.dialect sessionDefault).name), ("sql", text)] }]) ∧
    (∀ fault, (q.checkedSql sessionDefault).value = .error fault ↔
      (q.check sessionDefault).value = .error fault) ∧
    (∀ fault, (q.checkedSql sessionDefault).value = .error fault →
      (q.checkedSql sessionDefault).events = [.rejected fault (q.dialect sessionDefault)] ∧
        (q.checkedSql sessionDefault).events.map Event.entry =
          [{ level := "DEBUG"
             message := "select rejected by validation"
             details :=
               [("error", fault.message), ("flavor", (q.dialect sessionDefault).name)] }]) := by
  cases found : q.fault? (q.dialect sessionDefault) with
  | none =>
      rw [checkedSql_of_no_fault found, check_of_no_fault found]
      refine ⟨fun _ d => ?_, fun text => ?_, fun text given => ?_, fun fault => ?_,
        fun fault given => nomatch given⟩
      · have own := events_sqlIn found d
        exact ⟨own, by rw [own]; rfl⟩
      · constructor
        · rintro ⟨⟩
          exact ⟨rfl, rfl⟩
        · rintro ⟨_, rfl⟩
          rfl
      · cases given
        exact ⟨rfl, rfl⟩
      · constructor <;> exact fun given => nomatch given
  | some first =>
      rw [checkedSql_of_fault? found, check_of_fault? found]
      refine ⟨fun given => (nomatch given), fun text => ?_, fun text given => (nomatch given),
        fun fault => ?_, fun fault given => ?_⟩
      · constructor
        · exact fun given => nomatch given
        · exact fun given => nomatch given.1
      · constructor
        · rintro ⟨⟩
          rfl
        · rintro ⟨⟩
          rfl
      · cases given
        exact ⟨rfl, rfl⟩

/-- A query with an inner one among its columns and values behind a join. -/
def report : Query where
  columns := [.subquery { columns := [.raw "b"], source := some { table := .raw "u" } }]
  source := some { table := .raw "t" }
  joins := [.matching .left (.raw "v") <| .test .and (.raw "c") .between <|
    .list [.value (.bool false), .deferred (.ok (.text "z"))]]

theorem accepted_needs_no_null_report :
    (report.check .mysql).value = .ok () ∧
      (report.sqlIn .oracle).events.map Event.entry =
        [{ level := "TRACE"
           message := "select rendered"
           details :=
             [("flavor", "Oracle"),
               ("sql", "SELECT (SELECT b FROM u) FROM t LEFT JOIN v ON c BETWEEN 0 AND 'z'")] }] ∧
      (Query.checkedSql .sqlite {}).value = .error .noSource ∧
      (Query.checkedSql .sqlite {}).events.map Event.entry =
        [{ level := "DEBUG"
           message := "select rejected by validation"
           details := [("error", "query has no FROM table"), ("flavor", "SQLite")] }] := by
  have accepted : (report.check .mysql).value = .ok () := rfl
  have rejected : (Query.checkedSql .sqlite {}).value = .error .noSource := rfl
  have text : (report.sqlIn .oracle).value =
      "SELECT (SELECT b FROM u) FROM t LEFT JOIN v ON c BETWEEN 0 AND 'z'" := by
    decide +kernel
  refine ⟨accepted, ?_, rejected, ?_⟩
  · rw [← text]
    exact ((accepted_needs_no_null .mysql report).1 accepted .oracle).2
  · exact ((accepted_needs_no_null .sqlite {}).2.2.2.2 .noSource rejected).2

end Query

end SqlSelect
