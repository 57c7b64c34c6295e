import SqlSelect.Proofs.EmptyConditions

/-!
# Conditions behind other conditions

Conditions that are added to other ones are written behind them. What stands between the two is
the connective of the first added condition that asks for something, and nothing stands between
them if the conditions on one side ask for nothing. What criteria collect is added as one group,
which is written in parentheses, or not at all.

## Implementation notes

Conditions that ask for nothing are left out before any connective is written. So the law is that
of rows in which every text is written, each but the first behind its connective.
-/

namespace SqlSelect

/-- The connective of the first text of a row is written if another row stands before it. -/
theorem Rendering.chained_append {xs : List (Connective × Rendering)} (nonempty : xs ≠ [])
    (k : Connective) (r : Rendering) (ys : List (Connective × Rendering)) :
    chained (xs ++ (k, r) :: ys) =
      chained xs ++ Query.connectiveText k ++ chained ((k, r) :: ys) := by
  have gap : ((" " : Rendering) ++ k.sql ++ " ") = Query.connectiveText k :=
    Rendering.ext (Query.connectiveText_eq k).symm rfl
  induction xs with
  | nil => exact absurd rfl nonempty
  | cons x xs ih =>
      cases xs with
      | nil => rw [← gap]; rfl
      | cons y xs =>
          have rest := ih (List.cons_ne_nil y xs)
          rw [List.cons_append] at rest
          rw [List.cons_append, List.cons_append, chained, rest, chained]
          simp only [append_assoc]

namespace Condition

/-- The connective of the first condition that asks for something, if there is one. -/
def leading? (cs : List Condition) : Option Connective :=
  (cs.find? (!·.isEmpty)).map connective

theorem leading?_eq_none_iff_areEmpty {cs : List Condition} :
    leading? cs = none ↔ areEmpty cs = true := by
  rw [leading?, Option.map_eq_none_iff, List.find?_eq_none, areEmpty_eq_all, List.all_eq_true]
  simp

theorem areEmpty_eq_false_of_leading? {cs : List Condition} {k : Connective}
    (leads : leading? cs = some k) : areEmpty cs = false := by
  rw [← Bool.not_eq_true, ← leading?_eq_none_iff_areEmpty, leads]
  exact Option.some_ne_none k

/-- No condition leads exactly if no comparison stands in any of them. -/
theorem leading?_eq_none_iff {cs : List Condition} :
    leading? cs = none ↔
      ∀ c ∈ cs, ∀ field comparison operand, ¬ c.Contains field comparison operand := by
  rw [leading?_eq_none_iff_areEmpty, areEmpty_eq_all, List.all_eq_true]
  exact forall₂_congr fun c _ => isEmpty_iff_forall_not_contains

/-- The condition that leads has a comparison, and no condition before it has. -/
theorem leading?_eq_some_iff {cs : List Condition} {k : Connective} :
    leading? cs = some k ↔
      ∃ passed first rest, cs = passed ++ first :: rest ∧ leading? passed = none ∧
        (∃ field comparison operand, first.Contains field comparison operand) ∧
        first.connective = k := by
  rw [leading?, Option.map_eq_some_iff]
  simp only [List.find?_eq_some_iff_append, ← isEmpty_eq_false_iff, leading?_eq_none_iff_areEmpty,
    areEmpty_eq_all, List.all_eq_true, Bool.not_eq_true', Bool.not_not]
  constructor
  · rintro ⟨first, ⟨asks, passed, rest, shape, before⟩, own⟩
    exact ⟨passed, first, rest, shape, before, asks, own⟩
  · rintro ⟨passed, first, rest, shape, before, asks, own⟩
    exact ⟨first, ⟨asks, passed, rest, shape, before⟩, own⟩

theorem renderSiblings_append (d : Dialect) (cs ds : List Condition) :
    renderSiblings d (cs ++ ds) = renderSiblings d cs ++ renderSiblings d ds := by
  simp only [renderSiblings_eq_map, List.filter_append, List.map_append]

/-- The row that is written begins with the condition that leads. -/
theorem head?_renderSiblings (d : Dialect) (cs : List Condition) :
    (renderSiblings d cs).head?.map Prod.fst = leading? cs := by
  rw [renderSiblings_eq_map, List.head?_map, List.head?_filter, Option.map_map, leading?]
  rfl

theorem renderSiblings_eq_nil_iff {d : Dialect} {cs : List Condition} :
    renderSiblings d cs = [] ↔ leading? cs = none := by
  rw [← head?_renderSiblings d, Option.map_eq_none_iff, List.head?_eq_none_iff]

theorem renderAll_append (d : Dialect) (cs ds : List Condition) :
    renderAll d (cs ++ ds) =
      match leading? cs, leading? ds with
      | _, none => renderAll d cs
      | none, some _ => renderAll d ds
      | some _, some .and => renderAll d cs ++ " AND " ++ renderAll d ds
      | some _, some .or => renderAll d cs ++ " OR " ++ renderAll d ds := by
  rw [renderAll, renderSiblings_append]
  cases after : leading? ds with
  | none =>
      rw [renderSiblings_eq_nil_iff.mpr after, List.append_nil]
      rfl
  | some k =>
      cases before : leading? cs with
      | none =>
          rw [renderSiblings_eq_nil_iff.mpr before]
          rfl
      | some _ =>
          have nonempty : renderSiblings d cs ≠ [] := by
            rw [Ne, renderSiblings_eq_nil_iff, before]
            exact Option.some_ne_none _
          rw [← head?_renderSiblings d] at after
          obtain ⟨⟨own, r⟩, first, rfl⟩ := Option.map_eq_some_iff.mp after
          obtain ⟨ys, row⟩ := List.head?_eq_some_iff.mp first
          simp only [renderAll, row]
          rw [Rendering.chained_append nonempty]
          cases own <;> rfl

/-- A group leads with its own connective, unless the conditions in it ask for nothing. -/
theorem leading?_nested (k : Connective) (criteria : List Criterion) :
    leading? (Criterion.nested k criteria).conditions =
      (leading? (Criterion.collect criteria)).map fun _ => k := by
  rw [Criterion.conditions, grouped?]
  cases inner : leading? (Criterion.collect criteria) with
  | none =>
      rw [if_pos (leading?_eq_none_iff_areEmpty.mp inner)]
      rfl
  | some first =>
      have asks := areEmpty_eq_false_of_leading? inner
      rw [asks]
      simp [leading?, connective, asks]

theorem renderAll_nested (d : Dialect) (k : Connective) {criteria : List Criterion}
    {first : Connective} (asks : leading? (Criterion.collect criteria) = some first) :
    renderAll d (Criterion.nested k criteria).conditions =
      "(" ++ renderAll d (Criterion.collect criteria) ++ ")" := by
  have notEmpty := areEmpty_eq_false_of_leading? asks
  have group : (Criterion.nested k criteria).conditions =
      [.group k (Criterion.collect criteria)] := by
    simp [Criterion.conditions, grouped?, notEmpty]
  rw [group, renderAll, renderSiblings_eq_map]
  simp [Rendering.chained, Rendering.parenthesized, render, notEmpty, renderAll]

/-- Conditions are written behind other ones with the connective of the first one between them that
has a comparison; where one side has no comparison, the other side is written alone. Conditions
that were collected come behind others as one group in parentheses with its own connective. -/
theorem appending_is_homomorphic (d : Dialect) :
    (∀ cs : List Condition,
      (leading? cs = none ↔
        ∀ c ∈ cs, ∀ field comparison operand, ¬ c.Contains field comparison operand) ∧
      ∀ k, leading? cs = some k ↔
        ∃ passed first rest, cs = passed ++ first :: rest ∧ leading? passed = none ∧
          (∃ field comparison operand, first.Contains field comparison operand) ∧
          first.connective = k) ∧
    (∀ cs ds : List Condition,
      renderAll d (cs ++ ds) =
        match leading? cs, leading? ds with
        | _, none => renderAll d cs
        | none, some _ => renderAll d ds
        | some _, some .and => renderAll d cs ++ " AND " ++ renderAll d ds
        | some _, some .or => renderAll d cs ++ " OR " ++ renderAll d ds) ∧
    ∀ (before criteria : List Criterion) (k : Connective),
      renderAll d (Criterion.collect (before ++ [.nested k criteria])) =
        match leading? (Criterion.collect before), leading? (Criterion.collect criteria), k with
        | _, none, _ => renderAll d (Criterion.collect before)
        | none, some _, _ => "(" ++ renderAll d (Criterion.collect criteria) ++ ")"
        | some _, some _, .and =>
          renderAll d (Criterion.collect before) ++ " AND " ++
            ("(" ++ renderAll d (Criterion.collect criteria) ++ ")")
        | some _, some _, .or =>
          renderAll d (Criterion.collect before) ++ " OR " ++
            ("(" ++ renderAll d (Criterion.collect criteria) ++ ")") := by
  refine ⟨fun cs => ⟨leading?_eq_none_iff, fun k => leading?_eq_some_iff⟩, renderAll_append d,
    fun before criteria k => ?_⟩
  have last : Criterion.collect (before ++ [.nested k criteria]) =
      Criterion.collect before ++ (Criterion.nested k criteria).conditions := by simp
  rw [last, renderAll_append, leading?_nested]
  cases asks : leading? (Criterion.collect criteria) with
  | none => rfl
  | some first =>
      cases leading? (Criterion.collect before) with
      | none => exact renderAll_nested d k asks
      | some _ =>
          rw [Option.map_some, renderAll_nested d k asks]
          cases k <;> rfl

/-- Conditions that ask for nothing leave no trace on either side. -/
example :
    (renderAll .sqlite
      ([.group .or [], .columns (.raw "a") .equal "b", .group .and [.group .or []]] ++
        [.group .and [], (Condition.columns (.raw "c") .less "d").withConnective .or])).text =
      "a = b OR c < d" := by
  decide +kernel

end Condition

end SqlSelect
