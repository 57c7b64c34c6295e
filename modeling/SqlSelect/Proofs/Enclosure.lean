import Mathlib.Data.List.Infix

/-!
# Enclosures

An enclosure is a row of elements with two of them chosen, an opening and a closing one, and
the part of the row between them. Enclosures of one row are listed in the order of their
opening elements, so that no two of them are the same. Such lists are put together as the
rows are: side by side, or with a further pair around all of them.
-/

namespace SqlSelect

/-- A row cut at an opening and a closing element, which stand around a part of it. -/
structure Enclosure (α : Type) where
  before : List α
  inner : List α
  behind : List α

namespace Enclosure

variable {α β : Type} {opening closing : α}

/-- The whole row. -/
def row (opening closing : α) (e : Enclosure α) : List α :=
  e.before ++ opening :: (e.inner ++ closing :: e.behind)

/-- The opening element of one enclosure stands before that of another one. -/
def OpensBefore (e f : Enclosure α) : Prop :=
  e.before.length < f.before.length

/-- The same enclosure in a longer row. -/
def within (left right : List α) (e : Enclosure α) : Enclosure α where
  before := left ++ e.before
  inner := e.inner
  behind := e.behind ++ right

/-- The enclosure with a text for each element. -/
def flatMap (f : α → List β) (e : Enclosure α) : Enclosure β where
  before := e.before.flatMap f
  inner := e.inner.flatMap f
  behind := e.behind.flatMap f

theorem row_within (left right : List α) (e : Enclosure α) :
    (e.within left right).row opening closing = left ++ e.row opening closing ++ right := by
  simp [row, within]

theorem row_flatMap {f : α → List β} {o c : β} (opens : f opening = [o])
    (closes : f closing = [c]) (e : Enclosure α) :
    (e.flatMap f).row o c = (e.row opening closing).flatMap f := by
  simp [row, flatMap, opens, closes]

theorem prefix_before (e : Enclosure α) : e.before <+: e.row opening closing :=
  List.prefix_append _ _

theorem prefix_opening (e : Enclosure α) :
    e.before ++ [opening] <+: e.row opening closing := by
  refine ⟨e.inner ++ closing :: e.behind, ?_⟩
  rw [List.append_assoc]
  rfl

theorem prefix_inner (e : Enclosure α) :
    e.before ++ opening :: e.inner <+: e.row opening closing := by
  refine ⟨closing :: e.behind, ?_⟩
  rw [List.append_assoc]
  rfl

theorem OpensBefore.within {e f : Enclosure α} (order : e.OpensBefore f)
    (left right : List α) : (e.within left right).OpensBefore (f.within left right) := by
  unfold OpensBefore Enclosure.within
  rw [List.length_append, List.length_append]
  exact Nat.add_lt_add_left order _

/-- The order of the openings stays if each element becomes a text. -/
theorem OpensBefore.flatMap {f : α → List β} {o : β} (opens : f opening = [o])
    {e g : Enclosure α} (same : e.row opening closing = g.row opening closing)
    (order : e.OpensBefore g) : (e.flatMap f).OpensBefore (g.flatMap f) := by
  have inRow : e.before ++ [opening] <+: g.row opening closing := by
    rw [← same]
    exact e.prefix_opening
  have opened : e.before ++ [opening] <+: g.before := by
    apply List.prefix_of_prefix_length_le inRow g.prefix_before
    rw [List.length_append]
    exact order
  have longer := (opened.flatMap f).length_le
  rw [List.flatMap_append, List.flatMap_singleton, opens, List.length_append] at longer
  exact longer

/-- The enclosures stand around the parts of a row, in the order of their openings. -/
structure Surround (opening closing : α) (whole : List α) (parts : List (List α))
    (es : List (Enclosure α)) : Prop where
  rows : ∀ e ∈ es, e.row opening closing = whole
  inners : es.map inner = parts
  order : es.Pairwise OpensBefore

namespace Surround

variable {l m : List α} {parts others : List (List α)} {es fs : List (Enclosure α)}

theorem nil (l : List α) : Surround opening closing l [] [] where
  rows e member := by
    cases member
  inners := rfl
  order := List.Pairwise.nil

theorem within (h : Surround opening closing l parts es) (left right : List α) :
    Surround opening closing (left ++ l ++ right) parts
      (es.map (Enclosure.within left right)) where
  rows e member := by
    obtain ⟨e, inEs, rfl⟩ := List.mem_map.mp member
    rw [row_within, h.rows e inEs]
  inners := by
    rw [List.map_map]
    exact h.inners
  order := by
    rw [List.pairwise_map]
    exact h.order.imp fun order => order.within left right

/-- What opens in the first row opens before all that opens in the second one. -/
theorem append (h : Surround opening closing l parts es)
    (k : Surround opening closing m others fs) :
    Surround opening closing (l ++ m) (parts ++ others)
      (es.map (Enclosure.within [] m) ++ fs.map (Enclosure.within l [])) := by
  have first := h.within [] m
  have second := k.within l []
  rw [List.append_nil] at second
  constructor
  · intro e member
    obtain inFirst | inSecond := List.mem_append.mp member
    · exact first.rows e inFirst
    · exact second.rows e inSecond
  · rw [List.map_append, first.inners, second.inners]
  · rw [List.pairwise_append]
    refine ⟨first.order, second.order, ?_⟩
    intro e inFirst f inSecond
    obtain ⟨e, inEs, rfl⟩ := List.mem_map.mp inFirst
    obtain ⟨f, inFs, rfl⟩ := List.mem_map.mp inSecond
    have fits : e.before.length < l.length := by
      rw [← h.rows e inEs, row, List.length_append]
      exact Nat.lt_add_of_pos_right (Nat.succ_pos _)
    unfold OpensBefore Enclosure.within
    rw [List.nil_append, List.length_append]
    exact Nat.lt_add_right _ fits

/-- The outermost pair opens first. -/
theorem enclose (h : Surround opening closing l parts es) :
    Surround opening closing (opening :: (l ++ [closing])) (l :: parts)
      (⟨[], l, []⟩ :: es.map (Enclosure.within [opening] [closing])) := by
  have inside := h.within [opening] [closing]
  constructor
  · exact List.forall_mem_cons.mpr ⟨rfl, inside.rows⟩
  · rw [List.map_cons, inside.inners]
  · apply List.pairwise_cons.mpr
    refine ⟨?_, inside.order⟩
    intro e member
    obtain ⟨e, _, rfl⟩ := List.mem_map.mp member
    exact Nat.succ_pos _

theorem flatMap (h : Surround opening closing l parts es) {f : α → List β} {o c : β}
    (opens : f opening = [o]) (closes : f closing = [c]) :
    Surround o c (l.flatMap f) (parts.map (List.flatMap f))
      (es.map (Enclosure.flatMap f)) where
  rows e member := by
    obtain ⟨e, inEs, rfl⟩ := List.mem_map.mp member
    rw [row_flatMap opens closes, h.rows e inEs]
  inners := by
    rw [← h.inners, List.map_map, List.map_map]
    rfl
  order := by
    rw [List.pairwise_map]
    apply h.order.imp_of_mem
    intro e g inEs alsoInEs order
    have same := (h.rows e inEs).trans (h.rows g alsoInEs).symm
    exact order.flatMap opens same

end Surround

end Enclosure

end SqlSelect
