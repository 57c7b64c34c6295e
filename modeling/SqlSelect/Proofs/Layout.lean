import SqlSelect.Query.Rendering
import SqlSelect.Proofs.Induction

/-!
# The layout of a query

A layout is a statement before a dialect is chosen: a row of pieces, each a text that
stands as it is or the place of a value. It is laid out without looking at any dialect.
Filling the places in a dialect gives the text of the query in that dialect, and the
warnings as well.

## Implementation notes

Keywords are the texts that the library writes by itself, fragments those that a caller
gave. Both stand as they are; they are kept apart because only keywords are known not to be
empty and not to contain a quote.
-/

namespace SqlSelect

/-- A piece of a statement without a dialect. -/
inductive Piece where
  | keyword (text : String)
  | fragment (text : String)
  /-- The place of a value, or of the reason why there is none. -/
  | slot (supply : Except String Value)

/-- The pieces of a statement in order. -/
abbrev Layout := List Piece

namespace Piece

/-- A piece in a dialect; only the place of a value depends on it. -/
def render (d : Dialect) : Piece → Rendering
  | keyword text => text
  | fragment text => text
  | slot supply => .ofSupply d supply

@[simp] theorem render_keyword (d : Dialect) (text : String) :
    (keyword text).render d = { text } := rfl

@[simp] theorem render_fragment (d : Dialect) (text : String) :
    (fragment text).render d = { text } := rfl

@[simp] theorem render_slot (d : Dialect) (supply : Except String Value) :
    (slot supply).render d = .ofSupply d supply := rfl

def isKeyword : Piece → Bool
  | keyword _ => true
  | fragment _ | slot _ => false

def fragment? : Piece → Option String
  | fragment text => some text
  | keyword _ | slot _ => none

def supply? : Piece → Option (Except String Value)
  | slot supply => some supply
  | keyword _ | fragment _ => none

theorem supply?_eq_some_iff {p : Piece} {supply : Except String Value} :
    p.supply? = some supply ↔ p = slot supply := by
  cases p <;> simp [supply?]

end Piece

namespace Layout

/-- The statement in a dialect. -/
def fill (d : Dialect) : Layout → Rendering
  | [] => ∅
  | p :: l => p.render d ++ fill d l

@[simp] theorem fill_nil (d : Dialect) : fill d [] = ∅ := rfl

@[simp] theorem fill_cons (d : Dialect) (p : Piece) (l : Layout) :
    fill d (p :: l) = p.render d ++ fill d l := rfl

@[simp] theorem fill_append (d : Dialect) (l m : Layout) :
    fill d (l ++ m) = fill d l ++ fill d m := by
  induction l with
  | nil => simp
  | cons p l ih => simp [ih, Rendering.append_assoc]

/-- The layouts in order, with a keyword between any two. -/
def separated (separator : String) : List Layout → Layout
  | [] => []
  | [l] => l
  | l :: m :: rest => l ++ .keyword separator :: separated separator (m :: rest)

@[simp] theorem fill_separated (d : Dialect) (separator : String) (ls : List Layout) :
    fill d (separated separator ls) = .separated separator (ls.map (fill d)) := by
  induction ls with
  | nil => rfl
  | cons l rest ih =>
      cases rest with
      | nil => rfl
      | cons m rest =>
          simp only [separated, fill_append, fill_cons, ih, List.map_cons,
            Rendering.separated, Rendering.append_assoc]
          rfl

/-- The layouts in order, each but the first behind its connective. -/
def chained : List (Connective × Layout) → Layout
  | [] => []
  | [(_, l)] => l
  | (_, l) :: (c, m) :: rest =>
      l ++ .keyword " " :: .keyword c.sql :: .keyword " " :: chained ((c, m) :: rest)

@[simp] theorem fill_chained (d : Dialect) (ls : List (Connective × Layout)) :
    fill d (chained ls) = .chained (ls.map fun p => (p.1, fill d p.2)) := by
  induction ls with
  | nil => rfl
  | cons l rest ih =>
      cases rest with
      | nil => rfl
      | cons m rest =>
          simp only [chained, fill_append, fill_cons, ih, List.map_cons,
            Rendering.chained, Rendering.append_assoc]
          rfl

/-- In parentheses. -/
def parenthesized (l : Layout) : Layout :=
  .keyword "(" :: (l ++ [.keyword ")"])

@[simp] theorem fill_parenthesized (d : Dialect) (l : Layout) :
    fill d l.parenthesized = (fill d l).parenthesized := by
  simp [parenthesized, Rendering.parenthesized, Rendering.append_assoc]

/-- With a name, if there is one. -/
def named (name : Option String) (l : Layout) : Layout :=
  match name with
  | none => l
  | some name => l ++ [.keyword " AS ", .fragment name]

@[simp] theorem fill_named (d : Dialect) (name : Option String) (l : Layout) :
    fill d (l.named name) = (fill d l).named name := by
  cases name with
  | none => rfl
  | some name => simp [named, Rendering.named, Rendering.append_assoc]

end Layout

namespace RightSide

/-- Another text in the same form. -/
def map {Text Other : Type} (f : Text → Other) : RightSide Text → RightSide Other
  | scalar text => .scalar (f text)
  | items texts => .items (texts.map f)
  | nested text => .nested (f text)

@[simp] theorem map_scalar {Text Other : Type} (f : Text → Other) (text : Text) :
    (scalar text).map f = scalar (f text) := rfl

@[simp] theorem map_items {Text Other : Type} (f : Text → Other) (texts : List Text) :
    (items texts).map f = items (texts.map f) := rfl

@[simp] theorem map_nested {Text Other : Type} (f : Text → Other) (text : Text) :
    (nested text).map f = nested (f text) := rfl

/-- The operand by itself, as a layout. -/
def layout : RightSide Layout → Layout
  | scalar l => l
  | items ls => (Layout.separated ", " ls).parenthesized
  | nested l => l

/-- The operand is a list without items. -/
def isEmpty {Text : Type} : RightSide Text → Bool
  | items [] => true
  | _ => false

@[simp] theorem fill_layout (d : Dialect) (r : RightSide Layout) :
    Layout.fill d r.layout = (r.map (Layout.fill d)).whole := by
  cases r <;> simp [layout, whole]

end RightSide

namespace Comparison

/-- What stands to the right of a comparison that has an operand. -/
def operandLayout (c : Comparison) : RightSide Layout → Layout
  | .items ls =>
    if c.isRange then Layout.separated " AND " ls else (RightSide.items ls).layout
  | .nested l => l
  | .scalar l => if c.isMembership then l.parenthesized else l

/-- The layout of a comparison of a field with an operand. -/
def layout (c : Comparison) (field : Layout) (r : RightSide Layout) : Layout :=
  if c.isMembership && r.isEmpty then [.keyword c.onEmptySet]
  else
    field ++ .keyword " " :: .keyword c.sql ::
      if c.isNullCheck then [] else .keyword " " :: c.operandLayout r

@[simp] theorem fill_layout (d : Dialect) (c : Comparison) (field : Layout)
    (r : RightSide Layout) :
    Layout.fill d (c.layout field r) = c.phrase (Layout.fill d field) (r.map (Layout.fill d)) := by
  have ofArity : c.isMembership = (c.arity == .many) ∧ c.isNullCheck = (c.arity == .none) ∧
      c.isRange = (c.arity == .two) := ⟨rfl, rfl, rfl⟩
  cases r with
  | scalar l =>
      cases arity : c.arity <;>
        simp [layout, phrase, operandLayout, ofArity, arity, RightSide.isEmpty,
          Rendering.append_assoc]
  | nested l =>
      cases arity : c.arity <;>
        simp [layout, phrase, operandLayout, ofArity, arity, RightSide.isEmpty,
          Rendering.append_assoc]
  | items ls =>
      cases ls <;> cases arity : c.arity <;>
        simp [layout, phrase, operandLayout, ofArity, arity, RightSide.isEmpty,
          Rendering.append_assoc]

end Comparison

namespace Query

/-- The columns to show, or the star for all of them. -/
def columnLayout : List Layout → Layout
  | [] => [.keyword "*"]
  | columns => Layout.separated ", " columns

def selectLayout (distinct : Bool) (columns : List Layout) : Layout :=
  .keyword (if distinct then "SELECT DISTINCT " else "SELECT ") :: columnLayout columns

/-- A clause of conditions behind its keyword, unless there is none to write. -/
def conditionLayout (keyword : String) (conditions : List (Connective × Layout)) :
    List Layout :=
  if conditions.isEmpty then []
  else [.keyword keyword :: .keyword " " :: Layout.chained conditions]

/-- A clause of texts behind its keyword, unless there is none to write. -/
def listLayout (keyword : String) (ls : List Layout) : List Layout :=
  if ls.isEmpty then [] else [.keyword keyword :: .keyword " " :: Layout.separated ", " ls]

/-- One key of an ordering. -/
def orderKeyLayout (key : String × Direction) : Layout :=
  [.fragment key.1, .keyword " ", .keyword key.2.sql]

/-- A clause for the page, unless it has no rows. -/
def pageLayout (clause : Page → String) (p : Page) : List Layout :=
  if p.isSet then [[.keyword (clause p)]] else []

theorem fill_selectLayout (d : Dialect) (distinct : Bool) (columns : List Layout) :
    Layout.fill d (selectLayout distinct columns) =
      selectClause distinct (columns.map (Layout.fill d)) := by
  have list : Layout.fill d (columnLayout columns) = columnList (columns.map (Layout.fill d)) := by
    cases columns <;> simp [columnLayout, columnList]
  cases distinct <;> simp [selectLayout, selectClause, list]

theorem fill_conditionLayout (d : Dialect) (keyword : String)
    (conditions : List (Connective × Layout)) :
    (conditionLayout keyword conditions).map (Layout.fill d) =
      conditionClause keyword (conditions.map fun p => (p.1, Layout.fill d p.2)) := by
  cases conditions with
  | nil => rfl
  | cons c rest => simp [conditionLayout, conditionClause, Rendering.append_assoc]

theorem fill_listLayout (d : Dialect) (keyword : String) (texts : List String)
    (ls : List Layout) (same : ls.map (Layout.fill d) = texts.map fun text => { text }) :
    (listLayout keyword ls).map (Layout.fill d) = listClause keyword texts := by
  cases texts with
  | nil => simp_all [listLayout, listClause]
  | cons text texts =>
      have some_left : ls.isEmpty = false := by
        cases ls <;> simp_all
      simp [listLayout, listClause, some_left, same, Rendering.append_assoc]

theorem fill_orderKeyLayout (d : Dialect) (key : String × Direction) :
    Layout.fill d (orderKeyLayout key) = { text := orderKey key } := by
  ext <;> simp [orderKeyLayout, orderKey]

theorem fill_pageLayout (d : Dialect) (clause : Page → String) (p : Page) :
    (pageLayout clause p).map (Layout.fill d) = pageClause clause p := by
  unfold pageLayout pageClause
  split <;> simp

end Query

end SqlSelect
