/-
Module: Relq.Compiler.Binding
Layer: Compiler
Purpose: Parameter binding. The text of a rendered query with its placeholders filled is the text
  with every value written inline, numbered placeholders always, positional ones exactly when no
  rendered node binds values both in its late part and ahead of it.
Imports: Relq.Compiler.LayoutAssembly, Relq.Compiler.Validation
Trusted boundary: human-reviewed spec (inlineSql, BoundInPlace)
Main exports: BoundInPlace, boundInPlace_iff, swappedWindow_misbound
-/
import Relq.Compiler.LayoutAssembly
import Relq.Compiler.Validation

namespace Relq

open Templates
open Templates.Template (fillNumbered fillPositional)

section

variable {V : Type} [PyObject V]

/-- The statement with every value written at its place in the tree. -/
def inlineSql (dialect : Dialect) (root : QueryNode V) (shown : V → Lexeme) : Text :=
  (layoutStatement dialect root).inline shown

/-- The ordinals of the placeholders of a text, from left to right: each names the position its
`ValueNode` took in the parameter list. -/
def placeholders (text : Text) : List Nat :=
  text.filterMap Lexeme.ordinal

/-- Every placeholder stands for the value of its own `ValueNode`. A `?` is bound by its position
among the placeholders, a numbered placeholder by its number. -/
def BoundInPlace (dialect : Dialect) (root : QueryNode V) (compiled : CompiledQuery V) : Prop :=
  if dialect.placeholder = "?" then
    placeholders compiled.text = List.range' 1 compiled.parameters.length ∧
      ∀ shown, fillPositional Lexeme.ordinal shown compiled.parameters compiled.text =
        inlineSql dialect root shown
  else
    (placeholders compiled.text).Perm (List.range' 1 compiled.parameters.length) ∧
      ∀ shown, fillNumbered Lexeme.ordinal shown compiled.parameters compiled.text =
        inlineSql dialect root shown

/-- A node rendered in the statement binds values both in its late part and ahead of it. -/
def BindsTwofold (root : QueryNode V) : Prop :=
  ∃ node, Rendered (.statement root) (.expression node) ∧ Twofold node

theorem statement_plain (dialect : Dialect) (root : QueryNode V) :
    (layoutStatement dialect root).Plain Lexeme.ordinal :=
  layout_plain dialect (.statement root)

theorem statement_inOrder_iff (dialect : Dialect) (root : QueryNode V) :
    (layoutStatement dialect root).InOrder ↔ ¬BindsTwofold root :=
  layout_inOrder_iff dialect (.statement root)

/-- The placeholders of a layout's text carry its ordinals. -/
theorem placeholders_sql (dialect : Dialect) (root : QueryNode V) :
    placeholders ((layoutStatement dialect root).sql 0) = (layoutStatement dialect root).ordinals 0 :=
  Template.text_ordinals ordinal_placeholder (statement_plain dialect root) 0

/-- Positional placeholders are bound in place exactly when the values are bound in text order. -/
theorem positional_iff (dialect : Dialect) (root : QueryNode V) :
    (placeholders ((layoutStatement dialect root).sql 0) =
        List.range' 1 (layoutStatement dialect root).values.length ∧
      ∀ shown, fillPositional Lexeme.ordinal shown (layoutStatement dialect root).values
        ((layoutStatement dialect root).sql 0) = inlineSql dialect root shown) ↔
      (layoutStatement dialect root).InOrder := by
  rw [placeholders_sql, Template.ordinals_eq_range_iff]
  constructor
  · exact And.left
  · intro ordered
    refine ⟨ordered, fun shown => ?_⟩
    rw [← ordered.slots_eq]
    exact Template.fillPositional_text ordinal_placeholder shown (statement_plain dialect root) 0

/-- Numbered placeholders are always bound in place. -/
theorem numbered_in_place (dialect : Dialect) (root : QueryNode V) :
    (placeholders ((layoutStatement dialect root).sql 0)).Perm
        (List.range' 1 (layoutStatement dialect root).values.length) ∧
      ∀ shown, fillNumbered Lexeme.ordinal shown (layoutStatement dialect root).values
        ((layoutStatement dialect root).sql 0) = inlineSql dialect root shown := by
  rw [placeholders_sql]
  refine ⟨Template.ordinals_perm _ 0, fun shown => ?_⟩
  have filled := Template.fillNumbered_text ordinal_placeholder shown (statement_plain dialect root) [] []
  simpa [inlineSql] using filled

/-- A rendered query is bound in place unless it binds by position and some node binds values both
in its late part and ahead of it. -/
theorem boundInPlace_iff {root : QueryNode V} {dialect : Dialect} {compiled : CompiledQuery V}
    (rendered : renderQuery root dialect = .ok compiled) :
    BoundInPlace dialect root compiled ↔ (dialect.placeholder = "?" → ¬BindsTwofold root) := by
  obtain ⟨text, parameters⟩ := renderQuery_layout rendered
  unfold BoundInPlace
  rw [text, parameters]
  by_cases positional : dialect.placeholder = "?"
  · rw [if_pos positional, positional_iff, statement_inOrder_iff]
    exact ⟨fun inOrder _ => inOrder, fun inOrder => inOrder positional⟩
  · rw [if_neg positional]
    exact iff_of_true (numbered_in_place dialect root) fun other => absurd other positional

end

/-- `SELECT sum("t"."x" + 1) OVER (PARTITION BY "t"."y" + 2) FROM "t"`. -/
def swappedWindow : QueryNode Int :=
  .select
    { selections := [.window (.aggregate .sum [.binary (.column "t" "x") .add (.value 1)] none)
        [.binary (.column "t" "y") .add (.value 2)] [] none none]
      fromSource := some (.table { name := "t" }) }

/-- `select sum(("t"."x" + ?)) over (partition by ("t"."y" + ?)) from "t"` with parameters `2, 1`. -/
theorem swappedWindow_rendered :
    ∃ compiled, renderQuery swappedWindow sqlite = .ok compiled ∧
      placeholders compiled.text = [2, 1] ∧ compiled.parameters = [2, 1] := by
  unfold renderQuery swappedWindow
  simp only [renderStatement, compileSelect, compileCtes, compileNodes, compileNode, compileFrom,
    compileSource, compileJoins, compileOption, compileOrders, compileCompounds, compileWindowCall]
  exact ⟨_, rfl, rfl, rfl⟩

/-- The first `?` of the text was written for `1` and is given `2`. -/
theorem swappedWindow_misbound :
    ∃ compiled, Accepted swappedWindow sqlite ∧ renderQuery swappedWindow sqlite = .ok compiled ∧
      ¬BoundInPlace sqlite swappedWindow compiled := by
  obtain ⟨compiled, rendered, order, bound⟩ := swappedWindow_rendered
  refine ⟨compiled, by decide +kernel, rendered, ?_⟩
  rintro ⟨inPlace, -⟩
  rw [order, bound] at inPlace
  exact absurd inPlace (by decide)

theorem boundInPlace_iff_swappedWindow :
    ∃ compiled, renderQuery swappedWindow sqlite = .ok compiled ∧
      (BoundInPlace sqlite swappedWindow compiled ↔
        (sqlite.placeholder = "?" → ¬BindsTwofold swappedWindow)) := by
  obtain ⟨compiled, rendered, -⟩ := swappedWindow_rendered
  exact ⟨compiled, rendered, boundInPlace_iff rendered⟩

end Relq
