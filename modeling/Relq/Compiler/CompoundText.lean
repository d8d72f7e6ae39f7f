/-
Module: Relq.Compiler.CompoundText
Layer: Compiler
Purpose: Chains of set operations in the rendered text. `readChain` cuts the tokens of a statement at
  the set operators outside all parentheses, as both grammars do; PostgreSQL then lets INTERSECT bind
  tighter than UNION and EXCEPT, and SQLite lets all of them associate to the left. `_compile_select`
  writes the chain flat, with no parentheses around any part of it.
Imports: Mathlib.Data.Multiset.Dedup, Mathlib.Data.Multiset.UnionInter, Relq.Library.Chains,
  Relq.Compiler.UpsertText
Trusted boundary: human-reviewed spec (readChain, builtChain, postgresTree, sqliteTree,
  CompoundOperator.rows, LeftToRight)
Main exports: readChain_compiled, LeftToRight, leftToRight_iff
-/
import Mathlib.Data.Multiset.Dedup
import Mathlib.Data.Multiset.UnionInter
import Relq.Library.Chains
import Relq.Compiler.UpsertText

namespace Relq

open Templates Brackets Chains Outcome

variable {V : Type}

/-! ### Reading a chain -/

/-- The tokens of a text. -/
def tokens (text : Text) : Text :=
  text.filter (· ≠ .space)

/-- The words that begin a set operator. -/
def Lexeme.setWord : Lexeme → Option String
  | .word text => if text ∈ ["union", "intersect", "except"] then some text else none
  | _ => none

def Lexeme.selectWord : Lexeme → Option Unit
  | .word text => if text = "select" then some () else none
  | _ => none

/-- A set operator and the arm behind it. -/
def readArm (word : String) (arm : Text) : CompoundOperator × Text :=
  if word = "union" then
    match arm with
    | .word "all" :: arm => (.unionAll, arm)
    | arm => (.union, arm)
  else if word = "intersect" then (.intersect, arm)
  else (.except, arm)

/-- A statement as a WITH clause and a chain of set operations. -/
structure Chain where
  withClause : Text
  first : Text
  rest : List (CompoundOperator × Text)
deriving DecidableEq

/-- The chain that a text is. The WITH clause ends at the first `select` outside all parentheses. -/
def readChain (text : Text) : Chain :=
  let parts := cut Lexeme.side Lexeme.setWord 0 (tokens text)
  let withClause := (cut Lexeme.side Lexeme.selectWord 0 parts.1).1
  { withClause := withClause
    first := parts.1.drop withClause.length
    rest := parts.2.map fun arm => readArm arm.1 arm.2 }

/-- INTERSECT binds tighter than UNION and EXCEPT; each level associates to the left. -/
def postgresTree (chain : Chain) : Tree CompoundOperator Text :=
  precedenceTree (· == .intersect) chain.first chain.rest

/-- All set operators have one precedence and associate to the left. -/
def sqliteTree (chain : Chain) : Tree CompoundOperator Text :=
  leftTree chain.first chain.rest

/-! ### Bags of rows -/

/-- The bag that a set operation returns. -/
def CompoundOperator.rows {Row : Type} [DecidableEq Row] (left right : Multiset Row) :
    CompoundOperator → Multiset Row
  | .union => (left + right).dedup
  | .unionAll => left + right
  | .intersect => left.dedup ∩ right.dedup
  | .except => left.dedup - right.dedup

/-- The bag of a tree, given the bags of its arms. -/
def treeRows {Row : Type} [DecidableEq Row] (arms : Text → Multiset Row) :
    Tree CompoundOperator Text → Multiset Row
  | .leaf arm => arms arm
  | .node operator left right => operator.rows (treeRows arms left) (treeRows arms right)

/-- The left-to-right fold of set operations. -/
def foldRows {Row : Type} [DecidableEq Row] (arms : Text → Multiset Row) (chain : Chain) :
    Multiset Row :=
  chain.rest.foldl (fun rows next => next.1.rows rows (arms next.2)) (arms chain.first)

theorem treeRows_extendLeft {Row : Type} [DecidableEq Row] (arms : Text → Multiset Row)
    (tree : Tree CompoundOperator Text) (rest : List (CompoundOperator × Text)) :
    treeRows arms (extendLeft tree rest) =
      rest.foldl (fun rows next => next.1.rows rows (arms next.2)) (treeRows arms tree) := by
  induction rest generalizing tree with
  | nil => rfl
  | cons next rest ih => rw [extendLeft_cons, ih, List.foldl_cons, treeRows, treeRows]

/-! ### The chain that was built -/

section
variable [PyObject V] (dialect : Dialect)

/-- The WITH clause of a SELECT. -/
def layoutWith (ctes : List (CteNode V)) : Layout V :=
  if ctes.isEmpty then .fixed [] else
    .fixed (words (if ctes.any (·.recursive) then ["with", "recursive"] else ["with"]) ++ [Lexeme.space]) ++
      Layout.commas (layoutCtes dialect ctes) ++ .fixed [.space]

/-- A SELECT without its WITH clause and its arms. -/
def SelectNode.simple (query : SelectNode V) : SelectNode V :=
  { query with ctes := [], compounds := [] }

/-- The arms with their own texts, when `n` values were bound before them. -/
def armTexts : Nat → List (CompoundNode V) → List (CompoundOperator × Text)
  | _, [] => []
  | n, ⟨operator, query⟩ :: rest =>
      (operator, tokens ((layoutSelect dialect query).sql n)) ::
        armTexts (n + (layoutSelect dialect query).values.length) rest

/-- The chain of the builder's calls: each operand is the text of one SELECT by itself. -/
def builtChain (query : SelectNode V) : Chain :=
  let bound := (layoutWith dialect query.ctes).values.length
  { withClause := tokens ((layoutWith dialect query.ctes).sql 0)
    first := tokens ((layoutSelect dialect query.simple).sql bound)
    rest := armTexts dialect (bound + (layoutSelect dialect query.simple).values.length)
      query.compounds }

theorem armTexts_operators (n : Nat) (compounds : List (CompoundNode V)) :
    (armTexts dialect n compounds).map (·.1) = compounds.map (·.operator) := by
  induction compounds generalizing n with
  | nil => rfl
  | cons compound rest ih =>
      obtain ⟨operator, query⟩ := compound
      rw [armTexts, List.map_cons, ih, List.map_cons]

/-- The text of a SELECT is its WITH clause, its own clauses, and its arms. -/
theorem layoutSelect_sql (query : SelectNode V) (n : Nat) :
    (layoutSelect dialect query).sql n =
      (layoutWith dialect query.ctes).sql n ++
        ((layoutSelect dialect query.simple).sql
            (n + (layoutWith dialect query.ctes).values.length) ++
          (layoutCompounds dialect query.compounds).sql
            (n + (layoutWith dialect query.ctes).values.length +
              (layoutSelect dialect query.simple).values.length)) := by
  obtain ⟨selections, fromSource, joins, whereNode, groupBy, having, orderBy, limit, offset,
    distinct, ctes, compounds, locks⟩ := query
  rw [SelectNode.simple, layoutSelect, layoutSelect, layoutWith]
  simp only [Layout.sql_add, Layout.values_add, layoutCompounds, List.isEmpty_nil, if_true,
    Layout.sql_fixed, Template.values_fixed, List.length_append, List.nil_append, List.append_nil,
    List.append_assoc, Nat.add_assoc, List.length_nil, Nat.add_zero]

end

/-! ### What the cuts find -/

theorem tokens_append (first second : Text) : tokens (first ++ second) = tokens first ++ tokens second :=
  List.filter_append ..

theorem tokens_spaced (keywords : List String) : tokens (spaced keywords) = keywords.map .word := by
  have joined : tokens (words keywords) = keywords.map .word := by
    induction keywords with
    | nil => rfl
    | cons keyword rest ih =>
        cases rest with
        | nil => rfl
        | cons next rest =>
            rw [words, List.map_cons, List.map_cons, spaces, tokens_append, tokens_append]
            · exact congrArg (Lexeme.word keyword :: ·) ih
            · simp
  rw [spaced, tokens_append]
  change tokens (words keywords) ++ [] = _
  rw [List.append_nil, joined]

theorem keeps_brackets (item : Lexeme) (bracket : item.side.isSome = true) :
    decide (item ≠ .space) = true := by
  refine decide_eq_true ?_
  rintro rfl
  cases bracket

theorem setWord_bracket (item : Lexeme) (bracket : item.side.isSome = true) : item.setWord = none := by
  cases item with
  | symbol text => rfl
  | _ => cases bracket

theorem selectWord_bracket (item : Lexeme) (bracket : item.side.isSome = true) :
    item.selectWord = none := by
  cases item with
  | symbol text => rfl
  | _ => cases bracket

variable {text : Text} {keywords : List String}

theorem Spells.tokens_balanced (spells : Spells text keywords) : Balanced Lexeme.side (tokens text) :=
  spells.1.filter keeps_brackets

/-- A word outside the parentheses of the tokens is one of the keywords, if it is a clause keyword. -/
theorem Spells.word_mem (spells : Spells text keywords) {word : String}
    (outside : Lexeme.word word ∈ outer Lexeme.side 0 (tokens text)) (listed : word ∈ clauseKeywords) :
    word ∈ keywords := by
  rw [tokens, outer_filter keeps_brackets] at outside
  rw [← spells.2]
  exact List.mem_filterMap.mpr ⟨_, (List.mem_filter.mp outside).1, if_pos listed⟩

theorem Spells.no_setWord (spells : Spells text keywords)
    (plain : ∀ word ∈ keywords, word ∉ ["union", "intersect", "except"]) :
    ∀ item ∈ outer Lexeme.side 0 (tokens text), item.setWord = none := by
  intro item outside
  have known : ∀ word ∈ ["union", "intersect", "except"], word ∈ clauseKeywords := by decide
  cases item with
  | word word =>
      exact if_neg fun listed => plain word (spells.word_mem outside (known word listed)) listed
  | _ => rfl

theorem Spells.no_selectWord (spells : Spells text keywords) (plain : "select" ∉ keywords) :
    ∀ item ∈ outer Lexeme.side 0 (tokens text), item.selectWord = none := by
  intro item outside
  cases item with
  | word word =>
      refine if_neg ?_
      rintro rfl
      exact plain (spells.word_mem outside (by decide))
  | _ => rfl

/-! ### The chain of an accepted SELECT -/

section
variable [PyObject V] {dialect : Dialect}

/-- The text of a SELECT without WITH clause begins with the word `select`. -/
theorem layoutSelect_begins {query : SelectNode V} (bare : query.ctes = []) (n : Nat) :
    ∃ body, tokens ((layoutSelect dialect query).sql n) = .word "select" :: body := by
  obtain ⟨selections, fromSource, joins, whereNode, groupBy, having, orderBy, limit, offset,
    distinct, ctes, compounds, locks⟩ := query
  obtain rfl : ctes = [] := bare
  rw [layoutSelect]
  simp only [List.isEmpty_nil, if_true, Layout.sql_add, Layout.sql_fixed, List.nil_append,
    List.append_assoc, tokens_append]
  cases distinct with
  | false => exact ⟨_, rfl⟩
  | true => exact ⟨_, rfl⟩

omit [PyObject V] in
/-- No set operator stands among the clauses of one SELECT. -/
theorem ownClauses_no_setWord {query : SelectNode V} (known : KnownKinds query.joins) :
    ∀ word ∈ query.ownClauses dialect, word ∉ ["union", "intersect", "except"] := by
  have apart : ∀ word ∈ selectKeywords, word ∉ ["union", "intersect", "except"] := by decide
  exact fun word member => apart word (ownClauses_known known word member)

/-- A SELECT whose text is one operand. -/
structure Operand (query : SelectNode V) : Prop where
  kinds : KnownKinds query.joins
  ctes : query.ctes = []
  compounds : query.compounds = []

theorem Operand.tokens_balanced {query : SelectNode V} (operand : Operand query) (n : Nat) :
    Balanced Lexeme.side (tokens ((layoutSelect dialect query).sql n)) :=
  (spelled_arm query operand.compounds n).tokens_balanced

theorem Operand.no_setWord {query : SelectNode V} (operand : Operand query) (n : Nat) :
    ∀ item ∈ outer Lexeme.side 0 (tokens ((layoutSelect dialect query).sql n)),
      item.setWord = none :=
  (spelled_arm query operand.compounds n).no_setWord (ownClauses_no_setWord operand.kinds)

omit [PyObject V] in
/-- A set operator is cut off with its arm and read back. -/
theorem cut_operator (operator : CompoundOperator) {arm later body : Text}
    {arms : List (String × Text)} (balanced : Balanced Lexeme.side arm)
    (unmarked : ∀ item ∈ outer Lexeme.side 0 arm, item.setWord = none)
    (begins : arm = .word "select" :: body)
    (rest : cut Lexeme.side Lexeme.setWord 0 later = ([], arms)) :
    ∃ word part, cut Lexeme.side Lexeme.setWord 0 (operator.words.map .word ++ (arm ++ later)) =
        ([], (word, part) :: arms) ∧ readArm word part = (operator, arm) := by
  have one (word : String) (marks : (Lexeme.word word).setWord = some word) :
      cut Lexeme.side Lexeme.setWord 0 (.word word :: (arm ++ later)) =
        ([], (word, arm) :: arms) := by
    rw [cut_mark marks, cut_append balanced setWord_bracket unmarked, rest, List.append_nil]
  cases operator with
  | union =>
      refine ⟨"union", arm, one _ rfl, ?_⟩
      rw [begins]
      rfl
  | intersect => exact ⟨"intersect", arm, one _ rfl, rfl⟩
  | except => exact ⟨"except", arm, one _ rfl, rfl⟩
  | unionAll =>
      have all_ : ∀ item ∈ outer Lexeme.side 0 (.word "all" :: arm), item.setWord = none := by
        rw [outer_plain rfl]
        exact List.forall_mem_cons.mpr ⟨rfl, unmarked⟩
      have within := cut_append (.plain rfl balanced) setWord_bracket all_ later
      rw [rest, List.append_nil] at within
      have union_ : (Lexeme.word "union").setWord = some "union" := rfl
      refine ⟨"union", .word "all" :: arm, ?_, rfl⟩
      change cut Lexeme.side Lexeme.setWord 0 (.word "union" :: (.word "all" :: arm ++ later)) = _
      rw [cut_mark union_, within]

/-- The arms are cut at their operators, and each operator is read back. -/
theorem cut_compounds {compounds : List (CompoundNode V)}
    (operands : ∀ compound ∈ compounds, Operand compound.query) (n : Nat) :
    ∃ arms, cut Lexeme.side Lexeme.setWord 0
        (tokens ((layoutCompounds dialect compounds).sql n)) = ([], arms) ∧
      arms.map (fun arm => readArm arm.1 arm.2) = armTexts dialect n compounds := by
  induction compounds generalizing n with
  | nil => exact ⟨[], rfl, rfl⟩
  | cons compound rest ih =>
      obtain ⟨operator, query⟩ := compound
      obtain ⟨operand, others⟩ := List.forall_mem_cons.mp operands
      obtain ⟨arms, later, read⟩ := ih others (n + (layoutSelect dialect query).values.length)
      have begins : ∃ body, tokens ((layoutSelect dialect query).sql n) = .word "select" :: body :=
        layoutSelect_begins operand.ctes n
      obtain ⟨body, begins⟩ := begins
      obtain ⟨word, part, found, back⟩ := cut_operator operator (operand.tokens_balanced n)
        (operand.no_setWord n) begins later
      refine ⟨(word, part) :: arms, ?_, ?_⟩
      · rw [layoutCompounds, Layout.sql_add, Layout.sql_add, Layout.sql_fixed, tokens_append,
          tokens_append, tokens_spaced, List.append_assoc]
        exact found
      · rw [List.map_cons, back, read, armTexts]

/-- The parser finds the arms of the builder's calls, each with its operator. -/
theorem readChain_select {query : SelectNode V} (known : KnownKinds query.joins)
    (operands : ∀ compound ∈ query.compounds, Operand compound.query) :
    readChain ((layoutSelect dialect query).sql 0) = builtChain dialect query := by
  have own : Operand query.simple := ⟨known, rfl, rfl⟩
  have withClause : (layoutWith dialect query.ctes).Spelled [] :=
    spelled_with _ fun part _ => shaped_term dialect part
  have quiet : ∀ word ∈ ([] : List String), word ∉ ["union", "intersect", "except"] := by decide
  obtain ⟨bound, bound_⟩ : ∃ n, n = (layoutWith dialect query.ctes).values.length := ⟨_, rfl⟩
  have begins : ∃ body, tokens ((layoutSelect dialect query.simple).sql bound) =
      .word "select" :: body :=
    layoutSelect_begins rfl bound
  obtain ⟨body, begins⟩ := begins
  have cuts : ∃ arms, cut Lexeme.side Lexeme.setWord 0
      (tokens ((layoutCompounds dialect query.compounds).sql _)) = ([], arms) ∧ _ :=
    cut_compounds operands (bound + (layoutSelect dialect query.simple).values.length)
  obtain ⟨arms, later, read⟩ := cuts
  have whole : tokens ((layoutSelect dialect query).sql 0) =
      tokens ((layoutWith dialect query.ctes).sql 0) ++
        (tokens ((layoutSelect dialect query.simple).sql bound) ++
          tokens ((layoutCompounds dialect query.compounds).sql
            (bound + (layoutSelect dialect query.simple).values.length))) := by
    rw [layoutSelect_sql, tokens_append, tokens_append, Nat.zero_add, ← bound_]
  have parts := cut_append (withClause 0).tokens_balanced setWord_bracket
    ((withClause 0).no_setWord quiet) (tokens ((layoutSelect dialect query.simple).sql bound) ++
      tokens ((layoutCompounds dialect query.compounds).sql
        (bound + (layoutSelect dialect query.simple).values.length)))
  rw [cut_append (own.tokens_balanced bound) setWord_bracket (own.no_setWord bound), later,
    List.append_nil] at parts
  have select_ : (Lexeme.word "select").selectWord = some () := rfl
  have leading := cut_append (withClause 0).tokens_balanced selectWord_bracket
    ((withClause 0).no_selectWord List.not_mem_nil)
    (tokens ((layoutSelect dialect query.simple).sql bound))
  rw [begins, cut_mark select_, List.append_nil, ← begins] at leading
  rw [readChain, whole, parts, builtChain, ← bound_]
  simp only [leading, List.drop_left, read]

end

/-! ### What the two grammars make of it -/

/-- A text denotes, on both engines, the left-to-right fold of a chain: both grammars read it as that
chain associated to the left, and so both return the bag that the fold returns. -/
structure LeftToRight (text : Text) (built : Chain) : Prop where
  operands : readChain text = built
  postgres : postgresTree (readChain text) = leftTree built.first built.rest
  sqlite : sqliteTree (readChain text) = leftTree built.first built.rest
  rows : ∀ (Row : Type) [DecidableEq Row] (arms : Text → Multiset Row),
    treeRows arms (postgresTree (readChain text)) = foldRows arms built ∧
      treeRows arms (sqliteTree (readChain text)) = foldRows arms built

section
variable [DecidableEq V] [PyObject V] {dialect : Dialect}

theorem readChain_compiled {query : SelectNode V} {compiled : CompiledQuery V}
    (done : compile (.select query) dialect = .ok compiled) :
    readChain compiled.text = builtChain dialect query := by
  obtain ⟨accepted, rendered⟩ := compile_eq_ok.mp done
  obtain ⟨outer, statement⟩ := accepted_vetted accepted
  rw [validateStatement] at statement
  have rules := validateSelect_iff.mp statement
  rw [(renderQuery_layout rendered).1]
  refine readChain_select rules.knownKinds fun compound member => ?_
  obtain ⟨ctes, compounds⟩ := rules.bareArms compound member
  exact ⟨(validateSelect_iff.mp (rules.arms compound member).2).knownKinds, ctes, compounds⟩

/-- The text of an accepted SELECT denotes the fold of its set operations on both engines exactly
when no INTERSECT follows a UNION or EXCEPT. -/
theorem leftToRight_iff {query : SelectNode V} {compiled : CompiledQuery V}
    (done : compile (.select query) dialect = .ok compiled) :
    LeftToRight compiled.text (builtChain dialect query) ↔
      TightFirst (· == .intersect) (query.compounds.map (·.operator)) := by
  have operands := readChain_compiled done
  have agree : postgresTree (readChain compiled.text) =
      leftTree (builtChain dialect query).first (builtChain dialect query).rest ↔
        TightFirst (· == .intersect) (query.compounds.map (·.operator)) := by
    rw [operands, postgresTree, precedenceTree_eq_leftTree, builtChain, armTexts_operators]
  constructor
  · intro denotes
    exact agree.mp denotes.postgres
  · intro ordered
    have folded (Row : Type) [DecidableEq Row] (arms : Text → Multiset Row) :
        treeRows arms (leftTree (builtChain dialect query).first (builtChain dialect query).rest) =
          foldRows arms (builtChain dialect query) :=
      treeRows_extendLeft arms _ _
    refine ⟨operands, agree.mpr ordered, by rw [operands]; rfl, fun Row _ arms => ⟨?_, ?_⟩⟩
    · rw [agree.mpr ordered]
      exact folded Row arms
    · rw [operands]
      exact folded Row arms

end

/-! ### Three arms -/

/-- `SELECT "id" FROM` a table. -/
def idsOf (table : String) : SelectNode Int :=
  { selections := [.column table "id"]
    fromSource := some (.table { name := table }) }

/-- `a`, then two set operations with `b` and `c`. -/
def threeArms (first second : CompoundOperator) : SelectNode Int :=
  { idsOf "a" with compounds := [⟨first, idsOf "b"⟩, ⟨second, idsOf "c"⟩] }

theorem threeArms_compiles (first second : CompoundOperator) {dialect : Dialect}
    (given : dialect ∈ [sqlite, postgres]) :
    ∃ compiled, compile (.select (threeArms first second)) dialect = .ok compiled := by
  have rendered : ∃ compiled,
      renderQuery (.select (threeArms first second)) dialect = .ok compiled := by
    rcases List.mem_pair.mp given with rfl | rfl <;>
    · unfold renderQuery threeArms idsOf
      simp only [renderStatement, compileSelect, compileCtes, compileNodes, compileNode,
        compileFrom, compileSource, compileJoins, compileOption, compileOrders, compileCompounds]
      exact ⟨_, rfl⟩
  obtain ⟨compiled, rendered⟩ := rendered
  refine ⟨compiled, compile_eq_ok.mpr ⟨?_, rendered⟩⟩
  rcases List.mem_pair.mp given with rfl | rfl <;> cases first <;> cases second <;> decide +kernel

theorem leftToRight_iff_threeArms :
    ∃ compiled, compile (.select (threeArms .intersect .union)) postgres = .ok compiled ∧
      LeftToRight compiled.text (builtChain postgres (threeArms .intersect .union)) := by
  obtain ⟨compiled, done⟩ :=
    threeArms_compiles .intersect .union (List.mem_pair.mpr (Or.inr rfl))
  refine ⟨compiled, done, (leftToRight_iff done).mpr ?_⟩
  unfold TightFirst
  decide

/-- One row in `a` and none in the other tables. -/
def onlyFirst (arm : Text) : Multiset Nat :=
  if Lexeme.identifier "a" ∈ arm then {1} else 0

/-- PostgreSQL reads `a UNION b INTERSECT c` as `a UNION (b INTERSECT c)` and returns the row of `a`.
The fold of the calls, which SQLite computes, has none. -/
theorem threeArms_regrouped :
    ∃ compiled, compile (.select (threeArms .union .intersect)) postgres = .ok compiled ∧
      ¬LeftToRight compiled.text (builtChain postgres (threeArms .union .intersect)) ∧
      treeRows onlyFirst (postgresTree (readChain compiled.text)) = {1} ∧
      treeRows onlyFirst (sqliteTree (readChain compiled.text)) = 0 := by
  have given : postgres ∈ [sqlite, postgres] := by simp
  obtain ⟨compiled, done⟩ := threeArms_compiles .union .intersect given
  have text := (renderQuery_layout (compile_eq_ok.mp done).2).1
  have regrouped : treeRows onlyFirst (postgresTree (readChain compiled.text)) = {1} ∧
      treeRows onlyFirst (sqliteTree (readChain compiled.text)) = 0 := by
    rw [text]
    decide +kernel
  refine ⟨compiled, done, fun denotes => ?_, regrouped⟩
  have same := (denotes.rows Nat onlyFirst).1.trans (denotes.rows Nat onlyFirst).2.symm
  rw [regrouped.1, regrouped.2] at same
  exact absurd same (by decide)

end Relq
