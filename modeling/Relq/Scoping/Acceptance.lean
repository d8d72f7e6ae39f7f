/-
Module: Relq.Scoping.Acceptance
Layer: Scoping
Purpose: The validator against SQL's scoping. One step: whatever occurs directly inside an accepted
  statement was itself accepted, under names that its environment accounts for. The run: so was
  everything that occurs in an accepted query, at any depth.
Imports: Relq.Compiler.Accepted, Relq.Scoping.Environment
Trusted boundary: none (fully proved)
Main exports: Env.Covers, clause_sources, accepted_inside, accepted_occurs
-/
import Relq.Compiler.Accepted
import Relq.Scoping.Environment

namespace Relq

open Outcome

variable {V : Type}

/-- The environment accounts for every name the validator carries in `outer`. -/
def Env.Covers (env : Env) (outer : List String) : Prop :=
  ∀ name ∈ outer, name ∈ env.sources ∨ name ∈ env.later ∨ name ∈ env.declaredNames

theorem declaredNames_push (env : Env) (level : Level) :
    (env.push level).declaredNames = level.declared.map (·.name) ++ env.declaredNames := by
  simp [Env.push, Env.declaredNames, Env.declared]

/-- Each entry of a WITH clause is a statement inside. -/
theorem cteBodies_query {env : Env} {all before : List Entry} {recursive : Bool}
    {ctes : List (CteNode V)} {cte : CteNode V} (member : cte ∈ ctes) :
    ∃ inner, (cte.query, inner) ∈ cteBodies env all recursive before ctes := by
  induction ctes generalizing before with
  | nil => cases member
  | cons first rest ih =>
      rw [cteBodies]
      rcases List.mem_cons.mp member with rfl | later
      · exact ⟨_, List.mem_cons_self⟩
      · obtain ⟨inner, found⟩ := ih later
        exact ⟨inner, List.mem_cons_of_mem _ found⟩

theorem entriesAfter_names (depth : Nat) (before : List Entry) (ctes : List (CteNode V))
    (name : String) :
    name ∈ (entriesAfter depth before ctes).map (·.name) ↔
      name ∈ ctes.map (·.name) ∨ name ∈ before.map (·.name) := by
  induction ctes generalizing before with
  | nil => simp [entriesAfter]
  | cons cte rest ih =>
      rw [entriesAfter, ih]
      simp only [List.map_cons, List.mem_cons]
      grind

namespace Env.Covers

theorem mono {env : Env} {outer : List String} (covers : env.Covers outer) {level : Level}
    {names : List String} (declared : ∀ name ∈ names, name ∈ level.declared.map (·.name)) :
    (env.push level).Covers (names ++ outer) := by
  intro name member
  rw [declaredNames_push]
  rcases List.mem_append.mp member with new | old
  · exact Or.inr (Or.inr (List.mem_append_left _ (declared name new)))
  · rcases covers name old with source | later | known
    · exact Or.inl source
    · exact Or.inr (Or.inl later)
    · exact Or.inr (Or.inr (List.mem_append_right _ known))

/-- The parts of a SELECT see its WITH entries and what encloses it. -/
theorem main {env : Env} {outer : List String} (covers : env.Covers outer) (node : SelectNode V) :
    (node.mainEnv env).Covers (node.bound outer) :=
  covers.mono fun _ declared => (entriesAfter_names _ [] node.ctes _).mpr (Or.inl declared)

/-- A subquery sees, besides, sources of the clause it stands in. -/
theorem enter {env : Env} {outer : List String} (covers : env.Covers outer) {clause : Clause V}
    {names : List String} (split : ∀ name ∈ names, name ∈ clause.locals ∨ name ∈ clause.later) :
    (env.enter clause).Covers (names ++ outer) := by
  intro name member
  simp only [Env.enter, List.mem_append]
  rcases List.mem_append.mp member with new | old
  · rcases split name new with shown | hidden
    · exact Or.inl (Or.inl shown)
    · exact Or.inr (Or.inl (Or.inl hidden))
  · rcases covers name old with source | later | known
    · exact Or.inl (Or.inr source)
    · exact Or.inr (Or.inl (Or.inr later))
    · exact Or.inr (Or.inr known)

end Env.Covers

/-! ### The clauses of a SELECT -/

/-- Every ON condition names sources joined up to it or enclosing names. -/
theorem validateJoins_clauses {joins : List (JoinNode V)}
    {available locals joined outer result : List String}
    (accepted : validateJoins joins available locals = .ok result)
    (known : ∀ name ∈ available, name ∈ joined ∨ name ∈ outer) {clause : Clause V}
    (member : clause ∈ joinClauses joined joins) {source : String}
    (named : source ∈ referencedSources clause.expression) :
    source ∈ clause.locals ∨ source ∈ outer := by
  induction joins generalizing available locals joined with
  | nil => simp [joinClauses] at member
  | cons join rest ih =>
      obtain ⟨-, covered, accepted⟩ := validateJoins_cons_eq_ok.mp accepted
      have known' : ∀ name ∈ join.source.reference :: available,
          name ∈ join.source.reference :: joined ∨ name ∈ outer := by
        simp only [List.mem_cons]
        grind
      simp only [joinClauses, List.mem_cons] at member
      rcases member with rfl | member
      · exact known' source (covered source named)
      · exact ih accepted known' member

/-- After all joins, the local sources and the enclosing names are available. -/
theorem validateJoins_available {joins : List (JoinNode V)} {available locals result : List String}
    (accepted : validateJoins joins available locals = .ok result) {name : String}
    (member : name ∈ result) : name ∈ joins.map (·.source.reference) ∨ name ∈ available := by
  induction joins generalizing available locals with
  | nil =>
      simp only [validateJoins, Except.ok.injEq] at accepted
      exact Or.inr (accepted ▸ member)
  | cons join rest ih =>
      obtain ⟨-, -, accepted⟩ := validateJoins_cons_eq_ok.mp accepted
      simp only [List.map_cons, List.mem_cons]
      rcases ih accepted with joined | known
      · exact Or.inl (Or.inr joined)
      · grind

/-- Every clause of an accepted SELECT names its own sources or enclosing names. -/
theorem clause_sources {node : SelectNode V} {outer : List String}
    (accepted : validateSources node outer = .ok ()) {clause : Clause V}
    (member : clause ∈ node.clauses) {source : String}
    (named : source ∈ referencedSources clause.expression) :
    source ∈ clause.locals ∨ source ∈ outer := by
  obtain ⟨first, available, rules⟩ := validateSources_rules accepted
  simp only [SelectNode.clauses, rules.fromSource, Option.toList, List.map_cons, List.map_nil,
    List.mem_append, List.mem_map] at member
  rcases member with member | ⟨expression, inside, rfl⟩
  · exact validateJoins_clauses rules.joins (by simp) member named
  · have mentioned := rules.columns expression inside source named
    rcases validateJoins_available rules.joins mentioned with joined | known
    · exact Or.inl (by simp [localSources, rules.fromSource, joined])
    · simp only [List.mem_cons] at known
      rcases known with rfl | known
      · exact Or.inl (by simp [localSources, rules.fromSource])
      · exact Or.inr known

/-- The local sources of a SELECT are those a clause shows and those it hides. -/
theorem joinClauses_locals {joins : List (JoinNode V)} {joined : List String} {clause : Clause V}
    (member : clause ∈ joinClauses joined joins) {name : String}
    (known : name ∈ joined ++ joins.map (·.source.reference)) :
    name ∈ clause.locals ∨ name ∈ clause.later := by
  induction joins generalizing joined with
  | nil => simp [joinClauses] at member
  | cons join rest ih =>
      simp only [joinClauses, List.mem_cons] at member
      rcases member with rfl | member
      · simp at known ⊢
        grind
      · exact ih member (by simp at known ⊢; grind)

theorem clause_locals {node : SelectNode V} {clause : Clause V} (member : clause ∈ node.clauses)
    {name : String} (known : name ∈ localSources node) :
    name ∈ clause.locals ∨ name ∈ clause.later := by
  cases from_ : node.fromSource with
  | none => simp [localSources, from_] at known
  | some first =>
      simp only [SelectNode.clauses, from_, Option.toList, List.map_cons, List.map_nil,
        List.mem_append, List.mem_map] at member
      rcases member with member | ⟨expression, inside, rfl⟩
      · exact joinClauses_locals member (by simpa [localSources, from_] using known)
      · exact Or.inl known

theorem joinClauses_expressions (joined : List String) (joins : List (JoinNode V)) :
    (joinClauses joined joins).map (·.expression) = joins.map (·.predicate) := by
  induction joins generalizing joined with
  | nil => rfl
  | cons join rest ih => rw [joinClauses, List.map_cons, List.map_cons, ih]

theorem clauses_expressions (node : SelectNode V) :
    node.clauses.map (·.expression) = node.joins.map (·.predicate) ++ node.clauseExpressions := by
  rw [SelectNode.clauses, List.map_append, joinClauses_expressions, List.map_map]
  simp [Function.comp_def]

/-- The clauses of a SELECT hold the expressions whose subqueries open scopes. -/
theorem clause_expression_iff {node : SelectNode V} {expression : Node V} :
    (∃ clause ∈ node.clauses, clause.expression = expression) ↔
      expression ∈ node.scopeExpressions := by
  rw [← List.mem_map, clauses_expressions]
  simp only [SelectNode.clauseExpressions, SelectNode.scopeExpressions, List.mem_append]
  grind

theorem clause_expression {node : SelectNode V} {clause : Clause V}
    (member : clause ∈ node.clauses) : clause.expression ∈ node.scopeExpressions :=
  clause_expression_iff.mp ⟨clause, member, rfl⟩

/-! ### One step, and the run -/

section
variable [DecidableEq V] [PyObject V]

theorem accepted_cteBodies {ctes : List (CteNode V)} {dialect : Dialect}
    {outer visible : List String} {env : Env} {all before : List Entry} {recursive : Bool}
    (accepted : validateCtes ctes dialect outer visible = .ok ()) (covers : env.Covers outer)
    (declared : ∀ name ∈ visible, name ∈ before.map (·.name)) {query : QueryNode V}
    {queryEnv : Env} (member : (query, queryEnv) ∈ cteBodies env all recursive before ctes) :
    ∃ names, validateStatement query dialect names = .ok () ∧ queryEnv.Covers names := by
  induction ctes generalizing visible before with
  | nil => simp [cteBodies] at member
  | cons cte rest ih =>
      obtain ⟨name, body, own, materialized⟩ := cte
      rw [validateCtes] at accepted
      simp only [seq_eq_ok] at accepted
      obtain ⟨-, accepted, later⟩ := accepted
      simp only [cteBodies, List.mem_cons, Prod.mk.injEq] at member
      rcases member with ⟨rfl, rfl⟩ | member
      · have body := validateCteBody_statement accepted
        cases own with
        | false => exact ⟨_, body, covers.mono (by simpa using declared)⟩
        | true =>
            refine ⟨(name :: visible) ++ outer, body, covers.mono fun other known => ?_⟩
            simp only [List.mem_cons, if_true, List.map_cons] at known ⊢
            exact known.imp id (declared other)
      · refine ih later (fun other known => ?_) member
        simp only [List.map_cons, List.mem_cons] at known ⊢
        exact known.imp id (declared other)

/-- A subquery of an accepted SELECT's clause was accepted, under names its environment covers. -/
theorem accepted_clauseQueries {node : SelectNode V} {dialect : Dialect} {outer : List String}
    {env : Env} (rules : SelectRules node dialect outer) (covers : env.Covers outer)
    {query : QueryNode V} {queryEnv : Env}
    (member : (query, queryEnv) ∈ clauseQueries node.clauses (node.mainEnv env)) :
    ∃ names, validateStatement query dialect names = .ok () ∧ queryEnv.Covers names := by
  simp only [clauseQueries, List.mem_flatMap, List.mem_map, Prod.mk.injEq] at member
  obtain ⟨clause, inClauses, inner, nested, rfl, rfl⟩ := member
  refine ⟨localSources node ++ node.bound outer, ?_, ?_⟩
  · rw [validateStatement]
    exact rules.nested clause.expression (clause_expression inClauses) inner nested
  · exact (covers.main node).enter fun _ known => clause_locals inClauses known

theorem accepted_dmlQueries {node : QueryNode V} {table : TableSourceNode} {dialect : Dialect}
    {outer : List String} {env : Env} (rules : DmlRules node table dialect outer)
    (covers : env.Covers outer) {query : QueryNode V} {queryEnv : Env}
    (member : (query, queryEnv) ∈ clauseQueries ((dmlExpressions node).map fun expression =>
      { locals := [table.reference], expression }) env) :
    ∃ names, validateStatement query dialect names = .ok () ∧ queryEnv.Covers names := by
  simp only [clauseQueries, List.mem_flatMap, List.mem_map, Prod.mk.injEq] at member
  obtain ⟨-, ⟨expression, inClauses, rfl⟩, inner, nested, rfl, rfl⟩ := member
  refine ⟨[table.reference] ++ outer, ?_, ?_⟩
  · rw [validateStatement]
    exact rules.nested expression inClauses inner nested
  · exact covers.enter fun _ known => Or.inl known

/-- What occurs directly inside an accepted statement was accepted, under names its own environment
covers. -/
theorem accepted_inside {node : QueryNode V} {dialect : Dialect} {outer : List String} {env : Env}
    (accepted : validateStatement node dialect outer = .ok ()) (covers : env.Covers outer)
    {query : QueryNode V} {queryEnv : Env} (member : (query, queryEnv) ∈ inside node env) :
    ∃ names, validateStatement query dialect names = .ok () ∧ queryEnv.Covers names := by
  simp only [inside, List.mem_append] at member
  cases node with
  | select node =>
      rw [validateStatement] at accepted
      have rules := validateSelect_iff.mp accepted
      rcases member with member | member
      · simp only [nestedStatements, List.mem_append, List.mem_map, Prod.mk.injEq] at member
        rcases member with (bodies | ⟨inner, derived, rfl, rfl⟩) | ⟨arm, inArms, rfl, rfl⟩
        · exact accepted_cteBodies rules.ctes covers (by simp) bodies
        · refine ⟨_, ?_, covers.main node⟩
          rw [validateStatement]
          exact rules.derived inner derived
        · refine ⟨_, ?_, covers.main node⟩
          rw [validateStatement]
          exact (rules.arms arm inArms).2
      · exact accepted_clauseQueries rules covers member
  | insert node =>
      have rules := validateStatement_dml accepted rfl
      rcases member with member | member
      · simp only [nestedStatements, List.mem_map, Option.mem_toList, Prod.mk.injEq] at member
        obtain ⟨inner, source, rfl, rfl⟩ := member
        refine ⟨_, ?_, covers⟩
        rw [validateStatement]
        exact rules.source inner source
      · exact accepted_dmlQueries rules covers member
  | update node =>
      have rules := validateStatement_dml accepted rfl
      rcases member with member | member
      · simp [nestedStatements] at member
      · exact accepted_dmlQueries rules covers member
  | delete node =>
      have rules := validateStatement_dml accepted rfl
      rcases member with member | member
      · simp [nestedStatements] at member
      · exact accepted_dmlQueries rules covers member

/-- Everything that occurs in an accepted query was accepted. -/
theorem accepted_occurs {root : QueryNode V} {dialect : Dialect} (accepted : Accepted root dialect)
    {node : QueryNode V} {env : Env} (occurs : Occurs root (node, env)) :
    ∃ names, validateStatement node dialect names = .ok () ∧ env.Covers names := by
  have whole : validateStatement root dialect [] = .ok () := by
    simp only [Accepted, validateQuery, seq_eq_ok] at accepted
    exact accepted.2.2
  have everywhere : ∀ place, Occurs root place →
      ∃ names, validateStatement place.1 dialect names = .ok () ∧ place.2.Covers names := by
    intro place occurs
    induction occurs with
    | refl => exact ⟨[], whole, by simp [Env.Covers]⟩
    | tail _ encloses ih =>
        obtain ⟨names, accepted, covers⟩ := ih
        exact accepted_inside accepted covers encloses
  exact everywhere (node, env) occurs

/-- Columns of an accepted query name a source of their statement or a name its environment
accounts for. -/
theorem accepted_columns {root : QueryNode V} {dialect : Dialect} (accepted : Accepted root dialect)
    {node : QueryNode V} {env : Env} (occurs : Occurs root (node, env)) {clause : Clause V}
    (member : clause ∈ ownClauses node) {source : String}
    (named : source ∈ referencedSources clause.expression) :
    source ∈ clause.locals ∨ source ∈ (clauseEnv node env).sources ∨
      source ∈ (clauseEnv node env).later ∨ source ∈ (clauseEnv node env).declaredNames := by
  obtain ⟨outer, statement, covers⟩ := accepted_occurs accepted occurs
  cases node with
  | select node =>
      rw [validateStatement] at statement
      have rules := validateSelect_iff.mp statement
      rcases clause_sources rules.sources member named with shown | enclosing
      · exact Or.inl shown
      · exact Or.inr (covers.main node source enclosing)
  | _ =>
      have rules := validateStatement_dml statement rfl
      simp only [ownClauses, List.mem_map] at member
      obtain ⟨expression, inClauses, rfl⟩ := member
      exact Or.inl (by simpa using rules.columns expression inClauses source named)

end

end Relq
