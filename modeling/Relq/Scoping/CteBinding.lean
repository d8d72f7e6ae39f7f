/-
Module: Relq.Scoping.CteBinding
Layer: Scoping
Purpose: CTE binding and the placement of data-modifying entries. Both rules are checked over
  `nestedScopes`, which reaches every statement inside another one except those in the two
  predicates of a conflict clause. `nestedScopes_complete` says so, and `cteBinding_iff` that the
  rules hold of an accepted query exactly when they hold behind its conflict predicates.
Imports: Relq.Scoping.Acceptance
Trusted boundary: none (fully proved)
Main exports: CtesBound, DataModifyingOutermost, BehindConflict, nestedScopes_complete,
  cteBinding_iff
-/
import Relq.Scoping.Acceptance

namespace Relq

open Outcome

variable {V : Type}

/-- The names under which a statement reads CTEs in its FROM and JOIN clauses. -/
def usedCtes : QueryNode V → List String
  | .select node => node.sources.filterMap SourceNode.cteName
  | _ => []

/-- Every CTE source is bound by an entry of its statement or of an enclosing one, declared before
the point of use or recursive and read by itself. -/
def CtesBound (root : QueryNode V) : Prop :=
  ∀ node env, Occurs root (node, env) → ∀ name ∈ usedCtes node,
    name ∈ (clauseEnv node env).declaredNames

/-- Data-modifying entries stand in the WITH clause of the outermost statement only. -/
def DataModifyingOutermost (root : QueryNode V) : Prop :=
  ∀ node env, Relation.TransGen Encloses (root, {}) (node, env) → dataModifyingCtes node = []

/-! ### Behind a conflict predicate -/

/-- The statements directly inside the predicates of a conflict clause. -/
def conflictQueries : QueryNode V → Env → List (QueryNode V × Env)
  | .insert node, env =>
      clauseQueries ((node.conflict.toList.flatMap ConflictNode.predicates).map fun expression =>
        { locals := [node.table.reference], expression }) env
  | _, _ => []

/-- A statement reached through a predicate of a conflict clause. -/
def BehindConflict (root : QueryNode V) (place : QueryNode V × Env) : Prop :=
  ∃ outer start, Occurs root outer ∧ start ∈ conflictQueries outer.1 outer.2 ∧
    Relation.ReflTransGen Encloses start place

/-- Behind conflict predicates no entry modifies data, and no CTE source borrows the name of an
enclosing relation that is no declared entry. -/
def CleanConflicts (root : QueryNode V) : Prop :=
  ∀ node env, BehindConflict root (node, env) →
    dataModifyingCtes node = [] ∧
    ∀ name ∈ usedCtes node, name ∈ env.sources ∨ name ∈ env.later →
      name ∈ (clauseEnv node env).declaredNames

theorem conflictQueries_inside {place start : QueryNode V × Env}
    (member : start ∈ conflictQueries place.1 place.2) : Encloses place start := by
  obtain ⟨node, env⟩ := place
  cases node with
  | insert node =>
      simp only [conflictQueries, clauseQueries, List.mem_flatMap, List.mem_map] at member
      obtain ⟨clause, ⟨expression, held, rfl⟩, query, nested, rfl⟩ := member
      simp only [Encloses, inside, clauseQueries, ownClauses, List.mem_append, List.mem_flatMap,
        List.mem_map]
      have own : expression ∈ dmlExpressions (.insert node) :=
        List.mem_append_right _ (List.mem_flatMap.mpr held)
      exact Or.inr ⟨_, ⟨expression, own, rfl⟩, query, nested, rfl⟩
  | _ => simp [conflictQueries] at member

theorem BehindConflict.within {root : QueryNode V} {place : QueryNode V × Env}
    (behind : BehindConflict root place) : Relation.TransGen Encloses (root, {}) place := by
  obtain ⟨outer, start, occurs, member, below⟩ := behind
  exact Relation.TransGen.trans_left
    (Relation.TransGen.tail' occurs (conflictQueries_inside member)) below

/-! ### What `nestedScopes` reaches -/

theorem mem_nestedScopes {node : QueryNode V} {visible : List String}
    {scope : QueryNode V × List String} :
    scope ∈ nestedScopes node visible ↔
      ∃ child ∈ childScopes node visible, scope = child ∨ scope ∈ nestedScopes child.1 child.2 := by
  rw [nestedScopes_eq]
  simp

/-- `nestedScopes` is closed under taking children. -/
theorem childScopes_nested {root : QueryNode V} {visible : List String}
    {scope child : QueryNode V × List String} (reached : scope ∈ nestedScopes root visible)
    (member : child ∈ childScopes scope.1 scope.2) : child ∈ nestedScopes root visible := by
  obtain ⟨first, inFirst, rest⟩ := mem_nestedScopes.mp reached
  have : sizeOf first.1 < sizeOf root := sizeOf_lt_of_mem_childScopes inFirst
  refine mem_nestedScopes.mpr ⟨first, inFirst, Or.inr ?_⟩
  rcases rest with rfl | deeper
  · exact mem_nestedScopes.mpr ⟨child, member, Or.inl rfl⟩
  · exact childScopes_nested deeper member
termination_by sizeOf root

/-- The names a scope carries are names of declared entries. -/
def ScopeMatches (visible : List String) (env : Env) : Prop :=
  ∀ name ∈ visible, name ∈ env.declaredNames

theorem cteBodies_scope {ctes : List (CteNode V)} {env : Env} {all before : List Entry}
    {recursive : Bool} {bound : List String}
    (known : ∀ name ∈ bound, name ∈ before.map (·.name) ∨ name ∈ env.declaredNames)
    {query : QueryNode V} {queryEnv : Env}
    (member : (query, queryEnv) ∈ cteBodies env all recursive before ctes) :
    ∃ names, (query, names) ∈ cteScopes ctes bound ∧ ScopeMatches names queryEnv := by
  induction ctes generalizing before bound with
  | nil => simp [cteBodies] at member
  | cons cte rest ih =>
      simp only [cteBodies, List.mem_cons, Prod.mk.injEq] at member
      rcases member with ⟨rfl, rfl⟩ | member
      · refine ⟨_, List.mem_cons_self, ?_⟩
        intro name inNames
        rw [declaredNames_push]
        cases recursive : cte.recursive <;>
          simp only [recursive, Bool.false_eq_true, if_false, if_true, List.mem_cons,
            List.map_cons, List.mem_append] at inNames ⊢
        · exact known name inNames
        · rcases inNames with rfl | inNames
          · exact Or.inl (Or.inl rfl)
          · exact (known name inNames).imp Or.inr id
      · have known' : ∀ name ∈ cte.name :: bound,
            name ∈ (Entry.mk env.levels.length before.length cte.name :: before).map (·.name) ∨
              name ∈ env.declaredNames := by
          intro name inNames
          simp only [List.mem_cons, List.map_cons] at inNames ⊢
          rcases inNames with rfl | inNames
          · exact Or.inl (Or.inl rfl)
          · exact (known name inNames).imp Or.inr id
        obtain ⟨names, found, matched⟩ := ih known' member
        exact ⟨names, List.mem_cons_of_mem _ found, matched⟩

theorem mainEnv_scope {node : SelectNode V} {visible : List String} {env : Env}
    (matched : ScopeMatches visible env) :
    ScopeMatches (afterCtes node.ctes visible) (node.mainEnv env) := by
  intro name member
  rw [SelectNode.mainEnv, declaredNames_push]
  refine List.mem_append.mpr ((mem_afterCtes.mp member).imp (fun own => ?_) (matched name))
  exact (entriesAfter_names _ [] node.ctes name).mpr (Or.inl own)

/-- What stands directly inside a statement is among its child scopes, unless it stands in a
predicate of a conflict clause. -/
theorem childScopes_complete {node : QueryNode V} {visible : List String} {env : Env}
    (matched : ScopeMatches visible env) {query : QueryNode V} {queryEnv : Env}
    (member : (query, queryEnv) ∈ inside node env) :
    (∃ names, (query, names) ∈ childScopes node visible ∧ ScopeMatches names queryEnv) ∨
      (query, queryEnv) ∈ conflictQueries node env := by
  simp only [inside, List.mem_append] at member
  cases node with
  | select node =>
      have main : ScopeMatches (afterCtes node.ctes visible) (node.mainEnv env) :=
        mainEnv_scope matched
      refine Or.inl ?_
      simp only [childScopes, List.mem_append, List.mem_map, Prod.mk.injEq]
      rcases member with member | member
      · simp only [nestedStatements, List.mem_append, List.mem_map, Prod.mk.injEq] at member
        rcases member with (bodies | ⟨inner, derived, rfl, rfl⟩) | ⟨arm, inArms, rfl, rfl⟩
        · obtain ⟨names, found, inBody⟩ := cteBodies_scope (fun _ known => Or.inr (matched _ known)) bodies
          exact ⟨names, Or.inl (Or.inl (Or.inl found)), inBody⟩
        · exact ⟨_, Or.inl (Or.inl (Or.inr ⟨inner, derived, rfl, rfl⟩)), main⟩
        · exact ⟨_, Or.inl (Or.inr ⟨arm, inArms, rfl, rfl⟩), main⟩
      · simp only [clauseQueries, List.mem_flatMap, List.mem_map, Prod.mk.injEq] at member
        obtain ⟨clause, inClauses, inner, nested, rfl, rfl⟩ := member
        have expression : inner ∈ node.scopeExpressions.flatMap subqueries :=
          List.mem_flatMap.mpr ⟨_, clause_expression inClauses, nested⟩
        exact ⟨_, Or.inr ⟨inner, expression, rfl, rfl⟩, main⟩
  | insert node =>
      rcases member with member | member
      · simp only [nestedStatements, List.mem_map, Option.mem_toList, Prod.mk.injEq] at member
        obtain ⟨inner, source, rfl, rfl⟩ := member
        refine Or.inl ⟨visible, ?_, matched⟩
        unfold InsertNode.sourceQuery at source
        split at source
        · rename_i held
          cases source
          simp [childScopes, held]
        · simp at source
      · simp only [clauseQueries, clauseEnv, ownClauses, List.mem_flatMap, List.mem_map,
          Prod.mk.injEq] at member
        obtain ⟨-, ⟨expression, own, rfl⟩, inner, nested, rfl, rfl⟩ := member
        simp only [dmlExpressions, InsertNode.assignedValues, List.mem_append] at own
        by_cases predicate : expression ∈ node.conflict.toList.flatMap ConflictNode.predicates
        · refine Or.inr ?_
          simp only [conflictQueries, clauseQueries, List.mem_flatMap, List.mem_map,
            Prod.mk.injEq]
          exact ⟨_, ⟨expression, List.mem_flatMap.mp predicate, rfl⟩, inner, nested, rfl, rfl⟩
        · have visited : expression ∈ scopeExpressions (.insert node) := by
            simp only [scopeExpressions, List.mem_append]
            grind
          have query : inner ∈ (scopeExpressions (.insert node)).flatMap subqueries :=
            List.mem_flatMap.mpr ⟨_, visited, nested⟩
          refine Or.inl ⟨visible, ?_, matched⟩
          simp only [childScopes, List.mem_append, List.mem_map]
          exact Or.inr ⟨inner, query, rfl⟩
  | update node =>
      rcases member with member | member
      · simp [nestedStatements] at member
      · simp only [clauseQueries, clauseEnv, ownClauses, List.mem_flatMap, List.mem_map,
          Prod.mk.injEq] at member
        obtain ⟨-, ⟨expression, own, rfl⟩, inner, nested, rfl, rfl⟩ := member
        have visited : expression ∈ scopeExpressions (.update node) := by
          simp only [dmlExpressions, scopeExpressions, List.mem_append] at own ⊢
          grind
        have query : inner ∈ (scopeExpressions (.update node)).flatMap subqueries :=
          List.mem_flatMap.mpr ⟨_, visited, nested⟩
        exact Or.inl ⟨visible, by simpa [childScopes] using query, matched⟩
  | delete node =>
      rcases member with member | member
      · simp [nestedStatements] at member
      · simp only [clauseQueries, clauseEnv, ownClauses, List.mem_flatMap, List.mem_map,
          Prod.mk.injEq] at member
        obtain ⟨-, ⟨expression, own, rfl⟩, inner, nested, rfl, rfl⟩ := member
        have query : inner ∈ (scopeExpressions (.delete node)).flatMap subqueries :=
          List.mem_flatMap.mpr ⟨expression, own, nested⟩
        exact Or.inl ⟨visible, by simpa [childScopes] using query, matched⟩

/-- Every statement strictly inside the root is a nested scope or stands behind a conflict
predicate. -/
theorem nestedScopes_complete {root : QueryNode V} {place : QueryNode V × Env}
    (within : Relation.TransGen Encloses (root, {}) place) :
    (∃ names, (place.1, names) ∈ nestedScopes root [] ∧ ScopeMatches names place.2) ∨
      BehindConflict root place := by
  induction within with
  | single encloses =>
      have outermost : ScopeMatches [] ({} : Env) := by simp [ScopeMatches]
      rcases childScopes_complete outermost encloses with ⟨names, found, matched⟩ | conflict
      · exact Or.inl ⟨names, mem_nestedScopes.mpr ⟨_, found, Or.inl rfl⟩, matched⟩
      · exact Or.inr ⟨_, _, .refl, conflict, .refl⟩
  | tail within encloses ih =>
      rcases ih with ⟨names, found, matched⟩ | behind
      · rcases childScopes_complete matched encloses with ⟨inner, deeper, matched⟩ | conflict
        · exact Or.inl ⟨inner, childScopes_nested found deeper, matched⟩
        · exact Or.inr ⟨_, _, within.to_reflTransGen, conflict, .refl⟩
      · obtain ⟨outer, start, occurs, member, below⟩ := behind
        exact Or.inr ⟨outer, start, occurs, member, below.tail encloses⟩

/-! ### The two rules -/

section
variable [DecidableEq V] [PyObject V]

/-- An accepted statement reads CTEs under enclosing names only. -/
theorem accepted_usedCtes {root : QueryNode V} {dialect : Dialect} (accepted : Accepted root dialect)
    {node : QueryNode V} {env : Env} (occurs : Occurs root (node, env)) {name : String}
    (used : name ∈ usedCtes node) :
    (name ∈ env.sources ∨ name ∈ env.later) ∨ name ∈ (clauseEnv node env).declaredNames := by
  obtain ⟨outer, statement, covers⟩ := accepted_occurs accepted occurs
  cases node with
  | select node =>
      rw [validateStatement] at statement
      obtain ⟨first, available, rules⟩ :=
        validateSources_rules (validateSelect_iff.mp statement).sources
      rcases covers.main node name (rules.ctes name used) with source | later | declared
      · exact Or.inl (Or.inl source)
      · exact Or.inl (Or.inr later)
      · exact Or.inr declared
  | _ => simp [usedCtes] at used

theorem accepted_visibility {root : QueryNode V} {dialect : Dialect}
    (accepted : Accepted root dialect) {node : SelectNode V} {visible : List String}
    (reached : (.select node, visible) ∈ nestedScopes root []) {name : String}
    (used : name ∈ usedCtes (.select node)) : name ∈ node.ctes.map (·.name) ++ visible := by
  simp only [Accepted, validateQuery, validateNestedCteVisibility, seq_eq_ok, forM_eq_ok]
    at accepted
  have := accepted.2.1 _ reached
  simp only [forM_eq_ok, check_eq_ok] at this
  exact this name used

theorem accepted_placement {root : QueryNode V} {dialect : Dialect}
    (accepted : Accepted root dialect) {node : QueryNode V} {visible : List String}
    (reached : (node, visible) ∈ nestedScopes root []) : dataModifyingCtes node = [] := by
  simp only [Accepted, validateQuery, validateDataModifyingCtePlacement, seq_eq_ok, check_eq_ok,
    List.flatMap_eq_nil_iff] at accepted
  exact accepted.1 node (List.mem_map.mpr ⟨_, reached, rfl⟩)

/-- A CTE source of an accepted query is bound, unless it stands behind a conflict predicate. -/
theorem accepted_bound {root : QueryNode V} {dialect : Dialect} (accepted : Accepted root dialect)
    {node : QueryNode V} {env : Env} (occurs : Occurs root (node, env)) {name : String}
    (used : name ∈ usedCtes node) :
    name ∈ (clauseEnv node env).declaredNames ∨ BehindConflict root (node, env) := by
  rcases Relation.reflTransGen_iff_eq_or_transGen.mp occurs with same | within
  · cases same
    exact (accepted_usedCtes accepted occurs used).elim (by simp) Or.inl
  · rcases nestedScopes_complete within with ⟨visible, reached, matched⟩ | behind
    · cases node with
      | select node =>
          rw [clauseEnv, SelectNode.mainEnv, declaredNames_push]
          refine Or.inl (List.mem_append.mpr ?_)
          rcases List.mem_append.mp (accepted_visibility accepted reached used) with own | outer
          · exact Or.inl ((entriesAfter_names _ [] _ name).mpr (Or.inl own))
          · exact Or.inr (matched name outer)
      | _ => simp [usedCtes] at used
    · exact Or.inr behind

/-- In an accepted query CTE sources are bound by declared entries and data-modifying entries stand
outermost exactly when that is so behind conflict predicates. -/
theorem cteBinding_iff {root : QueryNode V} {dialect : Dialect} (accepted : Accepted root dialect) :
    CtesBound root ∧ DataModifyingOutermost root ↔ CleanConflicts root := by
  constructor
  · rintro ⟨bound, outermost⟩ node env behind
    refine ⟨outermost node env behind.within, fun name used _ => ?_⟩
    exact bound node env behind.within.to_reflTransGen name used
  · intro clean
    refine ⟨fun node env occurs name used => ?_, fun node env within => ?_⟩
    · rcases accepted_bound accepted occurs used with declared | behind
      · exact declared
      · rcases accepted_usedCtes accepted occurs used with borrowed | declared
        · exact (clean node env behind).2 name used borrowed
        · exact declared
    · rcases nestedScopes_complete within with ⟨visible, reached, -⟩ | behind
      · exact accepted_placement accepted reached
      · exact (clean node env behind).1

end

/-- `INSERT INTO "t" … ON CONFLICT ("id") DO UPDATE SET … WHERE EXISTS (WITH "d" AS (DELETE FROM "t"
RETURNING "t"."id") SELECT "t"."id" FROM "t")`, the last `"t"` a CTE source. -/
def conflictScope : SelectNode Int :=
  { selections := [.column "t" "id"]
    fromSource := some (.cte "t")
    ctes := [
      { name := "d"
        query := .delete
          { table := { name := "t" }, bounded := true, returning := [.column "t" "id"] } }] }

def conflictInsert : QueryNode Int :=
  .insert
    { table := { name := "t" }
      source := some (.values [("id", .value 1)])
      conflict := some
        { columns := ["id"]
          action := "update"
          updateValues := [("id", .value 2)]
          updateWhere := some (.exists conflictScope false) } }

theorem conflictInsert_encloses :
    Encloses (conflictInsert, {}) (.select conflictScope, { sources := ["t"] }) := by
  have predicate : Node.exists conflictScope false ∈
      [ConflictNode.mk ["id"] "update" [("id", .value 2)] none
        (some (.exists conflictScope false))].flatMap ConflictNode.predicates := by
    simp [ConflictNode.predicates]
  have nested : conflictScope ∈ subqueries (.exists conflictScope false) :=
    mem_subqueries.mpr ⟨_, self_mem_walk _, rfl⟩
  exact conflictQueries_inside (List.mem_flatMap.mpr
    ⟨_, List.mem_map.mpr ⟨_, predicate, rfl⟩, List.mem_map.mpr ⟨_, nested, rfl⟩⟩)

/-- Neither rule holds behind the predicate of an accepted INSERT. -/
theorem conflictInsert_unbound :
    Accepted conflictInsert postgres ∧ ¬CtesBound conflictInsert ∧
      ¬DataModifyingOutermost conflictInsert := by
  refine ⟨by decide +kernel, fun bound => ?_, fun outermost => ?_⟩
  · have := bound _ _ (.single conflictInsert_encloses) "t" (by
      simp [usedCtes, conflictScope, SelectNode.sources, SourceNode.cteName])
    revert this
    decide +kernel
  · have := outermost _ _ (.single conflictInsert_encloses)
    revert this
    decide +kernel

theorem cteBinding_iff_conflictInsert :
    CtesBound conflictInsert ∧ DataModifyingOutermost conflictInsert ↔
      CleanConflicts conflictInsert := by
  have accepted : Accepted conflictInsert postgres := by decide +kernel
  exact cteBinding_iff accepted

end Relq
