/-
Module: Relq.Placement.Excluded
Layer: Placement
Purpose: Where `excluded()` stands in an accepted statement. Each place of the statement is taken with
  the INSERT targets whose ON CONFLICT DO UPDATE clauses stand around it. The validator looks at the
  clauses of an INSERT other than RETURNING, pools its VALUES cells with the conflict assignments, and
  looks at no other statement; `excludedConfined_iff` says that nothing else escapes it.
Imports: Relq.Scoping.Acceptance
Trusted boundary: human-reviewed spec (licensedClauses, Licensed, ExcludedConfined)
Main exports: licensedClauses, Licensed, ExcludedConfined, UncheckedExcludedConfined,
  excludedConfined_iff
-/
import Relq.Scoping.Acceptance

namespace Relq

open Outcome

variable {V : Type}

/-! ### Places and their licences -/

/-- The expressions of the DO UPDATE part of a conflict clause. -/
def ConflictNode.updateExpressions (conflict : ConflictNode V) : List (Node V) :=
  if conflict.action = "update" then
    conflict.updateValues.map (·.2) ++ conflict.updateWhere.toList
  else []

/-- The other expressions of a conflict clause. -/
def ConflictNode.otherExpressions (conflict : ConflictNode V) : List (Node V) :=
  conflict.targetWhere.toList ++
    if conflict.action = "update" then []
    else conflict.updateValues.map (·.2) ++ conflict.updateWhere.toList

/-- A clause of a statement that writes `table`. -/
def tableClause (table : TableSourceNode) (expression : Node V) : Clause V :=
  { locals := [table.reference], expression }

/-- The clauses of a statement, each with the table whose proposed row it may name. -/
def licensedClauses : QueryNode V → List (Clause V × List String)
  | .insert node =>
      (node.conflict.toList.flatMap ConflictNode.updateExpressions).map
          (fun expression => (tableClause node.table expression, [node.table.reference])) ++
        (insertValues node.source ++ node.returning ++
          node.conflict.toList.flatMap ConflictNode.otherExpressions).map
          fun expression => (tableClause node.table expression, [])
  | node => (ownClauses node).map fun clause => (clause, [])

/-- A statement occurs in `root` inside the DO UPDATE clauses of INSERTs into `names`. -/
inductive Licensed (root : QueryNode V) : QueryNode V × Env → List String → Prop where
  | root : Licensed root (root, {}) []
  | nested {place inner : QueryNode V × Env} {names : List String}
      (licensed : Licensed root place names)
      (member : inner ∈ nestedStatements place.1 place.2) : Licensed root inner names
  | subquery {place : QueryNode V × Env} {names own : List String} {clause : Clause V}
      {query : SelectNode V} (licensed : Licensed root place names)
      (slot : (clause, own) ∈ licensedClauses place.1)
      (member : query ∈ subqueries clause.expression) :
      Licensed root (.select query, (clauseEnv place.1 place.2).enter clause) (own ++ names)

/-- Every `excluded()` stands in the DO UPDATE clause of an INSERT into the table it names. -/
def ExcludedConfined (root : QueryNode V) : Prop :=
  ∀ place names, Licensed root place names → ∀ clause own, (clause, own) ∈ licensedClauses place.1 →
    ∀ source ∈ excludedSources clause.expression, source ∈ own ++ names

/-- The expressions of a statement in which no check looks for `excluded()`, or in which one looks but
takes them for conflict assignments. -/
def uncheckedExpressions : QueryNode V → List (Node V)
  | .insert node => insertValues node.source ++ node.returning
  | node => (ownClauses node).map (·.expression)

def UncheckedExcludedConfined (root : QueryNode V) : Prop :=
  ∀ place names, Licensed root place names → ∀ expression ∈ uncheckedExpressions place.1,
    ∀ source ∈ excludedSources expression, source ∈ names

/-! ### Licences and scopes -/

theorem mem_conflictExpressions {conflict : ConflictNode V} {expression : Node V} :
    expression ∈ conflict.updateExpressions ∨ expression ∈ conflict.otherExpressions ↔
      expression ∈ conflict.updateValues.map (·.2) ∨ expression ∈ conflict.predicates := by
  by_cases update : conflict.action = "update" <;>
    simp only [ConflictNode.updateExpressions, ConflictNode.otherExpressions,
      ConflictNode.predicates, update, if_true, if_false, List.mem_append, List.not_mem_nil,
      or_false, false_or] <;> grind

/-- The licensed clauses are the clauses of the statement. -/
theorem ownClauses_of_licensed {node : QueryNode V} {clause : Clause V} {own : List String}
    (slot : (clause, own) ∈ licensedClauses node) : clause ∈ ownClauses node := by
  cases node with
  | insert node =>
      have visited : ∀ expression, (expression ∈ insertValues node.source ++ node.returning ∨
          ∃ conflict ∈ node.conflict, expression ∈ conflict.updateExpressions ∨
            expression ∈ conflict.otherExpressions) →
          tableClause node.table expression ∈ ownClauses (.insert node) := by
        intro expression placed
        refine List.mem_map.mpr ⟨expression, ?_, rfl⟩
        simp only [dmlExpressions, InsertNode.assignedValues, List.mem_append, List.mem_flatMap,
          Option.mem_toList]
        rcases placed with plain | ⟨conflict, present, listed⟩
        · rcases List.mem_append.mp plain with value | returned
          · exact .inl (.inr (.inl value))
          · exact .inl (.inl returned)
        · rcases mem_conflictExpressions.mp listed with assigned | predicate
          · exact .inl (.inr (.inr ⟨conflict, present, assigned⟩))
          · exact .inr ⟨conflict, present, predicate⟩
      simp only [licensedClauses, List.mem_append, List.mem_map, List.mem_flatMap,
        Option.mem_toList, Prod.mk.injEq] at slot
      rcases slot with ⟨expression, ⟨conflict, present, listed⟩, rfl, -⟩ |
        ⟨expression, (plain | ⟨conflict, present, listed⟩), rfl, -⟩
      · exact visited expression (.inr ⟨conflict, present, .inl listed⟩)
      · exact visited expression (.inl (List.mem_append.mpr plain))
      · exact visited expression (.inr ⟨conflict, present, .inr listed⟩)
  | _ =>
      obtain ⟨clause, listed, same⟩ := List.mem_map.mp slot
      obtain ⟨rfl, -⟩ := Prod.mk.inj same
      exact listed

theorem Licensed.occurs {root : QueryNode V} {place : QueryNode V × Env} {names : List String}
    (licensed : Licensed root place names) : Occurs root place := by
  induction licensed with
  | root => exact .refl
  | nested _ member ih => exact ih.tail (List.mem_append_left _ member)
  | @subquery place names own clause query _ slot member ih =>
      refine ih.tail (List.mem_append_right _ ?_)
      exact List.mem_flatMap.mpr ⟨clause, ownClauses_of_licensed slot, List.mem_map_of_mem member⟩

/-! ### What acceptance guarantees -/

/-- What `validate_insert` says about `excluded()`. -/
theorem validateInsertClauses_excluded {node : InsertNode V}
    (accepted : validateInsertClauses node = .ok ()) :
    (∀ conflict ∈ node.conflict, ∀ expression ∈ conflict.targetWhere.toList,
      excludedSources expression = []) ∧
    ∀ conflict ∈ node.conflict,
      ∀ expression ∈ conflict.updateValues.map (·.2) ++ conflict.updateWhere.toList,
        ∀ source ∈ excludedSources expression,
          conflict.action = "update" ∧ source = node.table.reference := by
  cases conflict : node.conflict with
  | none => simp
  | some clause =>
      simp only [validateInsertClauses, conflict, Option.bind_some, Option.any_some, seq_eq_ok,
        check_eq_ok] at accepted
      obtain ⟨-, -, -, target, rest⟩ := accepted
      refine ⟨?_, ?_⟩
      · rintro _ ⟨⟩ expression member
        exact List.flatMap_eq_nil_iff.mp target expression member
      · rintro _ ⟨⟩ expression member source named
        have pooled : source ∈ (node.assignedValues ++ clause.updateWhere.toList).flatMap
            excludedSources := by
          refine List.mem_flatMap.mpr ⟨expression, ?_, named⟩
          simp only [InsertNode.assignedValues, conflict, List.mem_append, Option.toList_some,
            List.flatMap_singleton] at member ⊢
          exact member.elim (fun assigned => .inl (.inr assigned)) .inr
        split at rest
        · rename_i empty
          rw [List.isEmpty_iff.mp empty] at pooled
          cases pooled
        · simp only [seq_eq_ok, check_eq_ok, decide_eq_true_eq] at rest
          exact ⟨rest.1, rest.2 source pooled⟩

section
variable [DecidableEq V] [PyObject V]

/-- In an accepted INSERT the conflict clause names the proposed row rightly. -/
theorem insert_excluded {node : InsertNode V} {dialect : Dialect} {outer : List String}
    (accepted : validateStatement (.insert node) dialect outer = .ok ()) :
    validateInsertClauses node = .ok () := by
  rw [validateStatement] at accepted
  simp only [seq_eq_ok] at accepted
  exact accepted.2.2.1

/-- In an accepted statement `excluded()` is confined to conflict actions exactly when it is in the
places that no check visits. -/
theorem excludedConfined_iff {root : QueryNode V} {dialect : Dialect}
    (accepted : Accepted root dialect) :
    ExcludedConfined root ↔ UncheckedExcludedConfined root := by
  constructor
  · intro confined place names licensed expression member source named
    obtain ⟨node, env⟩ := place
    have unlicensed : ∃ clause, clause.expression = expression ∧
        (clause, []) ∈ licensedClauses node := by
      cases node with
      | insert node =>
          refine ⟨tableClause node.table expression, rfl, List.mem_append_right _ ?_⟩
          exact List.mem_map_of_mem (List.mem_append_left _ member)
      | _ =>
          obtain ⟨clause, listed, rfl⟩ := List.mem_map.mp member
          exact ⟨clause, rfl, List.mem_map_of_mem listed⟩
    obtain ⟨clause, rfl, slot⟩ := unlicensed
    exact confined (node, env) names licensed clause [] slot source named
  · intro unchecked place names licensed clause own slot source named
    obtain ⟨node, env⟩ := place
    have visited := unchecked (node, env) names licensed
    cases node with
    | insert node =>
        obtain ⟨outer, statement, -⟩ := accepted_occurs accepted licensed.occurs
        obtain ⟨target, actions⟩ := validateInsertClauses_excluded (insert_excluded statement)
        rcases List.mem_append.mp slot with update | other
        · obtain ⟨expression, listed, same⟩ := List.mem_map.mp update
          obtain ⟨rfl, rfl⟩ := Prod.mk.inj same
          obtain ⟨conflict, present, listed⟩ := List.mem_flatMap.mp listed
          simp only [ConflictNode.updateExpressions] at listed
          split at listed
          · have right := actions conflict (Option.mem_toList.mp present) expression listed source
              named
            exact List.mem_append_left _ (List.mem_singleton.mpr right.2)
          · cases listed
        · obtain ⟨expression, listed, same⟩ := List.mem_map.mp other
          obtain ⟨rfl, rfl⟩ := Prod.mk.inj same
          rcases List.mem_append.mp listed with plain | listed
          · exact visited expression plain source named
          · obtain ⟨conflict, present, listed⟩ := List.mem_flatMap.mp listed
            rcases List.mem_append.mp listed with arbiter | inactive
            · change source ∈ excludedSources expression at named
              rw [target conflict (Option.mem_toList.mp present) expression arbiter] at named
              cases named
            · split at inactive
              · cases inactive
              · rename_i other
                exact absurd (actions conflict (Option.mem_toList.mp present) expression inactive
                  source named).1 other
    | _ =>
        obtain ⟨clause, listed, same⟩ := List.mem_map.mp slot
        obtain ⟨rfl, rfl⟩ := Prod.mk.inj same
        exact visited clause.expression (List.mem_map_of_mem listed) source named

end

/-! ### A proposed row that does not exist -/

/-- `SELECT excluded."a" FROM "t"`. -/
def excludedSelect : QueryNode Int :=
  .select { selections := [.excluded "t" "a"], fromSource := some (.table { name := "t" }) }

theorem excludedSelect_unconfined :
    Accepted excludedSelect postgres ∧ ¬ExcludedConfined excludedSelect := by
  refine ⟨by decide +kernel, fun confined => ?_⟩
  have named : "t" ∈ excludedSources (.excluded "t" "a" : Node Int) := by decide +kernel
  have nowhere := confined (excludedSelect, {}) [] .root
    { locals := ["t"], expression := .excluded "t" "a" } []
    (by simp [licensedClauses, excludedSelect, ownClauses, SelectNode.clauses, joinClauses,
      SelectNode.clauseExpressions, localSources, SourceNode.reference, TableSourceNode.reference])
    "t" named
  cases nowhere

/-- `INSERT INTO "t" ("a") VALUES (1) ON CONFLICT ("a") DO UPDATE SET "a" = excluded."a"`. -/
def upsert : QueryNode Int :=
  .insert
    { table := { name := "t" }
      source := some (.values [("a", .value 1)])
      conflict := some
        { columns := ["a"], action := "update", updateValues := [("a", .excluded "t" "a")] } }

theorem excludedConfined_iff_upsert :
    Accepted upsert postgres ∧ (ExcludedConfined upsert ↔ UncheckedExcludedConfined upsert) := by
  have accepted : Accepted upsert postgres := by decide +kernel
  exact ⟨accepted, excludedConfined_iff accepted⟩

end Relq
