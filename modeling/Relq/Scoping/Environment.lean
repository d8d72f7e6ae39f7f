/-
Module: Relq.Scoping.Environment
Layer: Scoping
Purpose: SQL's scoping of statements inside statements, stated independently of the validator. An
  `Env` says what a statement can see from outside: the relations whose columns it may name, and the
  WITH clauses around it. `inside` enumerates every statement directly inside another one, whatever
  slot of whatever clause holds it, each with its environment; `Occurs` is its closure.
Imports: Mathlib.Logic.Relation (reflexive transitive closure), Relq.Compiler.Validation
Trusted boundary: human-reviewed spec
Main exports: Entry, Level, Env, Clause, ownClauses, inside, Occurs, ColumnsInScope
-/
import Mathlib.Logic.Relation
import Relq.Compiler.Validation

namespace Relq

variable {V : Type}

/-- An entry of an enclosing WITH clause: how many WITH clauses enclose that clause, the position of
the entry in it, and its name. -/
structure Entry where
  depth : Nat
  index : Nat
  name : String
deriving DecidableEq, Repr

/-- An enclosing WITH clause as a point below it sees it, later entries first. -/
structure Level where
  /-- The entries declared before this point; inside a recursive entry, that entry too. -/
  declared : List Entry
  /-- The entries SQL shows at this point: under WITH RECURSIVE the bodies see every entry. -/
  visible : List Entry
deriving Repr

/-- What a statement can see from outside. -/
structure Env where
  /-- Relations of enclosing SELECTs, or the table an enclosing statement writes. -/
  sources : List String := []
  /-- Relations of an enclosing SELECT that are joined only after the ON condition this point stands
  in, so that SQL does not show them here. -/
  later : List String := []
  /-- Enclosing WITH clauses, innermost first. -/
  levels : List Level := []
deriving Repr

namespace Env

def declared (env : Env) : List Entry :=
  env.levels.flatMap (·.declared)

def declaredNames (env : Env) : List String :=
  env.declared.map (·.name)

def push (env : Env) (level : Level) : Env :=
  { env with levels := level :: env.levels }

end Env

/-! ### WITH clauses -/

/-- The entries of a WITH clause on top of those in `before`. -/
def entriesAfter (depth : Nat) : List Entry → List (CteNode V) → List Entry
  | before, [] => before
  | before, cte :: rest => entriesAfter depth (⟨depth, before.length, cte.name⟩ :: before) rest

/-- The bodies of a WITH clause whose entries are `all`, each in its environment. -/
def cteBodies (env : Env) (all : List Entry) (recursive : Bool) :
    List Entry → List (CteNode V) → List (QueryNode V × Env)
  | _, [] => []
  | before, cte :: rest =>
      let entry : Entry := ⟨env.levels.length, before.length, cte.name⟩
      let level : Level :=
        { declared := if cte.recursive then entry :: before else before
          visible := if recursive then all else before }
      (cte.query, env.push level) :: cteBodies env all recursive (entry :: before) rest

namespace SelectNode

def entries (node : SelectNode V) (env : Env) : List Entry :=
  entriesAfter env.levels.length [] node.ctes

/-- The environment of a SELECT's parts other than the bodies of its WITH clause. -/
def mainEnv (node : SelectNode V) (env : Env) : Env :=
  env.push { declared := node.entries env, visible := node.entries env }

/-- The rendered keyword is `with recursive` as soon as one entry is recursive. -/
def isRecursive (node : SelectNode V) : Bool :=
  node.ctes.any (·.recursive)

end SelectNode

/-! ### Clauses -/

/-- An expression of a statement with the relations of that statement it may name, and those joined
only later. -/
structure Clause (V : Type) where
  locals : List String
  later : List String := []
  expression : Node V

/-- The ON conditions, each with the sources joined up to it. -/
def joinClauses : List String → List (JoinNode V) → List (Clause V)
  | _, [] => []
  | joined, join :: rest =>
      { locals := join.source.reference :: joined
        later := rest.map (·.source.reference)
        expression := join.predicate } ::
        joinClauses (join.source.reference :: joined) rest

def SelectNode.clauses (node : SelectNode V) : List (Clause V) :=
  joinClauses (node.fromSource.toList.map (·.reference)) node.joins ++
    node.clauseExpressions.map fun expression => { locals := localSources node, expression }

/-- Every expression of a statement outside the statements inside it. -/
def ownClauses : QueryNode V → List (Clause V)
  | .select node => node.clauses
  | .insert node => (dmlExpressions (.insert node)).map fun expression =>
      { locals := [node.table.reference], expression }
  | .update node => (dmlExpressions (.update node)).map fun expression =>
      { locals := [node.table.reference], expression }
  | .delete node => (dmlExpressions (.delete node)).map fun expression =>
      { locals := [node.table.reference], expression }

/-- The environment inside a clause of a statement. -/
def Env.enter (env : Env) (clause : Clause V) : Env :=
  { env with sources := clause.locals ++ env.sources, later := clause.later ++ env.later }

/-- The environment of a statement's own clauses and sources. -/
def clauseEnv : QueryNode V → Env → Env
  | .select node, env => node.mainEnv env
  | _, env => env

def clauseQueries (clauses : List (Clause V)) (env : Env) : List (QueryNode V × Env) :=
  clauses.flatMap fun clause =>
    (subqueries clause.expression).map fun query => (.select query, env.enter clause)

/-- The statements inside a statement outside its clauses: WITH bodies, derived tables, compound
arms, and the SELECT an INSERT takes its rows from. None of them sees the statement's sources. -/
def nestedStatements : QueryNode V → Env → List (QueryNode V × Env)
  | .select node, env =>
      cteBodies env (node.entries env) node.isRecursive [] node.ctes ++
        (node.sources.filterMap SourceNode.derivedQuery).map
          (fun query => (.select query, node.mainEnv env)) ++
        node.compounds.map fun compound => (.select compound.query, node.mainEnv env)
  | .insert node, env => node.sourceQuery.toList.map fun query => (.select query, env)
  | _, _ => []

/-- Every statement directly inside a statement. -/
def inside (node : QueryNode V) (env : Env) : List (QueryNode V × Env) :=
  nestedStatements node env ++ clauseQueries (ownClauses node) (clauseEnv node env)

/-- `Encloses place inner`: the statement and environment `inner` stand directly inside `place`. -/
def Encloses (place inner : QueryNode V × Env) : Prop :=
  inner ∈ inside place.1 place.2

/-- A statement occurs in `root`, at some depth, under an environment. -/
def Occurs (root : QueryNode V) (place : QueryNode V × Env) : Prop :=
  Relation.ReflTransGen Encloses (root, {}) place

/-- Every column names a source of the statement it occurs in or of one whose rows it can see. -/
def ColumnsInScope (root : QueryNode V) : Prop :=
  ∀ node env, Occurs root (node, env) → ∀ clause ∈ ownClauses node,
    ∀ source ∈ referencedSources clause.expression, source ∈ clause.locals ∨ source ∈ env.sources

end Relq
