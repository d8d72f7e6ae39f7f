/-
Module: Relq.Scoping.RecursiveForm
Layer: Scoping
Purpose: The form of recursive WITH entries. PostgreSQL reads the rendered chain of an entry's body
  as a tree of UNION ALLs to the left; its outermost left operand must not read the entry, its right
  operand must. The validator looks at the arms one by one, for the entry's name, and never into WITH
  clauses inside them; `recursionLegal_iff` says when that amounts to the rule.
Imports: Mathlib.Data.List.Nodup, Relq.Library.Chains, Relq.Scoping.Resolution
Trusted boundary: human-reviewed spec (SelectNode.setTree, RecursiveBody, ReadsEntry, LegalForm)
Main exports: SelectNode.setTree, RecursiveBody, ReadsEntry, LegalForm, RecursionLegal, Hidden,
  Shadowed, SeparatedForm, recursionLegal_iff
-/
import Mathlib.Data.List.Nodup
import Relq.Library.Chains
import Relq.Scoping.Resolution

namespace Relq

open Outcome Chains

variable {V : Type}

/-! ### Recursive entries and their bodies -/

/-- The SELECT in front of a chain, without the WITH clause and the arms: the grammar attaches the
clause to the whole chain, so that it belongs to no operand. -/
def SelectNode.core (node : SelectNode V) : SelectNode V :=
  { node with ctes := [], compounds := [] }

/-- The tree PostgreSQL reads a chain of equally binding set operators as. -/
def SelectNode.setTree (node : SelectNode V) : Tree CompoundOperator (SelectNode V) :=
  leftTree node.core (node.compounds.map fun arm => (arm.operator, arm.query))

/-- `query` is the body of the recursive entry `entry` of the WITH clause of `node`, and stands in
the environment of the last argument. -/
inductive RecursiveBody (node : SelectNode V) (env : Env) : Entry → QueryNode V → Env → Prop where
  | entry {before after : List (CteNode V)} {cte : CteNode V}
      (clause : node.ctes = before ++ cte :: after) (recursive : cte.recursive = true) :
      RecursiveBody node env ⟨env.levels.length, before.length, cte.name⟩ cte.query
        (env.push
          { declared := ⟨env.levels.length, before.length, cte.name⟩ ::
              entriesAfter env.levels.length [] before
            visible := node.entries env })

/-- The relation name a source is rendered under. -/
def SourceNode.relationName : SourceNode V → Option RelationName
  | .table relation => some relation.relationName
  | .cte name => some (.plain name)
  | .derived _ _ => none

/-- A SELECT has a source whose name denotes the entry. -/
def ReadsEntry (entry : Entry) (node : SelectNode V) (env : Env) : Prop :=
  ∃ source ∈ node.sources, ∃ name, source.relationName = some name ∧
    (node.mainEnv env).denotes id name = .entry entry

/-- `start`, or a SELECT at some depth below it, reads the entry. -/
def ReadsBelow (entry : Entry) (start : SelectNode V) (env : Env) : Prop :=
  ∃ node inner, Relation.ReflTransGen Encloses (.select start, env) (.select node, inner) ∧
    ReadsEntry entry node inner

/-- The form PostgreSQL asks of a recursive body whose chain stands in `env`. -/
def LegalForm (entry : Entry) (body : SelectNode V) (env : Env) : Prop :=
  ∃ left right, body.setTree = .node .unionAll left right ∧
    (∀ start ∈ left.leaves, ¬ReadsBelow entry start env) ∧
    ∃ start ∈ right.leaves, ReadsBelow entry start env

/-- Every recursive entry at every depth has the legal form. -/
def RecursionLegal (root : QueryNode V) : Prop :=
  ∀ node env, Occurs root (.select node, env) → ∀ entry query inner,
    RecursiveBody node env entry query inner →
      ∃ body, query = .select body ∧ LegalForm entry body (body.mainEnv inner)

/-! ### What the validator leaves open -/

/-- A WITH entry of the same name, nested below the entry, is in sight. -/
def Hidden (entry : Entry) (env : Env) : Prop :=
  ∃ inner ∈ env.visible, inner.name = entry.name ∧ entry.depth < inner.depth

/-- The source has the entry's name. -/
def SourceNode.Names (source : SourceNode V) (entry : Entry) : Prop :=
  source.relationName = some (.plain entry.name)

/-- Wherever `start` has the entry's name in FROM or JOIN, a nested WITH entry captures it. -/
def Shadowed (entry : Entry) (start : SelectNode V) (env : Env) : Prop :=
  ∀ node inner, Relation.ReflTransGen Encloses (.select start, env) (.select node, inner) →
    ∀ source ∈ node.sources, source.Names entry → Hidden entry (node.mainEnv inner)

/-- The SELECTs directly inside a SELECT which are not bodies of its WITH clause. -/
def openInside : QueryNode V → Env → List (QueryNode V × Env)
  | .select node, env =>
      (node.sources.filterMap SourceNode.derivedQuery).map
          (fun query => (.select query, node.mainEnv env)) ++
        node.compounds.map (fun compound => (.select compound.query, node.mainEnv env)) ++
        clauseQueries node.clauses (node.mainEnv env)
  | _, _ => []

/-- `inner` is reached without entering a WITH clause: `cte_references` visits exactly these. -/
def Visited (start inner : QueryNode V × Env) : Prop :=
  Relation.ReflTransGen (fun place next => next ∈ openInside place.1 place.2) start inner

/-- What the validator does not ask of a recursive body: that the WITH clauses inside the seed and
the tables in it stay clear of the entry, that all arms but the last one have its name captured, and
that the last one has not. -/
structure SeparatedForm (entry : Entry) (body : SelectNode V) (env : Env) : Prop where
  seed : ∀ node inner,
    Relation.ReflTransGen Encloses (.select body.core, env) (.select node, inner) →
      ∀ source ∈ node.sources, source.Names entry →
        (∃ table, source = .table table) ∨ ¬Visited (.select body.core, env) (.select node, inner) →
          Hidden entry (node.mainEnv inner)
  arms : ∀ arm ∈ body.compounds.dropLast, Shadowed entry arm.query env
  last : ∀ arm ∈ body.compounds.getLast?, ¬Shadowed entry arm.query env

def RecursionSeparated (root : QueryNode V) : Prop :=
  ∀ node env, Occurs root (.select node, env) → ∀ entry body inner,
    RecursiveBody node env entry (.select body) inner →
      SeparatedForm entry body (body.mainEnv inner)

/-! ### Environments below a recursive entry -/

/-- The environment stands below the entry, which is the only one of its name in its WITH clause. -/
structure Below (entry : Entry) (env : Env) : Prop where
  formed : env.WellFormed
  shown : entry ∈ env.visible
  deep : entry.depth < env.levels.length
  only : ∀ other ∈ env.visible, other.name = entry.name → other.depth = entry.depth → other = entry

/-- A statement inside another one sees one more WITH clause, or the same ones. -/
theorem cteBodies_push {ctes : List (CteNode V)} {env : Env} {before all : List Entry}
    {recursive : Bool} (stacked : Stacked env.levels.length before)
    (whole : Stacked env.levels.length all) {query : QueryNode V} {queryEnv : Env}
    (member : (query, queryEnv) ∈ cteBodies env all recursive before ctes) :
    ∃ level, queryEnv = env.push level ∧
      ∀ entry ∈ level.visible, entry.depth = env.levels.length := by
  induction ctes generalizing before with
  | nil => cases member
  | cons cte rest ih =>
      simp only [cteBodies, List.mem_cons, Prod.mk.injEq] at member
      rcases member with ⟨-, rfl⟩ | member
      · refine ⟨_, rfl, ?_⟩
        cases recursive with
        | false => exact stacked.depth_eq
        | true => exact whole.depth_eq
      · exact ih (stacked.cons cte.name) member

theorem Below.push {entry : Entry} {env : Env} (below : Below entry env) {level : Level}
    (formed : (env.push level).WellFormed)
    (depths : ∀ other ∈ level.visible, other.depth = env.levels.length) :
    Below entry (env.push level) := by
  have visible : (env.push level).visible = level.visible ++ env.visible := rfl
  have deeper : (env.push level).levels.length = env.levels.length + 1 := rfl
  have deep := below.deep
  refine ⟨formed, ?_, by omega, fun other member same depth => ?_⟩
  · rw [visible]
    exact List.mem_append_right _ below.shown
  · rw [visible] at member
    rcases List.mem_append.mp member with inner | outer
    · have := depths other inner
      omega
    · exact below.only other outer same depth

theorem Below.main {entry : Entry} {env : Env} (below : Below entry env) (node : SelectNode V) :
    Below entry (node.mainEnv env) :=
  below.push (below.formed.main node) ((Stacked.nil _).entriesAfter node.ctes).depth_eq

theorem Below.encloses {entry : Entry} {place inner : QueryNode V × Env}
    (below : Below entry place.2) (encloses : Encloses place inner) : Below entry inner.2 := by
  obtain ⟨node, env⟩ := place
  obtain ⟨query, queryEnv⟩ := inner
  have formed := inside_wellFormed below.formed encloses
  have clauses : ∀ {clauses : List (Clause V)} {outer : Env}, Below entry outer →
      (query, queryEnv) ∈ clauseQueries clauses outer → Below entry queryEnv := by
    intro clauses outer below member
    simp only [clauseQueries, List.mem_flatMap, List.mem_map, Prod.mk.injEq] at member
    obtain ⟨clause, -, _, -, -, rfl⟩ := member
    exact ⟨⟨below.formed.ordered, below.formed.depth_lt, below.formed.shown⟩, below.shown,
      below.deep, below.only⟩
  rcases List.mem_append.mp encloses with member | member
  · cases node with
    | select node =>
        simp only [nestedStatements, List.mem_append, List.mem_map, Prod.mk.injEq] at member
        rcases member with (bodies | ⟨_, -, -, rfl⟩) | ⟨_, -, -, rfl⟩
        · obtain ⟨level, rfl, depths⟩ :=
            cteBodies_push (.nil _) ((Stacked.nil _).entriesAfter node.ctes) bodies
          exact below.push formed depths
        · exact below.main node
        · exact below.main node
    | insert node =>
        simp only [nestedStatements, List.mem_map, Prod.mk.injEq] at member
        obtain ⟨_, -, -, rfl⟩ := member
        exact below
    | _ => cases member
  · cases node with
    | select node => exact clauses (below.main node) member
    | _ => exact clauses below member

theorem Below.reached {entry : Entry} {place inner : QueryNode V × Env}
    (below : Below entry place.2) (reached : Relation.ReflTransGen Encloses place inner) :
    Below entry inner.2 := by
  induction reached with
  | refl => exact below
  | tail _ encloses ih => exact ih.encloses encloses

/-- Below a recursive entry, a name denotes it exactly when it is the entry's own name and no nested
entry hides that. -/
theorem Below.denotes_iff {entry : Entry} {env : Env} (below : Below entry env)
    {name : RelationName} :
    env.denotes id name = .entry entry ↔ name = .plain entry.name ∧ ¬Hidden entry env := by
  cases name with
  | qualified schema name => simp [Env.denotes]
  | plain name =>
      rw [denotes_entry_iff below.formed]
      simp only [id_eq, RelationName.plain.injEq]
      constructor
      · rintro ⟨-, rfl, nearest⟩
        refine ⟨rfl, ?_⟩
        rintro ⟨inner, shown, same, deeper⟩
        rcases nearest inner shown same with rfl | farther
        · omega
        · simp only [Nearer] at farther
          omega
      · rintro ⟨rfl, visible⟩
        refine ⟨below.shown, rfl, fun other member same => ?_⟩
        rcases Nat.lt_trichotomy other.depth entry.depth with outer | level | nested
        · exact .inr (.inl outer)
        · exact .inl (below.only other member same level)
        · exact absurd ⟨other, member, same, nested⟩ visible

theorem readsEntry_iff {entry : Entry} {node : SelectNode V} {env : Env}
    (below : Below entry env) :
    ReadsEntry entry node env ↔
      ∃ source ∈ node.sources, source.Names entry ∧ ¬Hidden entry (node.mainEnv env) := by
  have main := below.main node
  constructor
  · rintro ⟨source, member, name, named, denoted⟩
    obtain ⟨rfl, plain⟩ := main.denotes_iff.mp denoted
    exact ⟨source, member, named, plain⟩
  · rintro ⟨source, member, named, plain⟩
    exact ⟨source, member, _, named, main.denotes_iff.mpr ⟨rfl, plain⟩⟩

/-- Nothing below a SELECT reads the entry exactly when its name is captured everywhere. -/
theorem shadowed_iff {entry : Entry} {start : SelectNode V} {env : Env} (below : Below entry env) :
    Shadowed entry start env ↔ ¬ReadsBelow entry start env := by
  constructor
  · rintro shadowed ⟨node, inner, reached, reads⟩
    have within : Below entry inner := below.reached reached
    obtain ⟨source, member, named, plain⟩ := (readsEntry_iff within).mp reads
    exact plain (shadowed node inner reached source member named)
  · intro clear node inner reached source member named
    have within : Below entry inner := below.reached reached
    by_cases hidden : Hidden entry (node.mainEnv inner)
    · exact hidden
    · exact absurd ⟨node, inner, reached, (readsEntry_iff within).mpr
        ⟨source, member, named, hidden⟩⟩ clear

/-! ### What acceptance guarantees -/

/-- A name of a CTE source that is reached without entering a WITH clause is among the references
collected from the start. -/
theorem visited_cteReferences {start node : SelectNode V} {env inner : Env} {name : String}
    (visited : Visited (.select start, env) (.select node, inner))
    (used : .cte name ∈ node.sources) : name ∈ cteReferences start := by
  have collected : ∀ place, Visited place (.select node, inner) → ∀ outer,
      place.1 = .select outer → name ∈ cteReferences outer := by
    intro place visited
    induction visited using Relation.ReflTransGen.head_induction_on with
    | refl =>
        rintro _ ⟨⟩
        rw [cteReferences.eq_def]
        simp only [List.mem_append]
        exact .inl (.inl (.inl (mem_usedCtes.mpr used)))
    | @head place next step _ ih =>
        intro outer same
        obtain ⟨_, env⟩ := place
        cases same
        rw [cteReferences.eq_def]
        simp only [openInside, clauseQueries, List.mem_append, List.mem_map, List.mem_flatMap]
          at step
        simp only [List.mem_append, List.mem_flatMap, List.mem_attach, true_and, Subtype.exists]
        rcases step with (⟨query, derived, rfl⟩ | ⟨arm, listed, rfl⟩) |
          ⟨clause, listed, query, nested, rfl⟩
        · exact .inl (.inl (.inr ⟨query, derived, ih query rfl⟩))
        · exact .inr ⟨arm, listed, ih arm.query rfl⟩
        · have member : query ∈ outer.scopeExpressions.flatMap subqueries :=
            List.mem_flatMap.mpr ⟨_, clause_expression listed, nested⟩
          exact .inl (.inr ⟨query, List.mem_flatMap.mp member, ih query rfl⟩)
  exact collected _ visited start rfl

theorem entriesAfter_append (depth : Nat) (known : List Entry) (first second : List (CteNode V)) :
    entriesAfter depth known (first ++ second) =
      entriesAfter depth (entriesAfter depth known first) second := by
  induction first generalizing known with
  | nil => rfl
  | cons cte rest ih => exact ih _

theorem entriesAfter_length (depth : Nat) (known : List Entry) (ctes : List (CteNode V)) :
    (entriesAfter depth known ctes).length = known.length + ctes.length := by
  induction ctes generalizing known with
  | nil => rfl
  | cons cte rest ih =>
      rw [entriesAfter, ih, List.length_cons, List.length_cons]
      omega

/-- The entries of a WITH clause carry its names, the last one first. -/
theorem entriesAfter_map_name (depth : Nat) (known : List Entry) (ctes : List (CteNode V)) :
    (entriesAfter depth known ctes).map (·.name) =
      (ctes.map (·.name)).reverse ++ known.map (·.name) := by
  induction ctes generalizing known with
  | nil => rfl
  | cons cte rest ih => rw [entriesAfter, ih]; simp

/-- The body of an entry stands in the environment of the entries before it. -/
theorem mem_cteBodies {env : Env} {all known : List Entry} {before after : List (CteNode V)}
    {cte : CteNode V} {entry : Entry} (recursive : cte.recursive = true)
    (own : entry = ⟨env.levels.length, known.length + before.length, cte.name⟩) :
    (cte.query, env.push
      { declared := entry :: entriesAfter env.levels.length known before, visible := all }) ∈
        cteBodies env all true known (before ++ cte :: after) := by
  induction before generalizing known with
  | nil =>
      subst own
      simp [cteBodies, recursive, entriesAfter]
  | cons first rest ih =>
      refine List.mem_cons_of_mem _ (ih ?_)
      rw [own, List.length_cons, List.length_cons]
      congr 1
      omega

/-- The body of a recursive entry is one of the statements inside the SELECT that declares it. -/
theorem RecursiveBody.encloses {node : SelectNode V} {env : Env} {entry : Entry}
    {query : QueryNode V} {inner : Env} (body : RecursiveBody node env entry query inner) :
    Encloses (.select node, env) (query, inner) := by
  obtain ⟨clause, recursive⟩ := body
  rename_i before after cte
  have announced : node.isRecursive = true := by
    rw [SelectNode.isRecursive, clause]
    simp [recursive]
  have listed : (cte.query, env.push
      { declared := ⟨env.levels.length, before.length, cte.name⟩ ::
          entriesAfter env.levels.length [] before
        visible := node.entries env }) ∈
      cteBodies env (node.entries env) node.isRecursive [] node.ctes := by
    rw [announced, clause]
    exact mem_cteBodies recursive (by simp)
  exact List.mem_append_left _ (List.mem_append_left _ (List.mem_append_left _ listed))

/-- The environment of a recursive body stands below the entry. -/
theorem RecursiveBody.below {node : SelectNode V} {env : Env} (formed : env.WellFormed)
    (distinct : (node.ctes.map (·.name)).Nodup) {entry : Entry} {query : QueryNode V} {inner : Env}
    (body : RecursiveBody node env entry query inner) : Below entry inner := by
  have whole : inner.WellFormed := inside_wellFormed formed body.encloses
  obtain ⟨clause, -⟩ := body
  rename_i before after cte
  have shown : (⟨env.levels.length, before.length, cte.name⟩ : Entry) ∈ node.entries env := by
    rw [SelectNode.entries, clause, entriesAfter_append]
    refine mem_entriesAfter after ?_
    rw [entriesAfter_length, List.length_nil, Nat.zero_add]
    exact List.mem_cons_self
  have names : ((node.entries env).map (·.name)).Nodup := by
    rw [SelectNode.entries, entriesAfter_map_name, List.map_nil, List.append_nil]
    exact List.nodup_reverse.mpr distinct
  refine ⟨whole, List.mem_append_left _ shown, Nat.lt_succ_self _, fun other member same depth => ?_⟩
  rcases List.mem_append.mp member with own | outer
  · exact List.inj_on_of_nodup_map names own shown same
  · exact absurd depth (Nat.ne_of_lt (formed.depth_lt other outer))

/-- The collector finds nothing else: each of its references stands at a visited place. -/
theorem cteReferences_visited {name : String} {start : SelectNode V} (env : Env)
    (collected : name ∈ cteReferences start) :
    ∃ node inner, Visited (.select start, env) (.select node, inner) ∧ .cte name ∈ node.sources := by
  induction start using cteReferences.induct generalizing env with
  | case1 start derivedIh nestedIh armIh =>
      rw [cteReferences.eq_def] at collected
      simp only [List.mem_append, List.mem_flatMap, List.mem_attach, true_and, Subtype.exists]
        at collected
      rcases collected with ((own | ⟨query, derived, deeper⟩) | ⟨query, nested, deeper⟩) |
        ⟨arm, listed, deeper⟩
      · exact ⟨start, env, .refl, mem_usedCtes.mp own⟩
      · obtain ⟨node, inner, visited, used⟩ := derivedIh ⟨query, derived⟩ (start.mainEnv env) deeper
        refine ⟨node, inner, .head ?_ visited, used⟩
        exact List.mem_append_left _ (List.mem_append_left _ (List.mem_map_of_mem derived))
      · obtain ⟨expression, listed, held⟩ := nested
        obtain ⟨clause, member, rfl⟩ := clause_expression_iff.mpr listed
        obtain ⟨node, inner, visited, used⟩ :=
          nestedIh ⟨query, List.mem_flatMap.mpr ⟨_, listed, held⟩⟩
            ((start.mainEnv env).enter clause) deeper
        refine ⟨node, inner, .head (List.mem_append_right _ ?_) visited, used⟩
        exact List.mem_flatMap.mpr ⟨clause, member, List.mem_map_of_mem held⟩
      · obtain ⟨node, inner, visited, used⟩ := armIh ⟨arm, listed⟩ (start.mainEnv env) deeper
        refine ⟨node, inner, .head ?_ visited, used⟩
        exact List.mem_append_left _ (List.mem_append_right _ (List.mem_map.mpr ⟨arm, listed, rfl⟩))

theorem Visited.reached {start inner : QueryNode V × Env} (visited : Visited start inner) :
    Relation.ReflTransGen Encloses start inner := by
  induction visited with
  | refl => exact .refl
  | @tail place next _ step ih =>
      refine ih.tail ?_
      obtain ⟨node, env⟩ := place
      cases node with
      | select node =>
          simp only [openInside, List.mem_append] at step
          simp only [Encloses, inside, nestedStatements, List.mem_append]
          rcases step with (derived | arm) | nested
          · exact .inl (.inl (.inr derived))
          · exact .inl (.inr arm)
          · exact .inr nested
      | _ => cases step

/-- What `validate_recursive_cte` says about a recursive entry's body. -/
structure RecursiveRules (body : SelectNode V) (name : String) : Prop where
  seed : name ∉ cteReferences body.core
  compounds : body.compounds ≠ []
  operators : ∀ arm ∈ body.compounds, arm.operator = .unionAll
  arms : ∀ arm ∈ body.compounds, name ∈ cteReferences arm.query

/-- The references collected from a SELECT are not those of its WITH clause. -/
theorem cteReferences_core (node : SelectNode V) :
    cteReferences { node with compounds := [] } = cteReferences node.core := by
  rw [cteReferences.eq_def, cteReferences.eq_def]
  rfl

theorem validateRecursiveCte_rules {body : SelectNode V} {name : String}
    (accepted : validateRecursiveCte body name = .ok ()) : RecursiveRules body name := by
  rw [validateRecursiveCte_eq_ok, cteReferences_core] at accepted
  obtain ⟨seed, compounds, arms⟩ := accepted
  exact ⟨seed, compounds, fun arm member => (arms arm member).1,
    fun arm member => (arms arm member).2⟩

section
variable [DecidableEq V] [PyObject V]

theorem validateCtes_body {ctes : List (CteNode V)} {dialect : Dialect} {outer visible : List String}
    (accepted : validateCtes ctes dialect outer visible = .ok ()) {cte : CteNode V}
    (member : cte ∈ ctes) :
    ∃ sources, validateCteBody cte.query cte.name cte.recursive dialect sources = .ok () := by
  induction ctes generalizing visible with
  | nil => cases member
  | cons first rest ih =>
      obtain ⟨name, body, recursive, materialized⟩ := first
      rw [validateCtes] at accepted
      simp only [seq_eq_ok] at accepted
      obtain ⟨-, accepted, later⟩ := accepted
      rcases List.mem_cons.mp member with rfl | member
      · exact ⟨_, accepted⟩
      · exact ih later member

theorem recursiveBody_rules {node : SelectNode V} {env : Env} {dialect : Dialect}
    {outer : List String} (accepted : validateCtes node.ctes dialect outer [] = .ok ())
    {entry : Entry} {query : QueryNode V} {inner : Env}
    (body : RecursiveBody node env entry query inner) :
    ∃ select, query = .select select ∧ RecursiveRules select entry.name := by
  obtain ⟨clause, recursive⟩ := body
  rename_i before after cte
  have member : cte ∈ node.ctes := by simp [clause]
  obtain ⟨sources, accepted⟩ := validateCtes_body accepted member
  rw [validateCteBody.eq_def, recursive] at accepted
  cases query : cte.query with
  | select select =>
      simp only [query, if_true, seq_eq_ok] at accepted
      exact ⟨select, rfl, validateRecursiveCte_rules accepted.1⟩
  | _ => simp [query] at accepted

/-- What acceptance says about a recursive entry, at any depth. -/
theorem accepted_recursive {root : QueryNode V} {dialect : Dialect}
    (accepted : Accepted root dialect) {node : SelectNode V} {env : Env}
    (occurs : Occurs root (.select node, env)) {entry : Entry} {query : QueryNode V} {inner : Env}
    (recursive : RecursiveBody node env entry query inner) :
    Below entry inner ∧ ∃ body, query = .select body ∧ RecursiveRules body entry.name := by
  obtain ⟨outer, statement, -⟩ := accepted_occurs accepted occurs
  rw [validateStatement] at statement
  have ctes := (validateSelect_iff.mp statement).ctes
  refine ⟨?_, recursiveBody_rules ctes recursive⟩
  exact recursive.below (occurs_wellFormed occurs) (validateCtes_nodup ctes).1

omit [DecidableEq V] [PyObject V] in
/-- A body that passed the checks has the legal form exactly when its operands keep apart. -/
theorem legalForm_iff {entry : Entry} {body : SelectNode V} {env : Env} (below : Below entry env)
    (rules : RecursiveRules body entry.name) :
    LegalForm entry body env ↔ SeparatedForm entry body env := by
  obtain ⟨first, last, compounds⟩ : ∃ first last, body.compounds = first ++ [last] :=
    ⟨_, _, (List.dropLast_append_getLast rules.compounds).symm⟩
  have operator : last.operator = .unionAll := rules.operators last (by simp [compounds])
  have tree : body.setTree = .node .unionAll
      (leftTree body.core (first.map fun arm => (arm.operator, arm.query))) (.leaf last.query) := by
    rw [SelectNode.setTree, compounds, List.map_append, List.map_singleton, leftTree_append,
      operator]
  have dropped : body.compounds.dropLast = first := by simp [compounds]
  have final : body.compounds.getLast? = some last := by simp [compounds]
  have leftLeaves : ∀ start, start ∈
      (leftTree body.core (first.map fun arm => (arm.operator, arm.query))).leaves ↔
        start = body.core ∨ ∃ arm ∈ first, arm.query = start := by
    intro start
    rw [leftTree_leaves, List.map_map]
    simp
  constructor
  · rintro ⟨left, right, shape, clear, start, member, reads⟩
    rw [tree] at shape
    cases shape
    refine ⟨fun node inner reached source listed named _ => ?_, fun arm listed => ?_, ?_⟩
    · have shadowed := (shadowed_iff below).mpr (clear body.core ((leftLeaves _).mpr (.inl rfl)))
      exact shadowed node inner reached source listed named
    · rw [dropped] at listed
      exact (shadowed_iff below).mpr (clear arm.query ((leftLeaves _).mpr (.inr ⟨arm, listed, rfl⟩)))
    · rw [final]
      rintro _ ⟨⟩
      obtain rfl := List.mem_singleton.mp member
      exact fun shadowed => (shadowed_iff below).mp shadowed reads
  · rintro ⟨seed, arms, lastOpen⟩
    refine ⟨_, _, tree, fun start member => ?_, last.query, by simp [Tree.leaves], ?_⟩
    · refine (shadowed_iff below).mp ?_
      rcases (leftLeaves start).mp member with rfl | ⟨arm, listed, rfl⟩
      · intro node inner reached source listed named
        refine seed node inner reached source listed named ?_
        -- A CTE source of that name was visited by the check of the seed, or stands in a WITH clause.
        cases source with
        | table relation => exact .inl ⟨relation, rfl⟩
        | derived query aliasName => cases named
        | cte name =>
            refine .inr fun visited => rules.seed ?_
            obtain rfl : name = entry.name := by
              simpa [SourceNode.Names, SourceNode.relationName] using named
            exact visited_cteReferences visited listed
      · exact arms arm (dropped ▸ listed)
    · by_cases reads : ReadsBelow entry last.query env
      · exact reads
      · exact absurd ((shadowed_iff below).mpr reads) (lastOpen last final)

omit [DecidableEq V] [PyObject V] in
/-- Where no nested WITH entry takes the entry's name, a legal body has exactly one arm. -/
theorem LegalForm.single_arm {entry : Entry} {body : SelectNode V} {env : Env}
    (below : Below entry env) (rules : RecursiveRules body entry.name)
    (form : LegalForm entry body env)
    (open_ : ∀ arm ∈ body.compounds, ∀ node inner,
      Relation.ReflTransGen Encloses (.select arm.query, env) (.select node, inner) →
        ¬Hidden entry (node.mainEnv inner)) : ∃ arm, body.compounds = [arm] := by
  have shadowed := ((legalForm_iff below rules).mp form).arms
  obtain ⟨first, last, compounds⟩ : ∃ first last, body.compounds = first ++ [last] :=
    ⟨_, _, (List.dropLast_append_getLast rules.compounds).symm⟩
  cases first with
  | nil => exact ⟨last, compounds⟩
  | cons arm rest =>
      have listed : arm ∈ body.compounds := by simp [compounds]
      have dropped : arm ∈ body.compounds.dropLast := by
        rw [compounds, List.dropLast_concat]
        exact List.mem_cons_self
      obtain ⟨node, inner, visited, used⟩ := cteReferences_visited env (rules.arms arm listed)
      have hidden := shadowed arm dropped node inner visited.reached _ used rfl
      exact absurd hidden (open_ arm listed node inner visited.reached)

/-- In an accepted statement every recursive entry has the legal form exactly when the operands of
its body keep apart where no check looks. -/
theorem recursionLegal_iff {root : QueryNode V} {dialect : Dialect}
    (accepted : Accepted root dialect) : RecursionLegal root ↔ RecursionSeparated root := by
  constructor
  · intro legal node env occurs entry body inner recursive
    obtain ⟨below, _, same, rules⟩ := accepted_recursive accepted occurs recursive
    cases same
    obtain ⟨_, same, form⟩ := legal node env occurs entry _ inner recursive
    cases same
    exact (legalForm_iff (below.main body) rules).mp form
  · intro separated node env occurs entry query inner recursive
    obtain ⟨below, body, rfl, rules⟩ := accepted_recursive accepted occurs recursive
    refine ⟨body, rfl, (legalForm_iff (below.main body) rules).mpr ?_⟩
    exact separated node env occurs entry body inner recursive

end

/-! ### A second recursive arm -/

/-- `SELECT "r"."a" FROM "r"`, from the entry. -/
def recursiveArm : SelectNode Int :=
  { selections := [.column "r" "a"], fromSource := some (.cte "r") }

/-- `SELECT "t"."a" FROM "t" UNION ALL SELECT … FROM "r" UNION ALL SELECT … FROM "r"`. -/
def twoArmBody : SelectNode Int :=
  { selections := [.column "t" "a"]
    fromSource := some (.table { name := "t" })
    compounds := [
      { operator := .unionAll, query := recursiveArm },
      { operator := .unionAll, query := recursiveArm }] }

/-- `WITH RECURSIVE "r" AS (…) SELECT "r"."a" FROM "r"`. -/
def twoArms : SelectNode Int :=
  { selections := [.column "r" "a"]
    fromSource := some (.cte "r")
    ctes := [{ name := "r", query := .select twoArmBody, recursive := true }] }

/-- The first recursive arm stands in the left operand of the outermost UNION ALL. -/
theorem twoArms_illegal : Accepted (.select twoArms) postgres ∧ ¬RecursionLegal (.select twoArms) := by
  refine ⟨by decide +kernel, fun legal => ?_⟩
  obtain ⟨_, same, left, right, tree, clear, -⟩ := legal twoArms {} .refl _ _ _
    (@RecursiveBody.entry _ twoArms {} [] [] _ rfl rfl)
  cases same
  cases tree
  refine clear recursiveArm (by simp [twoArmBody, Tree.leaves]) ?_
  refine ⟨recursiveArm, _, .refl, .cte "r", by simp [recursiveArm, SelectNode.sources], _, rfl, ?_⟩
  decide +kernel

theorem recursionLegal_iff_twoArms : Accepted (.select twoArms) postgres ∧
    (RecursionLegal (.select twoArms) ↔ RecursionSeparated (.select twoArms)) := by
  have accepted : Accepted (.select twoArms) postgres := by decide +kernel
  exact ⟨accepted, recursionLegal_iff accepted⟩

end Relq
