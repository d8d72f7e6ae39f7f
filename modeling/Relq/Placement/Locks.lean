/-
Module: Relq.Placement.Locks
Layer: Placement
Purpose: Row locks. PostgreSQL passes a lock clause without OF on to the queries of the derived tables
  in FROM and JOIN, and to theirs; each query it reaches must be plain, and no relation it locks may be
  on the side of an outer join that is filled up with NULLs. The validator looks at the SELECT with
  the clause only, and there neither at ON conditions nor at derived tables. `locksLegal_iff` says
  that this is all it misses.
Imports: Mathlib.Data.List.Nodup, Relq.Scoping.Acceptance
Trusted boundary: human-reviewed spec (Lockable, NullableSide, LockReaches, LockLegal)
Main exports: Lockable, NullableSide, LockReaches, LockLegal, LocksLegal, LockUnchecked,
  nullExtendedSources_iff, locksLegal_iff
-/
import Mathlib.Data.List.Nodup
import Relq.Scoping.Acceptance

namespace Relq

open Outcome

variable {V : Type}

/-! ### PostgreSQL's rules -/

/-- A query whose rows can be locked: one row of it is one row of each of its relations. -/
structure Lockable (node : SelectNode V) : Prop where
  distinct : node.distinct = false
  groupBy : node.groupBy = []
  having : node.having = none
  compounds : node.compounds = []
  plain : ∀ expression ∈ node.scopeExpressions, ∀ inner ∈ walk expression, inner.isAnalytic = false

/-- An outer join of the query can fill up the source of this reference with NULLs. -/
inductive NullableSide (node : SelectNode V) (reference : String) : Prop where
  | joined {before after : List (JoinNode V)} {join : JoinNode V}
      (chain : node.joins = before ++ join :: after) (outer : join.kind = "left" ∨ join.kind = "full")
      (own : join.source.reference = reference)
  | earlier {before after : List (JoinNode V)} {join : JoinNode V}
      (chain : node.joins = before ++ join :: after)
      (outer : join.kind = "right" ∨ join.kind = "full")
      (known : reference ∈ node.fromSource.toList.map (·.reference) ++
        before.map (·.source.reference))

/-- The sources whose rows a lock clause without OF locks. -/
def SourceNode.isLockable : SourceNode V → Bool
  | .table _ => true
  | .derived _ _ => true
  | .cte _ => false

/-- A lock clause without OF on `start` reaches the query, through derived tables. -/
inductive LockReaches (start : SelectNode V) : SelectNode V → Prop where
  | here : LockReaches start start
  | derived {node query : SelectNode V} {aliasName : String} (reached : LockReaches start node)
      (source : .derived query aliasName ∈ node.sources) : LockReaches start query

/-- What a query that is locked as a whole must be. -/
structure WhollyLockable (node : SelectNode V) : Prop where
  lockable : Lockable node
  sources : ∀ source ∈ node.sources, source.isLockable = true → ¬NullableSide node source.reference

/-- PostgreSQL takes the lock clause of this query. -/
structure LockLegal (node : SelectNode V) (lock : LockClauseNode) : Prop where
  lockable : Lockable node
  named : ∀ target ∈ lock.of, ¬NullableSide node target.reference
  unique : ∀ target ∈ lock.of,
    (node.sources.filterMap SourceNode.directTable).countP
      (fun table => table.reference == target.reference) = 1
  reached : lock.of = [] → ∀ inner, LockReaches node inner → WhollyLockable inner

/-- Every lock clause at every depth is legal. -/
def LocksLegal (root : QueryNode V) : Prop :=
  ∀ node env, Occurs root (.select node, env) → ∀ lock ∈ node.locks, LockLegal node lock

/-! ### What no check looks at -/

/-- The rules for ON conditions and, without OF, for derived tables. -/
structure LockUnchecked (node : SelectNode V) (lock : LockClauseNode) : Prop where
  conditions : ∀ join ∈ node.joins, ∀ inner ∈ walk join.predicate, inner.isAnalytic = false
  derived : lock.of = [] → ∀ query aliasName, .derived query aliasName ∈ node.sources →
    ¬NullableSide node aliasName ∧ ∀ inner, LockReaches query inner → WhollyLockable inner

def UncheckedLocksLegal (root : QueryNode V) : Prop :=
  ∀ node env, Occurs root (.select node, env) → ∀ lock ∈ node.locks, LockUnchecked node lock

/-- A lock reaches the query itself, or something it reaches from a derived table of that query. -/
theorem lockReaches_iff {start inner : SelectNode V} :
    LockReaches start inner ↔
      inner = start ∨ ∃ query aliasName, .derived query aliasName ∈ start.sources ∧
        LockReaches query inner := by
  constructor
  · intro reached
    induction reached with
    | here => exact .inl rfl
    | derived _ source ih =>
        rcases ih with rfl | ⟨query, aliasName, first, deeper⟩
        · exact .inr ⟨_, _, source, .here⟩
        · exact .inr ⟨query, aliasName, first, .derived deeper source⟩
  · rintro (rfl | ⟨query, aliasName, first, deeper⟩)
    · exact .here
    · induction deeper with
      | here => exact .derived .here first
      | derived _ source ih => exact .derived ih source

/-! ### The fold over the joins -/

theorem mem_extendedBy {kind reference name : String} {visible extended : List String}
    (done : extendedBy kind visible reference = .ok extended) :
    name ∈ extended ↔ (kind = "left" ∨ kind = "full") ∧ name = reference ∨
      (kind = "right" ∨ kind = "full") ∧ name ∈ visible := by
  unfold extendedBy at done
  split at done
  · rename_i left
    cases done
    simp [left]
  · split at done
    · rename_i right
      cases done
      simp [right]
    · split at done
      · rename_i full
        cases done
        simp [full, or_comm]
      · split at done
        · rename_i neither _ _ inner
          cases done
          rcases inner with rfl | rfl <;> simp
        · cases done

/-- What the fold adds: some join extends its own source or what was joined before it. -/
theorem mem_nullExtendedJoins {joins : List (JoinNode V)} {visible nullable result : List String}
    (done : nullExtendedJoins joins visible nullable = .ok result) {name : String} :
    name ∈ result ↔ name ∈ nullable ∨
      ∃ (before : List (JoinNode V)) (join : JoinNode V) (after : List (JoinNode V)),
        joins = before ++ join :: after ∧
          ((join.kind = "left" ∨ join.kind = "full") ∧ name = join.source.reference ∨
            (join.kind = "right" ∨ join.kind = "full") ∧
              name ∈ visible ++ before.map (·.source.reference)) := by
  induction joins generalizing visible nullable with
  | nil =>
      cases done
      simp
  | cons join rest ih =>
      rw [nullExtendedJoins] at done
      obtain ⟨extended, one, done⟩ := bind_eq_ok.mp done
      rw [ih done, List.mem_append, mem_extendedBy one]
      constructor
      · rintro ((known | first) | ⟨before, later, after, rfl, adds⟩)
        · exact .inl known
        · exact .inr ⟨[], join, rest, rfl, by simpa using first⟩
        · exact .inr ⟨join :: before, later, after, rfl, by simpa using adds⟩
      · rintro (known | ⟨before, later, after, chain, adds⟩)
        · exact .inl (.inl known)
        · cases before with
          | nil =>
              obtain ⟨rfl, rfl⟩ := List.cons.inj chain
              exact .inl (.inr (by simpa using adds))
          | cons first before =>
              obtain ⟨rfl, rfl⟩ := List.cons.inj chain
              exact .inr ⟨before, later, after, rfl, by simpa using adds⟩

/-- The analysis names the references on the nullable sides of the joins. -/
theorem nullExtendedSources_iff {node : SelectNode V} {first : SourceNode V} {result : List String}
    (from_ : node.fromSource = some first) (done : nullExtendedSources node = .ok result)
    {name : String} : name ∈ result ↔ NullableSide node name := by
  simp only [nullExtendedSources, from_] at done
  rw [mem_nullExtendedJoins done]
  constructor
  · rintro (known | ⟨before, join, after, chain, ⟨outer, rfl⟩ | ⟨outer, known⟩⟩)
    · cases known
    · exact .joined chain outer rfl
    · exact .earlier chain outer (by simpa [from_] using known)
  · rintro (⟨chain, outer, own⟩ | ⟨chain, outer, known⟩)
    · exact .inr ⟨_, _, _, chain, .inl ⟨outer, own.symm⟩⟩
    · exact .inr ⟨_, _, _, chain, .inr ⟨outer, by simpa [from_] using known⟩⟩

/-! ### What acceptance guarantees -/

/-- What `validate_locks` says about a SELECT with lock clauses. -/
structure LockRules (node : SelectNode V) (nullable : List String) : Prop where
  distinct : node.distinct = false
  groupBy : node.groupBy = []
  having : node.having = none
  compounds : node.compounds = []
  plain : ∀ expression ∈ node.clauseExpressions, ∀ inner ∈ walk expression, inner.isAnalytic = false
  extended : nullExtendedSources node = .ok nullable
  targets : ∀ lock ∈ node.locks, ∀ target ∈
    (if lock.of.isEmpty then node.sources.filterMap SourceNode.directTable else lock.of),
      target ∈ node.sources.filterMap SourceNode.directTable ∧ target.reference ∉ nullable

theorem validateLocks_rules {node : SelectNode V} (accepted : validateLocks node = .ok ())
    (locked : node.locks ≠ []) : ∃ nullable, LockRules node nullable := by
  have some_ : node.locks.isEmpty = false := by simpa using locked
  simp only [validateLocks, some_, Bool.false_eq_true, if_false, seq_eq_ok, check_eq_ok] at accepted
  obtain ⟨distinct, ⟨groupBy, having⟩, compounds, plain, accepted⟩ := accepted
  obtain ⟨nullable, extended, accepted⟩ := bind_eq_ok.mp accepted
  simp only [forM_eq_ok, seq_eq_ok, check_eq_ok] at accepted
  refine ⟨nullable, distinct, List.isEmpty_iff.mp groupBy, Option.isNone_iff_eq_none.mp having,
    List.isEmpty_iff.mp compounds, fun expression member inner inside => ?_, extended, ?_⟩
  · have outside := List.any_eq_false.mp plain inner (List.mem_flatMap.mpr ⟨_, member, inside⟩)
    simpa using outside
  · intro lock member target listed
    obtain ⟨direct, sound⟩ := accepted lock member
    exact ⟨direct target listed, sound target listed⟩

/-- Among sources with distinct references, a stored table is the only one of its reference. -/
theorem countP_reference {sources : List (SourceNode V)}
    (distinct : (sources.map (·.reference)).Nodup) {target : TableSourceNode}
    (member : target ∈ sources.filterMap SourceNode.directTable) :
    (sources.filterMap SourceNode.directTable).countP
      (fun table => table.reference == target.reference) = 1 := by
  have tables : ((sources.filterMap SourceNode.directTable).map (·.reference)).Sublist
      (sources.map (·.reference)) := by
    clear distinct member
    induction sources with
    | nil => exact .slnil
    | cons source rest ih =>
        cases source with
        | table relation => exact ih.cons_cons _
        | derived query aliasName => exact ih.cons _
        | cte name => exact ih.cons _
  have once := List.count_eq_one_of_mem (distinct.sublist tables) (List.mem_map_of_mem member)
  rwa [List.count, List.countP_map] at once

section
variable [DecidableEq V] [PyObject V]

/-- A lock clause of an accepted SELECT is legal when the unchecked places are. -/
theorem LockUnchecked.legal {node : SelectNode V} {dialect : Dialect} {outer : List String}
    (accepted : SelectRules node dialect outer) {lock : LockClauseNode} (member : lock ∈ node.locks)
    (unchecked : LockUnchecked node lock) : LockLegal node lock := by
  obtain ⟨first, available, sources⟩ := validateSources_rules accepted.sources
  obtain ⟨nullable, rules⟩ := validateLocks_rules accepted.locks (List.ne_nil_of_mem member)
  have side : ∀ name, name ∈ nullable ↔ NullableSide node name := fun name =>
    nullExtendedSources_iff sources.fromSource rules.extended
  have targets := rules.targets lock member
  have lockable : Lockable node := by
    refine ⟨rules.distinct, rules.groupBy, rules.having, rules.compounds, fun expression listed => ?_⟩
    by_cases clause : expression ∈ node.clauseExpressions
    · exact rules.plain expression clause
    · have condition : expression ∈ node.joins.map (·.predicate) := by
        simp only [SelectNode.scopeExpressions, SelectNode.clauseExpressions, List.mem_append]
          at listed clause
        grind
      obtain ⟨join, joined, rfl⟩ := List.mem_map.mp condition
      exact unchecked.conditions join joined
  refine ⟨lockable, fun target listed => ?_, fun target listed => ?_, fun implicit inner reached => ?_⟩
  · rw [if_neg (by simpa using List.ne_nil_of_mem listed)] at targets
    exact fun onSide => (targets target listed).2 ((side _).mpr onSide)
  · rw [if_neg (by simpa using List.ne_nil_of_mem listed)] at targets
    exact countP_reference sources.nodup (targets target listed).1
  · rcases lockReaches_iff.mp reached with rfl | ⟨query, aliasName, source, deeper⟩
    · refine ⟨lockable, fun source listed locked => ?_⟩
      cases source with
      | table relation =>
          rw [implicit, List.isEmpty_nil, if_pos rfl] at targets
          have direct : relation ∈ inner.sources.filterMap SourceNode.directTable :=
            List.mem_filterMap.mpr ⟨_, listed, rfl⟩
          exact fun onSide => (targets relation direct).2 ((side _).mpr onSide)
      | derived query aliasName => exact (unchecked.derived implicit query aliasName listed).1
      | cte name => cases locked
    · exact (unchecked.derived implicit query aliasName source).2 inner deeper

omit [DecidableEq V] [PyObject V] in
theorem LockLegal.unchecked {node : SelectNode V} {lock : LockClauseNode}
    (legal : LockLegal node lock) : LockUnchecked node lock := by
  refine ⟨fun join joined => ?_, fun implicit query aliasName source => ⟨?_, ?_⟩⟩
  · refine legal.lockable.plain join.predicate ?_
    simp only [SelectNode.scopeExpressions, List.mem_append, List.mem_map]
    exact .inl (.inl (.inl (.inl (.inr ⟨join, joined, rfl⟩))))
  · exact (legal.reached implicit node .here).sources _ source rfl
  · intro inner deeper
    exact legal.reached implicit inner (lockReaches_iff.mpr (.inr ⟨query, aliasName, source, deeper⟩))

/-- The lock clauses of an accepted statement are legal exactly when they are in ON conditions and
derived tables. -/
theorem locksLegal_iff {root : QueryNode V} {dialect : Dialect} (accepted : Accepted root dialect) :
    LocksLegal root ↔ UncheckedLocksLegal root := by
  constructor
  · intro legal node env occurs lock member
    exact (legal node env occurs lock member).unchecked
  · intro unchecked node env occurs lock member
    obtain ⟨outer, statement, -⟩ := accepted_occurs accepted occurs
    rw [validateStatement] at statement
    exact (unchecked node env occurs lock member).legal (validateSelect_iff.mp statement) member

end

/-! ### A lock that reaches DISTINCT -/

/-- `SELECT DISTINCT "t"."a" FROM "t"`. -/
def distinctRows : SelectNode Int :=
  { selections := [.column "t" "a"], fromSource := some (.table { name := "t" }), distinct := true }

/-- `SELECT "d"."a" FROM (…) AS "d" FOR UPDATE`. -/
def lockedDistinct : SelectNode Int :=
  { selections := [.column "d" "a"]
    fromSource := some (.derived distinctRows "d")
    locks := [{ strength := .update }] }

theorem lockedDistinct_illegal : Accepted (.select lockedDistinct) postgres ∧
    ¬LocksLegal (.select lockedDistinct) := by
  refine ⟨by decide +kernel, fun legal => ?_⟩
  have clause := legal lockedDistinct {} .refl { strength := .update } List.mem_cons_self
  have source : .derived distinctRows "d" ∈ lockedDistinct.sources := List.mem_cons_self
  have whole := clause.reached rfl distinctRows (.derived .here source)
  exact absurd whole.lockable.distinct Bool.noConfusion

theorem locksLegal_iff_lockedDistinct : Accepted (.select lockedDistinct) postgres ∧
    (LocksLegal (.select lockedDistinct) ↔ UncheckedLocksLegal (.select lockedDistinct)) := by
  have accepted : Accepted (.select lockedDistinct) postgres := by decide +kernel
  exact ⟨accepted, locksLegal_iff accepted⟩

end Relq
