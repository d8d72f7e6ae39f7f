/-
Module: Relq.Scoping.Resolution
Layer: Scoping
Purpose: What the relation names of the rendered text denote. An unqualified name denotes the
  nearest WITH entry of that name which SQL shows at that point, and otherwise a stored table; the
  tree tells the two apart by node kind. `resolution_iff` says when the text agrees with the tree.
Imports: Relq.Library.Nearest, Relq.Scoping.CteBinding, Relq.Compiler.Render
Trusted boundary: human-reviewed spec (RelationName, Env.denotes, Intended)
Main exports: RelationName, Denoted, Env.denotes, Intended, Uncaptured, resolution_iff
-/
import Relq.Library.Nearest
import Relq.Scoping.CteBinding
import Relq.Compiler.Render

namespace Relq

open Outcome

variable {V : Type}

/-- A relation name as it stands in the text. -/
inductive RelationName where
  | qualified (schema name : String)
  | plain (name : String)
deriving DecidableEq, Repr

/-- The relation name a rendered source starts with; a derived table starts with a parenthesis. -/
def readRelationName : Text → Option RelationName
  | .identifier schema :: .symbol "." :: .identifier name :: _ => some (.qualified schema name)
  | .identifier name :: _ => some (.plain name)
  | _ => none

/-- What a relation name can denote. -/
inductive Denoted where
  | stored (name : RelationName)
  | entry (entry : Entry)
deriving DecidableEq, Repr

/-- The WITH entries SQL shows at a point, nearest first. -/
def Env.visible (env : Env) : List Entry :=
  env.levels.flatMap (·.visible)

/-- The meaning of a relation name. `fold` is the engine's comparison of names: the identity for
PostgreSQL, ASCII case folding for SQLite. -/
def Env.denotes (env : Env) (fold : String → String) : RelationName → Denoted
  | .qualified schema name => .stored (.qualified schema name)
  | .plain name =>
      match env.visible.find? fun entry => decide (fold entry.name = fold name) with
      | some entry => .entry entry
      | none => .stored (.plain name)

def TableSourceNode.relationName (table : TableSourceNode) : RelationName :=
  match table.schema with
  | some schema => .qualified schema table.name
  | none => .plain table.name

/-- What a source of the tree stands for: a table for the stored relation, and a CTE source for the
declared entry of its name that it was built from. -/
inductive Intended (env : Env) : SourceNode V → Denoted → Prop where
  | table (table : TableSourceNode) : Intended env (.table table) (.stored table.relationName)
  | cte {entry : Entry} (declared : entry ∈ env.declared) :
      Intended env (.cte entry.name) (.entry entry)

/-- `first` hides `second`: it is declared in an inner WITH clause, or later in the same one. -/
def Nearer (first second : Entry) : Prop :=
  second.depth < first.depth ∨ second.depth = first.depth ∧ second.index < first.index

/-- No WITH entry that SQL shows captures the name: none at all for an unqualified table, and none
nearer than the intended entry for a CTE source. -/
def Uncaptured (env : Env) (fold : String → String) : Denoted → Prop
  | .stored (.qualified _ _) => True
  | .stored (.plain name) => ∀ entry ∈ env.visible, fold entry.name ≠ fold name
  | .entry intended => ∀ entry ∈ env.visible, fold entry.name = fold intended.name →
      entry = intended ∨ Nearer intended entry

/-! ### The entries at a point are ordered -/

theorem Nearer.asymm (first second : Entry) (nearer : Nearer first second) :
    ¬Nearer second first := by
  simp only [Nearer] at nearer ⊢
  omega

/-- The entries of one WITH clause, later ones first. -/
structure Stacked (depth : Nat) (entries : List Entry) : Prop where
  ordered : entries.Pairwise Nearer
  depth_eq : ∀ entry ∈ entries, entry.depth = depth
  index_lt : ∀ entry ∈ entries, entry.index < entries.length

theorem Stacked.nil (depth : Nat) : Stacked depth [] :=
  ⟨.nil, by simp, by simp⟩

theorem Stacked.cons {depth : Nat} {entries : List Entry} (stacked : Stacked depth entries)
    (name : String) : Stacked depth (⟨depth, entries.length, name⟩ :: entries) := by
  refine ⟨List.pairwise_cons.mpr ⟨fun entry member => ?_, stacked.ordered⟩, ?_, ?_⟩
  · exact Or.inr ⟨stacked.depth_eq entry member, stacked.index_lt entry member⟩
  · intro entry member
    rcases List.mem_cons.mp member with rfl | member
    · rfl
    · exact stacked.depth_eq entry member
  · intro entry member
    rcases List.mem_cons.mp member with rfl | member
    · simp
    · have := stacked.index_lt entry member
      simp
      omega

theorem Stacked.entriesAfter {depth : Nat} {before : List Entry} (stacked : Stacked depth before)
    (ctes : List (CteNode V)) : Stacked depth (entriesAfter depth before ctes) := by
  induction ctes generalizing before with
  | nil => exact stacked
  | cons cte rest ih => exact ih (stacked.cons cte.name)

theorem mem_entriesAfter {depth : Nat} {before : List Entry} (ctes : List (CteNode V))
    {entry : Entry} (member : entry ∈ before) : entry ∈ entriesAfter depth before ctes := by
  induction ctes generalizing before with
  | nil => exact member
  | cons cte rest ih => exact ih (List.mem_cons_of_mem _ member)

/-- The WITH clauses around a point: entries stand nearest first, and SQL shows every entry that is
declared there. -/
structure Env.WellFormed (env : Env) : Prop where
  ordered : env.visible.Pairwise Nearer
  depth_lt : ∀ entry ∈ env.visible, entry.depth < env.levels.length
  shown : ∀ entry ∈ env.declared, entry ∈ env.visible

theorem Env.WellFormed.push {env : Env} (formed : env.WellFormed) {level : Level}
    (stacked : Stacked env.levels.length level.visible)
    (shown : ∀ entry ∈ level.declared, entry ∈ level.visible) : (env.push level).WellFormed := by
  have visible : (env.push level).visible = level.visible ++ env.visible := rfl
  have declared : (env.push level).declared = level.declared ++ env.declared := rfl
  refine ⟨?_, ?_, ?_⟩
  · rw [visible, List.pairwise_append]
    refine ⟨stacked.ordered, formed.ordered, fun inner member outer enclosing => Or.inl ?_⟩
    rw [stacked.depth_eq inner member]
    exact formed.depth_lt outer enclosing
  · intro entry member
    have deeper : (env.push level).levels.length = env.levels.length + 1 := rfl
    rw [visible] at member
    rw [deeper]
    rcases List.mem_append.mp member with inner | outer
    · have := stacked.depth_eq entry inner
      omega
    · have := formed.depth_lt entry outer
      omega
  · intro entry member
    rw [declared] at member
    rw [visible]
    exact List.mem_append.mpr ((List.mem_append.mp member).imp (shown entry) (formed.shown entry))

theorem Env.WellFormed.main {env : Env} (formed : env.WellFormed) (node : SelectNode V) :
    (node.mainEnv env).WellFormed :=
  formed.push ((Stacked.nil _).entriesAfter node.ctes) fun _ member => member

theorem cteBodies_wellFormed {ctes : List (CteNode V)} {env : Env} (formed : env.WellFormed)
    {before : List Entry} {recursive : Bool} (stacked : Stacked env.levels.length before)
    (announced : ∀ cte ∈ ctes, cte.recursive → recursive = true) {query : QueryNode V}
    {queryEnv : Env}
    (member : (query, queryEnv) ∈
      cteBodies env (entriesAfter env.levels.length before ctes) recursive before ctes) :
    queryEnv.WellFormed := by
  induction ctes generalizing before with
  | nil => simp [cteBodies] at member
  | cons cte rest ih =>
      simp only [cteBodies, entriesAfter, List.mem_cons, Prod.mk.injEq] at member
      rcases member with ⟨-, rfl⟩ | member
      · have next := stacked.cons cte.name
        have inAll : ∀ entry ∈ (⟨env.levels.length, before.length, cte.name⟩ : Entry) :: before,
            entry ∈ entriesAfter env.levels.length
              (⟨env.levels.length, before.length, cte.name⟩ :: before) rest :=
          fun entry known => mem_entriesAfter rest known
        have own := announced cte List.mem_cons_self
        cases recursive with
        | false =>
            have plain : cte.recursive = false := by simpa using own
            simp only [plain, Bool.false_eq_true, if_false]
            exact formed.push stacked fun _ known => known
        | true =>
            refine formed.push (by simpa using next.entriesAfter rest) fun entry known => ?_
            simp only [if_true]
            refine inAll entry ?_
            cases recursiveEntry : cte.recursive <;> simp only [recursiveEntry] at known
            · exact List.mem_cons_of_mem _ (by simpa using known)
            · simpa using known
      · exact ih (stacked.cons cte.name) (fun other inRest => announced other
          (List.mem_cons_of_mem _ inRest)) member

theorem inside_wellFormed {node : QueryNode V} {env : Env} (formed : env.WellFormed)
    {query : QueryNode V} {queryEnv : Env} (member : (query, queryEnv) ∈ inside node env) :
    queryEnv.WellFormed := by
  have clauses : ∀ {clauses : List (Clause V)} {outer : Env}, outer.WellFormed →
      (query, queryEnv) ∈ clauseQueries clauses outer → queryEnv.WellFormed := by
    intro clauses outer formed member
    simp only [clauseQueries, List.mem_flatMap, List.mem_map, Prod.mk.injEq] at member
    obtain ⟨clause, -, inner, -, -, rfl⟩ := member
    exact ⟨formed.ordered, formed.depth_lt, formed.shown⟩
  rcases List.mem_append.mp member with member | member
  · cases node with
    | select node =>
        simp only [nestedStatements, List.mem_append, List.mem_map, Prod.mk.injEq] at member
        rcases member with (bodies | ⟨inner, -, -, rfl⟩) | ⟨arm, -, -, rfl⟩
        · refine cteBodies_wellFormed formed (Stacked.nil _) (fun cte inCtes recursive => ?_) bodies
          exact List.any_eq_true.mpr ⟨cte, inCtes, recursive⟩
        · exact formed.main node
        · exact formed.main node
    | insert node =>
        simp only [nestedStatements, List.mem_map, Prod.mk.injEq] at member
        obtain ⟨inner, -, -, rfl⟩ := member
        exact formed
    | _ => simp [nestedStatements] at member
  · cases node with
    | select node => exact clauses (formed.main node) member
    | _ => exact clauses formed member

theorem occurs_wellFormed {root : QueryNode V} {place : QueryNode V × Env}
    (occurs : Occurs root place) : place.2.WellFormed := by
  induction occurs with
  | refl => exact ⟨.nil, by simp [Env.visible], by simp [Env.declared]⟩
  | tail _ encloses ih => exact inside_wellFormed ih encloses

/-! ### Resolving a name -/

/-- An unqualified name denotes the entry SQL shows nearest under that name. -/
theorem denotes_entry_iff {env : Env} (formed : env.WellFormed) {fold : String → String}
    {name : String} {intended : Entry} :
    env.denotes fold (.plain name) = .entry intended ↔
      intended ∈ env.visible ∧ fold intended.name = fold name ∧
        ∀ entry ∈ env.visible, fold entry.name = fold name →
          entry = intended ∨ Nearer intended entry := by
  have lookup :
      env.visible.find? (fun entry => decide (fold entry.name = fold name)) = some intended ↔ _ :=
    Nearest.find?_eq_some_iff_nearest formed.ordered Nearer.asymm
  simp only [decide_eq_true_eq] at lookup
  rw [← lookup, Env.denotes]
  cases env.visible.find? fun entry => decide (fold entry.name = fold name) <;> simp

theorem denotes_stored_iff {env : Env} {fold : String → String} {name : String} :
    env.denotes fold (.plain name) = .stored (.plain name) ↔
      ∀ entry ∈ env.visible, fold entry.name ≠ fold name := by
  rw [Env.denotes]
  cases search : env.visible.find? fun entry => decide (fold entry.name = fold name) with
  | none => simpa using search
  | some entry =>
      have hit := List.find?_some search
      have member := List.mem_of_find?_eq_some search
      simp only [reduceCtorEq, false_iff]
      exact fun absent => absent entry member (by simpa using hit)

theorem compileTable_relationName {dialect : Dialect} {table : TableSourceNode} {text : Text}
    (rendered : compileTable dialect table = .ok text) :
    readRelationName text = some table.relationName := by
  obtain ⟨name, aliasName, schema⟩ := table
  unfold compileTable at rendered
  cases schema with
  | none =>
      cases aliasName <;> simp [spaced] at rendered <;> subst rendered <;> rfl
  | some schema =>
      cases supported : dialect.supportsSchemaQualifiedTables with
      | false => simp [supported] at rendered
      | true =>
          cases aliasName <;> simp [supported, spaced] at rendered <;> subst rendered <;> rfl

theorem compileTable_unqualified (dialect : Dialect) {table : TableSourceNode}
    (unqualified : table.schema = none) : ∃ text, compileTable dialect table = .ok text := by
  obtain ⟨name, aliasName, schema⟩ := table
  cases unqualified
  cases aliasName <;> exact ⟨_, rfl⟩

/-- The relation name a source is rendered under. -/
theorem compileSource_relationName [PyObject V] {dialect : Dialect} {source : SourceNode V}
    {parameters rest : List V} {text : Text}
    (rendered : compileSource dialect source parameters = .ok (text, rest)) :
    readRelationName text =
      match source with
      | .table table => some table.relationName
      | .cte name => some (.plain name)
      | .derived _ _ => none := by
  cases source with
  | table table =>
      simp only [compileSource, state_lift_eq_ok] at rendered
      exact compileTable_relationName rendered.1
  | derived query aliasName =>
      simp only [compileSource, state_bind_eq_ok, state_pure_eq_ok, Prod.mk.injEq] at rendered
      obtain ⟨query, _, -, rfl, -⟩ := rendered
      simp [parens, readRelationName]
  | cte name =>
      simp only [compileSource, state_pure_eq_ok, Prod.mk.injEq] at rendered
      obtain ⟨rfl, -⟩ := rendered
      rfl

/-- Every relation name of the text denotes what the tree says: CTE sources stand for an entry at
all, and every source is rendered under a name that denotes what it was built from. -/
def NamesResolve [PyObject V] (root : QueryNode V) (dialect : Dialect) (fold : String → String) :
    Prop :=
  ∀ node env, Occurs root (.select node, env) → ∀ source ∈ node.sources,
    (∀ cte, source = .cte cte → ∃ relation, Intended (node.mainEnv env) source relation) ∧
    ∀ parameters text rest name relation,
      compileSource dialect source parameters = .ok (text, rest) →
      readRelationName text = some name → Intended (node.mainEnv env) source relation →
      (node.mainEnv env).denotes fold name = relation

/-- No reference of the query is captured, and those behind conflict predicates are declared. -/
def CaptureFree (root : QueryNode V) (fold : String → String) : Prop :=
  ∀ node env, Occurs root (.select node, env) →
    (BehindConflict root (.select node, env) →
      ∀ name ∈ usedCtes (.select node), name ∈ (node.mainEnv env).declaredNames) ∧
    ∀ source ∈ node.sources, ∀ relation, Intended (node.mainEnv env) source relation →
      Uncaptured (node.mainEnv env) fold relation

/-- The rendered name of one source denotes what the source was built from exactly when it is not
captured there. -/
theorem denotes_intended_iff {env : Env} (formed : env.WellFormed) (fold : String → String)
    {source : SourceNode V} {relation : Denoted} (intended : Intended env source relation) :
    (match source with
      | .table table => env.denotes fold table.relationName = relation
      | .cte name => env.denotes fold (.plain name) = relation
      | .derived _ _ => True) ↔ Uncaptured env fold relation := by
  cases intended with
  | table table =>
      obtain ⟨name, aliasName, schema⟩ := table
      cases schema with
      | none => exact denotes_stored_iff
      | some schema => simp [TableSourceNode.relationName, Env.denotes, Uncaptured]
  | cte declared =>
      simp only [denotes_entry_iff formed, Uncaptured]
      exact ⟨fun found => found.2.2, fun nearest => ⟨formed.shown _ declared, trivial, nearest⟩⟩

theorem intended_of_declared {env : Env} {name : String} (declared : name ∈ env.declaredNames) :
    ∃ relation, Intended env (.cte name : SourceNode V) relation := by
  obtain ⟨entry, member, rfl⟩ := List.mem_map.mp declared
  exact ⟨_, .cte member⟩

theorem Intended.declared {env : Env} {name : String} {relation : Denoted}
    (intended : Intended env (.cte name : SourceNode V) relation) :
    name ∈ env.declaredNames := by
  cases intended with
  | cte member => exact List.mem_map.mpr ⟨_, member, rfl⟩

theorem mem_usedCtes {node : SelectNode V} {name : String} :
    name ∈ usedCtes (.select node) ↔ .cte name ∈ node.sources := by
  simp only [usedCtes, List.mem_filterMap]
  constructor
  · rintro ⟨source, member, named⟩
    cases source <;> simp [SourceNode.cteName] at named
    exact named ▸ member
  · exact fun member => ⟨_, member, rfl⟩

/-- The relation names of an accepted query denote the relations of its tree exactly when no
reference is captured. -/
theorem resolution_iff [DecidableEq V] [PyObject V] {root : QueryNode V} {dialect : Dialect}
    (accepted : Accepted root dialect) (fold : String → String) :
    NamesResolve root dialect fold ↔ CaptureFree root fold := by
  constructor
  · intro resolve node env occurs
    refine ⟨fun _ name used => ?_, fun source member relation intended => ?_⟩
    · obtain ⟨relation, intended⟩ :=
        (resolve node env occurs _ (mem_usedCtes.mp used)).1 name rfl
      exact intended.declared
    · have formed := (occurs_wellFormed occurs).main node
      have denoted := (resolve node env occurs source member).2
      refine (denotes_intended_iff formed fold intended).mp ?_
      cases source with
      | table table =>
          cases qualified : table.schema with
          | none =>
              obtain ⟨text, rendered⟩ := compileTable_unqualified dialect qualified
              exact denoted [] text [] _ relation (by simp [compileSource, rendered])
                (compileTable_relationName rendered) intended
          | some schema =>
              cases intended
              simp [TableSourceNode.relationName, qualified, Env.denotes]
      | derived query aliasName => trivial
      | cte name =>
          exact denoted [] [.identifier name] [] _ relation (by simp [compileSource]) rfl intended
  · intro clean node env occurs source member
    obtain ⟨declared, uncaptured⟩ := clean node env occurs
    refine ⟨fun name same => ?_, fun parameters text rest name relation rendered read intended => ?_⟩
    · subst same
      have used := mem_usedCtes.mpr member
      refine intended_of_declared ?_
      exact (accepted_bound accepted occurs used).elim id fun behind => declared behind name used
    · have formed := (occurs_wellFormed occurs).main node
      have denoted := (denotes_intended_iff formed fold intended).mpr
        (uncaptured source member relation intended)
      rw [compileSource_relationName rendered] at read
      cases source <;> simp only [Option.some.injEq, reduceCtorEq] at read denoted
      · exact read ▸ denoted
      · exact read ▸ denoted

/-- `WITH "t" AS (SELECT "t"."a" FROM "t") SELECT "t"."a" FROM "t"`, both times the stored table. -/
def capturedTable : SelectNode Int :=
  { selections := [.column "t" "a"]
    fromSource := some (.table { name := "t" })
    ctes := [
      { name := "t"
        query := .select
          { selections := [.column "t" "a"], fromSource := some (.table { name := "t" }) } }] }

/-- The stored table of the outer FROM is read as the entry of the same name. -/
theorem capturedTable_captured :
    Accepted (.select capturedTable) sqlite ∧
      ¬NamesResolve (.select capturedTable) sqlite id := by
  refine ⟨by decide +kernel, fun resolve => ?_⟩
  have stored := (resolve capturedTable {} .refl (.table { name := "t" })
    (by simp [capturedTable, SelectNode.sources])).2 [] [.identifier "t"] [] (.plain "t") _
    (by simp [compileSource, compileTable]) rfl (.table { name := "t" })
  revert stored
  decide +kernel

theorem resolution_iff_capturedTable :
    NamesResolve (.select capturedTable) sqlite id ↔ CaptureFree (.select capturedTable) id := by
  have accepted : Accepted (.select capturedTable) sqlite := by decide +kernel
  exact resolution_iff accepted id

end Relq
