/-
Module: Relq.Compiler.UpsertText
Layer: Compiler
Purpose: `INSERT ... SELECT ... ON CONFLICT` as the parser of SQLite reads it. An `on` behind a FROM
  or JOIN source without ON clause begins a join constraint there, also when it is the `on` of the
  upsert. `_compile_insert` appends the conflict clause to whatever the SELECT ends in.
Imports: Relq.Compiler.ClauseText, Relq.Compiler.PortableText
Trusted boundary: human-reviewed spec (EndsInBareSource, takesOnAsJoin, UpsertUnambiguous)
Main exports: UpsertUnambiguous, SelectNode.closesSource, upsertUnambiguous_iff
-/
import Relq.Compiler.ClauseText
import Relq.Compiler.PortableText

namespace Relq

open Outcome

variable {V : Type}

/-! ### The ambiguity -/

/-- The clause keywords in front of the words `on conflict`. -/
def beforeUpsert : List String → List String
  | [] => []
  | word :: rest =>
      if word = "on" ∧ rest.head? = some "conflict" then [] else word :: beforeUpsert rest

/-- A FROM or JOIN source that has no ON clause stands last. -/
def EndsInBareSource (keywords : List String) : Prop :=
  keywords.getLast? = some "from" ∨ keywords.getLast? = some "join"

instance (keywords : List String) : Decidable (EndsInBareSource keywords) :=
  inferInstanceAs (Decidable (_ ∨ _))

/-- Whether SQLite reads the `on` of `on conflict` as a join constraint. `bare` says that a source
without ON clause stands in front; every other clause keyword closes that source. -/
def takesOnAsJoin (bare : Bool) : List String → Bool
  | [] => false
  | word :: rest =>
      if word = "on" ∧ rest.head? = some "conflict" then bare
      else takesOnAsJoin (word == "from" || word == "join") rest

/-- The text before `on conflict` does not end in a source without ON clause, and SQLite reads the
upsert as one. -/
def UpsertUnambiguous (text : Text) : Prop :=
  ¬EndsInBareSource (beforeUpsert (clauses text)) ∧ takesOnAsJoin false (clauses text) = false

instance (text : Text) : Decidable (UpsertUnambiguous text) :=
  inferInstanceAs (Decidable (_ ∧ _))

/-! ### Reading the keywords -/

theorem head_ne_conflict {keywords rest : List String} (plain : "conflict" ∉ keywords) :
    (keywords ++ "on" :: "conflict" :: rest).head? ≠ some "conflict" := by
  intro next
  cases keywords with
  | nil => simp at next
  | cons word later =>
      simp only [List.cons_append, List.head?_cons, Option.some.injEq] at next
      exact plain (next ▸ List.mem_cons_self)

/-- The first `on conflict` is the one that is meant. -/
theorem beforeUpsert_append {keywords rest : List String} (plain : "conflict" ∉ keywords) :
    beforeUpsert (keywords ++ "on" :: "conflict" :: rest) = keywords := by
  induction keywords with
  | nil => simp [beforeUpsert]
  | cons word later ih =>
      have absent : "conflict" ∉ later := fun member => plain (List.mem_cons_of_mem _ member)
      have other : ¬(word = "on" ∧ (later ++ "on" :: "conflict" :: rest).head? = some "conflict") :=
        fun meets => head_ne_conflict absent meets.2
      rw [List.cons_append, beforeUpsert, if_neg other, ih absent]

theorem takesOnAsJoin_append {keywords rest : List String} (plain : "conflict" ∉ keywords)
    (bare : Bool) : takesOnAsJoin bare (keywords ++ "on" :: "conflict" :: rest) = true ↔
      if keywords = [] then bare = true else EndsInBareSource keywords := by
  induction keywords generalizing bare with
  | nil => simp [takesOnAsJoin]
  | cons word later ih =>
      have absent : "conflict" ∉ later := fun member => plain (List.mem_cons_of_mem _ member)
      have other : ¬(word = "on" ∧ (later ++ "on" :: "conflict" :: rest).head? = some "conflict") :=
        fun meets => head_ne_conflict absent meets.2
      rw [List.cons_append, takesOnAsJoin, if_neg other, ih absent]
      cases later with
      | nil => simp [EndsInBareSource]
      | cons next later => simp [EndsInBareSource]

/-- The keywords of an upsert are read alike by both. -/
theorem upsertUnambiguous_clauses {text : Text} {keywords rest : List String}
    (plain : "conflict" ∉ keywords) (some_ : keywords ≠ [])
    (spells : clauses text = keywords ++ "on" :: "conflict" :: rest) :
    UpsertUnambiguous text ↔ ¬EndsInBareSource keywords := by
  have taken : takesOnAsJoin false (keywords ++ "on" :: "conflict" :: rest) = true ↔ _ :=
    takesOnAsJoin_append plain false
  rw [if_neg some_] at taken
  rw [UpsertUnambiguous, spells, beforeUpsert_append plain, ← Bool.not_eq_true, taken, and_self]

/-- Keywords of later clauses close a source. -/
theorem endsInBareSource_append {first second : List String}
    (other : ∀ word ∈ second, word ≠ "from" ∧ word ≠ "join") :
    EndsInBareSource (first ++ second) ↔ EndsInBareSource first ∧ second = [] := by
  cases last : second.getLast? with
  | none =>
      obtain rfl := List.getLast?_eq_none_iff.mp last
      simp
  | some word =>
      have differs := other word (List.mem_of_getLast? last)
      have given : second ≠ [] := by
        rintro rfl
        cases last
      simp [EndsInBareSource, List.getLast?_append, last, differs, given]

/-! ### The keywords of an accepted SELECT -/

/-- The SELECT whose clauses stand last. -/
def SelectNode.lastArm (query : SelectNode V) : SelectNode V :=
  (query.compounds.getLast?.map (·.query)).getD query

/-- A clause follows the FROM clause, or the last join has an ON clause. -/
def SelectNode.closesSource (query : SelectNode V) : Bool :=
  query.whereNode.isSome || !query.groupBy.isEmpty || query.having.isSome ||
    !query.orderBy.isEmpty || query.limit.isSome || query.offset.isSome ||
    query.joins.getLast?.any (·.kind != "cross")

/-- The FROM clause ends in a bare source if it has no join or a cross join last. -/
theorem endsInBareSource_joins {joins : List (JoinNode V)} (known : KnownKinds joins) :
    EndsInBareSource (["select", "from"] ++ joins.flatMap JoinNode.clauses) ↔
      joins.getLast?.any (·.kind != "cross") = false := by
  rcases List.eq_nil_or_concat joins with rfl | ⟨earlier, join, rfl⟩
  · simp [EndsInBareSource]
  · have shown := joinClauses_known (known join (by simp))
    rw [List.concat_eq_append, List.flatMap_append, List.flatMap_singleton, shown,
      List.getLast?_concat, Option.any_some, EndsInBareSource, ← List.append_assoc,
      List.getLast?_append]
    cases join.kind != "cross" <;> simp

variable {dialect : Dialect}

theorem endsInBareSource_own {query : SelectNode V} (known : KnownKinds query.joins)
    (unlocked : query.locks = []) :
    EndsInBareSource (query.ownClauses dialect) ↔ query.closesSource = false := by
  have optional (present : Bool) (keyword : String) (other : keyword ≠ "from" ∧ keyword ≠ "join")
      (keywords : List String) : EndsInBareSource (keywords ++ if present then [keyword] else []) ↔
        EndsInBareSource keywords ∧ present = false := by
    rw [endsInBareSource_append]
    · cases present <;> simp
    · cases present <;> simp [other]
  have absent (absent : Bool) (keyword : String) (other : keyword ≠ "from" ∧ keyword ≠ "join")
      (keywords : List String) : EndsInBareSource (keywords ++ if absent then [] else [keyword]) ↔
        EndsInBareSource keywords ∧ absent = true := by
    rw [endsInBareSource_append]
    · cases absent <;> simp
    · cases absent <;> simp [other]
  rw [SelectNode.ownClauses, unlocked, List.map_nil, List.append_nil, limitKeywords,
    ← List.append_assoc, optional _ _ (by decide), optional _ _ (by decide), absent _ _ (by decide),
    optional _ _ (by decide), absent _ _ (by decide), optional _ _ (by decide),
    endsInBareSource_joins known]
  simp only [SelectNode.closesSource, Bool.or_eq_false_iff, Bool.and_eq_false_iff]
  grind

/-- The keywords of a SELECT end as those of its last arm do. -/
theorem endsInBareSource_clauses (query : SelectNode V) :
    EndsInBareSource (query.shownClauses dialect) ↔
      EndsInBareSource (query.lastArm.ownClauses dialect) := by
  have ends (first : List String) (arm : SelectNode V) :
      EndsInBareSource (first ++ arm.ownClauses dialect) ↔
        EndsInBareSource (arm.ownClauses dialect) := by
    cases last : (arm.ownClauses dialect).getLast? with
    | none => simp [SelectNode.ownClauses] at last
    | some word => simp [EndsInBareSource, List.getLast?_append, last]
  rcases List.eq_nil_or_concat query.compounds with single | ⟨earlier, compound, several⟩
  · rw [SelectNode.shownClauses, SelectNode.lastArm, single, List.flatMap_nil, List.append_nil]
    rfl
  · have last : query.lastArm = compound.query := by
      rw [SelectNode.lastArm, several, List.concat_eq_append, List.getLast?_append]
      rfl
    rw [SelectNode.shownClauses, last, several, List.concat_eq_append, List.flatMap_append,
      List.flatMap_singleton, ← List.append_assoc, ← List.append_assoc]
    exact ends _ compound.query

/-! ### Accepted upserts -/

section
variable [DecidableEq V] [PyObject V]

/-- What validation guarantees about the sources and arms of a SELECT for SQLite. -/
structure PlainSources (query : SelectNode V) : Prop where
  kinds : KnownKinds query.joins
  locks : query.locks = []

theorem SelectRules.knownKinds {query : SelectNode V} {dialect : Dialect} {outer : List String}
    (rules : SelectRules query dialect outer) : KnownKinds query.joins := by
  obtain ⟨first, available, sources⟩ := validateSources_rules rules.sources
  have checked := sources.nullability
  rw [validateProjectedNullability, nullExtendedSources, sources.fromSource] at checked
  obtain ⟨nullable, known, -⟩ := bind_eq_ok.mp checked
  exact nullExtendedJoins_kinds known

theorem SelectRules.plainSources {query : SelectNode V} {outer : List String}
    (rules : SelectRules query sqlite outer) : PlainSources query := by
  have portable := rules.dialectNodes
  simp only [validateDialectNodes, seq_eq_ok, check_eq_ok] at portable
  exact ⟨rules.knownKinds, by simpa [sqlite] using portable.2⟩

/-- An arm of a compound SELECT has no WITH clause and is not compound. -/
theorem SelectRules.bareArms {query : SelectNode V} {dialect : Dialect} {outer : List String}
    (rules : SelectRules query dialect outer) :
    ∀ compound ∈ query.compounds, compound.query.ctes = [] ∧ compound.query.compounds = [] := by
  intro compound member
  have shape := rules.shape
  unfold validateCompoundShape at shape
  have several : query.compounds.isEmpty = false := by
    cases compounds : query.compounds with
    | nil => simp [compounds] at member
    | cons _ _ => rfl
  simp only [several, Bool.false_eq_true, if_false, seq_eq_ok, forM_eq_ok, check_eq_ok] at shape
  have arm := shape.2 compound member
  exact ⟨List.isEmpty_iff.mp arm.2.1, List.isEmpty_iff.mp arm.2.2.1⟩

theorem PlainSources.arms {query : SelectNode V} {outer : List String}
    (rules : SelectRules query sqlite outer) :
    ∀ compound ∈ query.compounds, PlainSources compound.query :=
  fun compound member => (validateSelect_iff.mp (rules.arms compound member).2).plainSources

omit [DecidableEq V] [PyObject V] in
theorem conflict_not_mem_clauses {query : SelectNode V} (own : PlainSources query)
    (arms : ∀ compound ∈ query.compounds, PlainSources compound.query) :
    "conflict" ∉ query.shownClauses dialect := by
  intro member
  rcases List.mem_append.mp member with inside | inside
  · exact absurd (ownClauses_known own.kinds _ inside) (by decide)
  · obtain ⟨compound, listed, shown⟩ := List.mem_flatMap.mp inside
    obtain ⟨operator, arm⟩ := compound
    rcases List.mem_append.mp shown with word | word
    · have absent : "conflict" ∉ operator.words.filter (· ∈ clauseKeywords) := by
        cases operator <;> decide
      exact absent word
    · exact absurd (ownClauses_known (arms _ listed).kinds _ word) (by decide)

omit [DecidableEq V] [PyObject V] in
theorem PlainSources.lastArm {query : SelectNode V} (own : PlainSources query)
    (arms : ∀ compound ∈ query.compounds, PlainSources compound.query) :
    PlainSources query.lastArm := by
  rw [SelectNode.lastArm]
  cases last : query.compounds.getLast? with
  | none => exact own
  | some compound => exact arms compound (List.mem_of_getLast? last)

/-- An accepted `INSERT ... SELECT ... ON CONFLICT` is unambiguous for SQLite exactly when the
SELECT that stands last has a clause behind its FROM clause, or a last join with an ON clause. -/
theorem upsertUnambiguous_iff {node : InsertNode V} {query : SelectNode V} {columns : List String}
    {conflict : ConflictNode V} {compiled : CompiledQuery V}
    (source : node.source = some (.select query columns)) (upsert : node.conflict = some conflict)
    (done : compileSqlite (.insert node) = .ok compiled) :
    UpsertUnambiguous compiled.text ↔ query.lastArm.closesSource = true := by
  obtain ⟨accepted, rendered⟩ := compile_eq_ok.mp done
  obtain ⟨outer, statement⟩ := accepted_vetted accepted
  have given : query ∈ (QueryNode.insert node).sourceQuery := by
    simp [QueryNode.sourceQuery, InsertNode.sourceQuery, source]
  have rules := validateSelect_iff.mp ((validateStatement_dml statement rfl).source query given)
  have own := rules.plainSources
  have arms := PlainSources.arms rules
  have last := own.lastArm arms
  have spelled : ∃ rest, (layoutInsert sqlite node).Spelled
      (query.shownClauses sqlite ++ "on" :: "conflict" :: rest) :=
    spelled_insertSelect source upsert fun compound member => (rules.bareArms compound member).2
  obtain ⟨rest, spelled⟩ := spelled
  have shown : clauses compiled.text = query.shownClauses sqlite ++ "on" :: "conflict" :: rest := by
    rw [(renderQuery_layout rendered).1]
    exact (spelled 0).2
  have some_ : query.shownClauses sqlite ≠ [] := by
    simp [SelectNode.shownClauses, SelectNode.ownClauses]
  rw [upsertUnambiguous_clauses (conflict_not_mem_clauses own arms) some_ shown,
    endsInBareSource_clauses, endsInBareSource_own last.kinds last.locks, Bool.not_eq_false]

end

/-- `INSERT INTO "archive" ("id") SELECT "users"."id" FROM "users" ... ON CONFLICT DO NOTHING`, with
an optional WHERE clause. -/
def archiveUsers (whereNode : Option (Node Int)) : InsertNode Int :=
  { table := { name := "archive" }
    source := some (.select
      { selections := [.column "users" "id"]
        fromSource := some (.table { name := "users" })
        whereNode := whereNode } ["id"])
    conflict := some { columns := [], action := "nothing" } }

/-- `"users"."id" > 0`. -/
def positiveId : Node Int :=
  .binary (.column "users" "id") .gt (.value 0)

theorem archiveUsers_compiles {whereNode : Option (Node Int)}
    (given : whereNode ∈ [none, some positiveId]) :
    ∃ compiled, compileSqlite (.insert (archiveUsers whereNode)) = .ok compiled := by
  have rendered : ∃ compiled, renderQuery (.insert (archiveUsers whereNode)) sqlite = .ok compiled := by
    rcases List.mem_pair.mp given with rfl | rfl <;>
    · unfold renderQuery archiveUsers
      simp only [renderStatement, compileInsert, compileInsertSource, compileSelect, compileCtes,
        compileNodes, compileNode, compileFrom, compileSource, compileJoins, compileOption, positiveId,
        compileOrders, compileCompounds, compileConflictOption, compileConflict, compileReturning]
      exact ⟨_, rfl⟩
  obtain ⟨compiled, rendered⟩ := rendered
  refine ⟨compiled, compile_eq_ok.mpr ⟨?_, rendered⟩⟩
  rcases List.mem_pair.mp given with rfl | rfl <;> decide +kernel

/-- With its WHERE clause the upsert is read as one. -/
theorem upsertUnambiguous_iff_archiveUsers :
    ∃ compiled, compileSqlite (.insert (archiveUsers (some positiveId))) = .ok compiled ∧
      UpsertUnambiguous compiled.text := by
  obtain ⟨compiled, done⟩ := archiveUsers_compiles (List.mem_pair.mpr (Or.inr rfl))
  exact ⟨compiled, done, (upsertUnambiguous_iff rfl rfl done).mpr rfl⟩

/-- Without one, SQLite reads `on` as the constraint of the source `"users"`. -/
theorem archiveUsers_ambiguous :
    ∃ compiled, compileSqlite (.insert (archiveUsers none)) = .ok compiled ∧
      ¬UpsertUnambiguous compiled.text := by
  obtain ⟨compiled, done⟩ := archiveUsers_compiles (List.mem_pair.mpr (Or.inl rfl))
  have ambiguous : ¬UpsertUnambiguous
      ((layoutStatement sqlite (.insert (archiveUsers none))).sql 0) := by
    decide +kernel
  refine ⟨compiled, done, ?_⟩
  rw [(renderQuery_layout (compile_eq_ok.mp done).2).1]
  exact ambiguous

end Relq
