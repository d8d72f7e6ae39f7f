/-
Module: Relq.Builders.Select
Layer: Builders
Purpose: The SELECT builder (`query.py`) as a state machine. Any sequence of calls keeps the statement
  well formed; the class of an accepted query tells whether it only reads; and repeated `where()` and
  `having()` calls narrow the result.
Imports: Relq.Analysis.NullExtension, Relq.Builders.Dml, Relq.Scoping.CteBinding,
  Relq.Semantics.Evaluation
Trusted boundary: human-reviewed spec (the object and its methods, SelectObject.build)
Main exports: CteRelation, QueryValue, SelectObject, SelectMethod, SelectObject.call,
  SelectObject.build, SelectObject.Formed, SelectObject.select_build_formed, selectQuery_reads,
  where_narrows
-/
import Relq.Analysis.NullExtension
import Relq.Builders.Dml
import Relq.Scoping.CteBinding
import Relq.Semantics.Evaluation

namespace Relq

open Outcome ThreeValued

variable {V D : Type}

/-! ### Arguments -/

/-- A `CteTable`, or the class of a derived table: its name and `output_names()`. -/
structure CteRelation where
  reference : String
  outputNames : List String

/-- A query passed to another builder: its node, and whether it has an adapter. -/
structure QueryValue (V : Type) where
  node : QueryNode V
  hasAdapter : Bool := false

/-- A row count: an `int`, or an object of another type. -/
inductive RowCount where
  | int (amount : Int)
  | other (typeName : String)
deriving DecidableEq, Repr

/-- `_validate_row_count`. -/
def validateRowCount (clause : String) : RowCount → Except PyError Int
  | .other typeName => .error (.typeError (clause ++ " must be an int, not " ++ typeName))
  | .int amount =>
      if amount < 0 then .error (.valueError "{} must be non-negative" [clause]) else .ok amount

/-- `_reject_declared_model`. -/
def rejectDeclaredModel (query : QueryValue V) : Except PyError Unit :=
  check (query.hasAdapter = false)
    (.valueError "a CTE source cannot declare a row model: its rows never reach the executor. Build the CTE with select()/returning(), and decode the outer query instead" [])

/-- `select_node`. -/
def selectNode (query : QueryValue V) : Except PyError (SelectNode V) :=
  match query.node with
  | .select node => .ok node
  | _ => .error (.typeError "expected a SELECT query")

/-- The output name of a selected expression. -/
def outputName : Node V → Option String
  | .aliased _ aliasName => some aliasName
  | .column _ name => some name
  | .nullableResult (.aliased _ aliasName) => some aliasName
  | .nullableResult (.column _ name) => some name
  | _ => none

/-- The loop of `_validate_output_schema`. -/
def outputNames : List (Node V) → Except PyError (List String)
  | [] => .ok []
  | selection :: rest =>
      match outputName selection with
      | none => .error (.valueError "typed derived and CTE relations require every selected expression to have an output alias" [])
      | some name => do
          let names ← outputNames rest
          return name :: names

/-- `_validate_output_schema`. -/
def validateOutputSchema (expressions : List (Node V)) (expected : List String) :
    Except PyError Unit := do
  let actual ← outputNames expressions
  check actual.Nodup
    (.valueError "typed derived and CTE relations cannot have duplicate output names" [])
  check ((∀ name ∈ actual, name ∈ expected) ∧ ∀ name ∈ expected, name ∈ actual)
    (.valueError "relation output schema does not match query projection: expected {}, got {}"
      (sortedNames expected ++ actual))

/-- `_output_expressions`. -/
def QueryNode.outputExpressions : QueryNode V → List (Node V)
  | .select node => node.selections
  | node => node.returning

/-- `_modifying_cte_node`. -/
def modifyingCteNode (query : QueryValue V) : Except PyError (QueryNode V) := do
  rejectDeclaredModel query
  match query.node with
  | .select _ =>
      .error (.typeError "with_modifying() takes INSERT, UPDATE, or DELETE; use with_() for SELECT")
  | node => do
      check (node.returning ≠ [])
        (.valueError "a data-modifying CTE requires returning() to publish its rows" [])
      return node

/-- `_with_cte`. -/
def withCte (node : SelectNode V) (source : CteRelation) (query : QueryNode V) (materialized : Bool) :
    Except PyError (SelectNode V) := do
  validateOutputSchema query.outputExpressions source.outputNames
  return { node with ctes := node.ctes ++ [{ name := source.reference, query, materialized }] }

/-- The joins with a condition. -/
inductive ConditionalJoin where
  | inner | left | right | full
deriving DecidableEq, Repr

def ConditionalJoin.text : ConditionalJoin → String
  | .inner => "inner"
  | .left => "left"
  | .right => "right"
  | .full => "full"

theorem ConditionalJoin.conditional (kind : ConditionalJoin) {predicate : Node V} :
    (joinKind kind.text).isSome ∧ (kind.text = "cross" → predicate = .star) := by
  have notCross : kind.text ≠ "cross" := by cases kind <;> decide
  exact ⟨by cases kind <;> rfl, fun cross => absurd cross notCross⟩

/-! ### The builder -/

/-- A `SelectQuery` or, after `with_modifying()`, a `ModifyingQuery`. -/
structure SelectObject (V : Type) where
  node : SelectNode V
  adapter : Option AdapterShape := none
  isModifying : Bool := false

/-- The public methods with their arguments. -/
inductive SelectMethod (V : Type) where
  | from (source : SourceNode V)
  | join (kind : ConditionalJoin) (source : SourceNode V) (on : Node V)
  | crossJoin (source : SourceNode V)
  | where (predicate : Node V)
  | groupBy (expressions : List (Node V))
  | having (predicate : Node V)
  | distinct
  | orderBy (orders : List (OrderNode V))
  | limit (amount : RowCount)
  | offset (amount : RowCount)
  | compound (operator : CompoundOperator) (other : SelectNode V)
  | with (source : CteRelation) (query : QueryValue V) (materialized : Bool)
  | withRecursive (source : CteRelation) (query : QueryValue V)
  | withModifying (source : CteRelation) (query : QueryValue V) (materialized : Bool)
  | lock (strength : LockStrength) (tables : List TableSourceNode)
  | wait (policy : LockWait)
  | decode (adapter : AdapterShape)

/-- `select`: the first argument, the other ones, and whether there are keyword arguments. -/
def selectExpressions (first : Option (Node V)) (rest : List (Option (Node V))) (named : Bool) :
    Except PyError (SelectObject V) := do
  check (named = false) (.typeError "select expressions must be positional")
  check ((first :: rest).length ≤ 8)
    (.valueError "select supports at most {} expressions; declare a DerivedTable and compose smaller projections" ["8"])
  match first, rest.mapM id with
  | some node, some nodes => return { node := { selections := node :: nodes } }
  | _, _ => .error (.typeError "select accepts only SQL expressions")

/-- `select_all_from`, for the columns of the relation. -/
def selectAllFrom (columns : List (Node V)) : Except PyError (SelectObject V) := do
  check (columns ≠ []) (.valueError "select_all_from requires a relation with declared columns" [])
  return { node := { selections := columns } }

namespace SelectObject

variable (query : SelectObject V)

/-- `_with_node`. -/
def withNode (node : SelectNode V) : SelectObject V :=
  { query with node }

/-- `_require_from_source`. -/
def requireFromSource : Except PyError Unit :=
  check query.node.fromSource.isSome
    (.valueError "joins require a preceding from_(...) clause" [])

/-- The conjunction that `where` and `having` build. -/
def conjoin (existing : Option (Node V)) (predicate : Node V) : Node V :=
  match existing with
  | none => predicate
  | some earlier => .binary earlier .and predicate

/-- `_wait`. -/
def setWait (policy : LockWait) : Except PyError (SelectObject V) :=
  match query.node.locks.getLast? with
  | none =>
      .error (.valueError "{}() requires a preceding lock clause"
        [match policy with | .nowait => "nowait" | .skipLocked => "skip_locked"])
  | some latest => do
      check latest.wait.isNone (.valueError "a lock clause can have only one wait policy" [])
      return query.withNode
        { query.node with locks := query.node.locks.dropLast ++ [{ latest with wait := some policy }] }

/-- The methods that both classes have. -/
def callShared : SelectMethod V → Option (Except PyError (SelectObject V))
  | .with source body materialized => some do
      rejectDeclaredModel body
      let inner ← selectNode body
      let node ← withCte query.node source (.select inner) materialized
      return query.withNode node
  | .withModifying source body materialized => some do
      let inner ← modifyingCteNode body
      let node ← withCte query.node source inner materialized
      return { query with node, isModifying := true }
  | .decode adapter => some do
      check (query.node.selections.length = adapter.arity)
        (.valueError "{} requires {} result columns; query projects {}"
          [adapter.modelName, toString adapter.arity, toString query.node.selections.length])
      return { query with adapter := some adapter }
  | _ => none

/-- The methods that only a `SelectQuery` has. -/
def callSelect : SelectMethod V → Option (Except PyError (SelectObject V))
  | .from source => some do
      check query.node.fromSource.isNone (.valueError "from_() can only be specified once" [])
      return query.withNode { query.node with fromSource := some source }
  | .join kind source on => some do
      query.requireFromSource
      return query.withNode
        { query.node with joins := query.node.joins ++ [⟨source, on, kind.text⟩] }
  | .crossJoin source => some do
      query.requireFromSource
      return query.withNode { query.node with joins := query.node.joins ++ [⟨source, .star, "cross"⟩] }
  | .where predicate => some <| .ok <| query.withNode
      { query.node with whereNode := some (conjoin query.node.whereNode predicate) }
  | .groupBy expressions => some do
      check (expressions ≠ []) (.valueError "group_by requires at least one expression" [])
      return query.withNode { query.node with groupBy := query.node.groupBy ++ expressions }
  | .having predicate => some <| .ok <| query.withNode
      { query.node with having := some (conjoin query.node.having predicate) }
  | .distinct => some (.ok (query.withNode { query.node with distinct := true }))
  | .orderBy orders => some do
      check (orders ≠ []) (.valueError "order_by requires at least one Order" [])
      return query.withNode { query.node with orderBy := query.node.orderBy ++ orders }
  | .limit amount => some do
      check query.node.limit.isNone (.valueError "limit() can only be specified once" [])
      let count ← validateRowCount "limit" amount
      return query.withNode { query.node with limit := some count }
  | .offset amount => some do
      check query.node.offset.isNone (.valueError "offset() can only be specified once" [])
      let count ← validateRowCount "offset" amount
      return query.withNode { query.node with offset := some count }
  | .compound operator other => some do
      check (query.node.selections.length = other.selections.length)
        (.valueError "compound queries require equal projection widths: left has {}, right has {}"
          [toString query.node.selections.length, toString other.selections.length])
      return query.withNode
        { query.node with compounds := query.node.compounds ++ [⟨operator, other⟩] }
  | .withRecursive source body => some do
      rejectDeclaredModel body
      let inner ← selectNode body
      validateOutputSchema inner.selections source.outputNames
      return query.withNode { query.node with
        ctes := query.node.ctes ++
          [{ name := source.reference, query := .select inner, «recursive» := true }] }
  | .lock strength tables => some <| .ok <| query.withNode
      { query.node with locks := query.node.locks ++ [{ strength, of := tables }] }
  | .wait policy => some (query.setWait policy)
  | .with .. | .withModifying .. | .decode _ => none

/-- The outcome of a method, unless the class has no such method. -/
def respond (method : SelectMethod V) : Option (Except PyError (SelectObject V)) :=
  match query.callShared method with
  | some outcome => some outcome
  | none => if query.isModifying then none else query.callSelect method

/-- One call of a method on a query. -/
def call (method : SelectMethod V) : Except CallError (SelectObject V) :=
  match query.respond method with
  | none => .error .attributeError
  | some (.error error) => .error (.raised error)
  | some (.ok result) => .ok result

/-- `as_`: the query as a derived table. -/
def derived (relation : CteRelation) (aliasName : String) : Except PyError (SourceNode V) := do
  validateOutputSchema query.node.selections relation.outputNames
  check (aliasName ≠ "") (.valueError "derived table alias must not be empty" [])
  return .derived query.node aliasName

/-- A chain of calls. -/
def build (methods : List (SelectMethod V)) : Except CallError (SelectObject V) :=
  methods.foldlM call query

/-- The objects that `select` and `select_all_from` return. -/
inductive Start : SelectObject V → Prop where
  | select {first : Option (Node V)} {rest : List (Option (Node V))} {named : Bool}
      {query : SelectObject V} (done : selectExpressions first rest named = .ok query) : Start query
  | selectAll {columns : List (Node V)} {query : SelectObject V}
      (done : selectAllFrom columns = .ok query) : Start query

end SelectObject

/-! ### Well-formed queries -/

/-- The output columns of a WITH entry have distinct names, a recursive entry is a SELECT and a
data-modifying one returns rows. -/
structure CteNode.Formed (cte : CteNode V) : Prop where
  outputs : ∃ names, outputNames cte.query.outputExpressions = .ok names ∧ names.Nodup
  «recursive» : cte.recursive → cte.isDataModifying = false
  returning : cte.isDataModifying → cte.query.returning ≠ []

structure SelectObject.Formed (query : SelectObject V) : Prop where
  selections : query.node.selections ≠ []
  fromSource : query.node.joins ≠ [] → query.node.fromSource.isSome
  joins : ∀ join ∈ query.node.joins,
    (joinKind join.kind).isSome ∧ (join.kind = "cross" → join.predicate = .star)
  limit : ∀ amount ∈ query.node.limit, 0 ≤ amount
  offset : ∀ amount ∈ query.node.offset, 0 ≤ amount
  widths : ∀ compound ∈ query.node.compounds,
    compound.query.selections.length = query.node.selections.length
  ctes : ∀ cte ∈ query.node.ctes, cte.Formed
  /-- The class tells whether the WITH clause modifies data. -/
  modifying : query.isModifying = query.node.ctes.any CteNode.isDataModifying
  adapter : Adapted query.adapter query.node.selections

theorem validateRowCount_eq_ok {clause : String} {amount : RowCount} {count : Int}
    (done : validateRowCount clause amount = .ok count) : 0 ≤ count := by
  cases amount with
  | other typeName => cases done
  | int amount =>
      rw [validateRowCount] at done
      split at done
      · cases done
      · next natural =>
          obtain rfl := Except.ok.inj done
          exact Int.not_lt.mp natural

theorem validateOutputSchema_eq_ok {expressions : List (Node V)} {expected : List String}
    (done : validateOutputSchema expressions expected = .ok ()) :
    ∃ names, outputNames expressions = .ok names ∧ names.Nodup ∧
      ∀ name, name ∈ names ↔ name ∈ expected := by
  obtain ⟨names, collected, done⟩ := bind_eq_ok.mp done
  simp only [seq_eq_ok, check_eq_ok] at done
  exact ⟨names, collected, done.1, fun name => ⟨done.2.1 name, done.2.2 name⟩⟩

namespace SelectObject

theorem start_formed {query : SelectObject V} (begins : Start query) : query.Formed := by
  have plain : ∀ selections : List (Node V), selections ≠ [] →
      SelectObject.Formed { node := { selections } } := fun selections present =>
    { selections := present
      fromSource := fun none => absurd rfl none
      joins := nofun
      limit := nofun
      offset := nofun
      widths := nofun
      ctes := nofun
      modifying := rfl
      adapter := adapted_none _ }
  cases begins with
  | select done =>
      simp only [selectExpressions, seq_eq_ok] at done
      obtain ⟨-, -, done⟩ := done
      split at done
      · obtain rfl := pure_eq_ok.mp done
        exact plain _ (List.cons_ne_nil _ _)
      · cases done
  | selectAll done =>
      simp only [selectAllFrom, seq_eq_ok, check_eq_ok, pure_eq_ok] at done
      obtain ⟨present, rfl⟩ := done
      exact plain _ present

variable {query result : SelectObject V}

/-- One more entry of the WITH clause. -/
theorem withEntry_formed (formed : query.Formed) {entry : CteNode V} (entryFormed : entry.Formed)
    {isModifying : Bool} (same : isModifying = (query.isModifying || entry.isDataModifying)) :
    SelectObject.Formed { query with
      node := { query.node with ctes := query.node.ctes ++ [entry] }
      isModifying } :=
  { formed with
    ctes := List.forall_mem_append.mpr ⟨formed.ctes, List.forall_mem_singleton.mpr entryFormed⟩
    modifying := by simp [same, formed.modifying] }

theorem withCte_formed (formed : query.Formed) {source : CteRelation} {body : QueryNode V}
    {materialized : Bool} {node : SelectNode V} (done : withCte query.node source body materialized = .ok node)
    {isModifying : Bool}
    (returning : CteNode.isDataModifying ⟨source.reference, body, false, materialized⟩ = true →
      body.returning ≠ [])
    (same : isModifying = (query.isModifying ||
      CteNode.isDataModifying ⟨source.reference, body, false, materialized⟩)) :
    SelectObject.Formed { query with node, isModifying } := by
  simp only [withCte, seq_eq_ok, pure_eq_ok] at done
  obtain ⟨schema, rfl⟩ := done
  obtain ⟨names, collected, distinct, -⟩ := validateOutputSchema_eq_ok schema
  have entryFormed : CteNode.Formed ⟨source.reference, body, false, materialized⟩ :=
    { outputs := ⟨names, collected, distinct⟩
      «recursive» := fun isRecursive => Bool.noConfusion isRecursive
      returning := returning }
  exact withEntry_formed formed entryFormed same

theorem modifyingCteNode_eq_ok {body : QueryValue V} {node : QueryNode V}
    (done : modifyingCteNode body = .ok node) :
    node.returning ≠ [] ∧ ∀ select, node ≠ .select select := by
  simp only [modifyingCteNode, seq_eq_ok] at done
  obtain ⟨-, done⟩ := done
  split at done
  · cases done
  · next notSelect =>
      simp only [seq_eq_ok, check_eq_ok, pure_eq_ok] at done
      obtain ⟨present, rfl⟩ := done
      exact ⟨present, notSelect⟩

theorem isDataModifying_of_ne {name : String} {body : QueryNode V} {isRecursive materialized : Bool}
    (notSelect : ∀ select, body ≠ .select select) :
    CteNode.isDataModifying ⟨name, body, isRecursive, materialized⟩ = true := by
  cases body with
  | select select => exact absurd rfl (notSelect select)
  | _ => rfl

theorem callShared_formed (formed : query.Formed) {method : SelectMethod V}
    (answered : query.callShared method = some (.ok result)) : result.Formed := by
  cases method with
  | «with» source body materialized =>
      have done := Option.some.inj answered
      simp only [seq_eq_ok] at done
      obtain ⟨inner, -, done⟩ := bind_eq_ok.mp done.2
      obtain ⟨node, entered, same⟩ := bind_eq_ok.mp done
      obtain rfl := pure_eq_ok.mp same
      exact withCte_formed formed entered (fun modifies => Bool.noConfusion modifies)
        (Bool.or_false query.isModifying).symm
  | withModifying source body materialized =>
      obtain ⟨inner, taken, done⟩ := bind_eq_ok.mp (Option.some.inj answered)
      obtain ⟨node, entered, same⟩ := bind_eq_ok.mp done
      obtain rfl := pure_eq_ok.mp same
      obtain ⟨returning, notSelect⟩ := modifyingCteNode_eq_ok taken
      have same : true = (query.isModifying ||
          CteNode.isDataModifying ⟨source.reference, inner, false, materialized⟩) := by
        rw [isDataModifying_of_ne notSelect, Bool.or_true]
      exact withCte_formed formed entered (fun _ => returning) same
  | decode adapter =>
      have done := Option.some.inj answered
      simp only [seq_eq_ok, check_eq_ok, pure_eq_ok] at done
      obtain ⟨fits, rfl⟩ := done
      refine { formed with adapter := fun shape given => ?_ }
      obtain rfl := Option.mem_some.mp given
      exact fits
  | _ => cases answered

theorem join_formed (formed : query.Formed) {join : JoinNode V}
    (kind : (joinKind join.kind).isSome ∧ (join.kind = "cross" → join.predicate = .star))
    (present : query.requireFromSource = .ok ()) :
    (query.withNode { query.node with joins := query.node.joins ++ [join] }).Formed :=
  { formed with
    fromSource := fun _ => check_eq_ok.mp present
    joins := List.forall_mem_append.mpr ⟨formed.joins, List.forall_mem_singleton.mpr kind⟩ }

theorem setWait_formed (formed : query.Formed) {policy : LockWait}
    (done : query.setWait policy = .ok result) : result.Formed := by
  unfold setWait at done
  split at done
  · cases done
  · simp only [seq_eq_ok, pure_eq_ok] at done
    obtain ⟨-, rfl⟩ := done
    exact { formed with }

theorem callSelect_formed (formed : query.Formed) {method : SelectMethod V}
    (answered : query.callSelect method = some (.ok result)) : result.Formed := by
  cases method with
  | «from» source =>
      have done := Option.some.inj answered
      simp only [seq_eq_ok, pure_eq_ok] at done
      obtain ⟨-, rfl⟩ := done
      exact { formed with fromSource := fun _ => rfl }
  | join kind source on =>
      have done := Option.some.inj answered
      simp only [seq_eq_ok, pure_eq_ok] at done
      obtain ⟨present, rfl⟩ := done
      exact join_formed formed kind.conditional present
  | crossJoin source =>
      have done := Option.some.inj answered
      simp only [seq_eq_ok, pure_eq_ok] at done
      obtain ⟨present, rfl⟩ := done
      exact join_formed formed ⟨rfl, fun _ => rfl⟩ present
  | «where» | having | distinct | lock =>
      obtain rfl := Except.ok.inj (Option.some.inj answered)
      exact { formed with }
  | groupBy | orderBy =>
      have done := Option.some.inj answered
      simp only [seq_eq_ok, pure_eq_ok] at done
      obtain ⟨-, rfl⟩ := done
      exact { formed with }
  | limit amount =>
      have done := Option.some.inj answered
      simp only [seq_eq_ok] at done
      obtain ⟨count, valid, same⟩ := bind_eq_ok.mp done.2
      obtain rfl := pure_eq_ok.mp same
      refine { formed with limit := fun amount given => ?_ }
      obtain rfl := Option.mem_some.mp given
      exact validateRowCount_eq_ok valid
  | offset amount =>
      have done := Option.some.inj answered
      simp only [seq_eq_ok] at done
      obtain ⟨count, valid, same⟩ := bind_eq_ok.mp done.2
      obtain rfl := pure_eq_ok.mp same
      refine { formed with offset := fun amount given => ?_ }
      obtain rfl := Option.mem_some.mp given
      exact validateRowCount_eq_ok valid
  | compound operator other =>
      have done := Option.some.inj answered
      simp only [seq_eq_ok, check_eq_ok, pure_eq_ok] at done
      obtain ⟨widths, rfl⟩ := done
      refine { formed with widths := List.forall_mem_append.mpr ⟨formed.widths, ?_⟩ }
      exact List.forall_mem_singleton.mpr widths.symm
  | withRecursive source body =>
      have done := Option.some.inj answered
      simp only [seq_eq_ok] at done
      obtain ⟨inner, -, done⟩ := bind_eq_ok.mp done.2
      simp only [seq_eq_ok, pure_eq_ok] at done
      obtain ⟨schema, rfl⟩ := done
      obtain ⟨names, collected, distinct, -⟩ := validateOutputSchema_eq_ok schema
      have entryFormed : CteNode.Formed ⟨source.reference, .select inner, true, false⟩ :=
        { outputs := ⟨names, collected, distinct⟩
          «recursive» := fun _ => rfl
          returning := fun modifies => Bool.noConfusion modifies }
      exact withEntry_formed formed entryFormed (Bool.or_false _).symm
  | wait policy => exact setWait_formed formed (Option.some.inj answered)
  | _ => cases answered

theorem call_eq_ok {method : SelectMethod V} (done : query.call method = .ok result) :
    query.callShared method = some (.ok result) ∨
      query.isModifying = false ∧ query.callSelect method = some (.ok result) := by
  unfold call at done
  split at done
  · cases done
  · cases done
  · next answered =>
      obtain rfl := Except.ok.inj done
      unfold respond at answered
      split at answered
      · next shared => exact .inl (shared.trans answered)
      · split at answered
        · cases answered
        · next plain => exact .inr ⟨Bool.eq_false_iff.mpr plain, answered⟩

/-- Whatever is called, the query stays well formed. -/
theorem select_build_formed {methods : List (SelectMethod V)} (begins : Start query)
    (built : query.build methods = .ok result) : result.Formed := by
  refine foldlM_invariant (fun _ _ _ _ formed done => ?_) (start_formed begins) built
  rcases call_eq_ok done with shared | ⟨-, own⟩
  · exact callShared_formed formed shared
  · exact callSelect_formed formed own

end SelectObject

/-- `.from_(users).where(…).where(…).with_modifying(gone, delete(users).all_rows().returning(…))`. -/
def archiveCalls : List (SelectMethod Int) :=
  [.from (.table { name := "users" }), .where (.unary .isNotNull (.column "users" "name")),
    .where (.unary .isTrue (.column "users" "active")),
    .withModifying ⟨"gone", ["id"]⟩
      { node := .delete
          { table := { name := "users" }, bounded := true, returning := [.column "users" "id"] } }
      false]

theorem selectUsers :
    SelectObject.Start (V := Int) { node := { selections := [.column "users" "id"] } } :=
  .select (rfl : selectExpressions (some (.column "users" "id")) [] false = .ok _)

theorem select_build_formed_archiveCalls :
    ∃ result, SelectObject.build { node := { selections := [.column "users" "id"] } } archiveCalls =
      .ok result ∧ result.Formed :=
  ⟨_, rfl, SelectObject.select_build_formed selectUsers
    (rfl : SelectObject.build _ archiveCalls = .ok _)⟩

/-! ### What a query without writing entries does -/

theorem isDataModifying_eq_false {cte : CteNode V} :
    cte.isDataModifying = false ↔ ∃ node, cte.query = .select node := by
  obtain ⟨name, query, isRecursive, materialized⟩ := cte
  cases query <;> simp [CteNode.isDataModifying]

theorem query_of_cteBodies {ctes : List (CteNode V)} {env : Env} {all before : List Entry}
    {isRecursive : Bool} {query : QueryNode V} {inner : Env}
    (member : (query, inner) ∈ cteBodies env all isRecursive before ctes) :
    ∃ cte ∈ ctes, query = cte.query := by
  induction ctes generalizing before with
  | nil => cases member
  | cons first rest ih =>
      rw [cteBodies] at member
      rcases List.mem_cons.mp member with same | later
      · exact ⟨first, List.mem_cons_self, congrArg Prod.fst same⟩
      · obtain ⟨cte, found, same⟩ := ih later
        exact ⟨cte, List.mem_cons_of_mem _ found, same⟩

/-- Only the WITH clause of a SELECT holds statements of another kind. -/
theorem inside_select {node : SelectNode V} {env : Env} {place : QueryNode V × Env}
    (plain : node.ctes.any CteNode.isDataModifying = false)
    (member : place ∈ inside (.select node) env) : ∃ inner, place.1 = .select inner := by
  simp only [inside, nestedStatements, List.mem_append] at member
  rcases member with ((body | derived) | arm) | nested
  · obtain ⟨cte, found, same⟩ := query_of_cteBodies body
    have reads := List.any_eq_false.mp plain cte found
    obtain ⟨inner, query⟩ := isDataModifying_eq_false.mp (Bool.not_eq_true _ ▸ reads)
    exact ⟨inner, same.trans query⟩
  · obtain ⟨inner, -, rfl⟩ := List.mem_map.mp derived
    exact ⟨inner, rfl⟩
  · obtain ⟨compound, -, rfl⟩ := List.mem_map.mp arm
    exact ⟨compound.query, rfl⟩
  · obtain ⟨clause, -, member⟩ := List.mem_flatMap.mp nested
    obtain ⟨inner, -, rfl⟩ := List.mem_map.mp member
    exact ⟨inner, rfl⟩

section
variable [DecidableEq V] [PyObject V]

/-- The statements inside an accepted SELECT whose WITH clause only reads. The induction keeps
that a place is the outermost one or a nested scope, where the placement rule holds. -/
theorem reads_of_plain {node : SelectNode V} {dialect : Dialect}
    (accepted : Accepted (.select node) dialect)
    (plain : node.ctes.any CteNode.isDataModifying = false) {place : QueryNode V × Env}
    (occurs : Occurs (.select node) place) : ∃ inner, place.1 = .select inner := by
  have within : ∃ inner, place.1 = .select inner ∧
      inner.ctes.any CteNode.isDataModifying = false ∧
      (place = (.select node, {}) ∨
        ∃ names, (place.1, names) ∈ nestedScopes (.select node) [] ∧ ScopeMatches names place.2) := by
    induction occurs with
    | refl => exact ⟨node, rfl, plain, .inl rfl⟩
    | @tail outer place _ encloses ih =>
        obtain ⟨outerNode, isSelect, outerPlain, reached⟩ := ih
        obtain ⟨outerQuery, env⟩ := outer
        obtain rfl : outerQuery = .select outerNode := isSelect
        obtain ⟨inner, same⟩ := inside_select outerPlain encloses
        have nested : ∃ names, (place.1, names) ∈ nestedScopes (.select node) [] ∧
            ScopeMatches names place.2 := by
          rcases reached with same | ⟨names, found, matched⟩
          · obtain ⟨rfl, rfl⟩ : outerNode = node ∧ env = {} := by simpa using same
            have outermost : ScopeMatches [] ({} : Env) := by simp [ScopeMatches]
            obtain ⟨deeper, child, fits⟩ :=
              (childScopes_complete outermost encloses).resolve_right (List.not_mem_nil)
            exact ⟨deeper, mem_nestedScopes.mpr ⟨_, child, .inl rfl⟩, fits⟩
          · obtain ⟨deeper, child, fits⟩ :=
              (childScopes_complete matched encloses).resolve_right (List.not_mem_nil)
            exact ⟨deeper, childScopes_nested found child, fits⟩
        have placement := accepted_placement accepted nested.choose_spec.1
        rw [same, dataModifyingCtes, List.map_eq_nil_iff, List.filter_eq_nil_iff] at placement
        exact ⟨inner, same, List.any_eq_false.mpr placement, .inr nested⟩
  obtain ⟨inner, same, -⟩ := within
  exact ⟨inner, same⟩

/-- Whatever is called, the class of an accepted query tells whether it only reads: a `SelectQuery`
has SELECT statements inside it and nothing else, and a `ModifyingQuery` has another one. -/
theorem selectQuery_reads {start result : SelectObject V} {methods : List (SelectMethod V)}
    {dialect : Dialect} (begins : SelectObject.Start start) (built : start.build methods = .ok result)
    (accepted : Accepted (.select result.node) dialect) :
    result.isModifying = false ↔
      ∀ place, Occurs (.select result.node) place → ∃ inner, place.1 = .select inner := by
  rw [(SelectObject.select_build_formed begins built).modifying]
  constructor
  · intro plain place occurs
    exact reads_of_plain accepted plain occurs
  · intro reads
    refine List.any_eq_false.mpr fun cte member => ?_
    obtain ⟨env, body⟩ := cteBodies_query member
    have direct : Encloses (.select result.node, {}) (cte.query, env) := by
      simp only [Encloses, inside, nestedStatements, List.mem_append]
      exact .inl (.inl (.inl body))
    have select := isDataModifying_eq_false.mpr (reads _ (.single direct))
    exact Bool.eq_false_iff.mp select

end

theorem selectQuery_reads_archiveCalls :
    ∃ result : SelectObject Int,
      SelectObject.build { node := { selections := [.column "users" "id"] } } archiveCalls =
          .ok result ∧
        (result.isModifying = false ↔
          ∀ place, Occurs (.select result.node) place → ∃ inner, place.1 = .select inner) :=
  ⟨_, rfl, selectQuery_reads selectUsers (rfl : SelectObject.build _ archiveCalls = .ok _)
    (show Accepted _ postgres by decide +kernel)⟩

/-! ### Narrowing -/

/-- The two clauses that drop rows. -/
inductive RowFilter where
  | where | having
deriving DecidableEq, Repr

def SelectNode.rowFilter (node : SelectNode V) : RowFilter → Option (Node V)
  | .where => node.whereNode
  | .having => node.having

/-- The predicate a method gives to the clause. -/
def SelectMethod.predicate : RowFilter → SelectMethod V → Option (Node V)
  | .where, .where predicate => some predicate
  | .having, .having predicate => some predicate
  | _, _ => none

/-- A condition is met when it is TRUE: neither FALSE nor UNKNOWN. -/
def Interpretation.Meets (I : Interpretation V D) (predicate : Node V) : Prop :=
  I.truth (evaluate I predicate) = some true

/-- `a AND b` is TRUE when both are. -/
theorem meets_and {I : Interpretation V D} {left right : Node V} :
    I.Meets (.binary left .and right) ↔ I.Meets left ∧ I.Meets right := by
  simp only [Interpretation.Meets, evaluate, Interpretation.binary, Interpretation.truth_ofTruth]
  exact Truth.and_eq_true

theorem meets_conjoin {I : Interpretation V D} {existing : Option (Node V)} {predicate : Node V} :
    I.Meets (SelectObject.conjoin existing predicate) ↔
      (∀ earlier ∈ existing, I.Meets earlier) ∧ I.Meets predicate := by
  cases existing with
  | none => simp [SelectObject.conjoin]
  | some earlier => simp [SelectObject.conjoin, meets_and]

namespace SelectObject

variable {query result : SelectObject V}

theorem callShared_rowFilter {method : SelectMethod V} (filter : RowFilter)
    (answered : query.callShared method = some (.ok result)) :
    method.predicate filter = none ∧ result.node.rowFilter filter = query.node.rowFilter filter := by
  have entered : ∀ {source body materialized} {node : SelectNode V},
      withCte query.node source body materialized = .ok node →
        node.rowFilter filter = query.node.rowFilter filter := by
    intro source body materialized node done
    simp only [withCte, seq_eq_ok, pure_eq_ok] at done
    obtain ⟨-, rfl⟩ := done
    cases filter <;> rfl
  cases method with
  | «with» source body materialized =>
      have done := Option.some.inj answered
      simp only [seq_eq_ok] at done
      obtain ⟨inner, -, done⟩ := bind_eq_ok.mp done.2
      obtain ⟨node, changed, same⟩ := bind_eq_ok.mp done
      obtain rfl := pure_eq_ok.mp same
      exact ⟨by cases filter <;> rfl, entered changed⟩
  | withModifying source body materialized =>
      obtain ⟨inner, -, done⟩ := bind_eq_ok.mp (Option.some.inj answered)
      obtain ⟨node, changed, same⟩ := bind_eq_ok.mp done
      obtain rfl := pure_eq_ok.mp same
      exact ⟨by cases filter <;> rfl, entered changed⟩
  | decode adapter =>
      have done := Option.some.inj answered
      simp only [seq_eq_ok, pure_eq_ok] at done
      obtain ⟨-, rfl⟩ := done
      exact ⟨by cases filter <;> rfl, rfl⟩
  | _ => cases answered

theorem setWait_rowFilter {policy : LockWait} (filter : RowFilter)
    (done : query.setWait policy = .ok result) :
    result.node.rowFilter filter = query.node.rowFilter filter := by
  unfold setWait at done
  split at done
  · cases done
  · simp only [seq_eq_ok, pure_eq_ok] at done
    obtain ⟨-, rfl⟩ := done
    cases filter <;> rfl

/-- A method adds its predicate to its clause, and every other method keeps both clauses. -/
theorem callSelect_rowFilter {method : SelectMethod V} (filter : RowFilter)
    (answered : query.callSelect method = some (.ok result)) :
    result.node.rowFilter filter =
      match method.predicate filter with
      | none => query.node.rowFilter filter
      | some predicate => some (conjoin (query.node.rowFilter filter) predicate) := by
  cases method with
  | «where» | having | distinct | lock =>
      obtain rfl := Except.ok.inj (Option.some.inj answered)
      cases filter <;> rfl
  | «from» | join | crossJoin | groupBy | orderBy | compound =>
      have done := Option.some.inj answered
      simp only [seq_eq_ok, pure_eq_ok] at done
      obtain ⟨-, rfl⟩ := done
      cases filter <;> rfl
  | limit | offset =>
      have done := Option.some.inj answered
      simp only [seq_eq_ok] at done
      obtain ⟨count, -, same⟩ := bind_eq_ok.mp done.2
      obtain rfl := pure_eq_ok.mp same
      cases filter <;> rfl
  | withRecursive source body =>
      have done := Option.some.inj answered
      simp only [seq_eq_ok] at done
      obtain ⟨inner, -, done⟩ := bind_eq_ok.mp done.2
      simp only [seq_eq_ok, pure_eq_ok] at done
      obtain ⟨-, rfl⟩ := done
      cases filter <;> rfl
  | wait policy =>
      rw [setWait_rowFilter filter (Option.some.inj answered)]
      cases filter <;> rfl
  | _ => cases answered

/-- What a row that stays in the result meets. -/
theorem call_meets {method : SelectMethod V} (I : Interpretation V D) (filter : RowFilter)
    (done : query.call method = .ok result) :
    (∀ condition ∈ result.node.rowFilter filter, I.Meets condition) ↔
      (∀ condition ∈ query.node.rowFilter filter, I.Meets condition) ∧
        ∀ predicate ∈ method.predicate filter, I.Meets predicate := by
  rcases call_eq_ok done with shared | ⟨-, own⟩
  · obtain ⟨none, same⟩ := callShared_rowFilter filter shared
    simp [none, same]
  · rw [callSelect_rowFilter filter own]
    cases method.predicate filter with
    | none => simp
    | some predicate => simp [meets_conjoin]

end SelectObject

theorem build_meets {start result : SelectObject V} {methods : List (SelectMethod V)}
    (I : Interpretation V D) (filter : RowFilter) (built : start.build methods = .ok result) :
    (∀ condition ∈ result.node.rowFilter filter, I.Meets condition) ↔
      (∀ condition ∈ start.node.rowFilter filter, I.Meets condition) ∧
        ∀ predicate ∈ methods.filterMap (SelectMethod.predicate filter), I.Meets predicate := by
  induction methods generalizing start with
  | nil =>
      obtain rfl := pure_eq_ok.mp built
      simp
  | cons method rest ih =>
      rw [SelectObject.build, List.foldlM_cons] at built
      obtain ⟨next, first, later⟩ := bind_eq_ok.mp built
      rw [ih later, SelectObject.call_meets I filter first]
      cases given : method.predicate filter <;> simp [given, and_assoc]

theorem start_rowFilter {query : SelectObject V} (begins : SelectObject.Start query)
    (filter : RowFilter) : query.node.rowFilter filter = none := by
  cases begins with
  | select done =>
      simp only [selectExpressions, seq_eq_ok] at done
      obtain ⟨-, -, done⟩ := done
      split at done
      · obtain rfl := pure_eq_ok.mp done
        cases filter <;> rfl
      · cases done
  | selectAll done =>
      simp only [selectAllFrom, seq_eq_ok, pure_eq_ok] at done
      obtain ⟨-, rfl⟩ := done
      cases filter <;> rfl

/-- Calls of `where()` and `having()` only narrow: a row passes the WHERE clause, and a group the
HAVING clause, exactly when it meets every predicate given to that method, whatever is called in
between. -/
theorem where_narrows {start result : SelectObject V} {methods : List (SelectMethod V)}
    (I : Interpretation V D) (filter : RowFilter) (begins : SelectObject.Start start)
    (built : start.build methods = .ok result) :
    (∀ condition ∈ result.node.rowFilter filter, I.Meets condition) ↔
      ∀ predicate ∈ methods.filterMap (SelectMethod.predicate filter), I.Meets predicate := by
  rw [build_meets I filter built, start_rowFilter begins filter]
  simp

theorem where_narrows_archiveCalls :
    ∃ result : SelectObject Int,
      SelectObject.build { node := { selections := [.column "users" "id"] } } archiveCalls =
          .ok result ∧
        ∀ I : Interpretation Int Int,
          (∀ condition ∈ result.node.rowFilter .where, I.Meets condition) ↔
            ∀ predicate ∈ archiveCalls.filterMap (SelectMethod.predicate .where),
              I.Meets predicate :=
  ⟨_, rfl, fun I => where_narrows I .where selectUsers
    (rfl : SelectObject.build _ archiveCalls = .ok _)⟩

end Relq
