/-
Module: Relq.Builders.Dml
Layer: Builders
Purpose: The INSERT, UPDATE and DELETE builders (`dml.py`) as a state machine: the objects, and what each
  public method returns or raises. Any sequence of calls keeps the statement well formed, so that the
  structural checks the validator repeats can fail only for a statement that is not finished, and a
  statement without WHERE is accepted only after `all_rows()`.
Imports: Mathlib.Data.List.Nodup, Relq.Builders.Predicates, Relq.Compiler.Accepted
Trusted boundary: human-reviewed spec (the objects and their methods, DmlObject.build)
Main exports: TableObject, Payload, InsertObject, ConflictBuilder, UpdateObject, DeleteObject,
  DmlMethod, DmlObject.call, DmlObject.build, DmlObject.Formed, build_formed,
  insert_shape_iff, fullTable_authorized
-/
import Mathlib.Data.List.Nodup
import Relq.Builders.Predicates
import Relq.Compiler.Accepted

namespace Relq

open Outcome

variable {V : Type}

/-! ### Arguments -/

/-- A `Table`: its source node and `column_names()`. -/
structure TableObject where
  node : TableSourceNode
  columnNames : List String

/-- The items of a `dict[str, object]`, whose keys are distinct. -/
structure Payload (V : Type) where
  items : List (String × (Expression V ⊕ V))
  distinct : (items.map (·.1)).Nodup

/-- A row adapter, as far as the builders look at it. -/
structure AdapterShape where
  modelName : String
  arity : Nat
deriving DecidableEq, Repr

/-- `_values`. -/
def tableValues (table : TableObject) (entries : Payload V) : Except PyError (List (String × Node V)) := do
  check (entries.items ≠ []) (.valueError "values requires at least one column" [])
  let unknown := (entries.items.map (·.1)).filter (· ∉ table.columnNames)
  check (unknown = [])
    (.valueError "unknown column(s) for {}: {}" (table.node.name :: sortedNames unknown))
  return entries.items.map fun entry => (entry.1, Expression.operand entry.2)

/-- The loop of `_target_column_names`; an argument is what `column_node` finds in it. -/
def targetColumns (table : TableObject) :
    List (Option (String × String)) → Except PyError (List String)
  | [] => .ok []
  | none :: _ => .error (.typeError "target and conflict arguments must be table columns")
  | some (source, name) :: rest => do
      check (source = table.node.reference ∧ name ∈ table.columnNames)
        (.valueError "target and conflict columns must belong to the INSERT table" [])
      let names ← targetColumns table rest
      return name :: names

/-- `_target_column_names`. -/
def targetColumnNames (table : TableObject) (columns : List (Option (String × String)))
    (allowEmpty : Bool) : Except PyError (List String) := do
  check (columns ≠ [] ∨ allowEmpty)
    (.valueError "insert-from-select requires at least one target column" [])
  let names ← targetColumns table columns
  check names.Nodup (.valueError "target and conflict columns cannot contain duplicates" [])
  return names

/-- The expressions among the arguments of `returning()`. -/
def returningExpressions : List (Option (Node V)) → Except PyError (List (Node V))
  | [] => .ok []
  | none :: _ => .error (.typeError "returning accepts only SQL expressions")
  | some node :: rest => do
      let nodes ← returningExpressions rest
      return node :: nodes

/-- `_returning_nodes`: the first argument, the other ones, and whether there are keyword arguments. -/
def returningNodes (existing : List (Node V)) (first : Option (Node V)) (rest : List (Option (Node V)))
    (named : Bool) : Except PyError (List (Node V)) := do
  check (existing = []) (.valueError "returning() can only be specified once" [])
  check (named = false) (.typeError "returning expressions must be positional")
  check ((first :: rest).length ≤ 8)
    (.valueError "returning supports at most eight expressions; use returning_all_from(relation) to return a relation's declared columns" [])
  returningExpressions (first :: rest)

/-- `_returning_all_nodes`, for the columns of the relation. -/
def returningAllNodes (existing columns : List (Node V)) : Except PyError (List (Node V)) := do
  check (existing = []) (.valueError "returning() can only be specified once" [])
  check (columns ≠ [])
    (.valueError "returning_all_from requires a relation with declared columns" [])
  return columns

/-- The check of the three `decode` methods. -/
def checkArity (returning : List (Node V)) (adapter : AdapterShape) : Except PyError Unit :=
  check (returning.length = adapter.arity)
    (.valueError "{} does not match RETURNING width" [adapter.modelName])

/-! ### INSERT -/

/-- An `InsertQuery`, which may be a `ConflictUpdateQuery`. -/
structure InsertObject (V : Type) where
  node : InsertNode V
  table : TableObject
  adapter : Option AdapterShape := none
  isConflictUpdate : Bool := false

/-- A `ConflictBuilder`. -/
structure ConflictBuilder (V : Type) where
  query : InsertObject V
  columns : List String
  table : TableObject
  targetWhere : Option (Node V) := none

/-- `insert_into`. -/
def insertInto (table : TableObject) : InsertObject V :=
  { node := { table := table.node }, table }

namespace InsertObject

variable (query : InsertObject V)

def withSource (source : InsertSourceNode V) : Except PyError (InsertObject V) := do
  check query.node.source.isNone (.valueError "an INSERT source can only be specified once" [])
  return { query with node := { query.node with source := some source } }

def values (entries : Payload V) : Except PyError (InsertObject V) := do
  let values ← tableValues query.table entries
  query.withSource (.values values)

def valuesMany (rows : List (Payload V)) : Except PyError (InsertObject V) := do
  let prepared ← rows.mapM (tableValues query.table)
  match prepared with
  | [] => .error (.valueError "values_many requires at least one row" [])
  | first :: rest => do
      check (∀ row ∈ rest, row.map (·.1) = first.map (·.1))
        (.valueError "every values_many row must contain the same columns in the same order" [])
      query.withSource (.rows (first :: rest))

def fromSelect (select : SelectNode V) (columns : List (Option (String × String))) :
    Except PyError (InsertObject V) := do
  let names ← targetColumnNames query.table columns false
  check (select.selections.length = names.length)
    (.valueError "insert-from-select requires one target column per projected expression: targets={}, projection={}"
      [toString names.length, toString select.selections.length])
  query.withSource (.select select names)

def defaultValues : Except PyError (InsertObject V) :=
  query.withSource .defaultValues

def onConflict (columns : List (Option (String × String))) : Except PyError (ConflictBuilder V) :=
  match query.node.source with
  | none => .error (.valueError "on_conflict requires values() or from_select() first" [])
  | some .defaultValues =>
      .error (.valueError "default-values inserts and conflict clauses are mutually exclusive" [])
  | some _ => do
      let names ← targetColumnNames query.table columns true
      return { query, columns := names, table := query.table }

/-- The result is a plain `InsertQuery` without an adapter. -/
def returning (first : Option (Node V)) (rest : List (Option (Node V))) (named : Bool) :
    Except PyError (InsertObject V) := do
  let nodes ← returningNodes query.node.returning first rest named
  return { node := { query.node with returning := nodes }, table := query.table }

def returningAllFrom (columns : List (Node V)) : Except PyError (InsertObject V) := do
  let nodes ← returningAllNodes query.node.returning columns
  return { node := { query.node with returning := nodes }, table := query.table }

def decode (adapter : AdapterShape) : Except PyError (InsertObject V) := do
  checkArity query.node.returning adapter
  return { node := query.node, table := query.table, adapter := some adapter }

/-- `ConflictUpdateQuery.where`. -/
def updateWhere (predicate : Node V) : Except PyError (InsertObject V) :=
  match query.node.conflict with
  | none => .error (.typeError "expected an INSERT carrying a conflict clause")
  | some conflict =>
      .ok
        { node := { query.node with conflict := some { conflict with updateWhere := some predicate } }
          table := query.table
          adapter := query.adapter }

end InsertObject

namespace ConflictBuilder

variable (builder : ConflictBuilder V)

def «where» (predicate : Node V) : Except PyError (ConflictBuilder V) := do
  check (builder.columns ≠ [])
    (.valueError "ON CONFLICT ... WHERE requires at least one conflict target column" [])
  check builder.targetWhere.isNone
    (.valueError "on_conflict().where() can only be specified once" [])
  return { builder with targetWhere := some predicate }

/-- The result has the class of the query that `on_conflict` was called on. -/
def doNothing : InsertObject V :=
  { builder.query with
    node := { builder.query.node with
      conflict := some
        { columns := builder.columns, action := "nothing", targetWhere := builder.targetWhere } } }

def doUpdate (entries : Payload V) : Except PyError (InsertObject V) := do
  check (builder.columns ≠ [])
    (.valueError "ON CONFLICT DO UPDATE requires at least one conflict target column" [])
  let values ← tableValues builder.table entries
  return { builder.query with
    node := { builder.query.node with
      conflict := some
        { columns := builder.columns, action := "update", updateValues := values,
          targetWhere := builder.targetWhere } }
    isConflictUpdate := true }

end ConflictBuilder

/-! ### UPDATE and DELETE -/

/-- An `UpdateQuery`. -/
structure UpdateObject (V : Type) where
  node : UpdateNode V
  table : TableObject
  adapter : Option AdapterShape := none

/-- `update`. -/
def updateTable (table : TableObject) : UpdateObject V :=
  { node := { table := table.node, values := [] }, table }

namespace UpdateObject

variable (query : UpdateObject V)

def values (entries : Payload V) : Except PyError (UpdateObject V) := do
  check (query.node.values = []) (.valueError "values() can only be specified once" [])
  let values ← tableValues query.table entries
  return { query with node := { query.node with values } }

def «where» (predicate : Node V) : Except PyError (UpdateObject V) := do
  check query.node.whereNode.isNone (.valueError "where() can only be specified once" [])
  return { query with node := { query.node with whereNode := some predicate, bounded := true } }

def allRows : UpdateObject V :=
  { query with node := { query.node with bounded := true } }

def returning (first : Option (Node V)) (rest : List (Option (Node V))) (named : Bool) :
    Except PyError (UpdateObject V) := do
  let nodes ← returningNodes query.node.returning first rest named
  return { node := { query.node with returning := nodes }, table := query.table }

def returningAllFrom (columns : List (Node V)) : Except PyError (UpdateObject V) := do
  let nodes ← returningAllNodes query.node.returning columns
  return { node := { query.node with returning := nodes }, table := query.table }

def decode (adapter : AdapterShape) : Except PyError (UpdateObject V) := do
  checkArity query.node.returning adapter
  return { node := query.node, table := query.table, adapter := some adapter }

end UpdateObject

/-- A `DeleteQuery`. -/
structure DeleteObject (V : Type) where
  node : DeleteNode V
  table : TableObject
  adapter : Option AdapterShape := none

/-- `delete_from`. -/
def deleteFrom (table : TableObject) : DeleteObject V :=
  { node := { table := table.node }, table }

namespace DeleteObject

variable (query : DeleteObject V)

def «where» (predicate : Node V) : Except PyError (DeleteObject V) := do
  check query.node.whereNode.isNone (.valueError "where() can only be specified once" [])
  return { query with node := { query.node with whereNode := some predicate, bounded := true } }

def allRows : DeleteObject V :=
  { query with node := { query.node with bounded := true } }

def returning (first : Option (Node V)) (rest : List (Option (Node V))) (named : Bool) :
    Except PyError (DeleteObject V) := do
  let nodes ← returningNodes query.node.returning first rest named
  return { node := { query.node with returning := nodes }, table := query.table }

def returningAllFrom (columns : List (Node V)) : Except PyError (DeleteObject V) := do
  let nodes ← returningAllNodes query.node.returning columns
  return { node := { query.node with returning := nodes }, table := query.table }

def decode (adapter : AdapterShape) : Except PyError (DeleteObject V) := do
  checkArity query.node.returning adapter
  return { node := query.node, table := query.table, adapter := some adapter }

end DeleteObject

/-! ### Calls -/

inductive DmlObject (V : Type) where
  | insert (query : InsertObject V)
  | conflict (builder : ConflictBuilder V)
  | update (query : UpdateObject V)
  | delete (query : DeleteObject V)

/-- The public methods with their arguments. -/
inductive DmlMethod (V : Type) where
  | values (entries : Payload V)
  | valuesMany (rows : List (Payload V))
  | fromSelect (select : SelectNode V) (columns : List (Option (String × String)))
  | defaultValues
  | onConflict (columns : List (Option (String × String)))
  | where (predicate : Node V)
  | doNothing
  | doUpdate (entries : Payload V)
  | allRows
  | returning (first : Option (Node V)) (rest : List (Option (Node V))) (named : Bool)
  | returningAllFrom (columns : List (Node V))
  | decode (adapter : AdapterShape)

/-- Why a call has no result: the class has no such method, or the method raises. -/
inductive CallError where
  | attributeError
  | raised (error : PyError)
deriving DecidableEq, Repr

def InsertObject.call (query : InsertObject V) :
    DmlMethod V → Option (Except PyError (DmlObject V))
  | .values entries => some ((query.values entries).map .insert)
  | .valuesMany rows => some ((query.valuesMany rows).map .insert)
  | .fromSelect select columns => some ((query.fromSelect select columns).map .insert)
  | .defaultValues => some (query.defaultValues.map .insert)
  | .onConflict columns => some ((query.onConflict columns).map .conflict)
  | .where predicate =>
      if query.isConflictUpdate then some ((query.updateWhere predicate).map .insert) else none
  | .returning first rest named => some ((query.returning first rest named).map .insert)
  | .returningAllFrom columns => some ((query.returningAllFrom columns).map .insert)
  | .decode adapter => some ((query.decode adapter).map .insert)
  | _ => none

def ConflictBuilder.call (builder : ConflictBuilder V) :
    DmlMethod V → Option (Except PyError (DmlObject V))
  | .where predicate => some ((builder.where predicate).map .conflict)
  | .doNothing => some (.ok (.insert builder.doNothing))
  | .doUpdate entries => some ((builder.doUpdate entries).map .insert)
  | _ => none

def UpdateObject.call (query : UpdateObject V) :
    DmlMethod V → Option (Except PyError (DmlObject V))
  | .values entries => some ((query.values entries).map .update)
  | .where predicate => some ((query.where predicate).map .update)
  | .allRows => some (.ok (.update query.allRows))
  | .returning first rest named => some ((query.returning first rest named).map .update)
  | .returningAllFrom columns => some ((query.returningAllFrom columns).map .update)
  | .decode adapter => some ((query.decode adapter).map .update)
  | _ => none

def DeleteObject.call (query : DeleteObject V) :
    DmlMethod V → Option (Except PyError (DmlObject V))
  | .where predicate => some ((query.where predicate).map .delete)
  | .allRows => some (.ok (.delete query.allRows))
  | .returning first rest named => some ((query.returning first rest named).map .delete)
  | .returningAllFrom columns => some ((query.returningAllFrom columns).map .delete)
  | .decode adapter => some ((query.decode adapter).map .delete)
  | _ => none

namespace DmlObject

def respond : DmlObject V → DmlMethod V → Option (Except PyError (DmlObject V))
  | .insert query => query.call
  | .conflict builder => builder.call
  | .update query => query.call
  | .delete query => query.call

/-- One call of a method on an object. -/
def call (object : DmlObject V) (method : DmlMethod V) : Except CallError (DmlObject V) :=
  match object.respond method with
  | none => .error .attributeError
  | some (.error error) => .error (.raised error)
  | some (.ok result) => .ok result

/-- A chain of calls. -/
def build (start : DmlObject V) (methods : List (DmlMethod V)) : Except CallError (DmlObject V) :=
  methods.foldlM call start

/-- The objects that `insert_into`, `update` and `delete_from` return. -/
inductive Start : DmlObject V → Prop where
  | insert (table : TableObject) : Start (.insert (insertInto table))
  | update (table : TableObject) : Start (.update (updateTable table))
  | delete (table : TableObject) : Start (.delete (deleteFrom table))

end DmlObject

/-! ### Well-formed objects -/

/-- The names are pairwise distinct columns of the table. -/
structure TableObject.Owns (table : TableObject) (names : List String) : Prop where
  distinct : names.Nodup
  declared : ∀ name ∈ names, name ∈ table.columnNames

theorem TableObject.owns_nil (table : TableObject) : table.Owns [] :=
  ⟨List.nodup_nil, nofun⟩

def InsertSourceNode.Formed (table : TableObject) : InsertSourceNode V → Prop
  | .values cells => cells ≠ [] ∧ table.Owns (cells.map (·.1))
  | .rows several => several ≠ [] ∧
      ∃ columns, columns ≠ [] ∧ table.Owns columns ∧ ∀ row ∈ several, row.map (·.1) = columns
  | .select query columns =>
      columns ≠ [] ∧ table.Owns columns ∧ query.selections.length = columns.length
  | .defaultValues => True

structure ConflictNode.Formed (table : TableObject) (conflict : ConflictNode V) : Prop where
  columns : table.Owns conflict.columns
  targetWhere : conflict.targetWhere.isSome → conflict.columns ≠ []
  action : (conflict.action = "nothing" ∧ conflict.updateValues = []) ∨
    (conflict.action = "update" ∧ conflict.columns ≠ [] ∧ conflict.updateValues ≠ [] ∧
      table.Owns (conflict.updateValues.map (·.1)))

/-- An adapter has one field for each returned expression. -/
def Adapted (adapter : Option AdapterShape) (returning : List (Node V)) : Prop :=
  ∀ shape ∈ adapter, returning.length = shape.arity

structure InsertObject.Formed (query : InsertObject V) : Prop where
  table : query.node.table = query.table.node
  source : ∀ source ∈ query.node.source, source.Formed query.table
  conflict : ∀ conflict ∈ query.node.conflict, conflict.Formed query.table
  /-- A conflict clause stands behind rows to insert. -/
  conflictSource : query.node.conflict.isSome → ∃ source ∈ query.node.source, source ≠ .defaultValues
  conflictUpdate : query.isConflictUpdate → query.node.conflict.isSome
  adapter : Adapted query.adapter query.node.returning

structure ConflictBuilder.Formed (builder : ConflictBuilder V) : Prop where
  query : builder.query.Formed
  table : builder.table = builder.query.table
  source : ∃ source ∈ builder.query.node.source, source ≠ .defaultValues
  columns : builder.table.Owns builder.columns
  targetWhere : builder.targetWhere.isSome → builder.columns ≠ []

structure UpdateObject.Formed (query : UpdateObject V) : Prop where
  table : query.node.table = query.table.node
  values : query.table.Owns (query.node.values.map (·.1))
  bounded : query.node.whereNode.isSome → query.node.bounded
  adapter : Adapted query.adapter query.node.returning

structure DeleteObject.Formed (query : DeleteObject V) : Prop where
  table : query.node.table = query.table.node
  bounded : query.node.whereNode.isSome → query.node.bounded
  adapter : Adapted query.adapter query.node.returning

def DmlObject.Formed : DmlObject V → Prop
  | .insert query => query.Formed
  | .conflict builder => builder.Formed
  | .update query => query.Formed
  | .delete query => query.Formed

/-! ### What the arguments become -/

theorem tableValues_eq_ok {table : TableObject} {entries : Payload V} {values : List (String × Node V)}
    (done : tableValues table entries = .ok values) :
    values ≠ [] ∧ table.Owns (values.map (·.1)) := by
  simp only [tableValues, seq_eq_ok, check_eq_ok, pure_eq_ok, List.filter_eq_nil_iff,
    decide_eq_true_eq, Decidable.not_not] at done
  obtain ⟨present, known, rfl⟩ := done
  have names : (entries.items.map fun entry => (entry.1, Expression.operand entry.2)).map (·.1) =
      entries.items.map (·.1) := by
    simp
  refine ⟨by simpa using present, ?_, ?_⟩
  · rw [names]
    exact entries.distinct
  · rw [names]
    exact known

theorem targetColumns_declared {table : TableObject} {columns : List (Option (String × String))}
    {names : List String} (done : targetColumns table columns = .ok names) :
    ∀ name ∈ names, name ∈ table.columnNames := by
  induction columns generalizing names with
  | nil =>
      obtain rfl := Except.ok.inj done
      exact nofun
  | cons column rest ih =>
      cases column with
      | none => cases done
      | some column =>
          simp only [targetColumns, seq_eq_ok, check_eq_ok] at done
          obtain ⟨⟨-, declared⟩, done⟩ := done
          obtain ⟨others, later, same⟩ := bind_eq_ok.mp done
          obtain rfl := pure_eq_ok.mp same
          exact List.forall_mem_cons.mpr ⟨declared, ih later⟩

theorem targetColumns_length {table : TableObject} {columns : List (Option (String × String))}
    {names : List String} (done : targetColumns table columns = .ok names) :
    names.length = columns.length := by
  induction columns generalizing names with
  | nil =>
      obtain rfl := Except.ok.inj done
      rfl
  | cons column rest ih =>
      cases column with
      | none => cases done
      | some column =>
          simp only [targetColumns, seq_eq_ok] at done
          obtain ⟨others, later, same⟩ := bind_eq_ok.mp done.2
          obtain rfl := pure_eq_ok.mp same
          rw [List.length_cons, List.length_cons, ih later]

theorem targetColumnNames_eq_ok {table : TableObject} {columns : List (Option (String × String))}
    {allowEmpty : Bool} {names : List String}
    (done : targetColumnNames table columns allowEmpty = .ok names) :
    table.Owns names ∧ (allowEmpty = false → names ≠ []) := by
  simp only [targetColumnNames, seq_eq_ok, check_eq_ok] at done
  obtain ⟨present, done⟩ := done
  obtain ⟨found, collected, done⟩ := bind_eq_ok.mp done
  simp only [seq_eq_ok, check_eq_ok, pure_eq_ok] at done
  obtain ⟨distinct, rfl⟩ := done
  refine ⟨⟨distinct, targetColumns_declared collected⟩, fun required => ?_⟩
  have given : columns ≠ [] := present.resolve_right (by simp [required])
  rw [← List.length_pos_iff, targetColumns_length collected]
  exact List.length_pos_iff.mpr given

theorem adapted_none (returning : List (Node V)) : Adapted none returning :=
  nofun

theorem checkArity_eq_ok {returning : List (Node V)} {adapter : AdapterShape}
    (done : checkArity returning adapter = .ok ()) : Adapted (some adapter) returning := by
  intro shape given
  obtain rfl := Option.mem_some.mp given
  exact check_eq_ok.mp done

/-! ### One call -/

namespace InsertObject

theorem insertInto_formed (table : TableObject) : (insertInto table : InsertObject V).Formed where
  table := rfl
  source := nofun
  conflict := nofun
  conflictSource := nofun
  conflictUpdate := fun update => absurd update Bool.false_ne_true
  adapter := adapted_none _

variable {query result : InsertObject V}

theorem withSource_formed (formed : query.Formed) {source : InsertSourceNode V}
    (done : query.withSource source = .ok result) (sourceFormed : source.Formed query.table) :
    result.Formed := by
  simp only [withSource, seq_eq_ok, check_eq_ok, pure_eq_ok, Option.isNone_iff_eq_none] at done
  obtain ⟨absent, rfl⟩ := done
  refine { formed with source := ?_, conflictSource := fun present => ?_ }
  · intro given member
    obtain rfl := Option.mem_some.mp member
    exact sourceFormed
  · obtain ⟨earlier, standing, -⟩ := formed.conflictSource present
    rw [absent] at standing
    cases standing

theorem values_formed (formed : query.Formed) {entries : Payload V}
    (done : query.values entries = .ok result) : result.Formed := by
  obtain ⟨values, prepared, done⟩ := bind_eq_ok.mp done
  exact withSource_formed formed done (tableValues_eq_ok prepared)

theorem valuesMany_formed (formed : query.Formed) {rows : List (Payload V)}
    (done : query.valuesMany rows = .ok result) : result.Formed := by
  obtain ⟨prepared, each, done⟩ := bind_eq_ok.mp done
  have owned : ∀ row ∈ prepared, row ≠ [] ∧ query.table.Owns (row.map (·.1)) := by
    intro row member
    have listed : Except.ok row ∈ rows.map (tableValues query.table) := by
      rw [mapM_eq_ok.mp each]
      exact List.mem_map_of_mem member
    obtain ⟨entries, -, prepared⟩ := List.mem_map.mp listed
    exact tableValues_eq_ok prepared
  cases prepared with
  | nil => cases done
  | cons first rest =>
      simp only [seq_eq_ok, check_eq_ok] at done
      obtain ⟨alike, done⟩ := done
      obtain ⟨present, owns⟩ := owned first List.mem_cons_self
      refine withSource_formed formed done ⟨List.cons_ne_nil _ _, first.map (·.1), ?_, owns, ?_⟩
      · simpa using present
      · exact List.forall_mem_cons.mpr ⟨rfl, alike⟩

theorem fromSelect_formed (formed : query.Formed) {select : SelectNode V}
    {columns : List (Option (String × String))} (done : query.fromSelect select columns = .ok result) :
    result.Formed := by
  obtain ⟨names, collected, done⟩ := bind_eq_ok.mp done
  simp only [seq_eq_ok, check_eq_ok] at done
  obtain ⟨owns, present⟩ := targetColumnNames_eq_ok collected
  exact withSource_formed formed done.2 ⟨present rfl, owns, done.1⟩

theorem onConflict_formed (formed : query.Formed) {columns : List (Option (String × String))}
    {builder : ConflictBuilder V} (done : query.onConflict columns = .ok builder) : builder.Formed := by
  unfold onConflict at done
  split at done
  · cases done
  · cases done
  · next source notDefault standing =>
      obtain ⟨names, collected, same⟩ := bind_eq_ok.mp done
      obtain rfl := pure_eq_ok.mp same
      exact
        { query := formed
          table := rfl
          source := ⟨source, standing, notDefault⟩
          columns := (targetColumnNames_eq_ok collected).1
          targetWhere := fun present => absurd present Bool.false_ne_true }

theorem returning_formed (formed : query.Formed) {first : Option (Node V)}
    {rest : List (Option (Node V))} {named : Bool} (done : query.returning first rest named = .ok result) :
    result.Formed := by
  obtain ⟨nodes, -, same⟩ := bind_eq_ok.mp done
  obtain rfl := pure_eq_ok.mp same
  exact { formed with
    conflictUpdate := fun update => absurd update Bool.false_ne_true, adapter := adapted_none _ }

theorem returningAllFrom_formed (formed : query.Formed) {columns : List (Node V)}
    (done : query.returningAllFrom columns = .ok result) : result.Formed := by
  obtain ⟨nodes, -, same⟩ := bind_eq_ok.mp done
  obtain rfl := pure_eq_ok.mp same
  exact { formed with
    conflictUpdate := fun update => absurd update Bool.false_ne_true, adapter := adapted_none _ }

theorem decode_formed (formed : query.Formed) {adapter : AdapterShape}
    (done : query.decode adapter = .ok result) : result.Formed := by
  simp only [decode, seq_eq_ok, pure_eq_ok] at done
  obtain ⟨fits, rfl⟩ := done
  exact { formed with
    conflictUpdate := fun update => absurd update Bool.false_ne_true, adapter := checkArity_eq_ok fits }

/-- The error of `ConflictUpdateQuery.where` cannot occur. -/
theorem updateWhere_succeeds (formed : query.Formed) (isConflictUpdate : query.isConflictUpdate)
    (predicate : Node V) : ∃ result, query.updateWhere predicate = .ok result := by
  obtain ⟨conflict, present⟩ := Option.isSome_iff_exists.mp (formed.conflictUpdate isConflictUpdate)
  rw [updateWhere, present]
  exact ⟨_, rfl⟩

theorem updateWhere_formed (formed : query.Formed) {predicate : Node V}
    (done : query.updateWhere predicate = .ok result) : result.Formed := by
  unfold updateWhere at done
  split at done
  · cases done
  · next conflict present =>
      obtain rfl := Except.ok.inj done
      refine
        { table := formed.table
          source := formed.source
          conflict := ?_
          conflictSource := fun _ => formed.conflictSource (by simp [present])
          conflictUpdate := fun update => absurd update Bool.false_ne_true
          adapter := formed.adapter }
      intro given member
      obtain rfl := Option.mem_some.mp member
      exact { formed.conflict conflict present with }

theorem call_formed (formed : query.Formed) {method : DmlMethod V} {object : DmlObject V}
    (answered : query.call method = some (.ok object)) : object.Formed := by
  cases method with
  | values entries =>
      obtain ⟨result, done, rfl⟩ := map_eq_ok.mp (Option.some.inj answered)
      exact values_formed formed done
  | valuesMany rows =>
      obtain ⟨result, done, rfl⟩ := map_eq_ok.mp (Option.some.inj answered)
      exact valuesMany_formed formed done
  | fromSelect select columns =>
      obtain ⟨result, done, rfl⟩ := map_eq_ok.mp (Option.some.inj answered)
      exact fromSelect_formed formed done
  | defaultValues =>
      obtain ⟨result, done, rfl⟩ := map_eq_ok.mp (Option.some.inj answered)
      exact withSource_formed formed done trivial
  | onConflict columns =>
      obtain ⟨builder, done, rfl⟩ := map_eq_ok.mp (Option.some.inj answered)
      exact onConflict_formed formed done
  | «where» predicate =>
      rw [call] at answered
      split at answered
      · obtain ⟨result, done, rfl⟩ := map_eq_ok.mp (Option.some.inj answered)
        exact updateWhere_formed formed done
      · cases answered
  | returning first rest named =>
      obtain ⟨result, done, rfl⟩ := map_eq_ok.mp (Option.some.inj answered)
      exact returning_formed formed done
  | returningAllFrom columns =>
      obtain ⟨result, done, rfl⟩ := map_eq_ok.mp (Option.some.inj answered)
      exact returningAllFrom_formed formed done
  | decode adapter =>
      obtain ⟨result, done, rfl⟩ := map_eq_ok.mp (Option.some.inj answered)
      exact decode_formed formed done
  | doNothing | doUpdate | allRows => cases answered

end InsertObject

namespace ConflictBuilder

variable {builder result : ConflictBuilder V}

theorem where_formed (formed : builder.Formed) {predicate : Node V}
    (done : builder.where predicate = .ok result) : result.Formed := by
  simp only [«where», seq_eq_ok, check_eq_ok, pure_eq_ok] at done
  obtain ⟨present, -, rfl⟩ := done
  exact { formed with targetWhere := fun _ => present }

/-- Replacing the conflict clause of a statement with rows to insert. -/
theorem replaced_formed (formed : builder.Formed) {conflict : ConflictNode V}
    (clause : conflict.Formed builder.query.table) (isConflictUpdate : Bool) :
    InsertObject.Formed { builder.query with
      node := { builder.query.node with conflict := some conflict }
      isConflictUpdate } where
  table := formed.query.table
  source := formed.query.source
  conflict := by
    intro given member
    obtain rfl := Option.mem_some.mp member
    exact clause
  conflictSource := fun _ => formed.source
  conflictUpdate := fun _ => rfl
  adapter := formed.query.adapter

theorem doNothing_formed (formed : builder.Formed) : builder.doNothing.Formed :=
  replaced_formed formed
    { columns := formed.table ▸ formed.columns
      targetWhere := formed.targetWhere
      action := .inl ⟨rfl, rfl⟩ } _

theorem doUpdate_formed (formed : builder.Formed) {entries : Payload V} {updated : InsertObject V}
    (done : builder.doUpdate entries = .ok updated) : updated.Formed := by
  simp only [doUpdate, seq_eq_ok, check_eq_ok] at done
  obtain ⟨present, done⟩ := done
  obtain ⟨values, prepared, same⟩ := bind_eq_ok.mp done
  obtain rfl := pure_eq_ok.mp same
  obtain ⟨some_, owns⟩ := tableValues_eq_ok prepared
  exact replaced_formed formed
    { columns := formed.table ▸ formed.columns
      targetWhere := formed.targetWhere
      action := .inr ⟨rfl, present, some_, formed.table ▸ owns⟩ } true

theorem call_formed (formed : builder.Formed) {method : DmlMethod V} {object : DmlObject V}
    (answered : builder.call method = some (.ok object)) : object.Formed := by
  cases method with
  | «where» predicate =>
      obtain ⟨next, done, rfl⟩ := map_eq_ok.mp (Option.some.inj answered)
      exact where_formed formed done
  | doNothing =>
      cases answered
      exact doNothing_formed formed
  | doUpdate entries =>
      obtain ⟨updated, done, rfl⟩ := map_eq_ok.mp (Option.some.inj answered)
      exact doUpdate_formed formed done
  | _ => cases answered

end ConflictBuilder

namespace UpdateObject

theorem updateTable_formed (table : TableObject) : (updateTable table : UpdateObject V).Formed where
  table := rfl
  values := table.owns_nil
  bounded := nofun
  adapter := adapted_none _

variable {query result : UpdateObject V}

theorem values_formed (formed : query.Formed) {entries : Payload V}
    (done : query.values entries = .ok result) : result.Formed := by
  simp only [values, seq_eq_ok] at done
  obtain ⟨values, prepared, same⟩ := bind_eq_ok.mp done.2
  obtain rfl := pure_eq_ok.mp same
  exact { formed with values := (tableValues_eq_ok prepared).2 }

theorem where_formed (formed : query.Formed) {predicate : Node V}
    (done : query.where predicate = .ok result) : result.Formed := by
  simp only [«where», seq_eq_ok, pure_eq_ok] at done
  obtain ⟨-, rfl⟩ := done
  exact { formed with bounded := fun _ => rfl }

theorem call_formed (formed : query.Formed) {method : DmlMethod V} {object : DmlObject V}
    (answered : query.call method = some (.ok object)) : object.Formed := by
  cases method with
  | values entries =>
      obtain ⟨result, done, rfl⟩ := map_eq_ok.mp (Option.some.inj answered)
      exact values_formed formed done
  | «where» predicate =>
      obtain ⟨result, done, rfl⟩ := map_eq_ok.mp (Option.some.inj answered)
      exact where_formed formed done
  | allRows =>
      cases answered
      exact { formed with bounded := fun _ => rfl }
  | returning first rest named =>
      obtain ⟨result, done, rfl⟩ := map_eq_ok.mp (Option.some.inj answered)
      obtain ⟨nodes, -, same⟩ := bind_eq_ok.mp done
      obtain rfl := pure_eq_ok.mp same
      exact { formed with adapter := adapted_none _ }
  | returningAllFrom columns =>
      obtain ⟨result, done, rfl⟩ := map_eq_ok.mp (Option.some.inj answered)
      obtain ⟨nodes, -, same⟩ := bind_eq_ok.mp done
      obtain rfl := pure_eq_ok.mp same
      exact { formed with adapter := adapted_none _ }
  | decode adapter =>
      obtain ⟨result, done, rfl⟩ := map_eq_ok.mp (Option.some.inj answered)
      simp only [decode, seq_eq_ok, pure_eq_ok] at done
      obtain ⟨fits, rfl⟩ := done
      exact { formed with adapter := checkArity_eq_ok fits }
  | _ => cases answered

end UpdateObject

namespace DeleteObject

theorem deleteFrom_formed (table : TableObject) : (deleteFrom table : DeleteObject V).Formed where
  table := rfl
  bounded := nofun
  adapter := adapted_none _

variable {query result : DeleteObject V}

theorem where_formed (formed : query.Formed) {predicate : Node V}
    (done : query.where predicate = .ok result) : result.Formed := by
  simp only [«where», seq_eq_ok, pure_eq_ok] at done
  obtain ⟨-, rfl⟩ := done
  exact { formed with bounded := fun _ => rfl }

theorem call_formed (formed : query.Formed) {method : DmlMethod V} {object : DmlObject V}
    (answered : query.call method = some (.ok object)) : object.Formed := by
  cases method with
  | «where» predicate =>
      obtain ⟨result, done, rfl⟩ := map_eq_ok.mp (Option.some.inj answered)
      exact where_formed formed done
  | allRows =>
      cases answered
      exact { formed with bounded := fun _ => rfl }
  | returning first rest named =>
      obtain ⟨result, done, rfl⟩ := map_eq_ok.mp (Option.some.inj answered)
      obtain ⟨nodes, -, same⟩ := bind_eq_ok.mp done
      obtain rfl := pure_eq_ok.mp same
      exact { formed with adapter := adapted_none _ }
  | returningAllFrom columns =>
      obtain ⟨result, done, rfl⟩ := map_eq_ok.mp (Option.some.inj answered)
      obtain ⟨nodes, -, same⟩ := bind_eq_ok.mp done
      obtain rfl := pure_eq_ok.mp same
      exact { formed with adapter := adapted_none _ }
  | decode adapter =>
      obtain ⟨result, done, rfl⟩ := map_eq_ok.mp (Option.some.inj answered)
      simp only [decode, seq_eq_ok, pure_eq_ok] at done
      obtain ⟨fits, rfl⟩ := done
      exact { formed with adapter := checkArity_eq_ok fits }
  | _ => cases answered

end DeleteObject

/-! ### Chains of calls -/

namespace DmlObject

theorem start_formed {start : DmlObject V} (begins : Start start) : start.Formed := by
  cases begins with
  | insert table => exact InsertObject.insertInto_formed table
  | update table => exact UpdateObject.updateTable_formed table
  | delete table => exact DeleteObject.deleteFrom_formed table

theorem call_eq_ok {object result : DmlObject V} {method : DmlMethod V}
    (done : object.call method = .ok result) : object.respond method = some (.ok result) := by
  unfold call at done
  split at done
  · cases done
  · cases done
  · next answered =>
      obtain rfl := Except.ok.inj done
      exact answered

theorem call_formed {object result : DmlObject V} {method : DmlMethod V} (formed : object.Formed)
    (done : object.call method = .ok result) : result.Formed := by
  have answered := call_eq_ok done
  cases object with
  | insert query => exact InsertObject.call_formed formed answered
  | conflict builder => exact ConflictBuilder.call_formed formed answered
  | update query => exact UpdateObject.call_formed formed answered
  | delete query => exact DeleteObject.call_formed formed answered

/-- After any sequence of method calls the object is still well formed, or the sequence has raised. -/
theorem build_formed {start result : DmlObject V} {methods : List (DmlMethod V)} (begins : Start start)
    (built : start.build methods = .ok result) : result.Formed :=
  foldlM_invariant (fun _ _ _ _ formed done => call_formed formed done) (start_formed begins) built

end DmlObject

/-- A table `users` with the columns `id` and `name`. -/
def usersTable : TableObject :=
  { node := { name := "users" }, columnNames := ["id", "name"] }

/-- `.values(id=1, name=2).on_conflict(users.id).do_update(name=3).returning(users.id)`. -/
def upsertCalls : List (DmlMethod Int) :=
  [.values ⟨[("id", .inr 1), ("name", .inr 2)], by decide⟩, .onConflict [some ("users", "id")],
    .doUpdate ⟨[("name", .inr 3)], by decide⟩, .returning (some (.column "users" "id")) [] false]

theorem build_formed_upsertCalls :
    ∃ result, (DmlObject.insert (insertInto usersTable)).build upsertCalls = .ok result ∧
      result.Formed :=
  ⟨_, rfl, DmlObject.build_formed (.insert usersTable) (rfl : DmlObject.build _ upsertCalls = .ok _)⟩

/-! ### Against the validator -/

/-- The structural checks of an INSERT that the builders made fail only for want of a source. -/
theorem insert_shape_iff {start : DmlObject V} {methods : List (DmlMethod V)} {query : InsertObject V}
    (begins : DmlObject.Start start) (built : start.build methods = .ok (.insert query)) :
    validateInsertShape query.node = .ok () ↔ query.node.source.isSome = true := by
  have formed : query.Formed := DmlObject.build_formed begins built
  unfold validateInsertShape
  cases standing : query.node.source with
  | none => simp
  | some source =>
      refine ⟨fun _ => rfl, fun _ => ?_⟩
      have sourceFormed := formed.source source standing
      cases source with
      | values => rfl
      | select select columns =>
          obtain ⟨present, -, widths⟩ := sourceFormed
          simp [present, widths]
      | rows rows =>
          obtain ⟨present, columns, -, -, alike⟩ := sourceFormed
          cases rows with
          | nil => exact absurd rfl present
          | cons first rest =>
              refine check_eq_ok.mpr fun row member => ?_
              rw [alike row (List.mem_cons_of_mem _ member), alike first List.mem_cons_self]
      | defaultValues =>
          refine check_eq_ok.mpr (Option.isNone_iff_eq_none.mpr ?_)
          by_contra present
          obtain ⟨source, given, notDefault⟩ :=
            formed.conflictSource (Option.isSome_iff_ne_none.mpr present)
          rw [standing] at given
          exact notDefault (Option.mem_some.mp given).symm

theorem insert_shape_iff_upsertCalls :
    ∃ query, (DmlObject.insert (insertInto usersTable)).build upsertCalls = .ok (.insert query) ∧
      (validateInsertShape query.node = .ok () ↔ query.node.source.isSome = true) :=
  ⟨_, rfl, insert_shape_iff (.insert usersTable) (rfl : DmlObject.build _ upsertCalls = .ok _)⟩

/-- Without `all_rows()` an UPDATE or DELETE is bounded only by a predicate that `where()` was given. -/
def WhereGiven (methods : List (DmlMethod V)) : DmlObject V → Prop
  | .update query => query.node.bounded = true →
      ∃ predicate, .where predicate ∈ methods ∧ query.node.whereNode = some predicate
  | .delete query => query.node.bounded = true →
      ∃ predicate, .where predicate ∈ methods ∧ query.node.whereNode = some predicate
  | _ => True

/-- What a call does to the restriction of an UPDATE. -/
theorem UpdateObject.call_restriction {query : UpdateObject V} {method : DmlMethod V}
    {object : DmlObject V} (answered : query.call method = some (.ok object)) :
    ∃ result, object = .update result ∧
      ((result.node.bounded = query.node.bounded ∧ result.node.whereNode = query.node.whereNode) ∨
        (∃ predicate, method = .where predicate ∧ result.node.whereNode = some predicate) ∨
        method = .allRows) := by
  cases method with
  | values entries =>
      obtain ⟨result, done, rfl⟩ := map_eq_ok.mp (Option.some.inj answered)
      simp only [values, seq_eq_ok] at done
      obtain ⟨values, -, same⟩ := bind_eq_ok.mp done.2
      obtain rfl := pure_eq_ok.mp same
      exact ⟨_, rfl, .inl ⟨rfl, rfl⟩⟩
  | «where» predicate =>
      obtain ⟨result, done, rfl⟩ := map_eq_ok.mp (Option.some.inj answered)
      simp only [«where», seq_eq_ok, pure_eq_ok] at done
      obtain ⟨-, rfl⟩ := done
      exact ⟨_, rfl, .inr (.inl ⟨predicate, rfl, rfl⟩)⟩
  | allRows =>
      cases answered
      exact ⟨_, rfl, .inr (.inr rfl)⟩
  | returning first rest named =>
      obtain ⟨result, done, rfl⟩ := map_eq_ok.mp (Option.some.inj answered)
      obtain ⟨nodes, -, same⟩ := bind_eq_ok.mp done
      obtain rfl := pure_eq_ok.mp same
      exact ⟨_, rfl, .inl ⟨rfl, rfl⟩⟩
  | returningAllFrom columns =>
      obtain ⟨result, done, rfl⟩ := map_eq_ok.mp (Option.some.inj answered)
      obtain ⟨nodes, -, same⟩ := bind_eq_ok.mp done
      obtain rfl := pure_eq_ok.mp same
      exact ⟨_, rfl, .inl ⟨rfl, rfl⟩⟩
  | decode adapter =>
      obtain ⟨result, done, rfl⟩ := map_eq_ok.mp (Option.some.inj answered)
      simp only [decode, seq_eq_ok, pure_eq_ok] at done
      obtain ⟨-, rfl⟩ := done
      exact ⟨_, rfl, .inl ⟨rfl, rfl⟩⟩
  | _ => cases answered

/-- What a call does to the restriction of a DELETE. -/
theorem DeleteObject.call_restriction {query : DeleteObject V} {method : DmlMethod V}
    {object : DmlObject V} (answered : query.call method = some (.ok object)) :
    ∃ result, object = .delete result ∧
      ((result.node.bounded = query.node.bounded ∧ result.node.whereNode = query.node.whereNode) ∨
        (∃ predicate, method = .where predicate ∧ result.node.whereNode = some predicate) ∨
        method = .allRows) := by
  cases method with
  | «where» predicate =>
      obtain ⟨result, done, rfl⟩ := map_eq_ok.mp (Option.some.inj answered)
      simp only [«where», seq_eq_ok, pure_eq_ok] at done
      obtain ⟨-, rfl⟩ := done
      exact ⟨_, rfl, .inr (.inl ⟨predicate, rfl, rfl⟩)⟩
  | allRows =>
      cases answered
      exact ⟨_, rfl, .inr (.inr rfl)⟩
  | returning first rest named =>
      obtain ⟨result, done, rfl⟩ := map_eq_ok.mp (Option.some.inj answered)
      obtain ⟨nodes, -, same⟩ := bind_eq_ok.mp done
      obtain rfl := pure_eq_ok.mp same
      exact ⟨_, rfl, .inl ⟨rfl, rfl⟩⟩
  | returningAllFrom columns =>
      obtain ⟨result, done, rfl⟩ := map_eq_ok.mp (Option.some.inj answered)
      obtain ⟨nodes, -, same⟩ := bind_eq_ok.mp done
      obtain rfl := pure_eq_ok.mp same
      exact ⟨_, rfl, .inl ⟨rfl, rfl⟩⟩
  | decode adapter =>
      obtain ⟨result, done, rfl⟩ := map_eq_ok.mp (Option.some.inj answered)
      simp only [decode, seq_eq_ok, pure_eq_ok] at done
      obtain ⟨-, rfl⟩ := done
      exact ⟨_, rfl, .inl ⟨rfl, rfl⟩⟩
  | _ => cases answered

/-- An INSERT and its conflict clause stay what they are. -/
theorem insert_whereGiven {methods : List (DmlMethod V)} {object result : DmlObject V}
    {method : DmlMethod V}
    (ofInsert : (∃ query, object = .insert query) ∨ ∃ builder, object = .conflict builder)
    (answered : object.respond method = some (.ok result)) : WhereGiven methods result := by
  rcases ofInsert with ⟨query, rfl⟩ | ⟨builder, rfl⟩
  · cases method with
    | «where» predicate =>
        simp only [DmlObject.respond, InsertObject.call] at answered
        split at answered
        · obtain ⟨_, -, rfl⟩ := map_eq_ok.mp (Option.some.inj answered)
          trivial
        · cases answered
    | doNothing | doUpdate | allRows => cases answered
    | _ =>
        obtain ⟨_, -, rfl⟩ := map_eq_ok.mp (Option.some.inj answered)
        trivial
  · cases method with
    | doNothing =>
        cases answered
        trivial
    | «where» | doUpdate =>
        obtain ⟨_, -, rfl⟩ := map_eq_ok.mp (Option.some.inj answered)
        trivial
    | _ => cases answered

theorem call_whereGiven {methods : List (DmlMethod V)} {object result : DmlObject V}
    {method : DmlMethod V} (member : method ∈ methods) (unauthorized : .allRows ∉ methods)
    (given : WhereGiven methods object) (done : object.call method = .ok result) :
    WhereGiven methods result := by
  have answered := DmlObject.call_eq_ok done
  cases object with
  | insert query => exact insert_whereGiven (.inl ⟨query, rfl⟩) answered
  | conflict builder => exact insert_whereGiven (.inr ⟨builder, rfl⟩) answered
  | update query =>
      obtain ⟨next, rfl, kept | ⟨predicate, rfl, restricted⟩ | rfl⟩ :=
        UpdateObject.call_restriction answered
      · rw [WhereGiven, kept.1, kept.2]
        exact given
      · exact fun _ => ⟨predicate, member, restricted⟩
      · exact absurd member unauthorized
  | delete query =>
      obtain ⟨next, rfl, kept | ⟨predicate, rfl, restricted⟩ | rfl⟩ :=
        DeleteObject.call_restriction answered
      · rw [WhereGiven, kept.1, kept.2]
        exact given
      · exact fun _ => ⟨predicate, member, restricted⟩
      · exact absurd member unauthorized

theorem build_whereGiven {start result : DmlObject V} {methods : List (DmlMethod V)}
    (begins : DmlObject.Start start) (built : start.build methods = .ok result)
    (unauthorized : .allRows ∉ methods) : WhereGiven methods result := by
  refine foldlM_invariant (fun object method member next given done =>
    call_whereGiven member unauthorized given done) ?_ built
  cases begins with
  | insert table => trivial
  | update table => exact nofun
  | delete table => exact nofun

/-- The statement an object stands for, unless it is an unfinished conflict clause. -/
def DmlObject.statement : DmlObject V → Option (QueryNode V)
  | .insert query => some (.insert query.node)
  | .conflict _ => none
  | .update query => some (.update query.node)
  | .delete query => some (.delete query.node)

/-- The predicate of a statement that changes stored rows. -/
def QueryNode.restriction : QueryNode V → Option (Node V)
  | .update node => node.whereNode
  | .delete node => node.whereNode
  | _ => none

/-- A full-table UPDATE or DELETE needs `all_rows()`: a statement built without it that the validator
accepts is an INSERT or has a predicate that `where()` was given. -/
theorem fullTable_authorized [DecidableEq V] [PyObject V] {start result : DmlObject V}
    {methods : List (DmlMethod V)} {statement : QueryNode V} {dialect : Dialect} {outer : List String}
    (begins : DmlObject.Start start) (built : start.build methods = .ok result)
    (unauthorized : .allRows ∉ methods) (finished : result.statement = some statement)
    (accepted : validateStatement statement dialect outer = .ok ()) :
    (∃ node, statement = .insert node) ∨
      ∃ predicate, .where predicate ∈ methods ∧ statement.restriction = some predicate := by
  have given := build_whereGiven begins built unauthorized
  cases result with
  | insert query => exact .inl ⟨query.node, (Option.some.inj finished).symm⟩
  | conflict builder => cases finished
  | update query =>
      obtain rfl := Option.some.inj finished
      simp only [validateStatement, seq_eq_ok, check_eq_ok] at accepted
      exact .inr (given accepted.2.1)
  | delete query =>
      obtain rfl := Option.some.inj finished
      simp only [validateStatement, seq_eq_ok, check_eq_ok] at accepted
      exact .inr (given accepted.1)

/-- `.where(users.id.is_null())`. -/
def deleteCalls : List (DmlMethod Int) :=
  [.where (.unary .isNull (.column "users" "id"))]

/-- The DELETE that these calls build is restricted by their predicate. -/
theorem fullTable_authorized_deleteCalls :
    ∃ query : DeleteObject Int,
      (DmlObject.delete (deleteFrom usersTable)).build deleteCalls = .ok (.delete query) ∧
      ∃ predicate, .where predicate ∈ deleteCalls ∧
        (QueryNode.delete query.node).restriction = some predicate := by
  refine ⟨_, rfl, ?_⟩
  have authorized := fullTable_authorized (.delete usersTable)
    (rfl : DmlObject.build _ deleteCalls = .ok _) (by simp [deleteCalls]) rfl
    (show validateStatement _ sqlite [] = .ok () by decide +kernel)
  exact authorized.resolve_left (by simp)

end Relq
