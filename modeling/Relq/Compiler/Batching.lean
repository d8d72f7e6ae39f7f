/-
Module: Relq.Compiler.Batching
Layer: Compiler
Purpose: Splitting a row stream into INSERT statements under a parameter ceiling (`_batching.py`,
  with `count_parameters` and the row checks of `values_many`).
Imports: Mathlib.Algebra.GroupWithZero.Nat, Relq.Compiler.Steady
Trusted boundary: human-reviewed spec (Cell, InsertBuilder, valuesMany, batchRows)
Main exports: batchRows, batchParameters, valuesMany_eq_ok
-/
import Mathlib.Algebra.GroupWithZero.Nat
import Relq.Compiler.Steady

namespace Relq

/-- A cell of a row: a plain Python value or a relq expression. -/
inductive Cell (V : Type) where
  | plain (value : V)
  | expression (node : Node V)

/-- A row as a mapping from column names to cells, in its iteration order. -/
abbrev Row (V : Type) := List (String × Cell V)

/-- What `insert_into(table)` fixes, with the conflict clause and the returned expressions that are
added behind `values_many(batch)`. -/
structure InsertBuilder (V : Type) where
  table : TableSourceNode
  columns : List String
  conflict : Option (ConflictNode V) := none
  returning : List (Node V) := []

section

variable {V : Type}

def Cell.node : Cell V → Node V
  | .plain value => .value value
  | .expression node => node

/-- The nodes of a row. -/
def Row.nodes (row : Row V) : List (String × Node V) :=
  row.map fun cell => (cell.1, cell.2.node)

/-- `_values`. -/
def rowValues (builder : InsertBuilder V) (row : Row V) : Except PyError (List (String × Node V)) :=
  if row.isEmpty then .error (.valueError "values requires at least one column" [])
  else
    let unknown := ((row.map (·.1)).filter (· ∉ builder.columns)).mergeSort (· ≤ ·)
    if !unknown.isEmpty then
      .error (.valueError "unknown column(s) for {}: {}" (builder.table.name :: unknown))
    else .ok row.nodes

/-- `InsertQuery.values_many`, with the clauses of the builder. -/
def valuesMany (builder : InsertBuilder V) (rows : List (Row V)) : Except PyError (InsertNode V) := do
  let prepared ← rows.mapM (rowValues builder)
  match prepared with
  | [] => throw (.valueError "values_many requires at least one row" [])
  | first :: others =>
      if others.any fun row => row.map (·.1) != first.map (·.1) then
        throw (.valueError "every values_many row must contain the same columns in the same order" [])
      return { table := builder.table, source := some (.rows prepared), conflict := builder.conflict,
               returning := builder.returning }

/-- The INSERT node of a batch. -/
def InsertBuilder.node (builder : InsertBuilder V) (batch : List (Row V)) : InsertNode V :=
  { table := builder.table, source := some (.rows (batch.map Row.nodes)),
    conflict := builder.conflict, returning := builder.returning }

theorem rowValues_eq_ok {builder : InsertBuilder V} {row : Row V} {prepared : List (String × Node V)} :
    rowValues builder row = .ok prepared ↔
      row ≠ [] ∧ (∀ name ∈ row.map (·.1), name ∈ builder.columns) ∧ row.nodes = prepared := by
  unfold rowValues
  cases row with
  | nil => simp
  | cons cell rest =>
      rw [if_neg (by simp)]
      dsimp only
      generalize present : cell :: rest = row
      have some_ : row ≠ [] := by simp [← present]
      have known : (((row.map (·.1)).filter (· ∉ builder.columns)).mergeSort (· ≤ ·)).isEmpty = true ↔
          ∀ name ∈ row.map (·.1), name ∈ builder.columns := by
        rw [List.isEmpty_iff_length_eq_zero, List.length_mergeSort, List.length_eq_zero_iff,
          List.filter_eq_nil_iff]
        simp
      by_cases fits : ∀ name ∈ row.map (·.1), name ∈ builder.columns
      · rw [known.mpr fits]
        simp only [Bool.not_true, Bool.false_eq_true, if_false, Except.ok.injEq]
        exact ⟨fun same => ⟨some_, fits, same⟩, fun all => all.2.2⟩
      · rw [Bool.eq_false_iff.mpr fun empty => fits (known.mp empty)]
        simp only [Bool.not_false, if_true, reduceCtorEq, false_iff]
        exact fun all => fits all.2.1

/-- A batch of rows with the same columns can be inserted exactly when there are rows and the
columns are some of the table's. -/
theorem valuesMany_eq_ok {builder : InsertBuilder V} {columns : List String} {batch : List (Row V)}
    (shape : ∀ row ∈ batch, row.map (·.1) = columns) {node : InsertNode V} :
    valuesMany builder batch = .ok node ↔
      batch ≠ [] ∧ columns ≠ [] ∧ (∀ name ∈ columns, name ∈ builder.columns) ∧
        builder.node batch = node := by
  unfold valuesMany
  rw [Outcome.bind_eq_ok]
  have prepared (rows : List (List (String × Node V))) :
      batch.mapM (rowValues builder) = .ok rows ↔
        (∀ row ∈ batch, row ≠ [] ∧ ∀ name ∈ row.map (·.1), name ∈ builder.columns) ∧
          batch.map Row.nodes = rows := by
    rw [Outcome.mapM_eq_ok]
    clear shape
    induction batch generalizing rows with
    | nil => cases rows <;> simp
    | cons row rest ih =>
        cases rows with
        | nil => simp
        | cons first others =>
            rw [List.map_cons, List.map_cons, List.cons.injEq, rowValues_eq_ok, ih, List.map_cons,
              List.cons.injEq, List.forall_mem_cons]
            grind
  simp only [prepared]
  cases batch with
  | nil => simp
  | cons row rest =>
      have names : ∀ other ∈ row :: rest, (Row.nodes other).map (·.1) = columns := by
        intro other member
        rw [← shape other member, Row.nodes, List.map_map]
        rfl
      have alike : (rest.map Row.nodes).any
          (fun other => other.map (·.1) != (Row.nodes row).map (·.1)) = false := by
        rw [List.any_eq_false]
        intro other member
        obtain ⟨source, inside, rfl⟩ := List.mem_map.mp member
        rw [names source (List.mem_cons_of_mem _ inside), names row List.mem_cons_self]
        simp
      have each : (∀ other ∈ row :: rest, other ≠ [] ∧
            ∀ name ∈ other.map (·.1), name ∈ builder.columns) ↔
          columns ≠ [] ∧ ∀ name ∈ columns, name ∈ builder.columns := by
        have same (other : Row V) (member : other ∈ row :: rest) : other ≠ [] ↔ columns ≠ [] := by
          rw [← shape other member, ne_eq, ne_eq, List.map_eq_nil_iff]
        constructor
        · intro all
          have here := all row List.mem_cons_self
          rw [shape row List.mem_cons_self, same row List.mem_cons_self] at here
          exact here
        · intro all other member
          rw [shape other member, same other member]
          exact all
      constructor
      · rintro ⟨rows, ⟨all, rfl⟩, done⟩
        rw [List.map_cons] at done
        dsimp only at done
        rw [alike] at done
        exact ⟨by simp, (each.mp all).1, (each.mp all).2, by simpa [InsertBuilder.node] using done⟩
      · rintro ⟨-, some_, known, rfl⟩
        refine ⟨_, ⟨each.mpr ⟨some_, known⟩, rfl⟩, ?_⟩
        rw [List.map_cons]
        dsimp only
        rw [alike]
        simp [InsertBuilder.node]

variable [PyObject V] (dialect : Dialect)

/-- `count_parameters` of a statement. -/
def countParameters (query : QueryNode V) : Except PyError Nat := do
  let (_, parameters) ← (renderStatement dialect query).run []
  return parameters.length

/-- `count_parameters` of an expression. -/
def countExpressionParameters (node : Node V) : Except PyError Nat := do
  let (_, parameters) ← (compileNode dialect node).run []
  return parameters.length

/-- `_cell_parameters`. -/
def cellParameters : Cell V → Except PyError Nat
  | .expression node => countExpressionParameters dialect node
  | .plain _ => .ok 1

/-- `_row_parameters`. -/
def rowParameters (row : Row V) : Except PyError Nat :=
  if row.isEmpty then .error (.valueError "a row must contain at least one column" [])
  else do
    let counts ← row.mapM fun cell => cellParameters dialect cell.2
    return counts.sum

/-- `_fixed_parameters`; the statement inserts its one row with `values_many`. -/
def fixedParameters (node : InsertNode V) (rowCost : Nat) : Except PyError Int := do
  let count ← countParameters dialect (.insert node)
  return (count : Int) - rowCost

/-- `fixed` and `used` when a row is read: the first row determines them. -/
def fixedAndUsed (builder : InsertBuilder V) (row : Row V) (cost : Nat) (fixed : Option Int)
    (used : Int) : Except PyError (Int × Int) :=
  match fixed with
  | some fixed => .ok (fixed, used)
  | none => do
      let fixed ← fixedParameters dialect (← valuesMany builder [row]) cost
      return (fixed, fixed)

/-- The loop of `batch_rows`: the statements yielded, and the exception that ends the iteration. -/
def batchLoop (builder : InsertBuilder V) (maxParameters : Int) :
    List (Row V) → List (Row V) → Option Int → Int → List (InsertNode V) × Option PyError
  | [], batch, _, _ =>
      if batch.isEmpty then ([], none)
      else
        match valuesMany builder batch with
        | .error error => ([], some error)
        | .ok node => ([node], none)
  | row :: rest, batch, fixed, used =>
      match rowParameters dialect row with
      | .error error => ([], some error)
      | .ok cost =>
          match fixedAndUsed dialect builder row cost fixed used with
          | .error error => ([], some error)
          | .ok (fixed, used) =>
              if fixed + cost > maxParameters then
                ([], some (.valueError
                  "a statement of one row needs {} parameters, over the {}-parameter statement ceiling"
                  [toString (fixed + cost), toString maxParameters]))
              else if used + cost > maxParameters then
                match valuesMany builder batch with
                | .error error => ([], some error)
                | .ok node =>
                    let (later, outcome) :=
                      batchLoop builder maxParameters rest [row] (some fixed) (fixed + cost)
                    (node :: later, outcome)
              else batchLoop builder maxParameters rest (batch ++ [row]) (some fixed) (used + cost)

/-- `batch_rows`, with `statement` the builder applied to `values_many(batch)`. -/
def batchRows (builder : InsertBuilder V) (maxParameters : Nat) (rows : List (Row V)) :
    List (InsertNode V) × Option PyError :=
  batchLoop dialect builder maxParameters rows [] none 0

/-- The number of values bound by the statement of a batch. -/
def batchParameters (builder : InsertBuilder V) (batch : List (Row V)) : Except PyError Nat := do
  countParameters dialect (.insert (← valuesMany builder batch))

end

end Relq
