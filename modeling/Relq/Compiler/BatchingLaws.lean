/-
Module: Relq.Compiler.BatchingLaws
Layer: Compiler
Purpose: The laws of the row batches. Counting the cells of a row and the fixed part of a statement
  separately predicts the parameters of every batch, and the loop cuts the rows greedily.
Imports: Mathlib.Data.List.Chain, Relq.Compiler.Batching, Relq.Library.Greedy
Trusted boundary: human-reviewed spec (WithinCeiling, Maximal)
Main exports: batchParameters_eq_ok, batchLoop_outcome, batchRows_batches, schemaQualified_raises
-/
import Mathlib.Data.List.Chain
import Relq.Compiler.Batching
import Relq.Library.Greedy

namespace Relq

open Templates

/-! ### What is counted -/

section

variable {V : Type} [PyObject V] {dialect : Dialect}

/-- A statement's count is its layout's number of holes. -/
theorem countParameters_eq_ok {query : QueryNode V} {n : Nat} :
    countParameters dialect query = .ok n ↔
      Returns (renderStatement dialect query) ∧ (layoutStatement dialect query).values.length = n := by
  unfold countParameters
  rw [Outcome.bind_eq_ok]
  constructor
  · rintro ⟨⟨text, parameters⟩, ran, same⟩
    obtain ⟨-, rfl⟩ := Prod.mk.inj (emits_statement dialect query 0 [] _ rfl ran)
    exact ⟨⟨_, ran⟩, by simpa using same⟩
  · rintro ⟨⟨⟨text, parameters⟩, ran⟩, same⟩
    obtain ⟨-, rfl⟩ := Prod.mk.inj (emits_statement dialect query 0 [] _ rfl ran)
    exact ⟨_, ran, by simpa using same⟩

theorem countExpressionParameters_eq_ok {node : Node V} {n : Nat} :
    countExpressionParameters dialect node = .ok n ↔
      Returns (compileNode dialect node) ∧ (layoutNode dialect node).values.length = n := by
  unfold countExpressionParameters
  rw [Outcome.bind_eq_ok]
  constructor
  · rintro ⟨⟨text, parameters⟩, ran, same⟩
    obtain ⟨-, rfl⟩ := Prod.mk.inj (emits_node dialect node 0 [] _ rfl ran)
    exact ⟨⟨_, ran⟩, by simpa using same⟩
  · rintro ⟨⟨⟨text, parameters⟩, ran⟩, same⟩
    obtain ⟨-, rfl⟩ := Prod.mk.inj (emits_node dialect node 0 [] _ rfl ran)
    exact ⟨_, ran, by simpa using same⟩

/-- A compiled statement binds as many values as were counted. -/
theorem countParameters_compiled {query : QueryNode V} {compiled : CompiledQuery V}
    (rendered : renderQuery query dialect = .ok compiled) :
    countParameters dialect query = .ok compiled.parameters.length := by
  rw [countParameters_eq_ok, (renderQuery_layout rendered).2]
  obtain ⟨out, ran, -⟩ := Outcome.bind_eq_ok.mp rendered
  exact ⟨⟨out, ran⟩, rfl⟩

variable (dialect) in
/-- The number of values the cells of a row bind. -/
def rowCost (row : Row V) : Nat :=
  (row.map fun cell => (layoutNode dialect cell.2.node).values.length).sum

theorem cellParameters_eq_ok {cell : Cell V} {n : Nat} :
    cellParameters dialect cell = .ok n ↔
      Returns (compileNode dialect cell.node) ∧ (layoutNode dialect cell.node).values.length = n := by
  cases cell with
  | expression node => exact countExpressionParameters_eq_ok
  | plain value =>
      rw [cellParameters, Cell.node, compileNode, layoutNode]
      have bound : Returns (bindValue value : Renderer V Text) := ⟨_, rfl⟩
      simp [bound]

theorem returns_cells {cells : List (String × Node V)} :
    Returns (compileCells dialect cells) ↔ ∀ cell ∈ cells, Returns (compileNode dialect cell.2) := by
  induction cells with
  | nil => simp [compileCells]
  | cons cell rest ih =>
      obtain ⟨name, node⟩ := cell
      rw [compileCells, returns_bind fun _ _ => steady_one (steady_cells dialect rest),
        List.forall_mem_cons]
      simp only [returns_map, forall_const, ih]

theorem returns_rows {rows : List (List (String × Node V))} :
    Returns (compileRows dialect rows) ↔ ∀ row ∈ rows, Returns (compileCells dialect row) := by
  induction rows with
  | nil => simp [compileRows]
  | cons row rest ih =>
      rw [compileRows, returns_bind fun _ _ => steady_one (steady_rows dialect rest),
        List.forall_mem_cons]
      simp only [returns_map, forall_const, ih]

theorem counts_eq_ok {row : Row V} {counts : List Nat} :
    row.mapM (fun cell => cellParameters dialect cell.2) = .ok counts ↔
      (∀ cell ∈ row, Returns (compileNode dialect cell.2.node)) ∧
        (row.map fun cell => (layoutNode dialect cell.2.node).values.length) = counts := by
  rw [Outcome.mapM_eq_ok]
  induction row generalizing counts with
  | nil => cases counts <;> simp
  | cons cell rest ih =>
      cases counts with
      | nil => simp
      | cons count counts =>
          rw [List.map_cons, List.map_cons, List.cons.injEq, ih, cellParameters_eq_ok, List.map_cons,
            List.cons.injEq, List.forall_mem_cons]
          exact and_and_and_comm

theorem rowParameters_eq_ok {row : Row V} {cost : Nat} :
    rowParameters dialect row = .ok cost ↔
      row ≠ [] ∧ Returns (compileCells dialect row.nodes) ∧ rowCost dialect row = cost := by
  unfold rowParameters
  cases row with
  | nil => simp
  | cons cell rest =>
      rw [if_neg (by simp), Outcome.bind_eq_ok]
      simp only [counts_eq_ok, Outcome.pure_eq_ok, ne_eq, reduceCtorEq, not_false_eq_true, true_and]
      generalize cell :: rest = row
      have cells : Returns (compileCells dialect (Row.nodes row)) ↔
          ∀ cell ∈ row, Returns (compileNode dialect cell.2.node) := by
        rw [returns_cells]
        exact List.forall_mem_map
      rw [cells]
      constructor
      · rintro ⟨counts, ⟨each, rfl⟩, rfl⟩
        exact ⟨each, rfl⟩
      · rintro ⟨each, rfl⟩
        exact ⟨_, ⟨each, rfl⟩, rfl⟩

/-! ### The statement of a batch -/

/-- The values bound besides the rows. -/
def fixedCost (dialect : Dialect) (builder : InsertBuilder V) : Nat :=
  (layoutConflictOption dialect builder.conflict).values.length +
    (Layout.listed ["returning"] (layoutNodes dialect builder.returning)).values.length

/-- The parts of the statement besides its rows render. -/
def FixedReturns (dialect : Dialect) (builder : InsertBuilder V) : Prop :=
  (∃ text, compileTable dialect builder.table = .ok text) ∧
    Returns (compileConflictOption dialect builder.conflict) ∧
    Returns (compileReturning dialect builder.returning)

theorem returns_insertRows (builder : InsertBuilder V) {rows : List (List (String × Node V))} :
    Returns (renderStatement dialect (.insert
        { table := builder.table, source := some (.rows rows), conflict := builder.conflict,
          returning := builder.returning })) ↔
      rows ≠ [] ∧ (∀ row ∈ rows, Returns (compileCells dialect row)) ∧
        FixedReturns dialect builder := by
  rw [renderStatement, compileInsert.eq_def]
  dsimp only
  have behind (f f' : Text → Text → Text) :
      Together (do
        let conflict ← compileConflictOption dialect builder.conflict
        let returning ← compileReturning dialect builder.returning
        return f conflict returning) (do
        let conflict ← compileConflictOption dialect builder.conflict
        let returning ← compileReturning dialect builder.returning
        return f' conflict returning) :=
    steady_two (steady_conflictOption dialect _)
      (steady_returning dialect _ (steady_nodes dialect builder.returning))
  have source : Returns (compileInsertSource dialect (.rows rows)) ↔
      rows ≠ [] ∧ ∀ row ∈ rows, Returns (compileCells dialect row) := by
    rw [compileInsertSource, ← returns_rows]
    cases rows with
    | nil => simp [Returns]
    | cons row rest => exact returns_map.trans (by simp)
  rw [returns_bind_at (fun _ _ => (Together.lift _).bind fun _ _ => behind _ _) ([], []), source,
    and_assoc, returns_bind_at (fun _ _ => behind _ _) [], returns_lift,
    returns_bind_at (fun _ _ => steady_one (steady_returning dialect _
      (steady_nodes dialect builder.returning))) [], returns_map]
  rfl

/-- The number of values a batch binds. -/
theorem node_values (builder : InsertBuilder V) (batch : List (Row V)) :
    (layoutStatement dialect (.insert (builder.node batch))).values.length =
      fixedCost dialect builder + Greedy.load (rowCost dialect) batch := by
  have cells (row : Row V) :
      ((layoutCells dialect row.nodes).flatMap Template.values).length = rowCost dialect row := by
    induction row with
    | nil => rfl
    | cons cell rest ih =>
        simp only [Row.nodes, List.map_cons, layoutCells, List.flatMap_cons, List.length_append,
          rowCost, List.sum_cons] at ih ⊢
        rw [ih]
  have rows : ((layoutRows dialect (batch.map Row.nodes)).flatMap Template.values).length =
      Greedy.load (rowCost dialect) batch := by
    induction batch with
    | nil => rfl
    | cons row rest ih => simp [layoutRows, cells, ih]
  rw [layoutStatement, InsertBuilder.node, layoutInsert]
  simp [layoutInsertSourceOption, layoutInsertSource, InsertSourceNode.isDefaultValues, rows,
    fixedCost, Layout.plain]
  omega

theorem batchParameters_eq_ok {builder : InsertBuilder V} {columns : List String}
    {batch : List (Row V)} (shape : ∀ row ∈ batch, row.map (·.1) = columns) {n : Nat} :
    batchParameters dialect builder batch = .ok n ↔
      batch ≠ [] ∧ columns ≠ [] ∧ (∀ name ∈ columns, name ∈ builder.columns) ∧
        (∀ row ∈ batch, Returns (compileCells dialect row.nodes)) ∧ FixedReturns dialect builder ∧
        fixedCost dialect builder + Greedy.load (rowCost dialect) batch = n := by
  unfold batchParameters
  rw [Outcome.bind_eq_ok]
  have counted : countParameters dialect (.insert (builder.node batch)) = .ok n ↔
      batch ≠ [] ∧ (∀ row ∈ batch, Returns (compileCells dialect row.nodes)) ∧
        FixedReturns dialect builder ∧
        fixedCost dialect builder + Greedy.load (rowCost dialect) batch = n := by
    rw [countParameters_eq_ok, node_values, InsertBuilder.node, returns_insertRows]
    simp [and_assoc]
  constructor
  · rintro ⟨node, built, count⟩
    obtain ⟨some_, named, known, rfl⟩ := (valuesMany_eq_ok shape).mp built
    exact ⟨some_, named, known, (counted.mp count).2⟩
  · rintro ⟨some_, named, known, rest⟩
    exact ⟨_, (valuesMany_eq_ok shape).mpr ⟨some_, named, known, rfl⟩, counted.mpr ⟨some_, rest⟩⟩

/-! ### The loop -/

section Loop

variable {builder : InsertBuilder V} {maxParameters : Nat} {columns : List String}

/-- A statement over these columns can be built, and the parts besides its rows render. -/
structure Ready (dialect : Dialect) (builder : InsertBuilder V) (columns : List String) : Prop where
  named : columns ≠ []
  known : ∀ name ∈ columns, name ∈ builder.columns
  fixed : FixedReturns dialect builder

/-- The statement of the row alone renders and respects the ceiling. -/
def Fits (dialect : Dialect) (builder : InsertBuilder V) (maxParameters : Nat) (row : Row V) : Prop :=
  ∃ n ≤ maxParameters, batchParameters dialect builder [row] = .ok n

theorem fits_iff {row : Row V} (shape : row.map (·.1) = columns) :
    Fits dialect builder maxParameters row ↔
      Returns (compileCells dialect row.nodes) ∧ Ready dialect builder columns ∧
        fixedCost dialect builder + rowCost dialect row ≤ maxParameters := by
  have alone : ∀ other ∈ [row], other.map (·.1) = columns := by simpa using shape
  simp only [Fits, batchParameters_eq_ok alone, List.forall_mem_singleton, Greedy.load_cons,
    Greedy.load_nil, Nat.add_zero]
  constructor
  · rintro ⟨n, within, -, named, known, returns, fixed, rfl⟩
    exact ⟨returns, ⟨named, known, fixed⟩, within⟩
  · rintro ⟨returns, ⟨named, known, fixed⟩, within⟩
    exact ⟨_, within, by simp, named, known, returns, fixed, rfl⟩

/-- The state of the loop: nothing was read, or `batch` is being filled. -/
structure Underway (dialect : Dialect) (builder : InsertBuilder V) (columns : List String)
    (batch : List (Row V)) (fixed : Option Int) (used : Int) : Prop where
  shape : ∀ row ∈ batch, row.map (·.1) = columns
  state : (fixed = none ∧ batch = []) ∨
    (batch ≠ [] ∧ fixed = some (fixedCost dialect builder : Int) ∧
      used = (fixedCost dialect builder + Greedy.load (rowCost dialect) batch : Nat) ∧
      Ready dialect builder columns)

theorem Underway.valuesMany {batch : List (Row V)} {fixed : Option Int} {used : Int}
    (underway : Underway dialect builder columns batch fixed used) (filled : batch ≠ []) :
    valuesMany builder batch = .ok (builder.node batch) := by
  rcases underway.state with ⟨-, empty⟩ | ⟨-, -, -, ready⟩
  · exact absurd empty filled
  · exact (valuesMany_eq_ok underway.shape).mpr ⟨filled, ready.named, ready.known, rfl⟩

/-- A batch is started with a row. -/
theorem Underway.fresh {row : Row V} (ready : Ready dialect builder columns)
    (shape : row.map (·.1) = columns) :
    Underway dialect builder columns [row] (some (fixedCost dialect builder : Int))
      (fixedCost dialect builder + rowCost dialect row) :=
  ⟨by simpa using shape, Or.inr ⟨by simp, rfl, by simp, ready⟩⟩

/-- A row is added to the batch. -/
theorem Underway.more {batch : List (Row V)} {fixed : Option Int} {used : Int} {row : Row V}
    (underway : Underway dialect builder columns batch fixed used)
    (ready : Ready dialect builder columns) (shape : row.map (·.1) = columns) :
    Underway dialect builder columns (batch ++ [row]) (some (fixedCost dialect builder : Int))
      ((fixedCost dialect builder + Greedy.load (rowCost dialect) batch : Nat) +
        rowCost dialect row) := by
  refine ⟨fun other member => ?_, Or.inr ⟨by simp, rfl, by simp; omega, ready⟩⟩
  rcases List.mem_append.mp member with inside | last
  · exact underway.shape other inside
  · exact List.mem_singleton.mp last ▸ shape

/-- The counts of the fixed part and of the batch, when a row is read. -/
theorem fixedAndUsed_eq_ok {batch : List (Row V)} {fixed : Option Int} {used : Int} {row : Row V}
    (underway : Underway dialect builder columns batch fixed used)
    (shape : row.map (·.1) = columns) (returns : Returns (compileCells dialect row.nodes))
    {pair : Int × Int} :
    fixedAndUsed dialect builder row (rowCost dialect row) fixed used = .ok pair ↔
      Ready dialect builder columns ∧
        pair = ((fixedCost dialect builder : Int),
          ((fixedCost dialect builder + Greedy.load (rowCost dialect) batch : Nat) : Int)) := by
  rcases underway.state with ⟨rfl, rfl⟩ | ⟨-, rfl, rfl, ready⟩
  · have alone : ∀ other ∈ [row], other.map (·.1) = columns := by simpa using shape
    have counted {n : Nat} : countParameters dialect (.insert (builder.node [row])) = .ok n ↔
        FixedReturns dialect builder ∧ fixedCost dialect builder + rowCost dialect row = n := by
      rw [countParameters_eq_ok, node_values, InsertBuilder.node, returns_insertRows]
      simp [returns]
    simp only [fixedAndUsed, Outcome.bind_eq_ok, fixedParameters, Outcome.pure_eq_ok,
      valuesMany_eq_ok alone]
    constructor
    · rintro ⟨node, ⟨-, named, known, rfl⟩, difference, ⟨n, count, rfl⟩, rfl⟩
      obtain ⟨fixed, rfl⟩ := counted.mp count
      exact ⟨⟨named, known, fixed⟩, by simp⟩
    · rintro ⟨⟨named, known, fixed⟩, rfl⟩
      refine ⟨_, ⟨by simp, named, known, rfl⟩, _, ⟨_, counted.mpr ⟨fixed, rfl⟩, rfl⟩, ?_⟩
      simp
  · rw [fixedAndUsed, Except.ok.injEq]
    exact ⟨fun same => ⟨ready, same.symm⟩, fun both => both.2.symm⟩

/-- The statements of some batches. -/
abbrev Statements (builder : InsertBuilder V) : List (InsertNode V) → List (List (Row V)) → Prop :=
  List.Forall₂ fun node batch => valuesMany builder batch = .ok node

/-- The loop ends without an exception exactly when every row that is left fits; it then yields the
statements of the greedy batches. -/
theorem batchLoop_outcome {rows : List (Row V)} (shapes : ∀ row ∈ rows, row.map (·.1) = columns)
    {batch : List (Row V)} {fixed : Option Int} {used : Int}
    (underway : Underway dialect builder columns batch fixed used) :
    ((batchLoop dialect builder maxParameters rows batch fixed used).2 = none ↔
        ∀ row ∈ rows, Fits dialect builder maxParameters row) ∧
      ((∀ row ∈ rows, Fits dialect builder maxParameters row) →
        Statements builder (batchLoop dialect builder maxParameters rows batch fixed used).1
          (Greedy.fill (rowCost dialect) (maxParameters - fixedCost dialect builder) batch rows)) := by
  induction rows generalizing batch fixed used with
  | nil =>
      rw [batchLoop, Greedy.fill]
      by_cases empty : batch.isEmpty = true
      · simp [empty]
      · have filled : batch ≠ [] := fun nothing => empty (by simp [nothing])
        have built := underway.valuesMany filled
        simp [empty, built]
  | cons row rest ih =>
      obtain ⟨shape, later⟩ := List.forall_mem_cons.mp shapes
      have some_ : row ≠ [] ↔ columns ≠ [] := by rw [← shape, ne_eq, ne_eq, List.map_eq_nil_iff]
      rw [batchLoop, List.forall_mem_cons]
      -- a row that is rejected ends the loop, and its statement does not fit
      have rejected (error : PyError) (unfit : ¬Fits dialect builder maxParameters row) :
          ((([], some error) : List (InsertNode V) × Option PyError).2 = none ↔
              Fits dialect builder maxParameters row ∧
                ∀ other ∈ rest, Fits dialect builder maxParameters other) ∧
            ((Fits dialect builder maxParameters row ∧
                ∀ other ∈ rest, Fits dialect builder maxParameters other) →
              Statements builder (([], some error) : List (InsertNode V) × Option PyError).1
                (Greedy.fill (rowCost dialect) (maxParameters - fixedCost dialect builder) batch
                  (row :: rest))) :=
        ⟨iff_of_false (by simp) fun fits => unfit fits.1, fun fits => absurd fits.1 unfit⟩
      cases counted : rowParameters dialect row with
      | error error =>
          refine rejected error fun fits => ?_
          obtain ⟨returns, ready, -⟩ := (fits_iff shape).mp fits
          rw [rowParameters_eq_ok.mpr ⟨some_.mpr ready.named, returns, rfl⟩] at counted
          cases counted
      | ok cost =>
          obtain ⟨-, returns, rfl⟩ := rowParameters_eq_ok.mp counted
          dsimp only
          cases started : fixedAndUsed dialect builder row (rowCost dialect row) fixed used with
          | error error =>
              refine rejected error fun fits => ?_
              obtain ⟨-, ready, -⟩ := (fits_iff shape).mp fits
              rw [(fixedAndUsed_eq_ok underway shape returns).mpr ⟨ready, rfl⟩] at started
              cases started
          | ok pair =>
              obtain ⟨ready, rfl⟩ := (fixedAndUsed_eq_ok underway shape returns).mp started
              dsimp only
              by_cases over_ : (fixedCost dialect builder : Int) + rowCost dialect row > maxParameters
              · rw [if_pos over_]
                refine rejected _ fun fits => ?_
                have := ((fits_iff shape).mp fits).2.2
                omega
              · rw [if_neg over_]
                have fits : Fits dialect builder maxParameters row :=
                  (fits_iff shape).mpr ⟨returns, ready, by omega⟩
                rw [Greedy.fill]
                by_cases full : maxParameters - fixedCost dialect builder <
                    Greedy.load (rowCost dialect) batch + rowCost dialect row
                · have filled : batch ≠ [] := by
                    rintro rfl
                    rw [Greedy.load_nil] at full
                    omega
                  have next := ih later (.fresh ready shape)
                  rw [if_pos full, if_pos (by omega), underway.valuesMany filled]
                  dsimp only
                  exact ⟨next.1.trans (and_iff_right fits).symm, fun all =>
                    .cons (underway.valuesMany filled) (next.2 all.2)⟩
                · have next := ih later (underway.more ready shape)
                  rw [if_neg full, if_neg (by omega)]
                  exact ⟨next.1.trans (and_iff_right fits).symm, fun all => next.2 all.2⟩

/-- Rows that fit alone can be inserted together; only their number is limited. -/
theorem batchParameters_of_fits {rows batch : List (Row V)}
    (shapes : ∀ row ∈ rows, row.map (·.1) = columns)
    (fits : ∀ row ∈ rows, Fits dialect builder maxParameters row)
    (among : ∀ row ∈ batch, row ∈ rows) (filled : batch ≠ []) :
    batchParameters dialect builder batch =
      .ok (fixedCost dialect builder + Greedy.load (rowCost dialect) batch) := by
  have each (row : Row V) (member : row ∈ batch) :=
    (fits_iff (shapes row (among row member))).mp (fits row (among row member))
  obtain ⟨row, member⟩ := List.exists_mem_of_ne_nil batch filled
  have ready := (each row member).2.1
  exact (batchParameters_eq_ok fun row member => shapes row (among row member)).mpr
    ⟨filled, ready.named, ready.known, fun row member => (each row member).1, ready.fixed, rfl⟩

end Loop

/-- A batch whose statement can be built, renders and respects the ceiling, as counted and when it
is compiled. -/
def WithinCeiling (dialect : Dialect) (builder : InsertBuilder V) (maxParameters : Nat)
    (batch : List (Row V)) : Prop :=
  ∃ node n, valuesMany builder batch = .ok node ∧ countParameters dialect (.insert node) = .ok n ∧
    n ≤ maxParameters ∧
    ∀ compiled, renderQuery (.insert node) dialect = .ok compiled → compiled.parameters.length = n

theorem withinCeiling_iff {builder : InsertBuilder V} {maxParameters : Nat} {batch : List (Row V)} :
    WithinCeiling dialect builder maxParameters batch ↔
      ∃ n ≤ maxParameters, batchParameters dialect builder batch = .ok n := by
  unfold WithinCeiling batchParameters
  constructor
  · rintro ⟨node, n, built, counted, within, -⟩
    exact ⟨n, within, Outcome.bind_eq_ok.mpr ⟨node, built, counted⟩⟩
  · rintro ⟨n, within, done⟩
    obtain ⟨node, built, counted⟩ := Outcome.bind_eq_ok.mp done
    refine ⟨node, n, built, counted, within, fun compiled rendered => ?_⟩
    rw [countParameters_compiled rendered] at counted
    exact Except.ok.inj counted

/-- The next batch starts with a row that the batch before it has no room for. -/
def Maximal (dialect : Dialect) (builder : InsertBuilder V) (maxParameters : Nat)
    (batch next : List (Row V)) : Prop :=
  ∃ row later n, next = row :: later ∧ batchParameters dialect builder (batch ++ [row]) = .ok n ∧
    maxParameters < n

/-- For rows of one shape: an exception is raised exactly when some row is empty or its statement
cannot be built and rendered within the ceiling; and otherwise the statements yielded are those of
consecutive, non-empty, maximal batches within the ceiling, as few as possible. -/
theorem batchRows_batches {builder : InsertBuilder V} {maxParameters : Nat} {columns : List String}
    {rows : List (Row V)} (shapes : ∀ row ∈ rows, row.map (·.1) = columns) :
    ((batchRows dialect builder maxParameters rows).2 ≠ none ↔
        ∃ row ∈ rows, row = [] ∨ ¬WithinCeiling dialect builder maxParameters [row]) ∧
      ((batchRows dialect builder maxParameters rows).2 = none →
        ∃ batches, Statements builder (batchRows dialect builder maxParameters rows).1 batches ∧
          batches.flatten = rows ∧ (∀ batch ∈ batches, batch ≠ []) ∧
          (∀ batch ∈ batches, WithinCeiling dialect builder maxParameters batch) ∧
          batches.IsChain (Maximal dialect builder maxParameters) ∧
          ∀ pieces : List (List (Row V)), pieces.flatten = rows →
            (∀ piece ∈ pieces, piece = [] ∨ WithinCeiling dialect builder maxParameters piece) →
            batches.length ≤ pieces.length) := by
  obtain ⟨returns, yields⟩ := batchLoop_outcome shapes
    (⟨by simp, Or.inl ⟨rfl, rfl⟩⟩ : Underway dialect builder columns [] none 0)
  have within (row : Row V) :
      WithinCeiling dialect builder maxParameters [row] ↔ Fits dialect builder maxParameters row :=
    withinCeiling_iff
  constructor
  · rw [ne_eq, batchRows, returns]
    simp only [not_forall, exists_prop, within]
    refine exists_congr fun row => and_congr_right fun member => (or_iff_right_of_imp ?_).symm
    -- a row without columns has no statement
    rintro rfl fits
    exact ((fits_iff (shapes [] member)).mp fits).2.1.named (shapes [] member).symm
  · intro done
    have fits := returns.mp done
    have single : ∀ row ∈ rows,
        rowCost dialect row ≤ maxParameters - fixedCost dialect builder := fun row member => by
      have := ((fits_iff (shapes row member)).mp (fits row member)).2.2
      omega
    have flat : (Greedy.fill (rowCost dialect) (maxParameters - fixedCost dialect builder) []
        rows).flatten = rows := Greedy.fill_flatten [] rows
    have among : ∀ batch ∈ Greedy.fill (rowCost dialect) (maxParameters - fixedCost dialect builder)
        [] rows, ∀ row ∈ batch, row ∈ rows := fun batch inside row member =>
      flat ▸ List.mem_flatten_of_mem inside member
    have filled := @Greedy.fill_ne_nil _ _ _ [] _ single
    refine ⟨_, yields fits, flat, filled, fun batch inside => ?_, ?_, fun pieces same sized => ?_⟩
    · have room := @Greedy.fill_within _ _ _ [] _ single (Nat.zero_le _) batch inside
      have counted := batchParameters_of_fits shapes fits (among batch inside) (filled batch inside)
      obtain ⟨row, member⟩ := List.exists_mem_of_ne_nil batch (filled batch inside)
      have listed := among batch inside row member
      have bound := ((fits_iff (shapes row listed)).mp (fits row listed)).2.2
      exact withinCeiling_iff.mpr ⟨_, by omega, counted⟩
    · refine (Greedy.fill_maximal [] rows).imp_of_mem_imp fun batch next inside inside' over_ => ?_
      obtain ⟨row, later, rfl, over_⟩ := over_
      have listed : ∀ other ∈ batch ++ [row], other ∈ rows := by
        intro other member
        rcases List.mem_append.mp member with first | last
        · exact among batch inside other first
        · exact List.mem_singleton.mp last ▸ among _ inside' row List.mem_cons_self
      exact ⟨row, later, _, rfl, batchParameters_of_fits shapes fits listed (by simp), by omega⟩
    · refine Greedy.fill_optimal pieces same fun piece inside => ?_
      rcases eq_or_ne piece [] with rfl | some_
      · exact Nat.zero_le _
      · obtain ⟨n, bound, counted⟩ := withinCeiling_iff.mp ((sized piece inside).resolve_left some_)
        have listed : ∀ row ∈ piece, row ∈ rows := fun row member =>
          same ▸ List.mem_flatten_of_mem inside member
        rw [batchParameters_of_fits shapes fits listed some_] at counted
        obtain rfl := Except.ok.inj counted
        omega

end

/-! ### A statement that does not render -/

/-- `insert_into(t)` for the table `t` of schema `s`, which SQLite cannot name. -/
def schemaQualified : InsertBuilder Int :=
  { table := { name := "t", schema := some "s" }, columns := ["a"] }

/-- An exception is raised although no row is empty and no statement exceeds the ceiling. -/
theorem schemaQualified_raises :
    (batchRows sqlite schemaQualified 999 [[("a", .plain 1)]]).2 ≠ none ∧
      (∀ row ∈ ([[("a", .plain 1)]] : List (Row Int)), row ≠ []) ∧
      ¬∃ row ∈ ([[("a", .plain 1)]] : List (Row Int)), ∃ n,
        batchParameters sqlite schemaQualified [row] = .ok n ∧ 999 < n := by
  have unnamed : ¬FixedReturns sqlite schemaQualified := by
    rintro ⟨⟨text, done⟩, -⟩
    simp [compileTable, schemaQualified, sqlite] at done
  have shapes : ∀ row ∈ ([[("a", .plain 1)]] : List (Row Int)), row.map (·.1) = ["a"] := by simp
  refine ⟨fun done => ?_, by simp, ?_⟩
  · have all := (batchLoop_outcome shapes (⟨by simp, Or.inl ⟨rfl, rfl⟩⟩ :
      Underway sqlite schemaQualified ["a"] [] none 0)).1.mp done
    exact unnamed ((fits_iff (shapes _ List.mem_cons_self)).mp (all _ List.mem_cons_self)).2.1.fixed
  · rintro ⟨row, member, n, counted, -⟩
    obtain rfl := List.mem_singleton.mp member
    exact unnamed ((batchParameters_eq_ok shapes).mp counted).2.2.2.2.1

/-- `insert_into(t)` for the plain table `t` with two columns. -/
def pairsTable : InsertBuilder Int :=
  { table := { name := "t" }, columns := ["a", "b"] }

/-- Five rows; a cell of the second one binds two values. -/
def pairs : List (Row Int) :=
  [[("a", .plain 1), ("b", .plain 2)],
    [("a", .plain 3), ("b", .expression (.binary (.value 4) .add (.value 5)))],
    [("a", .plain 6), ("b", .plain 7)],
    [("a", .plain 8), ("b", .plain 9)],
    [("a", .plain 10), ("b", .plain 11)]]

/-- Under a ceiling of five the rows need three statements: the rows bind 2, 3, 2, 2 and 2 values. -/
theorem batchRows_batches_pairs :
    (batchRows sqlite pairsTable 5 pairs).1.length = 3 ∧
      (∀ row ∈ pairs, row ≠ [] ∧ WithinCeiling sqlite pairsTable 5 [row]) ∧
      ∃ batches, Statements pairsTable (batchRows sqlite pairsTable 5 pairs).1 batches ∧
        batches.flatten = pairs ∧ (∀ batch ∈ batches, batch ≠ []) ∧
        (∀ batch ∈ batches, WithinCeiling sqlite pairsTable 5 batch) ∧
        batches.IsChain (Maximal sqlite pairsTable 5) ∧
        ∀ pieces : List (List (Row Int)), pieces.flatten = pairs →
          (∀ piece ∈ pieces, piece = [] ∨ WithinCeiling sqlite pairsTable 5 piece) →
          batches.length ≤ pieces.length := by
  have shapes : ∀ row ∈ pairs, row.map (·.1) = ["a", "b"] := by decide
  have returns : (batchRows sqlite pairsTable 5 pairs).2 = none := by decide +kernel
  obtain ⟨raises, yields⟩ := @batchRows_batches _ _ sqlite pairsTable 5 _ _ shapes
  refine ⟨by decide +kernel, fun row member => ?_, yields returns⟩
  by_contra refused
  rw [not_and_or, not_not] at refused
  exact raises.mpr ⟨row, member, refused⟩ returns

end Relq
