/-
Module: Relq.Grouping.Ownership
Layer: Grouping
Purpose: Which SELECT an aggregate belongs to. SQL gives an aggregate to the innermost statement one of
  whose sources its arguments or filter name, or to the one it stands in if they name none. An aggregate
  in a nested statement can so be one of the outer SELECT, and only then ranges over the rows of its
  groups.
Imports: Relq.Grouping.Exposure
Trusted boundary: human-reviewed spec (Names, OwnAggregate)
Main exports: Names, OwnAggregate
-/
import Relq.Grouping.Exposure

namespace Relq

variable {V : Type}

/-- A column of `source` is named in the expression, at some depth, and no statement on the way down to
it has a source of that name. -/
inductive Names (source : String) : Node V → Prop where
  | column (name : String) : Names source (.column source name)
  | child {node child : Node V} (member : child ∈ children node) (below : Names source child) :
      Names source node
  | nested {node : Node V} {query : SelectNode V} {inner : QueryNode V} {clause : Clause V}
      (carries : node.nestedSelect = some query) (within : NestedWithin (.select query) inner)
      (member : clause ∈ ownClauses inner) (shown : source ∉ clause.locals)
      (below : Names source clause.expression) : Names source node

/-- The expression contains a plain aggregate of the SELECT whose sources are `locals`. `inside` lists
the sources of the statements between: none of these may be named, and where there are such statements
a local source must be. -/
inductive OwnAggregate : List String → Option (List String) → Node V → Prop where
  | here {locals : List String} {inside : Option (List String)} {name : AggregateName}
      {arguments : List (Node V)} {filter : Option (Node V)}
      (named : (∃ source ∈ locals, Names source (.aggregate name arguments filter)) ∨
        inside = none ∧ ∀ source, ¬Names source (.aggregate name arguments filter))
      (apart : ∀ source ∈ inside.getD [], ¬Names source (.aggregate name arguments filter)) :
      OwnAggregate locals inside (.aggregate name arguments filter)
  | within {locals : List String} {inside : Option (List String)} {node child : Node V}
      (member : child ∈ plainChildren node) (own : OwnAggregate locals inside child) :
      OwnAggregate locals inside node
  | nested {locals : List String} {inside : Option (List String)} {node : Node V}
      {query : SelectNode V} {inner : QueryNode V} {clause : Clause V}
      (carries : node.nestedSelect = some query) (within : NestedWithin (.select query) inner)
      (member : clause ∈ ownClauses inner)
      (own : OwnAggregate (locals.filter (· ∉ clause.locals))
        (some (clause.locals ++ inside.getD [])) clause.expression) :
      OwnAggregate locals inside node

end Relq
