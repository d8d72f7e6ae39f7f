/-
Module: Relq.Codegen.Introspection
Layer: Codegen
Purpose: The SQL type of a column as catalog introspection reports it (`introspection/postgres.py`,
  `introspection/sqlite.py`). PostgreSQL's enums and domains keep their schema; every other type is
  handed on by its name alone.
Imports: Relq.Codegen.Mapping
Trusted boundary: human-reviewed spec
Main exports: PostgresColumn, postgresNamedOrBuiltin, postgresType, postgresType_eq
-/
import Relq.Codegen.Mapping

namespace Relq.Codegen

/-- A type of the PostgreSQL catalog: `pg_type.typtype`, the schema and the name. -/
structure CatalogType where
  kind : String
  schema : String
  name : String
deriving DecidableEq, Repr

/-- What a row of `inspect_postgres` says about the type of its column; the element type is there
for an array. -/
structure PostgresColumn where
  type : CatalogType
  element : Option CatalogType
deriving DecidableEq, Repr

/-- The temporal aliases of `pg_type.typname` under the names of the standard. -/
def temporalName (name : String) : String :=
  match name with
  | "timestamp" => "timestamp without time zone"
  | "timestamptz" => "timestamp with time zone"
  | "time" => "time without time zone"
  | "timetz" => "time with time zone"
  | other => other

/-- `_postgres_named_or_builtin`. -/
def postgresNamedOrBuiltin (type : CatalogType) : SqlType :=
  if type.kind = "e" then .named .enum ⟨some type.schema, type.name⟩
  else if type.kind = "d" then .named .domain ⟨some type.schema, type.name⟩
  else .builtin (temporalName type.name)

/-- `_postgres_type`. -/
def postgresType (row : PostgresColumn) : SqlType :=
  match row.element with
  | some element => .array (postgresNamedOrBuiltin element)
  | none => postgresNamedOrBuiltin row.type

/-- The type whose mapping decides: the element type of an array, else the type itself. -/
def PostgresColumn.base (row : PostgresColumn) : CatalogType :=
  row.element.getD row.type

theorem postgresType_eq (row : PostgresColumn) :
    postgresType row = postgresNamedOrBuiltin row.base ∨
      postgresType row = .array (postgresNamedOrBuiltin row.base) := by
  rw [postgresType, PostgresColumn.base]
  cases row.element with
  | none => exact .inl rfl
  | some element => exact .inr rfl

end Relq.Codegen
