/-
Module: Relq.Codegen.Model
Layer: Codegen
Purpose: Database metadata and type policy as the generator normalises them (`model.py`): expressions
  that know the imports they need, SQL types, tables, enums, and the configured type mappings.
Imports: Mathlib.Data.List.Basic (lists without repetition)
Trusted boundary: human-reviewed spec
Main exports: Import, RenderExpression, TypeIdentity, SqlType, SchemaTable, TypeMapping,
  CodegenConfig
-/
import Mathlib.Data.List.Basic

namespace Relq.Codegen

/-! ### Rendered expressions -/

/-- `import module`, or `from module import names` where names are given. -/
structure Import where
  module : String
  names : List String := []
deriving DecidableEq, Repr

/-- `RenderExpression`; a name carries the imports that bind it. A configuration may bring a class of
its own, which is known by what its methods `imports` and `names` return. -/
inductive RenderExpression where
  | name (value : String) (dependencies : List Import)
  | attr (parent : RenderExpression) (name : String)
  | subscript (parent : RenderExpression) (arguments : List RenderExpression)
  | stringLiteral (value : String)
  | call (function : RenderExpression) (arguments : List RenderExpression)
  | union (members : List RenderExpression)
  | custom (dependencies : List Import) (references : List String)

namespace RenderExpression

mutual

/-- `imports`, as the list of the set's elements. -/
def imports : RenderExpression → List Import
  | name _ dependencies => dependencies
  | attr parent _ => parent.imports
  | subscript parent arguments => parent.imports ++ importsAll arguments
  | stringLiteral _ => []
  | call function arguments => function.imports ++ importsAll arguments
  | union members => importsAll members
  | custom dependencies _ => dependencies

def importsAll : List RenderExpression → List Import
  | [] => []
  | expression :: rest => expression.imports ++ importsAll rest

end

mutual

/-- `names`: the bare names the expression resolves in the enclosing namespace. -/
def names : RenderExpression → List String
  | name value _ => [value]
  | attr parent _ => parent.names
  | subscript parent arguments => parent.names ++ namesAll arguments
  | stringLiteral _ => []
  | call function arguments => function.names ++ namesAll arguments
  | union members => namesAll members
  | custom _ references => references

def namesAll : List RenderExpression → List String
  | [] => []
  | expression :: rest => expression.names ++ namesAll rest

end

end RenderExpression

/-! ### Database types -/

structure TypeIdentity where
  schema : Option String
  name : String
deriving DecidableEq, Repr

inductive NamedKind where
  | enum
  | domain
deriving DecidableEq, Repr

inductive SqlType where
  | builtin (name : String)
  | named (kind : NamedKind) (identity : TypeIdentity)
  | array (element : SqlType)
deriving DecidableEq, Repr

structure SchemaColumn where
  name : String
  sqlType : SqlType
  nullable : Bool
deriving DecidableEq, Repr

structure SchemaTable where
  name : String
  columns : List SchemaColumn
deriving DecidableEq, Repr

structure SchemaEnum where
  identity : TypeIdentity
deriving DecidableEq, Repr

/-! ### Type policy -/

inductive DecoderKind where
  | bool | bytes | date | datetime | decimal | float | inet | int | json | str | time | uuid
deriving DecidableEq, Repr

def DecoderKind.text : DecoderKind → String
  | bool => "bool"
  | bytes => "bytes"
  | date => "date"
  | datetime => "datetime"
  | decimal => "decimal"
  | float => "float"
  | inet => "inet"
  | int => "int"
  | json => "json"
  | str => "str"
  | time => "time"
  | uuid => "uuid"

structure DirectType where
  annotation : RenderExpression
  decoder : DecoderKind

structure GeneratedWrapper where
  name : String
  base : DirectType

inductive TypeMapping where
  | direct (mapping : DirectType)
  | wrapper (mapping : GeneratedWrapper)
  | rejected (reason : String)

/-- `type_mappings`, in the order of the mapping. -/
structure CodegenConfig where
  typeMappings : List (TypeIdentity × TypeMapping)
  distinct : (typeMappings.map (·.1)).Nodup

/-- `config.type_mappings.get(identity)`, and `None` without a configuration. -/
def mappingOf (config : Option CodegenConfig) (identity : TypeIdentity) : Option TypeMapping :=
  config.bind (·.typeMappings.lookup identity)

inductive CodegenDialect where
  | postgres
  | sqlite
deriving DecidableEq, Repr

/-- `CodegenError`, with its message. -/
structure CodegenError where
  message : String
deriving DecidableEq, Repr

end Relq.Codegen
