/-
Module: Relq.Compiler.Model
Layer: Compiler
Purpose: Value objects shared by validation and rendering (`_compiler/_model.py`, the dialect
  constants of `_compiler/api.py`), the Python exceptions they raise, and the lexemes from which
  the renderer assembles SQL text.
Imports: Relq.Syntax.Ast
Trusted boundary: human-reviewed spec
Main exports: PyError, Dialect, sqlite, postgres, Lexeme, Text, sqlText, CompiledQuery
-/
import Relq.Syntax.Ast

namespace Relq

/-- A raised Python exception: its class and its message template. Interpolated names are kept
beside the template. -/
inductive PyError where
  | valueError (message : String) (names : List String)
  | typeError (message : String)
  | assertionError (message : String)
  | indexError
deriving DecidableEq, Repr

/-- The limited dialect variation supported by the renderer. -/
structure Dialect where
  name : String
  placeholder : String
  supportsReturning : Bool := true
  supportsRowLocking : Bool := false
  supportsTemporalArithmetic : Bool := false
  supportsConflictPredicates : Bool := false
  maxParameters : Option Nat := none
  supportsSchemaQualifiedTables : Bool := false
  supportsDataModifyingCtes : Bool := false
  supportsPostgresExpressions : Bool := false
  offsetRequiresLimit : Bool := false
deriving DecidableEq, Repr

def sqliteMaxParameters : Nat := 999

def postgresMaxParameters : Nat := 32767

def sqlite : Dialect :=
  { name := "sqlite"
    placeholder := "?"
    maxParameters := some sqliteMaxParameters
    offsetRequiresLimit := true }

def postgres : Dialect :=
  { name := "postgres"
    placeholder := "$"
    supportsRowLocking := true
    supportsTemporalArithmetic := true
    supportsConflictPredicates := true
    maxParameters := some postgresMaxParameters
    supportsSchemaQualifiedTables := true
    supportsDataModifyingCtes := true
    supportsPostgresExpressions := true }

/-- One lexical piece of SQL text. A placeholder remembers the position its value took in the
parameter list, counted from one; SQLite's `?` does not print it. -/
inductive Lexeme where
  | space
  | word (text : String)
  | symbol (text : String)
  | identifier (name : String)
  | literal (text : String)
  | escaped (text : String)
  | number (value : Int)
  | placeholder (ordinal : Nat)
deriving DecidableEq, Repr

/-- SQL text as the renderer concatenates it. -/
abbrev Text := List Lexeme

/-- Double every occurrence of `quote`. -/
def doubled (quote : Char) (text : String) : String :=
  String.ofList (text.toList.flatMap fun c => if c = quote then [c, c] else [c])

/-- `_identifier`, `_sql_literal`, the `E''` constants of `_constant`, and the placeholder of the
`ValueNode` case of `_compile_node`. -/
def Lexeme.print (dialect : Dialect) : Lexeme → String
  | .space => " "
  | .word text => text
  | .symbol text => text
  | .identifier name => "\"" ++ doubled '"' name ++ "\""
  | .literal text => "'" ++ doubled '\'' text ++ "'"
  | .escaped text => "E'" ++ doubled '\'' (doubled '\\' text) ++ "'"
  | .number value => toString value
  | .placeholder ordinal =>
      if dialect.placeholder = "?" then dialect.placeholder else "$" ++ toString ordinal

/-- The SQL string of a rendered text. -/
def sqlText (dialect : Dialect) (text : Text) : String :=
  String.join (text.map (Lexeme.print dialect))

/-- Database-ready SQL plus its separately bound parameter values. -/
structure CompiledQuery (V : Type) where
  text : Text
  parameters : List V
deriving DecidableEq

def CompiledQuery.sql {V : Type} (dialect : Dialect) (compiled : CompiledQuery V) : String :=
  sqlText dialect compiled.text

/-! ### Text assembly -/

def parens (text : Text) : Text :=
  .symbol "(" :: text ++ [.symbol ")"]

/-- `", ".join(texts)`. -/
def commas : List Text → Text
  | [] => []
  | [text] => text
  | text :: rest => text ++ [.symbol ",", .space] ++ commas rest

/-- `" ".join(texts)`. -/
def spaces : List Text → Text
  | [] => []
  | [text] => text
  | text :: rest => text ++ [.space] ++ spaces rest

/-- Keywords separated by single spaces. -/
def words (keywords : List String) : Text :=
  spaces (keywords.map fun keyword => [.word keyword])

/-- `f" {keywords} "`. -/
def spaced (keywords : List String) : Text :=
  .space :: words keywords ++ [.space]

/-- `f"{name}({', '.join(arguments)})"`. -/
def call (name : String) (arguments : List Text) : Text :=
  .word name :: parens (commas arguments)

/-- `f"({left} {operator} {right})"`. -/
def operation (left operator right : Text) : Text :=
  parens (left ++ [.space] ++ operator ++ [.space] ++ right)

/-- A binary operator is a keyword for `like`, `and` and `or` and a symbol otherwise. -/
def BinaryOperator.lexeme : BinaryOperator → Lexeme
  | .like => .word "like"
  | .and => .word "and"
  | .or => .word "or"
  | operator => .symbol operator.text

end Relq
