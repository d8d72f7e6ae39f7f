/-
Module: Relq.Codegen.BuiltinNames
Layer: Codegen
Purpose: Which names of user-defined PostgreSQL types the built-in policy takes for its own. The
  policy is meant for the built-in types it supports, whose names are listed here, but matches the
  lower-cased name against substrings.
Imports: Relq.Codegen.Introspection
Trusted boundary: human-reviewed spec (supportedNames, LooselyMatched)
Main exports: supportedNames, LooselyMatched, builtinType_postgres_isSome, unknownType_raises_iff
-/
import Relq.Codegen.Introspection

namespace Relq.Codegen

open Python

/-- The built-in types that the generator supports on PostgreSQL: the names its patterns spell out,
and the names under which PostgreSQL knows the types that the substring patterns are there for. -/
def supportedNames : List String :=
  ["uuid", "inet", "json", "jsonb", "bool", "boolean"] ++ integerTypes ++
    ["serial", "serial2", "serial4", "serial8", "smallserial", "bigserial", "numeric", "decimal",
      "real", "double", "double precision", "float", "float4", "float8", "blob", "bytea", "binary",
      "timestamp", "timestamp without time zone", "timestamptz", "timestamp with time zone",
      "datetime", "date", "time", "time without time zone", "timetz", "time with time zone",
      "interval"] ++ postgresTextTypes

/-- The substrings by which the policy recognises a type. -/
def looseTokens : List String :=
  ["uuid", "bool", "serial", "numeric", "decimal", "real", "double", "float", "blob", "bytea",
    "binary", "timestamp", "datetime"]

/-- The names that the policy compares as a whole. -/
def exactNames : List String :=
  ["inet", "json", "jsonb", "date", "interval"] ++ integerTypes ++ postgresTextTypes

/-- A lower-cased name that the policy takes for a built-in type. -/
def LooselyMatched (lowered : String) : Prop :=
  (∃ token ∈ looseTokens, contains lowered token = true) ∨ startsWith lowered "time" = true ∨
    lowered ∈ exactNames

instance (lowered : String) : Decidable (LooselyMatched lowered) :=
  inferInstanceAs (Decidable (_ ∨ _ ∨ _))

/-! ### What the policy matches -/

theorem isSome_ite_some {α : Type} {p : Prop} [Decidable p] (value : α) (rest : Option α) :
    (if p then some value else rest).isSome = true ↔ p ∨ rest.isSome = true := by
  by_cases holds : p <;> simp [holds]

theorem plainType_isSome (lowered : String) :
    (plainType lowered).isSome = true ↔
      (∃ token ∈ ["uuid", "bool", "serial", "numeric", "decimal", "real", "double", "float", "blob",
        "bytea", "binary"], contains lowered token = true) ∨
        lowered ∈ ["inet", "json", "jsonb"] ++ integerTypes := by
  simp only [plainType, isSome_ite_some, List.any_cons, List.any_nil, Bool.or_false,
    Bool.or_eq_true, List.mem_append, List.mem_cons, List.not_mem_nil, or_false,
    exists_eq_or_imp, exists_eq_left, Option.isSome_none, Bool.false_eq_true]
  apply iff_of_eq
  ac_rfl

theorem remainingType_isSome (lowered : String) :
    (remainingType .postgres lowered).isSome = true ↔
      (∃ token ∈ ["timestamp", "datetime"], contains lowered token = true) ∨
        startsWith lowered "time" = true ∨ lowered ∈ ["date", "interval"] ++ postgresTextTypes := by
  simp only [remainingType, isSome_ite_some, List.mem_append, List.mem_cons, List.not_mem_nil,
    or_false, exists_eq_or_imp, exists_eq_left, Option.isSome_none, Bool.false_eq_true, true_and]
  apply iff_of_eq
  ac_rfl

/-- The branded temporal types are among those the later patterns match. -/
theorem remainingType_of_temporal {lowered : String}
    (temporal : (postgresTemporalType lowered).isSome = true) :
    (remainingType .postgres lowered).isSome = true := by
  simp only [postgresTemporalType, isSome_ite_some, List.mem_cons, List.not_mem_nil, or_false,
    Option.isSome_none, Bool.false_eq_true] at temporal
  rcases temporal with (rfl | rfl) | rfl | rfl | rfl | rfl <;> decide +kernel

theorem builtinType_postgres_isSome (lowered : String) :
    (builtinType .postgres lowered).isSome = true ↔ LooselyMatched lowered := by
  have split : (builtinType .postgres lowered).isSome = true ↔
      (plainType lowered).isSome = true ∨ (remainingType .postgres lowered).isSome = true := by
    simp only [builtinType, reduceCtorEq, if_false, if_true]
    have temporal := @remainingType_of_temporal lowered
    revert temporal
    cases plainType lowered <;> cases postgresTemporalType lowered <;>
      cases remainingType .postgres lowered <;> simp
  rw [split, plainType_isSome, remainingType_isSome, LooselyMatched, exactNames]
  simp only [looseTokens, List.mem_append, List.mem_cons, List.not_mem_nil, or_false,
    exists_eq_or_imp, exists_eq_left]
  apply iff_of_eq
  ac_rfl

/-! ### Unknown types -/

theorem resolveUnmapped_raises_iff (py : Strings) (name : String) :
    (∃ error, resolveUnmapped py name .postgres = .error error) ↔ ¬LooselyMatched (py.lower name) := by
  rw [← builtinType_postgres_isSome, resolveUnmapped, if_neg (by simp)]
  cases builtinType .postgres (py.lower name) <;> simp

/-- The temporal aliases are names of supported types. -/
theorem temporalName_of_unknown {name : String} (unknown : name ∉ supportedNames) :
    temporalName name = name := by
  unfold temporalName
  split
  · exact absurd (by decide) unknown
  · exact absurd (by decide) unknown
  · exact absurd (by decide) unknown
  · exact absurd (by decide) unknown
  · rfl

/-- An array raises exactly when its element type does. -/
theorem resolveType_array_raises (py : Strings) (enumTypes : List (TypeIdentity × String))
    (config : Option CodegenConfig) (dialect : CodegenDialect) (element : SqlType) :
    (∃ error, resolveType py enumTypes config dialect (.array element) = .error error) ↔
      ∃ error, resolveType py enumTypes config dialect element = .error error := by
  rw [resolveType]
  cases resolveType py enumTypes config dialect element with
  | error error => exact ⟨fun _ => ⟨error, rfl⟩, fun _ => ⟨error, rfl⟩⟩
  | ok resolved => exact ⟨fun ⟨_, raised⟩ => (nomatch raised), fun ⟨_, raised⟩ => (nomatch raised)⟩

/-- A user-defined type that is neither an enum nor a domain, bears none of the supported names and
has no configured mapping fails the generation exactly when the policy's patterns do not match its
name by accident. -/
theorem unknownType_raises_iff (py : Strings) (enumTypes : List (TypeIdentity × String))
    (config : Option CodegenConfig) (row : PostgresColumn)
    (notEnum : row.base.kind ≠ "e") (notDomain : row.base.kind ≠ "d")
    (unknown : row.base.name ∉ supportedNames)
    (unmapped : mappingOf config ⟨none, py.lower row.base.name⟩ = none) :
    (∃ error, resolveType py enumTypes config .postgres (postgresType row) = .error error) ↔
      ¬LooselyMatched (py.lower row.base.name) := by
  have builtin : postgresNamedOrBuiltin row.base = .builtin row.base.name := by
    rw [postgresNamedOrBuiltin, if_neg notEnum, if_neg notDomain, temporalName_of_unknown unknown]
  have element :
      (∃ error, resolveType py enumTypes config .postgres (.builtin row.base.name) = .error error) ↔
        ¬LooselyMatched (py.lower row.base.name) := by
    rw [resolveType, resolveBuiltin, unmapped]
    exact resolveUnmapped_raises_iff py row.base.name
  rcases postgresType_eq row with plain | array
  · rwa [plain, builtin]
  · rwa [array, builtin, resolveType_array_raises]

/-- A composite type that no pattern matches. -/
theorem unknownType_raises_iff_inventoryItem :
    ∃ error, resolveType Strings.ofAscii [] none .postgres
      (postgresType ⟨⟨"c", "public", "inventory_item"⟩, none⟩) = .error error :=
  (unknownType_raises_iff Strings.ofAscii [] none ⟨⟨"c", "public", "inventory_item"⟩, none⟩
    (by decide) (by decide) (by decide +kernel) rfl).mpr (by decide +kernel)

/-- A range type over `float8` is read as a Python float. -/
theorem floatrange_resolves :
    "floatrange" ∉ supportedNames ∧
      resolveType Strings.ofAscii [] none .postgres
        (postgresType ⟨⟨"r", "public", "floatrange"⟩, none⟩) = .ok floatResolved := by
  refine ⟨by decide, ?_⟩
  have matched : plainType "floatrange" = some floatResolved := by
    rw [plainType, if_neg (by decide +kernel), if_neg (by decide), if_neg (by decide),
      if_neg (by decide +kernel), if_neg (by decide +kernel), if_neg (by decide +kernel),
      if_pos (by decide +kernel)]
  have lowered : Strings.ofAscii.lower "floatrange" = "floatrange" := by decide +kernel
  have builtin : postgresType ⟨⟨"r", "public", "floatrange"⟩, none⟩ = .builtin "floatrange" := rfl
  rw [builtin, resolveType, resolveBuiltin, lowered]
  simp [mappingOf, resolveUnmapped, lowered, builtinType, matched]

end Relq.Codegen
