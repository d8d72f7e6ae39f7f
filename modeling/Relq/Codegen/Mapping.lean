/-
Module: Relq.Codegen.Mapping
Layer: Codegen
Purpose: How a SQL type becomes a Python type (`mapping.py`), and which wrapper types a module needs.
  A configured mapping is looked up under one identity; without one, built-in names are matched
  against patterns in a fixed order.
Imports: Relq.Library.Dictionaries, Relq.Library.Outcome, Relq.Library.Strings, Relq.Codegen.Model
Trusted boundary: human-reviewed spec
Main exports: relqNames, mappingImports, ResolvedType, resolveType, builtinType, builtinType_plain,
  usedWrapperPolicies, usedWrapperPolicies_ok, mappingIdentity
-/
import Relq.Library.Dictionaries
import Relq.Library.Outcome
import Relq.Library.Strings
import Relq.Codegen.Model

namespace Relq.Codegen

open Python

/-! ### Names a generated module imports -/

def decoderKinds : List DecoderKind :=
  [.bool, .bytes, .date, .datetime, .decimal, .float, .inet, .int, .json, .str, .time, .uuid]

def relqNames : List String :=
  decoderKinds.map (fun kind => kind.text ++ "_decoder") ++
    ["AwareDateTime", "AwareTime", "Inet", "Interval", "JsonValue", "NaiveDateTime", "NaiveTime",
      "aware_datetime_decoder", "aware_time_decoder", "domain_decoder", "enum_decoder",
      "interval_decoder", "list_decoder", "naive_datetime_decoder", "naive_time_decoder", "nullable",
      "row_adapter"]

def stdlibModules : List String :=
  ["datetime", "decimal", "uuid"]

def mappingImports : List Import :=
  relqNames.map (fun name => ⟨"relq", [name]⟩) ++ stdlibModules.map (⟨·, []⟩)

/-- `relq_name`; its check that the name is declared is the second argument. -/
def relqName (name : String) (_declared : name ∈ relqNames) : RenderExpression :=
  .name name [⟨"relq", [name]⟩]

/-- `_attribute`, with its check that the module is declared. -/
def stdlibAttribute (module name : String) (_declared : module ∈ stdlibModules) : RenderExpression :=
  .attr (.name module [⟨module, []⟩]) name

/-- A decoder of `relq` that takes no argument. -/
def decoderCall (name : String) (declared : name ∈ relqNames) : RenderExpression :=
  .call (relqName name declared) []

theorem decoder_declared (kind : DecoderKind) : kind.text ++ "_decoder" ∈ relqNames := by
  cases kind <;> decide

/-! ### Configured mappings -/

structure ResolvedType where
  annotation : RenderExpression
  decoder : Option RenderExpression

def ResolvedType.imports (resolved : ResolvedType) : List Import :=
  resolved.annotation.imports ++ (resolved.decoder.elim [] (·.imports))

def displayIdentity (identity : TypeIdentity) : String :=
  match identity.schema with
  | none => identity.name
  | some schema => schema ++ "." ++ identity.name

def decoderForDirectType (mapping : DirectType) : RenderExpression :=
  decoderCall (mapping.decoder.text ++ "_decoder") (decoder_declared mapping.decoder)

def directResolved (mapping : DirectType) : ResolvedType :=
  { annotation := mapping.annotation, decoder := some (decoderForDirectType mapping) }

def wrapperResolved (mapping : GeneratedWrapper) : ResolvedType :=
  { annotation := .name mapping.name [],
    decoder := some (.call (relqName "domain_decoder" (by decide))
      [.stringLiteral mapping.name, decoderForDirectType mapping.base, .name mapping.name []]) }

/-- What a mapping makes of a type, which is `shown` in the message of a rejection. -/
def applyMapping (shown : String) : TypeMapping → Except CodegenError ResolvedType
  | .direct mapping => .ok (directResolved mapping)
  | .wrapper mapping => .ok (wrapperResolved mapping)
  | .rejected reason => .error ⟨"database type " ++ shown ++ " is rejected: " ++ reason⟩

def unsupportedType (shown : String) : CodegenError :=
  ⟨"unsupported database type " ++ shown ++ "; map it in a relq-codegen --config file"⟩

/-- `_resolve_mapped_type`. -/
def resolveMappedType (identity : TypeIdentity) (config : Option CodegenConfig) :
    Except CodegenError ResolvedType :=
  match mappingOf config identity with
  | some mapping => applyMapping (displayIdentity identity) mapping
  | none => .error (unsupportedType (displayIdentity identity))

/-! ### Built-in types -/

def integerTypes : List String :=
  ["int", "int2", "int4", "int8", "integer", "tinyint", "smallint", "mediumint", "bigint",
    "unsigned big int"]

def postgresTextTypes : List String :=
  ["text", "name", "xml", "citext", "bpchar", "varchar", "char", "character", "character varying"]

def intResolved : ResolvedType :=
  ⟨.name "int" [], some (decoderCall "int_decoder" (by decide))⟩

def strResolved : ResolvedType :=
  ⟨.name "str" [], some (decoderCall "str_decoder" (by decide))⟩

def bytesResolved : ResolvedType :=
  ⟨.name "bytes" [], some (decoderCall "bytes_decoder" (by decide))⟩

def floatResolved : ResolvedType :=
  ⟨.name "float" [], some (decoderCall "float_decoder" (by decide))⟩

/-- `_sqlite_affinity_type`. -/
def sqliteAffinityType (normalized : String) : Option ResolvedType :=
  if contains normalized "int" then some intResolved
  else if ["char", "clob", "text"].any (contains normalized) then some strResolved
  else if contains normalized "blob" then some bytesResolved
  else if ["real", "floa", "doub"].any (contains normalized) then some floatResolved
  else none

/-- The branded temporal types, which only PostgreSQL has. -/
def postgresTemporalType (normalized : String) : Option ResolvedType :=
  if normalized ∈ ["timestamptz", "timestamp with time zone"] then
    some ⟨relqName "AwareDateTime" (by decide),
      some (decoderCall "aware_datetime_decoder" (by decide))⟩
  else if normalized = "timestamp without time zone" then
    some ⟨relqName "NaiveDateTime" (by decide),
      some (decoderCall "naive_datetime_decoder" (by decide))⟩
  else if normalized = "time without time zone" then
    some ⟨relqName "NaiveTime" (by decide), some (decoderCall "naive_time_decoder" (by decide))⟩
  else if normalized ∈ ["timetz", "time with time zone"] then
    some ⟨relqName "AwareTime" (by decide), some (decoderCall "aware_time_decoder" (by decide))⟩
  else none

/-- The patterns of `_resolve_builtin` before the branded temporal types. -/
def plainType (normalized : String) : Option ResolvedType :=
  if contains normalized "uuid" then
    some ⟨stdlibAttribute "uuid" "UUID" (by decide), some (decoderCall "uuid_decoder" (by decide))⟩
  else if normalized = "inet" then
    some ⟨relqName "Inet" (by decide), some (decoderCall "inet_decoder" (by decide))⟩
  else if normalized ∈ ["json", "jsonb"] then
    some ⟨relqName "JsonValue" (by decide), some (decoderCall "json_decoder" (by decide))⟩
  else if contains normalized "bool" then
    some ⟨.name "bool" [], some (decoderCall "bool_decoder" (by decide))⟩
  else if normalized ∈ integerTypes ∨ contains normalized "serial" then some intResolved
  else if ["numeric", "decimal"].any (contains normalized) then
    some ⟨stdlibAttribute "decimal" "Decimal" (by decide),
      some (decoderCall "decimal_decoder" (by decide))⟩
  else if ["real", "double", "float"].any (contains normalized) then some floatResolved
  else if ["blob", "bytea", "binary"].any (contains normalized) then some bytesResolved
  else none

/-- The patterns of `_resolve_builtin` after the branded temporal types. -/
def remainingType (dialect : CodegenDialect) (normalized : String) : Option ResolvedType :=
  if contains normalized "timestamp" ∨ contains normalized "datetime" then
    some ⟨stdlibAttribute "datetime" "datetime" (by decide),
      some (decoderCall "datetime_decoder" (by decide))⟩
  else if normalized = "date" then
    some ⟨stdlibAttribute "datetime" "date" (by decide), some (decoderCall "date_decoder" (by decide))⟩
  else if startsWith normalized "time" then
    some ⟨stdlibAttribute "datetime" "time" (by decide), some (decoderCall "time_decoder" (by decide))⟩
  else if normalized = "interval" then
    some ⟨relqName "Interval" (by decide), some (decoderCall "interval_decoder" (by decide))⟩
  else if dialect = .postgres ∧ normalized ∈ postgresTextTypes then some strResolved
  else none

/-- The built-in policy for a lower-cased type name. -/
def builtinType (dialect : CodegenDialect) (normalized : String) : Option ResolvedType :=
  (if dialect = .sqlite then sqliteAffinityType normalized else none) <|>
    plainType normalized <|>
    (if dialect = .postgres then postgresTemporalType normalized else none) <|>
    remainingType dialect normalized

/-- Why `_resolve_builtin` rejects an interval of SQLite, which no entry maps. -/
def sqliteIntervalReason : String :=
  "SQLite has no interval type, and relq.Interval is PostgreSQL-only; " ++
    "map it in a relq-codegen --config file"

/-- `_resolve_builtin` below the lookup of a configured mapping. -/
def resolveUnmapped (py : Strings) (name : String) (dialect : CodegenDialect) :
    Except CodegenError ResolvedType :=
  if dialect = .sqlite ∧ py.lower name = "interval" then
    .error ⟨"database type " ++ py.repr name ++ " is rejected: " ++ sqliteIntervalReason⟩
  else
    match builtinType dialect (py.lower name) with
    | some resolved => .ok resolved
    | none => .error (unsupportedType (py.repr name))

/-- `_resolve_builtin`. -/
def resolveBuiltin (py : Strings) (name : String) (config : Option CodegenConfig)
    (dialect : CodegenDialect) : Except CodegenError ResolvedType :=
  match mappingOf config ⟨none, py.lower name⟩ with
  | some mapping => applyMapping (py.repr name) mapping
  | none => resolveUnmapped py name dialect

/-- The annotations of built-in types: a Python builtin, a type of `relq` or one of the standard
library. -/
inductive PlainAnnotation : RenderExpression → Prop where
  | builtin {name : String} (known : name ∈ ["bool", "bytes", "float", "int", "str"]) :
      PlainAnnotation (.name name [])
  | relq {name : String} (declared : name ∈ relqNames) : PlainAnnotation (relqName name declared)
  | stdlib {module name : String} (declared : module ∈ stdlibModules) :
      PlainAnnotation (stdlibAttribute module name declared)

/-- What the built-in policy makes of a type. -/
structure ResolvedType.Plain (resolved : ResolvedType) : Prop where
  annotation : PlainAnnotation resolved.annotation
  decoder : ∃ name, ∃ declared : name ∈ relqNames, resolved.decoder = some (decoderCall name declared)

theorem sqliteAffinityType_plain {normalized : String} {resolved : ResolvedType}
    (found : sqliteAffinityType normalized = some resolved) : resolved.Plain := by
  unfold sqliteAffinityType at found
  split_ifs at found <;> cases found <;> exact ⟨.builtin (by decide), _, by decide, rfl⟩

theorem postgresTemporalType_plain {normalized : String} {resolved : ResolvedType}
    (found : postgresTemporalType normalized = some resolved) : resolved.Plain := by
  unfold postgresTemporalType at found
  split_ifs at found <;> cases found <;> exact ⟨.relq (by decide), _, by decide, rfl⟩

theorem plainType_plain {normalized : String} {resolved : ResolvedType}
    (found : plainType normalized = some resolved) : resolved.Plain := by
  unfold plainType at found
  split_ifs at found <;> cases found
  · exact ⟨.stdlib (by decide), _, by decide, rfl⟩
  · exact ⟨.relq (by decide), _, by decide, rfl⟩
  · exact ⟨.relq (by decide), _, by decide, rfl⟩
  · exact ⟨.builtin (by decide), _, by decide, rfl⟩
  · exact ⟨.builtin (by decide), _, by decide, rfl⟩
  · exact ⟨.stdlib (by decide), _, by decide, rfl⟩
  · exact ⟨.builtin (by decide), _, by decide, rfl⟩
  · exact ⟨.builtin (by decide), _, by decide, rfl⟩

theorem remainingType_plain {dialect : CodegenDialect} {normalized : String}
    {resolved : ResolvedType} (found : remainingType dialect normalized = some resolved) :
    resolved.Plain := by
  unfold remainingType at found
  split_ifs at found <;> cases found
  · exact ⟨.stdlib (by decide), _, by decide, rfl⟩
  · exact ⟨.stdlib (by decide), _, by decide, rfl⟩
  · exact ⟨.stdlib (by decide), _, by decide, rfl⟩
  · exact ⟨.relq (by decide), _, by decide, rfl⟩
  · exact ⟨.builtin (by decide), _, by decide, rfl⟩

theorem builtinType_plain {dialect : CodegenDialect} {normalized : String}
    {resolved : ResolvedType} (found : builtinType dialect normalized = some resolved) :
    resolved.Plain := by
  simp only [builtinType, Option.orElse_eq_orElse, Option.orElse_eq_or, Option.or_eq_some_iff] at found
  rcases found with affinity | ⟨_, plain | ⟨_, temporal | ⟨_, remaining⟩⟩⟩
  · split_ifs at affinity
    exact sqliteAffinityType_plain affinity
  · exact plainType_plain plain
  · split_ifs at temporal
    exact postgresTemporalType_plain temporal
  · exact remainingType_plain remaining

/-! ### Every type -/

def listResolved (element : ResolvedType) : ResolvedType :=
  { annotation := .subscript (.name "list" []) [element.annotation],
    decoder := element.decoder.map fun decoder =>
      .call (relqName "list_decoder" (by decide)) [decoder] }

def enumResolved (name : String) : ResolvedType :=
  { annotation := .name name [],
    decoder := some (.call (relqName "enum_decoder" (by decide)) [.name name []]) }

/-- `resolve_type`; `enumTypes` holds the class of every enum the module declares. -/
def resolveType (py : Strings) (enumTypes : List (TypeIdentity × String))
    (config : Option CodegenConfig) (dialect : CodegenDialect) :
    SqlType → Except CodegenError ResolvedType
  | .array element => do
      let element ← resolveType py enumTypes config dialect element
      return listResolved element
  | .named .enum identity =>
      match enumTypes.lookup identity with
      | some name => .ok (enumResolved name)
      | none => resolveMappedType identity config
  | .named .domain identity => resolveMappedType identity config
  | .builtin name => resolveBuiltin py name config dialect

/-! ### Wrapper types -/

/-- `_mapping_identities`: the one identity under which a type's mapping is looked up. -/
def mappingIdentity (py : Strings) : SqlType → TypeIdentity
  | .named _ identity => identity
  | .array element => mappingIdentity py element
  | .builtin name => ⟨none, py.lower name⟩

/-- The configured wrappers among the mappings that some column's type is looked up under. -/
def usedWrappers (py : Strings) (tables : List SchemaTable) (config : CodegenConfig) :
    List GeneratedWrapper :=
  let used := tables.flatMap fun table => table.columns.map (mappingIdentity py ·.sqlType)
  config.typeMappings.filterMap fun entry =>
    match entry.2 with
    | .wrapper mapping => if entry.1 ∈ used then some mapping else none
    | _ => none

/-- The checks on the wrappers' names, in order; `names` are those already seen. -/
def checkWrappers (py : Strings) (names : List String) :
    List GeneratedWrapper → Except CodegenError Unit
  | [] => .ok ()
  | wrapper :: rest =>
      if ¬py.isIdentifier wrapper.name ∨ wrapper.name ∈ keywords then
        .error ⟨"generated wrapper name must be a valid identifier: " ++ py.repr wrapper.name⟩
      else if wrapper.name ∈ names then
        .error ⟨"duplicate generated wrapper name: " ++ wrapper.name⟩
      else checkWrappers py (wrapper.name :: names) rest

/-- `used_wrapper_policies`. -/
def usedWrapperPolicies (py : Strings) (tables : List SchemaTable) (config : Option CodegenConfig) :
    Except CodegenError (List GeneratedWrapper) :=
  match config with
  | none => .ok []
  | some config => do
      let wrappers := usedWrappers py tables config
      checkWrappers py [] wrappers
      return wrappers.mergeSort fun first second => first.name ≤ second.name

variable (py : Strings)

/-- The checks on wrapper names reject names that occur twice. -/
theorem checkWrappers_nodup {names : List String} {wrappers : List GeneratedWrapper}
    (passed : checkWrappers py names wrappers = .ok ()) :
    (wrappers.map (·.name)).Nodup ∧ ∀ wrapper ∈ wrappers, wrapper.name ∉ names := by
  induction wrappers generalizing names with
  | nil => exact ⟨List.nodup_nil, fun _ member => nomatch member⟩
  | cons wrapper rest ih =>
      rw [checkWrappers] at passed
      split_ifs at passed with _ repeated
      obtain ⟨distinct, apart⟩ := ih passed
      refine ⟨List.nodup_cons.mpr ⟨fun member => ?_, distinct⟩, fun other member => ?_⟩
      · obtain ⟨twin, later, same⟩ := List.mem_map.mp member
        exact apart twin later (List.mem_cons.mpr (.inl same))
      · rcases List.mem_cons.mp member with rfl | later
        · exact repeated
        · exact fun seen => apart other later (List.mem_cons_of_mem _ seen)

/-- The entry of a type whose identity a wrapper is configured for. -/
def wrapperOf (used : List TypeIdentity) (entry : TypeIdentity × TypeMapping) :
    Option GeneratedWrapper :=
  match entry.2 with
  | .wrapper mapping => if entry.1 ∈ used then some mapping else none
  | _ => none

theorem wrapperOf_eq_some {used : List TypeIdentity} {entry : TypeIdentity × TypeMapping}
    {wrapper : GeneratedWrapper} :
    wrapperOf used entry = some wrapper ↔ entry.2 = .wrapper wrapper ∧ entry.1 ∈ used := by
  obtain ⟨identity, mapping⟩ := entry
  cases mapping with
  | direct => simp [wrapperOf]
  | wrapper mapping => simp [wrapperOf, and_comm]
  | rejected => simp [wrapperOf]

theorem mappingOf_some {config : CodegenConfig} {identity : TypeIdentity} {mapping : TypeMapping} :
    mappingOf (some config) identity = some mapping ↔ (identity, mapping) ∈ config.typeMappings :=
  (Dictionaries.mem_iff_lookup config.distinct).symm

/-- A successful collection holds the used wrappers, under distinct names. -/
theorem usedWrapperPolicies_ok {tables : List SchemaTable} {config : CodegenConfig}
    {policies : List GeneratedWrapper}
    (returned : usedWrapperPolicies py tables (some config) = .ok policies) :
    (∀ {wrapper}, wrapper ∈ policies ↔ wrapper ∈ usedWrappers py tables config) ∧
      ((usedWrappers py tables config).map (·.name)).Nodup := by
  simp only [usedWrapperPolicies, Outcome.bind_eq_ok, Outcome.pure_eq_ok] at returned
  obtain ⟨_, passed, rfl⟩ := returned
  exact ⟨List.mem_mergeSort, (checkWrappers_nodup py passed).1⟩

end Relq.Codegen
