/-
Module: Relq.Codegen.Lookup
Layer: Codegen
Purpose: Under which keys of the configuration a type's mapping is found. The documentation has one
  rule for every type: the schema-qualified entry, else the entry under the bare name. The generator
  looks every type up under a single key, which depends on the kind of the type, and takes enums
  that the module declares before any entry.
Imports: Mathlib.Data.List.TakeWhile, Relq.Library.Dictionaries, Relq.Codegen.Introspection
Trusted boundary: human-reviewed spec (identityOfKey, Occurrence, Uniform, EmittedWhenUsed, Honoured)
Main exports: identityOfKey, Occurrence, Uniform, uniform_iff, mappingsUniform_iff
-/
import Mathlib.Data.List.TakeWhile
import Relq.Library.Dictionaries
import Relq.Codegen.Introspection

namespace Relq.Codegen

open Python

/-! ### Keys of the configuration -/

/-- `_identity` of `config.py`: the identity that a key of the TOML file stands for. -/
def identityOfKey (py : Strings) (key : String) : Except CodegenError TypeIdentity :=
  match partition key '.' with
  | (_, none) => .ok ⟨none, py.lower key⟩
  | (schema, some name) =>
      if schema = "" ∨ name = "" then
        .error ⟨"type name " ++ py.repr key ++ " must be 'name' or 'schema.name'"⟩
      else .ok ⟨some schema, name⟩

theorem partition_of_not_mem {text : String} {separator : Char} (absent : separator ∉ text.toList) :
    partition text separator = (text, none) := by
  have whole : text.toList.takeWhile (· != separator) = text.toList := by
    rw [List.takeWhile_eq_self_iff]
    intro c member
    simp only [bne_iff_ne, ne_eq]
    rintro rfl
    exact absent member
  rw [partition, whole, List.drop_length, String.ofList_toList]

/-- A bare key is case-insensitive. -/
theorem identityOfKey_bare (py : Strings) {name : String} (noDot : '.' ∉ name.toList) :
    identityOfKey py name = .ok ⟨none, py.lower name⟩ := by
  rw [identityOfKey, partition_of_not_mem noDot]

/-- `_decoder_kind` of `config.py`: the decoder that a configured text names. -/
def decoderKind (value : String) : Option DecoderKind :=
  decoderKinds.find? (·.text == value)

theorem decoderKind_text (kind : DecoderKind) : decoderKind kind.text = some kind := by
  cases kind <;> rfl

/-! ### Occurrences of a type -/

def TypeMapping.asWrapper : TypeMapping → Option GeneratedWrapper
  | .wrapper mapping => some mapping
  | _ => none

theorem TypeMapping.asWrapper_eq_some {mapping : TypeMapping} {wrapper : GeneratedWrapper} :
    mapping.asWrapper = some wrapper ↔ mapping = .wrapper wrapper := by
  cases mapping <;> simp [asWrapper]

/-- A type where introspection meets it: as declared in SQLite, or in the catalog of PostgreSQL. -/
inductive Occurrence where
  | sqlite (declared : String)
  | postgres (row : PostgresColumn)
deriving DecidableEq, Repr

namespace Occurrence

def dialect : Occurrence → CodegenDialect
  | sqlite _ => .sqlite
  | postgres _ => .postgres

/-- The SQL type that introspection passes on. -/
def sqlType : Occurrence → SqlType
  | sqlite declared => .builtin declared
  | postgres row => postgresType row

/-- The same of the element type, for an array. -/
def base : Occurrence → SqlType
  | sqlite declared => .builtin declared
  | postgres row => postgresNamedOrBuiltin row.base

/-- The Python type of the occurrence from the type of `base`. -/
def wrap : Occurrence → ResolvedType → ResolvedType
  | sqlite _ => id
  | postgres row => if row.element.isSome then listResolved else id

/-- The entry under the bare name of a type. A Python configuration keeps a key as it is spelled, a
TOML file lower-cases it. -/
def bareEntry (py : Strings) (config : Option CodegenConfig) (name : String) : Option TypeMapping :=
  mappingOf config ⟨none, name⟩ <|> mappingOf config ⟨none, py.lower name⟩

/-- The entry that the configuration has for the type: the schema-qualified one, else the one under
the bare name. -/
def configured (py : Strings) (config : Option CodegenConfig) : Occurrence → Option TypeMapping
  | sqlite declared => bareEntry py config declared
  | postgres row =>
      mappingOf config ⟨some row.base.schema, row.base.name⟩ <|> bareEntry py config row.base.name

/-- The wrapper that `used_wrapper_policies` declares on account of the occurrence. -/
def collected (py : Strings) (config : Option CodegenConfig) (occurrence : Occurrence) :
    Option GeneratedWrapper :=
  (mappingOf config (mappingIdentity py occurrence.sqlType)).bind TypeMapping.asWrapper

end Occurrence

/-- How a message shows a type that is no array. -/
def shownType (py : Strings) : SqlType → String
  | .named _ identity => displayIdentity identity
  | .builtin name => py.repr name
  | .array element => shownType py element

variable (py : Strings) (enumTypes : List (TypeIdentity × String)) (config : Option CodegenConfig)

/-- An entry decides, and without one the type is resolved as unmapped. -/
def resolvedBy (shown : String) (unmapped : Except CodegenError ResolvedType) :
    Option TypeMapping → Except CodegenError ResolvedType
  | some mapping => applyMapping shown mapping
  | none => unmapped

/-- The Python type of an occurrence, of the element for an array: the configured entry decides,
and without one the type is resolved as if nothing were configured. -/
def expectedBase (occurrence : Occurrence) : Except CodegenError ResolvedType :=
  resolvedBy (shownType py occurrence.base)
    (resolveType py enumTypes none occurrence.dialect occurrence.base)
    (occurrence.configured py config)

/-- The generator resolves an occurrence, or the element of an array, by the entry configured for
it. Where that is a wrapper, the column's type says no more than its name and its decoder, so the
class that the module declares for it has to be the configured one as well. -/
structure Uniform (occurrence : Occurrence) : Prop where
  resolved : resolveType py enumTypes config occurrence.dialect occurrence.sqlType =
    occurrence.wrap <$> expectedBase py enumTypes config occurrence
  declared : ∀ wrapper, occurrence.configured py config = some (.wrapper wrapper) →
    occurrence.collected py config = some wrapper

/-! ### When they agree -/

/-- A mapping that says what happens to the type without any entry: a direct type that the built-in
policy chooses, or the rejection of an interval on SQLite in the words of the generator. -/
def TypeMapping.Redundant (dialect : CodegenDialect) (normalized : String) : TypeMapping → Prop
  | .direct mapping =>
      ¬(dialect = .sqlite ∧ normalized = "interval") ∧
        builtinType dialect normalized = some (directResolved mapping)
  | .wrapper _ => False
  | .rejected reason =>
      (dialect = .sqlite ∧ normalized = "interval") ∧ reason = sqliteIntervalReason

/-- The entries of a type that is neither an enum nor a domain agree: the one configured for it and
the one found under the lower-cased name that introspection passes on. -/
def EntriesAgree (dialect : CodegenDialect) (normalized : String) :
    Option TypeMapping → Option TypeMapping → Prop
  | some wanted, some found => wanted = found
  | none, none => True
  | some mapping, none | none, some mapping => mapping.Redundant dialect normalized

/-- The single key under which an occurrence is looked up leads to the entry configured for it. -/
def Honoured (occurrence : Occurrence) : Prop :=
  match occurrence.base with
  | .named .enum identity =>
      if (enumTypes.lookup identity).isSome then occurrence.configured py config = none
      else mappingOf config identity ≠ none ∨ occurrence.configured py config = none
  | .named .domain identity =>
      mappingOf config identity ≠ none ∨ occurrence.configured py config = none
  | .builtin name =>
      EntriesAgree occurrence.dialect (py.lower name) (occurrence.configured py config)
        (mappingOf config ⟨none, py.lower name⟩)
  | .array _ => False

/-! ### Mappings apart -/

theorem DecoderKind.text_decoder_inj {first second : DecoderKind}
    (same : first.text ++ "_decoder" = second.text ++ "_decoder") : first = second := by
  have characters := congrArg String.toList same
  simp only [String.toList_append, List.append_cancel_right_eq, String.toList_inj] at characters
  have read := congrArg decoderKind characters
  rwa [decoderKind_text, decoderKind_text, Option.some.injEq] at read

theorem directResolved_inj {first second : DirectType} :
    directResolved first = directResolved second ↔ first = second := by
  constructor
  · intro same
    obtain ⟨ annotation, decoder⟩ := first
    obtain ⟨ annotation', decoder'⟩ := second
    simp only [directResolved, decoderForDirectType, decoderCall, relqName, ResolvedType.mk.injEq,
      Option.some.injEq, RenderExpression.call.injEq, RenderExpression.name.injEq] at same
    rw [same.1, DecoderKind.text_decoder_inj same.2.1.1]
  · rintro rfl
    rfl

/-- The type of a column tells its wrapper's name. -/
theorem wrapperResolved_name {first second : GeneratedWrapper}
    (same : wrapperResolved first = wrapperResolved second) : first.name = second.name := by
  simp only [wrapperResolved, ResolvedType.mk.injEq, RenderExpression.name.injEq] at same
  exact same.1.1

/-- A decoder without arguments is none of a wrapper. -/
theorem wrapperResolved_ne_plain {mapping : GeneratedWrapper} {resolved : ResolvedType}
    (plain : resolved.Plain) : wrapperResolved mapping ≠ resolved := by
  rintro rfl
  obtain ⟨name, declared, decoder⟩ := plain.decoder
  simp [wrapperResolved, decoderCall] at decoder

theorem directResolved_ne_wrapperResolved (mapping : DirectType) (wrapper : GeneratedWrapper) :
    directResolved mapping ≠ wrapperResolved wrapper := by
  simp [directResolved, decoderForDirectType, decoderCall, wrapperResolved]

theorem rejection_inj {shown first second : String}
    (same : "database type " ++ shown ++ " is rejected: " ++ first =
      "database type " ++ shown ++ " is rejected: " ++ second) : first = second := by
  have characters := congrArg String.toList same
  simp only [String.toList_append, List.append_assoc, List.append_cancel_left_eq] at characters
  exact String.toList_inj.mp characters

theorem toList_head?_append {text : String} {first : Char} (starts : text.toList.head? = some first)
    (rest : String) : (text ++ rest).toList.head? = some first := by
  rw [String.toList_append, List.head?_append, starts]
  rfl

/-- A rejection is no complaint about an unsupported type. -/
theorem rejection_ne_unsupported (shown other reason : String) :
    (⟨"database type " ++ shown ++ " is rejected: " ++ reason⟩ : CodegenError) ≠
      unsupportedType other := by
  intro same
  have rejection : ("database type " ++ shown ++ " is rejected: " ++ reason).toList.head? =
      some 'd' :=
    toList_head?_append (toList_head?_append (toList_head?_append (by decide) _) _) _
  have complaint : (unsupportedType other).message.toList.head? = some 'u' :=
    toList_head?_append (toList_head?_append (by decide) _) _
  rw [← same, rejection] at complaint
  exact absurd complaint (by decide)

/-- What two mappings make of a type tells them apart, up to the base of a wrapper. -/
theorem applyMapping_inj {shown : String} {first second : TypeMapping}
    (same : applyMapping shown first = applyMapping shown second)
    (wrapped : ∀ wrapper, first = .wrapper wrapper → ∀ twin, second = .wrapper twin →
      twin = wrapper) : first = second := by
  cases first with
  | direct first =>
      cases second with
      | direct second => rw [directResolved_inj.mp (Except.ok.inj same)]
      | wrapper second =>
          exact absurd (Except.ok.inj same) (directResolved_ne_wrapperResolved _ _)
      | rejected => cases same
  | wrapper first =>
      cases second with
      | direct second =>
          exact absurd (Except.ok.inj same).symm (directResolved_ne_wrapperResolved _ _)
      | wrapper second => rw [wrapped first rfl second rfl]
      | rejected => cases same
  | rejected first =>
      cases second with
      | direct => cases same
      | wrapper => cases same
      | rejected second => rw [rejection_inj (congrArg CodegenError.message (Except.error.inj same))]

theorem applyMapping_ne_unsupported (shown other : String) (mapping : TypeMapping) :
    applyMapping shown mapping ≠ .error (unsupportedType other) := by
  cases mapping with
  | direct => simp [applyMapping]
  | wrapper => simp [applyMapping]
  | rejected reason =>
      rw [applyMapping, ne_eq, Except.error.injEq]
      exact rejection_ne_unsupported shown other reason

/-- No mapping makes the class of a declared enum. -/
theorem applyMapping_ne_enum (shown name : String) (mapping : TypeMapping) :
    applyMapping shown mapping ≠ .ok (enumResolved name) := by
  cases mapping with
  | direct => simp [applyMapping, directResolved, decoderForDirectType, decoderCall, enumResolved]
  | wrapper => simp [applyMapping, wrapperResolved, enumResolved]
  | rejected => simp [applyMapping]

/-- A mapping does what happens without an entry exactly where it is redundant. -/
theorem applyMapping_eq_unmapped {name : String} {dialect : CodegenDialect}
    {mapping : TypeMapping} :
    applyMapping (py.repr name) mapping = resolveUnmapped py name dialect ↔
      mapping.Redundant dialect (py.lower name) := by
  rw [resolveUnmapped]
  by_cases interval : dialect = .sqlite ∧ py.lower name = "interval"
  · rw [if_pos interval]
    cases mapping with
    | direct mapping => simp [applyMapping, TypeMapping.Redundant, interval]
    | wrapper mapping => simp [applyMapping, TypeMapping.Redundant]
    | rejected reason =>
        simp only [applyMapping, TypeMapping.Redundant, interval, and_self, true_and,
          Except.error.injEq, CodegenError.mk.injEq]
        exact ⟨rejection_inj, fun same => by rw [same]⟩
  · rw [if_neg interval]
    cases known : builtinType dialect (py.lower name) with
    | none =>
        have unlike := applyMapping_ne_unsupported (py.repr name) (py.repr name) mapping
        cases mapping <;> simp [unlike, TypeMapping.Redundant, interval, known]
    | some resolved =>
        cases mapping with
        | direct mapping =>
            simp only [applyMapping, TypeMapping.Redundant, interval, known, not_false_eq_true,
              true_and, Except.ok.injEq, Option.some.injEq]
            exact eq_comm
        | wrapper mapping =>
            simp [applyMapping, TypeMapping.Redundant,
              wrapperResolved_ne_plain (builtinType_plain known)]
        | rejected reason => simp [applyMapping, TypeMapping.Redundant, interval]

/-! ### Uniform lookup of one occurrence -/

theorem listResolved_inj {first second : ResolvedType}
    (same : listResolved first = listResolved second) : first = second := by
  obtain ⟨ annotation, decoder⟩ := first
  obtain ⟨ annotation', decoder'⟩ := second
  simp only [listResolved, ResolvedType.mk.injEq, RenderExpression.subscript.injEq,
    List.cons.injEq, and_true, true_and] at same
  obtain ⟨rfl, decoders⟩ := same
  cases decoder <;> cases decoder' <;> simp_all

theorem wrap_map_inj (occurrence : Occurrence) {first second : Except CodegenError ResolvedType} :
    occurrence.wrap <$> first = occurrence.wrap <$> second ↔ first = second := by
  constructor
  · intro same
    have injective : ∀ left right, occurrence.wrap left = occurrence.wrap right → left = right := by
      intro left right wrapped
      cases occurrence with
      | sqlite => exact wrapped
      | postgres row =>
          simp only [Occurrence.wrap] at wrapped
          split at wrapped
          · exact listResolved_inj wrapped
          · exact wrapped
    cases first with
    | error error =>
        cases second with
        | error error' => simpa [Functor.map, Except.map] using same
        | ok resolved => simp [Functor.map, Except.map] at same
    | ok resolved =>
        cases second with
        | error error => simp [Functor.map, Except.map] at same
        | ok resolved' =>
            simp only [Functor.map, Except.map, Except.ok.injEq] at same
            rw [injective _ _ same]
  · rintro rfl
    rfl

theorem resolveType_sqlType (occurrence : Occurrence) :
    resolveType py enumTypes config occurrence.dialect occurrence.sqlType =
      occurrence.wrap <$> resolveType py enumTypes config occurrence.dialect occurrence.base := by
  cases occurrence with
  | sqlite declared =>
      rw [Occurrence.wrap, Occurrence.sqlType, Occurrence.base]
      cases resolveType py enumTypes config _ _ <;> rfl
  | postgres row =>
      obtain ⟨type, element⟩ := row
      cases element with
      | none =>
          simp only [Occurrence.wrap, Occurrence.sqlType, Occurrence.base, postgresType,
            PostgresColumn.base, Option.isSome_none, Option.getD_none]
          cases resolveType py enumTypes config _ _ <;> rfl
      | some element =>
          simp only [Occurrence.wrap, Occurrence.sqlType, Occurrence.base, postgresType,
            PostgresColumn.base, Option.isSome_some, Option.getD_some, resolveType, if_true]
          cases resolveType py enumTypes config _ _ <;> rfl

/-- The entry for an enum or a domain, when the qualified one is looked up alone. -/
theorem mapped_uniform_iff {identity : TypeIdentity} {configured bare : Option TypeMapping}
    (choice : configured = (mappingOf config identity <|> bare)) :
    (resolveMappedType identity config =
          resolvedBy (displayIdentity identity)
            (.error (unsupportedType (displayIdentity identity))) configured ∧
        ∀ wrapper, configured = some (.wrapper wrapper) →
          (mappingOf config identity).bind TypeMapping.asWrapper = some wrapper) ↔
      (mappingOf config identity ≠ none ∨ configured = none) := by
  rw [resolveMappedType, choice]
  cases mappingOf config identity with
  | some mapping => simp [resolvedBy, TypeMapping.asWrapper_eq_some]
  | none =>
      cases bare with
      | none => simp [resolvedBy]
      | some mapping => simp [resolvedBy, (applyMapping_ne_unsupported _ _ mapping).symm]

/-- The entry for any other type, when another one may be looked up. -/
theorem builtin_uniform_iff {name : String} {dialect : CodegenDialect}
    {configured : Option TypeMapping} :
    (resolveBuiltin py name config dialect =
          resolvedBy (py.repr name) (resolveUnmapped py name dialect) configured ∧
        ∀ wrapper, configured = some (.wrapper wrapper) →
          (mappingOf config ⟨none, py.lower name⟩).bind TypeMapping.asWrapper = some wrapper) ↔
      EntriesAgree dialect (py.lower name) configured
        (mappingOf config ⟨none, py.lower name⟩) := by
  rw [resolveBuiltin]
  cases configured with
  | none =>
      cases mappingOf config ⟨none, py.lower name⟩ with
      | none => simp [EntriesAgree, resolvedBy]
      | some found => simp [EntriesAgree, resolvedBy, applyMapping_eq_unmapped]
  | some wanted =>
      cases mappingOf config ⟨none, py.lower name⟩ with
      | none =>
          simp only [resolvedBy, Option.bind_none, EntriesAgree, Option.some.injEq, reduceCtorEq,
            imp_false]
          rw [eq_comm, applyMapping_eq_unmapped]
          cases wanted <;> simp [TypeMapping.Redundant]
      | some found =>
          simp only [resolvedBy, Option.bind_some, EntriesAgree, Option.some.injEq,
            TypeMapping.asWrapper_eq_some]
          constructor
          · rintro ⟨same, declared⟩
            refine applyMapping_inj same.symm fun wrapper isWrapper twin isTwin => ?_
            rw [declared wrapper isWrapper] at isTwin
            exact (TypeMapping.wrapper.inj isTwin).symm
          · rintro rfl
            exact ⟨rfl, fun _ isWrapper => isWrapper⟩

theorem mappingIdentity_sqlType (occurrence : Occurrence) :
    mappingIdentity py occurrence.sqlType = mappingIdentity py occurrence.base := by
  cases occurrence with
  | sqlite declared => rfl
  | postgres row =>
      rcases postgresType_eq row with plain | array
      · exact congrArg (mappingIdentity py) plain
      · exact (congrArg (mappingIdentity py) array).trans rfl

theorem collected_eq_some {occurrence : Occurrence} {wrapper : GeneratedWrapper} :
    occurrence.collected py config = some wrapper ↔
      mappingOf config (mappingIdentity py occurrence.base) = some (.wrapper wrapper) := by
  rw [Occurrence.collected, mappingIdentity_sqlType]
  simp [Option.bind_eq_some_iff, TypeMapping.asWrapper_eq_some]

/-- What `Uniform` says, of the type that decides. -/
theorem uniform_base_iff (occurrence : Occurrence) :
    Uniform py enumTypes config occurrence ↔
      resolveType py enumTypes config occurrence.dialect occurrence.base =
          expectedBase py enumTypes config occurrence ∧
        ∀ wrapper, occurrence.configured py config = some (.wrapper wrapper) →
          (mappingOf config (mappingIdentity py occurrence.base)).bind TypeMapping.asWrapper =
            some wrapper := by
  rw [← mappingIdentity_sqlType]
  constructor
  · rintro ⟨resolved, declared⟩
    rw [resolveType_sqlType, wrap_map_inj] at resolved
    exact ⟨resolved, declared⟩
  · rintro ⟨resolved, declared⟩
    refine ⟨?_, declared⟩
    rw [resolveType_sqlType, resolved]

/-- An occurrence is resolved by the entry configured for it exactly when the one key it is looked
up under leads there. -/
theorem uniform_iff (occurrence : Occurrence) :
    Uniform py enumTypes config occurrence ↔ Honoured py enumTypes config occurrence := by
  rw [uniform_base_iff, expectedBase]
  cases occurrence with
  | sqlite declared =>
      rw [Honoured, Occurrence.base, resolveType, resolveType]
      exact builtin_uniform_iff py config
  | postgres row =>
      simp only [Occurrence.base, Honoured, postgresNamedOrBuiltin, Occurrence.dialect]
      split_ifs with isEnum isDomain
      · cases declared : enumTypes.lookup ⟨some row.base.schema, row.base.name⟩ with
        | some name =>
            simp only [resolveType, declared, Option.isSome_some, if_true]
            cases (Occurrence.postgres row).configured py config with
            | none => simp [resolvedBy]
            | some mapping => simp [resolvedBy, (applyMapping_ne_enum _ name mapping).symm]
        | none =>
            simp only [resolveType, declared, Option.isSome_none, Bool.false_eq_true, if_false]
            exact mapped_uniform_iff config rfl
      · exact mapped_uniform_iff config rfl
      · exact builtin_uniform_iff py config

/-! ### Wrapper definitions -/

structure IntrospectedColumn where
  name : String
  type : Occurrence
  nullable : Bool
deriving DecidableEq, Repr

structure IntrospectedTable where
  name : String
  columns : List IntrospectedColumn
deriving DecidableEq, Repr

/-- The normalised table. -/
def IntrospectedTable.table (table : IntrospectedTable) : SchemaTable where
  name := table.name
  columns := table.columns.map fun column => ⟨column.name, column.type.sqlType, column.nullable⟩

/-- Every occurrence of a type in the columns of a schema. -/
def occurrences (schema : List IntrospectedTable) : List Occurrence :=
  schema.flatMap fun table => table.columns.map (·.type)

/-- The type of a column, or of its elements, is the wrapper type of this name. -/
def UsesWrapper (occurrence : Occurrence) (name : String) : Prop :=
  ∃ wrapper : GeneratedWrapper, wrapper.name = name ∧
    resolveType py enumTypes config occurrence.dialect occurrence.base =
      .ok (wrapperResolved wrapper)

/-- A module declares the wrapper types that its columns use, and no other. -/
def EmittedWhenUsed (schema : List IntrospectedTable) : Prop :=
  ∀ policies, usedWrapperPolicies py (schema.map (·.table)) config = .ok policies →
    ∀ name, (∃ wrapper ∈ policies, wrapper.name = name) ↔
      ∃ occurrence ∈ occurrences schema, UsesWrapper py enumTypes config occurrence name

/-- An enum that the module declares itself. -/
def DeclaredEnum (occurrence : Occurrence) (identity : TypeIdentity) : Prop :=
  occurrence.base = .named .enum identity ∧ (enumTypes.lookup identity).isSome = true

/-- No wrapper is configured for an enum that the module declares, unless a domain of the same
qualified name uses it. -/
def NoWrappedEnum (schema : List IntrospectedTable) : Prop :=
  ∀ occurrence ∈ occurrences schema, ∀ identity, DeclaredEnum enumTypes occurrence identity →
    ∀ wrapper, mappingOf config identity = some (.wrapper wrapper) →
      ∃ domain ∈ occurrences schema, domain.base = .named .domain identity

/-- Of distinct results each comes from one item. -/
theorem filterMap_nodup_inj {α β : Type} {f : α → Option β} {items : List α}
    (distinct : (items.filterMap f).Nodup) {first second : α} {result : β}
    (member : first ∈ items) (other : second ∈ items) (left : f first = some result)
    (right : f second = some result) : first = second := by
  induction items with
  | nil => cases member
  | cons head tail ih =>
      rw [List.filterMap_cons] at distinct
      have absent : ∀ {item}, f head = some result → item ∈ tail → f item ≠ some result := by
        intro item found later same
        rw [found] at distinct
        exact (List.nodup_cons.mp distinct).1 (List.mem_filterMap.mpr ⟨item, later, same⟩)
      have below : (tail.filterMap f).Nodup := by
        cases found : f head with
        | none => rwa [found] at distinct
        | some value =>
            rw [found] at distinct
            exact (List.nodup_cons.mp distinct).2
      rcases List.mem_cons.mp member with rfl | later
      · rcases List.mem_cons.mp other with rfl | later
        · rfl
        · exact absurd right (absent left later)
      · rcases List.mem_cons.mp other with rfl | later'
        · exact absurd left (absent right later)
        · exact ih below later later'

theorem mem_used {schema : List IntrospectedTable} {identity : TypeIdentity} :
    (identity ∈ (schema.map (·.table)).flatMap fun table =>
        table.columns.map (mappingIdentity py ·.sqlType)) ↔
      ∃ occurrence ∈ occurrences schema, mappingIdentity py occurrence.base = identity := by
  simp only [occurrences, List.mem_flatMap, List.mem_map, IntrospectedTable.table]
  constructor
  · rintro ⟨_, ⟨table, member, rfl⟩, column, found, rfl⟩
    obtain ⟨introspected, inTable, rfl⟩ := List.mem_map.mp found
    exact ⟨introspected.type, ⟨table, member, introspected, inTable, rfl⟩,
      (mappingIdentity_sqlType py introspected.type).symm⟩
  · rintro ⟨_, ⟨table, member, introspected, inTable, rfl⟩, rfl⟩
    exact ⟨_, ⟨table, member, rfl⟩, _, List.mem_map.mpr ⟨introspected, inTable, rfl⟩,
      mappingIdentity_sqlType py introspected.type⟩

theorem mem_usedWrappers {schema : List IntrospectedTable} {config : CodegenConfig}
    {wrapper : GeneratedWrapper} :
    wrapper ∈ usedWrappers py (schema.map (·.table)) config ↔
      ∃ occurrence ∈ occurrences schema, occurrence.collected py (some config) = some wrapper := by
  simp only [collected_eq_some]
  change wrapper ∈ config.typeMappings.filterMap (wrapperOf _) ↔ _
  simp only [List.mem_filterMap, wrapperOf_eq_some, mem_used, mappingOf_some]
  constructor
  · rintro ⟨⟨_, _⟩, member, rfl, occurrence, occurs, rfl⟩
    exact ⟨occurrence, occurs, member⟩
  · rintro ⟨occurrence, occurs, member⟩
    exact ⟨_, member, rfl, occurrence, occurs, rfl⟩

/-- The names of used wrappers tell their types apart. -/
theorem usedWrappers_name_inj {schema : List IntrospectedTable} {config : CodegenConfig}
    (distinct : ((usedWrappers py (schema.map (·.table)) config).map (·.name)).Nodup)
    {first second : Occurrence} (occurs : first ∈ occurrences schema)
    (occurs' : second ∈ occurrences schema) {wrapper twin : GeneratedWrapper}
    (found : mappingOf (some config) (mappingIdentity py first.base) = some (.wrapper wrapper))
    (found' : mappingOf (some config) (mappingIdentity py second.base) = some (.wrapper twin))
    (same : wrapper.name = twin.name) :
    mappingIdentity py first.base = mappingIdentity py second.base := by
  change ((config.typeMappings.filterMap (wrapperOf _)).map (·.name)).Nodup at distinct
  rw [List.map_filterMap] at distinct
  have picked : ∀ {occurrence wrapper}, occurrence ∈ occurrences schema →
      mappingOf (some config) (mappingIdentity py occurrence.base) = some (.wrapper wrapper) →
      (wrapperOf ((schema.map (·.table)).flatMap fun table =>
          table.columns.map (mappingIdentity py ·.sqlType))
        (mappingIdentity py occurrence.base, .wrapper wrapper)).map (·.name) = some wrapper.name := by
    intro occurrence wrapper occurs _
    rw [wrapperOf_eq_some.mpr ⟨rfl, (mem_used py).mpr ⟨occurrence, occurs, rfl⟩⟩]
    rfl
  have entries := filterMap_nodup_inj distinct (mappingOf_some.mp found) (mappingOf_some.mp found')
    (picked occurs found) (same ▸ picked occurs' found')
  exact congrArg Prod.fst entries

/-- Only a wrapper entry makes a wrapper type, one of its own name. -/
theorem applyMapping_wrapper_iff {shown name : String} {mapping : TypeMapping} :
    (∃ wrapper : GeneratedWrapper, wrapper.name = name ∧
        applyMapping shown mapping = .ok (wrapperResolved wrapper)) ↔
      ∃ wrapper : GeneratedWrapper, wrapper.name = name ∧ mapping = .wrapper wrapper := by
  constructor
  · rintro ⟨wrapper, named, applied⟩
    cases mapping with
    | direct mapping =>
        exact absurd (Except.ok.inj applied) (directResolved_ne_wrapperResolved mapping wrapper)
    | wrapper mapping =>
        exact ⟨mapping, (wrapperResolved_name (Except.ok.inj applied)).trans named, rfl⟩
    | rejected reason => cases applied
  · rintro ⟨wrapper, named, rfl⟩
    exact ⟨wrapper, named, rfl⟩

theorem resolveMappedType_wrapper_iff {identity : TypeIdentity} {name : String} :
    (∃ wrapper : GeneratedWrapper, wrapper.name = name ∧
        resolveMappedType identity config = .ok (wrapperResolved wrapper)) ↔
      ∃ wrapper : GeneratedWrapper, wrapper.name = name ∧
        mappingOf config identity = some (.wrapper wrapper) := by
  rw [resolveMappedType]
  cases mappingOf config identity with
  | none => simp
  | some mapping => simp only [applyMapping_wrapper_iff, Option.some.injEq]

theorem resolveBuiltin_wrapper_iff {dialect : CodegenDialect} {type name : String} :
    (∃ wrapper : GeneratedWrapper, wrapper.name = name ∧
        resolveBuiltin py type config dialect = .ok (wrapperResolved wrapper)) ↔
      ∃ wrapper : GeneratedWrapper, wrapper.name = name ∧
        mappingOf config ⟨none, py.lower type⟩ = some (.wrapper wrapper) := by
  rw [resolveBuiltin]
  cases mappingOf config ⟨none, py.lower type⟩ with
  | some mapping => simp only [applyMapping_wrapper_iff, Option.some.injEq]
  | none =>
      simp only [reduceCtorEq, and_false, exists_false, iff_false, not_exists, not_and]
      intro wrapper _ resolved
      rw [resolveUnmapped] at resolved
      split_ifs at resolved
      cases known : builtinType dialect (py.lower type) with
      | none => simp [known] at resolved
      | some plain =>
          rw [known] at resolved
          exact wrapperResolved_ne_plain (builtinType_plain known) (Except.ok.inj resolved).symm

theorem Occurrence.base_ne_array (occurrence : Occurrence) (element : SqlType) :
    occurrence.base ≠ .array element := by
  cases occurrence with
  | sqlite => exact fun same => nomatch same
  | postgres row =>
      simp only [Occurrence.base, postgresNamedOrBuiltin]
      split_ifs <;> exact fun same => nomatch same

theorem not_declaredEnum_iff {occurrence : Occurrence} {identity : TypeIdentity}
    (base : occurrence.base = .named .enum identity) :
    (∀ identity, ¬DeclaredEnum enumTypes occurrence identity) ↔
      enumTypes.lookup identity = none := by
  rw [← Option.not_isSome_iff_eq_none]
  constructor
  · intro undeclared declared
    exact undeclared identity ⟨base, declared⟩
  · rintro undeclared _ ⟨same, declared⟩
    rw [base] at same
    cases same
    exact undeclared declared

/-- A type resolves to a wrapper of a name exactly where one is configured under its key, and the
type is not an enum that the module declares. -/
theorem usesWrapper_iff {occurrence : Occurrence} {name : String} :
    UsesWrapper py enumTypes config occurrence name ↔
      (∀ identity, ¬DeclaredEnum enumTypes occurrence identity) ∧
        ∃ wrapper : GeneratedWrapper, wrapper.name = name ∧
          mappingOf config (mappingIdentity py occurrence.base) = some (.wrapper wrapper) := by
  rw [UsesWrapper]
  cases base : occurrence.base with
  | array element => exact absurd base (occurrence.base_ne_array element)
  | builtin type =>
      rw [resolveType, resolveBuiltin_wrapper_iff, mappingIdentity]
      simp [DeclaredEnum, base]
  | named kind identity =>
      cases kind with
      | domain =>
          rw [resolveType, resolveMappedType_wrapper_iff, mappingIdentity]
          simp [DeclaredEnum, base]
      | enum =>
          rw [resolveType, mappingIdentity, not_declaredEnum_iff enumTypes base]
          cases enumTypes.lookup identity with
          | none => simp only [resolveMappedType_wrapper_iff, true_and]
          | some className => simp [enumResolved, wrapperResolved]

/-- PostgreSQL's named types are those of a schema. -/
theorem schema_of_named {occurrence : Occurrence} {kind : NamedKind} {identity : TypeIdentity}
    (base : occurrence.base = .named kind identity) : identity.schema ≠ none := by
  cases occurrence with
  | sqlite => cases base
  | postgres row =>
      simp only [Occurrence.base, postgresNamedOrBuiltin] at base
      split_ifs at base <;> cases base <;> exact fun missing => nomatch missing

/-- A type looked up under the key of a declared enum, but not declared, is a domain. -/
theorem domain_of_undeclared {occurrence user : Occurrence} {identity : TypeIdentity}
    (base : occurrence.base = .named .enum identity)
    (declared : (enumTypes.lookup identity).isSome = true)
    (undeclared : ∀ identity, ¬DeclaredEnum enumTypes user identity)
    (same : identity = mappingIdentity py user.base) : user.base = .named .domain identity := by
  cases base' : user.base with
  | array element => exact absurd base' (user.base_ne_array element)
  | builtin name =>
      rw [base'] at same
      exact absurd (congrArg TypeIdentity.schema same) (schema_of_named base)
  | named kind identity' =>
      rw [base'] at same
      cases same
      cases kind with
      | domain => rfl
      | enum => exact absurd ⟨base', declared⟩ (undeclared _)

/-- A module declares the wrapper types that it uses exactly when none is configured for an enum
that it declares. -/
theorem emittedWhenUsed_iff (schema : List IntrospectedTable) :
    EmittedWhenUsed py enumTypes config schema ↔
      ((∃ policies, usedWrapperPolicies py (schema.map (·.table)) config = .ok policies) →
        NoWrappedEnum enumTypes config schema) := by
  constructor
  · rintro emitted ⟨policies, returned⟩ occurrence occurs identity ⟨base, declared⟩ wrapper found
    have key : mappingOf config (mappingIdentity py occurrence.base) = some (.wrapper wrapper) := by
      rwa [base]
    obtain ⟨config, rfl⟩ : ∃ entries, config = some entries := by
      cases config with
      | none => cases found
      | some entries => exact ⟨entries, rfl⟩
    obtain ⟨members, distinct⟩ := usedWrapperPolicies_ok py returned
    obtain ⟨user, occurs', uses⟩ := (emitted policies returned wrapper.name).mp
      ⟨wrapper, members.mpr ((mem_usedWrappers py).mpr ⟨occurrence, occurs, (collected_eq_some py _).mpr key⟩), rfl⟩
    obtain ⟨undeclared, twin, named, found'⟩ := (usesWrapper_iff py enumTypes _).mp uses
    have same := usedWrappers_name_inj py distinct occurs occurs' key found' named.symm
    rw [base] at same
    exact ⟨user, occurs', domain_of_undeclared py enumTypes base declared undeclared same⟩
  · intro unwrapped policies returned name
    cases config with
    | none =>
        cases returned
        simp [usesWrapper_iff, mappingOf]
    | some config =>
        obtain ⟨members, _⟩ := usedWrapperPolicies_ok py returned
        simp only [members, mem_usedWrappers, collected_eq_some, usesWrapper_iff]
        constructor
        · rintro ⟨wrapper, ⟨occurrence, occurs, found⟩, named⟩
          by_cases declared : ∃ identity, DeclaredEnum enumTypes occurrence identity
          · obtain ⟨identity, isEnum⟩ := declared
            rw [isEnum.1] at found
            obtain ⟨domain, occurs', base⟩ :=
              unwrapped ⟨policies, returned⟩ occurrence occurs identity isEnum wrapper found
            refine ⟨domain, occurs', fun other isEnum' => ?_, wrapper, named, ?_⟩
            · rw [DeclaredEnum, base] at isEnum'
              cases isEnum'.1
            · rwa [base]
          · exact ⟨occurrence, occurs, not_exists.mp declared, wrapper, named, found⟩
        · rintro ⟨occurrence, occurs, _, wrapper, named, found⟩
          exact ⟨wrapper, ⟨occurrence, occurs, found⟩, named⟩

/-- Mappings are looked up uniformly, and wrappers declared where they are used, exactly when every
occurrence is looked up under a key that leads to its entry, and no enum that the module declares
has a wrapper configured. -/
theorem mappingsUniform_iff (schema : List IntrospectedTable) :
    ((∀ occurrence ∈ occurrences schema, Uniform py enumTypes config occurrence) ∧
        EmittedWhenUsed py enumTypes config schema) ↔
      (∀ occurrence ∈ occurrences schema, Honoured py enumTypes config occurrence) ∧
        ((∃ policies, usedWrapperPolicies py (schema.map (·.table)) config = .ok policies) →
          NoWrappedEnum enumTypes config schema) := by
  simp only [uniform_iff, emittedWhenUsed_iff]

/-! ### A domain under its bare name -/

/-- The entry `[types.tenant_id]` with `python = "int"` and `decoder = "int"`. -/
def bareTenantConfig : CodegenConfig :=
  ⟨[(⟨none, "tenant_id"⟩, .direct ⟨.name "int" [], .int⟩)], by decide⟩

/-- A table with one column of the domain `public.tenant_id`. -/
def tenantSchema : List IntrospectedTable :=
  [⟨"accounts", [⟨"tenant", .postgres ⟨⟨"d", "public", "tenant_id"⟩, none⟩, false⟩]⟩]

theorem tenantDomain_not_uniform :
    identityOfKey Strings.ofAscii "tenant_id" = .ok ⟨none, "tenant_id"⟩ ∧
      ¬((∀ occurrence ∈ occurrences tenantSchema,
          Uniform Strings.ofAscii [] (some bareTenantConfig) occurrence) ∧
        EmittedWhenUsed Strings.ofAscii [] (some bareTenantConfig) tenantSchema) := by
  have lowered : Strings.ofAscii.lower "tenant_id" = "tenant_id" := by decide +kernel
  refine ⟨?_, fun uniform => ?_⟩
  · rw [identityOfKey_bare _ (by decide), lowered]
  · have honoured := (uniform_iff _ _ _ _).mp (uniform.1 _ (List.mem_singleton.mpr rfl))
    rcases honoured with qualified | bare
    · exact qualified rfl
    · simp only [Occurrence.configured, PostgresColumn.base, Option.getD_none] at bare
      cases bare

end Relq.Codegen
