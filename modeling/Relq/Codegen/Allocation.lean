/-
Module: Relq.Codegen.Allocation
Layer: Codegen
Purpose: The plan never hands out a name twice. Each allocation takes a family of names that was free
  as a whole, so the declared names stay distinct and apart from the reserved ones; and the reserved
  names cover every import that a module can carry.
Imports: Relq.Library.Fresh, Relq.Library.Outcome, Relq.Codegen.Names
Trusted boundary: none
Main exports: allocateEach_allocated, planTables_allocated, importBlock_covered, plan_distinct
-/
import Relq.Library.Fresh
import Relq.Library.Outcome
import Relq.Codegen.Names

namespace Relq.Codegen

open Python Fresh

/-! ### Families -/

/-- No template makes another's name of the same candidate. -/
def ApartTemplates (templates : List Template) : Prop :=
  ∀ candidate, (family templates candidate).Nodup

theorem apart_singleton : ApartTemplates [{}] :=
  fun _ => List.nodup_singleton _

/-- Texts of different lengths differ, whatever the candidate is. -/
theorem ne_of_length_ne {first second : String}
    (differ : first.toList.length ≠ second.toList.length) : ¬first = second :=
  fun same => differ (congrArg (·.toList.length) same)

theorem apart_classTemplates : ApartTemplates classTemplates := by
  intro candidate
  simp only [family, classTemplates, List.map_cons, List.map_nil, Template.format, String.empty_append,
    String.append_empty, List.nodup_cons, List.mem_cons, List.not_mem_nil, or_false, not_or,
    not_false_eq_true, and_true, List.nodup_nil]
  refine ⟨⟨?_, ?_, ?_⟩, ⟨?_, ?_⟩, ?_⟩
  · exact ne_of_length_ne (by simp [String.toList_append])
  · exact ne_of_length_ne (by simp [String.toList_append])
  · exact ne_of_length_ne (by simp [String.toList_append])
  · exact fun same => absurd ((String.append_right_inj candidate).mp same) (by decide)
  · exact ne_of_length_ne (by simp [String.toList_append])
  · exact ne_of_length_ne (by simp [String.toList_append])

theorem apart_instanceTemplates : ApartTemplates instanceTemplates := by
  intro candidate
  simp only [family, instanceTemplates, List.map_cons, List.map_nil, Template.format,
    String.empty_append, String.append_empty, List.nodup_cons, List.mem_cons, List.not_mem_nil,
    or_false, not_or, not_false_eq_true, and_true, List.nodup_nil]
  refine ⟨⟨?_, ?_, ?_, ?_⟩, ⟨?_, ?_, ?_⟩, ⟨?_, ?_⟩, ?_⟩
  · exact ne_of_length_ne (by simp [String.toList_append]; omega)
  · exact ne_of_length_ne (by simp [String.toList_append]; omega)
  · exact ne_of_length_ne (by simp [String.toList_append]; omega)
  · exact ne_of_length_ne (by simp [String.toList_append])
  · exact ne_of_length_ne (by simp [String.toList_append])
  · exact fun same => absurd ((String.append_left_inj candidate).mp same) (by decide)
  · exact ne_of_length_ne (by simp [String.toList_append])
  · exact ne_of_length_ne (by simp [String.toList_append])
  · -- both are as long, but the last characters differ
    intro same
    have last := congrArg (fun text : String => text.toList.reverse.head?) same
    simp [String.toList_append] at last
  · exact ne_of_length_ne (by simp [String.toList_append])

/-! ### Allocations keep the books -/

variable {reserved taken declared : List String}

theorem Allocated.allocate (allocated : Allocated reserved taken declared)
    {templates : List Template} (apart : ApartTemplates templates) (stem : String) :
    Allocated reserved (Codegen.allocate stem templates taken).2
      (declared ++ family templates (Codegen.allocate stem templates taken).1) :=
  allocated.extend (apart _) (allocate_free stem templates taken)

/-- Names of one kind with their families. -/
theorem allocateEach_allocated {templates : List Template} (apart : ApartTemplates templates)
    (stems : List String) (allocated : Allocated reserved taken declared) :
    Allocated reserved (allocateEach templates stems taken).2
      (declared ++ (allocateEach templates stems taken).1.flatMap (family templates)) := by
  induction stems generalizing taken declared with
  | nil => simpa [allocateEach] using allocated
  | cons stem rest ih =>
      have next := ih (Allocated.allocate allocated apart stem)
      rw [List.append_assoc] at next
      exact next

theorem allocateEach_length (templates : List Template) (stems taken : List String) :
    (allocateEach templates stems taken).1.length = stems.length := by
  induction stems generalizing taken with
  | nil => rfl
  | cons stem rest ih => exact congrArg (· + 1) (ih _)

theorem flatMap_singleton_family (names : List String) : names.flatMap (family [{}]) = names := by
  induction names with
  | nil => rfl
  | cons name rest ih =>
      rw [List.flatMap_cons, ih]
      simp [family, Template.format]

theorem takeWrappers_allocated {policies : List GeneratedWrapper} {names after : List String}
    (took : takeWrappers policies taken = .ok (names, after))
    (allocated : Allocated reserved taken declared) :
    Allocated reserved after (declared ++ names) := by
  induction policies generalizing taken declared names with
  | nil =>
      cases took
      simpa using allocated
  | cons policy rest ih =>
      rw [takeWrappers] at took
      split_ifs at took with isTaken
      cases later : takeWrappers rest (taken ++ [policy.name]) with
      | error error =>
          rw [later] at took
          cases took
      | ok result =>
          obtain ⟨others, final⟩ := result
          rw [later] at took
          cases took
          have here : Allocated reserved (taken ++ [policy.name]) (declared ++ [policy.name]) :=
            allocated.extend (List.nodup_singleton _) (by simpa using isTaken)
          simpa using ih later here

/-! ### Tables -/

/-- The names of a table are the two families it was given. -/
theorem TableNames.perm_families (names : TableNames) :
    (names.className :: names.exported).Perm
      (family classTemplates names.className ++ family instanceTemplates names.instanceName) := by
  simp only [family, classTemplates, instanceTemplates, List.map_cons, List.map_nil, Template.format,
    String.empty_append, String.append_empty, TableNames.exported, TableNames.insertPayload,
    TableNames.updatePayload, TableNames.row, TableNames.insertFunction, TableNames.updateFunction,
    TableNames.rowAdapter]
  refine List.Perm.cons _ (List.Perm.symm ?_)
  refine (@List.perm_middle _ names.instanceName [_, _, _] [_, _, _, _]).trans (List.Perm.cons _ ?_)
  refine List.Perm.cons _ (List.Perm.cons _ ?_)
  exact (@List.perm_middle _ (names.className ++ "Row") [_, _, _] [_]).symm

theorem planTable_allocated (py : Strings) (guarded : List String) (table : SchemaTable)
    (allocated : Allocated reserved taken declared) :
    Allocated reserved (planTable py guarded table taken).2
      (declared ++ ((planTable py guarded table taken).1.className ::
        (planTable py guarded table taken).1.exported)) := by
  have both := Allocated.allocate (Allocated.allocate allocated apart_classTemplates
    (classStem table.name)) apart_instanceTemplates (identifier py table.name)
  rw [List.append_assoc] at both
  exact both.perm ((TableNames.perm_families _).append_left declared)

theorem planTables_allocated (py : Strings) (guarded : List String) (tables : List SchemaTable)
    (allocated : Allocated reserved taken declared) :
    Allocated reserved (planTables py guarded tables taken).2
      (declared ++ (planTables py guarded tables taken).1.flatMap fun names =>
        names.className :: names.exported) := by
  induction tables generalizing taken declared with
  | nil => simpa [planTables] using allocated
  | cons table rest ih =>
      have next := ih (planTable_allocated py guarded table allocated)
      rw [List.append_assoc] at next
      exact next

/-- The attributes of a table are distinct and apart from the guarded names. -/
theorem planTable_columns (py : Strings) (guarded : List String) (table : SchemaTable)
    (taken : List String) :
    (planTable py guarded table taken).1.columns.Nodup ∧
      ∀ attr ∈ (planTable py guarded table taken).1.columns, attr ∉ guarded := by
  have columns := allocateEach_allocated apart_singleton
    (table.columns.map fun field => identifier py field.name) (Allocated.nil guarded)
  rw [flatMap_singleton_family, List.nil_append] at columns
  exact ⟨columns.distinct, columns.apart⟩

theorem planTables_columns (py : Strings) (guarded : List String) (tables : List SchemaTable)
    (taken : List String) :
    ∀ names ∈ (planTables py guarded tables taken).1,
      names.columns.Nodup ∧ ∀ attr ∈ names.columns, attr ∉ guarded := by
  induction tables generalizing taken with
  | nil => exact fun _ member => nomatch member
  | cons table rest ih =>
      intro names member
      rcases List.mem_cons.mp member with rfl | later
      · exact planTable_columns py guarded table taken
      · exact ih _ names later

/-- Every table has its names, and every column its attribute. -/
theorem planTables_complete (py : Strings) (guarded : List String) (tables : List SchemaTable)
    (taken : List String) :
    List.Forall₂ (fun (table : SchemaTable) (names : TableNames) =>
      names.columns.length = table.columns.length) tables (planTables py guarded tables taken).1 := by
  induction tables generalizing taken with
  | nil => exact .nil
  | cons table rest ih =>
      refine .cons ?_ (ih _)
      exact (allocateEach_length _ _ _).trans (List.length_map _)

/-! ### The plan -/

/-- What a successful plan consists of. -/
theorem plan_ok {py : Strings} {tables : List SchemaTable} {enums : List SchemaEnum}
    {config : Option CodegenConfig} {names : Namespace}
    (planned : plan py tables enums config = .ok names) :
    names.reserved = reservedFor config ∧
      ∃ taken, names.tables = (planTables py names.guarded tables taken).1 ∧
        Allocated (reservedFor config) taken (names.enums.map (·.2) ++ names.wrappers) := by
  have enumsAllocated := allocateEach_allocated apart_singleton ((enumStems enums).map (·.2))
    (Allocated.nil (reservedFor config))
  have enumsCounted := allocateEach_length [{}] ((enumStems enums).map (·.2)) (reservedFor config)
  rw [flatMap_singleton_family, List.nil_append] at enumsAllocated
  simp only [plan, Outcome.bind_eq_ok, Outcome.pure_eq_ok, Prod.exists] at planned
  obtain ⟨policies, _, wrappers, final, took, rfl⟩ := planned
  refine ⟨rfl, final, rfl, ?_⟩
  rw [List.map_snd_zip (by rw [enumsCounted, List.length_map, List.length_map])]
  exact takeWrappers_allocated took enumsAllocated

/-! ### The import block binds reserved names -/

/-- An import that binds reserved names only. -/
def Covered (reserved : List String) (dependency : Import) : Prop :=
  ∀ name ∈ dependency.boundNames, name ∈ reserved

variable (config : Option CodegenConfig)

theorem reservedNames_subset {name : String} (known : name ∈ reservedNames) :
    name ∈ reservedFor config := by
  cases config with
  | none => exact known
  | some config => exact List.mem_append_left _ known

theorem covered_of_names {dependency : Import}
    (known : ∀ name ∈ dependency.boundNames, name ∈ reservedNames) :
    Covered (reservedFor config) dependency :=
  fun name bound => reservedNames_subset config (known name bound)

theorem modules_covered {dependencies : List Import}
    (known : ∀ dependency ∈ dependencies, ∀ name ∈ dependency.boundNames, name ∈ reservedNames) :
    ∀ dependency ∈ dependencies, Covered (reservedFor config) dependency :=
  fun dependency member => covered_of_names config (known dependency member)

theorem covered_mapping {dependency : Import} (declared : dependency ∈ mappingImports) :
    Covered (reservedFor config) dependency := by
  refine covered_of_names config fun name bound => ?_
  simp only [reservedNames, List.mem_append, List.mem_flatMap]
  exact .inl (.inl ⟨dependency, .inr declared, bound⟩)

theorem relqName_covered {name : String} (declared : name ∈ relqNames) :
    ∀ dependency ∈ (relqName name declared).imports, Covered (reservedFor config) dependency := by
  intro dependency member
  rw [relqName, RenderExpression.imports, List.mem_singleton] at member
  refine covered_mapping config (List.mem_append_left _ (List.mem_map.mpr ⟨name, declared, ?_⟩))
  exact member.symm

theorem decoderCall_covered {name : String} (declared : name ∈ relqNames) :
    ∀ dependency ∈ (decoderCall name declared).imports, Covered (reservedFor config) dependency := by
  intro dependency member
  rw [decoderCall, RenderExpression.imports, RenderExpression.importsAll, List.append_nil] at member
  exact relqName_covered config declared dependency member

theorem plainAnnotation_covered { annotation : RenderExpression}
    (plain : PlainAnnotation annotation) :
    ∀ dependency ∈ annotation.imports, Covered (reservedFor config) dependency := by
  cases plain with
  | builtin known => exact fun _ member => nomatch member
  | relq declared => exact relqName_covered config declared
  | @stdlib module name declared =>
      intro dependency member
      rw [stdlibAttribute, RenderExpression.imports, RenderExpression.imports,
        List.mem_singleton] at member
      refine covered_mapping config (List.mem_append_right _ (List.mem_map.mpr ⟨module, declared, ?_⟩))
      exact member.symm

theorem plain_covered {resolved : ResolvedType} (plain : resolved.Plain) :
    ∀ dependency ∈ resolved.imports, Covered (reservedFor config) dependency := by
  obtain ⟨name, declared, decoder⟩ := plain.decoder
  intro dependency member
  rw [ResolvedType.imports, decoder] at member
  rcases List.mem_append.mp member with inAnnotation | inDecoder
  · exact plainAnnotation_covered config plain.annotation dependency inAnnotation
  · exact decoderCall_covered config declared dependency inDecoder

/-- The annotation of an entry is reserved with the configuration. -/
theorem entry_reserved {identity : TypeIdentity} {mapping : TypeMapping} {name : String}
    (found : mappingOf config identity = some mapping) (reserves : name ∈ mapping.reserves) :
    name ∈ reservedFor config := by
  obtain ⟨entries, rfl, looked⟩ := Option.bind_eq_some_iff.mp found
  obtain ⟨before, after, split, _⟩ := List.lookup_eq_some_iff.mp looked
  refine List.mem_append_right _ (List.mem_flatMap.mpr ⟨(identity, mapping), ?_, reserves⟩)
  rw [split]
  simp

theorem annotation_covered { annotation : RenderExpression}
    (reserves : ∀ name ∈ annotation.reserves, name ∈ reservedFor config) :
    ∀ dependency ∈ annotation.imports, Covered (reservedFor config) dependency := by
  intro dependency member name bound
  exact reserves name (List.mem_append_right _ (List.mem_flatMap.mpr ⟨dependency, member, bound⟩))

theorem decoderForDirectType_covered (mapping : DirectType) :
    ∀ dependency ∈ (decoderForDirectType mapping).imports, Covered (reservedFor config) dependency :=
  decoderCall_covered config (decoder_declared mapping.decoder)

theorem applyMapping_covered {identity : TypeIdentity} {mapping : TypeMapping} {shown : String}
    {resolved : ResolvedType} (found : mappingOf config identity = some mapping)
    (applied : applyMapping shown mapping = .ok resolved) :
    ∀ dependency ∈ resolved.imports, Covered (reservedFor config) dependency := by
  cases mapping with
  | direct mapping =>
      cases applied
      intro dependency member
      rcases List.mem_append.mp member with inAnnotation | inDecoder
      · exact annotation_covered config (fun _ => entry_reserved config found) dependency inAnnotation
      · exact decoderForDirectType_covered config mapping dependency inDecoder
  | wrapper mapping =>
      cases applied
      intro dependency member
      rcases List.mem_append.mp member with inAnnotation | inDecoder
      · cases inAnnotation
      · rcases List.mem_append.mp inDecoder with inName | inArguments
        · exact relqName_covered config (by decide) dependency inName
        · simp only [RenderExpression.importsAll, RenderExpression.imports, List.nil_append,
            List.append_nil] at inArguments
          exact decoderForDirectType_covered config mapping.base dependency inArguments
  | rejected reason => cases applied

theorem resolveMappedType_covered {identity : TypeIdentity} {resolved : ResolvedType}
    (result : resolveMappedType identity config = .ok resolved) :
    ∀ dependency ∈ resolved.imports, Covered (reservedFor config) dependency := by
  rw [resolveMappedType] at result
  cases found : mappingOf config identity with
  | none =>
      rw [found] at result
      cases result
  | some mapping =>
      rw [found] at result
      exact applyMapping_covered config found result

theorem resolveBuiltin_covered {py : Strings} {name : String} {dialect : CodegenDialect}
    {resolved : ResolvedType} (result : resolveBuiltin py name config dialect = .ok resolved) :
    ∀ dependency ∈ resolved.imports, Covered (reservedFor config) dependency := by
  rw [resolveBuiltin] at result
  cases found : mappingOf config ⟨none, py.lower name⟩ with
  | some mapping =>
      rw [found] at result
      exact applyMapping_covered config found result
  | none =>
      rw [found] at result
      simp only [resolveUnmapped] at result
      split_ifs at result
      cases known : builtinType dialect (py.lower name) with
      | none => simp [known] at result
      | some plain =>
          rw [known] at result
          cases result
          exact plain_covered config (builtinType_plain known)

theorem resolveType_covered {py : Strings} {enumTypes : List (TypeIdentity × String)}
    {dialect : CodegenDialect} {sqlType : SqlType} {resolved : ResolvedType}
    (result : resolveType py enumTypes config dialect sqlType = .ok resolved) :
    ∀ dependency ∈ resolved.imports, Covered (reservedFor config) dependency := by
  induction sqlType generalizing resolved with
  | builtin name => exact resolveBuiltin_covered config result
  | named kind identity =>
      cases kind with
      | domain => exact resolveMappedType_covered config result
      | enum =>
          rw [resolveType] at result
          cases declared : enumTypes.lookup identity with
          | none =>
              rw [declared] at result
              exact resolveMappedType_covered config result
          | some name =>
              rw [declared] at result
              cases result
              intro dependency member
              simp only [ResolvedType.imports, enumResolved, RenderExpression.imports,
                RenderExpression.importsAll, Option.elim, List.nil_append, List.append_nil] at member
              exact relqName_covered config (by decide) dependency member
  | array element ih =>
      simp only [resolveType, Outcome.bind_eq_ok, Outcome.pure_eq_ok] at result
      obtain ⟨elementType, resolvedElement, rfl⟩ := result
      intro dependency member
      have inElement := ih resolvedElement dependency
      simp only [ResolvedType.imports, listResolved, RenderExpression.imports,
        RenderExpression.importsAll, List.nil_append, List.append_nil, List.mem_append] at member inElement
      rcases member with inAnnotation | inDecoder
      · exact inElement (.inl inAnnotation)
      · cases decoder : elementType.decoder with
        | none => simp [decoder] at inDecoder
        | some call =>
            simp only [decoder, Option.map_some, Option.elim, RenderExpression.imports,
              RenderExpression.importsAll, List.append_nil, List.mem_append] at inDecoder
            rcases inDecoder with inName | inCall
            · exact relqName_covered config (by decide) dependency inName
            · exact inElement (.inr (by simpa [decoder] using inCall))

theorem rowDecoder_covered {field : SchemaColumn} {resolved : ResolvedType}
    (covered : ∀ dependency ∈ resolved.imports, Covered (reservedFor config) dependency) :
    ∀ dependency ∈ (rowDecoder field resolved).elim [] (·.imports),
      Covered (reservedFor config) dependency := by
  intro dependency member
  cases decoder : resolved.decoder with
  | none => simp [rowDecoder, decoder] at member
  | some call =>
      have inCall : dependency ∈ call.imports → Covered (reservedFor config) dependency :=
        fun inside => covered dependency
          (List.mem_append_right _ (by simpa [decoder] using inside))
      rw [rowDecoder, decoder, Option.map_some, Option.elim_some] at member
      split_ifs at member
      · rcases List.mem_append.mp member with inName | inArguments
        · exact relqName_covered config (by decide) dependency inName
        · exact inCall (by simpa [RenderExpression.importsAll] using inArguments)
      · exact inCall member

theorem columnImports_covered {py : Strings} {enumTypes : List (TypeIdentity × String)}
    {dialect : CodegenDialect} {fields : List SchemaColumn} {imports : List Import}
    (collected : columnImports py enumTypes config dialect fields = .ok imports) :
    ∀ dependency ∈ imports, Covered (reservedFor config) dependency := by
  induction fields generalizing imports with
  | nil =>
      cases collected
      exact fun _ member => nomatch member
  | cons field rest ih =>
      simp only [columnImports, Outcome.bind_eq_ok, Outcome.pure_eq_ok] at collected
      obtain ⟨resolved, result, others, later, rfl⟩ := collected
      have covered := resolveType_covered config result
      intro dependency member
      rcases List.mem_append.mp member with here | inOthers
      · rcases List.mem_append.mp here with inType | inDecoder
        · exact covered dependency inType
        · exact rowDecoder_covered config covered dependency inDecoder
      · exact ih later dependency inOthers

/-- A wrapper that is emitted is one of the configuration. -/
theorem policy_configured {py : Strings} {tables : List SchemaTable}
    {policies : List GeneratedWrapper}
    (returned : usedWrapperPolicies py tables config = .ok policies) {policy : GeneratedWrapper}
    (member : policy ∈ policies) : ∃ identity, mappingOf config identity = some (.wrapper policy) := by
  cases config with
  | none =>
      cases returned
      cases member
  | some config =>
      have used := (usedWrapperPolicies_ok py returned).1.mp member
      obtain ⟨⟨identity, mapping⟩, inConfig, isWrapper⟩ := List.mem_filterMap.mp used
      obtain ⟨rfl, _⟩ := wrapperOf_eq_some.mp isWrapper
      exact ⟨identity, mappingOf_some.mpr inConfig⟩

/-- Whatever the module imports binds reserved names. -/
theorem importBlock_covered {py : Strings} {tables : List SchemaTable} {enums : List SchemaEnum}
    {dialect : CodegenDialect} {names : Namespace} {imports : List Import}
    (collected : importBlock py tables enums config dialect names = .ok imports) :
    ∀ dependency ∈ imports, Covered (reservedFor config) dependency := by
  simp only [importBlock, Outcome.bind_eq_ok, Outcome.pure_eq_ok] at collected
  obtain ⟨policies, returned, columns, inColumns, rfl⟩ := collected
  simp only [List.forall_mem_append]
  refine ⟨⟨⟨⟨⟨?_, ?_⟩, ?_⟩, ?_⟩, columnImports_covered config inColumns⟩, ?_⟩
  · exact modules_covered config (by decide +kernel)
  · split_ifs
    · exact List.forall_mem_nil _
    · exact modules_covered config (by decide +kernel)
  · split_ifs
    · exact List.forall_mem_nil _
    · exact modules_covered config (by decide +kernel)
  · intro dependency member
    obtain ⟨policy, emitted, inAnnotation⟩ := List.mem_flatMap.mp member
    obtain ⟨identity, found⟩ := policy_configured config returned emitted
    exact annotation_covered config (fun _ => entry_reserved config found) dependency inAnnotation
  · split_ifs
    · exact List.forall_mem_nil _
    · exact modules_covered config (by decide +kernel)

/-! ### Collision-free plans -/

/-- The loop of `_allocate` ends on every call, with the name that the plan uses; the names that a
successful plan declares are distinct and apart from all that the module imports; and the attributes
of each table are distinct and apart from what its class body refers to, the attributes of relq's own
relation classes among it. -/
theorem plan_distinct (py : Strings) (tables : List SchemaTable) (enums : List SchemaEnum)
    (config : Option CodegenConfig) {names : Namespace}
    (planned : plan py tables enums config = .ok names) :
    (∀ stem templates taken, ∃ fuel,
      allocateLoop stem templates taken fuel = some (allocate stem templates taken).1) ∧
    List.Forall₂ (fun (table : SchemaTable) (names : TableNames) =>
      names.columns.length = table.columns.length) tables names.tables ∧
    names.declared.Nodup ∧
    (∀ dialect imports, importBlock py tables enums config dialect names = .ok imports →
      ∀ dependency ∈ imports, ∀ name ∈ dependency.boundNames, name ∉ names.declared) ∧
    ∀ table ∈ names.tables, table.columns.Nodup ∧
      ∀ attr ∈ table.columns, attr ∉ names.guarded ∧ attr ∉ relationAttributes := by
  obtain ⟨reserved, taken, planned, allocated⟩ := plan_ok planned
  have all := planTables_allocated py names.guarded tables allocated
  rw [← planned] at all
  refine ⟨?_, ?_, all.distinct, ?_, ?_⟩
  · intro stem templates taken
    exact ⟨_, (Option.some_get _).symm⟩
  · rw [planned]
    exact planTables_complete py names.guarded tables taken
  · intro dialect imports collected dependency member name bound declared
    exact all.apart name declared (importBlock_covered config collected dependency member name bound)
  · intro table member
    rw [planned] at member
    obtain ⟨distinct, apart⟩ := planTables_columns py names.guarded tables taken table member
    refine ⟨distinct, fun attr used => ⟨apart attr used, fun isRelation => apart attr used ?_⟩⟩
    rw [Namespace.guarded, reserved]
    refine List.mem_append_left _ (List.mem_append_left _ (reservedNames_subset config ?_))
    exact List.mem_append_right _ isRelation

/-- A table named like an import with a column named like a helper, beside an enum. -/
def jsonValueNames : Namespace where
  enums := [(⟨some "public", "status"⟩, "Status")]
  wrappers := []
  tables := [⟨"JsonValue_", "json_value", ["column_"]⟩]
  reserved := reservedNames

theorem plan_distinct_jsonValue :
    jsonValueNames.declared.Nodup ∧
      jsonValueNames.declared = ["Status", "JsonValue_", "json_value", "JsonValue_Insert",
        "JsonValue_Update", "insert_json_value", "insert_json_value_many", "update_json_value",
        "JsonValue_Row", "json_value_row_adapter"] := by
  have planned : plan Strings.ofAscii [⟨"json_value", [⟨"column", .builtin "text", true⟩]⟩]
      [⟨⟨some "public", "status"⟩⟩] none = .ok jsonValueNames := by
    decide +kernel
  exact ⟨(plan_distinct _ _ _ _ planned).2.2.1, by decide +kernel⟩

end Relq.Codegen
