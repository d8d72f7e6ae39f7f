/-
Module: Relq.Codegen.Names
Layer: Codegen
Purpose: What every generated declaration is called (`_allocate`, `_plan` and the stems of
  `render.py`), and which names the import block of the module binds.
Imports: Mathlib.Data.List.ProdSigma, Relq.Library.Dictionaries, Relq.Library.Fresh,
  Relq.Codegen.Mapping
Trusted boundary: human-reviewed spec
Main exports: reservedFor, Template, allocate, TableNames, Namespace, plan, importBlock
-/
import Mathlib.Data.List.ProdSigma
import Relq.Library.Dictionaries
import Relq.Library.Fresh
import Relq.Codegen.Mapping

namespace Relq.Codegen

open Python

/-! ### Reserved names -/

/-- `bound_names`: the names that the import binds in the module. -/
def Import.boundNames (dependency : Import) : List String :=
  if dependency.names = [] then [(partition dependency.module '.').1] else dependency.names

/-- `_MODULE_IMPORTS`. -/
def moduleImports : List Import :=
  [⟨"collections.abc", ["Iterable"]⟩, ⟨"dataclasses", ["dataclass"]⟩, ⟨"enum", []⟩,
    ⟨"relq", ["row_adapter"]⟩,
    ⟨"relq", ["Column", "InsertQuery", "Table", "UpdateQuery", "column", "insert_into", "update"]⟩,
    ⟨"typing", ["Literal", "NewType", "NotRequired", "Required", "TypedDict"]⟩]

/-- `_BUILTIN_NAMES`. -/
def builtinNames : List String :=
  ["bool", "bytes", "float", "int", "list", "str", "tuple"]

/-- `RELATION_ATTRIBUTES`. -/
def relationAttributes : List String :=
  ["_alias", "_reference", "_schema", "_source", "_state", "as_", "column_names", "node",
    "output_names", "reference", "table_name"]

/-- `RESERVED_NAMES`. -/
def reservedNames : List String :=
  (moduleImports ++ mappingImports).flatMap Import.boundNames ++ builtinNames ++ relationAttributes

/-- The names that a configured annotation refers to and those that its imports bind. -/
def RenderExpression.reserves (expression : RenderExpression) : List String :=
  expression.names ++ expression.imports.flatMap Import.boundNames

def TypeMapping.reserves : TypeMapping → List String
  | .direct mapping => mapping.annotation.reserves
  | .wrapper mapping => mapping.base.annotation.reserves
  | .rejected _ => []

/-- `_reserved_for`. -/
def reservedFor (config : Option CodegenConfig) : List String :=
  match config with
  | none => reservedNames
  | some config => reservedNames ++ config.typeMappings.flatMap fun entry => entry.2.reserves

/-! ### Stems -/

/-- `str.capitalize` of a run of ASCII letters and digits. -/
def capitalize : List Char → List Char
  | [] => []
  | first :: rest => first.toUpper :: rest.map Char.toLower

/-- `_class_stem`. -/
def classStem (name : String) : String :=
  let parts := name.toList.splitOnP fun c => !c.isAlphanum
  let result := parts.flatMap capitalize
  match result with
  | [] => "Table_Generated"
  | first :: _ => if first.isDigit then "Table_" ++ String.ofList result else String.ofList result

/-- Whether `__.*__` matches the whole text. -/
def dunderShaped (text : List Char) : Bool :=
  4 ≤ text.length && ['_', '_'].isPrefixOf text && ['_', '_'].isSuffixOf text && !text.contains '\n'

/-- `_identifier`. -/
def identifier (py : Strings) (name : String) : String :=
  let word := name.toList.map fun c => if py.isWord c then c else '_'
  let stripped := if dunderShaped word then word.dropWhile (· == '_') else word
  let named :=
    match stripped with
    | [] => "column_"
    | first :: _ =>
        if py.isDigit first then "column_" ++ String.ofList stripped else String.ofList stripped
  if named ∈ keywords ∨ named ∈ softKeywords then named ++ "_" else named

/-- `_enum_stems`: enums whose names collide are called after their schema too. -/
def enumStems (enums : List SchemaEnum) : List (TypeIdentity × String) :=
  let stems := enums.map fun schemaEnum => classStem schemaEnum.identity.name
  Dictionaries.written <| enums.map fun schemaEnum =>
    let identity := schemaEnum.identity
    (identity,
      if 1 < stems.count (classStem identity.name) then
        classStem (identity.schema.getD "None" ++ "_" ++ identity.name)
      else classStem identity.name)

/-! ### Allocation -/

/-- A template: what stands before and after the name. -/
structure Template where
  before : String := ""
  after : String := ""
deriving DecidableEq, Repr

def Template.format (template : Template) (name : String) : String :=
  template.before ++ name ++ template.after

/-- `_CLASS_TEMPLATES`. -/
def classTemplates : List Template :=
  [{}, { after := "Insert" }, { after := "Update" }, { after := "Row" }]

/-- `_INSTANCE_TEMPLATES`. -/
def instanceTemplates : List Template :=
  [{}, { before := "insert_" }, { before := "insert_", after := "_many" }, { before := "update_" },
    { after := "_row_adapter" }]

/-- The names that a candidate stands for. -/
def family (templates : List Template) (candidate : String) : List String :=
  templates.map (·.format candidate)

/-- The candidates in the order in which they are tried. -/
def candidate (stem : String) (attempt : Nat) : String :=
  if attempt = 1 then stem
  else if attempt = 2 then stem ++ "_"
  else stem ++ "_" ++ toString attempt

def isFree (stem : String) (templates : List Template) (taken : List String) (attempt : Nat) : Bool :=
  (family templates (candidate stem attempt)).all fun name => name ∉ taken

/-- The loop of `_allocate`: the first candidate whose whole family is free, if it is among the
first `fuel` ones. -/
def allocateLoop (stem : String) (templates : List Template) (taken : List String) (fuel : Nat) :
    Option String :=
  (Fresh.firstFrom (isFree stem templates taken) fuel 1).map (candidate stem)

theorem Template.format_inj (template : Template) {first second : String}
    (same : template.format first = template.format second) : first = second := by
  have characters := congrArg String.toList same
  simp only [Template.format, String.toList_append, List.append_assoc, List.append_cancel_left_eq,
    List.append_cancel_right_eq] at characters
  exact String.toList_inj.mp characters

theorem toString_nat_inj {first second : Nat} (same : toString first = toString second) :
    first = second := by
  have digits := congrArg (fun text : String => Nat.ofDigitChars 10 text.toList 0) same
  simpa [Nat.toString_eq_repr, Nat.toList_repr, Nat.ofDigitChars_ten_toDigits] using digits

theorem toString_nat_ne_empty (number : Nat) : toString number ≠ "" := by
  intro empty
  have digits := congrArg String.toList empty
  simp [Nat.toString_eq_repr, Nat.toList_repr, Nat.toDigits_ne_nil] at digits

/-- What a candidate adds to its stem. -/
theorem candidate_eq (stem : String) (attempt : Nat) :
    candidate stem attempt =
      stem ++ (if attempt = 1 then "" else "_" ++ if attempt = 2 then "" else toString attempt) := by
  rw [candidate]
  split_ifs <;> simp [String.append_assoc]

theorem candidate_inj (stem : String) {first second : Nat}
    (same : candidate stem first = candidate stem second) : first = second := by
  rw [candidate_eq, candidate_eq, String.append_right_inj] at same
  by_cases plain : first = 1
  · by_cases plain' : second = 1
    · rw [plain, plain']
    · simp [plain, plain'] at same
  · by_cases plain' : second = 1
    · simp [plain, plain'] at same
    · rw [if_neg plain, if_neg plain', String.append_right_inj] at same
      by_cases short : first = 2
      · by_cases short' : second = 2
        · rw [short, short']
        · rw [if_pos short, if_neg short'] at same
          exact absurd same.symm (toString_nat_ne_empty second)
      · by_cases short' : second = 2
        · rw [if_neg short, if_pos short'] at same
          exact absurd same (toString_nat_ne_empty first)
        · rw [if_neg short, if_neg short'] at same
          exact toString_nat_inj same

/-- Some candidate is always free: the loop ends. -/
theorem allocateLoop_isSome (stem : String) (templates : List Template) (taken : List String)
    {fuel : Nat} (enough : templates.length * taken.length < fuel) :
    (allocateLoop stem templates taken fuel).isSome = true := by
  rw [allocateLoop, Option.isSome_map]
  refine Fresh.firstFrom_isSome (templates ×ˢ taken).toFinset
    (fun blocker attempt => blocker.1.format (candidate stem attempt) = blocker.2) ?_ ?_ ?_
  · intro attempt _ blocked
    simp only [isFree, family, List.all_eq_false, List.mem_map] at blocked
    obtain ⟨_, ⟨template, member, rfl⟩, isTaken⟩ := blocked
    refine ⟨(template, template.format (candidate stem attempt)), ?_, rfl⟩
    rw [List.mem_toFinset]
    exact List.pair_mem_product.mpr ⟨member, by simpa using isTaken⟩
  · intro blocker first second _ _ blocks blocks'
    exact candidate_inj stem (blocker.1.format_inj (blocks.trans blocks'.symm))
  · refine Nat.lt_of_le_of_lt (List.toFinset_card_le _) ?_
    rwa [List.length_product]

/-- `_allocate`: the name and the set `taken` with its family. -/
def allocate (stem : String) (templates : List Template) (taken : List String) :
    String × List String :=
  let candidate :=
    (allocateLoop stem templates taken (templates.length * taken.length + 1)).get
      (allocateLoop_isSome stem templates taken (Nat.lt_succ_self _))
  (candidate, taken ++ family templates candidate)

/-- The family of the name that is picked was free. -/
theorem allocate_free (stem : String) (templates : List Template) (taken : List String) :
    ∀ name ∈ family templates (allocate stem templates taken).1, name ∉ taken := by
  obtain ⟨index, found, picked⟩ := Option.map_eq_some_iff.mp
    (Option.some_get (allocateLoop_isSome stem templates taken (Nat.lt_succ_self _))).symm
  have free := (Fresh.firstFrom_free found).2.1
  rw [isFree, List.all_eq_true] at free
  intro name member
  rw [allocate, ← picked] at member
  simpa using free name member

/-! ### The plan -/

/-- `_TableNames`. -/
structure TableNames where
  className : String
  instanceName : String
  columns : List String
deriving DecidableEq, Repr

namespace TableNames

variable (names : TableNames)

def insertPayload : String := names.className ++ "Insert"

def updatePayload : String := names.className ++ "Update"

def row : String := names.className ++ "Row"

def insertFunction : String := "insert_" ++ names.instanceName

def updateFunction : String := "update_" ++ names.instanceName

def rowAdapter : String := names.instanceName ++ "_row_adapter"

def exported : List String :=
  [names.instanceName, names.insertPayload, names.updatePayload, names.insertFunction,
    names.insertFunction ++ "_many", names.updateFunction, names.row, names.rowAdapter]

end TableNames

/-- `_Namespace`. -/
structure Namespace where
  enums : List (TypeIdentity × String)
  wrappers : List String
  tables : List TableNames
  reserved : List String
deriving DecidableEq, Repr

/-- `protected`: the names no attribute of a table may shadow. -/
def Namespace.guarded (names : Namespace) : List String :=
  names.reserved ++ names.enums.map (·.2) ++ names.wrappers

/-- Names of one kind, allocated in order. -/
def allocateEach (templates : List Template) : List String → List String → List String × List String
  | [], taken => ([], taken)
  | stem :: rest, taken =>
      let (name, taken) := allocate stem templates taken
      let (names, taken) := allocateEach templates rest taken
      (name :: names, taken)

/-- The wrapper names, which are taken as configured. -/
def takeWrappers : List GeneratedWrapper → List String → Except CodegenError (List String × List String)
  | [], taken => .ok ([], taken)
  | policy :: rest, taken =>
      if policy.name ∈ taken then
        .error ⟨"generated wrapper name collides with a name the generated module already binds: " ++
          policy.name⟩
      else do
        let (names, taken) ← takeWrappers rest (taken ++ [policy.name])
        return (policy.name :: names, taken)

/-- The names of one table; `guarded` keeps its attributes apart. -/
def planTable (py : Strings) (guarded : List String) (table : SchemaTable) (taken : List String) :
    TableNames × List String :=
  let (className, taken) := allocate (classStem table.name) classTemplates taken
  let (instanceName, taken) := allocate (identifier py table.name) instanceTemplates taken
  let columns := allocateEach [{}] (table.columns.map fun field => identifier py field.name) guarded
  (⟨className, instanceName, columns.1⟩, taken)

def planTables (py : Strings) (guarded : List String) :
    List SchemaTable → List String → List TableNames × List String
  | [], taken => ([], taken)
  | table :: rest, taken =>
      let (names, taken) := planTable py guarded table taken
      let (others, taken) := planTables py guarded rest taken
      (names :: others, taken)

/-- `_plan`. -/
def plan (py : Strings) (tables : List SchemaTable) (enums : List SchemaEnum)
    (config : Option CodegenConfig) : Except CodegenError Namespace := do
  let reserved := reservedFor config
  let stems := enumStems enums
  let (enumNames, taken) := allocateEach [{}] (stems.map (·.2)) reserved
  let policies ← usedWrapperPolicies py tables config
  let (wrappers, taken) ← takeWrappers policies taken
  let names : Namespace :=
    { enums := (stems.map (·.1)).zip enumNames, wrappers, tables := [], reserved }
  return { names with tables := (planTables py names.guarded tables taken).1 }

/-- Every name the module declares: enum classes, wrapper types and the names of its tables. -/
def Namespace.declared (names : Namespace) : List String :=
  names.enums.map (·.2) ++ names.wrappers ++
    names.tables.flatMap fun table => table.className :: table.exported

/-! ### The import block -/

/-- The decoder of a column in the row adapter. -/
def rowDecoder (field : SchemaColumn) (resolved : ResolvedType) : Option RenderExpression :=
  resolved.decoder.map fun decoder =>
    if field.nullable then .call (relqName "nullable" (by decide)) [decoder] else decoder

/-- The imports of the columns' annotations and decoders. -/
def columnImports (py : Strings) (enumTypes : List (TypeIdentity × String))
    (config : Option CodegenConfig) (dialect : CodegenDialect) :
    List SchemaColumn → Except CodegenError (List Import)
  | [] => .ok []
  | field :: rest => do
      let resolved ← resolveType py enumTypes config dialect field.sqlType
      let others ← columnImports py enumTypes config dialect rest
      return resolved.imports ++ (rowDecoder field resolved).elim [] (·.imports) ++ others

/-- The imports that `render` collects. -/
def importBlock (py : Strings) (tables : List SchemaTable) (enums : List SchemaEnum)
    (config : Option CodegenConfig) (dialect : CodegenDialect) (names : Namespace) :
    Except CodegenError (List Import) := do
  let policies ← usedWrapperPolicies py tables config
  let columns ← columnImports py names.enums config dialect (tables.flatMap (·.columns))
  return [⟨"collections.abc", ["Iterable"]⟩,
      ⟨"typing", ["Literal", "NotRequired", "Required", "TypedDict"]⟩,
      ⟨"relq", ["Column", "InsertQuery", "Table", "UpdateQuery", "column", "insert_into",
        "update"]⟩] ++
    (if enums = [] then [] else [⟨"enum", []⟩]) ++
    (if policies.isEmpty then [] else [⟨"typing", ["NewType"]⟩]) ++
    policies.flatMap (·.base.annotation.imports) ++ columns ++
    (if tables = [] then [] else [⟨"dataclasses", ["dataclass"]⟩, ⟨"relq", ["row_adapter"]⟩])

end Relq.Codegen
