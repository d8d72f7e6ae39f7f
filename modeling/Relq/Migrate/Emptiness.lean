/-
Module: Relq.Migrate.Emptiness
Layer: Migrate
Purpose: `is_sql_empty`, which both migrators ask whether a chunk of a migration is worth executing,
  beside the lexical rules by which each engine tells blanks and comments from a statement. A reader
  goes through the text character by character; what it has read matters only through the place it is
  in and the number of characters that belong to a mark it has recognized already.
Imports: Mathlib.Data.List.Basic, Relq.Library.Characters
Trusted boundary: human-reviewed spec (isSqlEmpty, Engine.isBlank)
Main exports: isSqlEmpty, Engine, Engine.isBlank, Engine.readsAlike,
  isSqlEmpty_iff_isBlank
-/
import Mathlib.Data.List.Basic
import Relq.Library.Characters

namespace Relq.Migrate

open Python (isSpace)

/-! ### The migrators' own reading -/

/-- `text.startswith(mark)`. -/
def startsWith (mark : String) (text : List Char) : Bool :=
  mark.toList.isPrefixOf text

/-- Where a reader of blank text is; a block comment knows how deep it is nested. -/
inductive Place where
  | between
  | line
  | block (depth : Nat)
deriving DecidableEq, Repr

/-- The loops of `is_sql_empty`, from one place on. -/
def emptyFrom : Place → (skip : Nat) → List Char → Bool
  | .between, _, [] => true
  | .line, _, [] => true
  | .block _, _, [] => false
  | place, skip + 1, _ :: rest => emptyFrom place skip rest
  | .between, 0, c :: rest =>
      if isSpace c || c = ';' then emptyFrom .between 0 rest
      else if startsWith "--" (c :: rest) then emptyFrom .line 1 rest
      else if startsWith "/*" (c :: rest) then emptyFrom (.block 1) 1 rest
      else false
  | .line, 0, c :: rest => if c = '\n' then emptyFrom .between 0 rest else emptyFrom .line 0 rest
  | .block depth, 0, c :: rest =>
      if startsWith "/*" (c :: rest) then emptyFrom (.block (depth + 1)) 1 rest
      else if startsWith "*/" (c :: rest) then
        if depth = 1 then emptyFrom .between 1 rest else emptyFrom (.block (depth - 1)) 1 rest
      else emptyFrom (.block depth) 0 rest

def isSqlEmpty (sql : String) : Bool :=
  emptyFrom .between 0 sql.toList

/-! ### The engines' reading -/

inductive Engine where
  | postgres
  | sqlite
deriving DecidableEq, Repr

/-- White space between the tokens of PostgreSQL's scanner. -/
def postgresSpace (c : Char) : Bool :=
  c ∈ [' ', '\t', '\n', '\x0b', '\x0c', '\r']

/-- The reader of PostgreSQL's scanner: a line comment ends in front of a newline or a carriage
return, block comments nest, and an open one is an error. -/
def postgresBlank : Place → (skip : Nat) → List Char → Bool
  | .between, _, [] => true
  | .line, _, [] => true
  | .block _, _, [] => false
  | place, skip + 1, _ :: rest => postgresBlank place skip rest
  | .between, 0, c :: rest =>
      if postgresSpace c || c = ';' then postgresBlank .between 0 rest
      else if startsWith "--" (c :: rest) then postgresBlank .line 1 rest
      else if startsWith "/*" (c :: rest) then postgresBlank (.block 1) 1 rest
      else false
  | .line, 0, c :: rest =>
      if c = '\n' || c = '\r' then postgresBlank .between 0 rest else postgresBlank .line 0 rest
  | .block depth, 0, c :: rest =>
      if startsWith "/*" (c :: rest) then postgresBlank (.block (depth + 1)) 1 rest
      else if startsWith "*/" (c :: rest) then
        if depth = 1 then postgresBlank .between 1 rest else postgresBlank (.block (depth - 1)) 1 rest
      else postgresBlank (.block depth) 0 rest

/-- White space of SQLite's tokenizer, in which a vertical tab only follows other white space. -/
def sqliteSpace (afterSpace : Bool) (c : Char) : Bool :=
  c ∈ [' ', '\t', '\n', '\x0c', '\r'] || (afterSpace && c = '\x0b')

/-- The reader of SQLite's tokenizer: a byte order mark is a space of its own, and a block comment,
which needs a first character, ends at the first `*/` or with the text. `afterSpace` says that white
space was just read. -/
def sqliteBlank (afterSpace : Bool) : Place → (skip : Nat) → List Char → Bool
  | _, _, [] => true
  | place, skip + 1, _ :: rest => sqliteBlank false place skip rest
  | .between, 0, c :: rest =>
      if sqliteSpace afterSpace c then sqliteBlank true .between 0 rest
      else if c = ';' || c = '\uFEFF' then sqliteBlank false .between 0 rest
      else if startsWith "--" (c :: rest) then sqliteBlank false .line 1 rest
      else if startsWith "/*" (c :: rest) && rest.tail ≠ [] then sqliteBlank false (.block 1) 1 rest
      else false
  | .line, 0, c :: rest =>
      if c = '\n' then sqliteBlank true .between 0 rest else sqliteBlank false .line 0 rest
  | .block depth, 0, c :: rest =>
      if startsWith "*/" (c :: rest) then sqliteBlank false .between 1 rest
      else sqliteBlank false (.block depth) 0 rest

/-- Whether the engine finds nothing but white space, semicolons and comments in a text. -/
def Engine.isBlank : Engine → String → Bool
  | .postgres, sql => postgresBlank .between 0 sql.toList
  | .sqlite, sql => sqliteBlank false .between 0 sql.toList

/-! ### Where the two readings are the same -/

/-- Up to the first character of a statement, every white space that is met is white space of the
server too, and a carriage return in a line comment only comes with its newline. -/
def postgresAlike : Place → (skip : Nat) → List Char → Bool
  | _, _, [] => true
  | place, skip + 1, _ :: rest => postgresAlike place skip rest
  | .between, 0, c :: rest =>
      if postgresSpace c || c = ';' then postgresAlike .between 0 rest
      else if isSpace c then false
      else if startsWith "--" (c :: rest) then postgresAlike .line 1 rest
      else if startsWith "/*" (c :: rest) then postgresAlike (.block 1) 1 rest
      else true
  | .line, 0, c :: rest =>
      if c = '\n' then postgresAlike .between 0 rest
      else if c = '\r' then rest.head? = some '\n' && postgresAlike .line 0 rest
      else postgresAlike .line 0 rest
  | .block depth, 0, c :: rest =>
      if startsWith "/*" (c :: rest) then postgresAlike (.block (depth + 1)) 1 rest
      else if startsWith "*/" (c :: rest) then
        if depth = 1 then postgresAlike .between 1 rest else postgresAlike (.block (depth - 1)) 1 rest
      else postgresAlike (.block depth) 0 rest

/-- Up to the first character of a statement, every white space that is met is white space to both
readers, and every block comment is closed before anything in it looks like another one. -/
def sqliteAlike (afterSpace : Bool) : Place → (skip : Nat) → List Char → Bool
  | .between, _, [] => true
  | .line, _, [] => true
  | .block _, _, [] => false
  | place, skip + 1, _ :: rest => sqliteAlike false place skip rest
  | .between, 0, c :: rest =>
      if sqliteSpace afterSpace c then sqliteAlike true .between 0 rest
      else if c = ';' then sqliteAlike false .between 0 rest
      else if isSpace c || c = '\uFEFF' then false
      else if startsWith "--" (c :: rest) then sqliteAlike false .line 1 rest
      else if startsWith "/*" (c :: rest) && rest.tail ≠ [] then sqliteAlike false (.block 1) 1 rest
      else true
  | .line, 0, c :: rest =>
      if c = '\n' then sqliteAlike true .between 0 rest else sqliteAlike false .line 0 rest
  | .block depth, 0, c :: rest =>
      if startsWith "/*" (c :: rest) then false
      else if startsWith "*/" (c :: rest) then sqliteAlike false .between 1 rest
      else sqliteAlike false (.block depth) 0 rest

def Engine.readsAlike : Engine → String → Bool
  | .postgres, sql => postgresAlike .between 0 sql.toList
  | .sqlite, sql => sqliteAlike false .between 0 sql.toList

theorem isSpace_of_postgresSpace {c : Char} (blank : postgresSpace c = true) : isSpace c = true := by
  simp only [postgresSpace, List.mem_cons, List.not_mem_nil, or_false, decide_eq_true_eq] at blank
  rcases blank with rfl | rfl | rfl | rfl | rfl | rfl <;> decide

theorem isSpace_of_sqliteSpace {afterSpace : Bool} {c : Char}
    (blank : sqliteSpace afterSpace c = true) : isSpace c = true := by
  simp only [sqliteSpace, List.mem_cons, List.not_mem_nil, or_false, Bool.or_eq_true,
    Bool.and_eq_true, decide_eq_true_eq] at blank
  rcases blank with (rfl | rfl | rfl | rfl | rfl) | ⟨-, rfl⟩ <;> decide

/-- The induction follows the reading; only behind a carriage return the readers are in different
places, and the newline brings them together again. -/
theorem emptyFrom_eq_postgresBlank (place : Place) (skip : Nat) (text : List Char)
    (alike : postgresAlike place skip text = true) :
    emptyFrom place skip text = postgresBlank place skip text := by
  fun_induction postgresAlike place skip text with
  | case1 skip place => cases place <;> cases skip <;> rfl
  | case2 place skip c rest ih => simpa [emptyFrom, postgresBlank] using ih alike
  | case3 c rest blank ih =>
      have space : (isSpace c || decide (c = ';')) = true := by
        rcases Bool.or_eq_true _ _ ▸ blank with space | semicolon
        · simp [isSpace_of_postgresSpace space]
        · simp [semicolon]
      simpa [emptyFrom, postgresBlank, blank, space] using ih alike
  | case4 => cases alike
  | case5 c rest notBlank noSpace line ih =>
      obtain ⟨noServerSpace, other⟩ : postgresSpace c = false ∧ c ≠ ';' := by simpa using notBlank
      simpa [emptyFrom, postgresBlank, noServerSpace, noSpace, line, other] using ih alike
  | case6 c rest notBlank noSpace noLine opens ih =>
      obtain ⟨noServerSpace, other⟩ : postgresSpace c = false ∧ c ≠ ';' := by simpa using notBlank
      simpa [emptyFrom, postgresBlank, noServerSpace, noSpace, noLine, opens, other] using ih alike
  | case7 c rest notBlank noSpace noLine closed =>
      obtain ⟨noServerSpace, other⟩ : postgresSpace c = false ∧ c ≠ ';' := by simpa using notBlank
      simp [emptyFrom, postgresBlank, noServerSpace, noSpace, noLine, closed, other]
  | case8 rest ih => simpa [emptyFrom, postgresBlank] using ih alike
  | case9 rest _ ih =>
      obtain ⟨head, alike⟩ := Bool.and_eq_true _ _ ▸ alike
      cases rest with
      | nil => simp at head
      | cons next rest =>
          obtain rfl : next = '\n' := by simpa using head
          have ended := ih alike
          simp only [emptyFrom, postgresBlank] at ended ⊢
          simpa [postgresSpace] using ended
  | case10 c rest noNewline noReturn ih =>
      simpa [emptyFrom, postgresBlank, noNewline, noReturn] using ih alike
  | case11 depth c rest opens ih => simpa [emptyFrom, postgresBlank, opens] using ih alike
  | case12 c rest notOpen closes ih => simpa [emptyFrom, postgresBlank, notOpen, closes] using ih alike
  | case13 depth c rest notOpen closes nested ih =>
      simpa [emptyFrom, postgresBlank, notOpen, closes, nested] using ih alike
  | case14 depth c rest notOpen notClosed ih =>
      simpa [emptyFrom, postgresBlank, notOpen, notClosed] using ih alike

/-- The induction follows the reading; a block comment is read at depth 1 throughout. -/
theorem emptyFrom_eq_sqliteBlank (afterSpace : Bool) (place : Place) (skip : Nat) (text : List Char)
    (shallow : ∀ depth, place = .block depth → depth = 1)
    (alike : sqliteAlike afterSpace place skip text = true) :
    emptyFrom place skip text = sqliteBlank afterSpace place skip text := by
  fun_induction sqliteAlike afterSpace place skip text with
  | case1 afterSpace skip => cases skip <;> rfl
  | case2 afterSpace skip => cases skip <;> rfl
  | case3 => cases alike
  | case4 afterSpace place skip c rest ih =>
      simpa [emptyFrom, sqliteBlank] using ih shallow alike
  | case5 afterSpace c rest blank ih =>
      simpa [emptyFrom, sqliteBlank, blank, isSpace_of_sqliteSpace blank] using ih (by simp) alike
  | case6 afterSpace rest noSpace ih =>
      simpa [emptyFrom, sqliteBlank, noSpace] using ih (by simp) alike
  | case7 => cases alike
  | case8 afterSpace c rest noEngineSpace other notBlank line ih =>
      obtain ⟨noSpace, noMark⟩ : isSpace c = false ∧ c ≠ '\uFEFF' := by simpa using notBlank
      simpa [emptyFrom, sqliteBlank, noEngineSpace, other, noSpace, noMark, line]
        using ih (by simp) alike
  | case9 afterSpace c rest noEngineSpace other notBlank noLine opens ih =>
      obtain ⟨noSpace, noMark⟩ : isSpace c = false ∧ c ≠ '\uFEFF' := by simpa using notBlank
      obtain ⟨opens, some_⟩ : startsWith "/*" (c :: rest) = true ∧ rest.tail ≠ [] := by
        simpa using opens
      simpa [emptyFrom, sqliteBlank, noEngineSpace, other, noSpace, noMark, noLine, opens, some_]
        using ih (by simp) alike
  | case10 afterSpace c rest noEngineSpace other notBlank noLine notOpen =>
      obtain ⟨noSpace, noMark⟩ : isSpace c = false ∧ c ≠ '\uFEFF' := by simpa using notBlank
      cases opens : startsWith "/*" (c :: rest) with
      | false => simp [emptyFrom, sqliteBlank, noEngineSpace, other, noSpace, noMark, noLine, opens]
      | true =>
          have last : rest.tail = [] := by simpa [opens] using notOpen
          have unclosed : emptyFrom (.block 1) 1 rest = false := by
            cases rest with
            | nil => rfl
            | cons next rest =>
                obtain rfl : rest = [] := last
                rfl
          simp [emptyFrom, sqliteBlank, noEngineSpace, other, noSpace, noMark, noLine, opens, last,
            unclosed]
  | case11 afterSpace rest ih => simpa [emptyFrom, sqliteBlank] using ih (by simp) alike
  | case12 afterSpace c rest noNewline ih =>
      simpa [emptyFrom, sqliteBlank, noNewline] using ih (by simp) alike
  | case13 => cases alike
  | case14 afterSpace depth c rest notOpen closes ih =>
      obtain rfl := shallow depth rfl
      simpa [emptyFrom, sqliteBlank, notOpen, closes] using ih (by simp) alike
  | case15 afterSpace depth c rest notOpen notClosed ih =>
      simpa [emptyFrom, sqliteBlank, notOpen, notClosed] using ih shallow alike

/-- As far as the readings are alike, a chunk is empty to the migrators just when it is blank to the
engine. -/
theorem isSqlEmpty_iff_isBlank (engine : Engine) (sql : String)
    (alike : engine.readsAlike sql = true) : isSqlEmpty sql = true ↔ engine.isBlank sql = true := by
  cases engine with
  | postgres => rw [isSqlEmpty, emptyFrom_eq_postgresBlank _ _ _ alike, Engine.isBlank]
  | sqlite => rw [isSqlEmpty, emptyFrom_eq_sqliteBlank _ _ _ _ (by simp) alike, Engine.isBlank]

/-- Comments and separators around nothing are empty to everyone. -/
theorem isSqlEmpty_iff_isBlank_comments :
    Engine.readsAlike .sqlite "-- a\n/* b */ ;" = true ∧
      (isSqlEmpty "-- a\n/* b */ ;" = true ↔ Engine.isBlank .sqlite "-- a\n/* b */ ;" = true) :=
  ⟨by decide, isSqlEmpty_iff_isBlank .sqlite "-- a\n/* b */ ;" (by decide)⟩

/-- To SQLite the first comment is closed and a COMMIT follows, which the nested reading hides. -/
theorem isSqlEmpty_hides_commit :
    ¬ ∀ (engine : Engine) (sql : String), isSqlEmpty sql = true ↔ engine.isBlank sql = true := by
  intro always
  have blank := (always .sqlite "/* /* */ COMMIT -- */\n;").mp (by decide)
  exact absurd blank (by decide)

end Relq.Migrate
