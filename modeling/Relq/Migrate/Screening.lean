/-
Module: Relq.Migrate.Screening
Layer: Migrate
Purpose: The screens of the PostgreSQL migrator in front of a statement and behind it. The words at the
  front of a statement tell whether it controls the transaction or changes the setting by which texts
  are split, and the status tag tells whether it did control the transaction. Whatever tables of Unicode
  Python has, no statement that the server takes for transaction control slips through the first screen.
Imports: Relq.Migrate.Splitting
Trusted boundary: human-reviewed spec (isStandardConformingStringsStatement, isTransactionControlStatus)
Main exports: isStandardConformingStringsStatement, isTransactionControlStatus, Covers,
  leadingKeywords_covers, isTransactionControlStatement_of_serverControl
-/
import Relq.Migrate.Splitting

namespace Relq.Migrate

open Python (Characters asciiUpper isAscii isSpace)

/-! ### The screens -/

/-- What the words at the front of a statement say about the setting. -/
def changesConformingStrings : List String → Bool
  | [] => false
  | word :: words =>
      if word = "RESET" then
        words.head? = some "ALL" || words.head? = some "STANDARD_CONFORMING_STRINGS"
      else if word ≠ "SET" then false
      else if words.head? = some "STANDARD_CONFORMING_STRINGS" then true
      else (words.head? = some "LOCAL" || words.head? = some "SESSION") &&
        words.tail.head? = some "STANDARD_CONFORMING_STRINGS"

/-- `_is_standard_conforming_strings_statement`. -/
def isStandardConformingStringsStatement (py : Characters) (statement : String) : Bool :=
  changesConformingStrings (leadingKeywords py 3 .between 0 statement.toList)

/-- `_is_transaction_control_status`. -/
def isTransactionControlStatus (py : Characters) (status : String) : Bool :=
  py.upperText status.toList ∈ ["ABORT", "BEGIN", "COMMIT", "RELEASE", "ROLLBACK", "SAVEPOINT"]

/-! ### Words of ASCII are read alike -/

section Words

variable {py : Characters}

theorem isIdentifierCharacter_ascii {c : Char} (ascii : isAscii c = true) :
    isIdentifierCharacter py c = continuesWord c := by
  rw [isIdentifierCharacter, py.isAlnum_ascii c ascii, continuesWord, ascii, Bool.not_true,
    Bool.false_or]

/-- A word of the server that has only ASCII in it ends where the migrator's ends. -/
theorem takeWhile_ascii {text : List Char}
    (plain : (text.takeWhile continuesWord).all isAscii = true) :
    text.takeWhile (isIdentifierCharacter py) = text.takeWhile continuesWord := by
  induction text with
  | nil => rfl
  | cons c rest ih =>
      cases more : continuesWord c with
      | true =>
          rw [List.takeWhile_cons_of_pos more, List.all_cons, Bool.and_eq_true] at plain
          rw [List.takeWhile_cons_of_pos more, List.takeWhile_cons_of_pos
            ((isIdentifierCharacter_ascii plain.1).trans more), ih plain.2]
      | false =>
          -- what ends a word of the server is ASCII
          have ascii : isAscii c = true := by
            by_contra beyond
            rw [Bool.not_eq_true] at beyond
            rw [continuesWord, beyond] at more
            cases more
          have ends : isIdentifierCharacter py c = false := (isIdentifierCharacter_ascii ascii).trans more
          rw [List.takeWhile_cons_of_neg (Bool.not_eq_true _ ▸ ends),
            List.takeWhile_cons_of_neg (Bool.not_eq_true _ ▸ more)]

theorem upperText_ascii {text : List Char} (plain : text.all isAscii = true) :
    py.upperText text = asciiUpper text := by
  have each : text.flatMap py.upper = text.map Char.toUpper := by
    induction text with
    | nil => rfl
    | cons c rest ih =>
        rw [List.all_cons, Bool.and_eq_true] at plain
        rw [List.flatMap_cons, List.map_cons, py.upper_ascii c plain.1, ih plain.2]
        rfl
  rw [Characters.upperText, each, asciiUpper]

theorem keywordAt_ascii {c : Char} {rest word : List Char} (found : serverWord (c :: rest) = some word)
    (plain : word.all isAscii = true) :
    keywordAt py (c :: rest) = some (asciiUpper word, word.length) := by
  rw [serverWord] at found
  split at found
  · rename_i begins
    obtain rfl := Option.some.inj found
    rw [List.all_cons, Bool.and_eq_true] at plain
    have letter : (py.isAlpha c || decide (c = '_')) = true := by
      rw [beginsWord, plain.1, Bool.not_true, Bool.false_or] at begins
      rw [py.isAlpha_ascii c plain.1]
      exact begins
    have whole : (c :: rest.takeWhile continuesWord).all isAscii = true := by
      rw [List.all_cons, plain.1, plain.2, Bool.and_self]
    rw [keywordAt, if_pos letter, takeWhile_ascii plain.2]
    exact congrArg (fun upper => some (upper, _)) (upperText_ascii whole)
  · cases found

/-- A word with a character beyond ASCII is no keyword. -/
theorem not_keyword {word : List Char} {keyword : String} (known : keyword.toList.all isAscii = true)
    (beyond : ¬word.all isAscii = true) : asciiUpper word ≠ keyword := by
  rintro rfl
  refine beyond (List.all_eq_true.mpr fun c member => ?_)
  rw [asciiUpper, String.toList_ofList, List.all_map, List.all_eq_true] at known
  have upper : isAscii c.toUpper = true := known c member
  by_contra other
  have same : c.toUpper = c := by
    delta Char.toUpper
    rw [dif_neg]
    intro lower
    refine other ?_
    simp only [isAscii, decide_eq_true_eq]
    have top : c.val ≤ 'z'.val := lower.2
    have bound : c.toNat ≤ 122 := UInt32.le_iff_toNat_le.mp top
    omega
  exact other (same ▸ upper)

end Words

/-! ### The words at the front of a statement -/

/-- The words of the first list are at the front of the second one up to a word that has a character
beyond ASCII. -/
inductive Covers : List String → List String → Prop where
  | nil (read : List String) : Covers [] read
  | beyond {word : List Char} (words read : List String) (beyond : ¬word.all isAscii = true) :
      Covers (asciiUpper word :: words) read
  | cons {word : String} {words read : List String} (rest : Covers words read) :
      Covers (word :: words) (word :: read)

theorem Covers.isControl {words read : List String} (covers : Covers words read)
    (control : beginsControl words = true) : isControl read = true := by
  cases covers with
  | nil => cases control
  | beyond words read beyond =>
      have unknown (keyword : String) (known : keyword.toList.all isAscii = true) :=
        not_keyword known beyond
      simp [beginsControl, unknown "ABORT" (by decide), unknown "BEGIN" (by decide),
        unknown "COMMIT" (by decide), unknown "END" (by decide), unknown "ROLLBACK" (by decide),
        unknown "SAVEPOINT" (by decide), unknown "RELEASE" (by decide), unknown "START" (by decide),
        unknown "PREPARE" (by decide), unknown "SET" (by decide)] at control
  | @cons word words read rest =>
      rw [beginsControl, Bool.or_eq_true, Bool.and_eq_true] at control
      rcases control with alone | ⟨first, second⟩
      · simp only [Relq.Migrate.isControl, alone, Bool.true_or]
      · cases rest with
        | nil => cases second
        | @beyond next words read beyond =>
            have same : asciiUpper next = "TRANSACTION" := by simpa using second
            exact absurd same (not_keyword (by decide) beyond)
        | @cons next words read rest =>
            obtain rfl : next = "TRANSACTION" := by simpa using second
            simp only [List.mem_cons, List.not_mem_nil, or_false, decide_eq_true_eq] at first
            rcases first with rfl | rfl | rfl <;> simp [Relq.Migrate.isControl]

/-- The migrator reads the words of ASCII that the server reads, and perhaps some more. -/
theorem leadingKeywords_covers {py : Characters} {limit : Nat} {place : Place} {skip : Nat}
    {text : List Char} (noReturn : '\r' ∉ text) (extra : Nat) :
    Covers (serverWords limit place skip text) (leadingKeywords py (extra + limit) place skip text) := by
  have later {c : Char} {rest : List Char} (noReturn : '\r' ∉ c :: rest) : '\r' ∉ rest :=
    mt (List.mem_cons_of_mem _) noReturn
  fun_induction serverWords limit place skip text with
  | case1 => exact .nil _
  | case2 => exact .nil _
  | case3 limit place skip c rest positive ih =>
      obtain ⟨limit, rfl⟩ := Nat.exists_eq_succ_of_ne_zero positive
      exact ih (later noReturn)
  | case4 limit c rest space ih =>
      simp only [leadingKeywords, isSpace_of_postgresSpace space, if_true]
      exact ih (later noReturn)
  | case5 limit c rest noSpace line ih =>
      obtain rfl := line_first line
      simp only [leadingKeywords, line, if_true,
        if_neg (by decide : ¬ isSpace '-' = true)]
      exact ih (later noReturn)
  | case6 limit c rest noSpace noLine opens ih =>
      obtain rfl := block_first opens
      simp only [leadingKeywords, noLine, opens, if_true,
        if_neg (by decide : ¬ isSpace '/' = true)]
      exact ih (later noReturn)
  | case7 => exact .nil _
  | case8 limit c rest noSpace noLine noBlock word found ih =>
      by_cases plain : word.all isAscii = true
      · have read : keywordAt py (c :: rest) = some (asciiUpper word, word.length) :=
          keywordAt_ascii found plain
        obtain ⟨noSpace', noQuote⟩ := blank_of_keywordAt read
        simp only [leadingKeywords, noSpace', noLine, noBlock, noQuote, read, if_false]
        exact .cons (ih (later noReturn))
      · exact .beyond _ _ plain
  | case9 limit c rest ends ih =>
      obtain rfl : c = '\n' := by
        have other : c ≠ '\r' := fun same => noReturn (same ▸ List.mem_cons_self)
        simpa [other] using ends
      exact ih (later noReturn)
  | case10 limit c rest goesOn ih =>
      have noNewline : c ≠ '\n' := by
        rintro rfl
        exact goesOn rfl
      simp only [leadingKeywords, if_neg noNewline]
      exact ih (later noReturn)
  | case11 limit depth c rest opens ih =>
      simp only [leadingKeywords, opens, if_true]
      exact ih (later noReturn)
  | case12 limit c rest notOpen closes ih =>
      simp only [leadingKeywords, notOpen, closes, if_true]
      exact ih (later noReturn)
  | case13 limit depth c rest notOpen closes nested ih =>
      simp only [leadingKeywords, notOpen, closes, nested, if_true, if_false]
      exact ih (later noReturn)
  | case14 limit depth c rest notOpen notClosed ih =>
      simp only [leadingKeywords, notOpen, notClosed]
      exact ih (later noReturn)

/-- No statement by which the server would end the transaction passes the first screen, whatever the
tables of Unicode say about characters beyond ASCII. -/
theorem isTransactionControlStatement_of_serverControl (py : Characters) {statement : String}
    (noReturn : '\r' ∉ statement.toList) (control : serverControl statement = true) :
    isTransactionControlStatement py statement = true :=
  (leadingKeywords_covers noReturn 1).isControl control

/-- Comments and letters of both cases. -/
theorem isTransactionControlStatement_of_serverControl_comment :
    isTransactionControlStatement Characters.ofAscii "/* /* */ */ -- a\nsTART /**/ Transaction read only" =
      true :=
  isTransactionControlStatement_of_serverControl _ (by decide) (by decide)

end Relq.Migrate
