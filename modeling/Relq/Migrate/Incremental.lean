/-
Module: Relq.Migrate.Incremental
Layer: Migrate
Purpose: The statement loop of the PostgreSQL migrator takes the first statement of what remains and
  scans the rest anew, so that each statement is read under the session's current setting. As long as
  the setting stays, it takes the statements of one pass: behind every cut the splitter is back at its
  start, since a keyword it still waits for stands in front of the cut, and its glances backwards end
  at the semicolon.
Imports: Relq.Migrate.Splitting
Trusted boundary: human-reviewed spec (splitPostgresStatements, statementLoop)
Main exports: Awaited, Awaited.scan, iter_resume, statementLoop, statementLoop_eq_split
-/
import Relq.Migrate.Splitting

namespace Relq.Migrate

open Python (Characters isSpace)
open Scanners

/-! ### Glances backwards -/

section Behind

variable (py : Characters) (standardConformingStrings : Bool)

theorem semicolon_ends_word : isIdentifierCharacter py ';' = false := by
  rw [isIdentifierCharacter, py.isAlnum_ascii ';' (by decide)]
  decide

theorem isEscapeString_behind (near older : List Char) :
    isEscapeString py standardConformingStrings (near ++ ';' :: older) =
      isEscapeString py standardConformingStrings near := by
  match near with
  | [] => cases older <;> simp [isEscapeString]
  | [letter] => simp [isEscapeString, semicolon_ends_word]
  | letter :: previous :: more => rfl

theorem dollarQuoteDelimiter_behind (near older rest : List Char) :
    dollarQuoteDelimiter py (near ++ ';' :: older) rest = dollarQuoteDelimiter py near rest := by
  match near with
  | [] => simp [dollarQuoteDelimiter, semicolon_ends_word]
  | c :: more => rfl

/-- Behind a semicolon the splitter reads on as at the front of a text. -/
theorem scan_behind (s : Splitter) (near older : List Char) (c : Char) (rest : List Char) :
    Splitter.scan py standardConformingStrings s (near ++ ';' :: older) c rest =
      Splitter.scan py standardConformingStrings s near c rest := by
  unfold Splitter.scan
  rw [isEscapeString_behind, dollarQuoteDelimiter_behind]

end Behind

/-! ### The keyword behind an END -/

/-- How a reader that looks for the next keyword would go on inside a mode. -/
def Mode.place : Mode → Option Place
  | .normal => some .between
  | .lineComment => some .line
  | .blockComment depth => some (.block depth)
  | .singleQuote _ | .doubleQuote | .dollarQuote _ => none

/-- A keyword that is still to be ignored is the next one of the text. -/
def Awaited (py : Characters) (s : Splitter) (text : List Char) : Prop :=
  ∀ keyword, s.ignoredEndSuffix = some keyword →
    ∃ place, s.mode.place = some place ∧ nextKeyword py place 0 text = some keyword

/-- A word has a character at least. -/
theorem keywordAt_length {py : Characters} {text : List Char} {word : String} {length : Nat}
    (read : keywordAt py text = some (word, length)) : 1 ≤ length := by
  cases text with
  | nil => cases read
  | cons c rest =>
      rw [keywordAt] at read
      split_ifs at read
      cases read
      exact Nat.succ_le_succ (Nat.zero_le _)

section Steps

variable {py : Characters} {standardConformingStrings : Bool} {s : Splitter}
  {before rest text : List Char} {c : Char}

theorem Awaited.of_settled (settled : s.ignoredEndSuffix = none) : Awaited py s text :=
  fun _ ignored => nomatch settled.symm.trans ignored

theorem Awaited.settled {place : Place} (awaited : Awaited py s text)
    (mode : s.mode.place = some place) (noWord : nextKeyword py place 0 text = none) :
    s.ignoredEndSuffix = none := by
  cases ignored : s.ignoredEndSuffix with
  | none => rfl
  | some keyword =>
      obtain ⟨place', mode', next⟩ := awaited keyword ignored
      obtain rfl := Option.some.inj (mode.symm.trans mode')
      rw [noWord] at next
      cases next

/-- No keyword is awaited inside a literal. -/
theorem Awaited.settled_inside (awaited : Awaited py s text) (mode : s.mode.place = none) :
    s.ignoredEndSuffix = none := by
  cases ignored : s.ignoredEndSuffix with
  | none => rfl
  | some keyword =>
      obtain ⟨place, mode', -⟩ := awaited keyword ignored
      rw [mode] at mode'
      cases mode'

/-- A step in front of the same keyword. -/
theorem Awaited.move {s' : Splitter} {text' : List Char} {place place' : Place}
    (awaited : Awaited py s text) (ignored : s'.ignoredEndSuffix = s.ignoredEndSuffix)
    (mode : s.mode.place = some place) (mode' : s'.mode.place = some place')
    (same : nextKeyword py place 0 text = nextKeyword py place' 0 text') : Awaited py s' text' := by
  intro keyword found
  obtain ⟨at_, mode'', next⟩ := awaited keyword (ignored ▸ found)
  obtain rfl := Option.some.inj (mode.symm.trans mode'')
  exact ⟨place', mode', same ▸ next⟩

/-- Behind a word, what is awaited is the keyword that an END looked ahead to. -/
theorem Awaited.keyword {word : String} {following : List Char} (mode : s.mode = .normal)
    (same : ∀ keyword, s.ignoredEndSuffix = some keyword → keyword = word) :
    Awaited py (s.keyword py word following) following := by
  intro keyword found
  refine ⟨.between, by rw [keyword_mode, mode]; rfl, ?_⟩
  unfold Splitter.keyword at found
  simp only at found
  split_ifs at found with ignored
  -- the awaited keyword was read, or END looks ahead to one, or nothing changed
  all_goals first
    | cases found
    | exact found
    | exact absurd (same keyword found ▸ found) ignored

theorem scan_normal_awaited (awaited : Awaited py s (c :: rest)) (mode : s.mode = .normal) :
    Awaited py (Splitter.scan py standardConformingStrings s before c rest).state
      (rest.drop (Splitter.scan py standardConformingStrings s before c rest).skip) := by
  have between : s.mode.place = some .between := by rw [mode]; rfl
  simp only [Splitter.scan, mode]
  by_cases line : startsWith "--" (c :: rest) = true
  · simp only [line, if_true]
    exact awaited.move rfl between rfl (nextKeyword_line line)
  by_cases block : startsWith "/*" (c :: rest) = true
  · simp only [line, block, if_true, Bool.false_eq_true, if_false]
    exact awaited.move rfl between rfl (nextKeyword_block block)
  have noLine : startsWith "--" (c :: rest) = false := by simpa using line
  have noBlock : startsWith "/*" (c :: rest) = false := by simpa using block
  simp only [noLine, noBlock, Bool.false_eq_true, if_false]
  have sign : isSpace c = false → keywordAt py (c :: rest) = none → s.ignoredEndSuffix = none := by
    intro noSpace noWord
    refine awaited.settled between ?_
    rw [nextKeyword_token noSpace noLine noBlock, noWord]
    rfl
  by_cases quote : c = '\''
  · subst quote
    exact Awaited.of_settled (sign (by decide) (keywordAt_none (by decide)))
  by_cases double : c = '"'
  · subst double
    exact Awaited.of_settled (sign (by decide) (keywordAt_none (by decide)))
  simp only [quote, double, if_false]
  cases delimited : if c = '$' then dollarQuoteDelimiter py before rest else none with
  | some delimiter =>
      have dollar : c = '$' := by
        by_contra other
        rw [if_neg other] at delimited
        cases delimited
      subst dollar
      exact Awaited.of_settled (sign (by decide) (keywordAt_none (by decide)))
  | none =>
      cases read : keywordAt py (c :: rest) with
      | none =>
          simp only
          cases space : isSpace c with
          | true => exact awaited.move rfl between between (nextKeyword_space space)
          | false => exact Awaited.of_settled (sign space read)
      | some found =>
          obtain ⟨word, length⟩ := found
          have landing : rest.drop (length - 1) = (c :: rest).drop length := by
            obtain ⟨more, rfl⟩ := Nat.exists_eq_add_of_le' (keywordAt_length read)
            rfl
          rw [landing]
          refine Awaited.keyword mode fun keyword ignored => ?_
          obtain ⟨place, mode', next⟩ := awaited keyword ignored
          obtain rfl := Option.some.inj (between.symm.trans mode')
          rw [nextKeyword_token (blank_of_keywordAt read).1 noLine noBlock, read] at next
          exact (Option.some.inj next).symm

theorem scan_line_awaited (noReturn : '\r' ∉ c :: rest) (awaited : Awaited py s (c :: rest))
    (mode : s.mode = .lineComment) :
    Awaited py (Splitter.scan py standardConformingStrings s before c rest).state
      (rest.drop (Splitter.scan py standardConformingStrings s before c rest).skip) := by
  have line : s.mode.place = some .line := by rw [mode]; rfl
  have noEnd : c ≠ '\r' := fun same => noReturn (same ▸ List.mem_cons_self)
  simp only [Splitter.scan, mode]
  by_cases ends : c = '\n'
  · subst ends
    exact awaited.move rfl line rfl (by rw [nextKeyword, if_pos rfl]; rfl)
  · simp only [ends, noEnd, decide_false, Bool.or_self, Bool.false_eq_true, if_false]
    exact awaited.move rfl line line (by rw [nextKeyword, if_neg ends]; rfl)

theorem scan_block_awaited {depth : Nat} (awaited : Awaited py s (c :: rest))
    (mode : s.mode = .blockComment depth) :
    Awaited py (Splitter.scan py standardConformingStrings s before c rest).state
      (rest.drop (Splitter.scan py standardConformingStrings s before c rest).skip) := by
  have block : s.mode.place = some (.block depth) := by rw [mode]; rfl
  simp only [Splitter.scan, mode]
  by_cases opens : startsWith "/*" (c :: rest) = true
  · simp only [opens, if_true]
    exact awaited.move rfl block rfl (by rw [nextKeyword, if_pos opens, nextKeyword_skip])
  by_cases closes : startsWith "*/" (c :: rest) = true
  · simp only [opens, closes, Bool.false_eq_true, if_false, if_true]
    by_cases outer : depth = 1
    · simp only [outer, if_true]
      refine awaited.move rfl block rfl ?_
      rw [nextKeyword, if_neg opens, if_pos closes, if_pos outer, nextKeyword_skip]
    · simp only [outer, if_false]
      refine awaited.move rfl block rfl ?_
      rw [nextKeyword, if_neg opens, if_pos closes, if_neg outer, nextKeyword_skip]
  · simp only [opens, closes, Bool.false_eq_true, if_false]
    exact awaited.move rfl block block (by rw [nextKeyword, if_neg opens, if_neg closes]; rfl)

/-- Inside a literal the splitter waits for nothing, and goes on so. -/
theorem scan_inside_settled (mode : s.mode.place = none) :
    (Splitter.scan py standardConformingStrings s before c rest).state.ignoredEndSuffix =
      s.ignoredEndSuffix := by
  unfold Splitter.scan
  cases quoted : s.mode with
  | normal => rw [quoted] at mode; cases mode
  | lineComment => rw [quoted] at mode; cases mode
  | blockComment depth => rw [quoted] at mode; cases mode
  | singleQuote escapes => simp only; split_ifs <;> rfl
  | doubleQuote => simp only; split_ifs <;> rfl
  | dollarQuote delimiter => simp only; split_ifs <;> rfl

theorem Awaited.scan (noReturn : '\r' ∉ c :: rest) (awaited : Awaited py s (c :: rest)) :
    Awaited py (Splitter.scan py standardConformingStrings s before c rest).state
      (rest.drop (Splitter.scan py standardConformingStrings s before c rest).skip) := by
  have inside : s.mode.place = none →
      Awaited py (Splitter.scan py standardConformingStrings s before c rest).state
        (rest.drop (Splitter.scan py standardConformingStrings s before c rest).skip) := by
    intro quoted
    exact Awaited.of_settled ((scan_inside_settled quoted).trans (awaited.settled_inside quoted))
  cases mode : s.mode with
  | normal => exact scan_normal_awaited awaited mode
  | lineComment => exact scan_line_awaited noReturn awaited mode
  | blockComment depth => exact scan_block_awaited awaited mode
  | singleQuote escapes => exact inside (by rw [mode]; rfl)
  | doubleQuote => exact inside (by rw [mode]; rfl)
  | dollarQuote delimiter => exact inside (by rw [mode]; rfl)

theorem nextKeyword_semicolon : nextKeyword py .between 0 (';' :: rest) = none := by
  have noLine : startsWith "--" (';' :: rest) = false := by
    by_contra line
    cases line_first (by simpa using line)
  have noBlock : startsWith "/*" (';' :: rest) = false := by
    by_contra block
    cases block_first (by simpa using block)
  rw [nextKeyword_token (by decide) noLine noBlock, keywordAt_none (by decide)]
  rfl

/-- The splitter cuts at semicolons outside of blocks only. -/
theorem scan_cut (cut : (Splitter.scan py standardConformingStrings s before c rest).cut = true) :
    c = ';' ∧ s.mode = .normal ∧ s.atomicBlocks = [] ∧
      Splitter.scan py standardConformingStrings s before c rest =
        { state := s, skip := 0, cut := true } := by
  unfold Splitter.scan at cut ⊢
  cases mode : s.mode with
  | normal =>
      simp only [mode] at cut ⊢
      by_cases line : startsWith "--" (c :: rest) = true
      · simp [line] at cut
      by_cases block : startsWith "/*" (c :: rest) = true
      · simp [line, block] at cut
      by_cases quote : c = '\''
      · rw [if_neg line, if_neg block, if_pos quote] at cut
        cases cut
      by_cases double : c = '"'
      · rw [if_neg line, if_neg block, if_neg quote, if_pos double] at cut
        cases cut
      simp only [line, block, quote, double, Bool.false_eq_true, if_false] at cut ⊢
      cases delimited : if c = '$' then dollarQuoteDelimiter py before rest else none with
      | some delimiter => simp [delimited] at cut
      | none =>
          cases read : keywordAt py (c :: rest) with
          | some found => simp [delimited, read] at cut
          | none =>
              simp only [delimited, read, Bool.and_eq_true, decide_eq_true_eq] at cut
              obtain ⟨rfl, outside⟩ := cut
              simp [outside]
  | lineComment => simp [mode] at cut
  | blockComment depth =>
      simp only [mode] at cut
      split_ifs at cut
  | singleQuote escapes =>
      simp only [mode] at cut
      split_ifs at cut
  | doubleQuote =>
      simp only [mode] at cut
      split_ifs at cut
  | dollarQuote delimiter =>
      simp only [mode] at cut
      split_ifs at cut

/-- A cut leaves the splitter as it started. -/
theorem scan_cut_fresh (awaited : Awaited py s (c :: rest))
    (cut : (Splitter.scan py standardConformingStrings s before c rest).cut = true) :
    c = ';' ∧ (Splitter.scan py standardConformingStrings s before c rest).state = {} ∧
      (Splitter.scan py standardConformingStrings s before c rest).skip = 0 := by
  obtain ⟨semicolon, mode, outside, same⟩ := scan_cut cut
  refine ⟨semicolon, ?_, by rw [same]⟩
  have settled : s.ignoredEndSuffix = none := by
    subst semicolon
    have between : s.mode.place = some .between := by rw [mode]; rfl
    exact awaited.settled between nextKeyword_semicolon
  rw [same]
  obtain ⟨mode_, blocks, suffix⟩ := s
  simp_all

end Steps

/-! ### Scanning again from a cut -/

/-- The invariant of the scan: in front of a text without carriage returns, what the splitter waits
for comes next. -/
structure Resumable (py : Characters) (s : Splitter) (text : List Char) : Prop where
  noReturn : '\r' ∉ text
  awaited : Awaited py s text

section Resuming

variable {py : Characters} {standardConformingStrings : Bool} {s : Splitter}
  {before rest text : List Char} {c : Char}

theorem Resumable.start (noReturn : '\r' ∉ text) : Resumable py {} text :=
  ⟨noReturn, Awaited.of_settled rfl⟩

theorem Resumable.scan (resumable : Resumable py s (c :: rest)) :
    Resumable py (Splitter.scan py standardConformingStrings s before c rest).state
      (rest.drop (Splitter.scan py standardConformingStrings s before c rest).skip) :=
  ⟨noReturn_drop resumable.noReturn _, resumable.awaited.scan resumable.noReturn⟩

theorem Resumable.cut (resumable : Resumable py s (c :: rest))
    (cut : (Splitter.scan py standardConformingStrings s before c rest).cut = true) :
    (Splitter.scan py standardConformingStrings s before c rest).state = {} ∧
      (Splitter.scan py standardConformingStrings s before c rest).skip = 0 ∧
      ∀ older s near c' rest', Splitter.scan py standardConformingStrings s (near ++ c :: older) c' rest' =
        Splitter.scan py standardConformingStrings s near c' rest' := by
  obtain ⟨rfl, fresh, noSkip⟩ := scan_cut_fresh resumable.awaited cut
  exact ⟨fresh, noSkip, fun older s near c' rest' =>
    scan_behind py standardConformingStrings s near older c' rest'⟩

end Resuming

/-! ### Taking one statement at a time -/

section Loop

variable (py : Characters) (standardConformingStrings : Bool)

/-- `_split_postgres_statements`. -/
def splitPostgresStatements (sql : String) : List String :=
  (iterPostgresStatements py standardConformingStrings sql).map Prod.fst

/-- The statement loop of `_migrate_connection` under a setting that stays: each statement with the
text it was taken from, and what remains at the end. -/
def statementLoop : (fuel : Nat) → String → Option (List (String × String) × String)
  | 0, _ => none
  | fuel + 1, remaining =>
      if remaining = "" then some ([], remaining)
      else
        match (iterPostgresStatements py standardConformingStrings remaining).head? with
        | none => some ([], remaining)
        | some (statement, consumed) =>
            let front := String.ofList (remaining.toList.take consumed)
            (statementLoop fuel (String.ofList (remaining.toList.drop consumed))).map
              fun (taken, rest) => ((statement, front) :: taken, rest)

/-- Whether a piece is yielded, and as what. -/
def yieldedPiece (entry : List Char × Nat) : Option (String × Nat) :=
  let statement := strip entry.1
  if statement ≠ "" && !isSqlEmpty statement then some (statement, entry.2) else none

theorem iterPostgresStatements_eq (sql : String) :
    iterPostgresStatements py standardConformingStrings sql =
      (splitPieces py standardConformingStrings sql).filterMap yieldedPiece :=
  rfl

theorem yieldedPiece_shift (distance : Nat) (entry : List Char × Nat) :
    (yieldedPiece (shift distance entry)).map Prod.fst = (yieldedPiece entry).map Prod.fst := by
  unfold yieldedPiece shift
  simp only
  split_ifs <;> rfl

theorem statements_shift (distance : Nat) (entries : List (List Char × Nat)) :
    ((entries.map (shift distance)).filterMap yieldedPiece).map Prod.fst =
      (entries.filterMap yieldedPiece).map Prod.fst := by
  simp only [List.filterMap_map, List.map_filterMap]
  congr 1
  funext entry
  exact yieldedPiece_shift distance entry

theorem iterPostgresStatements_empty :
    iterPostgresStatements py standardConformingStrings "" = [] := by
  simp [iterPostgresStatements, splitPieces, pieces, strip]

variable {py standardConformingStrings}

/-- What follows the first statement is what is found in the text behind it. -/
theorem iter_resume {sql statement : String} {consumed : Nat} {later : List (String × Nat)}
    (noReturn : '\r' ∉ sql.toList)
    (first : iterPostgresStatements py standardConformingStrings sql = (statement, consumed) :: later) :
    0 < consumed ∧ later.map Prod.fst =
      splitPostgresStatements py standardConformingStrings
        (String.ofList (sql.toList.drop consumed)) := by
  rw [iterPostgresStatements_eq, List.filterMap_eq_cons_iff] at first
  obtain ⟨left, ⟨piece, position⟩, right, split, -, yields, rest⟩ := first
  have here : position = consumed := by
    unfold yieldedPiece at yields
    simp only at yields
    split_ifs at yields
    exact (Prod.mk.inj (Option.some.inj yields)).2
  subst here
  rw [← rest, splitPostgresStatements, iterPostgresStatements_eq, splitPieces, String.toList_ofList]
  rw [splitPieces] at split
  by_cases more : right = []
  · subst more
    have whole : position = sql.toList.length := by simpa using position_of_last split
    refine ⟨?_, ?_⟩
    · rw [whole, List.length_pos_iff]
      intro empty
      rw [empty] at split
      obtain ⟨rfl, -⟩ : piece = [] ∧ True := ⟨by
        cases left <;> simp_all [pieces], trivial⟩
      simp [yieldedPiece, strip] at yields
    · rw [whole, List.drop_length]
      simp [pieces, yieldedPiece, strip]
  · have start : Resumable py {} (sql.toList.drop 0) := Resumable.start noReturn
    obtain ⟨consumed, some_, -, reached, same⟩ :=
      pieces_resume (fun _ _ _ _ here => here.scan) (fun _ _ _ _ here cut => here.cut cut)
        start split more
    obtain rfl : position = consumed := by simpa using reached
    exact ⟨some_, by rw [same, statements_shift]⟩

/-- The loop ends, and takes the statements of one pass; the texts it takes them from make up the
front of the migration, and what remains holds no statement. -/
theorem statementLoop_eq_split {sql : String} (noReturn : '\r' ∉ sql.toList) {fuel : Nat}
    (enough : sql.toList.length < fuel) :
    ∃ taken remaining, statementLoop py standardConformingStrings fuel sql = some (taken, remaining) ∧
      taken.map Prod.fst = splitPostgresStatements py standardConformingStrings sql ∧
      sql.toList = (taken.flatMap fun entry => entry.2.toList) ++ remaining.toList ∧
      splitPostgresStatements py standardConformingStrings remaining = [] := by
  induction fuel generalizing sql with
  | zero => omega
  | succ fuel ih =>
      by_cases empty : sql = ""
      · refine ⟨[], sql, by rw [statementLoop, if_pos empty], ?_, by simp, ?_⟩
        · rw [splitPostgresStatements, empty, iterPostgresStatements_empty]
          rfl
        · rw [splitPostgresStatements, empty, iterPostgresStatements_empty]
          rfl
      cases found : iterPostgresStatements py standardConformingStrings sql with
      | nil =>
          refine ⟨[], sql, by rw [statementLoop, if_neg empty, found]; rfl, ?_, by simp, ?_⟩
          · rw [splitPostgresStatements, found]
            rfl
          · rw [splitPostgresStatements, found]
            rfl
      | cons first later =>
          obtain ⟨statement, consumed⟩ := first
          obtain ⟨some_, resumed⟩ := iter_resume noReturn found
          obtain ⟨taken, remaining, ended, statements, texts, none_⟩ :=
            @ih (String.ofList (sql.toList.drop consumed))
              (fun inside => noReturn (List.mem_of_mem_drop (by simpa using inside)))
              (by
                have shorter : 0 < sql.toList.length := by
                  rw [List.length_pos_iff]
                  exact fun none_ => empty (String.toList_eq_nil_iff.mp none_)
                rw [String.toList_ofList, List.length_drop]
                omega)
          refine ⟨(statement, String.ofList (sql.toList.take consumed)) :: taken, remaining, ?_, ?_,
            ?_, none_⟩
          · rw [statementLoop, if_neg empty, found]
            simp only [List.head?_cons, ended, Option.map_some]
          · have whole : splitPostgresStatements py standardConformingStrings sql =
                statement :: later.map Prod.fst := by
              rw [splitPostgresStatements, found, List.map_cons]
            rw [List.map_cons, statements, whole, resumed]
          · rw [String.toList_ofList] at texts
            rw [List.flatMap_cons, String.toList_ofList, List.append_assoc, ← texts,
              List.take_append_drop]

/-- The body of a routine, an empty statement and a comment at the end. -/
theorem statementLoop_eq_split_routine :
    ∃ taken remaining, statementLoop Characters.ofAscii true 90
        "CREATE FUNCTION f() BEGIN ATOMIC SELECT CASE WHEN a THEN 1 END; END; ; SELECT 1; -- done" =
        some (taken, remaining) ∧
      taken.map Prod.fst = splitPostgresStatements Characters.ofAscii true
        "CREATE FUNCTION f() BEGIN ATOMIC SELECT CASE WHEN a THEN 1 END; END; ; SELECT 1; -- done" ∧
      "CREATE FUNCTION f() BEGIN ATOMIC SELECT CASE WHEN a THEN 1 END; END; ; SELECT 1; -- done".toList =
        (taken.flatMap fun entry => entry.2.toList) ++ remaining.toList ∧
      splitPostgresStatements Characters.ofAscii true remaining = [] :=
  statementLoop_eq_split (by decide) (by decide)

end Loop

end Relq.Migrate
