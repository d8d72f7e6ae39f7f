/-
Module: Relq.Migrate.Splitting
Layer: Migrate
Purpose: The splitter cuts a migration where PostgreSQL's statements end, as long as the two readers
  tell the same literals, words and bodies apart. The reader of the server runs ahead of the splitter
  in lock step; what the splitter remembers about blocks is what the brackets of the reader say.
Imports: Relq.Migrate.Splitter, Relq.Migrate.Statements
Trusted boundary: none (fully proved)
Main exports: Reader.alike, readsAlike, Related, splitPieces_eq_statementPieces,
  splitsExactly_of_readsAlike
-/
import Relq.Migrate.Splitter
import Relq.Migrate.Statements

namespace Relq.Migrate

open Python (Characters asciiUpper isSpace isAscii)
open Scanners

/-! ### Where the two readings are the same -/

section Alike

variable (py : Characters)

/-- The words that the migrator looks for. -/
def keywords : List String :=
  ["BEGIN", "ATOMIC", "CASE", "END", "IF", "LOOP", "WHILE", "ABORT", "COMMIT", "ROLLBACK",
    "SAVEPOINT", "RELEASE", "START", "PREPARE", "SET", "TRANSACTION", "CONSTRAINTS", "SESSION",
    "CHARACTERISTICS"]

/-- The migrator reads a word of the server as one word too, and takes no other word for a keyword. -/
def sameWord (text word : List Char) : Bool :=
  (keywordAt py text).any fun (keyword, length) =>
    length = word.length &&
      (keyword = asciiUpper word || (keyword ∉ keywords && asciiUpper word ∉ keywords))

/-- BEGIN ATOMIC opens the body of a routine and nothing else; inside a body, BEGIN begins a
statement, CASE is no label unless it stands behind END, and END closes what is open innermost. -/
def sameBlocks (r : Reader) (word : String) (following : List Char) : Bool :=
  if !r.inBody then
    word ≠ "BEGIN" ||
      decide (nextKeyword py .between 0 following = some "ATOMIC") =
        (r.brackets = [] && r.lead = .routine && serverAhead .between 0 following = .word "ATOMIC")
  else if word = "BEGIN" then r.brackets.head? = some .body && r.beginsStatement
  else if word = "CASE" then r.previous = .word "END" || !r.labelsCase following
  else if word = "END" then
    match r.brackets with
    | .case :: _ => !r.isLabel
    | .body :: _ => r.beginsStatement
    | _ => false
  else true

/-- What the reader of the server meets is read alike by the splitter. -/
def Reader.alike (r : Reader) (before : List Char) (c : Char) (rest : List Char) : Bool :=
  match r.lexing with
  | .tokens =>
      if startsWith "--" (c :: rest) || startsWith "/*" (c :: rest) || c = '"' then true
      else if c = '\'' then
        r.continuation = some true || isEscapeString py true before = r.escapes before
      else if c = '$' then dollarQuoteDelimiter py before rest = serverDelimiter rest
      else
        match serverWord (c :: rest) with
        | some word =>
            sameWord py (c :: rest) word &&
              sameBlocks py r (asciiUpper word) ((c :: rest).drop word.length)
        | none =>
            if c = ';' then r.brackets = [] || r.inBody else postgresSpace c || !isSpace c
  | .literal _ continued => !(continued && c = '\\')
  | _ => true

end Alike

/-! ### The relation between the readers -/

/-- The blocks of the splitter are the brackets that are no parentheses. -/
def Bracket.block : Bracket → Option String
  | .paren => none
  | .body => some "BEGIN"
  | .case => some "CASE"

def blocks (brackets : List Bracket) : List String :=
  brackets.filterMap Bracket.block

theorem blocks_eq_nil_iff (r : Reader) : blocks r.brackets = [] ↔ r.inBody = false := by
  simp only [blocks, Reader.inBody, List.filterMap_eq_nil_iff, List.any_eq_false]
  refine forall₂_congr fun bracket _ => ?_
  cases bracket <;> simp [Bracket.block]

/-- The keyword behind an END is remembered until it is read. -/
structure Pending (py : Characters) (s : Splitter) (r : Reader) (place : Place) (text : List Char) :
    Prop where
  ignored : ∀ keyword, s.ignoredEndSuffix = some keyword →
    keyword ∈ ["CASE", "IF", "LOOP", "WHILE"] ∧ r.previous = .word "END" ∧
      nextKeyword py place 0 text = some keyword
  case_ : r.previous = .word "END" → s.atomicBlocks ≠ [] →
    nextKeyword py place 0 text = some "CASE" → s.ignoredEndSuffix = some "CASE"

/-- Inside a literal nothing is pending. -/
def Inside (s : Splitter) (r : Reader) : Prop :=
  s.ignoredEndSuffix = none ∧ r.previous = .other

def Modes (py : Characters) (s : Splitter) (r : Reader) (text : List Char) : Prop :=
  match s.mode, r.lexing with
  | .normal, .tokens => Pending py s r .between text
  | .lineComment, .line => Pending py s r .line text
  | .blockComment depth, .block depth' => depth = depth' ∧ Pending py s r (.block depth) text
  | .singleQuote escapes, .literal escapes' continued =>
      (continued = false → escapes = escapes') ∧ Inside s r
  | .doubleQuote, .quoted => Inside s r
  | .dollarQuote delimiter, .dollar delimiter' => delimiter = delimiter' ∧ Inside s r
  | _, _ => False

structure Related (py : Characters) (s : Splitter) (r : Reader) (text : List Char) : Prop where
  noReturn : '\r' ∉ text
  atomicBlocks : s.atomicBlocks = blocks r.brackets
  modes : Modes py s r text

/-! ### Looking ahead -/

section Lookahead

variable {py : Characters} {place : Place} {text rest : List Char} {c : Char}

theorem nextKeyword_skip (skip : Nat) :
    nextKeyword py place skip text = nextKeyword py place 0 (text.drop skip) := by
  induction text generalizing skip with
  | nil => cases place <;> cases skip <;> rfl
  | cons c rest ih =>
      cases skip with
      | zero => rfl
      | succ skip => rw [nextKeyword, ih, List.drop_succ_cons]

theorem startsWith_cons {first : Char} {more : List Char} {mark : String}
    (letters : mark.toList = first :: more) (starts : startsWith mark (c :: rest) = true) :
    c = first := by
  rw [startsWith, letters, List.isPrefixOf_cons_cons, Bool.and_eq_true] at starts
  exact (eq_of_beq starts.1).symm

theorem line_first (starts : startsWith "--" (c :: rest) = true) : c = '-' :=
  startsWith_cons rfl starts

theorem block_first (starts : startsWith "/*" (c :: rest) = true) : c = '/' :=
  startsWith_cons rfl starts

theorem nextKeyword_line (starts : startsWith "--" (c :: rest) = true) :
    nextKeyword py .between 0 (c :: rest) = nextKeyword py .line 0 (rest.drop 1) := by
  obtain rfl := line_first starts
  rw [nextKeyword, if_neg (by decide), if_pos starts, nextKeyword_skip]

theorem nextKeyword_block (starts : startsWith "/*" (c :: rest) = true) :
    nextKeyword py .between 0 (c :: rest) = nextKeyword py (.block 1) 0 (rest.drop 1) := by
  obtain rfl := block_first starts
  have noLine : ¬ startsWith "--" ('/' :: rest) = true := fun line => by
    cases line_first line
  rw [nextKeyword, if_neg (by decide), if_neg noLine, if_pos starts, nextKeyword_skip]

theorem nextKeyword_space (space : isSpace c = true) :
    nextKeyword py .between 0 (c :: rest) = nextKeyword py .between 0 rest := by
  rw [nextKeyword, if_pos space]

theorem nextKeyword_token (noSpace : isSpace c = false)
    (noLine : startsWith "--" (c :: rest) = false) (noBlock : startsWith "/*" (c :: rest) = false) :
    nextKeyword py .between 0 (c :: rest) = (keywordAt py (c :: rest)).map Prod.fst := by
  rw [nextKeyword, if_neg (by simp [noSpace]), if_neg (by simp [noLine]), if_neg (by simp [noBlock])]

end Lookahead

/-- A step that leaves what is pending in front of the same keyword. -/
theorem Pending.move {py : Characters} {s s' : Splitter} {r r' : Reader} {place place' : Place}
    {text text' : List Char} (pending : Pending py s r place text)
    (ignored : s'.ignoredEndSuffix = s.ignoredEndSuffix)
    (atomicBlocks : s'.atomicBlocks = s.atomicBlocks) (previous : r'.previous = r.previous)
    (same : nextKeyword py place 0 text = nextKeyword py place' 0 text') :
    Pending py s' r' place' text' where
  ignored := by
    rw [ignored, previous, ← same]
    exact pending.ignored
  case_ := by
    rw [ignored, atomicBlocks, previous, ← same]
    exact pending.case_

/-- In front of a token that is no word nothing is pending. -/
theorem Pending.settled {py : Characters} {s : Splitter} {r : Reader} {place : Place}
    {text : List Char} (pending : Pending py s r place text)
    (noWord : nextKeyword py place 0 text = none) : s.ignoredEndSuffix = none := by
  cases ignored : s.ignoredEndSuffix with
  | none => rfl
  | some keyword =>
      obtain ⟨-, -, next⟩ := pending.ignored keyword ignored
      rw [noWord] at next
      cases next

/-- Behind a token other than END nothing is pending either. -/
theorem Pending.fresh {py : Characters} {s : Splitter} {r : Reader} (place : Place)
    (text : List Char) (settled : s.ignoredEndSuffix = none) (previous : r.previous ≠ .word "END") :
    Pending py s r place text where
  ignored := by simp [settled]
  case_ := fun end_ => absurd end_ previous

/-! ### Words -/

section Words

variable {py : Characters} {s : Splitter} {r : Reader} {text following : List Char}
  {keyword word : String}

theorem Reader.word_previous : (r.word word following).previous = .word word := rfl

/-- The keyword behind an END is skipped, and the reader of the server takes it for a label. -/
theorem keyword_ignored (atomicBlocks : s.atomicBlocks = blocks r.brackets)
    (pending : Pending py s r .between text) (ignored : s.ignoredEndSuffix = some keyword) :
    (s.keyword py keyword following).atomicBlocks = blocks (r.bracketsAfter keyword following) ∧
      Pending py (s.keyword py keyword following) (r.word keyword following) .between following := by
  obtain ⟨suffix, previous, -⟩ := pending.ignored keyword ignored
  have code : s.keyword py keyword following = { s with ignoredEndSuffix := none } := by
    rw [Splitter.keyword, if_pos ignored]
  have brackets : r.bracketsAfter keyword following = r.brackets := by
    simp only [List.mem_cons, List.not_mem_nil, or_false] at suffix
    rcases suffix with rfl | rfl | rfl | rfl <;> simp [Reader.bracketsAfter, Reader.labelsCase, previous]
  rw [code, brackets]
  refine ⟨atomicBlocks, Pending.fresh _ _ rfl ?_⟩
  rw [Reader.word_previous]
  simp only [List.mem_cons, List.not_mem_nil, or_false] at suffix
  rcases suffix with rfl | rfl | rfl | rfl <;> simp

/-- A word that is no keyword to either reader changes nothing. -/
theorem keyword_plain (atomicBlocks : s.atomicBlocks = blocks r.brackets)
    (settled : s.ignoredEndSuffix = none) (plain : keyword ∉ keywords) (plain' : word ∉ keywords) :
    (s.keyword py keyword following).atomicBlocks = blocks (r.bracketsAfter word following) ∧
      Pending py (s.keyword py keyword following) (r.word word following) .between following := by
  have ne : ∀ other ∈ keywords, keyword ≠ other := fun other inside same => plain (same ▸ inside)
  have ne' : ∀ other ∈ keywords, word ≠ other := fun other inside same => plain' (same ▸ inside)
  have code : s.keyword py keyword following = s := by
    simp [Splitter.keyword, settled, ne "BEGIN" (by decide), ne "CASE" (by decide),
      ne "END" (by decide)]
  have brackets : r.bracketsAfter word following = r.brackets := by
    simp [Reader.bracketsAfter, ne' "BEGIN" (by decide), ne' "CASE" (by decide),
      ne' "END" (by decide)]
  rw [code, brackets]
  refine ⟨atomicBlocks, Pending.fresh _ _ settled ?_⟩
  rw [Reader.word_previous]
  simpa using ne' "END" (by decide)

/-- Outside of a body only BEGIN ATOMIC is more than a word. -/
theorem keyword_outside (atomicBlocks : s.atomicBlocks = blocks r.brackets)
    (settled : s.ignoredEndSuffix = none) (outside : r.inBody = false)
    (same : sameBlocks py r keyword following = true) :
    (s.keyword py keyword following).atomicBlocks = blocks (r.bracketsAfter keyword following) ∧
      Pending py (s.keyword py keyword following) (r.word keyword following) .between following := by
  have none_ : s.atomicBlocks = [] := atomicBlocks.trans ((blocks_eq_nil_iff r).mpr outside)
  by_cases begin_ : keyword = "BEGIN"
  · subst begin_
    have atomic : decide (nextKeyword py .between 0 following = some "ATOMIC") =
        (r.brackets = [] && r.lead = .routine &&
          serverAhead .between 0 following = .word "ATOMIC") := by
      simpa [sameBlocks, outside] using same
    refine ⟨?_, Pending.fresh _ _ ?_ (by simp [Reader.word_previous])⟩
    · by_cases next : nextKeyword py .between 0 following = some "ATOMIC"
      · rw [decide_eq_true next, eq_comm] at atomic
        simp only [Bool.and_eq_true, decide_eq_true_eq] at atomic
        obtain ⟨⟨empty, routine⟩, next'⟩ := atomic
        simp [Splitter.keyword, settled, none_, next, Reader.bracketsAfter, empty, routine, next',
          blocks, Bracket.block]
      · rw [decide_eq_false next, eq_comm] at atomic
        have code : s.keyword py "BEGIN" following = s := by
          simp [Splitter.keyword, settled, none_, next]
        have brackets : r.bracketsAfter "BEGIN" following = r.brackets := by
          by_cases empty : r.brackets = []
          · simp only [empty, decide_true, Bool.true_and] at atomic
            simp [Reader.bracketsAfter, empty, atomic]
          · have noBody : r.brackets.head? ≠ some .body := by
              intro head
              have inside : r.inBody = true :=
                List.any_eq_true.mpr ⟨.body, List.mem_of_mem_head? head, rfl⟩
              rw [outside] at inside
              cases inside
            simp [Reader.bracketsAfter, empty, noBody]
        rw [code, brackets]
        exact atomicBlocks
    · by_cases next : nextKeyword py .between 0 following = some "ATOMIC" <;>
        simp [Splitter.keyword, settled, none_, next]
  · have code : s.keyword py keyword following = s := by
      simp [Splitter.keyword, settled, none_, begin_]
    have brackets : r.bracketsAfter keyword following = r.brackets := by
      unfold Reader.bracketsAfter
      rw [if_neg begin_]
      split
      · simp [outside]
      · split
        · unfold Reader.inBody at outside
          split <;> simp_all
        · rfl
    rw [code, brackets]
    refine ⟨atomicBlocks, ⟨by simp [settled], fun _ some_ => absurd none_ some_⟩⟩

/-- Inside a body, BEGIN, CASE and END move both stacks. -/
theorem keyword_inside (atomicBlocks : s.atomicBlocks = blocks r.brackets)
    (settled : s.ignoredEndSuffix = none) (inside : r.inBody = true)
    (same : sameBlocks py r keyword following = true)
    (behindEnd : r.previous = .word "END" → keyword ≠ "CASE") :
    (s.keyword py keyword following).atomicBlocks = blocks (r.bracketsAfter keyword following) ∧
      Pending py (s.keyword py keyword following) (r.word keyword following) .between following := by
  have some_ : s.atomicBlocks ≠ [] := by
    rw [atomicBlocks, Ne, blocks_eq_nil_iff, inside]
    decide
  have brackets : r.brackets ≠ [] := by
    intro empty
    simp [Reader.inBody, empty] at inside
  by_cases begin_ : keyword = "BEGIN"
  · subst begin_
    obtain ⟨head, begins⟩ : r.brackets.head? = some .body ∧ r.beginsStatement = true := by
      simpa [sameBlocks, inside] using same
    have code : s.keyword py "BEGIN" following = { s with atomicBlocks := "BEGIN" :: s.atomicBlocks } := by
      simp [Splitter.keyword, settled, some_]
    rw [code]
    refine ⟨?_, Pending.fresh _ _ settled (by simp [Reader.word_previous])⟩
    simp [Reader.bracketsAfter, brackets, head, begins, blocks, Bracket.block, atomicBlocks]
  by_cases case_ : keyword = "CASE"
  · subst case_
    have previous : r.previous ≠ .word "END" := fun end_ => behindEnd end_ rfl
    have noLabel : r.labelsCase following = false := by simpa [sameBlocks, inside, previous] using same
    have code : s.keyword py "CASE" following = { s with atomicBlocks := "CASE" :: s.atomicBlocks } := by
      simp [Splitter.keyword, settled, some_]
    rw [code]
    refine ⟨?_, Pending.fresh _ _ settled (by simp [Reader.word_previous])⟩
    simp [Reader.bracketsAfter, inside, noLabel, blocks, Bracket.block, atomicBlocks]
  by_cases end_ : keyword = "END"
  · subst end_
    have code : s.keyword py "END" following =
        { s with
          atomicBlocks := s.atomicBlocks.tail
          ignoredEndSuffix :=
            if nextKeyword py .between 0 following ∈
                [some "CASE", some "IF", some "LOOP", some "WHILE"] then
              nextKeyword py .between 0 following
            else none } := by
      simp [Splitter.keyword, settled, some_]
    have closes : r.bracketsAfter "END" following = r.brackets.tail ∧
        blocks r.brackets.tail = (blocks r.brackets).tail := by
      have same' := same
      simp only [sameBlocks, inside, Bool.not_true, Bool.false_eq_true, if_false] at same'
      cases open_ : r.brackets with
      | nil => exact absurd open_ brackets
      | cons bracket outer =>
          rw [open_] at same'
          cases bracket with
          | paren => simp at same'
          | body =>
              have begins : r.beginsStatement = true := by simpa using same'
              simp [Reader.bracketsAfter, open_, begins, blocks, Bracket.block]
          | case =>
              have noLabel : r.isLabel = false := by simpa using same'
              simp [Reader.bracketsAfter, open_, noLabel, blocks, Bracket.block]
    rw [code, closes.1, closes.2]
    refine ⟨by rw [atomicBlocks], ⟨fun suffix ignored => ?_, fun _ _ next => ?_⟩⟩
    · simp only at ignored
      split at ignored
      · rename_i among
        rw [ignored] at among
        exact ⟨by simpa using among, rfl, ignored⟩
      · cases ignored
    · simp [next]
  · have code : s.keyword py keyword following = s := by
      simp [Splitter.keyword, settled, some_, begin_, case_, end_]
    have kept : r.bracketsAfter keyword following = r.brackets := by
      simp [Reader.bracketsAfter, begin_, case_, end_]
    rw [code, kept]
    exact ⟨atomicBlocks, Pending.fresh _ _ settled (by simpa [Reader.word_previous] using end_)⟩

end Words

/-! ### One character -/

/-- Both scanners make the same move, into related states. -/
def Together (py : Characters) (a : Move Splitter) (b : Move Reader) (rest : List Char) : Prop :=
  a.skip = b.skip ∧ a.cut = b.cut ∧ Related py a.state b.state (rest.drop b.skip)

section Steps

variable {py : Characters} {s : Splitter} {r : Reader} {before rest : List Char} {c : Char}

theorem noReturn_drop (noReturn : '\r' ∉ c :: rest) (n : Nat) : '\r' ∉ rest.drop n :=
  fun inside => noReturn (List.mem_cons_of_mem _ (List.mem_of_mem_drop inside))

theorem keyword_mode (keyword : String) (following : List Char) :
    (s.keyword py keyword following).mode = s.mode := by
  unfold Splitter.keyword
  simp only
  split_ifs <;> rfl

/-- A word of the server is a word of the splitter. -/
theorem word_together (noReturn : '\r' ∉ c :: rest) (mode : s.mode = .normal)
    (lexing : r.lexing = .tokens) (atomicBlocks : s.atomicBlocks = blocks r.brackets)
    (pending : Pending py s r .between (c :: rest)) {keyword : String} {word : List Char}
    (next : nextKeyword py .between 0 (c :: rest) = some keyword)
    (same : keyword = asciiUpper word ∨ keyword ∉ keywords ∧ asciiUpper word ∉ keywords)
    (sameBlocks : sameBlocks py r (asciiUpper word) ((c :: rest).drop word.length) = true)
    (some_ : word.length ≠ 0) :
    Together py
      { state := s.keyword py keyword ((c :: rest).drop word.length), skip := word.length - 1 }
      { state := r.word (asciiUpper word) ((c :: rest).drop word.length), skip := word.length - 1 }
      rest := by
  have landing : rest.drop (word.length - 1) = (c :: rest).drop word.length := by
    cases length : word.length with
    | zero => exact absurd length some_
    | succ n => rfl
  have moved : (s.keyword py keyword ((c :: rest).drop word.length)).atomicBlocks =
      blocks (r.bracketsAfter (asciiUpper word) ((c :: rest).drop word.length)) ∧
      Pending py (s.keyword py keyword ((c :: rest).drop word.length))
        (r.word (asciiUpper word) ((c :: rest).drop word.length)) .between
        ((c :: rest).drop word.length) := by
    cases ignored : s.ignoredEndSuffix with
    | some suffix =>
        obtain ⟨among, -, next'⟩ := pending.ignored suffix ignored
        obtain rfl : keyword = suffix := Option.some.inj (next.symm.trans next')
        rcases same with rfl | ⟨plain, -⟩
        · exact keyword_ignored atomicBlocks pending ignored
        · refine absurd ?_ plain
          simp only [List.mem_cons, List.not_mem_nil, or_false] at among
          rcases among with rfl | rfl | rfl | rfl <;> decide
    | none =>
        rcases same with rfl | ⟨plain, plain'⟩
        · cases inside : r.inBody with
          | false => exact keyword_outside atomicBlocks ignored inside sameBlocks
          | true =>
              refine keyword_inside atomicBlocks ignored inside sameBlocks fun end_ case_ => ?_
              have some_ : s.atomicBlocks ≠ [] := by
                rw [atomicBlocks, Ne, blocks_eq_nil_iff, inside]
                decide
              have skipped := pending.case_ end_ some_ (case_ ▸ next)
              rw [ignored] at skipped
              cases skipped
        · exact keyword_plain atomicBlocks ignored plain plain'
  refine ⟨rfl, rfl, ⟨noReturn_drop noReturn _, moved.1, ?_⟩⟩
  have mode' : (s.keyword py keyword ((c :: rest).drop word.length)).mode = s.mode :=
    keyword_mode keyword _
  rw [mode] at mode'
  have lexing' : (r.word (asciiUpper word) ((c :: rest).drop word.length)).lexing = .tokens := lexing
  simp only [Modes, mode', lexing', landing]
  exact moved.2

/-- A token that is no word, and behind which nothing is pending. -/
theorem token_settled (noReturn : '\r' ∉ c :: rest) (atomicBlocks : s.atomicBlocks = blocks r.brackets)
    {s' : Splitter} {r' : Reader} (skip : Nat) (kept : s'.atomicBlocks = s.atomicBlocks)
    (kept' : blocks r'.brackets = blocks r.brackets)
    (modes : Modes py s' r' (rest.drop skip)) :
    Related py s' r' (rest.drop skip) :=
  ⟨noReturn_drop noReturn skip, by rw [kept, kept', atomicBlocks], modes⟩

theorem keywordAt_none (noWord : beginsWord c = false) : keywordAt py (c :: rest) = none := by
  simp only [beginsWord, Bool.or_eq_false_iff, Bool.not_eq_false', decide_eq_false_iff_not] at noWord
  obtain ⟨⟨ascii, noLetter⟩, noUnderscore⟩ := noWord
  rw [keywordAt, py.isAlpha_ascii c ascii, noLetter, if_neg (by simp [noUnderscore])]

theorem serverWord_none (noWord : beginsWord c = false) : serverWord (c :: rest) = none := by
  rw [serverWord, if_neg (by simp [noWord])]

/-- A quote or a sign comes when nothing is pending. -/
theorem settled_of_sign (pending : Pending py s r .between (c :: rest)) (noSpace : isSpace c = false)
    (noLine : startsWith "--" (c :: rest) = false) (noBlock : startsWith "/*" (c :: rest) = false)
    (noWord : beginsWord c = false) : s.ignoredEndSuffix = none := by
  refine pending.settled ?_
  rw [nextKeyword_token noSpace noLine noBlock, keywordAt_none noWord]
  rfl

/-- What neither reader takes for a word. -/
theorem sign_together (noReturn : '\r' ∉ c :: rest) (mode : s.mode = .normal)
    (lexing : r.lexing = .tokens) (atomicBlocks : s.atomicBlocks = blocks r.brackets)
    (settled : s.ignoredEndSuffix = none) (cuts : c = ';' → r.brackets = [] ∨ r.inBody = true) :
    Together py { state := s, cut := c = ';' && s.atomicBlocks = [] }
      (if c = '(' then
        { state := { r.token .other with brackets := .paren :: r.brackets } }
      else if c = ')' then
        { state := { r.token .other with
            brackets := if r.brackets.head? = some .paren then r.brackets.tail else r.brackets } }
      else if c = ';' then
        if r.brackets = [] then { state := {}, cut := true }
        else { state := r.token .semicolon }
      else { state := r.token (if c = '.' then .dot else .other) }) rest := by
  have modes : ∀ r' : Reader, r'.lexing = .tokens → r'.previous ≠ .word "END" →
      Modes py s r' (rest.drop 0) := by
    intro r' lexing' previous
    simp only [Modes, mode, lexing']
    exact Pending.fresh _ _ settled previous
  by_cases opens : c = '('
  · subst opens
    refine ⟨rfl, by simp, token_settled noReturn atomicBlocks 0 rfl rfl (modes _ lexing ?_)⟩
    simp [Reader.token]
  by_cases closes : c = ')'
  · subst closes
    have kept : blocks (if r.brackets.head? = some .paren then r.brackets.tail else r.brackets) =
        blocks r.brackets := by
      cases r.brackets with
      | nil => rfl
      | cons bracket outer => cases bracket <;> simp [blocks, List.filterMap_cons, Bracket.block]
    refine ⟨rfl, by simp, token_settled noReturn atomicBlocks 0 rfl kept (modes _ lexing ?_)⟩
    simp [Reader.token]
  by_cases semicolon : c = ';'
  · subst semicolon
    by_cases empty : r.brackets = []
    · have none_ : s.atomicBlocks = [] := by
        rw [atomicBlocks, empty]
        rfl
      simp only [empty, none_]
      refine ⟨rfl, by simp, ⟨noReturn_drop noReturn _, by rw [none_]; rfl, ?_⟩⟩
      exact modes {} rfl (by simp)
    · have inside : r.inBody = true := (cuts rfl).resolve_left empty
      have some_ : s.atomicBlocks ≠ [] := by
        rw [atomicBlocks, Ne, blocks_eq_nil_iff, inside]
        decide
      simp only [empty]
      refine ⟨rfl, by simp [some_], token_settled noReturn atomicBlocks 0 rfl rfl (modes _ lexing ?_)⟩
      simp [Reader.token]
  · simp only [opens, closes, semicolon, if_false]
    refine ⟨rfl, by simp, token_settled noReturn atomicBlocks 0 rfl rfl (modes _ lexing ?_)⟩
    simp only [Reader.token]
    split <;> simp

/-- A word of the splitter begins with neither white space nor a quote. -/
theorem blank_of_keywordAt {keyword : String} {length : Nat}
    (read : keywordAt py (c :: rest) = some (keyword, length)) : isSpace c = false ∧ c ≠ '"' := by
  cases letter : py.isAlpha c || c = '_' with
  | false => simp [keywordAt, letter] at read
  | true =>
      rcases (Bool.or_eq_true _ _).mp letter with letter | underscore
      · refine ⟨py.isSpace_of_isAlpha c letter, ?_⟩
        rintro rfl
        rw [py.isAlpha_ascii '"' (by decide)] at letter
        exact absurd letter (by decide)
      · obtain rfl : c = '_' := by simpa using underscore
        decide

theorem tokens_together (noReturn : '\r' ∉ c :: rest) (mode : s.mode = .normal)
    (lexing : r.lexing = .tokens) (atomicBlocks : s.atomicBlocks = blocks r.brackets)
    (pending : Pending py s r .between (c :: rest)) (alike : r.alike py before c rest = true) :
    Together py (Splitter.scan py true s before c rest) (Reader.scan r before c rest) rest := by
  simp only [Splitter.scan, Reader.scan, mode, lexing]
  rw [Reader.alike, lexing] at alike
  simp only at alike
  by_cases line : startsWith "--" (c :: rest) = true
  · simp only [line, if_true]
    refine ⟨rfl, rfl, token_settled noReturn atomicBlocks 1 rfl rfl ?_⟩
    exact pending.move rfl rfl rfl (nextKeyword_line line)
  by_cases block : startsWith "/*" (c :: rest) = true
  · simp only [line, block, if_true, Bool.false_eq_true, if_false]
    refine ⟨rfl, rfl, token_settled noReturn atomicBlocks 1 rfl rfl ?_⟩
    exact ⟨rfl, pending.move rfl rfl rfl (nextKeyword_block block)⟩
  have noLine : startsWith "--" (c :: rest) = false := by simpa using line
  have noBlock : startsWith "/*" (c :: rest) = false := by simpa using block
  simp only [noLine, noBlock, Bool.false_eq_true, if_false, Bool.false_or, decide_eq_true_eq]
    at alike ⊢
  by_cases quote : c = '\''
  · subst quote
    have settled := settled_of_sign pending (by decide) noLine noBlock (by decide)
    simp only [if_true] at alike ⊢
    refine ⟨rfl, rfl, token_settled noReturn atomicBlocks 0 rfl rfl ⟨fun alone => ?_, settled, rfl⟩⟩
    have alone' : ¬ r.continuation = some true := by simpa using alone
    have same : isEscapeString py true before = r.escapes before := by simpa [alone'] using alike
    simpa [alone'] using same
  by_cases double : c = '"'
  · subst double
    have settled := settled_of_sign pending (by decide) noLine noBlock (by decide)
    simp only [quote, if_true, if_false]
    exact ⟨rfl, rfl, token_settled noReturn atomicBlocks 0 rfl rfl ⟨settled, rfl⟩⟩
  simp only [quote, double, if_false] at alike ⊢
  by_cases dollar : c = '$'
  · subst dollar
    have settled := settled_of_sign pending (by decide) noLine noBlock (by decide)
    have same : dollarQuoteDelimiter py before rest = serverDelimiter rest := by simpa using alike
    simp only [if_true, same]
    cases serverDelimiter rest with
    | some delimiter =>
        exact ⟨rfl, rfl, token_settled noReturn atomicBlocks _ rfl rfl ⟨rfl, settled, rfl⟩⟩
    | none =>
        have noKeyword : keywordAt py ('$' :: rest) = none := keywordAt_none (by decide)
        have noWord : serverWord ('$' :: rest) = none := serverWord_none (by decide)
        simp only [noKeyword, noWord]
        exact sign_together noReturn mode lexing atomicBlocks settled (by simp)
  simp only [dollar, if_false] at alike ⊢
  cases found : serverWord (c :: rest) with
  | some word =>
      simp only [found, Bool.and_eq_true] at alike ⊢
      obtain ⟨same, sameBlocks⟩ := alike
      obtain ⟨⟨keyword, length⟩, read, same⟩ := (Option.any_eq_true _ _).mp same
      simp only [Bool.and_eq_true, Bool.or_eq_true, decide_eq_true_eq] at same
      obtain ⟨rfl, same⟩ := same
      obtain ⟨noSpace, -⟩ := blank_of_keywordAt read
      have next : nextKeyword py .between 0 (c :: rest) = some keyword := by
        rw [nextKeyword_token noSpace noLine noBlock, read]
        rfl
      have some_ : word.length ≠ 0 := by
        intro none_
        rw [List.length_eq_zero_iff] at none_
        subst none_
        simp [serverWord] at found
      simp only [read]
      exact word_together noReturn mode lexing atomicBlocks pending next same sameBlocks some_
  | none =>
      have noWord : beginsWord c = false := by
        by_contra begins
        simp [serverWord, begins] at found
      have noKeyword : keywordAt py (c :: rest) = none := keywordAt_none noWord
      simp only [found, noKeyword] at alike ⊢
      by_cases space : postgresSpace c = true
      · have noCut : c ≠ ';' := by
          rintro rfl
          cases space
        simp only [space, if_true, noCut, decide_false, Bool.false_and]
        refine ⟨rfl, rfl, token_settled noReturn atomicBlocks 0 rfl ?_ ?_⟩
        · split <;> rfl
        · have same : nextKeyword py .between 0 (c :: rest) = nextKeyword py .between 0 rest :=
            nextKeyword_space (isSpace_of_postgresSpace space)
          split
          · simp only [Modes, mode]
            exact pending.move rfl rfl rfl same
          · simp only [Modes, mode, lexing]
            exact pending.move rfl rfl rfl same
      · simp only [space, if_false, Bool.false_eq_true]
        refine sign_together noReturn mode lexing atomicBlocks ?_ fun semicolon => ?_
        · by_cases semicolon : c = ';'
          · subst semicolon
            exact settled_of_sign pending (by decide) noLine noBlock noWord
          · have noSpace : isSpace c = false := by simpa [semicolon, space] using alike
            exact settled_of_sign pending noSpace noLine noBlock noWord
        · simpa [semicolon] using alike

theorem line_together (noReturn : '\r' ∉ c :: rest) (mode : s.mode = .lineComment)
    (lexing : r.lexing = .line) (atomicBlocks : s.atomicBlocks = blocks r.brackets)
    (pending : Pending py s r .line (c :: rest)) :
    Together py (Splitter.scan py true s before c rest) (Reader.scan r before c rest) rest := by
  simp only [Splitter.scan, Reader.scan, mode, lexing]
  by_cases ends : c = '\n'
  · subst ends
    refine ⟨rfl, rfl, token_settled noReturn atomicBlocks 0 rfl rfl ?_⟩
    exact pending.move rfl rfl rfl (by rw [nextKeyword, if_pos rfl]; rfl)
  · have noEnd : c ≠ '\r' := fun same => noReturn (same ▸ List.mem_cons_self)
    simp only [ends, noEnd, decide_false, Bool.or_self, Bool.false_eq_true, if_false]
    refine ⟨rfl, rfl, token_settled noReturn atomicBlocks 0 rfl rfl ?_⟩
    simp only [Modes, mode, lexing]
    exact pending.move rfl rfl rfl (by rw [nextKeyword, if_neg ends]; rfl)

theorem block_together {depth : Nat} (noReturn : '\r' ∉ c :: rest)
    (mode : s.mode = .blockComment depth) (lexing : r.lexing = .block depth)
    (atomicBlocks : s.atomicBlocks = blocks r.brackets)
    (pending : Pending py s r (.block depth) (c :: rest)) :
    Together py (Splitter.scan py true s before c rest) (Reader.scan r before c rest) rest := by
  simp only [Splitter.scan, Reader.scan, mode, lexing]
  by_cases opens : startsWith "/*" (c :: rest) = true
  · simp only [opens, if_true]
    refine ⟨rfl, rfl, token_settled noReturn atomicBlocks 1 rfl rfl ⟨rfl, ?_⟩⟩
    exact pending.move rfl rfl rfl (by rw [nextKeyword, if_pos opens, nextKeyword_skip])
  by_cases closes : startsWith "*/" (c :: rest) = true
  · simp only [opens, closes, Bool.false_eq_true, if_false, if_true]
    refine ⟨rfl, rfl, token_settled noReturn atomicBlocks 1 rfl rfl ?_⟩
    by_cases outer : depth = 1
    · simp only [Modes, outer, if_true]
      refine pending.move rfl rfl rfl ?_
      rw [nextKeyword, if_neg opens, if_pos closes, if_pos outer, nextKeyword_skip]
    · simp only [Modes, outer, if_false]
      refine ⟨trivial, pending.move rfl rfl rfl ?_⟩
      rw [nextKeyword, if_neg opens, if_pos closes, if_neg outer, nextKeyword_skip]
  · simp only [opens, closes, Bool.false_eq_true, if_false]
    refine ⟨rfl, rfl, token_settled noReturn atomicBlocks 0 rfl rfl ?_⟩
    simp only [Modes, mode, lexing]
    refine ⟨trivial, pending.move rfl rfl rfl ?_⟩
    rw [nextKeyword, if_neg opens, if_neg closes]
    rfl

/-- Inside a literal; in a segment that continues one, no backslash tells the readers apart. -/
theorem literal_together {escapes escapes' continued : Bool} (noReturn : '\r' ∉ c :: rest)
    (mode : s.mode = .singleQuote escapes) (lexing : r.lexing = .literal escapes' continued)
    (atomicBlocks : s.atomicBlocks = blocks r.brackets)
    (same : continued = false → escapes = escapes') (inside : Inside s r)
    (alike : r.alike py before c rest = true) :
    Together py (Splitter.scan py true s before c rest) (Reader.scan r before c rest) rest := by
  simp only [Splitter.scan, Reader.scan, mode, lexing]
  rw [Reader.alike, lexing] at alike
  have stays : ∀ skip, Related py s r (rest.drop skip) := fun skip =>
    token_settled noReturn atomicBlocks skip rfl rfl (by
      simp only [Modes, mode, lexing]
      exact ⟨same, inside⟩)
  have backslash : (decide (c = '\\') && escapes) = (decide (c = '\\') && escapes') := by
    cases continued with
    | false => rw [same rfl]
    | true =>
        have other : c ≠ '\\' := by simpa using alike
        simp [other]
  rw [backslash]
  by_cases escaped : (decide (c = '\\') && escapes') = true
  · simp only [escaped, if_true]
    exact ⟨rfl, rfl, stays 1⟩
  by_cases quote : c = '\''
  · by_cases double : rest.head? = some '\''
    · simp only [quote, double, if_true]
      exact ⟨rfl, rfl, stays 1⟩
    · simp only [quote, double, if_true, if_false]
      refine ⟨rfl, rfl, token_settled noReturn atomicBlocks 0 rfl rfl ?_⟩
      exact Pending.fresh _ _ inside.1 (by simp [inside.2])
  · simp only [escaped, quote, Bool.false_eq_true, if_false]
    exact ⟨rfl, rfl, stays 0⟩

theorem quoted_together (noReturn : '\r' ∉ c :: rest) (mode : s.mode = .doubleQuote)
    (lexing : r.lexing = .quoted) (atomicBlocks : s.atomicBlocks = blocks r.brackets)
    (inside : Inside s r) :
    Together py (Splitter.scan py true s before c rest) (Reader.scan r before c rest) rest := by
  simp only [Splitter.scan, Reader.scan, mode, lexing]
  have stays : ∀ skip, Related py s r (rest.drop skip) := fun skip =>
    token_settled noReturn atomicBlocks skip rfl rfl (by
      simp only [Modes, mode, lexing]
      exact inside)
  by_cases quote : c = '"'
  · by_cases double : rest.head? = some '"'
    · simp only [quote, double, if_true]
      exact ⟨rfl, rfl, stays 1⟩
    · simp only [quote, double, if_true, if_false]
      refine ⟨rfl, rfl, token_settled noReturn atomicBlocks 0 rfl rfl ?_⟩
      exact Pending.fresh _ _ inside.1 (by simp [inside.2])
  · simp only [quote, if_false]
    exact ⟨rfl, rfl, stays 0⟩

theorem dollar_together {delimiter : List Char} (noReturn : '\r' ∉ c :: rest)
    (mode : s.mode = .dollarQuote delimiter) (lexing : r.lexing = .dollar delimiter)
    (atomicBlocks : s.atomicBlocks = blocks r.brackets) (inside : Inside s r) :
    Together py (Splitter.scan py true s before c rest) (Reader.scan r before c rest) rest := by
  simp only [Splitter.scan, Reader.scan, mode, lexing]
  by_cases closes : delimiter.isPrefixOf (c :: rest) = true
  · simp only [closes, if_true]
    refine ⟨rfl, rfl, token_settled noReturn atomicBlocks _ rfl rfl ?_⟩
    exact Pending.fresh _ _ inside.1 (by simp [inside.2])
  · simp only [closes, Bool.false_eq_true, if_false]
    refine ⟨rfl, rfl, token_settled noReturn atomicBlocks 0 rfl rfl ?_⟩
    simp only [Modes, mode, lexing]
    exact ⟨trivial, inside⟩

/-- Related scanners make the same move where the readings are alike. -/
theorem Related.together (related : Related py s r (c :: rest)) (alike : r.alike py before c rest = true) :
    Together py (Splitter.scan py true s before c rest) (Reader.scan r before c rest) rest := by
  obtain ⟨noReturn, atomicBlocks, modes⟩ := related
  cases mode : s.mode with
  | normal =>
      cases lexing : r.lexing <;> simp only [Modes, mode, lexing] at modes
      exact tokens_together noReturn mode lexing atomicBlocks modes alike
  | lineComment =>
      cases lexing : r.lexing <;> simp only [Modes, mode, lexing] at modes
      exact line_together noReturn mode lexing atomicBlocks modes
  | blockComment depth =>
      cases lexing : r.lexing <;> simp only [Modes, mode, lexing] at modes
      obtain ⟨rfl, pending⟩ := modes
      exact block_together noReturn mode lexing atomicBlocks pending
  | singleQuote escapes =>
      cases lexing : r.lexing <;> simp only [Modes, mode, lexing] at modes
      exact literal_together noReturn mode lexing atomicBlocks modes.1 modes.2 alike
  | doubleQuote =>
      cases lexing : r.lexing <;> simp only [Modes, mode, lexing] at modes
      exact quoted_together noReturn mode lexing atomicBlocks modes
  | dollarQuote delimiter =>
      cases lexing : r.lexing <;> simp only [Modes, mode, lexing] at modes
      obtain ⟨rfl, inside⟩ := modes
      exact dollar_together noReturn mode lexing atomicBlocks inside

end Steps

/-! ### Transaction control -/

section Control

variable (py : Characters)

/-- The words at the front of a statement are read alike. -/
def wordsAlike : (limit : Nat) → Place → (skip : Nat) → List Char → Bool
  | 0, _, _, _ => true
  | _, _, _, [] => true
  | limit, place, skip + 1, _ :: rest => wordsAlike limit place skip rest
  | limit + 1, .between, 0, c :: rest =>
      if postgresSpace c then wordsAlike (limit + 1) .between 0 rest
      else if startsWith "--" (c :: rest) then wordsAlike (limit + 1) .line 1 rest
      else if startsWith "/*" (c :: rest) then wordsAlike (limit + 1) (.block 1) 1 rest
      else
        match serverWord (c :: rest) with
        | none => true
        | some word =>
            sameWord py (c :: rest) word && wordsAlike limit .between (word.length - 1) rest
  | limit + 1, .line, 0, c :: rest =>
      if c = '\n' || c = '\r' then wordsAlike (limit + 1) .between 0 rest
      else wordsAlike (limit + 1) .line 0 rest
  | limit + 1, .block depth, 0, c :: rest =>
      if startsWith "/*" (c :: rest) then wordsAlike (limit + 1) (.block (depth + 1)) 1 rest
      else if startsWith "*/" (c :: rest) then
        if depth = 1 then wordsAlike (limit + 1) .between 1 rest
        else wordsAlike (limit + 1) (.block (depth - 1)) 1 rest
      else wordsAlike (limit + 1) (.block depth) 0 rest

end Control

/-- The words of the first list are at the front of the second one, as far as they are keywords. -/
inductive InFront : List String → List String → Prop where
  | nil (words : List String) : InFront [] words
  | cons {word keyword : String} {words read : List String}
      (same : keyword = word ∨ keyword ∉ keywords ∧ word ∉ keywords) (rest : InFront words read) :
      InFront (word :: words) (keyword :: read)

/-- A keyword of the server is read as that keyword. -/
theorem eq_of_same {keyword word : String} (same : keyword = word ∨ keyword ∉ keywords ∧ word ∉ keywords)
    (known : word ∈ keywords) : keyword = word :=
  same.resolve_right fun unknown => unknown.2 known

theorem InFront.isControl {words read : List String} (front : InFront words read)
    (control : beginsControl words = true) : isControl read = true := by
  cases front with
  | nil => cases control
  | @cons word keyword words read same rest =>
      rw [beginsControl, Bool.or_eq_true, Bool.and_eq_true] at control
      rcases control with alone | ⟨first, second⟩
      · have known : word ∈ keywords := by
          simp only [List.mem_cons, List.not_mem_nil, or_false, decide_eq_true_eq] at alone
          rcases alone with rfl | rfl | rfl | rfl | rfl | rfl | rfl <;> decide
        obtain rfl := eq_of_same same known
        simp only [Relq.Migrate.isControl, alone, Bool.true_or]
      · have known : word ∈ keywords := by
          simp only [List.mem_cons, List.not_mem_nil, or_false, decide_eq_true_eq] at first
          rcases first with rfl | rfl | rfl <;> decide
        obtain rfl := eq_of_same same known
        cases rest with
        | nil => cases second
        | @cons next keyword' words read same' rest =>
            obtain rfl : next = "TRANSACTION" := by simpa using second
            obtain rfl := eq_of_same same' (by decide)
            simp only [List.mem_cons, List.not_mem_nil, or_false, decide_eq_true_eq] at first
            rcases first with rfl | rfl | rfl <;> simp [Relq.Migrate.isControl]

/-- The condition on a migration: its reading by the server, and the words in front of each of its
statements, are read alike by the migrator. -/
def readsAlike (py : Characters) (sql : String) : Bool :=
  along Reader.scan (Reader.alike py) {} 0 [] sql.toList &&
    (statementPieces sql).all fun (piece, _) => wordsAlike py 2 .between 0 (strip piece).toList

theorem mem_of_mem_strip {piece : List Char} {c : Char} (inside : c ∈ (strip piece).toList) :
    c ∈ piece := by
  rw [strip, String.toList_ofList, List.mem_reverse] at inside
  have front := (List.dropWhile_sublist isSpace).subset inside
  rw [List.mem_reverse] at front
  exact (List.dropWhile_sublist isSpace).subset front

-- The word `case` labels the column here, and the splitter waits for an END of its own.
example :
    readsAlike Characters.ofAscii
      "CREATE FUNCTION f() RETURNS int BEGIN ATOMIC SELECT 1 case; END; COMMIT;" = false := by
  decide +kernel

end Relq.Migrate
