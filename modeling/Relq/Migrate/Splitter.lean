/-
Module: Relq.Migrate.Splitter
Layer: Migrate
Purpose: The scanner by which the PostgreSQL migrator cuts a migration into statements
  (`_iter_postgres_statements` and its helpers), and the test by which it recognizes transaction
  control (`_is_transaction_control_statement`). The loop of the source is a scanner that looks at one
  character at a time; what it takes along with `index += n` is skipped. `before` is the text in front
  of the current character, reversed.
Imports: Relq.Library.Characters, Relq.Library.Scanner, Relq.Migrate.Emptiness
Trusted boundary: human-reviewed spec
Main exports: Mode, Splitter, Splitter.scan, splitPieces, iterPostgresStatements,
  isTransactionControlStatement
-/
import Relq.Library.Characters
import Relq.Library.Scanner
import Relq.Migrate.Emptiness

namespace Relq.Migrate

open Python (Characters isSpace)
open Scanners (Move Scanner pieces)

/-! ### Words, quotes and what follows them -/

section Lexemes

variable (py : Characters)

def isIdentifierCharacter (c : Char) : Bool :=
  py.isAlnum c || c = '_' || c = '$'

/-- `_postgres_keyword_at`: the upper-case word at the front of a text, and its length. -/
def keywordAt : List Char → Option (String × Nat)
  | [] => none
  | c :: rest =>
      if py.isAlpha c || c = '_' then
        let word := c :: rest.takeWhile (isIdentifierCharacter py)
        some (py.upperText word, word.length)
      else none

/-- `_next_postgres_keyword`. -/
def nextKeyword : Place → (skip : Nat) → List Char → Option String
  | _, _, [] => none
  | place, skip + 1, _ :: rest => nextKeyword place skip rest
  | .between, 0, c :: rest =>
      if isSpace c then nextKeyword .between 0 rest
      else if startsWith "--" (c :: rest) then nextKeyword .line 1 rest
      else if startsWith "/*" (c :: rest) then nextKeyword (.block 1) 1 rest
      else (keywordAt py (c :: rest)).map Prod.fst
  | .line, 0, c :: rest =>
      if c = '\n' then nextKeyword .between 0 rest else nextKeyword .line 0 rest
  | .block depth, 0, c :: rest =>
      if startsWith "/*" (c :: rest) then nextKeyword (.block (depth + 1)) 1 rest
      else if startsWith "*/" (c :: rest) then
        if depth = 1 then nextKeyword .between 1 rest else nextKeyword (.block (depth - 1)) 1 rest
      else nextKeyword (.block depth) 0 rest

/-- `_dollar_quote_delimiter` of the text at a dollar sign. -/
def dollarQuoteDelimiter (before rest : List Char) : Option (List Char) :=
  let tag := rest.takeWhile (· ≠ '$')
  if before.head?.any (isIdentifierCharacter py) then none
  else if tag.length = rest.length then none
  else if tag.head?.any fun first => !(py.isAlpha first || first = '_') then none
  else if tag.any fun c => !(py.isAlnum c || c = '_') then none
  else some ('$' :: tag ++ ['$'])

/-- `_is_escape_string` of the quote behind `before`. -/
def isEscapeString (standardConformingStrings : Bool) (before : List Char) : Bool :=
  if !standardConformingStrings then true
  else
    match before with
    | [] => false
    | [letter] => letter = 'e' || letter = 'E'
    | letter :: previous :: _ =>
        (letter = 'e' || letter = 'E') && !isIdentifierCharacter py previous

end Lexemes

/-! ### The scanner -/

inductive Mode where
  | normal
  | lineComment
  | blockComment (depth : Nat)
  | singleQuote (escapeString : Bool)
  | doubleQuote
  | dollarQuote (delimiter : List Char)
deriving DecidableEq, Repr

structure Splitter where
  mode : Mode := .normal
  /-- the innermost block first -/
  atomicBlocks : List String := []
  ignoredEndSuffix : Option String := none
deriving DecidableEq, Repr

namespace Splitter

variable (py : Characters)

/-- The branch for a word, in front of the text that follows it. -/
def keyword (s : Splitter) (keyword : String) (following : List Char) : Splitter :=
  let nextKeyword := nextKeyword py .between 0 following
  if s.ignoredEndSuffix = some keyword then { s with ignoredEndSuffix := none }
  else if s.atomicBlocks ≠ [] then
    if keyword = "BEGIN" then { s with atomicBlocks := "BEGIN" :: s.atomicBlocks }
    else if keyword = "CASE" then { s with atomicBlocks := "CASE" :: s.atomicBlocks }
    else if keyword = "END" then
      { s with
        atomicBlocks := s.atomicBlocks.tail
        ignoredEndSuffix :=
          if nextKeyword ∈ [some "CASE", some "IF", some "LOOP", some "WHILE"] then nextKeyword
          else s.ignoredEndSuffix }
    else s
  else if keyword = "BEGIN" && nextKeyword = some "ATOMIC" then
    { s with atomicBlocks := "BEGIN" :: s.atomicBlocks }
  else s

/-- One round of the loop of `_iter_postgres_statements`. -/
def scan (standardConformingStrings : Bool) : Scanner Char Splitter := fun s before c rest =>
  match s.mode with
  | .normal =>
      if startsWith "--" (c :: rest) then { state := { s with mode := .lineComment }, skip := 1 }
      else if startsWith "/*" (c :: rest) then
        { state := { s with mode := .blockComment 1 }, skip := 1 }
      else if c = '\'' then
        { state :=
            { s with mode := .singleQuote (isEscapeString py standardConformingStrings before) } }
      else if c = '"' then { state := { s with mode := .doubleQuote } }
      else
        match if c = '$' then dollarQuoteDelimiter py before rest else none with
        | some delimiter =>
            { state := { s with mode := .dollarQuote delimiter }, skip := delimiter.length - 1 }
        | none =>
            match keywordAt py (c :: rest) with
            | some (word, length) =>
                { state := s.keyword py word ((c :: rest).drop length), skip := length - 1 }
            | none => { state := s, cut := c = ';' && s.atomicBlocks = [] }
  | .lineComment =>
      { state := if c = '\r' || c = '\n' then { s with mode := .normal } else s }
  | .blockComment depth =>
      if startsWith "/*" (c :: rest) then
        { state := { s with mode := .blockComment (depth + 1) }, skip := 1 }
      else if startsWith "*/" (c :: rest) then
        { state := { s with mode := if depth = 1 then .normal else .blockComment (depth - 1) }
          skip := 1 }
      else { state := s }
  | .singleQuote escapeString =>
      if c = '\\' && escapeString then { state := s, skip := 1 }
      else if c = '\'' then
        if rest.head? = some '\'' then { state := s, skip := 1 }
        else { state := { s with mode := .normal } }
      else { state := s }
  | .doubleQuote =>
      if c = '"' then
        if rest.head? = some '"' then { state := s, skip := 1 }
        else { state := { s with mode := .normal } }
      else { state := s }
  | .dollarQuote delimiter =>
      if delimiter.isPrefixOf (c :: rest) then
        { state := { s with mode := .normal }, skip := delimiter.length - 1 }
      else { state := s }

end Splitter

/-! ### The statements -/

/-- The pieces between the places where the splitter cuts, empty ones and the last one included. -/
def splitPieces (py : Characters) (standardConformingStrings : Bool) (sql : String) :
    List (List Char × Nat) :=
  pieces (Splitter.scan py standardConformingStrings) {} 0 [] [] sql.toList

/-- `str.strip`. -/
def strip (text : List Char) : String :=
  String.ofList (((text.dropWhile isSpace).reverse.dropWhile isSpace).reverse)

/-- `_iter_postgres_statements`: the pieces that are worth executing, stripped, each with the number
of characters consumed through it. -/
def iterPostgresStatements (py : Characters) (standardConformingStrings : Bool) (sql : String) :
    List (String × Nat) :=
  (splitPieces py standardConformingStrings sql).filterMap fun (buffer, index) =>
    let statement := strip buffer
    if statement ≠ "" && !isSqlEmpty statement then some (statement, index) else none

/-! ### Transaction control -/

/-- `_read_postgres_quoted_identifier` behind the opening quote: the characters, and how many of the
text are read through the closing quote. -/
def quotedIdentifier (characters : List Char) (length : Nat) :
    List Char → Option (List Char × Nat)
  | [] => none
  | ['"'] => some (characters, length + 1)
  | c :: next :: rest =>
      if c = '"' then
        if next = '"' then quotedIdentifier (characters ++ ['"']) (length + 2) rest
        else some (characters, length + 1)
      else quotedIdentifier (characters ++ [c]) (length + 1) (next :: rest)
  | [_] => none

/-- `_leading_keywords`, of which the first `limit` are read. -/
def leadingKeywords (py : Characters) : (limit : Nat) → Place → (skip : Nat) → List Char → List String
  | 0, _, _, _ => []
  | _, _, _, [] => []
  | limit, place, skip + 1, _ :: rest => leadingKeywords py limit place skip rest
  | limit + 1, .between, 0, c :: rest =>
      if isSpace c then leadingKeywords py (limit + 1) .between 0 rest
      else if startsWith "--" (c :: rest) then leadingKeywords py (limit + 1) .line 1 rest
      else if startsWith "/*" (c :: rest) then leadingKeywords py (limit + 1) (.block 1) 1 rest
      else if c = '"' then
        match quotedIdentifier [] 0 rest with
        | none => []
        | some (word, length) => py.upperText word :: leadingKeywords py limit .between length rest
      else
        match keywordAt py (c :: rest) with
        | none => []
        | some (word, length) => word :: leadingKeywords py limit .between (length - 1) rest
  | limit + 1, .line, 0, c :: rest =>
      if c = '\n' then leadingKeywords py (limit + 1) .between 0 rest
      else leadingKeywords py (limit + 1) .line 0 rest
  | limit + 1, .block depth, 0, c :: rest =>
      if startsWith "/*" (c :: rest) then leadingKeywords py (limit + 1) (.block (depth + 1)) 1 rest
      else if startsWith "*/" (c :: rest) then
        if depth = 1 then leadingKeywords py (limit + 1) .between 1 rest
        else leadingKeywords py (limit + 1) (.block (depth - 1)) 1 rest
      else leadingKeywords py (limit + 1) (.block depth) 0 rest

/-- What the words at the front of a statement say about it. -/
def isControl : List String → Bool
  | [] => false
  | word :: words =>
      word ∈ ["ABORT", "BEGIN", "COMMIT", "END", "ROLLBACK", "SAVEPOINT", "RELEASE"] ||
      (word ∈ ["START", "PREPARE"] && words.head? = some "TRANSACTION") ||
      (word = "SET" &&
        (words.head? ∈ [some "CONSTRAINTS", some "TRANSACTION"] ||
          words.take 2 = ["SESSION", "CHARACTERISTICS"]))

/-- `_is_transaction_control_statement`. -/
def isTransactionControlStatement (py : Characters) (statement : String) : Bool :=
  isControl (leadingKeywords py 3 .between 0 statement.toList)

end Relq.Migrate
