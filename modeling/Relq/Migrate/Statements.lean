/-
Module: Relq.Migrate.Statements
Layer: Migrate
Purpose: Where statements end for PostgreSQL. Its scanner tells literals, quoted identifiers,
  dollar-quoted bodies and comments from words and other tokens; its grammar has no end of a
  statement inside parentheses or inside the body of a routine in SQL. Open brackets are kept on one
  stack: parentheses, the BEGIN ATOMIC of a body and the CASE of an expression in it. A word behind AS,
  behind a dot or behind the whole expression of a column is a label, whatever it spells.
Imports: Relq.Library.Characters, Relq.Library.Scanner, Relq.Migrate.Emptiness
Trusted boundary: human-reviewed spec
Main exports: Token, Bracket, Lead, Lexing, Reader, Reader.scan, statementPieces, serverWords,
  serverControl
-/
import Relq.Library.Characters
import Relq.Library.Scanner
import Relq.Migrate.Emptiness

namespace Relq.Migrate

open Python (asciiUpper isAscii)
open Scanners (Move Scanner pieces)

/-! ### Words and delimiters -/

/-- `[A-Za-z\200-\377_]`: every character beyond ASCII may be part of an identifier. -/
def beginsWord (c : Char) : Bool :=
  !isAscii c || c.isAlpha || c = '_'

/-- `[A-Za-z\200-\377_0-9\$]` -/
def continuesWord (c : Char) : Bool :=
  !isAscii c || c.isAlphanum || c = '_' || c = '$'

/-- The word at the front of a text. -/
def serverWord : List Char → Option (List Char)
  | [] => none
  | c :: rest => if beginsWord c then some (c :: rest.takeWhile continuesWord) else none

/-- What the parser sees of the next token: a word, or the first character of any other one. -/
inductive Ahead where
  | nothing
  | word (word : String)
  | sign (c : Char)
deriving DecidableEq, Repr

/-- The token that follows white space and comments. -/
def serverAhead : Place → (skip : Nat) → List Char → Ahead
  | _, _, [] => .nothing
  | place, skip + 1, _ :: rest => serverAhead place skip rest
  | .between, 0, c :: rest =>
      if postgresSpace c then serverAhead .between 0 rest
      else if startsWith "--" (c :: rest) then serverAhead .line 1 rest
      else if startsWith "/*" (c :: rest) then serverAhead (.block 1) 1 rest
      else
        match serverWord (c :: rest) with
        | some word => .word (asciiUpper word)
        | none => .sign c
  | .line, 0, c :: rest =>
      if c = '\n' || c = '\r' then serverAhead .between 0 rest else serverAhead .line 0 rest
  | .block depth, 0, c :: rest =>
      if startsWith "/*" (c :: rest) then serverAhead (.block (depth + 1)) 1 rest
      else if startsWith "*/" (c :: rest) then
        if depth = 1 then serverAhead .between 1 rest else serverAhead (.block (depth - 1)) 1 rest
      else serverAhead (.block depth) 0 rest

/-- What may stand behind an item of a SELECT or RETURNING list, or behind another label; nothing of it
begins an expression. The statements of a body are queries and changes to tables. -/
def Ahead.endsItem : Ahead → Bool
  | .nothing => true
  | .sign c => c = ',' || c = ';' || c = ')' || c = '='
  | .word keyword => keyword ∈
      ["FROM", "WHERE", "GROUP", "HAVING", "WINDOW", "UNION", "INTERSECT", "EXCEPT", "ORDER", "LIMIT",
        "OFFSET", "FETCH", "FOR", "INTO", "ON", "RETURNING"]

/-- The dollar quote that a dollar sign opens: a tag is a word without dollar signs. -/
def serverDelimiter (rest : List Char) : Option (List Char) :=
  let tag := rest.takeWhile (· ≠ '$')
  if tag.length ≠ rest.length && tag.head?.all beginsWord && tag.all continuesWord then
    some ('$' :: tag ++ ['$'])
  else none

/-! ### The reader -/

/-- The last token that was read. -/
inductive Token where
  | start
  | semicolon
  | dot
  | word (word : String)
  | other
deriving DecidableEq, Repr

inductive Bracket where
  | paren
  | body
  | case
deriving DecidableEq, Repr

/-- The first words of a statement, as far as CREATE [OR REPLACE] {FUNCTION | PROCEDURE} is
concerned. -/
inductive Lead where
  | start
  | create
  | createOr
  | createOrReplace
  | routine
  | other
deriving DecidableEq, Repr

def Lead.word : Lead → String → Lead
  | .routine, _ => .routine
  | .start, "CREATE" => .create
  | .create, "OR" => .createOr
  | .createOr, "REPLACE" => .createOrReplace
  | .create, word | .createOrReplace, word =>
      if word ∈ ["FUNCTION", "PROCEDURE"] then .routine else .other
  | _, _ => .other

inductive Lexing where
  | tokens
  | line
  | block (depth : Nat)
  /-- `continued` marks a segment that continues an escape literal behind a newline. -/
  | literal (escapes continued : Bool)
  | quoted
  | dollar (delimiter : List Char)
deriving DecidableEq, Repr

structure Reader where
  lexing : Lexing := .tokens
  /-- the innermost bracket first -/
  brackets : List Bracket := []
  lead : Lead := .start
  previous : Token := .start
  /-- Nothing but white space was read behind an escape literal; the flag tells of a newline. -/
  continuation : Option Bool := none
deriving DecidableEq, Repr

namespace Reader

/-- A token that is not a word. -/
def token (r : Reader) (token : Token) : Reader :=
  { r with
    lead := if r.lead = .routine then .routine else .other
    previous := token
    continuation := none }

def isLabel (r : Reader) : Bool :=
  r.previous = .dot || r.previous = .word "AS"

/-- Behind this token a statement of a body begins. -/
def beginsStatement (r : Reader) : Bool :=
  r.previous ∈ [.semicolon, .word "ATOMIC", .word "BEGIN"]

def inBody (r : Reader) : Bool :=
  r.brackets.any (· ≠ .paren)

/-- CASE is a reserved word, which begins an expression or is a label. Behind END it can only be one, and
as the label of a column without AS it is told by what follows. -/
def labelsCase (r : Reader) (following : List Char) : Bool :=
  r.isLabel || r.previous = .word "END" || (serverAhead .between 0 following).endsItem

/-- What a word opens or closes. END behind the last expression of a CASE closes it; in a body it ends
the body where a statement begins, and is a label elsewhere. -/
def bracketsAfter (r : Reader) (word : String) (following : List Char) : List Bracket :=
  if word = "BEGIN" then
    if r.brackets = [] then
      if r.lead = .routine && serverAhead .between 0 following = .word "ATOMIC" then [.body] else []
    else if r.brackets.head? = some .body && r.beginsStatement then .body :: r.brackets
    else r.brackets
  else if word = "CASE" then
    if r.inBody && !r.labelsCase following then .case :: r.brackets else r.brackets
  else if word = "END" then
    match r.brackets with
    | .case :: outer => if r.isLabel then r.brackets else outer
    | .body :: outer => if r.beginsStatement then outer else r.brackets
    | _ => r.brackets
  else r.brackets

def word (r : Reader) (word : String) (following : List Char) : Reader :=
  { r with
    brackets := r.bracketsAfter word following
    lead := r.lead.word word
    previous := .word word
    continuation := none }

/-- An escape literal begins behind a word E of its own, or continues one behind a newline. -/
def escapes (r : Reader) (before : List Char) : Bool :=
  r.previous = .word "E" && (before.head? = some 'e' || before.head? = some 'E')

def scan : Scanner Char Reader := fun r before c rest =>
  match r.lexing with
  | .tokens =>
      if startsWith "--" (c :: rest) then { state := { r with lexing := .line }, skip := 1 }
      else if startsWith "/*" (c :: rest) then
        { state := { r with lexing := .block 1, continuation := none }, skip := 1 }
      else if c = '\'' then
        let continued := r.continuation = some true
        { state := { r.token .other with
            lexing := .literal (continued || r.escapes before) continued } }
      else if c = '"' then { state := { r.token .other with lexing := .quoted } }
      else
        match if c = '$' then serverDelimiter rest else none with
        | some delimiter =>
            { state := { r.token .other with lexing := .dollar delimiter }
              skip := delimiter.length - 1 }
        | none =>
            match serverWord (c :: rest) with
            | some word =>
                { state := r.word (asciiUpper word) ((c :: rest).drop word.length)
                  skip := word.length - 1 }
            | none =>
                if postgresSpace c then
                  { state := if c = '\n' && r.continuation.isSome then
                      { r with continuation := some true } else r }
                else if c = '(' then
                  { state := { r.token .other with brackets := .paren :: r.brackets } }
                else if c = ')' then
                  { state := { r.token .other with
                      brackets := if r.brackets.head? = some .paren then r.brackets.tail
                        else r.brackets } }
                else if c = ';' then
                  if r.brackets = [] then { state := {}, cut := true }
                  else { state := r.token .semicolon }
                else { state := r.token (if c = '.' then .dot else .other) }
  | .line =>
      { state :=
          if c = '\r' || c = '\n' then
            { r with lexing := .tokens, continuation := r.continuation.map fun _ => true }
          else r }
  | .block depth =>
      if startsWith "/*" (c :: rest) then { state := { r with lexing := .block (depth + 1) }, skip := 1 }
      else if startsWith "*/" (c :: rest) then
        { state := { r with lexing := if depth = 1 then .tokens else .block (depth - 1) }, skip := 1 }
      else { state := r }
  | .literal escapes _ =>
      if c = '\\' && escapes then { state := r, skip := 1 }
      else if c = '\'' then
        if rest.head? = some '\'' then { state := r, skip := 1 }
        else { state := { r with
          lexing := .tokens, continuation := if escapes then some false else none } }
      else { state := r }
  | .quoted =>
      if c = '"' then
        if rest.head? = some '"' then { state := r, skip := 1 }
        else { state := { r with lexing := .tokens } }
      else { state := r }
  | .dollar delimiter =>
      if delimiter.isPrefixOf (c :: rest) then
        { state := { r with lexing := .tokens }, skip := delimiter.length - 1 }
      else { state := r }

end Reader

/-- The text between the ends of statements, with the position behind each. -/
def statementPieces (sql : String) : List (List Char × Nat) :=
  pieces Reader.scan {} 0 [] [] sql.toList

/-! ### Transaction control -/

/-- The first words of a statement, as long as its tokens are words. -/
def serverWords : (limit : Nat) → Place → (skip : Nat) → List Char → List String
  | 0, _, _, _ => []
  | _, _, _, [] => []
  | limit, place, skip + 1, _ :: rest => serverWords limit place skip rest
  | limit + 1, .between, 0, c :: rest =>
      if postgresSpace c then serverWords (limit + 1) .between 0 rest
      else if startsWith "--" (c :: rest) then serverWords (limit + 1) .line 1 rest
      else if startsWith "/*" (c :: rest) then serverWords (limit + 1) (.block 1) 1 rest
      else
        match serverWord (c :: rest) with
        | none => []
        | some word => asciiUpper word :: serverWords limit .between (word.length - 1) rest
  | limit + 1, .line, 0, c :: rest =>
      if c = '\n' || c = '\r' then serverWords (limit + 1) .between 0 rest
      else serverWords (limit + 1) .line 0 rest
  | limit + 1, .block depth, 0, c :: rest =>
      if startsWith "/*" (c :: rest) then serverWords (limit + 1) (.block (depth + 1)) 1 rest
      else if startsWith "*/" (c :: rest) then
        if depth = 1 then serverWords (limit + 1) .between 1 rest
        else serverWords (limit + 1) (.block (depth - 1)) 1 rest
      else serverWords (limit + 1) (.block depth) 0 rest

/-- The first words of PostgreSQL's transaction statements. -/
def beginsControl : List String → Bool
  | [] => false
  | word :: words =>
      word ∈ ["ABORT", "BEGIN", "COMMIT", "END", "ROLLBACK", "SAVEPOINT", "RELEASE"] ||
        (word ∈ ["START", "PREPARE", "SET"] && words.head? = some "TRANSACTION")

/-- Whether a statement controls the transaction. -/
def serverControl (statement : String) : Bool :=
  beginsControl (serverWords 2 .between 0 statement.toList)

end Relq.Migrate
