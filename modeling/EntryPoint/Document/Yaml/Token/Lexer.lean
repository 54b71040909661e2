/-
# The tokens of a text

Indentation and colons give a text its shape. A scalar or a bracketed collection
may turn out to be a key when a colon follows it on its line, so the lexer keeps
such candidates, one for each level of brackets, and puts the tokens of a key
before them afterwards.

## Main definitions

* `Lexer` - what has been read: the tokens so far, the open blocks and the
  candidates for keys.
* `Lexer.step` - one step of reading.
* `tokens` - the tokens of a text, the last of which is its end or a flaw.
-/

import EntryPoint.Document.Yaml.Scalar
import EntryPoint.Document.Yaml.Token.Property

namespace EntryPoint.Document.Yaml

/-- A token that may turn out to be a key: its number, its place, and whether it must be one. -/
structure Candidate where
  number : Nat
  index : Nat
  line : Nat
  column : Nat
  isRequired : Bool

/-- The widest key, in characters. -/
def maxKeyWidth : Nat := 1024

/-- Whether a candidate can no longer be a key once the cursor is here. -/
def Candidate.isStale (candidate : Candidate) (cursor : Cursor) : Bool :=
  candidate.line ≠ cursor.line || maxKeyWidth < cursor.index - candidate.index

/-- What has been read of a text: the tokens from the last one back, the columns of the open blocks
and the candidates for keys by level of brackets, both from the innermost one out. -/
structure Lexer where
  cursor : Cursor
  tokens : List Token := []
  level : Nat := 0
  columns : List Nat := []
  allowsKey : Bool := true
  candidates : List (Nat × Candidate) := []

namespace Lexer

/-! ### Tokens -/

/-- Adds a token. -/
def push (lexer : Lexer) (token : Token) : Lexer :=
  { lexer with tokens := token :: lexer.tokens }

/-- Adds a token before the token of a number. -/
def insertAt (lexer : Lexer) (number : Nat) (token : Token) : Lexer :=
  -- The tokens stand from the last one back, so that the later ones are in front.
  let later := lexer.tokens.length - number
  { lexer with tokens := lexer.tokens.take later ++ token :: lexer.tokens.drop later }

/-- Adds a token of so many characters. -/
def pushIndicator (lexer : Lexer) (width : Nat) (token : Token) : Lexer :=
  { lexer.push token with cursor := lexer.cursor.skip width }

/-- Whether the lexer is outside all brackets. -/
def inBlock (lexer : Lexer) : Bool :=
  lexer.level = 0

/-! ### Blocks -/

/-- The least column of what belongs to the innermost block. -/
def leastColumn (lexer : Lexer) : Nat :=
  match lexer.columns with
  | [] => 0
  | column :: _ => column + 1

/-- Ends the blocks that stand further right than a column. -/
def closeBlocks (lexer : Lexer) (column : Nat) : Lexer :=
  if lexer.inBlock then
    let closed := lexer.columns.takeWhile (column < ·)
    { lexer with
      tokens := closed.map (fun _ => Token.blockEnd) ++ lexer.tokens
      columns := lexer.columns.drop closed.length }
  else lexer

/-- Ends all blocks. -/
def closeAllBlocks (lexer : Lexer) : Lexer :=
  if lexer.inBlock then
    { lexer with
      tokens := lexer.columns.map (fun _ => Token.blockEnd) ++ lexer.tokens
      columns := [] }
  else lexer

/-- Opens a block in a column before the token of a number, unless one is open there or further
right. -/
def openBlockAt (lexer : Lexer) (number column : Nat) (token : Token) : Lexer :=
  if lexer.leastColumn ≤ column then
    { lexer.insertAt number token with columns := column :: lexer.columns }
  else lexer

/-- Opens a block at the cursor, which must be where a key could stand. -/
def openBlock (lexer : Lexer) (token : Token) : Except Flaw Lexer :=
  if !lexer.inBlock then .ok lexer
  else if !lexer.allowsKey then .error .malformed
  else .ok (lexer.openBlockAt lexer.tokens.length lexer.cursor.column token)

/-! ### Candidates -/

/-- The candidate of the level of brackets, if there is one. -/
def candidate? (lexer : Lexer) : Option Candidate :=
  lexer.candidates.lookup lexer.level

/-- The lexer without the candidate of the level of brackets. -/
def eraseCandidate (lexer : Lexer) : Lexer :=
  { lexer with candidates := lexer.candidates.filter (·.1 ≠ lexer.level) }

/-- Gives the candidate of the level of brackets up; it must not be one that has to be a key. -/
def dropCandidate (lexer : Lexer) : Except Flaw Lexer :=
  if (lexer.candidate?.map (·.isRequired)).getD false then .error .malformed
  else .ok lexer.eraseCandidate

/-- Gives the candidates up that can no longer be keys. -/
def dropStale (lexer : Lexer) : Except Flaw Lexer :=
  let (stale, live) := lexer.candidates.partition (·.2.isStale lexer.cursor)
  if stale.any (·.2.isRequired) then .error .malformed
  else .ok { lexer with candidates := live }

/-- Makes the token to come a candidate where a key may stand. What stands in the column of the
innermost block must be a key. -/
def addCandidate (lexer : Lexer) : Except Flaw Lexer :=
  if lexer.allowsKey then do
    let cursor := lexer.cursor
    let candidate : Candidate := {
      number := lexer.tokens.length
      index := cursor.index
      line := cursor.line
      column := cursor.column
      isRequired := lexer.inBlock && lexer.columns.head? = some cursor.column }
    let lexer ← lexer.dropCandidate
    .ok { lexer with candidates := (lexer.level, candidate) :: lexer.candidates }
  else .ok lexer

/-- The number of tokens that no later one can come before. -/
def settled (lexer : Lexer) : Nat :=
  let live := lexer.candidates.filter fun candidate => !candidate.2.isStale lexer.cursor
  live.foldl (fun least candidate => min least candidate.2.number) lexer.tokens.length

/-! ### Steps -/

/-- Passes over spaces, comments and line ends. Behind a line end outside brackets, a key may
stand. -/
def skipToToken : Nat → Lexer → Lexer
  | 0, lexer => lexer
  | fuel + 1, lexer =>
    let cursor := lexer.cursor.skipSpaces.skipComment
    match cursor.lineBreak? with
    | none => { lexer with cursor }
    | some (_, cursor) =>
      skipToToken fuel { lexer with cursor, allowsKey := lexer.allowsKey || lexer.inBlock }

/-- Ends all blocks before something that belongs to no document. -/
def leaveDocument (lexer : Lexer) : Except Flaw Lexer := do
  let lexer ← lexer.closeAllBlocks.dropCandidate
  .ok { lexer with allowsKey := false }

/-- A directive. -/
def pushDirective (lexer : Lexer) : Except Flaw Lexer := do
  let lexer ← lexer.leaveDocument
  let (directive, cursor) ← scanDirective lexer.cursor
  .ok { lexer.push (.directive directive) with cursor }

/-- A separator of documents. -/
def pushSeparator (lexer : Lexer) (token : Token) : Except Flaw Lexer := do
  let lexer ← lexer.leaveDocument
  .ok (lexer.pushIndicator 3 token)

/-- An opening bracket. -/
def pushOpening (lexer : Lexer) (token : Token) : Except Flaw Lexer := do
  let lexer ← lexer.addCandidate
  .ok { lexer.pushIndicator 1 token with level := lexer.level + 1, allowsKey := true }

/-- A closing bracket. -/
def pushClosing (lexer : Lexer) (token : Token) : Except Flaw Lexer := do
  let lexer ← lexer.dropCandidate
  .ok { lexer.pushIndicator 1 token with level := lexer.level - 1, allowsKey := false }

/-- A comma between brackets. -/
def pushFlowEntry (lexer : Lexer) : Except Flaw Lexer := do
  let lexer ← lexer.dropCandidate
  .ok { lexer.pushIndicator 1 .flowEntry with allowsKey := true }

/-- A hyphen before an entry. -/
def pushBlockEntry (lexer : Lexer) : Except Flaw Lexer := do
  let lexer ← (← lexer.openBlock .blockSequenceStart).dropCandidate
  .ok { lexer.pushIndicator 1 .blockEntry with allowsKey := true }

/-- A question mark before a key. -/
def pushKey (lexer : Lexer) : Except Flaw Lexer := do
  let lexer ← (← lexer.openBlock .blockMappingStart).dropCandidate
  .ok { lexer.pushIndicator 1 .key with allowsKey := lexer.inBlock }

/-- A colon before a value. It makes the candidate, if there is one, a key. -/
def pushValue (lexer : Lexer) : Except Flaw Lexer := do
  match lexer.candidate? with
  | some candidate =>
    let lexer := lexer.eraseCandidate.insertAt candidate.number .key
    let lexer :=
      -- The mapping opens in front of its key, which has been read already.
      if lexer.inBlock then lexer.openBlockAt candidate.number candidate.column .blockMappingStart
      else lexer
    .ok { lexer.pushIndicator 1 .value with allowsKey := false }
  | none =>
    let lexer ← lexer.openBlock .blockMappingStart
    .ok { lexer.pushIndicator 1 .value with allowsKey := lexer.inBlock }

/-- An anchor or an alias. -/
def pushName (lexer : Lexer) (token : String → Token) : Except Flaw Lexer := do
  let lexer ← lexer.addCandidate
  let (name, cursor) ← scanName lexer.cursor
  .ok { lexer.push (token name) with cursor, allowsKey := false }

/-- A tag. -/
def pushTag (lexer : Lexer) : Except Flaw Lexer := do
  let lexer ← lexer.addCandidate
  let (token, cursor) ← scanTag lexer.cursor
  .ok { lexer.push token with cursor, allowsKey := false }

/-- A literal or folded block. -/
def pushBlock (lexer : Lexer) (folded : Bool) : Except Flaw Lexer := do
  let lexer ← lexer.dropCandidate
  let (text, cursor) ← scanBlock folded lexer.leastColumn lexer.cursor
  .ok { lexer.push (.scalar text false) with cursor, allowsKey := true }

/-- A quoted scalar. -/
def pushQuoted (lexer : Lexer) (quote : Char) : Except Flaw Lexer := do
  let lexer ← lexer.addCandidate
  let (text, cursor) ← scanQuoted quote lexer.cursor
  .ok { lexer.push (.scalar text false) with cursor, allowsKey := false }

/-- A plain scalar. Behind a line end that it crosses last, a key may stand. -/
def pushPlain (lexer : Lexer) : Except Flaw Lexer := do
  let lexer ← lexer.addCandidate
  let (text, crosses, cursor) := scanPlain (!lexer.inBlock) lexer.leastColumn lexer.cursor
  .ok { lexer.push (.scalar text true) with cursor, allowsKey := crosses }

/-- The characters with which no plain scalar opens. -/
def isIndicator (c : Char) : Bool :=
  ['-', '?', ':', ',', '[', ']', '\x7b', '\x7d', '#', '&', '*', '!', '|', '>', '\'', '"', '%', '@',
    '\x60'].contains c

/-- Whether a plain scalar opens with a character before another one. -/
def opensPlain (inBlock : Bool) (c : Char) (next : Option Char) : Bool :=
  (!isGap c && !isIndicator c) ||
    (!endsWord next && (c = '-' || (inBlock && (c = '?' || c = ':'))))

/-- Reads the token that opens with a character. -/
def pushToken (lexer : Lexer) (c : Char) : Except Flaw Lexer :=
  let cursor := lexer.cursor
  let isAlone := endsWord (cursor.peekAt? 1)
  let atSeparator := cursor.column = 0 && cursor.isAtSeparator
  if c = '%' && cursor.column = 0 then lexer.pushDirective
  else if c = '-' && atSeparator then lexer.pushSeparator .documentStart
  else if c = '.' && atSeparator then lexer.pushSeparator .documentEnd
  else if c = '[' then lexer.pushOpening .flowSequenceStart
  else if c = '\x7b' then lexer.pushOpening .flowMappingStart
  else if c = ']' then lexer.pushClosing .flowSequenceEnd
  else if c = '\x7d' then lexer.pushClosing .flowMappingEnd
  else if c = ',' then lexer.pushFlowEntry
  else if c = '-' && isAlone then lexer.pushBlockEntry
  else if c = '?' && (!lexer.inBlock || isAlone) then lexer.pushKey
  else if c = ':' && (!lexer.inBlock || isAlone) then lexer.pushValue
  else if c = '*' then lexer.pushName .alias
  else if c = '&' then lexer.pushName .anchor
  else if c = '!' then lexer.pushTag
  else if c = '|' && lexer.inBlock then lexer.pushBlock false
  else if c = '>' && lexer.inBlock then lexer.pushBlock true
  else if c = '\'' || c = '"' then lexer.pushQuoted c
  else if opensPlain lexer.inBlock c (cursor.peekAt? 1) then lexer.pushPlain
  else .error .malformed

/-- Reads the next token and those that it brings about. -/
def step (lexer : Lexer) : Except Flaw Lexer := do
  let lexer ← lexer.dropStale
  let lexer := skipToToken (lexer.cursor.rest.length + 1) lexer
  -- Passing over line ends may have made further candidates stale.
  let lexer ← lexer.dropStale
  let lexer := lexer.closeBlocks lexer.cursor.column
  match lexer.cursor.peek? with
  | none => do
    let lexer ← lexer.leaveDocument
    .ok (lexer.push .textEnd)
  | some c => lexer.pushToken c

/-- Reads all tokens. If there is a flaw, it stands behind the tokens that were settled before. -/
def run : Nat → Lexer → List Token
  | 0, lexer => lexer.tokens.reverse ++ [.flaw .malformed]
  | fuel + 1, lexer =>
    match lexer.step with
    -- A key could still come before the other tokens.
    | .error flaw => (lexer.tokens.reverse.take lexer.settled) ++ [.flaw flaw]
    | .ok next => if next.tokens.head? = some .textEnd then next.tokens.reverse else run fuel next

end Lexer

/-- The tokens of a text. A byte order mark at its start is not part of it. -/
def tokens (text : List Char) : List Token :=
  let start : Cursor := { rest := text }
  let start := if start.isAt '\ufeff' then start.next else start
  Lexer.run (text.length + 2) { cursor := start }

end EntryPoint.Document.Yaml
