/-
# Scalars as written

The text of a scalar in each of its styles: plain, quoted once or twice, and the
blocks, literal or folded. In every style but the literal one a line break counts
as a space unless empty lines follow it, which then count as line breaks.

## Main definitions

* `scanPlain` - the text of a plain scalar.
* `scanQuoted` - the text between quotes.
* `scanBlock` - the text of a block.
-/

import EntryPoint.Document.Yaml.Cursor
import EntryPoint.Document.Yaml.Flaw

namespace EntryPoint.Document.Yaml

open Text

/-- The text that a line break and the empty lines behind it stand for. -/
def foldBreaks (first : Char) (others : List Char) : List Char :=
  if first ≠ '\n' then first :: others
  else if others.isEmpty then [' ']
  else others

/-! ### Plain scalars -/

/-- Whether a colon before this character ends a plain scalar. -/
def endsKey (inFlow : Bool) (next : Option Char) : Bool :=
  endsWord next ||
    (inFlow && (next.map fun c => [',', '[', ']', '\x7b', '\x7d'].contains c).getD false)

/-- The characters of a plain scalar up to the next gap or indicator. -/
def plainRun (inFlow : Bool) : List Char → List Char
  | [] => []
  | c :: rest =>
    if isGap c || (c = ':' && endsKey inFlow rest.head?) ||
        (inFlow && [',', '?', '[', ']', '\x7b', '\x7d'].contains c) then []
    else c :: plainRun inFlow rest

/-- What separates two runs of a plain scalar: the text it stands for, whether it crosses a line
break, and the cursor behind it. -/
structure PlainGap where
  text : List Char
  crosses : Bool
  cursor : Cursor

/-- The spaces and line breaks from here on, unless a separator of documents comes first. -/
def plainBreaks : Nat → Cursor → Option (List Char) × Cursor
  | 0, cursor => (none, cursor)
  | fuel + 1, cursor =>
    if cursor.isAtSeparator then (none, cursor)
    else
      let cursor := cursor.skipSpaces
      match cursor.lineBreak? with
      | none => (some [], cursor)
      | some (c, cursor) =>
        let (others, cursor) := plainBreaks fuel cursor
        (others.map (c :: ·), cursor)

/-- The gap in a plain scalar that starts here. -/
def plainGap (cursor : Cursor) : PlainGap :=
  let (spaces, cursor) := cursor.span (· = ' ')
  match cursor.lineBreak? with
  | none => ⟨spaces, false, cursor⟩
  | some (first, cursor) =>
    let (others, cursor) := plainBreaks (cursor.rest.length + 1) cursor
    -- Before a separator of documents the gap stands for nothing, so that the scalar ends there.
    ⟨(others.map (foldBreaks first)).getD [], true, cursor⟩

/-- The text of a plain scalar behind a gap. -/
def plainFrom (inFlow : Bool) (indent : Nat) : Nat → PlainGap → List Char × PlainGap
  | 0, gap => ([], gap)
  | fuel + 1, gap =>
    match plainRun inFlow gap.cursor.rest with
    | [] => ([], gap)
    | run =>
      let next := plainGap (gap.cursor.skip run.length)
      -- A gap without text ends the scalar, and so does one before a comment or before less
      -- indentation.
      if next.text.isEmpty || next.cursor.isAt '#' || (!inFlow && next.cursor.column < indent) then
        (gap.text ++ run, next)
      else
        let (others, last) := plainFrom inFlow indent fuel next
        (gap.text ++ run ++ others, last)

/-- The text of the plain scalar that starts here, whether its last gap crosses a line break, and
the cursor behind that gap. Outside brackets, a line less indented ends it. -/
def scanPlain (inFlow : Bool) (indent : Nat) (cursor : Cursor) : String × Bool × Cursor :=
  let (text, last) := plainFrom inFlow indent (cursor.rest.length + 1) ⟨[], false, cursor⟩
  (String.ofList text, last.crosses, last.cursor)

/-! ### Quoted scalars -/

/-- The character of an escape by one letter. -/
def letterEscape? (c : Char) : Option Char :=
  [('0', '\x00'), ('a', '\x07'), ('b', '\x08'), ('t', '\t'), ('\t', '\t'), ('n', '\n'),
    ('v', '\x0b'), ('f', '\x0c'), ('r', '\r'), ('e', '\x1b'), (' ', ' '), ('"', '"'), ('\\', '\\'),
    ('/', '/'), ('N', '\x85'), ('_', '\xa0'), ('L', '\u2028'), ('P', '\u2029')].lookup c

/-- The number of digits of an escape by code. -/
def codeEscapeDigits? (c : Char) : Option Nat :=
  [('x', 2), ('u', 4), ('U', 8)].lookup c

/-- The character of a code; a surrogate is the replacement character. -/
def characterOf (code : Nat) : Except Flaw Char :=
  if code.isValidChar then .ok (Char.ofNat code)
  else if code < 0x10000 then .ok '\ufffd'
  else if code < 0x80000000 then .error (.unforeseen .value)
  else .error (.unforeseen .overflow)

/-- Empty lines from the start of a line on; a separator of documents must not come. -/
def quotedBreaks : Nat → Cursor → Except Flaw (List Char × Cursor)
  | 0, _ => .error .malformed
  | fuel + 1, cursor =>
    if cursor.isAtSeparator then .error .malformed
    else
      let cursor := cursor.skipWhile fun c => c = ' ' || c = '\t'
      match cursor.lineBreak? with
      | none => .ok ([], cursor)
      | some (c, cursor) => do
        let (others, cursor) ← quotedBreaks fuel cursor
        .ok (c :: others, cursor)

/-- The escape behind its backslash: the text that it stands for and the cursor behind it. -/
def scanEscape (cursor : Cursor) : Except Flaw (List Char × Cursor) :=
  match cursor.rest with
  | [] => .error .malformed
  | c :: _ =>
    match letterEscape? c, codeEscapeDigits? c with
    | some escaped, _ => .ok ([escaped], cursor.next)
    | none, some count =>
      let digits := cursor.next.rest.take count
      if digits.length = count ∧ digits.all (isDigitOf 16) then do
        .ok ([← characterOf (ofDigits 16 digits)], cursor.skip (count + 1))
      else .error .malformed
    | none, none =>
      match cursor.lineBreak? with
      | some (_, cursor) => quotedBreaks (cursor.rest.length + 1) cursor
      | none => .error .malformed

/-- The gap between two runs of a quoted scalar: its spaces as they are, or its line breaks
folded. The text must go on behind it. -/
def quotedGap (cursor : Cursor) : Except Flaw (List Char × Cursor) :=
  let (spaces, cursor) := cursor.span fun c => c = ' ' || c = '\t'
  match cursor.lineBreak? with
  | some (first, cursor) => do
    let (others, cursor) ← quotedBreaks (cursor.rest.length + 1) cursor
    .ok (foldBreaks first others, cursor)
  | none => if cursor.rest.isEmpty then .error .malformed else .ok (spaces, cursor)

/-- The text up to the closing quote. -/
def quotedFrom (quote : Char) : Nat → Cursor → Except Flaw (List Char × Cursor)
  | 0, _ => .error .malformed
  | fuel + 1, cursor => do
    let (text, cursor) ← (match cursor.rest with
      | [] => .error .malformed
      | c :: rest =>
        if c = quote then
          -- Between single quotes a doubled one stands for itself, and there are no other escapes.
          if quote = '\'' ∧ rest.head? = some quote then .ok (['\''], cursor.skip 2)
          else .ok ([], cursor)
        else if c = '\\' ∧ quote = '"' then scanEscape cursor.next
        else if isGap c then quotedGap cursor
        else .ok ([c], cursor.next) : Except Flaw (List Char × Cursor))
    -- Only where the step above took nothing does the quote end the scalar.
    if cursor.isAt quote && text.isEmpty then .ok ([], cursor.next)
    else do
      let (others, cursor) ← quotedFrom quote fuel cursor
      .ok (text ++ others, cursor)

/-- The text of the quoted scalar that starts here, and the cursor behind it. -/
def scanQuoted (quote : Char) (cursor : Cursor) : Except Flaw (String × Cursor) := do
  let (text, cursor) ← quotedFrom quote (cursor.rest.length + 1) cursor.next
  .ok (String.ofList text, cursor)

/-! ### Blocks -/

/-- What becomes of the line breaks at the end of a block. -/
inductive Chomping
  | strip
  | clip
  | keep
  deriving DecidableEq

/-- The header of a block: its chomping, and its indentation if that is given. -/
structure BlockHeader where
  chomping : Chomping
  increment : Option Nat

/-- The chomping that a character stands for. -/
def chompingOf? (c : Char) : Option Chomping :=
  [('-', .strip), ('+', .keep)].lookup c

/-- The chomping indicator here, if there is one. -/
def scanChomping (cursor : Cursor) : Option Chomping × Cursor :=
  match cursor.peek?.bind chompingOf? with
  | some chomping => (some chomping, cursor.next)
  | none => (none, cursor)

/-- The indentation indicator here, if there is one; it must not be zero. -/
def scanIncrement (cursor : Cursor) : Except Flaw (Option Nat × Cursor) :=
  match cursor.peek? with
  | some c =>
    if c = '0' then .error .malformed
    else if c.isDigit then .ok (digitValue? c, cursor.next)
    else .ok (none, cursor)
  | none => .ok (none, cursor)

/-- The header of a block behind its first character, with the indicators in either order, and the
cursor on the line below it. -/
def scanBlockHeader (cursor : Cursor) : Except Flaw (BlockHeader × Cursor) := do
  let (before, cursor) := scanChomping cursor
  let (increment, cursor) ← scanIncrement cursor
  let (after, cursor) :=
    if before.isNone && increment.isSome then scanChomping cursor else (none, cursor)
  if !endsField cursor.peek? then .error .malformed
  else
    match cursor.restOfLine with
    | some cursor => .ok (⟨(before.or after).getD .clip, increment⟩, cursor)
    | none => .error .malformed

/-- The empty lines before a block of unknown indentation: their breaks, the widest column that
spaces reach, and the cursor behind them. -/
def leadingBreaks : Nat → Nat → Cursor → List Char × Nat × Cursor
  | 0, widest, cursor => ([], widest, cursor)
  | fuel + 1, widest, cursor =>
    let spaces := (cursor.span (· = ' ')).1
    let cursor := cursor.skipSpaces
    let widest := if spaces.isEmpty then widest else max widest cursor.column
    match cursor.lineBreak? with
    | none => ([], widest, cursor)
    | some (c, cursor) =>
      let (others, widest, cursor) := leadingBreaks fuel widest cursor
      (c :: others, widest, cursor)

/-- The empty lines of a block, whose spaces reach at most its column. -/
def blockBreaks (column : Nat) : Nat → Cursor → List Char × Cursor
  | 0, cursor => ([], cursor)
  | fuel + 1, cursor =>
    let cursor := cursor.skipSpacesTo column
    match cursor.lineBreak? with
    | none => ([], cursor)
    | some (c, cursor) =>
      let (others, cursor) := blockBreaks column fuel cursor
      (c :: others, cursor)

/-- Whether a line of a block is left as it is by folding: it opens with a space or a tab. -/
def isKeptLine (cursor : Cursor) : Bool :=
  cursor.isAt ' ' || cursor.isAt '\t'

/-- The text that the end of a line of a block and the empty lines below it stand for. -/
def blockJoint (folded : Bool) (ending : List Char) (breaks : List Char) (keeps : Bool) :
    List Char :=
  if folded && ending = ['\n'] && !keeps then
    if breaks.isEmpty then [' '] else breaks
  else ending ++ breaks

/-- The text at the end of a block. -/
def blockTail (chomping : Chomping) (ending breaks : List Char) : List Char :=
  match chomping with
  | .strip => []
  | .clip => ending
  | .keep => ending ++ breaks

/-- The lines of a block from a line in its column on. -/
def blockLines (folded : Bool) (chomping : Chomping) (column : Nat) :
    Nat → Cursor → List Char × Cursor
  | 0, cursor => ([], cursor)
  | fuel + 1, cursor =>
    let (line, after) := cursor.span fun c => !isBreak c
    let (ending, below) := match after.lineBreak? with
      | some (c, below) => ([c], below)
      | none => ([], after)
    let (breaks, below) := blockBreaks column (below.rest.length + 1) below
    if below.column = column && !below.rest.isEmpty then
      let joint := blockJoint folded ending breaks (isKeptLine cursor || isKeptLine below)
      let (others, below) := blockLines folded chomping column fuel below
      (line ++ joint ++ others, below)
    else (line ++ blockTail chomping ending breaks, below)

/-- The text of the block that starts here, inside a collection whose entries need at least the
given column, and the cursor behind it. -/
def scanBlock (folded : Bool) (least : Nat) (cursor : Cursor) : Except Flaw (String × Cursor) := do
  let (header, cursor) ← scanBlockHeader cursor.next
  -- Even outside of all collections a block is indented by one space at least.
  let least := max least 1
  let (breaks, column, cursor) := match header.increment with
    | some increment =>
      let column := least + increment - 1
      let (breaks, cursor) := blockBreaks column (cursor.rest.length + 1) cursor
      (breaks, column, cursor)
    | none =>
      let (breaks, widest, cursor) := leadingBreaks (cursor.rest.length + 1) 0 cursor
      (breaks, max least widest, cursor)
  let (text, cursor) :=
    if cursor.column = column && !cursor.rest.isEmpty then
      let (text, cursor) := blockLines folded header.chomping column (cursor.rest.length + 1) cursor
      (breaks ++ text, cursor)
    else (blockTail header.chomping [] breaks, cursor)
  .ok (String.ofList text, cursor)

end EntryPoint.Document.Yaml
