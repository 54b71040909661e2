/-
# Literals with replacement fields

Between braces a literal holds fields, each an expression with an optional
conversion and an optional format, which may hold fields of its own one level
deep. A field closed by an equality sign also stands for its own text. Literals
that stand side by side form one.

## Main definitions

* `scanPlain` - the characters in front of a field.
* `scanFieldText` - the text of the expression in a field.
* `scanParts` - the pieces of a literal.
* `joinLiterals` - the expression of literals side by side.
-/

import EntryPoint.Syntax.Literal.Escape

namespace EntryPoint.Syntax

open Text

/-- A piece of a literal: plain text, or a field. -/
inductive Piece
  | plain (text : List Char)
  | field (value : Expr)

/-! ### Plain text -/

/-- Whether a character opens or closes a field. -/
def isBrace (c : Char) : Bool :=
  c = '\x7b' || c = '\x7d'

/-- The characters up to the next field, with doubled braces made single; in a format up to the
next brace of either kind. The flag says whether a character name in braces is being read. -/
def scanPlain (isRaw inFormat : Bool) : Bool → List Char → Option (List Char × List Char)
  | _, [] => some ([], [])
  | true, c :: rest =>
    (scanPlain isRaw inFormat (c ≠ '\x7d') rest).map fun (text, rest) => (c :: text, rest)
  | false, c :: [] =>
    if !isBrace c then some ([c], [])
    else if inFormat || c = '\x7b' then some ([], [c])
    else none
  | false, c :: d :: rest =>
    if c = '\\' && !isRaw && !isBrace d then
      (scanPlain isRaw inFormat (d = 'N' && rest.head? = some '\x7b') rest).map
        fun (text, rest) => (c :: d :: text, rest)
    else if !isBrace c then
      (scanPlain isRaw inFormat false (d :: rest)).map fun (text, rest) => (c :: text, rest)
    -- Doubled braces stand for themselves in a literal but not in a format.
    else if inFormat then some ([], c :: d :: rest)
    else if c = d then
      (scanPlain isRaw inFormat false rest).map fun (text, rest) => (c :: text, rest)
    else if c = '\x7b' then some ([], c :: d :: rest)
    else none

/-! ### The text of a field -/

/-- The bracket that closes an open one. -/
def closingBracket (c : Char) : Char :=
  if c = '(' then ')' else if c = '[' then ']' else '\x7d'

/-- The text of the expression in a field up to a character that ends it, given the quote that is
open, whether that quote is a triple one, and the brackets that are open. Backslashes and comments
are not allowed. -/
def scanFieldText (quoted : Option (Char × Bool)) (brackets : List Char) :
    List Char → Option (List Char × List Char)
  | [] => none
  | c :: rest =>
    let one (quoted : Option (Char × Bool)) (brackets : List Char) :=
      (scanFieldText quoted brackets rest).map fun (text, rest) => (c :: text, rest)
    -- A backslash is not allowed even between the quotes of a literal.
    if c = '\\' then none
    else
      match quoted with
      | some (mark, false) => one (if c = mark then none else quoted) brackets
      | some (mark, true) =>
        match rest with
        | d :: e :: rest =>
          if c = mark ∧ d = mark ∧ e = mark then
            (scanFieldText none brackets rest).map fun (text, rest) => (c :: d :: e :: text, rest)
          else one quoted brackets
        | _ => one quoted brackets
      | none =>
        if c = '\'' ∨ c = '"' then
          match rest with
          | d :: e :: rest =>
            if d = c ∧ e = c then
              (scanFieldText (some (c, true)) brackets rest).map
                fun (text, rest) => (c :: d :: e :: text, rest)
            else one (some (c, false)) brackets
          | _ => one (some (c, false)) brackets
        else if c = '(' ∨ c = '[' ∨ c = '\x7b' then
          if brackets.length < maxBrackets then one none (closingBracket c :: brackets) else none
        else if c = '#' then none
        -- Outside of brackets these end the expression, unless they are part of a comparison.
        else if brackets.isEmpty && ['!', ':', '\x7d', '=', '<', '>'].contains c then
          match rest with
          | '=' :: rest =>
            if ['!', '=', '<', '>'].contains c then
              (scanFieldText none brackets rest).map fun (text, rest) => (c :: '=' :: text, rest)
            else some ([], c :: '=' :: rest)
          | _ => if c = '<' ∨ c = '>' then one none brackets else some ([], c :: rest)
        else if c = ')' ∨ c = ']' ∨ c = '\x7d' then
          match brackets with
          | [] => none
          | top :: outer => if c = top then one none outer else none
        else one none brackets

/-- Whether a character is a blank of the language. -/
def isLineBlank (c : Char) : Bool :=
  c = ' ' || c = '\t' || c = '\n' || c = '\x0c'

/-- Whether a character is a blank that may follow the equality sign of a field. -/
def isFieldBlank (c : Char) : Bool :=
  isLineBlank c || c = '\r' || c = '\x0b'

/-! ### Fields -/

/-- The conversion behind an exclamation mark, if there is one. -/
def scanConversion (text : List Char) : Option (Option Char × List Char) :=
  match text with
  | '!' :: c :: rest => if c = 's' ∨ c = 'r' ∨ c = 'a' then some (some c, rest) else none
  | ['!'] => none
  | _ => some (none, text)

/-- The pieces of a field behind its opening brace, given how its expression and its format are
read: its own text if an equality sign closes it, and the field. -/
def scanField (value : List Char → Option Expr) (format : List Char → Option (Expr × List Char))
    (text : List Char) : Option (List Piece × List Char) := do
  let (source, rest) ← scanFieldText none [] text
  if source.all isLineBlank then none
  -- The expression is read in parentheses, so that it may span lines.
  let value ← value ('(' :: source ++ [')'])
  let (shown, rest) := match rest with
    | '=' :: rest =>
      (some (source ++ '=' :: rest.takeWhile isFieldBlank), rest.dropWhile isFieldBlank)
    | rest => (none, rest)
  let (conversion, rest) ← scanConversion rest
  let (spec, rest) ← match rest with
    | ':' :: rest => (format rest).map fun (spec, rest) => (some spec, rest)
    | rest => some (none, rest)
  let conversion :=
    -- A field that shows its own text shows its value quoted unless it says otherwise.
    if shown.isSome && conversion.isNone && spec.isNone then some 'r' else conversion
  match rest with
  | '\x7d' :: rest =>
    some ((shown.map Piece.plain).toList ++ [.field (.formatted value conversion spec)], rest)
  | _ => none

/-- The pieces of a literal or of a format up to its end or to a closing brace, given how a field
is read. Every field takes up at least one character. -/
def piecesWithin (isRaw inFormat : Bool) (field : List Char → Option (List Piece × List Char)) :
    Nat → List Char → Option (List Piece × List Char)
  | 0, _ => none
  | fuel + 1, text => do
    let (plain, rest) ← scanPlain isRaw inFormat false text
    let plain ← decodeText isRaw plain
    match rest with
    | '\x7b' :: rest =>
      let (pieces, rest) ← field rest
      let (others, rest) ← piecesWithin isRaw inFormat field fuel rest
      some (.plain plain :: pieces ++ others, rest)
    | rest => some ([.plain plain], rest)

/-- The expressions of pieces: plain texts side by side are one constant, and empty ones vanish. -/
def mergePieces (marked : Bool) : List Char → List Piece → List Expr
  | pending, [] => constant pending
  | pending, .plain text :: rest => mergePieces marked (pending ++ text) rest
  | pending, .field value :: rest => constant pending ++ value :: mergePieces marked [] rest
where
  /-- The constant of a text that is not empty. -/
  constant (text : List Char) : List Expr :=
    if text.isEmpty then [] else [.constant (.text (String.ofList text) marked)]

/-- The format of a field, with fields so many levels deep. A closing brace must follow. -/
def scanFormat (value : List Char → Option Expr) (isRaw marked : Bool) :
    Nat → List Char → Option (Expr × List Char)
  | _, [] => none
  | 0, text => finish (piecesWithin isRaw true (fun _ => none) (text.length + 1) text)
  | depth + 1, text =>
    let field := scanField value (scanFormat value isRaw marked depth)
    finish (piecesWithin isRaw true field (text.length + 1) text)
where
  /-- The format made of pieces. -/
  finish (result : Option (List Piece × List Char)) : Option (Expr × List Char) :=
    match result with
    | some (pieces, '\x7d' :: rest) => some (.joined (mergePieces marked [] pieces), '\x7d' :: rest)
    | _ => none

/-- The pieces of the body of a literal. -/
def scanParts (value : List Char → Option Expr) (isRaw marked : Bool) (body : List Char) :
    Option (List Piece) :=
  let field := scanField value (scanFormat value isRaw marked 1)
  match piecesWithin isRaw false field (body.length + 1) body with
  | some (pieces, []) => some pieces
  | _ => none

/-! ### Literals side by side -/

/-- The pieces of one literal that is not of bytes. -/
def Literal.pieces? (value : List Char → Option Expr) (marked : Bool) (literal : Literal) :
    Option (List Piece) :=
  match literal.kind with
  | .text => (decodeText literal.isRaw literal.body).map fun text => [.plain text]
  | .parts => scanParts value literal.isRaw marked literal.body
  | .bytes => none

/-- The expression of literals side by side, given how the expressions in fields are read. Bytes
go with bytes only; the mark of the first literal counts. -/
def joinLiterals (value : List Char → Option Expr) (literals : List Literal) : Option Expr := do
  let marked := (literals.head?.map (·.marked)).getD false
  if literals.all (·.kind = .bytes) then
    let bytes ← literals.mapM fun literal => decodeBytes literal.isRaw literal.body
    some (.constant (.bytes bytes.flatten))
  else
    let pieces ← literals.mapM (Literal.pieces? value marked)
    if literals.any (·.kind = .parts) then some (.joined (mergePieces marked [] pieces.flatten))
    else
      let text := pieces.flatten.flatMap fun
        | .plain text => text
        | .field _ => []
      some (.constant (.text (String.ofList text) marked))

end EntryPoint.Syntax
