/-
# Reading patterns

The patterns of a match statement. Alternatives bind less tightly than closed
patterns, and a name for the whole less tightly than alternatives.

## Main definitions

* `closedPattern` - a pattern that needs no brackets.
* `pattern` - alternatives with an optional name, given how inner patterns are read.
* `topPattern` - the patterns of an arm; commas make them a sequence.
-/

import EntryPoint.Syntax.Reader.Expression

namespace EntryPoint.Syntax

open Reader

/-- A name that a pattern binds. -/
def captureName : Reader String := do
  let label ← name
  -- With one of these behind it the name would be part of a value or a class.
  require (label ≠ "_" && !(← nextIsSymbol [".", "(", "="]))
  return label

/-- A number, with a minus sign in front or not, or the sum or difference of a real and an
imaginary one. -/
def signedNumber : Reader Expr := do
  let negative ← symbol? "-"
  let value ← number
  let base : Expr := if negative then .unary .minus (.constant value) else .constant value
  match ← operator? [("+", .add), ("-", .sub)] with
  | some operator => do
    let part ← number
    -- Only the sum of a real and an imaginary number is one literal.
    require (!isImaginary value && isImaginary part)
    return .binary base operator (.constant part)
  | none => return base
where
  /-- The value of a numeral. -/
  number : Reader Constant := do
    match ← next with
    | .number value => return value
    | _ => failure
  /-- Whether a number is imaginary. -/
  isImaginary : Constant → Bool
    | .imaginary _ => true
    | _ => false

/-- The literal value of a pattern, if a literal is next. -/
def literalValue? (grammar : Grammar) : Reader (Option Expr) := do
  match ← peek? with
  | some (.number _) | some (.symbol "-") => some <$> signedNumber
  | some (.literal _) | some (.keyword "None") | some (.keyword "True") | some (.keyword "False") =>
    some <$> atom grammar
  | _ => return none

/-- The pattern of a literal value. -/
def Pattern.ofLiteral : Expr → Pattern
  | .constant .nothing => .singleton .nothing
  | .constant (.truth flag) => .singleton (.truth flag)
  | other => .value other

/-- The attributes behind a name. -/
def attributeChain (base : Expr) : Reader Expr :=
  iterate (fun value => do
    if ← symbol? "." then return some (.attribute value (← name)) else return none) base

/-- An item of a class pattern: by position, or by the name of an attribute. -/
inductive ClassItem
  | positional (pattern : Pattern)
  | named (label : String) (pattern : Pattern)

/-- The pattern by position. -/
def ClassItem.positional? : ClassItem → Option Pattern
  | .positional pattern => some pattern
  | .named _ _ => none

/-- The pattern by attribute. -/
def ClassItem.named? : ClassItem → Option (String × Pattern)
  | .positional _ => none
  | .named label pattern => some (label, pattern)

/-- Whether the patterns by position stand in front of those by attribute. -/
def classItemsInOrder (items : List ClassItem) : Bool :=
  (items.dropWhile (·.positional?.isSome)).all (·.named?.isSome)

/-- An item of a mapping pattern: a key with its pattern, or the name of the rest. -/
inductive MappingItem
  | pair (key : Expr) (pattern : Pattern)
  | rest (label : String)

/-- The pattern of a mapping made of items; the rest comes last. -/
def Pattern.ofMapping? : List (Expr × Pattern) → List MappingItem → Option Pattern
  | pairs, [] => some (.mapping pairs.reverse none)
  | pairs, [.rest label] => some (.mapping pairs.reverse (some label))
  | pairs, .pair key pattern :: items => Pattern.ofMapping? ((key, pattern) :: pairs) items
  | _, _ => none

section

variable (grammar : Grammar) (inner : Reader Pattern)

/-- An item of a sequence pattern: a pattern, or a star with a name. -/
def sequenceItem : Reader Pattern := do
  if ← symbol? "*" then
    match ← peek? with
    | some (.name "_" _) => do
      let _ ← next
      return .star none
    | _ => return .star (some (← captureName))
  else inner

/-- Whether a pattern is a star. -/
def Pattern.isStar : Pattern → Bool
  | .star _ => true
  | _ => false

/-- One pattern, or a sequence of several. A star alone needs a comma. -/
def sequenceOf : Reader Pattern := do
  match ← commaItems (sequenceItem inner) with
  | ([only], false) => do
    require (!only.isStar)
    return only
  | (items, _) => return .sequence items

/-- An item of a class pattern. -/
def classItem : Reader ClassItem := do
  if ← nextIsNameBefore "=" then
    let label ← name
    symbol "="
    return .named label (← inner)
  else return .positional (← inner)

/-- What follows the parenthesis of a class pattern. -/
def classRest (cls : Expr) : Reader Pattern := do
  if ← symbol? ")" then return .construct cls [] []
  else
    let (items, _) ← commaItems (classItem inner)
    symbol ")"
    require (classItemsInOrder items)
    return .construct cls (items.filterMap ClassItem.positional?)
      (items.filterMap ClassItem.named?)

/-- An item of a mapping pattern. -/
def mappingItem : Reader MappingItem := do
  if ← symbol? "**" then return .rest (← captureName)
  else
    let key ← match ← literalValue? grammar with
      | some value => pure value
      | none => do
        let base ← name
        -- A bare name as a key would be a capture, so that the key must have an attribute.
        require (← nextIsSymbol ["."])
        attributeChain (.name base)
    symbol ":"
    return .pair key (← inner)

/-- What follows the opening brace of a mapping pattern. -/
def mappingRest : Reader Pattern := do
  if ← symbol? "\x7d" then return .mapping [] none
  else
    let (items, _) ← commaItems (mappingItem grammar inner)
    symbol "\x7d"
    ofOption (Pattern.ofMapping? [] items)

/-- What follows a name that opens a pattern: a value, a class, or the name alone. -/
def namedPattern (label : String) : Reader Pattern := do
  if label = "_" then return .capture none none
  else if ← nextIsSymbol [".", "("] then
    let value ← attributeChain (.name label)
    if ← symbol? "(" then classRest inner value
    else
      require (!(← nextIsSymbol ["="]))
      return .value value
  else
    require (!(← nextIsSymbol ["="]))
    return .capture none (some label)

/-- A pattern that needs no brackets around it. -/
def closedPattern : Reader Pattern := do
  match ← literalValue? grammar with
  | some value => return Pattern.ofLiteral value
  | none => do
    match ← next with
    | .name label _ => namedPattern inner label
    | .symbol "(" => do
      if ← symbol? ")" then return .sequence []
      else
        let pattern ← sequenceOf inner
        symbol ")"
        return pattern
    | .symbol "[" => do
      if ← symbol? "]" then return .sequence []
      else
        let (items, _) ← commaItems (sequenceItem inner)
        symbol "]"
        return .sequence items
    | .symbol "\x7b" => mappingRest grammar inner
    | _ => failure

/-- Alternatives, and a name for the whole. -/
def pattern : Reader Pattern := do
  let first ← closedPattern grammar inner
  let others ← repeatedly do
    if ← symbol? "|" then return some (← closedPattern grammar inner) else return none
  let whole := if others.isEmpty then first else .alternatives (first :: others)
  if ← word? "as" then return .capture (some whole) (some (← captureName)) else return whole

end

/-- The patterns of a depth. -/
def patternOfDepth (grammar : Grammar) : Nat → Reader Pattern
  | 0 => failure
  | depth + 1 => pattern grammar (patternOfDepth grammar depth)

/-- The patterns of an arm. -/
def topPattern (grammar : Grammar) (depth : Nat) : Reader Pattern :=
  sequenceOf (patternOfDepth grammar depth)

end EntryPoint.Syntax
