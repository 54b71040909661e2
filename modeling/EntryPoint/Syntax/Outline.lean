/-
# Outlines of expressions

An outline spells a tree out: every node by its kind with its fields in order,
lists in full, and fields that are missing left out. A name, an attribute, an
index, a spread and a sequence also say whether they are read or bound; they are
bound where they stand as the target of a clause or of a named expression, and
in the elements of such a target.

## Main definitions

* `Expr.kind` - the kind of a node.
* `Expr.outline` - the outline of an expression that is read.
-/

import EntryPoint.Syntax.Printer.Literal

namespace EntryPoint.Syntax

open Decimal Text

/-! ### Names of kinds -/

/-- The kind of an expression. -/
def Expr.kind : Expr → String
  | .constant _ => "Constant"
  | .name _ => "Name"
  | .attribute _ _ => "Attribute"
  | .subscript _ _ => "Subscript"
  | .call _ _ _ => "Call"
  | .starred _ => "Starred"
  | .tuple _ => "Tuple"
  | .list _ => "List"
  | .set _ => "Set"
  | .dict _ => "Dict"
  | .listComp _ _ => "ListComp"
  | .setComp _ _ => "SetComp"
  | .dictComp _ _ _ => "DictComp"
  | .generator _ _ => "GeneratorExp"
  | .boolean _ _ => "BoolOp"
  | .binary _ _ _ => "BinOp"
  | .unary _ _ => "UnaryOp"
  | .compare _ _ => "Compare"
  | .conditional _ _ _ => "IfExp"
  | .lambda _ _ => "Lambda"
  | .named _ _ => "NamedExpr"
  | .await _ => "Await"
  | .yield _ => "Yield"
  | .yieldFrom _ => "YieldFrom"
  | .slice _ _ _ => "Slice"
  | .formatted _ _ _ => "FormattedValue"
  | .joined _ => "JoinedStr"

/-- The kind of a statement. -/
def Stmt.kind : Stmt → String
  | .functionDef head _ => if head.isAsync then "AsyncFunctionDef" else "FunctionDef"
  | .classDef _ _ => "ClassDef"
  | .returnValue _ => "Return"
  | .delete _ => "Delete"
  | .assign _ _ => "Assign"
  | .augAssign _ _ _ => "AugAssign"
  | .annAssign _ _ _ _ => "AnnAssign"
  | .forLoop isAsync _ _ _ _ => if isAsync then "AsyncFor" else "For"
  | .whileLoop _ _ _ => "While"
  | .branch _ _ _ => "If"
  | .withBlock isAsync _ _ => if isAsync then "AsyncWith" else "With"
  | .matchBlock _ _ => "Match"
  | .raise _ _ => "Raise"
  | .tryBlock isStar _ _ _ _ => if isStar then "TryStar" else "Try"
  | .assertion _ _ => "Assert"
  | .importModules _ => "Import"
  | .importFrom _ _ _ => "ImportFrom"
  | .globalNames _ => "Global"
  | .nonlocalNames _ => "Nonlocal"
  | .expression _ => "Expr"
  | .pass => "Pass"
  | .breakLoop => "Break"
  | .continueLoop => "Continue"

def BooleanOperator.kind : BooleanOperator → String
  | .and => "And"
  | .or => "Or"

def BinaryOperator.kind : BinaryOperator → String
  | .add => "Add"
  | .sub => "Sub"
  | .mul => "Mult"
  | .matMul => "MatMult"
  | .div => "Div"
  | .mod => "Mod"
  | .pow => "Pow"
  | .shiftLeft => "LShift"
  | .shiftRight => "RShift"
  | .bitOr => "BitOr"
  | .bitXor => "BitXor"
  | .bitAnd => "BitAnd"
  | .floorDiv => "FloorDiv"

def UnaryOperator.kind : UnaryOperator → String
  | .invert => "Invert"
  | .not => "Not"
  | .plus => "UAdd"
  | .minus => "USub"

def Comparison.kind : Comparison → String
  | .equal => "Eq"
  | .notEqual => "NotEq"
  | .less => "Lt"
  | .lessEqual => "LtE"
  | .greater => "Gt"
  | .greaterEqual => "GtE"
  | .same => "Is"
  | .notSame => "IsNot"
  | .member => "In"
  | .notMember => "NotIn"

/-! ### Fields -/

/-- A field with its value. -/
def field (label value : String) : String :=
  label ++ "=" ++ value

/-- A list of values. -/
def listing (values : List String) : String :=
  "[" ++ ", ".intercalate values ++ "]"

/-- A node with its fields. -/
def node (kind : String) (fields : List String) : String :=
  kind ++ "(" ++ ", ".intercalate fields ++ ")"

/-- The node that says whether an expression is bound or read. -/
def useField (bound : Bool) : String :=
  field "ctx" (node (if bound then "Store" else "Load") [])

/-- Numbers of an outline have no numeral beyond the range. -/
def outlineLayout : Layout where
  maxPoint := 16
  minPoint := -4
  keepsPoint := true
  infinity := "inf"
  notANumber := "nan"

/-- The value of a constant in an outline. -/
def Constant.outlineValue : Constant → Except Unprintable String
  | .real value => .ok (outlineLayout.text value)
  | .imaginary value => .ok (({ outlineLayout with keepsPoint := false }).text value ++ "j")
  -- An outline shows the value, where the printer shows how it is spelled.
  | .ellipsis => .ok "Ellipsis"
  | .text value _ => .ok (quote value)
  | value => value.print false

/-- The outline of a constant; a marked text says so. -/
def Constant.outline (value : Constant) : Except Unprintable String := do
  let mark := match value with
    | .text _ true => [field "kind" (quote "u")]
    | _ => []
  return node "Constant" (field "value" (← value.outlineValue) :: mark)

/-- The number by which an outline gives the conversion of a replacement field. -/
def conversionCode (conversion : Option Char) : String :=
  match conversion with
  | some c => decimal c.toNat
  | none => "-1"

/-- The field of the clauses of a comprehension. -/
def clausesField (clauses : List String) : String :=
  field "generators" (listing clauses)

/-! ### Expressions -/

mutual

/-- The outline of an expression that is bound or read. -/
def Expr.outlineUse (bound : Bool) : Expr → Except Unprintable String
  | .constant value => value.outline
  | .name id => .ok (node "Name" [field "id" (quote id), useField bound])
  | .attribute value attr =>
    return node "Attribute"
      [field "value" (← value.outlineUse false), field "attr" (quote attr), useField bound]
  | .subscript value index =>
    return node "Subscript"
      [field "value" (← value.outlineUse false), field "slice" (← index.outlineUse false),
        useField bound]
  | .call callee args keywords =>
    return node "Call"
      [field "func" (← callee.outlineUse false),
        field "args" (listing (← outlineEach false args)),
        field "keywords" (listing (← outlineKeywords keywords))]
  | .starred value =>
    return node "Starred" [field "value" (← value.outlineUse bound), useField bound]
  | .tuple elements =>
    return node "Tuple" [field "elts" (listing (← outlineEach bound elements)), useField bound]
  | .list elements =>
    return node "List" [field "elts" (listing (← outlineEach bound elements)), useField bound]
  | .set elements => return node "Set" [field "elts" (listing (← outlineEach false elements))]
  | .dict items => do
    let items ← outlineItems items
    return node "Dict"
      [field "keys" (listing (items.map (·.1))), field "values" (listing (items.map (·.2)))]
  | .listComp element clauses =>
    return node "ListComp"
      [field "elt" (← element.outlineUse false), clausesField (← outlineClauses clauses)]
  | .setComp element clauses =>
    return node "SetComp"
      [field "elt" (← element.outlineUse false), clausesField (← outlineClauses clauses)]
  | .dictComp key value clauses =>
    return node "DictComp"
      [field "key" (← key.outlineUse false), field "value" (← value.outlineUse false),
        clausesField (← outlineClauses clauses)]
  | .generator element clauses =>
    return node "GeneratorExp"
      [field "elt" (← element.outlineUse false), clausesField (← outlineClauses clauses)]
  | .boolean operator operands =>
    return node "BoolOp"
      [field "op" (node operator.kind []),
        field "values" (listing (← outlineEach false operands))]
  | .binary left operator right =>
    return node "BinOp"
      [field "left" (← left.outlineUse false), field "op" (node operator.kind []),
        field "right" (← right.outlineUse false)]
  | .unary operator operand =>
    return node "UnaryOp"
      [field "op" (node operator.kind []), field "operand" (← operand.outlineUse false)]
  | .compare left rest => do
    let left ← left.outlineUse false
    let rest ← outlineComparisons rest
    return node "Compare"
      [field "left" left, field "ops" (listing (rest.map (·.1))),
        field "comparators" (listing (rest.map (·.2)))]
  | .conditional test body orElse =>
    return node "IfExp"
      [field "test" (← test.outlineUse false), field "body" (← body.outlineUse false),
        field "orelse" (← orElse.outlineUse false)]
  | .lambda parameters body =>
    return node "Lambda"
      [field "args" (← outlineParameters parameters), field "body" (← body.outlineUse false)]
  | .named target value =>
    return node "NamedExpr"
      [field "target" (← target.outlineUse true), field "value" (← value.outlineUse false)]
  | .await value => return node "Await" [field "value" (← value.outlineUse false)]
  | .yield value => return node "Yield" (← outlineOption "value" value)
  | .yieldFrom value => return node "YieldFrom" [field "value" (← value.outlineUse false)]
  | .slice lower upper step =>
    return node "Slice"
      ((← outlineOption "lower" lower) ++ (← outlineOption "upper" upper) ++
        (← outlineOption "step" step))
  | .formatted value conversion spec =>
    return node "FormattedValue"
      (field "value" (← value.outlineUse false) :: field "conversion" (conversionCode conversion) ::
        (← outlineOption "format_spec" spec))
  | .joined parts =>
    return node "JoinedStr" [field "values" (listing (← outlineEach false parts))]

/-- The outlines of expressions. -/
def outlineEach (bound : Bool) : List Expr → Except Unprintable (List String)
  | [] => .ok []
  | first :: rest => return (← first.outlineUse bound) :: (← outlineEach bound rest)

/-- The field of an expression that may be missing. -/
def outlineOption (label : String) : Option Expr → Except Unprintable (List String)
  | none => .ok []
  | some value => return [field label (← value.outlineUse false)]

/-- The keys and values of a dictionary; a spread mapping has no key. -/
def outlineItems : List (Option Expr × Expr) → Except Unprintable (List (String × String))
  | [] => .ok []
  | (none, value) :: rest =>
    return ("None", ← value.outlineUse false) :: (← outlineItems rest)
  | (some key, value) :: rest =>
    return (← key.outlineUse false, ← value.outlineUse false) :: (← outlineItems rest)

def outlineKeywords : List (Keyword Expr) → Except Unprintable (List String)
  | [] => .ok []
  | ⟨name, value⟩ :: rest => do
    let name := match name with
      | some name => [field "arg" (quote name)]
      | none => []
    let value ← value.outlineUse false
    return node "keyword" (name ++ [field "value" value]) :: (← outlineKeywords rest)

/-- The operators and operands behind the first operand of a comparison. -/
def outlineComparisons :
    List (Comparison × Expr) → Except Unprintable (List (String × String))
  | [] => .ok []
  | (operator, value) :: rest =>
    return (node operator.kind [], ← value.outlineUse false) :: (← outlineComparisons rest)

/-- The outlines of the clauses of a comprehension. -/
def outlineClauses : List (Clause Expr) → Except Unprintable (List String)
  | [] => .ok []
  | ⟨isAsync, target, source, conditions⟩ :: rest => do
    let target ← target.outlineUse true
    let source ← source.outlineUse false
    let conditions ← outlineEach false conditions
    let clause := node "comprehension"
      [field "target" target, field "iter" source, field "ifs" (listing conditions),
        field "is_async" (if isAsync then "1" else "0")]
    return clause :: (← outlineClauses rest)

/-- The outline of parameters: their names by kind, then the defaults. Those given by name have
one default each, the others as many as there are, for the last ones. -/
def outlineParameters : Parameters Expr → Except Unprintable String
  | ⟨positionOnly, regular, variadic, nameOnly, keywords⟩ => do
    let positionOnly ← outlineParameterList positionOnly
    let regular ← outlineParameterList regular
    let variadic ← outlineParameterOption variadic
    let nameOnly ← outlineParameterList nameOnly
    let keywords ← outlineParameterOption keywords
    let collector (label : String) (parameter : Option (String × Option String)) : List String :=
      (parameter.map fun (name, _) => field label name).toList
    return node "arguments"
      ([field "posonlyargs" (listing (positionOnly.map (·.1))),
          field "args" (listing (regular.map (·.1)))] ++
        collector "vararg" variadic ++
        [field "kwonlyargs" (listing (nameOnly.map (·.1))),
          field "kw_defaults" (listing (nameOnly.map fun (_, default) => default.getD "None"))] ++
        collector "kwarg" keywords ++
        [field "defaults" (listing ((positionOnly ++ regular).filterMap (·.2)))])

def outlineParameterList :
    List (Parameter Expr) → Except Unprintable (List (String × Option String))
  | [] => .ok []
  | first :: rest => return (← outlineParameter first) :: (← outlineParameterList rest)

def outlineParameterOption :
    Option (Parameter Expr) → Except Unprintable (Option (String × Option String))
  | none => .ok none
  | some parameter => return some (← outlineParameter parameter)

/-- The outline of a parameter and of its default. -/
def outlineParameter : Parameter Expr → Except Unprintable (String × Option String)
  | ⟨name, annotation, default⟩ => do
    let annotation ← outlineOption "annotation" annotation
    let default ← outlineDefault default
    return (node "arg" (field "arg" (quote name) :: annotation), default)

def outlineDefault : Option Expr → Except Unprintable (Option String)
  | none => .ok none
  | some value => return some (← value.outlineUse false)

end

/-- The outline of an expression that is read. -/
def Expr.outline (expr : Expr) : Except Unprintable String :=
  expr.outlineUse false

end EntryPoint.Syntax
