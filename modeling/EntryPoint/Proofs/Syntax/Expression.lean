/-
# Printed expressions read back

An expression made of names, texts, attributes, calls, indices and lists is printed
as a text whose tokens are read as the same expression. What stands inside brackets
is read one place further in, so that the nesting of the brackets bounds how deep
the places are.

## Main definitions

* `Expr.Written` - a text and its tokens stand for an expression.
* `Separated`, `Listed` - texts and tokens of expressions with commas between them.

## Main results

* `Expr.Written.name`, `Expr.Written.text`, `Expr.Written.attr`, `Expr.Written.call`,
  `Expr.Written.list`, `Expr.Written.subscript` - how such expressions are put together.
* `Expr.Written.expression` - they are read as expressions.
-/

import EntryPoint.Proofs.Syntax.Layout
import EntryPoint.Proofs.Syntax.Operators

namespace EntryPoint.Syntax

open Reader Text

variable {α β : Type} {Made : α → String → List Token → Prop} {values : List α}
  {height height' depth : Nat} {expr value : Expr} {exprs : List Expr}
  {shown id label : String} {texts : List String} {tokens rest : List Token}

/-! ### A written expression -/

/-- The marks that go on with a value. -/
def trailerMarks : List String := [".", "(", "["]

/-- A text and its tokens stand for an expression, with brackets nested up to a height. The text is
printed at every place and read as the tokens. The tokens are no assignment or argument by name,
whatever stands behind them, and they are read as the expression at every place around as many inner
ones as there are brackets. -/
structure Expr.Written (height : Nat) (expr : Expr) (text : String) (tokens : List Token) :
    Prop where
  prints : ∀ place, expr.print false place = .ok text
  starts : StartsWord text
  spells : Spells text tokens
  nests : Nests height tokens
  opens : opensPrimary tokens
  unbound : ∀ mark rest, mark ∉ trailerMarks → rest.head? ≠ some (.symbol mark) →
    nextIsNameBefore mark (tokens ++ rest) = some (false, tokens ++ rest)
  unstarred : expr.isStarred = false
  dense : expr.needsBlankBeforePoint = false
  -- Trailers behind the expression belong to the same primary. So it is read not up to its own end
  -- but up to the end of whatever steps go on with it, and an attribute or a call only adds a step.
  reads : ∀ depth, height ≤ depth → ∀ rest value out,
    (∀ literal, rest.head? ≠ some (.literal literal)) →
    Steps (trailer (Grammar.ofDepth depth)) expr rest value out →
    primary (Grammar.ofDepth depth) (tokens ++ rest) = some (value, out)

theorem not_literal_of_endsExpression (ends : endsExpression rest) (literal : Literal) :
    rest.head? ≠ some (.literal literal) := by
  intro same
  obtain ⟨others, rfl⟩ := List.head?_eq_some_iff.mp same
  cases ends

namespace Expr.Written

/-- Room for more brackets than there are does no harm. -/
theorem mono (written : expr.Written height shown tokens) (le : height ≤ height') :
    expr.Written height' shown tokens :=
  { written with
    nests := written.nests.mono le
    reads := fun depth room => written.reads depth (le.trans room) }

/-- In front of what ends an expression no trailer goes on with it. -/
theorem primary (written : expr.Written height shown tokens) (room : height ≤ depth)
    (ends : endsExpression rest) :
    primary (Grammar.ofDepth depth) (tokens ++ rest) = some (expr, rest) :=
  written.reads depth room rest expr rest (not_literal_of_endsExpression ends)
    (.stop (trailer_of_endsExpression ends))

/-- A written expression is read as an expression. -/
theorem expression (written : expr.Written height shown tokens) (room : height ≤ depth)
    (ends : endsExpression rest) :
    (Grammar.ofDepth (depth + 1)).expression (tokens ++ rest) = some (expr, rest) :=
  expression_of_primary (opensPrimary_append written.opens _) (written.primary room ends) ends

theorem ne_nil (written : expr.Written height shown tokens) : tokens ≠ [] :=
  ne_nil_of_opensPrimary written.opens

/-! ### Names and constants -/

/-- A name is the only written expression that an assignment could start with, so what follows it
counts. -/
theorem name (isName : IsName id) : (Expr.name id).Written height id [.name id true] where
  prints _ := by rw [Expr.print]
  starts := isName.startsWord
  spells := .name isName
  nests := .single fun _ => rfl
  opens := rfl
  unbound mark rest _ apart := by
    cases rest with
    | nil => rfl
    | cons first others =>
      cases first with
      | symbol other =>
        have different : other ≠ mark := fun same => apart (by rw [same]; rfl)
        simp [nextIsNameBefore, different]
      | _ => rfl
  unstarred := rfl
  dense := rfl
  reads _ _ _ _ _ _ steps := iterate_of_steps steps

theorem nothing : (Expr.constant .nothing).Written height "None" [.keyword "None"] where
  prints _ := by rw [Expr.print]; rfl
  starts := ⟨'N', _, rfl, rfl, by decide⟩
  spells _ _ ends lexed := .word (by decide) (by decide) ends lexed
  nests := .single fun _ => rfl
  opens := rfl
  unbound _ _ _ _ := rfl
  unstarred := rfl
  dense := rfl
  reads _ _ _ _ _ _ steps := iterate_of_steps steps

theorem literal?_of_head?_ne (apart : ∀ literal, rest.head? ≠ some (.literal literal)) :
    repeatedly literal? rest = some ([], rest) := by
  refine repeatedly_of_repeats (.stop ?_)
  unfold literal?
  split
  · exact absurd rfl (apart _)
  · rfl

/-- A quoted text is read as that text, unless another literal follows and is joined to it. -/
theorem atom_quotedToken (content : String)
    (apart : ∀ literal, rest.head? ≠ some (.literal literal)) :
    atom (Grammar.ofDepth depth) (quotedToken content :: rest) =
      some (.constant (.text content false), rest) := by
  have joined : joinLiterals (Grammar.ofDepth depth).field
      [⟨.text, false, false,
        content.toList.flatMap (escapeWithin (quoteMark content.toList))⟩] =
      some (.constant (.text content false)) := by
    simp [joinLiterals, Literal.pieces?, decodeText_escaped]
  rw [atom, bind_of_eq next_cons]
  simp only [quotedToken]
  rw [bind_of_eq (literal?_of_head?_ne apart), joined]
  rfl

/-- A text stands for itself by its quoted form. -/
theorem text (content : String) :
    (Expr.constant (.text content false)).Written height (quote content)
      [quotedToken content] where
  prints _ := by rw [Expr.print]; simp [Constant.print]
  starts := by
    obtain ⟨body, same⟩ := exists_quote_eq_cons content
    refine ⟨_, body, same, opensWord_quoteMark _, ?_⟩
    rcases quoteMark_cases content.toList with mark | mark <;> rw [mark] <;> decide
  spells := .quote content
  nests := .single fun _ => rfl
  opens := rfl
  unbound _ _ _ _ := rfl
  unstarred := rfl
  dense := rfl
  reads depth _ rest value out apart steps := by
    rw [List.singleton_append, Syntax.primary, bind_of_eq (atom_quotedToken content apart)]
    exact iterate_of_steps steps

/-! ### What stands behind a value -/

/-- What one trailer makes of a written value is written behind it. -/
theorem trailed {whole : Expr} {mark behind : String} {inner : List Token}
    (written : value.Written height shown tokens) (member : mark ∈ trailerMarks)
    (prints : ∀ place, whole.print false place = .ok (shown ++ behind))
    (apart : ∀ rest, endsWord (behind.toList ++ rest))
    (spells : Spells behind (.symbol mark :: inner)) (nests : Nests height (.symbol mark :: inner))
    (plain : whole.isStarred = false ∧ whole.needsBlankBeforePoint = false)
    (step : ∀ depth, height ≤ depth → ∀ rest, trailer (Grammar.ofDepth depth) value
      (.symbol mark :: inner ++ rest) = some (some whole, rest)) :
    whole.Written height (shown ++ behind) (tokens ++ .symbol mark :: inner) where
  prints := prints
  starts := written.starts.append behind
  spells rest lexemes ends lexed := by
    simpa using written.spells _ _ (apart rest) (spells rest lexemes ends lexed)
  nests := written.nests.append nests
  opens := opensPrimary_append written.opens _
  unbound other rest missing free := by
    have different : mark ≠ other := fun same => missing (same ▸ member)
    rw [List.append_assoc]
    exact written.unbound other _ missing (by simp [different])
  unstarred := plain.1
  dense := plain.2
  reads depth room rest result out apart steps := by
    rw [List.append_assoc]
    -- The value is read on from here with one step more, which takes the mark at least.
    refine written.reads depth room _ _ _ (by simp) (.more (step depth room rest) ?_ steps)
    rw [List.length_append, List.length_cons]
    omega

/-- An attribute is a point and its name behind a value. -/
theorem attr (written : value.Written height shown tokens) (isName : IsName label) :
    (Expr.attribute value label).Written height (shown ++ "." ++ label)
      (tokens ++ [.symbol ".", .name label true]) := by
  rw [String.append_assoc]
  refine written.trailed (by decide) (fun place => ?_) (fun rest => ?_) ?_ ?_ ⟨rfl, rfl⟩ ?_
  · rw [Expr.print, written.prints, written.dense]
    simp [String.append_assoc]
  · rw [String.toList_append]
    rfl
  · intro rest lexemes ends lexed
    simpa using (Lexes.name isName ends lexed).pointName isName
  · exact .cons (fun _ => rfl) (.single fun _ => rfl)
  · intro depth room rest
    simp only [List.cons_append, List.nil_append]
    rw [trailer, ite_of_true symbol?_self, bind_of_eq (name_cons label true)]
    rfl

end Expr.Written

/-! ### Values between commas -/

/-- Texts and tokens of one or more values with commas between them. -/
inductive Separated (Made : α → String → List Token → Prop) :
    List α → List String → List Token → Prop
  | one {first : α} {text : String} {tokens : List Token} (made : Made first text tokens) :
    Separated Made [first] [text] tokens
  | more {first : α} {others : List α} {text : String} {texts : List String}
    {tokens tokens' : List Token} (made : Made first text tokens)
    (separated : Separated Made others texts tokens') :
    Separated Made (first :: others) (text :: texts) (tokens ++ .symbol "," :: tokens')

namespace Separated

theorem exists_of_forall (nonempty : values ≠ [])
    (each : ∀ value ∈ values, ∃ text tokens, Made value text tokens) :
    ∃ texts tokens, Separated Made values texts tokens := by
  induction values with
  | nil => exact absurd rfl nonempty
  | cons first others ih =>
    obtain ⟨text, tokens, made⟩ := each first (.head _)
    cases others with
    | nil => exact ⟨[text], tokens, .one made⟩
    | cons second others =>
      obtain ⟨texts, tokens', separated⟩ := ih (by simp) fun value member =>
        each value (.tail _ member)
      exact ⟨_, _, .more made separated⟩

theorem texts_ne_nil (separated : Separated Made values texts tokens) : texts ≠ [] := by
  cases separated <;> simp

theorem spells (separated : Separated Made values texts tokens)
    (each : ∀ value text tokens, Made value text tokens → Spells text tokens) :
    Spells (commas texts) tokens := by
  induction separated with
  | one made =>
    rw [commas, String.intercalate_singleton]
    exact each _ _ _ made
  | more made separated ih =>
    intro rest lexemes ends lexed
    have behind := ih rest lexemes ends lexed
    rw [commas, String.intercalate_cons_of_ne_nil separated.texts_ne_nil]
    simpa [commas] using each _ _ _ made _ _ rfl (.lone (by decide) behind.blank)

theorem nests (separated : Separated Made values texts tokens)
    (each : ∀ value text tokens, Made value text tokens → Nests height tokens) :
    Nests height tokens := by
  induction separated with
  | one made => exact each _ _ _ made
  | more made _ ih => exact (each _ _ _ made).append (.cons (fun _ => rfl) ih)

/-- The values are read as items, by whatever reads each of them as an item. -/
theorem items (separated : Separated Made values texts tokens) {item : Reader β} {wrap : α → β}
    {closing : String} (apart : closing ≠ ",")
    (each : ∀ value text tokens, Made value text tokens → tokens ≠ [] ∧
      ∀ mark ∈ [",", closing], ∀ rest,
        item (tokens ++ .symbol mark :: rest) = some (wrap value, .symbol mark :: rest)) :
    Items item (tokens ++ .symbol closing :: rest) (values.map wrap)
      (.symbol closing :: rest) := by
  induction separated with
  | one made =>
    obtain ⟨nonempty, reads⟩ := each _ _ _ made
    have some := List.length_pos_iff.mpr nonempty
    refine .last (reads closing (by simp) rest) ?_ (by simpa using apart)
    rw [List.length_append]
    omega
  | more made _ ih =>
    obtain ⟨nonempty, reads⟩ := each _ _ _ made
    have some := List.length_pos_iff.mpr nonempty
    rw [List.append_assoc, List.cons_append]
    refine .more (reads "," (by simp) _) ?_ ih
    simp only [List.length_append, List.length_cons]
    omega

end Separated

/-! ### Expressions between commas -/

namespace Separated

theorem prints (separated : Separated (Expr.Written height) exprs texts tokens) :
    printAll false exprs = .ok texts := by
  induction separated with
  | one written => rw [printAll, written.prints]; rfl
  | more written _ ih => rw [printAll, written.prints, ih]; rfl

theorem opens (separated : Separated (Expr.Written height) exprs texts tokens) :
    opensPrimary tokens := by
  cases separated with
  | one written => exact written.opens
  | more written _ => exact opensPrimary_append written.opens _

theorem unstarred (separated : Separated (Expr.Written height) exprs texts tokens) :
    ∀ expr ∈ exprs, expr.isStarred = false := by
  induction separated with
  | one written => simpa using written.unstarred
  | more written _ ih => exact List.forall_mem_cons.mpr ⟨written.unstarred, ih⟩

end Separated

/-- Texts and tokens of any number of expressions with commas between them. -/
inductive Listed (height : Nat) : List Expr → List String → List Token → Prop
  | none : Listed height [] [] []
  | some {exprs : List Expr} {texts : List String} {tokens : List Token}
    (separated : Separated (Expr.Written height) exprs texts tokens) :
    Listed height exprs texts tokens

namespace Listed

theorem exists_of_forall (each : ∀ expr ∈ exprs, ∃ text tokens, expr.Written height text tokens) :
    ∃ texts tokens, Listed height exprs texts tokens := by
  cases exprs with
  | nil => exact ⟨[], [], .none⟩
  | cons first others =>
    obtain ⟨texts, tokens, separated⟩ := Separated.exists_of_forall (by simp) each
    exact ⟨texts, tokens, .some separated⟩

theorem prints (listed : Listed height exprs texts tokens) :
    printAll false exprs = .ok texts := by
  cases listed with
  | none => rw [printAll]
  | some separated => exact separated.prints

theorem spells (listed : Listed height exprs texts tokens) : Spells (commas texts) tokens := by
  cases listed with
  | none => exact fun _ _ _ lexed => lexed
  | some separated => exact separated.spells fun _ _ _ written => written.spells

theorem nests (listed : Listed height exprs texts tokens) : Nests height tokens := by
  cases listed with
  | none => exact .nil
  | some separated => exact separated.nests fun _ _ _ written => written.nests

end Listed

/-! ### Items of brackets -/

namespace Expr.Written

/-- Without the sign of an assignment behind it an expression is read as itself. -/
theorem namedExpression (written : expr.Written height shown tokens) (room : height ≤ depth)
    (ends : endsExpression rest) (unnamed : rest.head? ≠ some (.symbol ":=")) :
    namedExpression (Grammar.ofDepth (depth + 1)) (tokens ++ rest) = some (expr, rest) := by
  rw [Syntax.namedExpression, bind_of_eq (written.unbound ":=" rest (by decide) unnamed),
    if_neg Bool.false_ne_true]
  exact written.expression room ends

/-- What opens a primary is no star, so it is read as an element by itself. -/
theorem element (written : expr.Written height shown tokens) (room : height ≤ depth)
    (ends : endsExpression rest) (unnamed : rest.head? ≠ some (.symbol ":=")) :
    element (Grammar.ofDepth (depth + 1)) (tokens ++ rest) = some (expr, rest) := by
  rw [Syntax.element, starredOr,
    ite_of_false (symbol?_of_opensPrimary (opensPrimary_append written.opens _) (by decide))]
  exact written.namedExpression room ends unnamed

/-- What opens a primary and has no sign behind it is an argument by position. -/
theorem argument (written : expr.Written height shown tokens) (room : height ≤ depth)
    (ends : endsExpression rest) (unnamed : rest.head? ≠ some (.symbol ":=") ∧
      rest.head? ≠ some (.symbol "=")) :
    argument (Grammar.ofDepth (depth + 1)) (tokens ++ rest) = some (.positional expr, rest) := by
  have opens := opensPrimary_append written.opens rest
  rw [Syntax.argument, ite_of_false (symbol?_of_opensPrimary opens (by decide)),
    ite_of_false (symbol?_of_opensPrimary opens (by decide)),
    ite_of_false (written.unbound "=" rest (by decide) unnamed.2),
    bind_of_eq (written.namedExpression room ends unnamed.1)]
  rfl

end Expr.Written

/-- The symbols behind an expression between commas. -/
def itemMarks : List String := [",", ")", "]"]

theorem endsExpression_of_mem {mark : String} (member : mark ∈ itemMarks) :
    endsExpression (.symbol mark :: rest) := by
  simp only [itemMarks, List.mem_cons, List.not_mem_nil, or_false] at member
  rcases member with rfl | rfl | rfl <;> rfl

theorem not_named_of_mem {mark : String} (member : mark ∈ itemMarks) :
    (Token.symbol mark :: rest).head? ≠ some (.symbol ":=") ∧
      (Token.symbol mark :: rest).head? ≠ some (.symbol "=") := by
  simp only [itemMarks, List.mem_cons, List.not_mem_nil, or_false] at member
  rcases member with rfl | rfl | rfl <;> simp

namespace Separated

/-- Expressions between commas are read as the elements of brackets. -/
theorem elements (separated : Separated (Expr.Written height) exprs texts tokens)
    (rest : List Token) (room : height ≤ depth) {mark : String} (closes : mark = ")" ∨ mark = "]") :
    commaItems (element (Grammar.ofDepth (depth + 1))) (tokens ++ .symbol mark :: rest) =
      some ((exprs, false), .symbol mark :: rest) := by
  have marks : ∀ other ∈ [",", mark], other ∈ itemMarks := by
    rcases closes with rfl | rfl <;> decide
  have apart : mark ≠ "," := by rcases closes with rfl | rfl <;> decide
  have items : Items (element (Grammar.ofDepth (depth + 1))) (tokens ++ .symbol mark :: rest)
      (exprs.map id) (.symbol mark :: rest) :=
    separated.items apart fun _ _ _ written => ⟨written.ne_nil, fun other member _ =>
      written.element room (endsExpression_of_mem (marks other member))
        (not_named_of_mem (marks other member)).1⟩
  rw [commaItems_of_items items, List.map_id]

/-- And as arguments by position. -/
theorem arguments (separated : Separated (Expr.Written height) exprs texts tokens)
    (room : height ≤ depth) :
    commaItems (argument (Grammar.ofDepth (depth + 1))) (tokens ++ .symbol ")" :: rest) =
      some ((exprs.map Argument.positional, false), .symbol ")" :: rest) := by
  have marks : ∀ mark ∈ [",", ")"], mark ∈ itemMarks := by decide
  exact commaItems_of_items <| separated.items (by decide)
    fun _ _ _ written => ⟨written.ne_nil, fun mark member _ => written.argument room
      (endsExpression_of_mem (marks mark member)) (not_named_of_mem (marks mark member))⟩

end Separated

/-- A display of items that no comprehension follows collects them. -/
theorem display_of_eq {inner : Grammar} {item : Reader Expr}
    {generate : Expr → List (Clause Expr) → Expr} {collect : List Expr → Bool → Reader Expr}
    (read : commaItems item tokens = some ((exprs, false), rest)) (ends : endsExpression rest) :
    display inner item generate collect tokens = collect exprs false rest := by
  rw [display, bind_of_eq read]
  match exprs with
  | [] | _ :: _ :: _ => rfl
  | [only] => exact bind_of_eq (clauses_of_endsExpression ends)

/-! ### Calls -/

theorem argumentsInOrder_positional (exprs : List Expr) :
    argumentsInOrder (exprs.map Argument.positional) := by
  induction exprs with
  | nil => rfl
  | cons first others ih =>
    rw [List.map_cons, argumentsInOrder, ih, Bool.and_true, List.all_eq_true]
    exact fun _ _ => rfl

/-- The arguments of a call are read up to the closing parenthesis. -/
theorem arguments_of_listed (listed : Listed height exprs texts tokens) (room : height ≤ depth) :
    arguments (Grammar.ofDepth (depth + 1)) true (tokens ++ .symbol ")" :: rest) =
      some ((exprs, []), rest) := by
  cases listed with
  | none => rfl
  | some separated =>
    have opens := opensPrimary_append separated.opens (.symbol ")" :: rest)
    have inOrder := argumentsInOrder_positional exprs
    have positionals : (exprs.map Argument.positional).filterMap Argument.positional? = exprs := by
      simp [List.filterMap_map, Function.comp_def, Argument.positional?]
    have keywords : (exprs.map Argument.positional).filterMap Argument.keyword? = [] := by
      simp [List.filterMap_map, Function.comp_def, Argument.keyword?]
    rw [arguments, ite_of_false (symbol?_of_opensPrimary opens (by decide)),
      bind_of_eq (separated.arguments room)]
    dsimp only
    rw [if_neg (by decide), bind_of_eq (clauses_of_endsExpression rfl), bind_of_eq symbol_self]
    generalize exprs.map Argument.positional = items at inOrder positionals keywords
    rcases items with _ | ⟨⟨_⟩ | ⟨_⟩, _ | ⟨_, _⟩⟩ <;>
    · simp only [inOrder, positionals, keywords]
      rfl

namespace Expr.Written

/-- A call is written by its callee and its arguments, which have one place less. -/
theorem call (written : value.Written (height + 1) shown tokens) {tokens' : List Token}
    (listed : Listed height exprs texts tokens') :
    (Expr.call value exprs []).Written (height + 1) (shown ++ "(" ++ commas texts ++ ")")
      (tokens ++ .symbol "(" :: tokens' ++ [.symbol ")"]) := by
  have form : shown ++ "(" ++ commas texts ++ ")" = shown ++ ("(" ++ commas texts ++ ")") := by
    simp only [String.append_assoc]
  rw [form, List.append_assoc, List.cons_append]
  refine written.trailed (by decide) (fun place => ?_) (fun rest => ?_) ?_ ?_ ⟨rfl, rfl⟩ ?_
  · rw [Expr.print, written.prints, listed.prints, printKeywords]
    simp [bind, Except.bind, pure, Except.pure, String.append_assoc]
  · rw [String.toList_append, String.toList_append]
    rfl
  · exact fun _ _ _ => (listed.spells.before (c := ')') rfl).enclosed '(' (by decide) (by decide)
  · exact listed.nests.enclosed (fun _ => rfl) fun _ => rfl
  · intro depth room rest
    -- Inside the parentheses there is one place less, which the height has room for.
    obtain ⟨depth, rfl⟩ := Nat.exists_eq_succ_of_ne_zero (Nat.ne_zero_of_lt room)
    simp only [List.cons_append, List.append_assoc, List.nil_append]
    rw [trailer, ite_of_false (symbol?_of_head?_ne (by simp)), ite_of_true symbol?_self,
      bind_of_eq (arguments_of_listed listed (Nat.le_of_succ_le_succ room))]
    rfl

/-- The elements of a list have one place less than the list. -/
theorem list {tokens : List Token} (listed : Listed height exprs texts tokens) :
    (Expr.list exprs).Written (height + 1) ("[" ++ commas texts ++ "]")
      (.symbol "[" :: tokens ++ [.symbol "]"]) where
  prints place := by
    rw [Expr.print, listed.prints]
    rfl
  starts := StartsWord.append (StartsWord.append ⟨'[', [], rfl, rfl, by decide⟩ _) _
  spells _ _ _ := (listed.spells.before (c := ']') rfl).enclosed '[' (by decide) (by decide)
  nests := listed.nests.enclosed (fun _ => rfl) fun _ => rfl
  opens := rfl
  unbound _ _ _ _ := rfl
  unstarred := rfl
  dense := rfl
  reads depth room rest result out apart steps := by
    obtain ⟨depth, rfl⟩ := Nat.exists_eq_succ_of_ne_zero (Nat.ne_zero_of_lt room)
    have bracketed : bracketed (Grammar.ofDepth (depth + 1)) (tokens ++ .symbol "]" :: rest) =
        some (.list exprs, rest) := by
      cases listed with
      | none => rfl
      | some separated =>
        have opens := opensPrimary_append separated.opens (.symbol "]" :: rest)
        have read := separated.elements rest (Nat.le_of_succ_le_succ room) (.inr rfl)
        rw [bracketed, ite_of_false (symbol?_of_opensPrimary opens (by decide)), run_bind,
          display_of_eq read rfl]
        rfl
    have atom : atom (Grammar.ofDepth (depth + 1))
        (.symbol "[" :: (tokens ++ .symbol "]" :: rest)) = some (.list exprs, rest) := bracketed
    have form : .symbol "[" :: tokens ++ [.symbol "]"] ++ rest =
        .symbol "[" :: (tokens ++ .symbol "]" :: rest) := by simp
    rw [form, Syntax.primary, bind_of_eq atom]
    exact iterate_of_steps steps

end Expr.Written

/-! ### Indices -/

/-- A text and its tokens stand for an index. It is lexed in front of its closing bracket only, as a
slice need not be an expression that ends elsewhere. -/
structure Expr.Indexed (index : Expr) (height : Nat) (text : String) (tokens : List Token) :
    Prop where
  prints : index.print false index.indexLevel = .ok text
  spells : ∀ rest lexemes, Lexes false (']' :: rest) lexemes →
    Lexes false (text.toList ++ ']' :: rest) (tokens.map .token ++ lexemes)
  nests : Nests height tokens
  some : tokens ≠ []
  unstarred : index.isStarred = false
  reads : ∀ depth, height ≤ depth → ∀ rest,
    indexItem (Grammar.ofDepth (depth + 1)) (tokens ++ .symbol "]" :: rest) =
      .some (index, .symbol "]" :: rest)

/-- An expression may stand as an index. -/
theorem Expr.Written.indexed (written : expr.Written height shown tokens) :
    expr.Indexed height shown tokens where
  prints := written.prints _
  spells _ _ lexed := written.spells _ _ rfl lexed
  nests := written.nests
  some := written.ne_nil
  unstarred := written.unstarred
  reads depth room rest := by
    have opens := opensPrimary_append written.opens (.symbol "]" :: rest)
    have noColon : nextIsSymbol [":"] (tokens ++ .symbol "]" :: rest) =
        some (false, tokens ++ .symbol "]" :: rest) := by
      generalize tokens ++ .symbol "]" :: rest = ahead at opens ⊢
      unfold nextIsSymbol
      split
      · rename_i symbol others
        have different : symbol ≠ ":" := by
          rintro rfl
          cases opens
        simp [different]
      · rfl
    rw [indexItem, ite_of_false (symbol?_of_opensPrimary opens (by decide)),
      ite_of_false (written.unbound ":=" _ (by decide) (by simp)), bind_of_eq noColon]
    dsimp only
    rw [if_neg Bool.false_ne_true, run_bind, run_map, written.expression room rfl]
    dsimp only [Option.map_some, Option.bind_some]
    rw [ite_of_false (symbol?_of_head?_ne (by simp))]
    rfl

/-- The index of all but the first. -/
theorem indexed_afterFirst :
    (Expr.slice (some (.constant (.integer 1))) none none).Indexed height "1:"
      [.number (.integer 1), .symbol ":"] where
  prints := by
    have short (digits : Nat) (some : digits ≠ 0) : 1 < Nat.pow 10 digits :=
      Nat.one_lt_pow some (by decide)
    have printed : (Constant.integer 1).print false = .ok "1" := by
      rw [Constant.print, if_pos (short maxIntegerDigits (by decide))]
      rfl
    simp only [Expr.print, printOption, printed]
    rfl
  spells rest lexemes lexed := by
    have colon : Lexes false (':' :: ']' :: rest) (.token (.symbol ":") :: lexemes) :=
      .colon (by simp) lexed
    exact .token [] rfl (by decide) rfl colon
  nests := .cons (fun _ => rfl) (.single fun _ => rfl)
  some := by simp
  unstarred := rfl
  reads depth room rest := by
    have lower : (Grammar.ofDepth (depth + 1)).expression
        (.number (.integer 1) :: .symbol ":" :: .symbol "]" :: rest) =
        some (.constant (.integer 1), .symbol ":" :: .symbol "]" :: rest) :=
      expression_of_primary rfl (iterate_of_steps (.stop rfl)) rfl
    have upper : optionally (Grammar.ofDepth (depth + 1)).expression (.symbol "]" :: rest) =
        some (none, .symbol "]" :: rest) :=
      optionally_of_eq_none (expression_eq_none (.inr rfl))
    simp only [List.cons_append, List.nil_append]
    rw [indexItem, ite_of_false (symbol?_of_head?_ne (by simp)),
      ite_of_false (show nextIsNameBefore ":=" _ = some (false, _) from rfl),
      bind_of_eq (show nextIsSymbol [":"] _ = some (false, _) from rfl)]
    dsimp only
    rw [if_neg Bool.false_ne_true, run_bind, run_map, lower]
    dsimp only [Option.map_some, Option.bind_some]
    rw [ite_of_true symbol?_self, bind_of_eq upper, bind_of_eq (symbol?_of_head?_ne (by simp))]
    rfl

/-- One index without a star is read as itself and not as a tuple. -/
theorem indices_of_indexed {index : Expr} (indexed : index.Indexed height shown tokens)
    (room : height ≤ depth) :
    indices (Grammar.ofDepth (depth + 1)) (tokens ++ .symbol "]" :: rest) = some (index, rest) := by
  have some := List.length_pos_iff.mpr indexed.some
  have items : Items (indexItem (Grammar.ofDepth (depth + 1))) (tokens ++ .symbol "]" :: rest)
      [index] (.symbol "]" :: rest) :=
    .last (indexed.reads depth room rest) (by rw [List.length_append]; omega) (by simp)
  rw [indices, bind_of_eq (commaItems_of_items items), bind_of_eq symbol_self]
  simp [indexed.unstarred]

/-- An index is written behind its value, with one place less. -/
theorem Expr.Written.subscript (written : value.Written (height + 1) shown tokens) {index : Expr}
    {shown' : String} {tokens' : List Token} (indexed : index.Indexed height shown' tokens') :
    (Expr.subscript value index).Written (height + 1) (shown ++ "[" ++ shown' ++ "]")
      (tokens ++ .symbol "[" :: tokens' ++ [.symbol "]"]) := by
  have form : shown ++ "[" ++ shown' ++ "]" = shown ++ ("[" ++ shown' ++ "]") := by
    simp only [String.append_assoc]
  rw [form, List.append_assoc, List.cons_append]
  refine written.trailed (by decide) (fun place => ?_) (fun rest => ?_) ?_ ?_ ⟨rfl, rfl⟩ ?_
  · rw [Expr.print, written.prints, indexed.prints]
    simp [bind, Except.bind, pure, Except.pure, String.append_assoc]
  · rw [String.toList_append, String.toList_append]
    rfl
  · exact fun _ _ _ => SpellsBefore.enclosed (c := ']') indexed.spells '[' (by decide) (by decide)
  · exact indexed.nests.enclosed (fun _ => rfl) fun _ => rfl
  · intro depth room rest
    obtain ⟨depth, rfl⟩ := Nat.exists_eq_succ_of_ne_zero (Nat.ne_zero_of_lt room)
    simp only [List.cons_append, List.append_assoc, List.nil_append]
    rw [trailer, ite_of_false (symbol?_of_head?_ne (by simp)),
      ite_of_false (symbol?_of_head?_ne (by simp)), ite_of_true symbol?_self,
      bind_of_eq (indices_of_indexed indexed (Nat.le_of_succ_le_succ room))]
    rfl

end EntryPoint.Syntax
