/-
# The printed callbacks

The two functions of an entry point are printed as text that is read as the same
functions. Names stand in it as they are, and every text of the user is quoted; the
only literal with a field is the complaint, which is the same in every handler.

## Main definitions

* `Link.IsPlain` - links with written arguments by position.

## Main results

* `foldl_extend_written` - chains of such links.
* `builderOf_readsBack`, `handler_readsBack` - the two functions.
-/

import EntryPoint.Command
import EntryPoint.Proofs.Chain
import EntryPoint.Proofs.Syntax.Arms

namespace EntryPoint

open Syntax Text Reader

variable {level height depth : Nat} {base : Expr} {links : List Link} {link : Link}
  {signature : Signature} {shown label parameter : String} {tokens rest : List Token}
  {stmt : Stmt} {stmts : List Stmt}

/-! ### Chains -/

/-- A link by a name that is read as it is written, with written arguments by position. -/
structure Link.IsPlain (height : Nat) (link : Link) : Prop where
  method : IsName link.method
  args : ∀ arg ∈ link.args, ∃ text tokens, arg.Written height text tokens
  positional : link.keywords = []

theorem extend_written (plain : link.IsPlain height)
    (written : base.Written (height + 1) shown tokens) :
    ∃ shown' behind,
      (base.extend link).Written (height + 1) shown' (tokens ++ .symbol "." :: behind) := by
  obtain ⟨method, args, keywords⟩ := link
  obtain ⟨isName, each, rfl⟩ := plain
  obtain ⟨texts, inside, listed⟩ := Listed.exists_of_forall each
  have called := (written.attr isName).call listed
  rw [List.append_assoc, List.append_assoc] at called
  exact ⟨_, _, called⟩

/-- A chain goes on behind its base with the point of its first link. -/
theorem foldl_extend_written (plain : ∀ link ∈ links, link.IsPlain height)
    (written : base.Written (height + 1) shown tokens) :
    ∃ shown' behind, (links.foldl Expr.extend base).Written (height + 1) shown' (tokens ++ behind) ∧
      (links ≠ [] → ∃ others, behind = .symbol "." :: others) := by
  -- Each link is extended by the next one, and only the first point is told of what stands behind.
  induction links generalizing base shown tokens with
  | nil => exact ⟨shown, [], by simpa using written, fun some => absurd rfl some⟩
  | cons first others ih =>
    obtain ⟨shown', behind, extended⟩ := extend_written (plain first (.head _)) written
    obtain ⟨shown'', further, chained, -⟩ :=
      ih (fun link member => plain link (.tail _ member)) extended
    rw [List.append_assoc] at chained
    exact ⟨shown'', _, chained, fun _ => ⟨_, rfl⟩⟩

/-- A link with texts and names as arguments is plain. -/
theorem isPlain_of_forall {method : String} {args : List Expr} (isName : IsName method)
    (each : ∀ arg ∈ args, (∃ text, arg = textExpr text) ∨ ∃ id, IsName id ∧ arg = .name id) :
    Link.IsPlain height ⟨method, args, []⟩ where
  method := isName
  args arg member := by
    rcases each arg member with ⟨text, rfl⟩ | ⟨id, isId, rfl⟩
    · exact ⟨_, _, .text text⟩
    · exact ⟨_, _, .name isId⟩
  positional := rfl

/-! ### Functions of one parameter -/

theorem functionOf_readsBack (isName : IsName label) (isParameter : IsName parameter)
    (small : level + 1 < maxIndentations) (room : height < maxBrackets)
    (body : ∀ inner ∈ stmt :: stmts, inner.ReadsBack (level + 1) height)
    (plain : stmt.isText = false) :
    (functionOf label parameter (stmt :: stmts)).ReadsBack level (height + 1) := by
  obtain ⟨lines, inner, body⟩ := BodyWritten.exists_of_forall (by simp) body
  exact ⟨_, _, functionDef_written false isName small (.one isParameter .absent .absent) .absent
    room body plain⟩

/-! ### The builder -/

/-- The declarations of arguments by their default calls are plain links. -/
theorem isPlain_of_defaultCall {callee name : String} (isName : IsName callee)
    (same : link.toExpr = (defaultCall callee name).toExpr) : link.IsPlain height := by
  obtain ⟨method, args, keywords⟩ := link
  obtain ⟨called, rfl, rfl⟩ : Expr.name method = .name callee ∧ args = [textExpr name] ∧
    keywords = [] := Expr.call.inj same
  obtain rfl := Expr.name.inj called
  exact isPlain_of_forall isName (by simp)

/-- Every argument is declared by the default call on its name. -/
structure Signature.DeclaresByDefault (signature : Signature) : Prop where
  positionals : ∀ positional ∈ signature.positionals,
    positional.call = defaultCall "positional" positional.name
  options : ∀ option ∈ signature.options, option.call = defaultCall "option" option.name

theorem isPlain_of_declarations (byDefault : signature.DeclaresByDefault)
    (declares : declarations signature = links.map Link.toExpr) :
    ∀ link ∈ links, link.IsPlain height := by
  intro link member
  have declared : link.toExpr ∈ declarations signature := by
    rw [declares]
    exact List.mem_map_of_mem member
  rcases List.mem_append.mp declared with declared | declared
  · obtain ⟨positional, listed, same⟩ := List.mem_map.mp declared
    rw [byDefault.positionals positional listed] at same
    exact isPlain_of_defaultCall (.ascii (by decide)) same.symm
  · obtain ⟨option, listed, same⟩ := List.mem_map.mp declared
    rw [byDefault.options option listed] at same
    exact isPlain_of_defaultCall (.ascii (by decide)) same.symm

/-- The function that returns a chain on its parameter. -/
theorem builder_readsBack (small : level + 1 < maxIndentations)
    (plain : ∀ link ∈ links, link.IsPlain height) (room : height + 1 < maxBrackets) :
    (functionOf builderName parserName
      [.returnValue (some (links.foldl Expr.extend (.name parserName)))]).ReadsBack level
        (height + 2) := by
  have isParameter : IsName parserName := .ascii (by decide)
  obtain ⟨shown, behind, written, -⟩ := foldl_extend_written plain (.name isParameter)
  have returned := returnValue_simple written (Nat.le_of_lt room)
  exact functionOf_readsBack (.ascii (by decide)) isParameter small room
    (List.forall_mem_singleton.mpr returned.readsBack) rfl

/-! ### The handler -/

/-- The call of the function. -/
theorem dispatch_readsBack (isName : IsName signature.name)
    (positionals : ∀ positional ∈ signature.positionals, IsName positional.name) :
    (dispatch signature).ReadsBack level 1 := by
  have each : ∀ arg ∈ signature.positionals.map (fun positional => Expr.name positional.name) ++
      (if signature.options.isEmpty then [] else [.name optionsName]),
      ∃ text tokens, arg.Written 0 text tokens := by
    have options : IsName optionsName := .ascii (by decide)
    intro arg member
    rcases List.mem_append.mp member with member | member
    · obtain ⟨positional, listed, rfl⟩ := List.mem_map.mp member
      exact ⟨_, _, .name (positionals positional listed)⟩
    · split at member
      · cases member
      · obtain rfl := List.mem_singleton.mp member
        exact ⟨_, _, .name options⟩
  obtain ⟨texts, inside, listed⟩ := Listed.exists_of_forall each
  have called := (Expr.Written.name isName).call listed
  exact (expression_simple called (by decide) (noSubject_of_call listed)).readsBack

/-- The items of the pattern that takes parsed arguments apart. -/
def destructuringItems (signature : Signature) : List MappingItem :=
  (.pair (textExpr bucketKey) (.capture none none) ::
    .pair (textExpr programKey) (.capture none none) ::
      signature.positionals.map fun positional =>
        .pair (textExpr positional.name) (.capture none (some positional.name))) ++
    if signature.options.isEmpty then [] else [.rest optionsName]

theorem ofMapping?_destructuringItems (signature : Signature) :
    Pattern.ofMapping? [] (destructuringItems signature) =
      some (destructuringPattern signature) := by
  have rest : (if signature.options.isEmpty then [] else [MappingItem.rest optionsName]) =
      ((if signature.options.isEmpty then none else some optionsName).map .rest).toList := by
    split <;> rfl
  have made := Pattern.ofMapping?_pairs []
    ((textExpr bucketKey, .capture none none) :: (textExpr programKey, .capture none none) ::
      signature.positionals.map fun positional =>
        (textExpr positional.name, .capture none (some positional.name)))
    (if signature.options.isEmpty then none else some optionsName)
  rw [← rest] at made
  simpa [destructuringItems, destructuringPattern, Function.comp_def] using made

theorem destructuringPattern_written
    (positionals : ∀ positional ∈ signature.positionals, IsName positional.name)
    (apart : ∀ positional ∈ signature.positionals, positional.name ≠ bucketKey) :
    ∃ shown tokens, (destructuringPattern signature).Written 1 shown tokens := by
  have each : ∀ item ∈ destructuringItems signature,
      ∃ text tokens, MappingItem.Written 0 item text tokens := by
    have options : IsName optionsName := .ascii (by decide)
    intro item member
    -- Of the two keys of the parser itself nothing is captured; a positional binds its own name.
    rcases List.mem_append.mp member with member | member
    · rcases List.mem_cons.mp member with rfl | member
      · exact ⟨_, _, .pair _ .wildcard⟩
      rcases List.mem_cons.mp member with rfl | member
      · exact ⟨_, _, .pair _ .wildcard⟩
      obtain ⟨positional, listed, rfl⟩ := List.mem_map.mp member
      exact ⟨_, _, .pair _ (.capture (positionals positional listed) (apart positional listed))⟩
    · split at member
      · cases member
      · obtain rfl := List.mem_singleton.mp member
        exact ⟨_, _, .rest options (by decide)⟩
  obtain ⟨texts, tokens, separated⟩ :=
    Separated.exists_of_forall (by simp [destructuringItems]) each
  exact ⟨_, _, .mapping separated (ofMapping?_destructuringItems signature)⟩

/-! ### The complaint -/

/-- The characters of the field in the complaint, behind its opening brace. -/
def complaintField : List Char := ['a', 'r', 'g', 'v', '!', 'r', '\x7d']

/-- The characters of the complaint. -/
def complaintBody : List Char :=
  mismatchMessage.toList ++ '\x7b' :: complaintField

/-- The complaint, a text with a field. -/
def complaint : Expr :=
  .joined [textExpr mismatchMessage, .formatted (.name argvName) (some 'r') none]

theorem scanParts_complaintBody {value : List Char → Option Expr} {argv : Expr}
    (read : value ['(', 'a', 'r', 'g', 'v', ')'] = some argv) :
    scanParts value false false complaintBody =
      some [.plain mismatchMessage.toList, .field (.formatted argv (some 'r') none),
        .plain []] := by
  have source : scanFieldText none [] complaintField =
      some (['a', 'r', 'g', 'v'], ['!', 'r', '\x7d']) := by decide +kernel
  have field (format : List Char → Option (Expr × List Char)) :
      scanField value format complaintField =
        some ([.field (.formatted argv (some 'r') none)], []) := by
    rw [scanField, source]
    show (value ['(', 'a', 'r', 'g', 'v', ')']).bind _ = _
    rw [read]
    rfl
  have plain : scanPlain false false false complaintBody =
      some (mismatchMessage.toList, '\x7b' :: complaintField) := by decide +kernel
  have decoded : decodeText false mismatchMessage.toList = some mismatchMessage.toList := by
    decide +kernel
  have length : complaintBody.length + 1 = 36 + 2 := by decide +kernel
  have pieces (format : List Char → Option (Expr × List Char)) :
      piecesWithin false false (scanField value format) (36 + 2) complaintBody =
        some ([.plain mismatchMessage.toList, .field (.formatted argv (some 'r') none),
          .plain []], []) := by
    rw [piecesWithin, plain, Option.bind_eq_bind, Option.bind_some]
    dsimp only
    rw [decoded, Option.bind_eq_bind, Option.bind_some]
    show (scanField value format complaintField).bind _ = _
    rw [field]
    rfl
  rw [scanParts, length, pieces]

/-- The value in the field is read between parentheses. -/
theorem field_argv : (Grammar.ofDepth (depth + 3)).field ['(', 'a', 'r', 'g', 'v', ')'] =
    some (.name argvName) := by
  have tokens : tokenize ['(', 'a', 'r', 'g', 'v', ')'] =
      some [.symbol "(", .name argvName true, .symbol ")"] := by decide +kernel
  have field : (Grammar.ofDepth (depth + 3)).field =
      fieldExpression (Grammar.ofDepth (depth + 2)) := rfl
  rw [field, fieldExpression, tokens]
  rfl

theorem complaint_written : complaint.Written 3 "f'unexpected parsed arguments: \x7bargv!r\x7d'"
    [.literal ⟨.parts, false, false, complaintBody⟩] where
  prints place := by
    have pieces : printPieces [textExpr mismatchMessage,
        .formatted (.name argvName) (some 'r') none] =
        .ok [(mismatchMessage, true), ("\x7bargv!r\x7d", false)] := by
      simp only [printPieces, printPiece, textExpr, Expr.print, printSpec]
      rfl
    have parts : printParts [(mismatchMessage, true), ("\x7bargv!r\x7d", false)] =
        "'unexpected parsed arguments: \x7bargv!r\x7d'" := by decide +kernel
    rw [complaint, Expr.print, pieces]
    simp only [bind, Except.bind, parts]
    rfl
  starts := ⟨'f', _, rfl, rfl, by decide⟩
  spells rest lexemes ends lexed := by
    exact .token _ rfl (by decide +kernel) rfl lexed
  nests := .single fun _ => rfl
  opens := rfl
  unbound _ _ _ _ := rfl
  unstarred := rfl
  dense := rfl
  reads depth room rest value out apart steps := by
    obtain ⟨depth, rfl⟩ := Nat.exists_eq_add_of_le' room
    have joined : joinLiterals (Grammar.ofDepth (depth + 3)).field
        [⟨.parts, false, false, complaintBody⟩] = some complaint := by
      have nonempty : mismatchMessage ≠ "" := by decide
      simp [joinLiterals, Literal.pieces?, scanParts_complaintBody field_argv, mergePieces,
        mergePieces.constant, nonempty, complaint, textExpr]
    have atom : atom (Grammar.ofDepth (depth + 3))
        (.literal ⟨.parts, false, false, complaintBody⟩ :: rest) = some (complaint, rest) := by
      rw [atom, bind_of_eq next_cons]
      dsimp only
      rw [bind_of_eq (Expr.Written.literal?_of_head?_ne apart), joined]
      rfl
    rw [List.singleton_append, primary, bind_of_eq atom]
    exact iterate_of_steps steps

theorem mismatch_readsBack : mismatch.ReadsBack level 4 := by
  have isName : IsName "TypeError" := .ascii (by decide)
  have called := (Expr.Written.name isName).call (.some (.one complaint_written))
  exact (raise_simple called (by decide)).readsBack

/-! ### The function -/

theorem handler_readsBack (small : level + 3 < maxIndentations) (isName : IsName signature.name)
    (positionals : ∀ positional ∈ signature.positionals, IsName positional.name)
    (apart : ∀ positional ∈ signature.positionals, positional.name ≠ bucketKey) :
    (handler signature).ReadsBack level 6 := by
  -- Three blocks are nested: the function, the match and each of its arms.
  have argv : IsName argvName := .ascii (by decide)
  obtain ⟨shown, tokens, pattern⟩ := destructuringPattern_written positionals apart
  obtain ⟨lines, inner, called⟩ :=
    (dispatch_readsBack isName positionals).mono (show 1 ≤ 4 by decide)
  obtain ⟨lines', inner', raised⟩ := mismatch_readsBack
  have arms := ArmsWritten.cons small (pattern.mono (by decide)) (by decide) (.one called)
    (.one small .wildcard (by decide) (.one raised))
  have matched : Stmt.ReadsBack (level + 1) 5 (.matchBlock (.name argvName)
      [armOf (destructuringPattern signature) [dispatch signature],
        armOf (.capture none none) [mismatch]]) :=
    ⟨_, _, matchBlock_written (by omega) (.name argv) (by decide) arms⟩
  exact functionOf_readsBack (.ascii (by decide)) argv (by omega) (by decide)
    (List.forall_mem_singleton.mpr matched) rfl

end EntryPoint
