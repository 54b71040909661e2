/-
# Printed statements read back

A statement is printed as lines at a level, which become tokens, which are read as
the statement again. A line of its own needs no more than its expressions; a block
is read one place further in than the statement around it.

## Main definitions

* `Stmt.Simple` - a line and its tokens stand for a statement without block.
* `Stmt.Written`, `BodyWritten` - lines and tokens stand for a statement, or for several.

## Main results

* `BodyWritten.cons` - statements one after the other.
* `block_of_bodyWritten` - statements read as a block.
* `readModule_of_bodyWritten` - statements read as a module.
-/

import EntryPoint.Proofs.Syntax.Expression
import EntryPoint.Syntax.Reader.Statement

namespace EntryPoint.Syntax

open Reader Text

variable {level height height' depth patternDepth blockDepth : Nat} {stmt : Stmt}
  {stmts : List Stmt} {shown : String} {lines lines' : List String}
  {tokens tokens' rest : List Token} {grammar : Grammar} {block : Reader (List Stmt)}

/-! ### Statements without block -/

/-- A line with one statement has no semicolon. -/
theorem simpleLine_of_eq
    (read : simpleStatement grammar tokens = some (stmt, .newline :: rest)) :
    simpleLine grammar tokens = some ([stmt], rest) := by
  rw [simpleLine, bind_of_eq read, bind_of_eq (repeatedly_of_repeats (.stop ?_)),
    bind_of_eq expect_self]
  · rfl
  · rw [bind_of_eq (symbol?_of_head?_ne (by simp))]
    rfl

/-- A line and its tokens stand for a statement without block. -/
structure Stmt.Simple (stmt : Stmt) (height : Nat) (text : String) (tokens : List Token) :
    Prop where
  prints : ∀ level, stmt.lines level = .ok [lineAt level text]
  line : Line text tokens
  opens : ∃ first others, tokens = first :: others ∧ first ≠ .dedent
  reads : ∀ depth, height ≤ depth → ∀ patternDepth block rest,
    statement (Grammar.ofDepth (depth + 1)) patternDepth block (tokens ++ .newline :: rest) =
      some ([stmt], rest)

/-- A reserved word in front of a line without block. -/
theorem statement_of_keyword {text : String} (plain : compoundWords.contains text = false)
    (read : simpleStatement grammar (.keyword text :: tokens) = some (stmt, .newline :: rest)) :
    statement grammar patternDepth block (.keyword text :: tokens) = some ([stmt], rest) := by
  rw [statement, bind_of_eq peek?_cons]
  dsimp only
  rw [plain, if_neg Bool.false_ne_true]
  exact simpleLine_of_eq read

/-! ### Blocks -/

/-- The blocks that are read at a depth, with the grammar and the patterns of a place. -/
def blockAt (depth blockDepth : Nat) : Reader (List Stmt) :=
  blockOfDepth (Grammar.ofDepth (depth + 1)) (depth + 1) blockDepth

/-- The characters of lines, each with its break. -/
def closedLines (lines : List String) : List Char :=
  lines.flatMap fun line => line.toList ++ ['\n']

/-- Lines at a level and their tokens stand for a statement. -/
structure Stmt.Written (stmt : Stmt) (level height : Nat) (lines : List String)
    (tokens : List Token) : Prop where
  prints : stmt.lines level = .ok lines
  tokenizes : Tokenizes level (closedLines lines) tokens
  opens : ∃ first others, tokens = first :: others ∧ first ≠ .dedent
  reads : ∀ depth blockDepth, height ≤ depth → height ≤ blockDepth → ∀ rest,
    statement (Grammar.ofDepth (depth + 1)) (depth + 1) (blockAt depth blockDepth)
      (tokens ++ rest) = some ([stmt], rest)

theorem Stmt.Written.mono (made : stmt.Written level height lines tokens)
    (le : height ≤ height') : stmt.Written level height' lines tokens :=
  { made with
    reads := fun depth blockDepth room room' =>
      made.reads depth blockDepth (le.trans room) (le.trans room') }

theorem closedLines_singleton (level : Nat) (line : String) :
    closedLines [lineAt level line] = closedLine level line := by
  simp [closedLines, closedLine]

/-- A simple statement is written as one line of its level. -/
theorem Stmt.Simple.written (simple : stmt.Simple height shown tokens) :
    stmt.Written level height [lineAt level shown] (tokens ++ [.newline]) where
  prints := simple.prints level
  tokenizes := by
    rw [closedLines_singleton]
    exact .line simple.line
  opens := by
    obtain ⟨first, others, rfl, inside⟩ := simple.opens
    exact ⟨first, others ++ [.newline], rfl, inside⟩
  reads depth blockDepth room _ rest := by
    rw [List.append_assoc]
    exact simple.reads depth room _ _ rest

/-- The next statement of a block, if there is one. -/
def nextStatement (depth blockDepth : Nat) : Reader (Option (List Stmt)) := do
  match ← peek? with
  | none | some .dedent => return none
  | some _ =>
    return some (← statement (Grammar.ofDepth (depth + 1)) (depth + 1) (blockAt depth blockDepth))

theorem statements_eq : statements (Grammar.ofDepth (depth + 1)) (depth + 1)
    (blockAt depth blockDepth) =
      do return (← repeatedly (nextStatement depth blockDepth)).flatten := rfl

/-- Whether a block or a module ends with tokens. -/
def endsBlock : List Token → Bool
  | [] | .dedent :: _ => true
  | _ => false

/-- No statement is read where a block ends. -/
theorem nextStatement_of_endsBlock (ends : endsBlock rest) :
    nextStatement depth blockDepth rest = some (none, rest) := by
  cases rest with
  | nil => rfl
  | cons first others => cases first <;> first | rfl | cases ends

/-- A written statement is read as the next one, and nothing of what follows it. -/
theorem nextStatement_of_written (made : stmt.Written level height lines tokens)
    (room : height ≤ depth) (room' : height ≤ blockDepth) (rest : List Token) :
    nextStatement depth blockDepth (tokens ++ rest) = some (some [stmt], rest) := by
  have read := made.reads depth blockDepth room room' rest
  obtain ⟨first, others, rfl, inside⟩ := made.opens
  -- The statement does not open with the end of a block, so the reader goes on.
  rw [List.cons_append] at read ⊢
  rw [nextStatement, bind_of_eq peek?_cons]
  cases first <;> first | exact absurd rfl inside | exact bind_of_eq read

/-- Lines at a level and their tokens stand for one or more statements. -/
structure BodyWritten (stmts : List Stmt) (level height : Nat) (lines : List String)
    (tokens : List Token) : Prop where
  prints : bodyLines level stmts = .ok lines
  tokenizes : Tokenizes level (closedLines lines) tokens
  reads : ∀ depth blockDepth, height ≤ depth → height ≤ blockDepth → ∀ rest, endsBlock rest →
    Repeats (nextStatement depth blockDepth) (tokens ++ rest) (stmts.map ([·])) rest

namespace BodyWritten

theorem one (made : stmt.Written level height lines tokens) :
    BodyWritten [stmt] level height lines tokens where
  prints := by
    rw [bodyLines, made.prints, bodyLines]
    simp [bind, Except.bind, pure, Except.pure]
  tokenizes := made.tokenizes
  reads depth blockDepth room room' rest ends := by
    have read := nextStatement_of_written made room room' rest
    obtain ⟨first, others, rfl, -⟩ := made.opens
    refine .more read ?_ (.stop (nextStatement_of_endsBlock ends))
    simp only [List.cons_append, List.length_cons, List.length_append]
    omega

/-- Statements one after the other. -/
theorem cons (made : stmt.Written level height lines tokens)
    (others : BodyWritten stmts level height lines' tokens') :
    BodyWritten (stmt :: stmts) level height (lines ++ lines') (tokens ++ tokens') where
  prints := by
    rw [bodyLines, made.prints, others.prints]
    rfl
  tokenizes := by
    rw [closedLines, List.flatMap_append]
    exact made.tokenizes.append others.tokenizes
  reads depth blockDepth room room' rest ends := by
    have read := nextStatement_of_written made room room' (tokens' ++ rest)
    rw [List.append_assoc]
    refine .more read ?_ (others.reads depth blockDepth room room' rest ends)
    obtain ⟨first, _, rfl, -⟩ := made.opens
    simp only [List.cons_append, List.length_cons, List.length_append]
    omega

/-- The statements of a body are read up to the end of its block. -/
theorem statements (body : BodyWritten stmts level height lines tokens) (rest : List Token)
    (room : height ≤ depth) (room' : height ≤ blockDepth) (ends : endsBlock rest) :
    statements (Grammar.ofDepth (depth + 1)) (depth + 1) (blockAt depth blockDepth)
      (tokens ++ rest) = some (stmts, rest) := by
  rw [statements_eq, bind_of_eq (repeatedly_of_repeats (body.reads _ _ room room' rest ends)),
    run_pure, ← List.flatMap_def, List.flatMap_singleton']

end BodyWritten

/-- Some lines at a level stand for a statement. -/
def Stmt.ReadsBack (level height : Nat) (stmt : Stmt) : Prop :=
  ∃ lines tokens, stmt.Written level height lines tokens

theorem Stmt.Simple.readsBack (simple : stmt.Simple height shown tokens) :
    stmt.ReadsBack level height :=
  ⟨_, _, simple.written⟩

theorem Stmt.ReadsBack.mono (readsBack : stmt.ReadsBack level height) (le : height ≤ height') :
    stmt.ReadsBack level height' := by
  obtain ⟨lines, tokens, made⟩ := readsBack
  exact ⟨lines, tokens, made.mono le⟩

/-- Statements that are read back one by one are so together. -/
theorem BodyWritten.exists_of_forall (nonempty : stmts ≠ [])
    (each : ∀ stmt ∈ stmts, stmt.ReadsBack level height) :
    ∃ lines tokens, BodyWritten stmts level height lines tokens := by
  induction stmts with
  | nil => exact absurd rfl nonempty
  | cons first others ih =>
    obtain ⟨lines, tokens, made⟩ := each first (.head _)
    cases others with
    | nil => exact ⟨lines, tokens, .one made⟩
    | cons second others =>
      obtain ⟨lines', tokens', body⟩ := ih (by simp) fun stmt member => each stmt (.tail _ member)
      exact ⟨_, _, .cons made body⟩

/-- Statements between an indent and a dedent are read as a block. -/
theorem body_of_bodyWritten (body : BodyWritten stmts level height lines tokens)
    (room : height ≤ depth) (room' : height ≤ blockDepth) :
    Syntax.body (blockAt depth (blockDepth + 1))
      (.symbol ":" :: .newline :: .indent :: (tokens ++ .dedent :: rest)) = some (stmts, rest) := by
  have read := body.statements (.dedent :: rest) room room' rfl
  rw [blockAt] at read
  rw [Syntax.body, bind_of_eq symbol_self, blockAt, blockOfDepth, blockAround,
    ite_of_true accept_self, bind_of_eq expect_self, bind_of_eq read, bind_of_eq expect_self]
  rfl

/-! ### Modules -/

/-- Characters that are kept include no return, so that no break is replaced. -/
theorem unifyBreaks_of_kept {text : List Char} (kept : ∀ c ∈ text, isKept c) :
    unifyBreaks text = text := by
  induction text with
  | nil => rfl
  | cons c text ih =>
    have other : c ≠ '\r' := by
      rintro rfl
      cases kept _ (.head _)
    have rest := ih fun d member => kept d (.tail _ member)
    rw [unifyBreaks.eq_def]
    split <;> simp_all

/-- Lines are joined without loss unless an empty one comes first. -/
theorem joinLines_eq (some : lines ≠ []) (opens : ∀ others, lines ≠ "" :: others) :
    (joinLines lines ++ "\n").toList = closedLines lines := by
  have joined : ∀ lines : List String, lines ≠ [] →
      ("\n".intercalate lines ++ "\n").toList = closedLines lines := by
    intro lines some
    induction lines with
    | nil => exact absurd rfl some
    | cons first others ih =>
      cases others with
      | nil => simp [closedLines]
      | cons second others =>
        rw [String.intercalate_cons_cons, String.append_assoc, String.toList_append, ih (by simp)]
        simp [closedLines]
  -- A first empty line would be dropped, but the lines do not open with one.
  rw [← joined lines some, joinLines.eq_def]
  split
  · exact absurd rfl (opens _)
  · rfl

theorem closeLastLine_closedLines (nonempty : lines ≠ []) :
    closeLastLine (closedLines lines) = closedLines lines := by
  have last : (closedLines lines).getLast? = some '\n' := by
    rw [← List.dropLast_append_getLast nonempty, closedLines, List.flatMap_append]
    simp
  rw [closeLastLine, if_pos last]

/-- Whether a statement is a text, which a body would open with as a docstring. -/
def Stmt.isText : Stmt → Bool
  | .expression (.constant (.text _ _)) => true
  | _ => false

theorem documentedLines_eq (plain : stmt.isText = false) :
    documentedLines level (stmt :: stmts) = bodyLines level (stmt :: stmts) := by
  rw [documentedLines.eq_def, bodyLines]
  split
  · rename_i same
    cases same
  · rename_i same
    obtain ⟨rfl, -⟩ := List.cons.inj same
    cases plain
  · rename_i same
    obtain ⟨rfl, rfl⟩ := List.cons.inj same
    rfl

/-- Statements that are printed as a module are read as that module, if its text is as long as its
places are deep. -/
theorem readModule_of_bodyWritten
    (body : BodyWritten (stmt :: stmts) 0 height (shown :: lines) tokens)
    (plain : stmt.isText = false) (opens : shown ≠ "")
    (room : height ≤ (closedLines (shown :: lines)).length) :
    ∃ text, printModule (stmt :: stmts) = .ok text ∧ readModule text = .ok (stmt :: stmts) := by
  obtain ⟨tokenized, kept⟩ := body.tokenizes.tokenize_eq
  have opens : ∀ others, shown :: lines ≠ "" :: others := fun _ same =>
    opens (List.cons.inj same).1
  have noNull : (closedLines (shown :: lines)).contains '\x00' = false := by
    refine Bool.eq_false_iff.mpr fun null => ?_
    cases kept _ (List.contains_iff_mem.mp null)
  -- The text bounds the depth, and its length the height.
  generalize length : (closedLines (shown :: lines)).length = n at room
  have read : statements (Grammar.ofDepth (n + 2)) (n + 2) (blockAt (n + 1) (n + 2))
      (tokens ++ []) = some (stmt :: stmts, []) :=
    body.statements [] (by omega) (by omega) rfl
  rw [List.append_nil, blockAt] at read
  refine ⟨joinLines (shown :: lines) ++ "\n", ?_, ?_⟩
  · rw [printModule, documentedLines_eq plain, body.prints]
    rfl
  · rw [readModule, joinLines_eq (by simp) opens, noNull, if_neg Bool.false_ne_true,
      unifyBreaks_of_kept kept, closeLastLine_closedLines (by simp)]
    dsimp only
    rw [tokenized, Option.bind_some, runAll, depthFor, length, read]

/-- A line on its own is read as the module of its statement. -/
theorem readModule_of_simple (simple : stmt.Simple 0 shown tokens) (plain : stmt.isText = false)
    (some : shown ≠ "") :
    printModule [stmt] = .ok (shown ++ "\n") ∧ readModule (shown ++ "\n") = .ok [stmt] := by
  have outermost : lineAt 0 shown = shown := by simp [lineAt, indentation]
  have made : stmt.Written 0 0 [lineAt 0 shown] (tokens ++ [.newline]) := simple.written
  rw [outermost] at made
  obtain ⟨text, printed, read⟩ :=
    readModule_of_bodyWritten (.one made) plain some (Nat.zero_le _)
  have joined : joinLines [shown] = shown := by
    rw [joinLines.eq_def]
    split
    · rename_i same
      exact absurd (List.cons.inj same).1 some
    · exact String.intercalate_singleton
  have line : printModule [stmt] = .ok (shown ++ "\n") := by
    rw [printModule, documentedLines_eq plain, (BodyWritten.one made).prints]
    exact congrArg (fun text => Except.ok (text ++ "\n")) joined
  obtain rfl := Except.ok.inj (printed.symm.trans line)
  exact ⟨line, read⟩

end EntryPoint.Syntax
