/-
# Printed imports read back

An import is one line of names, points and commas. It holds nothing that is quoted,
so the line stands for the import only where every name is read as it is written.

## Main definitions

* `pointTokens`, `nameTokens` - the tokens of points, and of names with a symbol between them.

## Main results

* `importModule_simple` - the import of a module.
* `importFrom_simple` - an import from a module as seen from another one.
-/

import EntryPoint.Proofs.Syntax.Statement
import EntryPoint.Proofs.Text.Split

namespace EntryPoint.Syntax

open Reader Text

variable {level : Nat} {label shown symbol : String} {names segments : List String}
  {spelled : Token} {tokens rest : List Token} {text : List Char} {lexemes : List Lexeme}

/-! ### Words in front of a line -/

/-- A reserved word or a name, with a blank behind it, in front of a text. -/
theorem SpellsBefore.behind {c : Char} (label : String) {opening : String}
    (same : opening.toList = label.toList ++ [' ']) (identifier : isIdentifier label)
    (known : Token.ofWord? label = some spelled) (spells : SpellsBefore c shown tokens) :
    SpellsBefore c (opening ++ shown) (spelled :: tokens) := by
  intro rest lexemes lexed
  rw [String.toList_append, same, List.append_assoc, List.append_assoc]
  exact .word identifier known rfl (spells _ _ lexed).blank

/-! ### Names with symbols between them -/

/-- The tokens of names, each behind a symbol. -/
def followingNames (symbol : String) (names : List String) : List Token :=
  names.flatMap fun name => [.symbol symbol, .name name true]

/-- The tokens of names with a symbol between each two of them. -/
def nameTokens (symbol : String) : List String → List Token
  | [] => []
  | first :: rest => .name first true :: followingNames symbol rest

theorem nests_nameTokens (level : ∀ depth, depthAfter depth (.symbol symbol) = depth)
    (names : List String) : Nests 0 (nameTokens symbol names) := by
  have following (names : List String) : Nests 0 (followingNames symbol names) := by
    induction names with
    | nil => exact .nil
    | cons first others ih => exact .cons level (.cons (fun _ => rfl) ih)
  cases names with
  | nil => exact .nil
  | cons first others => exact .cons (fun _ => rfl) (following others)

/-- Names are read one by one where the text between them is read as a symbol. -/
theorem spells_nameTokens {separator : String}
    (between : ∀ name rest lexemes, IsName name → Lexes false (name.toList ++ rest) lexemes →
      Lexes false (separator.toList ++ (name.toList ++ rest)) (.token (.symbol symbol) :: lexemes))
    (ends : ∀ rest, endsWord (separator.toList ++ rest)) (isName : ∀ name ∈ names, IsName name) :
    Spells (separator.intercalate names) (nameTokens symbol names) := by
  have following (names : List String) (isName : ∀ name ∈ names, IsName name) {rest : List Char}
      {lexemes : List Lexeme} (apart : endsWord rest) (lexed : Lexes false rest lexemes) :
      Lexes false ((names.flatMap fun name => separator.toList ++ name.toList) ++ rest)
          ((followingNames symbol names).map .token ++ lexemes) ∧
        endsWord ((names.flatMap fun name => separator.toList ++ name.toList) ++ rest) := by
    -- From the last name on: that a word ends in front of the rest is carried along.
    induction names with
    | nil => exact ⟨lexed, apart⟩
    | cons first others ih =>
      obtain ⟨behind, apart⟩ := ih fun name member => isName name (.tail _ member)
      have named := Lexes.name (isName first (.head _)) apart behind
      simp only [List.flatMap_cons, List.append_assoc]
      exact ⟨between _ _ _ (isName first (.head _)) named, ends _⟩
  cases names with
  | nil => exact fun _ _ _ lexed => lexed
  | cons first others =>
    intro rest lexemes apart lexed
    obtain ⟨behind, apart⟩ :=
      following others (fun name member => isName name (.tail _ member)) apart lexed
    rw [toList_intercalate_cons, List.append_assoc]
    exact .name (isName first (.head _)) apart behind

theorem spells_dotted (isName : ∀ name ∈ names, IsName name) :
    Spells (".".intercalate names) (nameTokens "." names) :=
  spells_nameTokens (fun _ _ _ name lexed => lexed.pointName name) (fun _ => rfl) isName

theorem spells_commas (isName : ∀ name ∈ names, IsName name) :
    Spells (commas names) (nameTokens "," names) :=
  spells_nameTokens (fun _ _ _ _ lexed => .lone (by decide) lexed.blank) (fun _ => rfl) isName

/-- Names behind symbols are read by a reader of one symbol and one name. -/
theorem repeats_followingNames {α : Type} {step : Reader (Option α)} (value : String → α)
    (each : ∀ name behind, (behind = rest ∨ ∃ others, behind = .symbol symbol :: others) →
      step (.symbol symbol :: .name name true :: behind) = some (some (value name), behind))
    (stops : step rest = some (none, rest)) (names : List String) :
    Repeats step (followingNames symbol names ++ rest) (names.map value) rest := by
  induction names with
  | nil => exact .stop stops
  | cons first others ih =>
    have form : followingNames symbol (first :: others) ++ rest =
        .symbol symbol :: .name first true :: (followingNames symbol others ++ rest) := rfl
    rw [form]
    refine .more (each first _ ?_) ?_ ih
    · cases others with
      | nil => exact .inl rfl
      | cons second others => exact .inr ⟨_, rfl⟩
    · simp only [List.length_cons]
      omega

theorem dottedName_nameTokens (nonempty : names ≠ []) (stops : rest.head? ≠ some (.symbol ".")) :
    dottedName (nameTokens "." names ++ rest) = some (".".intercalate names, rest) := by
  obtain ⟨first, others, rfl⟩ := List.exists_cons_of_ne_nil nonempty
  rw [nameTokens, List.cons_append, dottedName, bind_of_eq (name_cons first true),
    bind_of_eq (repeatedly_of_repeats (repeats_followingNames id ?_ ?_ others))]
  · simp
  · intro name behind _
    rw [ite_of_true symbol?_self, bind_of_eq (name_cons name true)]
    rfl
  · rw [bind_of_eq (symbol?_of_head?_ne stops)]
    rfl

theorem importAlias_name (label : String) (stops : rest.head? ≠ some (.keyword "as")) :
    importAlias name (.name label true :: rest) = some ({ name := label }, rest) := by
  rw [importAlias, bind_of_eq (name_cons label true), bind_of_eq (word?_of_head?_ne stops)]
  rfl

theorem importedNames_nameTokens (nonempty : names ≠ [])
    (stops : rest.head? ≠ some (.symbol ",") ∧ rest.head? ≠ some (.keyword "as")) :
    importedNames (nameTokens "," names ++ rest) =
      some (names.map fun name => { name }, rest) := by
  obtain ⟨first, others, rfl⟩ := List.exists_cons_of_ne_nil nonempty
  have apart (behind : List Token)
      (form : behind = rest ∨ ∃ others, behind = .symbol "," :: others) :
      behind.head? ≠ some (.keyword "as") := by
    rcases form with rfl | ⟨others, rfl⟩
    · exact stops.2
    · simp
  have firstApart : (followingNames "," others ++ rest).head? ≠ some (.keyword "as") := by
    cases others with
    | nil => exact stops.2
    | cons second others => simp [followingNames]
  rw [nameTokens, List.cons_append, importedNames, ite_of_false (symbol?_of_head?_ne (by simp)),
    ite_of_false (symbol?_of_head?_ne (by simp)), strictItems,
    bind_of_eq (importAlias_name first firstApart),
    bind_of_eq (repeatedly_of_repeats
      (repeats_followingNames (fun name => { name }) ?_ ?_ others))]
  · rfl
  · intro name behind form
    rw [ite_of_true symbol?_self, bind_of_eq (importAlias_name name (apart _ form))]
    rfl
  · rw [bind_of_eq (symbol?_of_head?_ne stops.1)]
    rfl

/-! ### Points -/

/-- The tokens of points in a row. -/
def pointTokens : Nat → List Token
  | 0 => []
  | 1 => [.symbol "."]
  | 2 => [.symbol ".", .symbol "."]
  | level + 3 => .symbol "..." :: pointTokens level

theorem nests_pointTokens (level : Nat) : Nests 0 (pointTokens level) := by
  fun_induction pointTokens level with
  | case1 => exact .nil
  | case2 => exact .single fun _ => rfl
  | case3 => exact .cons (fun _ => rfl) (.single fun _ => rfl)
  | case4 level ih => exact .cons (fun _ => rfl) ih

/-- Points in a row are read three at a time, where neither a point nor a digit stands behind
them. -/
theorem Lexes.points (level : Nat) (noPoint : text.head? ≠ some '.')
    (noDigit : ∀ c others, text = c :: others → c.isDigit = false)
    (lexed : Lexes false text lexemes) :
    Lexes false (List.replicate level '.' ++ text)
      ((pointTokens level).map .token ++ lexemes) := by
  -- Fewer than three points are left, and no further one stands behind them.
  have short : ¬['.', '.'].isPrefixOf text ∧ ¬['.', '.'].isPrefixOf ('.' :: text) := by
    cases text with
    | nil => simp [List.isPrefixOf]
    | cons c others =>
      have different : ('.' == c) = false :=
        beq_eq_false_iff_ne.mpr fun same => noPoint (by rw [same]; rfl)
      simp [List.isPrefixOf, different]
  fun_induction pointTokens level with
  | case1 => exact lexed
  | case2 => exact .point noDigit short.1 lexed
  | case3 =>
    refine .point ?_ short.2 (.point noDigit short.1 lexed)
    rintro c others same
    obtain rfl := (List.cons.inj same).1
    rfl
  | case4 level ih => exact .ellipsis ih

theorem leadingPoints_pointTokens (level : Nat)
    (stops : rest.head? ≠ some (.symbol ".") ∧ rest.head? ≠ some (.symbol "...")) :
    leadingPoints (pointTokens level ++ rest) = some (level, rest) := by
  have stop : (do
      if ← symbol? "." then return some 1
      else if ← symbol? "..." then return some 3
      else return none : Reader (Option Nat)) rest = some (none, rest) := by
    rw [ite_of_false (symbol?_of_head?_ne stops.1), ite_of_false (symbol?_of_head?_ne stops.2),
      run_pure]
  have repeats : ∃ counts : List Nat, counts.sum = level ∧ Repeats (do
      if ← symbol? "." then return some 1
      else if ← symbol? "..." then return some 3
      else return none) (pointTokens level ++ rest) counts rest := by
    fun_induction pointTokens level with
    | case1 => exact ⟨[], rfl, .stop stop⟩
    | case2 => exact ⟨[1], rfl, .more rfl (by simp) (.stop stop)⟩
    | case3 =>
      exact ⟨[1, 1], rfl, .more rfl (by simp) (.more rfl (by simp) (.stop stop))⟩
    | case4 level ih =>
      obtain ⟨counts, sum, repeats⟩ := ih
      exact ⟨3 :: counts, by rw [List.sum_cons, sum, Nat.add_comm],
        .more rfl (by simp) repeats⟩
  obtain ⟨counts, sum, repeats⟩ := repeats
  rw [leadingPoints, bind_of_eq (repeatedly_of_repeats repeats), run_pure, ← List.sum_eq_foldl,
    sum]

/-- Neither a point nor a digit stands in front of names. -/
theorem head_dotted (isName : ∀ name ∈ names, IsName name) (rest : List Char)
    (apart : rest.head? ≠ some '.' ∧ ∀ c others, rest = c :: others → c.isDigit = false) :
    ((".".intercalate names).toList ++ rest).head? ≠ some '.' ∧
      ∀ c others, (".".intercalate names).toList ++ rest = c :: others → c.isDigit = false := by
  cases names with
  | nil => exact apart
  | cons first others =>
    obtain ⟨c, tail, same, letter, noDigit⟩ := exists_eq_cons_of_isIdentifier
      (isIdentifier_of_isBindable (isName first (.head _)).bindable)
    rw [toList_intercalate_cons, same]
    constructor
    · intro point
      obtain rfl := Option.some.inj point
      cases letter
    · intro d others form
      rw [← (List.cons.inj form).1]
      exact noDigit

/-- The module that an import names, given by its segments. -/
def sourceOf (segments : List String) : Option String :=
  if segments.isEmpty then none else some (".".intercalate segments)

theorem sourceOf_getD (segments : List String) :
    (sourceOf segments).getD "" = ".".intercalate segments := by
  cases segments with
  | nil => simp [sourceOf]
  | cons first others => rfl

theorem importFromRest_tokens (positive : 0 < level) (nonempty : names ≠ []) :
    importFromRest (pointTokens level ++ (nameTokens "." segments ++
      .keyword "import" :: (nameTokens "," names ++ .newline :: rest))) =
      some (.importFrom (sourceOf segments) (names.map fun name => { name }) level,
        .newline :: rest) := by
  have imported : importedNames (nameTokens "," names ++ .newline :: rest) =
      some (names.map fun name => { name }, .newline :: rest) :=
    importedNames_nameTokens nonempty ⟨by simp, by simp⟩
  have points : leadingPoints (pointTokens level ++ (nameTokens "." segments ++
      .keyword "import" :: (nameTokens "," names ++ .newline :: rest))) =
      some (level, nameTokens "." segments ++
        .keyword "import" :: (nameTokens "," names ++ .newline :: rest)) := by
    apply leadingPoints_pointTokens
    cases segments <;> simp [nameTokens]
  rw [importFromRest, bind_of_eq points, if_neg (Nat.ne_of_gt positive)]
  cases segments with
  | nil =>
    rw [nameTokens, List.nil_append, bind_of_eq word?_self]
    dsimp only
    rw [if_pos rfl, bind_of_eq imported]
    rfl
  | cons first others =>
    have source : dottedName (nameTokens "." (first :: others) ++
        .keyword "import" :: (nameTokens "," names ++ .newline :: rest)) =
        some (".".intercalate (first :: others),
          .keyword "import" :: (nameTokens "," names ++ .newline :: rest)) :=
      dottedName_nameTokens (by simp) (by simp)
    rw [bind_of_eq (word?_of_head?_ne (by simp [nameTokens]))]
    dsimp only
    rw [if_neg Bool.false_ne_true, bind_of_eq source, bind_of_eq word_self, bind_of_eq imported]
    rfl

/-! ### Imports -/

/-- The import of a module under its own name. -/
theorem importModule_simple (isName : IsName label) :
    (Stmt.importModules [{ name := label }]).Simple 0 ("import " ++ label)
      [.keyword "import", .name label true] where
  prints level := by
    rw [Stmt.lines, List.map_singleton, commas, String.intercalate_singleton]
    rfl
  line :=
    { opens := StartsWord.append ⟨'i', _, rfl, rfl, by decide⟩ _
      spells := .behind "import" rfl (by decide) (by decide) ((Spells.name isName).before rfl)
      nests := .cons (fun _ => rfl) (.single fun _ => rfl) }
  opens := ⟨_, _, rfl, by simp⟩
  reads depth _ patternDepth block rest := by
    have dotted : dottedName (nameTokens "." [label] ++ .newline :: rest) =
        some (".".intercalate [label], .newline :: rest) :=
      dottedName_nameTokens (by simp) (by simp)
    rw [String.intercalate_singleton] at dotted
    have imported : importAlias dottedName (nameTokens "." [label] ++ .newline :: rest) =
        some ({ name := label }, .newline :: rest) := by
      rw [importAlias, bind_of_eq dotted, bind_of_eq (word?_of_head?_ne (by simp))]
      rfl
    have items : strictItems (importAlias dottedName) (nameTokens "." [label] ++ .newline :: rest) =
        some ([{ name := label }], .newline :: rest) := by
      rw [strictItems, bind_of_eq imported, bind_of_eq (repeatedly_of_repeats (.stop ?_))]
      · rfl
      · rw [bind_of_eq (symbol?_of_head?_ne (by simp))]
        rfl
    refine statement_of_keyword rfl ?_
    rw [simpleStatement, ite_of_false (word?_of_head?_ne (by simp)), ite_of_true word?_self]
    exact bind_of_eq items

/-- An import of names from a module as seen from another one. -/
theorem importFrom_simple (positive : 0 < level) (isSegment : ∀ name ∈ segments, IsName name)
    (isName : ∀ name ∈ names, IsName name) (nonempty : names ≠ []) :
    (Stmt.importFrom (sourceOf segments) (names.map fun name => { name }) level).Simple 0
      (importFromLine (sourceOf segments) (names.map fun name => { name }) level)
      (.keyword "from" :: (pointTokens level ++ (nameTokens "." segments ++
        .keyword "import" :: nameTokens "," names))) where
  prints depth := by
    rw [Stmt.lines]
    rfl
  line :=
    { opens := by
        rw [importFromLine, String.append_assoc, String.append_assoc, String.append_assoc]
        exact StartsWord.append ⟨'f', _, rfl, rfl, by decide⟩ _
      spells := by
        have shown : names.map (Alias.print ∘ fun name => { name }) = names := by
          simp [Function.comp_def, Alias.print]
        rw [importFromLine, sourceOf_getD, List.map_map, shown, String.append_assoc,
          String.append_assoc, String.append_assoc]
        -- Read from the end of the line: the imported names, `import`, the module, and the points.
        refine .behind "from" rfl (by decide) (by decide) fun rest lexemes lexed => ?_
        have listed := (spells_commas isName _ lexemes rfl lexed).blank
        have imported : Lexes false
            ("import".toList ++ ' ' :: ((commas names).toList ++ '\n' :: rest))
            (.token (.keyword "import") :: ((nameTokens "," names).map .token ++ lexemes)) :=
          .word (by decide) (by decide) rfl listed
        have source := spells_dotted isSegment _ _ rfl imported.blank
        obtain ⟨noPoint, noDigit⟩ := head_dotted isSegment
          (' ' :: ("import".toList ++ ' ' :: ((commas names).toList ++ '\n' :: rest)))
          ⟨by simp, by simp⟩
        simpa using source.points level noPoint noDigit
      nests := .cons (fun _ => rfl) <| (nests_pointTokens level).mono (Nat.zero_le _) |>.append <|
        ((nests_nameTokens (fun _ => rfl) segments).mono (Nat.zero_le _)).append <|
        .cons (fun _ => rfl) ((nests_nameTokens (fun _ => rfl) names).mono (Nat.zero_le _)) }
  opens := ⟨_, _, rfl, by simp⟩
  reads depth _ patternDepth block rest := by
    rw [List.cons_append]
    refine statement_of_keyword rfl ?_
    simp only [List.append_assoc, List.cons_append]
    rw [simpleStatement, ite_of_false (word?_of_head?_ne (by simp)),
      ite_of_false (word?_of_head?_ne (by simp)), ite_of_true word?_self]
    exact importFromRest_tokens positive nonempty

end EntryPoint.Syntax
