/-
# The short forms of a document

A document may be shorter than what it says: an entry by its name alone, no call where
the default one is meant, nothing on whether an entry is required, one name for a list
of names, no list for an empty one. Spelling all of this out changes nothing of what
the document says. What takes an argument is the call: the default call is made in
one case and read from its printed text in the other, and the text is read as that
call whatever name stands in it, because a quoted name is read back.

## Main definitions

* `longEntry`, `longExports`, `longDocument` - what short forms stand for.
* `IsLongEntry`, `IsLongExports`, `IsLong` - forms that cannot be spelled out further.

## Main results

* `parseCall_defaultText` - the printed text of a default call is read as that call.
* `extract_longDocument` - the long form says what the document does.
-/

import EntryPoint.Proofs.Document.Pairs
import EntryPoint.Proofs.Signature.References
import EntryPoint.Proofs.Syntax.Lines
import EntryPoint.Signature.Extract

namespace EntryPoint

open Document Syntax Text

variable {callee name file key : String} {value : Value} {entry : Entry} {pairs document : Pairs}
  {directory : Option Path} {signature : Signature}

/-! ### The text of a default call -/

/-- The text of the default call on a name. -/
def defaultText (callee name : String) : String :=
  callee ++ "(" ++ quote name ++ ")"

/-- The callees of default calls. -/
def defaultCallees : List String := ["positional", "option"]

theorem isName_of_mem_defaultCallees (member : callee ∈ defaultCallees) : IsName callee := by
  simp only [defaultCallees, List.mem_cons, List.not_mem_nil, or_false] at member
  rcases member with rfl | rfl <;> exact .ascii (by decide)

theorem defaultCall_written (member : callee ∈ defaultCallees) (name : String) :
    (defaultCall callee name).toExpr.Written 1 (defaultText callee name)
      ([.name callee true] ++ .symbol "(" :: [quotedToken name] ++ [.symbol ")"]) := by
  have text : (textExpr name).Written 0 (quote name) [quotedToken name] := .text name
  have args : Listed 0 [textExpr name] [quote name] [quotedToken name] := .some (.one text)
  have call := Expr.Written.call (.name (isName_of_mem_defaultCallees member)) args
  rwa [commas, String.intercalate_singleton] at call

/-- The default call is printed as its text. -/
theorem text_defaultCall (member : callee ∈ defaultCallees) (name : String) :
    (defaultCall callee name).toExpr.text = .ok (defaultText callee name) :=
  (defaultCall_written member name).prints _

/-- No blank stands at either end of the text. -/
theorem trimBlanks_defaultText (member : callee ∈ defaultCallees) (name : String) :
    trimBlanks (defaultText callee name).toList = (defaultText callee name).toList := by
  obtain ⟨first, others, opens, letter⟩ :
      ∃ first others, callee.toList = first :: others ∧ isBlank first = false := by
    simp only [defaultCallees, List.mem_cons, List.not_mem_nil, or_false] at member
    rcases member with rfl | rfl <;> exact ⟨_, _, rfl, rfl⟩
  have form : (defaultText callee name).toList =
      first :: (others ++ '(' :: (quote name).toList ++ [')']) := by
    simp [defaultText, opens]
  have closing : isBlank ')' = false := rfl
  simp [trimBlanks, form, letter, closing]

/-- The text of a default call is read as that call. -/
theorem parseCall_defaultText (member : callee ∈ defaultCallees) (name : String) :
    parseCall (defaultText callee name) = .ok (defaultCall callee name) := by
  have read : readExpression (defaultText callee name) =
      .ok (.call (.name callee) [textExpr name] []) :=
    readExpression_of_written (defaultCall_written member name) (by decide) (by omega)
  rw [parseCall, trimBlanks_defaultText member, String.ofList_toList, read]
  rfl

/-! ### Entries -/

/-- The pairs of an entry with a call: the default one unless they give one. -/
def withCall (callee name : String) (pairs : Pairs) : Pairs :=
  match Value.lookupD "call" pairs with
  | .null => insertPair pairs (.text "call") (.text (defaultText callee name))
  | _ => pairs

/-- The pairs of an entry with what they say on whether it is required. -/
def withRequired (pairs : Pairs) : Pairs :=
  match Value.lookup? "required" pairs with
  | none => insertPair pairs (.text "required") (.truth true)
  | some _ => pairs

/-- An entry with its name, its call and whether it is required. -/
def Entry.long (callee : String) (entry : Entry) : Entry where
  name := entry.name
  fields := withRequired
    (withCall callee entry.name (insertPair entry.fields (.text "name") (.text entry.name)))

/-- What an entry stands for; what is no entry is left alone. -/
def longEntry (callee : String) (value : Value) : Value :=
  match entryOf? value with
  | some entry => .mapping (entry.long callee).fields
  | none => value

/-- An entry that gives its name, a call, and whether it is required. -/
def IsLongEntry (value : Value) : Prop :=
  ∃ pairs name, value = .mapping pairs ∧ Value.lookup? "name" pairs = some (.text name) ∧
    Value.lookupD "call" pairs ≠ .null ∧ Value.lookup? "required" pairs ≠ none

theorem lookup?_withCall (other : key ≠ "call") :
    Value.lookup? key (withCall callee name pairs) = Value.lookup? key pairs := by
  unfold withCall
  split
  · rw [Value.lookup?_insertPair, if_neg other]
  · rfl

theorem lookup?_withRequired (other : key ≠ "required") :
    Value.lookup? key (withRequired pairs) = Value.lookup? key pairs := by
  unfold withRequired
  split
  · rw [Value.lookup?_insertPair, if_neg other]
  · rfl

theorem lookupD_withRequired (other : key ≠ "required") :
    Value.lookupD key (withRequired pairs) = Value.lookupD key pairs :=
  congrArg (·.getD .null) (lookup?_withRequired other)

theorem Entry.lookup?_name_long :
    Value.lookup? "name" (entry.long callee).fields = some (.text entry.name) := by
  rw [Entry.long, lookup?_withRequired (by decide), lookup?_withCall (by decide),
    Value.lookup?_insertPair, if_pos rfl]

theorem Entry.required_long : (entry.long callee).required = entry.required := by
  have before : Value.lookup? "required" (withCall callee entry.name
      (insertPair entry.fields (.text "name") (.text entry.name))) =
      Value.lookup? "required" entry.fields := by
    rw [lookup?_withCall (by decide), Value.lookup?_insertPair, if_neg (by decide)]
  rw [Entry.required, Entry.required, Entry.long, withRequired, before]
  cases found : Value.lookup? "required" entry.fields with
  | none =>
    dsimp only
    rw [Value.lookup?_insertPair, if_pos rfl]
    rfl
  | some value =>
    dsimp only
    rw [before, found]

/-- A call that is made is the call that is read from its text. -/
theorem Entry.call_long (member : callee ∈ defaultCallees) :
    (entry.long callee).call callee = entry.call callee := by
  have before : Value.lookupD "call"
      (insertPair entry.fields (.text "name") (.text entry.name)) =
      Value.lookupD "call" entry.fields := by
    rw [Value.lookupD_insertPair, if_neg (by decide)]
  rw [Entry.call, Entry.call, Entry.long, lookupD_withRequired (by decide), withCall, before]
  generalize given : Value.lookupD "call" entry.fields = source
  cases source with
  | null =>
    -- One side makes the default call, the other reads it from its text.
    dsimp only
    rw [Value.lookupD_insertPair, if_pos rfl]
    dsimp only
    rw [bind_eq_ok_iff]
    exact ⟨_, rfl, parseCall_defaultText member entry.name⟩
  | _ =>
    dsimp only
    rw [before, given]

theorem Entry.positional_long : (entry.long "positional").positional = entry.positional := by
  rw [Entry.positional, Entry.positional, Entry.call_long (by decide), Entry.required_long]
  rfl

theorem Entry.option_long : (entry.long "option").option = entry.option := by
  rw [Entry.option, Entry.option, Entry.call_long (by decide)]
  rfl

theorem entryOf?_longEntry :
    entryOf? (longEntry callee value) = (entryOf? value).map (Entry.long callee) := by
  unfold longEntry
  cases found : entryOf? value with
  | none => exact found
  | some entry =>
    dsimp only
    rw [entryOf?, Entry.lookup?_name_long]
    rfl

theorem isLongEntry_longEntry (found : entryOf? value = some entry) :
    IsLongEntry (longEntry callee value) := by
  have called : Value.lookupD "call" (entry.long callee).fields ≠ .null := by
    rw [Entry.long, lookupD_withRequired (by decide), withCall]
    split
    · rw [Value.lookupD_insertPair, if_pos rfl]
      exact Value.noConfusion
    · assumption
  have required : Value.lookup? "required" (entry.long callee).fields ≠ none := by
    rw [Entry.long, withRequired]
    split
    · rw [Value.lookup?_insertPair, if_pos rfl]
      exact Option.some_ne_none _
    · rename_i stated
      rw [stated]
      exact Option.some_ne_none _
  rw [longEntry, found]
  exact ⟨_, _, rfl, Entry.lookup?_name_long, called, required⟩

/-! ### Exports -/

/-- The pairs of exports with a list of names under a key. -/
def withNames (key : String) (pairs : Pairs) : Pairs :=
  match Value.lookupD key pairs with
  | .null => insertPair pairs (.text key) (.list [])
  | .text name => insertPair pairs (.text key) (.list [.text name])
  | _ => pairs

/-- What the exports of a file stand for; a value that does not count as present lists none. -/
def longExports (value : Value) : Value :=
  match value with
  | .mapping pairs => .mapping (withNames "named" (withNames "default" pairs))
  | value => if value.isTruthy then value else .mapping (withNames "named" (withNames "default" []))

/-- Exports with a list of names in either way. -/
def IsLongExports (value : Value) : Prop :=
  ∃ pairs default named, value = .mapping pairs ∧
    Value.lookup? "default" pairs = some (.list default) ∧
    Value.lookup? "named" pairs = some (.list named)

theorem lookup?_withNames {other : String} (apart : other ≠ key) :
    Value.lookup? other (withNames key pairs) = Value.lookup? other pairs := by
  unfold withNames
  split
  · rw [Value.lookup?_insertPair, if_neg apart]
  · rw [Value.lookup?_insertPair, if_neg apart]
  · rfl

theorem lookupD_withNames (key : String) {other : String} (apart : other ≠ key) :
    Value.lookupD other (withNames key pairs) = Value.lookupD other pairs :=
  congrArg (·.getD .null) (lookup?_withNames apart)

theorem exportedNames_withNames :
    exportedNames file (Value.lookupD key (withNames key pairs)) =
      exportedNames file (Value.lookupD key pairs) := by
  unfold withNames
  generalize given : Value.lookupD key pairs = value
  cases value with
  | null | text _ =>
    dsimp only
    rw [Value.lookupD_insertPair, if_pos rfl]
    rfl
  | _ =>
    dsimp only
    rw [given]

/-- Exports that are spelled out count as present. -/
theorem isTruthy_longNames (pairs : Pairs) :
    (Value.mapping (withNames "named" (withNames "default" pairs))).isTruthy := by
  -- Whatever the exports say, there is a value under the key that is spelled out last.
  have present : Value.lookup? "named" (withNames "named" (withNames "default" pairs)) ≠ none := by
    rw [withNames]
    split
    · rw [Value.lookup?_insertPair, if_pos rfl]
      exact Option.some_ne_none _
    · rw [Value.lookup?_insertPair, if_pos rfl]
      exact Option.some_ne_none _
    · rename_i listed _
      intro missing
      exact listed (congrArg (·.getD .null) missing)
  cases same : withNames "named" (withNames "default" pairs) with
  | nil =>
    rw [same] at present
    exact absurd rfl present
  | cons first rest => rfl

/-- Exports that are spelled out list the names that they stand for. -/
theorem exportsOf_longNames :
    exportsOf file (.mapping (withNames "named" (withNames "default" pairs))) = (do
      let default ← exportedNames file (Value.lookupD "default" pairs)
      let named ← exportedNames file (Value.lookupD "named" pairs)
      .ok { default, named }) := by
  rw [exportsOf, isTruthy_longNames, Bool.not_true, if_neg Bool.false_ne_true,
    lookupD_withNames _ (by decide), exportedNames_withNames, exportedNames_withNames,
    lookupD_withNames _ (by decide)]

theorem exportsOf_longExports : exportsOf file (longExports value) = exportsOf file value := by
  cases value with
  | mapping pairs =>
    rw [longExports, exportsOf_longNames, exportsOf]
    cases pairs with
    | nil => rfl
    | cons first rest => rfl
  | _ =>
    unfold longExports
    dsimp only
    split
    · rfl
    · rename_i absent
      rw [exportsOf_longNames]
      unfold exportsOf
      rw [Bool.eq_false_iff.mpr absent]
      rfl

/-- A list of names that is accepted is a list once it is spelled out. -/
theorem exists_list_withNames {names : List String}
    (listed : exportedNames file (Value.lookupD key pairs) = .ok names) :
    ∃ values, Value.lookup? key (withNames key pairs) = some (.list values) := by
  unfold withNames
  cases given : Value.lookup? key pairs with
  | none =>
    rw [Value.lookupD, given]
    exact ⟨[], by rw [Option.getD_none, Value.lookup?_insertPair, if_pos rfl]⟩
  | some value =>
    rw [Value.lookupD, given, Option.getD_some] at listed ⊢
    cases value with
    | null => exact ⟨[], by rw [Value.lookup?_insertPair, if_pos rfl]⟩
    | text name => exact ⟨[.text name], by rw [Value.lookup?_insertPair, if_pos rfl]⟩
    | list values => exact ⟨values, given⟩
    | _ => cases listed

theorem isLongExports_longNames {default named : List String}
    (first : exportedNames file (Value.lookupD "default" pairs) = .ok default)
    (second : exportedNames file (Value.lookupD "named" pairs) = .ok named) :
    IsLongExports (.mapping (withNames "named" (withNames "default" pairs))) := by
  obtain ⟨defaults, inDefault⟩ := exists_list_withNames first
  rw [← lookupD_withNames "default" (by decide)] at second
  obtain ⟨nameds, inNamed⟩ := exists_list_withNames second
  refine ⟨_, defaults, nameds, rfl, ?_, inNamed⟩
  rw [lookup?_withNames (by decide), inDefault]

/-- Exports that are accepted give lists once they are spelled out. -/
theorem isLongExports_longExports {exports : Exports}
    (accepted : exportsOf file value = .ok exports) : IsLongExports (longExports value) := by
  have empty : IsLongExports (.mapping (withNames "named" (withNames "default" []))) :=
    ⟨_, [], [], rfl, rfl, rfl⟩
  cases value with
  | mapping pairs =>
    rw [longExports]
    rw [exportsOf] at accepted
    split at accepted
    · rename_i absent
      obtain rfl : pairs = [] := by simpa [Value.isTruthy] using absent
      exact empty
    · obtain ⟨default, first, accepted⟩ := bind_eq_ok_iff.mp accepted
      obtain ⟨named, second, -⟩ := bind_eq_ok_iff.mp accepted
      exact isLongExports_longNames first second
  | _ =>
    unfold exportsOf at accepted
    unfold longExports
    dsimp only at accepted ⊢
    split at accepted
    · rename_i absent
      rw [if_neg (by simpa using absent)]
      exact empty
    · cases accepted

/-! ### Documents -/

/-- The entries in a list, each spelled out. -/
def longEntries (callee : String) : Value → Value
  | .list values => .list (values.map (longEntry callee))
  | value => value

/-- References with the exports of each file spelled out. -/
def longReferences : Value → Value
  | .mapping pairs => .mapping (pairs.map fun pair => (pair.1, longExports pair.2))
  | value => value

/-- What a field of a document stands for. -/
def longField (key value : Value) : Value :=
  match key with
  | .text "positionals" => longEntries "positional" value
  | .text "options" => longEntries "option" value
  | .text "ref" => longReferences value
  | _ => value

/-- The document that spells out what a document stands for. -/
def longDocument (document : Pairs) : Pairs :=
  document.map fun pair => (pair.1, longField pair.1 pair.2)

/-- A document without short forms. -/
structure IsLong (document : Pairs) : Prop where
  positionals : ∀ value ∈ listedUnder "positionals" document, IsLongEntry value
  options : ∀ value ∈ listedUnder "options" document, IsLongEntry value
  references : ∀ pair ∈ referenceEntries document, IsLongExports pair.2

theorem lookupD_longDocument (null : longField (.text key) .null = .null) :
    Value.lookupD key (longDocument document) =
      longField (.text key) (Value.lookupD key document) := by
  rw [Value.lookupD, longDocument, Value.lookup?_map, Value.lookupD]
  cases Value.lookup? key document with
  | none => exact null.symm
  | some value => rfl

/-- The entries under a key are those of the document, each spelled out. -/
theorem entries_longEntries {long : Pairs}
    (spelled : Value.lookupD key long = longEntries callee (Value.lookupD key document)) :
    entries long key = List.map (Entry.long callee) <$> entries document key := by
  unfold entries
  rw [spelled]
  cases Value.lookupD key document with
  | list values =>
    have each : (values.map (longEntry callee)).mapM entryOf? =
        List.map (Entry.long callee) <$> values.mapM entryOf? := by
      induction values with
      | nil => rfl
      | cons first rest ih =>
        rw [List.map_cons, List.mapM_cons, List.mapM_cons, entryOf?_longEntry, ih]
        cases entryOf? first <;> cases rest.mapM entryOf? <;> rfl
    have truthy : (Value.list (values.map (longEntry callee))).isTruthy =
        (Value.list values).isTruthy := by
      rw [Value.isTruthy, Value.isTruthy, List.isEmpty_map]
    dsimp only [longEntries]
    rw [truthy, each]
    cases values.mapM entryOf? <;> split <;> rfl
  | _ =>
    dsimp only [longEntries]
    split <;> rfl

theorem extractReferences_longReferences :
    extractReferences directory (longReferences value) = extractReferences directory value := by
  cases value with
  | mapping pairs =>
    have truthy : (Value.mapping (pairs.map fun pair => (pair.1, longExports pair.2))).isTruthy =
        (Value.mapping pairs).isTruthy := by
      rw [Value.isTruthy, Value.isTruthy, List.isEmpty_map]
    have each (references : List (Path × Exports)) (pair : Value × Value) :
        addReference directory references (pair.1, longExports pair.2) =
          addReference directory references pair := by
      obtain ⟨key, value⟩ := pair
      cases key with
      | text file => rw [addReference, addReference, exportsOf_longExports]
      | _ => rfl
    rw [longReferences, extractReferences, extractReferences, truthy]
    simp only [List.foldlM_map, each]
  | _ => rfl

/-- What is made of each entry is the same where no step tells an entry from what spells it out. -/
theorem mapM_longEntries (document : Pairs) (key : String) {α : Type}
    {step : Entry → Except Fault α}
    (spelled : longField (.text key) = longEntries callee)
    (same : ∀ entry : Entry, step (entry.long callee) = step entry) :
    (entries (longDocument document) key >>= List.mapM step) =
      entries document key >>= List.mapM step := by
  have null : longField (.text key) .null = .null := congrFun spelled .null
  have long : Value.lookupD key (longDocument document) =
      longEntries callee (Value.lookupD key document) := by
    rw [lookupD_longDocument null, spelled]
  rw [entries_longEntries long, bind_map_left]
  simp only [List.mapM_map, Function.comp_def, same]

/-- A document and what spells it out are read alike, be they accepted or not. -/
theorem extract_longDocument_eq :
    extract (longDocument document) directory = extract document directory := by
  have name : extractName (longDocument document) = extractName document := by
    rw [extractName, extractName, lookupD_longDocument rfl]
    rfl
  have positionals := mapM_longEntries document "positionals" rfl
    fun entry => entry.positional_long
  have options := mapM_longEntries document "options" rfl
    fun entry => entry.option_long
  have description :
      extractDescription (longDocument document) = extractDescription document := by
    rw [extractDescription, extractDescription, lookupD_longDocument rfl]
    rfl
  have references : Value.lookupD "ref" (longDocument document) =
      longReferences (Value.lookupD "ref" document) := lookupD_longDocument rfl
  -- Each part is read from one field, so that the parts agree one after another.
  unfold extract
  rw [name]
  refine bind_congr fun _ => ?_
  rw [← bind_assoc, positionals, bind_assoc]
  refine bind_congr fun _ => bind_congr fun _ => ?_
  rw [← bind_assoc, options, bind_assoc, description, references,
    extractReferences_longReferences]

/-! ### Documents without short forms -/

/-- The entries of a list that is accepted can all be spelled out. -/
theorem isLongEntry_of_entries {listed : List Entry}
    (accepted : entries document key = .ok listed)
    (spelled : longField (.text key) = longEntries callee) :
    ∀ value ∈ listedUnder key (longDocument document), IsLongEntry value := by
  have null : longField (.text key) .null = .null := congrFun spelled .null
  have each := entries_eq_ok accepted
  rw [listedUnder, lookupD_longDocument null, spelled]
  unfold listedUnder at each
  cases given : Value.lookupD key document with
  | list values =>
    rw [given] at each
    have found := (List.forall₂_and_left (p := fun value => ∃ entry, entryOf? value = some entry)
      _ _).mp (each.imp fun _ entry here => ⟨⟨entry, here⟩, here⟩)
    rintro _ member
    obtain ⟨value, among, rfl⟩ := List.mem_map.mp member
    obtain ⟨entry, here⟩ := found.1 value among
    exact isLongEntry_longEntry here
  | _ => exact List.forall_mem_nil _

theorem isLongExports_of_extractReferences {references : List (Path × Exports)}
    (accepted : extractReferences directory value = .ok references) :
    ∀ pair ∈ entriesIn (longReferences value), IsLongExports pair.2 := by
  unfold extractReferences at accepted
  cases value with
  | mapping pairs =>
    rintro _ member
    obtain ⟨pair, among, rfl⟩ := List.mem_map.mp member
    dsimp only at accepted
    split at accepted
    · rename_i absent
      obtain rfl : pairs = [] := by simpa [Value.isTruthy] using absent
      cases among
    · obtain ⟨file, exports, -, listed⟩ :=
        exists_foldlM_addReference_iff.mp ⟨_, accepted⟩ pair among
      exact isLongExports_longExports listed
  | _ => exact List.forall_mem_nil _

theorem isLong_longDocument (accepted : extract document directory = .ok signature) :
    IsLong (longDocument document) := by
  obtain ⟨-, positionals, options, -, references⟩ := extract_eq_ok_iff.mp accepted
  obtain ⟨_, positionals, -⟩ := bind_eq_ok_iff.mp positionals
  obtain ⟨_, options, -⟩ := bind_eq_ok_iff.mp options
  refine ⟨isLongEntry_of_entries positionals rfl, isLongEntry_of_entries options rfl, ?_⟩
  rw [referenceEntries, lookupD_longDocument rfl]
  exact isLongExports_of_extractReferences references

/-- What a document stands for can be spelled out in full, and nothing of it changes: the document
that gives every entry with its name, its call and whether it is required, and every export in a
list, is accepted with an equal signature, and so is every document that stands for the same. The
default calls that are spelled out are written as they are printed. -/
theorem extract_longDocument (accepted : extract document directory = .ok signature) :
    extract (longDocument document) directory = .ok signature ∧
    IsLong (longDocument document) ∧
    (∀ other, longDocument other = longDocument document →
      extract other directory = .ok signature) ∧
    ∀ callee ∈ defaultCallees, ∀ name,
      (defaultCall callee name).toExpr.text = .ok (defaultText callee name) := by
  refine ⟨extract_longDocument_eq.trans accepted, isLong_longDocument accepted, ?_,
    fun callee member => text_defaultCall member⟩
  intro other same
  rw [← extract_longDocument_eq, same, extract_longDocument_eq, accepted]

/-- A document in short forms, with an entry whose name needs escapes. -/
def shortGreeting : Pairs :=
  [(.text "name", .text "greet"),
    (.text "positionals", .list [.text "it's \"a\"\n\\"]),
    (.text "options", .list [.mapping [(.text "call", .null), (.text "name", .text "--loud")]]),
    (.text "ref", .mapping
      [(.text "greet.py", .mapping [(.text "named", .text "greet")]), (.text "loud.py", .null)])]

/-- The document that it stands for. -/
def longGreeting : Pairs :=
  [(.text "name", .text "greet"),
    (.text "positionals", .list [.mapping
      [(.text "name", .text "it's \"a\"\n\\"),
        (.text "call", .text "positional('it\\'s \"a\"\\n\\\\')"),
        (.text "required", .truth true)]]),
    (.text "options", .list [.mapping
      [(.text "call", .text "option('--loud')"), (.text "name", .text "--loud"),
        (.text "required", .truth true)]]),
    (.text "ref", .mapping
      [(.text "greet.py", .mapping
          [(.text "named", .list [.text "greet"]), (.text "default", .list [])]),
        (.text "loud.py", .mapping [(.text "default", .list []), (.text "named", .list [])])])]

theorem shortGreeting_stands_for_longGreeting :
    longDocument shortGreeting = longGreeting ∧
      ∃ signature, extract shortGreeting none = .ok signature ∧
        extract longGreeting none = .ok signature := by
  have long : longDocument shortGreeting = longGreeting := rfl
  obtain ⟨signature, accepted⟩ : ∃ signature, extract shortGreeting none = .ok signature := ⟨_, rfl⟩
  exact ⟨long, signature, accepted, long ▸ (extract_longDocument accepted).1⟩

end EntryPoint
