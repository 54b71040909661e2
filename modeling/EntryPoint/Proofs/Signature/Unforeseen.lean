/-
# Documents that are not foreseen

A document that describes no signature is reported as such, with three exceptions. The
call of an entry may hold a null character, which stops the reader of calls in a way of its
own; the call or the description may hold an integer of too many digits, and so have no
text; and a file may be given by something else than a text. Such a flaw shows only where
all that is read before it is accepted: the name, the positionals, the options, the
description and the references, in this order.

All this is about documents whose texts are sequences of characters, which are the ones
that a `Document.Value` can hold. The call of an entry with the half of a pair of surrogates
in it, which only an escape in a document can give, is outside of it.

## Main definitions

* `Entry.Unreadable` - an entry whose call is no text that can be read.
* `Breaks` - what in a document is not foreseen.
* `Tame` - documents without any of it.

## Main results

* `extract_foreseen_iff` - when a document is read as a signature or reported.
-/

import EntryPoint.Proofs.Program.Faults
import EntryPoint.Proofs.Signature.Entries
import EntryPoint.Proofs.Signature.References

namespace EntryPoint

open Document Syntax Text

variable {callee key source : String} {value : Value} {entry : Entry} {pairs document : Pairs}
  {directory : Option Path} {kind : UnforeseenKind}

/-! ### Calls -/

/-- What is no blank is not trimmed. -/
theorem mem_trimBlanks_iff {c : Char} {text : List Char} (visible : isBlank c = false) :
    c ∈ trimBlanks text ↔ c ∈ text := by
  -- Dropping blanks at one end keeps a character that is no blank; they are dropped at both.
  have kept (text : List Char) : c ∈ text.dropWhile isBlank ↔ c ∈ text := by
    induction text with
    | nil => rfl
    | cons first rest ih =>
      rw [List.dropWhile_cons, List.mem_cons]
      split
      · rename_i blank
        have apart : c ≠ first := by
          rintro rfl
          rw [visible] at blank
          cases blank
        rw [ih, or_iff_right apart]
      · exact List.mem_cons
  rw [trimBlanks, List.mem_reverse, kept, List.mem_reverse, kept]

/-- The reader of expressions tells a null character apart from other faults. -/
theorem readExpression_eq_nullCharacter_iff {text : String} :
    readExpression text = .error .nullCharacter ↔ '\x00' ∈ text.toList := by
  rw [readExpression]
  split
  · rename_i null
    exact iff_of_true rfl (List.contains_iff_mem.mp null)
  · rename_i free
    refine iff_of_false ?_ (mt List.contains_iff_mem.mpr free)
    dsimp only
    split <;> rintro ⟨⟩

/-- A text that is no call is reported, unless it holds a null character. -/
theorem parseCall_eq_unforeseen_iff :
    parseCall source = failUnforeseen kind ↔ kind = .value ∧ '\x00' ∈ source.toList := by
  have null : readExpression (String.ofList (trimBlanks source.toList)) = .error .nullCharacter ↔
      '\x00' ∈ source.toList := by
    rw [readExpression_eq_nullCharacter_iff, String.toList_ofList, mem_trimBlanks_iff rfl]
  rw [← null]
  unfold parseCall
  split
  · rename_i stops
    rw [stops, failUnforeseen_inj, eq_comm, and_iff_left rfl]
  all_goals
    rename_i reads
    rw [reads]
    exact iff_of_false (by rintro ⟨⟩) (by rintro ⟨-, ⟨⟩⟩)

/-- A value has no text only if it holds an integer that is too long. -/
theorem writtenText_eq_unforeseen_iff :
    writtenText value = failUnforeseen kind ↔ kind = .value ∧ value.hasText = false := by
  unfold writtenText
  split
  · rename_i text
    rw [text]
    exact iff_of_false (by rintro ⟨⟩) (by rintro ⟨-, ⟨⟩⟩)
  · rename_i textless
    rw [Bool.eq_false_iff.mpr textless, failUnforeseen_inj, eq_comm, and_iff_left rfl]

/-- The call of an entry is no text that can be read: it holds an integer that is too long to be
written, or its text holds a null character. -/
def Entry.Unreadable (entry : Entry) : Prop :=
  (Value.lookupD "call" entry.fields).hasText = false ∨
    '\x00' ∈ (Value.lookupD "call" entry.fields).plainText.toList

/-- The call of an entry stops at what is not foreseen exactly if the entry is unreadable. -/
theorem Entry.call_eq_unforeseen_iff (callee : String) :
    entry.call callee = failUnforeseen kind ↔ kind = .value ∧ entry.Unreadable := by
  unfold Entry.call Entry.Unreadable
  generalize Value.lookupD "call" entry.fields = source
  split
  · refine iff_of_false (by rintro ⟨⟩) ?_
    rintro ⟨-, textless | null⟩
    · cases textless
    · revert null
      decide
  · constructor
    · intro stops
      rcases bind_eq_error_iff.mp stops with unwritten | ⟨text, written, unread⟩
      · obtain ⟨rfl, textless⟩ := writtenText_eq_unforeseen_iff.mp unwritten
        exact ⟨rfl, .inl textless⟩
      · obtain ⟨rfl, null⟩ := parseCall_eq_unforeseen_iff.mp unread
        obtain rfl := writtenText_eq_ok written
        exact ⟨rfl, .inr null⟩
    · rintro ⟨rfl, flaw⟩
      cases text : source.hasText with
      -- The text comes first: only what has one is read.
      | false =>
        have unwritten := writtenText_eq_unforeseen_iff.mpr ⟨rfl, text⟩
        exact bind_eq_error_iff.mpr (.inl unwritten)
      | true =>
        have null := flaw.resolve_left (ne_of_eq_of_ne text (by decide))
        have unread := parseCall_eq_unforeseen_iff.mpr ⟨rfl, null⟩
        exact bind_eq_error_iff.mpr (.inr ⟨_, if_pos text, unread⟩)

theorem Entry.positional_eq_unforeseen_iff :
    entry.positional = failUnforeseen kind ↔ kind = .value ∧ entry.Unreadable := by
  rw [← Entry.call_eq_unforeseen_iff "positional"]
  exact bind_ok_eq_error_iff

theorem Entry.option_eq_unforeseen_iff :
    entry.option = failUnforeseen kind ↔ kind = .value ∧ entry.Unreadable := by
  rw [← Entry.call_eq_unforeseen_iff "option"]
  exact bind_ok_eq_error_iff

/-! ### The other parts -/

theorem extractName_ne_unforeseen : extractName document ≠ failUnforeseen kind := by
  unfold extractName
  split
  · split <;> rintro ⟨⟩
  · rintro ⟨⟩

/-- A list of the wrong shape is a failure that is foreseen. -/
theorem entries_ne_unforeseen : entries document key ≠ failUnforeseen kind := by
  unfold entries
  dsimp only
  split
  · rintro ⟨⟩
  · split
    · split <;> rintro ⟨⟩
    · rintro ⟨⟩

/-- A description that does not count as present is not written. -/
theorem extractDescription_eq_unforeseen_iff :
    extractDescription document = failUnforeseen kind ↔ kind = .value ∧
      (Value.lookupD "description" document).isTruthy ∧
      (Value.lookupD "description" document).hasText = false := by
  unfold extractDescription
  dsimp only
  split
  · rename_i present
    rw [← and_assoc, and_comm (a := kind = .value), and_assoc, and_iff_right present,
      ← writtenText_eq_unforeseen_iff]
    exact map_eq_error_iff
  · rename_i absent
    refine iff_of_false (by rintro ⟨⟩) ?_
    rintro ⟨-, present, -⟩
    exact absent present

theorem exportedNames_ne_unforeseen {file : String} :
    exportedNames file value ≠ failUnforeseen kind := by
  unfold exportedNames
  split
  · rintro ⟨⟩
  · rintro ⟨⟩
  · split <;> rintro ⟨⟩
  · rintro ⟨⟩

theorem exportsOf_ne_unforeseen {file : String} : exportsOf file value ≠ failUnforeseen kind := by
  unfold exportsOf
  split
  · rintro ⟨⟩
  · split
    · intro stops
      rcases bind_eq_error_iff.mp stops with default | ⟨_, -, stops⟩
      · exact exportedNames_ne_unforeseen default
      exact exportedNames_ne_unforeseen (bind_ok_eq_error_iff.mp stops)
    · rintro ⟨⟩

/-- A file that is given by no text is not foreseen. -/
theorem addReference_eq_unforeseen_iff {references : List (Path × Exports)}
    {pair : Value × Value} :
    addReference directory references pair = failUnforeseen kind ↔
      kind = .type ∧ ∀ file, pair.1 ≠ .text file := by
  obtain ⟨file, value⟩ := pair
  cases file with
  | text file =>
    refine iff_of_false ?_ (fun ⟨_, untexted⟩ => untexted file rfl)
    intro stops
    exact exportsOf_ne_unforeseen (bind_ok_eq_error_iff.mp stops)
  | _ =>
    rw [addReference, failUnforeseen_inj, eq_comm, iff_self_and]
    · rintro - file ⟨⟩
    · rintro file value ⟨⟩

/-- References are reported, unless a file is given by no text behind others that are accepted. -/
theorem extractReferences_eq_unforeseen_iff :
    extractReferences directory value = failUnforeseen kind ↔ kind = .type ∧
      ∃ before pair after, value = .mapping (before ++ pair :: after) ∧
        (∀ other ∈ before, IsReference other) ∧ ∀ file, pair.1 ≠ .text file := by
  unfold extractReferences
  split
  · rename_i absent
    refine iff_of_false (by rintro ⟨⟩) ?_
    rintro ⟨-, before, pair, after, rfl, -⟩
    cases before <;> cases absent
  · split
    · rename_i pairs
      constructor
      · intro stops
        obtain ⟨before, pair, after, references, rfl, earlier, stops⟩ :=
          foldlM_eq_error_iff.mp stops
        obtain ⟨rfl, untexted⟩ := addReference_eq_unforeseen_iff.mp stops
        exact ⟨rfl, before, pair, after, rfl,
          exists_foldlM_addReference_iff.mp ⟨references, earlier⟩, untexted⟩
      · rintro ⟨rfl, before, pair, after, same, earlier, untexted⟩
        obtain rfl := Value.mapping.inj same
        obtain ⟨references, passes⟩ := exists_foldlM_addReference_iff.mpr earlier
        exact foldlM_eq_error_iff.mpr ⟨before, pair, after, references, rfl, passes,
          addReference_eq_unforeseen_iff.mpr ⟨rfl, untexted⟩⟩
    · rename_i unmapped
      refine iff_of_false (by rintro ⟨⟩) ?_
      rintro ⟨-, before, pair, after, same, -⟩
      exact unmapped _ same

/-! ### Documents -/

/-- Of the entries under a key, one cannot be read behind others of which something is made. -/
def BreaksOff {α : Type} (make : Entry → Except Fault α) (key : String) (document : Pairs) : Prop :=
  ∃ before entry after, entries document key = .ok (before ++ entry :: after) ∧
    (∀ earlier ∈ before, ∃ result, make earlier = .ok result) ∧ entry.Unreadable

/-- What in a document is not foreseen, behind parts that are accepted: a call that cannot be read,
a description without text, or a file that is not given by text. -/
inductive Breaks (document : Pairs) : UnforeseenKind → Prop
  | positional {name : String} (named : extractName document = .ok name)
    (breaks : BreaksOff Entry.positional "positionals" document) : Breaks document .value
  | option {name : String} {positionals : List Positional}
    (named : extractName document = .ok name)
    (positioned : (entries document "positionals" >>= List.mapM Entry.positional) =
      .ok positionals)
    (breaks : BreaksOff Entry.option "options" document) : Breaks document .value
  | description {name : String} {positionals : List Positional} {options : List Flag}
    (named : extractName document = .ok name)
    (positioned : (entries document "positionals" >>= List.mapM Entry.positional) =
      .ok positionals)
    (optional : (entries document "options" >>= List.mapM Entry.option) = .ok options)
    (present : (Value.lookupD "description" document).isTruthy)
    (textless : (Value.lookupD "description" document).hasText = false) : Breaks document .value
  | reference {name : String} {positionals : List Positional} {options : List Flag}
    {description : Expr} {before after : Pairs} {pair : Value × Value}
    (named : extractName document = .ok name)
    (positioned : (entries document "positionals" >>= List.mapM Entry.positional) =
      .ok positionals)
    (optional : (entries document "options" >>= List.mapM Entry.option) = .ok options)
    (described : extractDescription document = .ok description)
    (referenced : Value.lookupD "ref" document = .mapping (before ++ pair :: after))
    (earlier : ∀ other ∈ before, IsReference other)
    (untexted : ∀ file, pair.1 ≠ .text file) : Breaks document .type

/-- The entries of a list are read in order, so that the first that stops decides. -/
theorem mapM_entries_eq_unforeseen_iff (kind : UnforeseenKind) (document : Pairs) (key : String)
    {α : Type} {make : Entry → Except Fault α}
    (each : ∀ entry, make entry = failUnforeseen kind ↔ kind = .value ∧ entry.Unreadable) :
    (entries document key >>= List.mapM make) = failUnforeseen kind ↔
      kind = .value ∧ BreaksOff make key document := by
  constructor
  · intro stops
    -- The entries themselves fail in a foreseen way, so what is not foreseen comes from one of
    -- them.
    rcases bind_eq_error_iff.mp stops with stops | ⟨_, listed, stops⟩
    · exact absurd stops entries_ne_unforeseen
    obtain ⟨before, entry, after, rfl, earlier, stops⟩ := mapM_eq_error_iff.mp stops
    obtain ⟨same, unreadable⟩ := (each entry).mp stops
    exact ⟨same, before, entry, after, listed, earlier, unreadable⟩
  · rintro ⟨same, before, entry, after, listed, earlier, unreadable⟩
    refine bind_eq_error_iff.mpr (.inr ⟨_, listed, mapM_eq_error_iff.mpr ?_⟩)
    exact ⟨before, entry, after, rfl, earlier, (each entry).mpr ⟨same, unreadable⟩⟩

/-- The parts of a document are read one after another. -/
theorem extract_eq_bind : extract document directory = (do
    let name ← extractName document
    let positionals ← entries document "positionals" >>= List.mapM Entry.positional
    let options ← entries document "options" >>= List.mapM Entry.option
    let description ← extractDescription document
    let references ← extractReferences directory (Value.lookupD "ref" document)
    .ok { name, description, positionals, options, references }) := by
  simp only [extract, bind_assoc]

/-- What is not foreseen shows in a document exactly if all before it is accepted. -/
theorem extract_eq_unforeseen_iff :
    extract document directory = failUnforeseen kind ↔ Breaks document kind := by
  have positional := mapM_entries_eq_unforeseen_iff kind document "positionals" fun _ =>
    Entry.positional_eq_unforeseen_iff
  have option := mapM_entries_eq_unforeseen_iff kind document "options" fun _ =>
    Entry.option_eq_unforeseen_iff
  rw [extract_eq_bind]
  -- A part that breaks shows only where all parts before it are read.
  constructor
  · intro stops
    rcases bind_eq_error_iff.mp stops with stops | ⟨name, named, stops⟩
    · exact absurd stops extractName_ne_unforeseen
    rcases bind_eq_error_iff.mp stops with stops | ⟨positionals, positioned, stops⟩
    · obtain ⟨rfl, breaks⟩ := positional.mp stops
      exact .positional named breaks
    rcases bind_eq_error_iff.mp stops with stops | ⟨options, optional, stops⟩
    · obtain ⟨rfl, breaks⟩ := option.mp stops
      exact .option named positioned breaks
    rcases bind_eq_error_iff.mp stops with stops | ⟨description, described, stops⟩
    · obtain ⟨rfl, present, textless⟩ := extractDescription_eq_unforeseen_iff.mp stops
      exact .description named positioned optional present textless
    obtain ⟨rfl, before, pair, after, referenced, earlier, untexted⟩ :=
      extractReferences_eq_unforeseen_iff.mp (bind_ok_eq_error_iff.mp stops)
    exact .reference named positioned optional described referenced earlier untexted
  · rintro (⟨named, breaks⟩ | ⟨named, positioned, breaks⟩ |
      ⟨named, positioned, optional, present, textless⟩ |
      ⟨named, positioned, optional, described, referenced, earlier, untexted⟩)
    · rw [named, positional.mpr ⟨rfl, breaks⟩]
      rfl
    · rw [named, positioned, option.mpr ⟨rfl, breaks⟩]
      rfl
    · rw [named, positioned, optional,
        extractDescription_eq_unforeseen_iff.mpr ⟨rfl, present, textless⟩]
      rfl
    · have stops : extractReferences directory (Value.lookupD "ref" document) =
          failUnforeseen .type :=
        extractReferences_eq_unforeseen_iff.mpr ⟨rfl, _, _, _, referenced, earlier, untexted⟩
      rw [named, positioned, optional, described, stops]
      rfl

/-- A document whose calls can be read, whose description has a text, and whose files are given by
texts. -/
structure Tame (document : Pairs) : Prop where
  calls : ∀ key ∈ ["positionals", "options"], ∀ value ∈ listedUnder key document,
    ∀ entry ∈ entryOf? value, ¬entry.Unreadable
  description : (Value.lookupD "description" document).hasText
  files : ∀ pair ∈ referenceEntries document, ∃ file, pair.1 = .text file

/-- A tame document has nothing in it that is not foreseen. -/
theorem Tame.not_breaks (tame : Tame document) : ¬Breaks document kind := by
  have readable {α : Type} {make : Entry → Except Fault α} {key : String}
      (either : key ∈ ["positionals", "options"]) : ¬BreaksOff make key document := by
    rintro ⟨before, entry, after, listed, -, unreadable⟩
    obtain ⟨value, among, found⟩ := exists_of_mem_entries listed
      (List.mem_append_right before (List.mem_cons_self ..))
    exact tame.calls key either value among entry found unreadable
  rintro (⟨-, breaks⟩ | ⟨-, -, breaks⟩ | ⟨-, -, -, -, textless⟩ |
    ⟨-, -, -, -, referenced, -, untexted⟩)
  · exact readable (by decide) breaks
  · exact readable (by decide) breaks
  · rw [tame.description] at textless
    cases textless
  · obtain ⟨file, texted⟩ := tame.files _ (by
      rw [referenceEntries, referenced]
      exact List.mem_append_right _ (List.mem_cons_self ..))
    exact untexted file texted

/-- A document is read as a signature or reported unless something in it is not foreseen, and a
fault that is not foreseen has no other reason. A document without null characters in its calls,
without integers that are too long to be written in its calls and its description, and with all
files given by texts is thus always read or reported. The texts of the document are sequences of
characters, without halves of pairs of surrogates. -/
theorem extract_foreseen_iff (document : Pairs) (directory : Option Path) :
    (Foreseen .signature (extract document directory) ↔ ∀ kind, ¬Breaks document kind) ∧
    (∀ kind, extract document directory = failUnforeseen kind ↔ Breaks document kind) ∧
    (Tame document → Foreseen .signature (extract document directory)) := by
  have foreseen : Foreseen .signature (extract document directory) ↔
      ∀ kind, ¬Breaks document kind := by
    rw [(stopsAmong_extract document directory).foreseen_iff]
    exact forall_congr' fun kind => not_congr extract_eq_unforeseen_iff
  exact ⟨foreseen, fun _ => extract_eq_unforeseen_iff, fun tame =>
    foreseen.mpr fun _ => tame.not_breaks⟩

/-- A document with an entry, a description that is no text, and a file. -/
def described : Pairs :=
  [(.text "name", .text "greet"), (.text "positionals", .list [.text "who"]),
    (.text "description", .integer 1), (.text "ref", .mapping [(.text "greet.py", .null)])]

theorem extract_described_foreseen :
    Tame described ∧ Foreseen .signature (extract described none) := by
  have readable : ¬Entry.Unreadable ⟨"who", []⟩ := by
    rintro (textless | null)
    · cases textless
    · revert null
      decide
  have tame : Tame described := by
    refine ⟨?_, by decide +kernel, ?_⟩
    · intro key either value among entry found
      simp only [List.mem_cons, List.not_mem_nil, or_false] at either
      rcases either with rfl | rfl
      · obtain rfl := List.mem_singleton.mp among
        obtain rfl := Option.some.inj found
        exact readable
      · cases among
    · intro pair among
      obtain rfl := List.mem_singleton.mp among
      exact ⟨"greet.py", rfl⟩
  exact ⟨tame, (extract_foreseen_iff described none).2.2 tame⟩

/-- A document in YAML with a number for a file. -/
def numberedFile : String :=
  "name: greet\nref:\n  1:\n"

/-- A document in JSON with a null character in a call. -/
def nullInCall : String :=
  "\x7b\"name\": \"greet\", \"options\": " ++
    "[\x7b\"name\": \"loud\", \"call\": \"option('\\u0000')\"\x7d]\x7d"

/-- Both documents can be read, and stop the extraction of a signature with faults that are not
foreseen. -/
theorem extract_unforeseen :
    (do extract (← readDocument numberedFile (some .yaml)) none) = failUnforeseen .type ∧
    (do extract (← readDocument nullInCall (some .json)) none) = failUnforeseen .value :=
  ⟨fault?_eq_some_iff.mp (by decide +kernel), fault?_eq_some_iff.mp (by decide +kernel)⟩

end EntryPoint
