/-
# Diagnostics with colour

With colour a diagnostic shows the text of its message only if nothing in that can be
read as markup: no tag, no escape and no code for an emoji. All of these take weight
from the text, so that what is shown tells whether something is missing. The label of
a trace is itself a tag, so that a trace never shows its whole text.

## Main definitions

* `Diagnostic.label`, `Diagnostic.lead`, `Diagnostic.closing` - what stands around a message.
* `Console.Marks` - how a marked message is shown.
* `Console.KeepsText` - what a message must be for a diagnostic to show its text with colour.

## Main results

* `Console.exists_marks` - the tags of a diagnostic's own are in order.
* `Console.exists_visibleText_of_not_holdsTag` - a message without tags can be shown.
* `Console.exists_visibleText_eq_error_of_closing` - one that closes what is not open cannot.
* `Console.visibleText_of_isWhole` - what is shown of a message without markup.
* `Console.keepsText_of_weight` - no other message is shown in full.
* `Console.diagnostic_colored_iff` - when a diagnostic writes the same with colour and without.
-/

import EntryPoint.Proofs.Console.Terminal
import EntryPoint.Proofs.Console.Unmarked

namespace EntryPoint.Diagnostic

/-- The style of the tags that a diagnostic puts into its text; the plainest has none. -/
def style : Diagnostic → List Char
  | .info => []
  | .success => ['g', 'r', 'e', 'e', 'n']
  | .warning => ['y', 'e', 'l', 'l', 'o', 'w']
  | .error => ['b', 'o', 'l', 'd', ' ', 'r', 'e', 'd']
  | .suggestion | .trace => ['d', 'i', 'm']

/-- What introduces a message without colour. -/
def label : Diagnostic → List Char
  | .info | .success | .suggestion => []
  | .warning => ['W', 'a', 'r', 'n', 'i', 'n', 'g', ':']
  | .error => ['E', 'r', 'r', 'o', 'r', ':']
  | .trace => ['[', 'd', 'e', 'b', 'u', 'g', ']']

/-- What is shown of that with colour: the label of a trace is itself a tag. -/
def shownLabel : Diagnostic → List Char
  | .trace => []
  | other => other.label

/-- What stands between the label and the message. -/
def lead : Diagnostic → List Char
  | .info | .success => []
  | .warning | .error | .trace => [' ']
  | .suggestion => ['→', ' ']

/-- The tag behind the message. -/
def closing : Diagnostic → Option (List Char)
  | .info | .warning | .error => none
  | .success => some ('/' :: style .success)
  | .suggestion => some ('/' :: style .suggestion)
  | .trace => some ('/' :: style .trace)

end EntryPoint.Diagnostic

namespace EntryPoint.Console

open Text

variable {text name label : List Char} {rest : List Piece} {opened : List Opened}
  {diagnostic : Diagnostic} {message : String} {fuel : ℕ}

/-! ### The texts of a diagnostic -/

theorem toList_plainMessage (diagnostic : Diagnostic) (message : String) :
    (plainMessage diagnostic message).toList =
      diagnostic.label ++ (diagnostic.lead ++ message.toList) := by
  cases diagnostic
  case info => rfl
  case success => rfl
  all_goals exact String.toList_append

theorem isClosing_closing (diagnostic : Diagnostic) : IsClosing diagnostic.closing := by
  cases diagnostic <;> simp only [Diagnostic.closing, IsClosing, Option.mem_def] <;> decide

/-! ### The tags of a diagnostic -/

/-- A diagnostic's own styles can be read. -/
theorem exists_styleOf_style (styled : diagnostic ≠ .info) :
    ∃ style, styleOf diagnostic.style = .ok style := by
  have dim : ∃ style, styleOf ['d', 'i', 'm'] = .ok style := by
    have words : blankWords ['d', 'i', 'm'] = ["dim"] := by decide
    have lower : lower "dim" = "dim" := by decide +kernel
    have feature : feature? "dim" = some "dim" := by decide
    have read : Style.ofWords (blankWords ['d', 'i', 'm']) =
        .ok { features := [("dim", true)] } := by
      rw [words]
      simp only [Style.ofWords, Style.addWords, lower, feature]
      rfl
    rw [styleOf, canonicalStyle?, read]
    exact ⟨_, rfl⟩
  cases diagnostic with
  | info => exact absurd rfl styled
  | success =>
    have lower : lower "green" = "green" := by decide +kernel
    exact exists_styleOf_of_word (by decide) lower (by decide) (by decide) (by decide)
  | warning =>
    have lower : lower "yellow" = "yellow" := by decide +kernel
    exact exists_styleOf_of_word (by decide) lower (by decide) (by decide) (by decide)
  | error =>
    have words : blankWords (Diagnostic.style .error) = ["bold", "red"] := by decide
    have bold : lower "bold" = "bold" := by decide +kernel
    have red : lower "red" = "red" := by decide +kernel
    have feature : feature? "bold" = some "bold" := by decide
    have none : feature? "red" = none := by decide
    have read : Style.ofWords (blankWords (Diagnostic.style .error)) = do
        return { features := [("bold", true)], color := some (← Style.colorOf "red") } := by
      rw [words]
      simp only [Style.ofWords, Style.addWords, bold, red, feature, none]
      rfl
    exact exists_styleOf_of_colored (by decide) read
  | suggestion => exact dim
  | trace => exact dim

theorem isStyleName_style (styled : diagnostic ≠ .info) : IsStyleName diagnostic.style := by
  have named := exists_styleOf_style styled
  cases diagnostic with
  | info => exact absurd rfl styled
  | _ => exact ⟨by decide, by decide, by decide, by decide, by decide, named⟩

/-- The label of a trace names a style as well. -/
theorem isStyleName_debug : IsStyleName ['d', 'e', 'b', 'u', 'g'] := by
  have lower : lower "debug" = "debug" := by decide +kernel
  exact ⟨by decide, by decide, by decide, by decide, by decide,
    exists_styleOf_of_word (by decide) lower (by decide) (by decide) (by decide)⟩

theorem IsStyleName.piecesFrom_label (style : IsStyleName name)
    (plain : ∀ c ∈ label, c ≠ '[' ∧ c ≠ '\\') (text : List Char) :
    piecesFrom (fuel + 1 + label.length + 1) []
        ('[' :: name ++ ']' :: (label ++ ('[' :: ('/' :: name) ++ ']' :: text))) =
      openingPieces name ++
        .shown label :: .shown [] :: .tag ('/' :: name) [] :: piecesFrom fuel [] text := by
  have bare : '=' ∉ '/' :: name := by simpa using style.bare
  have unescaped : unescape label = label := by
    rcases unescape_cases label with ⟨-, same⟩ | ⟨escaped, -⟩
    · exact same
    · exact absurd rfl (plain '[' (escaped.subset (by decide))).1
  rw [style.piecesFrom_opening, piecesFrom_append plain, piecesFrom_tag style.closing,
    ofContent_of_notMem bare, List.append_nil, List.reverse_reverse, unescaped]

/-- A text between the tags of a style is shown as it is where the style is open. -/
theorem IsStyleName.exists_shownText_pieces (style : IsStyleName name) (text : List Char) :
    ∃ canonical fuel, styleOf name = .ok canonical ∧ text.length < fuel ∧
      shownText [] (pieces ('[' :: name ++ ']' :: text)) =
        shownText [⟨canonical, []⟩] (piecesFrom fuel [] text) := by
  obtain ⟨canonical, named, shown⟩ := style.exists_shownText []
  refine ⟨canonical, ('[' :: name ++ ']' :: text).length, named, ?_, ?_⟩
  · simp only [List.length_append, List.length_cons]
    omega
  · rw [pieces, style.piecesFrom_opening, shown]

/-- A label between the tags of a style is shown in front of the text behind it. -/
theorem IsStyleName.exists_shownText_label (style : IsStyleName name)
    (plain : ∀ c ∈ label, c ≠ '[' ∧ c ≠ '\\') (text : List Char) :
    ∃ fuel, text.length < fuel ∧
      shownText [] (pieces
          ('[' :: name ++ ']' :: (label ++ ('[' :: ('/' :: name) ++ ']' :: text)))) =
        (replaceCodes label ++ ·) <$> shownText [] (piecesFrom fuel [] text) := by
  refine ⟨text.length + name.length + name.length + 4, by omega, ?_⟩
  have fuel : ('[' :: name ++ ']' :: (label ++ ('[' :: ('/' :: name) ++ ']' :: text))).length + 1 =
      text.length + name.length + name.length + 4 + 1 + label.length + 1 := by
    simp only [List.length_append, List.length_cons]
    omega
  rw [pieces, fuel, style.piecesFrom_label plain, style.shownText_label]

/-- The tag behind a text closes the style whose name it has, if that is open. -/
theorem IsStyleName.shownText_closingPieces (style : IsStyleName name) {canonical : String}
    (named : styleOf name = .ok canonical) (member : ⟨canonical, []⟩ ∈ opened)
    (bare : ∀ other ∈ opened, other.parameters = []) :
    shownText opened (closingPieces (some ('/' :: name))) = .ok [] := by
  obtain ⟨left, closed, -⟩ := style.exists_close named member bare
  have content : Piece.ofContent ('/' :: name) = .tag ('/' :: name) [] :=
    ofContent_of_notMem (by simpa using style.bare)
  rw [closingPieces, shownText_shown_nil, content, shownText, closed]
  exact shownText_shown_nil left []

/-- How a marked message is shown: the label, then what the rest of the text shows where something
is open. Only the tag behind the text, if there is one, closes that. -/
structure Marks (diagnostic : Diagnostic) (message : String) (opened : List Opened) (fuel : ℕ) :
    Prop where
  enough : (diagnostic.lead ++ message.toList ++ closingText diagnostic.closing).length < fuel
  shown : shownText [] (pieces (markedMessage diagnostic message).toList) =
    (diagnostic.shownLabel ++ ·) <$> shownText opened
      (piecesFrom fuel [] (diagnostic.lead ++ message.toList ++ closingText diagnostic.closing))
  closed : shownText opened (closingPieces diagnostic.closing) = .ok []
  unopened : diagnostic.closing = none → opened = []

/-- A diagnostic with its whole text between two tags. -/
theorem exists_marks_of_wrapped (styled : diagnostic ≠ .info) (unlabelled : diagnostic.label = [])
    (letters : (markedMessage diagnostic message).toList = '[' :: diagnostic.style ++ ']' ::
      (diagnostic.lead ++ message.toList ++ closingText (some ('/' :: diagnostic.style))))
    (closing : diagnostic.closing = some ('/' :: diagnostic.style)) :
    ∃ opened fuel, Marks diagnostic message opened fuel := by
  have style := isStyleName_style styled
  have shownLabel : diagnostic.shownLabel = [] := by
    cases diagnostic with
    | trace => rfl
    | _ => exact unlabelled
  obtain ⟨canonical, fuel, named, enough, shown⟩ := style.exists_shownText_pieces
    (diagnostic.lead ++ message.toList ++ closingText (some ('/' :: diagnostic.style)))
  refine ⟨[⟨canonical, []⟩], fuel, closing.symm ▸ enough, ?_, ?_, fun none => ?_⟩
  · rw [letters, shown, shownLabel, closing]
    exact (id_map _).symm
  · rw [closing]
    exact style.shownText_closingPieces named (List.mem_singleton.mpr rfl) (by simp)
  · rw [closing] at none
    cases none

/-- A diagnostic with its label between two tags. -/
theorem exists_marks_of_labelled (styled : diagnostic ≠ .info)
    (plain : ∀ c ∈ diagnostic.label, c ≠ '[' ∧ c ≠ '\\')
    (kept : replaceCodes diagnostic.label = diagnostic.shownLabel)
    (letters : (markedMessage diagnostic message).toList = '[' :: diagnostic.style ++ ']' ::
      (diagnostic.label ++ ('[' :: ('/' :: diagnostic.style) ++ ']' ::
        (diagnostic.lead ++ message.toList))))
    (closing : diagnostic.closing = none) :
    ∃ opened fuel, Marks diagnostic message opened fuel := by
  have behind : diagnostic.lead ++ message.toList ++ closingText diagnostic.closing =
      diagnostic.lead ++ message.toList := by
    rw [closing]
    exact List.append_nil _
  obtain ⟨fuel, enough, shown⟩ := (isStyleName_style styled).exists_shownText_label plain
    (diagnostic.lead ++ message.toList)
  refine ⟨[], fuel, behind.symm ▸ enough, ?_, ?_, fun _ => rfl⟩
  · rw [letters, shown, kept, behind]
  · rw [closing]
    rfl

/-- A trace, whose label is a tag that nothing closes. -/
theorem exists_marks_trace (message : String) :
    ∃ opened fuel, Marks .trace message opened fuel := by
  have style : IsStyleName (Diagnostic.style .trace) := isStyleName_style (by decide)
  have letters : (markedMessage .trace message).toList = '[' :: Diagnostic.style .trace ++ ']' ::
      ('[' :: ['d', 'e', 'b', 'u', 'g'] ++ ']' :: (Diagnostic.lead .trace ++ message.toList ++
        closingText (Diagnostic.closing .trace))) := by
    change ("[dim][debug] " ++ message ++ "[/dim]").toList = _
    rw [String.toList_append, String.toList_append]
    simp [Diagnostic.style, Diagnostic.lead, Diagnostic.closing, closingText]
  obtain ⟨canonical, fuel, named, enough, outer⟩ := style.exists_shownText_pieces
    ('[' :: ['d', 'e', 'b', 'u', 'g'] ++ ']' :: (Diagnostic.lead .trace ++ message.toList ++
      closingText (Diagnostic.closing .trace)))
  obtain ⟨label, -, inner⟩ := isStyleName_debug.exists_shownText [⟨canonical, []⟩]
  obtain ⟨fuel, rfl⟩ := Nat.exists_eq_succ_of_ne_zero (Nat.ne_zero_of_lt enough)
  -- The label stays open inside the style, which the tag behind the text closes all the same.
  refine ⟨[⟨label, []⟩, ⟨canonical, []⟩], fuel, ?_, ?_, ?_, fun none => ?_⟩
  · simp only [List.length_append, List.length_cons] at enough ⊢
    omega
  · rw [letters, outer, isStyleName_debug.piecesFrom_opening, inner]
    exact (id_map _).symm
  · exact style.shownText_closingPieces named (by simp) (by simp)
  · cases none

/-- The tags of a diagnostic's own are in order. -/
theorem exists_marks (diagnostic : Diagnostic) (message : String) :
    ∃ opened fuel, Marks diagnostic message opened fuel := by
  cases diagnostic with
  | info =>
    refine ⟨[], message.toList.length + 1, ?_, ?_, rfl, fun _ => rfl⟩
    · simp [Diagnostic.lead, Diagnostic.closing, closingText]
    · simp only [Diagnostic.lead, Diagnostic.closing, closingText, List.append_nil, List.nil_append]
      exact (id_map _).symm
  | success =>
    refine exists_marks_of_wrapped (by decide) rfl ?_ rfl
    change ("[green]" ++ message ++ "[/green]").toList = _
    rw [String.toList_append, String.toList_append]
    simp [Diagnostic.style, Diagnostic.lead, closingText]
  | warning =>
    have plain : ∀ c ∈ Diagnostic.label .warning, c ≠ '[' ∧ c ≠ '\\' := by simp [Diagnostic.label]
    refine exists_marks_of_labelled (by decide) plain (by decide +kernel) ?_ rfl
    change ("[yellow]Warning:[/yellow] " ++ message).toList = _
    rw [String.toList_append]
    rfl
  | error =>
    have plain : ∀ c ∈ Diagnostic.label .error, c ≠ '[' ∧ c ≠ '\\' := by simp [Diagnostic.label]
    refine exists_marks_of_labelled (by decide) plain (by decide +kernel) ?_ rfl
    change ("[bold red]Error:[/bold red] " ++ message).toList = _
    rw [String.toList_append]
    rfl
  | suggestion =>
    refine exists_marks_of_wrapped (by decide) rfl ?_ rfl
    change ("[dim]→ " ++ message ++ "[/dim]").toList = _
    rw [String.toList_append, String.toList_append]
    simp [Diagnostic.style, Diagnostic.lead, closingText]
  | trace => exact exists_marks_trace message

/-! ### Messages that can be shown -/

theorem Marks.visibleText_eq (marks : Marks diagnostic message opened fuel) :
    visibleText (markedMessage diagnostic message) =
      (fun text => terminalForm (String.ofList (diagnostic.shownLabel ++ text))) <$>
        shownText opened (piecesFrom fuel []
          (diagnostic.lead ++ message.toList ++ closingText diagnostic.closing)) := by
  rw [Console.visibleText_eq, marks.shown]
  cases shownText opened _ <;> rfl

theorem Marks.reads (marks : Marks diagnostic message opened fuel) :
    Reads diagnostic.closing [] (diagnostic.lead ++ message.toList) (piecesFrom fuel []
      (diagnostic.lead ++ message.toList ++ closingText diagnostic.closing)) :=
  reads_piecesFrom (isClosing_closing diagnostic) marks.enough

theorem not_mem_lead (diagnostic : Diagnostic) :
    '[' ∉ diagnostic.lead ∧ '\\' ∉ diagnostic.lead ∧ ':' ∉ diagnostic.lead := by
  cases diagnostic <;> decide

/-- A message without tags can be shown. -/
theorem exists_visibleText_of_not_holdsTag (diagnostic : Diagnostic)
    (tagless : ¬HoldsTag message.toList) :
    ∃ text, visibleText (markedMessage diagnostic message) = .ok text := by
  obtain ⟨opened, fuel, marks⟩ := exists_marks diagnostic message
  have leadless : ¬HoldsTag (diagnostic.lead ++ message.toList) :=
    (holdsTag_append_iff (not_mem_lead diagnostic).1).not.mpr tagless
  obtain ⟨text, shown⟩ := marks.reads.exists_shownText leadless marks.closed
  rw [marks.visibleText_eq, shown]
  exact ⟨_, rfl⟩

/-- Where no tag stands behind the text, a message with a closing tag behind nothing but plain text
cannot be shown. -/
theorem exists_visibleText_eq_error_of_closing (diagnostic : Diagnostic)
    {before after : List Char} (unclosed : diagnostic.closing = none)
    (split : message.toList = before ++ ('[' :: ('/' :: name) ++ ']' :: after))
    (plain : ∀ c ∈ before, c ≠ '[' ∧ c ≠ '\\') (tag : IsTagContent ('/' :: name)) :
    ∃ mistake, visibleText (markedMessage diagnostic message) = .error mistake := by
  obtain ⟨opened, fuel, marks⟩ := exists_marks diagnostic message
  obtain rfl := marks.unopened unclosed
  have letters : diagnostic.lead ++ message.toList ++ closingText diagnostic.closing =
      diagnostic.lead ++ before ++ ('[' :: ('/' :: name) ++ ']' :: after) := by
    rw [unclosed, split]
    simp [closingText]
  -- Reading up to the tag takes one step for each character and leaves one for the tag.
  have longer := marks.enough
  rw [letters, List.length_append] at longer
  obtain ⟨left, rfl⟩ : ∃ left, fuel = left + 1 + (diagnostic.lead ++ before).length :=
    ⟨fuel - (diagnostic.lead ++ before).length - 1, by omega⟩
  have plain : ∀ c ∈ diagnostic.lead ++ before, c ≠ '[' ∧ c ≠ '\\' := by
    intro c member
    rcases List.mem_append.mp member with lead | inside
    · obtain ⟨bracket, backslash, -⟩ := not_mem_lead diagnostic
      exact ⟨fun same => bracket (same ▸ lead), fun same => backslash (same ▸ lead)⟩
    · exact plain c inside
  obtain ⟨mistake, unopened⟩ := exists_close_nil (name.takeWhile (· ≠ '='))
  have content : Piece.ofContent ('/' :: name) =
      .tag ('/' :: name.takeWhile (· ≠ '=')) ((name.dropWhile (· ≠ '=')).drop 1) := rfl
  refine ⟨mistake, ?_⟩
  rw [marks.visibleText_eq, letters, piecesFrom_append plain, piecesFrom_tag tag, content,
    shownText, shownText_shown_nil, shownText, unopened]
  rfl

/-! ### Messages that keep their text -/

/-- A message that a diagnostic shows as it is with colour: nothing in it is a tag, an escape or a
code for an emoji, it does not escape the tag behind it, and the label is no tag either. -/
structure KeepsText (diagnostic : Diagnostic) (message : String) : Prop where
  labelled : diagnostic ≠ .trace
  tagless : ¬HoldsTag message.toList
  unescaped : ¬escape <:+: message.toList
  unfinished : diagnostic.closing.isSome → message.toList.getLast? ≠ some '\\'
  meaningless : ∀ code ∈ codes message.toList, emojiOfCode? code = none

instance (diagnostic : Diagnostic) (message : String) : Decidable (KeepsText diagnostic message) :=
  decidable_of_iff (diagnostic ≠ .trace ∧ ¬HoldsTag message.toList ∧ ¬escape <:+: message.toList ∧
      (diagnostic.closing.isSome → message.toList.getLast? ≠ some '\\') ∧
      (codes message.toList).all fun code => (emojiOfCode? code).isNone)
    ⟨fun ⟨labelled, tagless, unescaped, unfinished, meaningless⟩ =>
        ⟨labelled, tagless, unescaped, unfinished, by simpa using meaningless⟩,
      fun ⟨labelled, tagless, unescaped, unfinished, meaningless⟩ =>
        ⟨labelled, tagless, unescaped, unfinished, by simpa using meaningless⟩⟩

theorem keepsText_iff : KeepsText diagnostic message ↔ diagnostic ≠ .trace ∧
    IsWhole diagnostic.closing [] (diagnostic.lead ++ message.toList) ∧
      ∀ code ∈ codes (diagnostic.lead ++ message.toList), emojiOfCode? code = none := by
  obtain ⟨bracket, backslash, colon⟩ := not_mem_lead diagnostic
  rw [isWhole_append_iff bracket backslash, codes_append colon]
  constructor
  · rintro ⟨labelled, tagless, unescaped, unfinished, meaningless⟩
    exact ⟨labelled, ⟨tagless, unescaped, unfinished⟩, meaningless⟩
  · rintro ⟨labelled, ⟨tagless, unescaped, unfinished⟩, meaningless⟩
    exact ⟨labelled, tagless, unescaped, unfinished, meaningless⟩

/-- A text that is one piece is shown with emoji for its codes. -/
theorem visibleText_of_isWhole
    (whole : IsWhole diagnostic.closing [] (diagnostic.lead ++ message.toList)) :
    visibleText (markedMessage diagnostic message) =
      .ok (terminalForm (String.ofList (diagnostic.shownLabel ++
        replaceCodes (diagnostic.lead ++ message.toList)))) := by
  obtain ⟨opened, fuel, marks⟩ := exists_marks diagnostic message
  have pieces := (marks.reads.whole_or_lighter (isClosing_closing diagnostic)).resolve_right
    fun lighter => lighter.1 whole
  rw [marks.visibleText_eq, pieces.2, shownText, marks.closed]
  change Except.ok (terminalForm (String.ofList (_ ++ (replaceCodes _ ++ [])))) = _
  rw [List.reverse_nil, List.nil_append, List.append_nil]

/-- A message that keeps its text is shown behind its label. -/
theorem KeepsText.visibleText_eq (keeps : KeepsText diagnostic message) :
    visibleText (markedMessage diagnostic message) =
      .ok (terminalForm (plainMessage diagnostic message)) := by
  obtain ⟨labelled, whole, meaningless⟩ := keepsText_iff.mp keeps
  have label : diagnostic.shownLabel = diagnostic.label := by
    cases diagnostic with
    | trace => exact absurd rfl labelled
    | _ => rfl
  rw [visibleText_of_isWhole whole, label, replaceCodes_eq_self_iff.mpr meaningless,
    ← toList_plainMessage, String.ofList_toList]

/-- Only the label of a trace is not shown. -/
theorem weight_shownLabel_cases (diagnostic : Diagnostic) :
    diagnostic ≠ .trace ∧ weight diagnostic.shownLabel = weight diagnostic.label ∨
      weight diagnostic.shownLabel < weight diagnostic.label := by
  cases diagnostic with
  | trace => exact .inr (by decide)
  | _ => exact .inl ⟨by decide, rfl⟩

/-- No other message is shown in full: what is shown weighs less. -/
theorem keepsText_of_weight {shown : String}
    (visible : visibleText (markedMessage diagnostic message) = .ok shown)
    (kept : weight shown.toList = weight (plainMessage diagnostic message).toList) :
    KeepsText diagnostic message := by
  obtain ⟨opened, fuel, marks⟩ := exists_marks diagnostic message
  have cases := marks.reads.whole_or_lighter (isClosing_closing diagnostic)
  rw [marks.visibleText_eq] at visible
  generalize piecesFrom fuel [] (diagnostic.lead ++ message.toList ++
    closingText diagnostic.closing) = pieces at visible cases
  cases read : shownText opened pieces with
  | error mistake =>
    rw [read] at visible
    cases visible
  | ok text =>
    rw [read] at visible
    cases visible
    -- Neither the label nor the text behind it gains weight, so that neither may have lost any.
    have lost := weight_le_of_shownText read
    rw [weight_terminalForm, String.toList_ofList, toList_plainMessage, weight_append,
      weight_append] at kept
    have label := weight_shownLabel_cases diagnostic
    rcases cases with ⟨whole, rfl⟩ | ⟨-, lighter⟩
    · rw [shownText, marks.closed] at read
      cases read
      have replaced := weight_replaceCodes_le (diagnostic.lead ++ message.toList)
      rw [List.reverse_nil, List.nil_append, List.append_nil] at kept
      rcases label with ⟨labelled, same⟩ | less
      · have unlost : weight (replaceCodes (diagnostic.lead ++ message.toList)) =
            weight (diagnostic.lead ++ message.toList) := by omega
        exact keepsText_iff.mpr ⟨labelled, whole, weight_replaceCodes_eq_iff.mp unlost⟩
      · omega
    · rw [weight_nil, Nat.zero_add] at lighter
      omega

/-! ### Consoles -/

theorem diagnostic_uncolored (console : Console) (diagnostic : Diagnostic) (message : String) :
    { console with usesColor := false }.diagnostic diagnostic message =
      .ok (if console.shows diagnostic then plainMessage diagnostic message ++ "\n" else "") := by
  have shows : { console with usesColor := false }.shows diagnostic = console.shows diagnostic := by
    cases diagnostic <;> rfl
  unfold Console.diagnostic
  rw [shows]
  cases console.shows diagnostic <;> rfl

theorem diagnostic_colored_of_shows (console : Console) (shows : console.shows diagnostic)
    (text : String) :
    { console with usesColor := true }.diagnostic diagnostic message = .ok (text ++ "\n") ↔
      visibleText (markedMessage diagnostic message) = .ok text := by
  have shows : { console with usesColor := true }.shows diagnostic := by
    cases diagnostic <;> exact shows
  unfold Console.diagnostic
  rw [if_neg (by simpa using shows), if_neg (by simp)]
  cases visibleText (markedMessage diagnostic message) with
  | ok shown => simp
  | error mistake => cases mistake <;> simp [failUnforeseen]

/-- With colour a diagnostic writes what a terminal makes of the text it writes without, if and only
if it is not shown or its message keeps its text; it writes exactly that text if and only if the
message has no tabs and no silent characters either; and it fails only for messages that hold
tags. -/
theorem diagnostic_colored_iff (console : Console) (diagnostic : Diagnostic) (message : String) :
    ∃ text, { console with usesColor := false }.diagnostic diagnostic message = .ok text ∧
      ({ console with usesColor := true }.diagnostic diagnostic message = .ok (terminalForm text) ↔
        (console.shows diagnostic → KeepsText diagnostic message)) ∧
      ({ console with usesColor := true }.diagnostic diagnostic message = .ok text ↔
        (console.shows diagnostic → KeepsText diagnostic message ∧
          ∀ c ∈ message.toList, c ≠ '\t' ∧ ¬isSilent c)) ∧
      (¬HoldsTag message.toList →
        ∃ shown, { console with usesColor := true }.diagnostic diagnostic message = .ok shown) := by
  refine ⟨_, diagnostic_uncolored console diagnostic message, ?_⟩
  by_cases shows : console.shows diagnostic
  · have plain : terminalForm (plainMessage diagnostic message) = plainMessage diagnostic message ↔
        ∀ c ∈ message.toList, c ≠ '\t' ∧ ¬isSilent c := by
      have all : (diagnostic.label ++ diagnostic.lead).all (fun c => c ≠ '\t' && !isSilent c) := by
        cases diagnostic <;> decide
      have own : ∀ c ∈ diagnostic.label ++ diagnostic.lead, c ≠ '\t' ∧ ¬isSilent c := by
        intro c member
        simpa using List.all_eq_true.mp all c member
      rw [terminalForm_eq_self_iff, toList_plainMessage, ← List.append_assoc,
        List.forall_mem_append]
      exact and_iff_right own
    rw [if_pos shows, terminalForm_newline, diagnostic_colored_of_shows console shows,
      diagnostic_colored_of_shows console shows]
    -- The terminal form and the text itself weigh the same, so that either tells what is kept.
    refine ⟨⟨fun visible _ => ?_, fun keeps => (keeps shows).visibleText_eq⟩,
      ⟨fun visible _ => ?_, fun keeps => ?_⟩, fun tagless => ?_⟩
    · exact keepsText_of_weight visible (weight_terminalForm _)
    · have keeps := keepsText_of_weight visible rfl
      rw [keeps.visibleText_eq] at visible
      exact ⟨keeps, plain.mp (Except.ok.inj visible)⟩
    · rw [(keeps shows).1.visibleText_eq, plain.mpr (keeps shows).2]
    · obtain ⟨shown, visible⟩ := exists_visibleText_of_not_holdsTag diagnostic tagless
      exact ⟨_, (diagnostic_colored_of_shows console shows shown).mpr visible⟩
  · have silent : { console with usesColor := true }.diagnostic diagnostic message = .ok "" := by
      have hidden : ¬{ console with usesColor := true }.shows diagnostic := by
        cases diagnostic <;> exact shows
      unfold Console.diagnostic
      rw [if_pos (by simpa using hidden)]
    have empty : terminalForm "" = "" := by decide
    rw [if_neg shows, empty, silent]
    exact ⟨⟨fun _ shown => absurd shown shows, fun _ => rfl⟩,
      ⟨fun _ shown => absurd shown shows, fun _ => rfl⟩, fun _ => ⟨_, rfl⟩⟩

/-- Most messages keep their text. -/
example : KeepsText .success "Saved cli.py [1]: 2 options" := by decide +kernel

/-- A trace loses its label, and an error with a closing tag cannot be written at all. -/
theorem trace_loses_label :
    (Console.mk .plain false false true).diagnostic .trace "ready" = .ok "[debug] ready\n" ∧
      (Console.mk .plain true false true).diagnostic .trace "ready" = .ok " ready\n" ∧
      (Console.mk .plain false false true).diagnostic .error "[/x]" = .ok "Error: [/x]\n" ∧
      ∃ fault, (Console.mk .plain true false true).diagnostic .error "[/x]" = .error fault := by
  have trace : visibleText (markedMessage .trace "ready") = .ok " ready" := by
    have whole : IsWhole (Diagnostic.closing .trace) []
        (Diagnostic.lead .trace ++ "ready".toList) :=
      ⟨not_holdsTag_of_notMem (by decide), by decide, by decide⟩
    have kept : terminalForm (String.ofList (Diagnostic.shownLabel .trace ++
        replaceCodes (Diagnostic.lead .trace ++ "ready".toList))) = " ready" := by decide
    rw [visibleText_of_isWhole whole, kept]
  have split : "[/x]".toList = [] ++ ('[' :: ('/' :: ['x']) ++ ']' :: []) := rfl
  obtain ⟨mistake, unreadable⟩ :=
    exists_visibleText_eq_error_of_closing .error rfl split (by simp) (by decide)
  refine ⟨by decide, ?_, by decide, ?_⟩
  · exact (diagnostic_colored_of_shows (Console.mk .plain true false true) rfl " ready").mpr trace
  · unfold Console.diagnostic
    rw [unreadable]
    cases mistake <;> exact ⟨_, rfl⟩

end EntryPoint.Console
