/-
# Tokens of a text

The lexer goes on through a text step by step, and puts no flaws among its tokens until it
stops at one. So a flaw that is not one of form has its grounds in the text.

## Main definitions

* `Lexer.Sound` - the lexer is at a place in a text, and no token so far is a flaw.

## Main results

* `Lexer.Sound.step` - one step of the lexer.
* `Lexer.Sound.grounded_of_mem_run` - the flaws that all steps leave.
* `garbled_of_flaw_mem_tokens` - a text with a flaw among its tokens that is not one of form.
-/

import EntryPoint.Document.Yaml.Token.Lexer
import EntryPoint.Proofs.Document.Yaml.Scanning

namespace EntryPoint.Document.Yaml

variable {text : List Char} {lexer : Lexer} {cursor : Cursor} {token : Token}

/-- No token of a list is a flaw. -/
def Flawless (tokens : List Token) : Prop :=
  ∀ flaw, .flaw flaw ∉ tokens

namespace Flawless

variable {tokens : List Token}

theorem cons (flawless : Flawless tokens) (proper : ∀ flaw, token ≠ .flaw flaw) :
    Flawless (token :: tokens) :=
  fun flaw => List.not_mem_cons_of_ne_of_not_mem (proper flaw).symm (flawless flaw)

theorem append {before : List Token} (first : Flawless before) (second : Flawless tokens) :
    Flawless (before ++ tokens) :=
  fun flaw member => (List.mem_append.mp member).elim (first flaw) (second flaw)

theorem mono {before : List Token} (flawless : Flawless tokens) (sub : before ⊆ tokens) :
    Flawless before :=
  fun flaw member => flawless flaw (sub member)

end Flawless

/-- What is read as a tag is no flaw. -/
theorem ne_flaw_of_scanTag {scanned : Token × Cursor} (read : scanTag cursor = .ok scanned) :
    ∀ flaw, scanned.1 ≠ .flaw flaw := by
  obtain ⟨⟨made, next⟩, found, required⟩ := bind_eq_ok_iff.mp read
  obtain ⟨_, -, same⟩ := bind_eq_ok_iff.mp required
  obtain rfl := Except.ok.inj same
  -- A verbatim tag, a lone mark, or a suffix behind a handle: each of them gives a tag.
  split at found
  · obtain ⟨_, -, found⟩ := bind_eq_ok_iff.mp found
    obtain ⟨_, -, same⟩ := bind_eq_ok_iff.mp found
    cases same
    nofun
  · split at found
    · cases found
      nofun
    · dsimp only at found
      split at found
      all_goals
        obtain ⟨_, -, found⟩ := bind_eq_ok_iff.mp found
        obtain ⟨_, -, same⟩ := bind_eq_ok_iff.mp found
        cases same
        nofun

/-- The lexer is at a place in a text, and no token so far is a flaw. -/
structure Lexer.Sound (text : List Char) (lexer : Lexer) : Prop where
  within : lexer.cursor.Within text
  flawless : Flawless lexer.tokens

/-- A step of the lexer leaves it sound, or stops at a flaw that has its grounds in the text. -/
def Proceeds (text : List Char) (result : Except Flaw Lexer) : Prop :=
  Upholds (Lexer.Sound text) (Grounded text) result

namespace Proceeds

theorem malformed : Proceeds text (.error .malformed) :=
  grounded_malformed

theorem ok (sound : lexer.Sound text) : Proceeds text (.ok lexer) :=
  sound

theorem ite {condition : Prop} [Decidable condition] {first second : Except Flaw Lexer}
    (here : Proceeds text first) (there : Proceeds text second) :
    Proceeds text (if condition then first else second) := by
  split
  · exact here
  · exact there

theorem bind {first : Except Flaw Lexer} {second : Lexer → Except Flaw Lexer}
    (here : Proceeds text first)
    (further : ∀ lexer : Lexer, lexer.Sound text → Proceeds text (second lexer)) :
    Proceeds text (first >>= second) :=
  Upholds.bind here further

/-- What a step scans leaves the cursor within the text, from where the step goes on. -/
theorem scan {α : Type} {first : Except Flaw (α × Cursor)}
    {second : α × Cursor → Except Flaw Lexer} (here : Scans text first)
    (further : ∀ value cursor, cursor.Within text → Proceeds text (second (value, cursor))) :
    Proceeds text (first >>= second) :=
  Upholds.bind here fun (value, cursor) within => further value cursor within

end Proceeds

namespace Lexer.Sound

/-! ### Blocks and candidates -/

/-- One more token leaves the lexer sound. -/
theorem push {next : Lexer} (sound : lexer.Sound text) (within : next.cursor.Within text)
    (pushed : next.tokens = token :: lexer.tokens) (proper : ∀ flaw, token ≠ .flaw flaw) :
    next.Sound text :=
  ⟨within, pushed ▸ sound.flawless.cons proper⟩

/-- A token may also be put between those that are there already. -/
theorem insertAt (sound : lexer.Sound text) (number : Nat) (token : Token)
    (proper : ∀ flaw, token ≠ .flaw flaw) : (lexer.insertAt number token).Sound text where
  within := sound.within
  flawless := (sound.flawless.mono (List.take_subset _ _)).append
    ((sound.flawless.mono (List.drop_subset _ _)).cons proper)

/-- Only ends of blocks come in front of the tokens when blocks are closed. -/
theorem blockEnds (sound : lexer.Sound text) (columns : List Nat) :
    Flawless (columns.map (fun _ => Token.blockEnd) ++ lexer.tokens) := by
  refine .append (fun flaw member => ?_) sound.flawless
  obtain ⟨_, -, ⟨⟩⟩ := List.mem_map.mp member

/-- Blocks that are indented further than a column end there. -/
theorem closeBlocks (sound : lexer.Sound text) (column : Nat) :
    (lexer.closeBlocks column).Sound text := by
  unfold Lexer.closeBlocks
  split
  · exact ⟨sound.within, sound.blockEnds _⟩
  · exact sound

theorem closeAllBlocks (sound : lexer.Sound text) : lexer.closeAllBlocks.Sound text := by
  unfold Lexer.closeAllBlocks
  split
  · exact ⟨sound.within, sound.blockEnds _⟩
  · exact sound

theorem openBlockAt (sound : lexer.Sound text) (number column : Nat) (token : Token)
    (proper : ∀ flaw, token ≠ .flaw flaw) : (lexer.openBlockAt number column token).Sound text := by
  unfold Lexer.openBlockAt
  split
  · exact ⟨sound.within, (sound.insertAt number token proper).flawless⟩
  · exact sound

/-- A block opens where its first entry may stand, and is malformed elsewhere. -/
theorem openBlock (sound : lexer.Sound text) (token : Token) (proper : ∀ flaw, token ≠ .flaw flaw) :
    Proceeds text (lexer.openBlock token) := by
  unfold Lexer.openBlock
  split_ifs
  · exact .ok sound
  · exact .malformed
  · exact .ok (sound.openBlockAt _ _ token proper)

theorem eraseCandidate (sound : lexer.Sound text) : lexer.eraseCandidate.Sound text :=
  ⟨sound.within, sound.flawless⟩

/-- A candidate that has to be a key may not be given up. -/
theorem dropCandidate (sound : lexer.Sound text) : Proceeds text lexer.dropCandidate := by
  unfold Lexer.dropCandidate
  split
  · exact .malformed
  · exact .ok sound.eraseCandidate

/-- The candidates that a key can no longer start with are given up. -/
theorem dropStale (sound : lexer.Sound text) : Proceeds text lexer.dropStale := by
  unfold Lexer.dropStale
  dsimp only
  split
  · exact .malformed
  · exact .ok ⟨sound.within, sound.flawless⟩

/-- A candidate takes the place of the one before it on the same level of brackets. -/
theorem addCandidate (sound : lexer.Sound text) : Proceeds text lexer.addCandidate := by
  unfold Lexer.addCandidate
  split
  · exact sound.dropCandidate.bind fun lexer sound => .ok ⟨sound.within, sound.flawless⟩
  · exact .ok sound

/-! ### Steps -/

/-- Blanks, comments and line breaks are gone over, and no token comes of them. -/
theorem skipToToken (sound : lexer.Sound text) (fuel : Nat) :
    (skipToToken fuel lexer).Sound text := by
  induction fuel generalizing lexer with
  | zero => exact sound
  | succ fuel ih =>
    have behind := sound.within.skipSpaces.skipComment
    unfold Lexer.skipToToken
    dsimp only
    split
    · exact ⟨behind, sound.flawless⟩
    · rename_i found
      exact ih ⟨behind.lineBreak? found, sound.flawless⟩

/-- All blocks end with a document, and no candidate goes beyond it. -/
theorem leaveDocument (sound : lexer.Sound text) : Proceeds text lexer.leaveDocument :=
  sound.closeAllBlocks.dropCandidate.bind fun _ sound => .ok ⟨sound.within, sound.flawless⟩

/-! ### Tokens -/

/-- A directive may stop the lexer at the number of its version. -/
theorem pushDirective (sound : lexer.Sound text) : Proceeds text lexer.pushDirective :=
  sound.leaveDocument.bind fun _ sound => .scan sound.within.scanDirective fun _ _ within =>
    .ok (sound.push within rfl nofun)

/-- The marks at the start and the end of a document. -/
theorem pushSeparator (sound : lexer.Sound text) (proper : ∀ flaw, token ≠ .flaw flaw) :
    Proceeds text (lexer.pushSeparator token) :=
  sound.leaveDocument.bind fun _ sound => .ok (sound.push (sound.within.skip 3) rfl proper)

theorem pushOpening (sound : lexer.Sound text) (proper : ∀ flaw, token ≠ .flaw flaw) :
    Proceeds text (lexer.pushOpening token) :=
  sound.addCandidate.bind fun _ sound => .ok (sound.push (sound.within.skip 1) rfl proper)

theorem pushClosing (sound : lexer.Sound text) (proper : ∀ flaw, token ≠ .flaw flaw) :
    Proceeds text (lexer.pushClosing token) :=
  sound.dropCandidate.bind fun _ sound => .ok (sound.push (sound.within.skip 1) rfl proper)

theorem pushFlowEntry (sound : lexer.Sound text) : Proceeds text lexer.pushFlowEntry :=
  sound.dropCandidate.bind fun _ sound => .ok (sound.push (sound.within.skip 1) rfl nofun)

theorem pushBlockEntry (sound : lexer.Sound text) : Proceeds text lexer.pushBlockEntry :=
  (sound.openBlock .blockSequenceStart nofun).bind fun _ sound =>
    sound.dropCandidate.bind fun _ sound => .ok (sound.push (sound.within.skip 1) rfl nofun)

theorem pushKey (sound : lexer.Sound text) : Proceeds text lexer.pushKey :=
  (sound.openBlock .blockMappingStart nofun).bind fun _ sound =>
    sound.dropCandidate.bind fun _ sound => .ok (sound.push (sound.within.skip 1) rfl nofun)

/-- The sign of a value puts a key in front of its candidate, or opens a mapping where there is
none. -/
theorem pushValue (sound : lexer.Sound text) : Proceeds text lexer.pushValue := by
  unfold Lexer.pushValue
  split
  · rename_i candidate _
    have key := sound.eraseCandidate.insertAt candidate.number .key nofun
    dsimp only
    split
    · have opened := key.openBlockAt candidate.number candidate.column .blockMappingStart nofun
      exact .ok (opened.push (opened.within.skip 1) rfl nofun)
    · exact .ok (key.push (key.within.skip 1) rfl nofun)
  · exact (sound.openBlock .blockMappingStart nofun).bind fun _ sound =>
      .ok (sound.push (sound.within.skip 1) rfl nofun)

theorem pushName {make : String → Token} (sound : lexer.Sound text)
    (proper : ∀ name flaw, make name ≠ .flaw flaw) : Proceeds text (lexer.pushName make) :=
  sound.addCandidate.bind fun _ sound => .scan sound.within.scanName fun name _ within =>
    .ok (sound.push within rfl (proper name))

theorem pushTag (sound : lexer.Sound text) : Proceeds text lexer.pushTag :=
  sound.addCandidate.bind fun _ sound =>
    (sound.within.scanTag.and fun _ => ne_flaw_of_scanTag).bind
      fun _ ⟨within, proper⟩ => sound.push within rfl proper

theorem pushBlock (sound : lexer.Sound text) (folded : Bool) :
    Proceeds text (lexer.pushBlock folded) :=
  sound.dropCandidate.bind fun _ sound => .scan (sound.within.scanBlock _ _) fun _ _ within =>
    .ok (sound.push within rfl nofun)

/-- A quoted scalar may stop the lexer at an escape. -/
theorem pushQuoted (sound : lexer.Sound text) (quote : Char) :
    Proceeds text (lexer.pushQuoted quote) :=
  sound.addCandidate.bind fun _ sound => .scan (sound.within.scanQuoted _) fun _ _ within =>
    .ok (sound.push within rfl nofun)

/-- A plain scalar never stops the lexer. -/
theorem pushPlain (sound : lexer.Sound text) : Proceeds text lexer.pushPlain :=
  sound.addCandidate.bind fun _ sound =>
    .ok (sound.push (sound.within.scanPlain _ _) rfl nofun)

/-- Each character opens one kind of token or none. -/
theorem pushToken (sound : lexer.Sound text) (c : Char) : Proceeds text (lexer.pushToken c) := by
  unfold Lexer.pushToken
  exact .ite sound.pushDirective <| .ite (sound.pushSeparator nofun) <|
    .ite (sound.pushSeparator nofun) <| .ite (sound.pushOpening nofun) <|
    .ite (sound.pushOpening nofun) <| .ite (sound.pushClosing nofun) <|
    .ite (sound.pushClosing nofun) <| .ite sound.pushFlowEntry <| .ite sound.pushBlockEntry <|
    .ite sound.pushKey <| .ite sound.pushValue <| .ite (sound.pushName nofun) <|
    .ite (sound.pushName nofun) <| .ite sound.pushTag <| .ite (sound.pushBlock false) <|
    .ite (sound.pushBlock true) <| .ite (sound.pushQuoted c) <| .ite sound.pushPlain .malformed

/-- One step of the lexer goes on within the text, or stops at a flaw that has its grounds there. -/
theorem step (sound : lexer.Sound text) : Proceeds text lexer.step := by
  refine sound.dropStale.bind fun _ sound =>
    (sound.skipToToken _).dropStale.bind fun lexer sound => ?_
  have closed := sound.closeBlocks lexer.cursor.column
  dsimp only
  split
  · exact closed.leaveDocument.bind fun _ sound => .ok (sound.push sound.within rfl nofun)
  · exact closed.pushToken _

end Lexer.Sound

end EntryPoint.Document.Yaml
