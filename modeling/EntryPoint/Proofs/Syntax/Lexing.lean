/-
# Printed text as lexemes

Printed text is read word by word. Each word is followed by what is known of the
text behind it, so that no word is cut short and none runs into the next one: a
name ends before any character that continues no word, and a quoted literal at its
own quote.

## Main definitions

* `IsName` - the names that are read as they are written.
* `Lexes` - a text has given lexemes, and no character that a reader replaces.
* `Spells`, `SpellsBefore` - a text is read as given tokens, whatever stands behind its last word,
  or where one character does.

## Main results

* `Lexes.word`, `Lexes.lone`, `Lexes.quoted` - the words that printed text is made of.
* `Lexes.line` - the start of a line.
-/

import EntryPoint.Proofs.Syntax.Quoted
import EntryPoint.Proofs.Text.Identifier

namespace EntryPoint.Syntax

open Text

variable {c : Char} {label symbol : String} {spelled : Token}
  {text rest : List Char} {lexemes : List Lexeme}

/-! ### Names -/

/-- A name that is read as it is written: it can be bound, and it stands within ASCII or in its
normal form. -/
structure IsName (label : String) : Prop where
  bindable : isBindable label
  settled : label.toList.all isAscii ∨ normalForm label = label

theorem IsName.ascii (plain : isBindable label && label.toList.all isAscii) : IsName label := by
  obtain ⟨bindable, ascii⟩ := Bool.and_eq_true_iff.mp plain
  exact ⟨bindable, .inl ascii⟩

/-- A name that reads back is no keyword and is its own normal form. -/
theorem IsName.ofWord? (name : IsName label) : Token.ofWord? label = some (.name label true) := by
  have bindable := name.bindable
  rw [isBindable, Bool.and_eq_true, Bool.not_eq_eq_eq_not, Bool.not_true] at bindable
  unfold Token.ofWord?
  rw [bindable.2, if_neg Bool.false_ne_true]
  rcases name.settled with ascii | normal
  · rw [if_pos ascii]
  · rw [normal]
    simp [bindable.1]

/-- What an identifier may start with is a character of words, and no digit. -/
theorem isWordCharacter_of_isIdentifierStart (start : isIdentifierStart c) :
    isWordCharacter c ∧ c.isDigit = false := by
  unfold isWordCharacter isIdentifierRest
  unfold isIdentifierStart at start
  cases ascii : isAscii c with
  | false =>
    have large : ¬c.val.toNat < 128 := of_decide_eq_false ascii
    have nine : '9'.val.toNat = 57 := rfl
    refine ⟨rfl, ?_⟩
    simp only [Char.isDigit, Bool.and_eq_false_iff, decide_eq_false_iff_not,
      UInt32.le_iff_toNat_le]
    omega
  | true =>
    rw [ascii, if_pos rfl, Bool.or_eq_true, beq_iff_eq] at start
    rcases start with letter | rfl
    · have nine : '9'.val.toNat = 57 := rfl
      have bounds : 'A'.val.toNat = 65 ∧ 'a'.val.toNat = 97 := ⟨rfl, rfl⟩
      refine ⟨by simp [Char.isAlphanum, letter], ?_⟩
      have cases : c.isAlpha = (decide (c.val ≥ 'A'.val ∧ c.val ≤ 'Z'.val) ||
          (decide (c.val ≥ 'a'.val) && decide (c.val ≤ 'z'.val))) := rfl
      simp only [cases, Bool.or_eq_true, Bool.and_eq_true, decide_eq_true_eq,
        UInt32.le_iff_toNat_le, ge_iff_le] at letter
      simp only [Char.isDigit, Bool.and_eq_false_iff, decide_eq_false_iff_not,
        UInt32.le_iff_toNat_le]
      omega
    · exact ⟨rfl, rfl⟩

theorem isWordCharacter_of_mem_identifier (identifier : isIdentifier label)
    (member : c ∈ label.toList) : isWordCharacter c := by
  rcases mem_identifier identifier member with start | further
  · exact (isWordCharacter_of_isIdentifierStart start).1
  · rw [isWordCharacter, further, Bool.or_true]

/-- An identifier opens with a character of a word that is no digit. -/
theorem exists_eq_cons_of_isIdentifier (identifier : isIdentifier label) :
    ∃ first others, label.toList = first :: others ∧ isWordCharacter first ∧
      first.isDigit = false := by
  rw [isIdentifier] at identifier
  split at identifier
  · cases identifier
  · rename_i first others same
    have start := isWordCharacter_of_isIdentifierStart (Bool.and_eq_true_iff.mp identifier).1
    exact ⟨first, others, same, start⟩

/-! ### Boundaries -/

/-- Whether a word or a quoted literal that stands in front of a text ends there. -/
def endsWord : List Char → Bool
  | [] => true
  | c :: _ => !isWordCharacter c && c ≠ '\'' && c ≠ '"'

/-- A word ends in front of a character that neither continues it nor opens a literal. -/
theorem endsWord_cons : endsWord (c :: rest) ↔ isWordCharacter c = false ∧ c ≠ '\'' ∧ c ≠ '"' := by
  simp [endsWord, and_assoc]

theorem isAlpha_of_not_isWordCharacter (other : isWordCharacter c = false) :
    c.isAlpha = false := by
  cases letter : c.isAlpha with
  | false => rfl
  | true =>
    rw [isWordCharacter, isIdentifierRest] at other
    split at other <;> simp_all [Char.isAlphanum]

theorem dropWhile_isAlpha_of_endsWord (ends : endsWord rest) :
    rest.dropWhile Char.isAlpha = rest := by
  cases rest with
  | nil => rfl
  | cons c others =>
    rw [List.dropWhile_cons_of_neg]
    rw [isAlpha_of_not_isWordCharacter (endsWord_cons.mp ends).1]
    exact Bool.false_ne_true

/-- No quote stands behind the letters of a word. -/
theorem opensLiteral_word (letters : ∀ c ∈ text, isWordCharacter c) (ends : endsWord rest) :
    opensLiteral (text ++ rest) = false := by
  have apart : ∀ c, ((text ++ rest).dropWhile Char.isAlpha).head? = some c →
      c ≠ '\'' ∧ c ≠ '"' := by
    intro c first
    -- The first character that is no letter comes from the word itself or from behind it.
    rw [List.dropWhile_append, dropWhile_isAlpha_of_endsWord ends] at first
    split at first
    · cases rest with
      | nil => cases first
      | cons next others =>
        obtain rfl := Option.some.inj first
        exact (endsWord_cons.mp ends).2
    · rename_i further
      have member : c ∈ text := by
        cases remaining : text.dropWhile Char.isAlpha with
        | nil => exact absurd (by rw [remaining]; rfl) further
        | cons next others =>
          rw [remaining] at first
          obtain rfl := Option.some.inj first
          exact (List.dropWhile_sublist _).subset (by rw [remaining]; exact .head _)
      constructor <;> rintro rfl <;> cases letters _ member
  unfold opensLiteral splitLetters
  dsimp only
  generalize ((text ++ rest).dropWhile Char.isAlpha).head? = first at apart ⊢
  cases first with
  | none => simp
  | some c => simp [apart c rfl]

/-! ### Words -/

/-- A word is read up to a character that continues no word. -/
theorem scanToken_word (identifier : isIdentifier label)
    (known : Token.ofWord? label = some spelled) (ends : endsWord rest) :
    scanToken (label.toList ++ rest) = some (spelled, rest) := by
  have letters : ∀ c ∈ label.toList, isWordCharacter c :=
    fun _ => isWordCharacter_of_mem_identifier identifier
  have noLiteral := opensLiteral_word letters ends
  have beyond : rest.takeWhile isWordCharacter = [] ∧ rest.dropWhile isWordCharacter = rest := by
    cases rest with
    | nil => exact ⟨rfl, rfl⟩
    | cons c others =>
      have other := (endsWord_cons.mp ends).1
      simp [other]
  have taken : (label.toList ++ rest).takeWhile isWordCharacter = label.toList := by
    rw [List.takeWhile_append_of_pos letters, beyond.1, List.append_nil]
  have dropped : (label.toList ++ rest).dropWhile isWordCharacter = rest := by
    rw [List.dropWhile_append_of_pos letters, beyond.2]
  obtain ⟨first, others, same, letter, noDigit⟩ := exists_eq_cons_of_isIdentifier identifier
  have noNumeral : opensNumeral (first :: (others ++ rest)) = false := by
    have noPoint : first ≠ '.' := by
      rintro rfl
      cases letter
    unfold opensNumeral
    split
    · rename_i same
      exact absurd (List.cons.inj same).1 noPoint
    · rename_i same
      rw [← (List.cons.inj same).1]
      exact noDigit
    · rfl
  rw [same, List.cons_append] at noLiteral taken dropped ⊢
  unfold scanToken
  simp only [noLiteral, noNumeral, letter, Bool.false_eq_true, if_false, if_true, taken, dropped]
  rw [← same, String.ofList_toList, known]
  rfl

/-- The symbols of one character that no longer symbol opens with. -/
def loneSymbols : List (Char × String) :=
  [('(', "("), (')', ")"), ('[', "["), (']', "]"), ('\x7b', "\x7b"), ('\x7d', "\x7d"), (',', ",")]

/-- A symbol is read where it is the longest one in front of the text. -/
theorem scanToken_symbol (symbol : String) {first : Char} {others : List Char}
    (written : symbol.toList = first :: others) (noWord : isWordCharacter first = false)
    (noQuote : first ≠ '\'' ∧ first ≠ '"')
    (noNumeral : opensNumeral (first :: others ++ rest) = false)
    (longest : symbols.find? (·.toList.isPrefixOf (first :: others ++ rest)) = some symbol) :
    scanToken (first :: others ++ rest) = some (.symbol symbol, rest) := by
  have letters : splitLetters (first :: others ++ rest) = ([], first :: others ++ rest) := by
    simp [splitLetters, isAlpha_of_not_isWordCharacter noWord]
  have length : symbol.length = (first :: others).length := by
    rw [← written, String.length_toList]
  have noLiteral : opensLiteral (first :: others ++ rest) = false := by
    rw [opensLiteral, letters]
    simp [noQuote]
  unfold scanToken
  rw [List.cons_append] at noLiteral noNumeral longest ⊢
  simp only [noLiteral, noNumeral, noWord, longest, Bool.false_eq_true, if_false, Option.map_some,
    length]
  rw [← List.cons_append, List.drop_left]

theorem toList_of_mem_loneSymbols (lone : (c, symbol) ∈ loneSymbols) : symbol.toList = [c] := by
  simp only [loneSymbols, List.mem_cons, Prod.mk.injEq, List.not_mem_nil, or_false] at lone
  rcases lone with ⟨rfl, rfl⟩ | ⟨rfl, rfl⟩ | ⟨rfl, rfl⟩ | ⟨rfl, rfl⟩ | ⟨rfl, rfl⟩ | ⟨rfl, rfl⟩ |
    ⟨rfl, rfl⟩ <;> rfl

/-- Some symbols are read as they stand, whatever comes behind them. -/
theorem scanToken_lone (lone : (c, symbol) ∈ loneSymbols) :
    scanToken (c :: rest) = some (.symbol symbol, rest) := by
  simp only [loneSymbols, List.mem_cons, Prod.mk.injEq, List.not_mem_nil, or_false] at lone
  rcases lone with ⟨rfl, rfl⟩ | ⟨rfl, rfl⟩ | ⟨rfl, rfl⟩ | ⟨rfl, rfl⟩ | ⟨rfl, rfl⟩ | ⟨rfl, rfl⟩ |
    ⟨rfl, rfl⟩ <;> rfl

/-- The token of a quoted literal. -/
def quotedToken (text : String) : Token :=
  .literal ⟨.text, false, false, text.toList.flatMap (escapeWithin (quoteMark text.toList))⟩

theorem exists_quote_eq_cons (text : String) :
    ∃ body, (quote text).toList = quoteMark text.toList :: body := by
  rw [quote, String.toList_ofList]
  exact ⟨_, rfl⟩

/-- A quoted text is read back as that text. -/
theorem scanToken_quoted (text : String) (ends : endsWord rest) :
    scanToken ((quote text).toList ++ rest) = some (quotedToken text, rest) := by
  have markIs := quoteMark_cases text.toList
  have apart : rest.head? ≠ some (quoteMark text.toList) := by
    cases rest with
    | nil => simp
    | cons c others =>
      have other := endsWord_cons.mp ends
      rintro same
      obtain rfl := Option.some.inj same
      rcases markIs with mark | mark
      · exact other.2.2 mark
      · exact other.2.1 mark
  have scanned := scanQuoted_quoteChars text.toList apart
  have opened : ∃ body, (quote text).toList ++ rest = quoteMark text.toList :: body := by
    obtain ⟨body, same⟩ := exists_quote_eq_cons text
    exact ⟨body ++ rest, by rw [same, List.cons_append]⟩
  have letters :
      splitLetters ((quote text).toList ++ rest) = ([], (quote text).toList ++ rest) := by
    obtain ⟨body, same⟩ := opened
    rw [same, splitLetters]
    rcases markIs with mark | mark <;> rw [mark] <;> rfl
  have opens : opensLiteral ((quote text).toList ++ rest) = true := by
    rw [opensLiteral, letters]
    obtain ⟨body, same⟩ := opened
    rw [same]
    rcases markIs with mark | mark <;> rw [mark] <;> rfl
  have literal : scanLiteral ((quote text).toList ++ rest) =
      some (⟨.text, false, false, text.toList.flatMap (escapeWithin (quoteMark text.toList))⟩,
        rest) := by
    rw [scanLiteral, letters]
    rw [quote, String.toList_ofList]
    simp [literalKind?, scanned]
  unfold scanToken
  split
  · rename_i same
    obtain ⟨body, nonempty⟩ := opened
    cases same.symm.trans nonempty
  · rw [if_pos opens, literal]
    rfl

/-! ### Lexemes -/

/-- Whether a character stays as it is when a module is read. -/
def isKept (c : Char) : Bool :=
  c ≠ '\r' && c ≠ '\x00'

/-- A text has lexemes, from the start of a line or from within one, and no character of it is
replaced before it is read. -/
structure Lexes (fresh : Bool) (text : List Char) (lexemes : List Lexeme) : Prop where
  kept : ∀ c ∈ text, isKept c
  -- Every character takes at most two steps, and one more is spent at the start of a line.
  within : ∀ fuel, 2 * text.length + fresh.toNat < fuel →
    lexemesWithin fuel fresh text = some lexemes

/-- The steps that a text takes are bounded by its length. -/
theorem Lexes.lexemes_eq (lexed : Lexes true text lexemes) : Syntax.lexemes text = some lexemes :=
  lexed.within _ (Nat.lt_succ_self _)

/-- Whether a character opens a word and is no blank, break or mark of a comment. -/
def opensWord (c : Char) : Bool :=
  !(['\t', '\x0c', ' ', '\n', '#', '\\'].contains c)

theorem opensWord_iff : opensWord c ↔
    c ≠ '\t' ∧ c ≠ '\x0c' ∧ c ≠ ' ' ∧ c ≠ '\n' ∧ c ≠ '#' ∧ c ≠ '\\' := by
  simp [opensWord]

/-- A character of words is taken as it is. -/
theorem isKept_of_isWordCharacter (letter : isWordCharacter c) : isKept c := by
  rw [isKept, Bool.and_eq_true, decide_eq_true_eq, decide_eq_true_eq]
  constructor <;> rintro rfl <;> cases letter

theorem isKept_of_isPrintable (printable : isPrintable c) : isKept c := by
  rw [isKept, Bool.and_eq_true, decide_eq_true_eq, decide_eq_true_eq]
  constructor <;> rintro rfl <;> cases printable

theorem opensWord_of_isWordCharacter (letter : isWordCharacter c) : opensWord c := by
  rw [opensWord_iff]
  refine ⟨?_, ?_, ?_, ?_, ?_, ?_⟩ <;> rintro rfl <;> cases letter

theorem opensWord_quoteMark (text : List Char) : opensWord (quoteMark text) := by
  rcases quoteMark_cases text with mark | mark <;> rw [mark] <;> rfl

/-- The blanks in front of a word are the indentation of its line. -/
theorem measure_blanks {width n : Nat} (opens : opensWord c) :
    Indentation.measure ⟨n, n⟩ 0 (List.replicate width ' ' ++ c :: text) =
      some (⟨n + width, n + width⟩, c :: text) := by
  induction width generalizing n with
  | zero =>
    obtain ⟨tab, feed, blank, -, -, join⟩ := opensWord_iff.mp opens
    rw [List.replicate_zero, List.nil_append, Indentation.measure.eq_def]
    split <;> simp_all
  | succ width ih =>
    rw [List.replicate_succ, List.cons_append, Indentation.measure, ih]
    simp [Nat.add_assoc, Nat.add_comm 1]

namespace Lexes

theorem nil : Lexes false [] [] where
  kept := by simp
  within fuel room := by
    obtain ⟨fuel, rfl⟩ := Nat.exists_eq_add_of_lt room
    rfl

theorem blank (lexed : Lexes false rest lexemes) : Lexes false (' ' :: rest) lexemes where
  kept := List.forall_mem_cons.mpr ⟨rfl, lexed.kept⟩
  within fuel room := by
    obtain ⟨fuel, rfl⟩ := Nat.exists_eq_succ_of_ne_zero (Nat.ne_zero_of_lt room)
    rw [List.length_cons] at room
    exact lexed.within fuel (by omega)

theorem lineBreak (lexed : Lexes true rest lexemes) :
    Lexes false ('\n' :: rest) (.lineBreak :: lexemes) where
  kept := List.forall_mem_cons.mpr ⟨rfl, lexed.kept⟩
  within fuel room := by
    obtain ⟨fuel, rfl⟩ := Nat.exists_eq_succ_of_ne_zero (Nat.ne_zero_of_lt room)
    rw [List.length_cons] at room
    -- The break costs one step, and starting the next line another.
    have read := lexed.within fuel (by simp at room ⊢; omega)
    simp [lexemesWithin, read]

theorem blankLine (lexed : Lexes true rest lexemes) : Lexes true ('\n' :: rest) lexemes where
  kept := List.forall_mem_cons.mpr ⟨rfl, lexed.kept⟩
  within fuel room := by
    obtain ⟨fuel, rfl⟩ := Nat.exists_eq_succ_of_ne_zero (Nat.ne_zero_of_lt room)
    rw [List.length_cons] at room
    exact lexed.within fuel (by omega)

/-- At the end of a module all blocks are left. -/
theorem finish : Lexes true [] [.lineStart ⟨0, 0⟩] where
  kept := by simp
  within fuel room := by
    obtain ⟨fuel, rfl⟩ := Nat.exists_eq_succ_of_ne_zero (Nat.ne_zero_of_lt room)
    obtain ⟨fuel, rfl⟩ := Nat.exists_eq_succ_of_ne_zero (show fuel ≠ 0 by simp at room; omega)
    rfl

/-- A token at the start of a text is read, and the rest behind it. -/
theorem token (text : List Char) (opens : opensWord c) (kept : (c :: text).all isKept)
    (scanned : scanToken (c :: text ++ rest) = some (spelled, rest))
    (lexed : Lexes false rest lexemes) :
    Lexes false (c :: text ++ rest) (.token spelled :: lexemes) where
  kept d member := (List.mem_append.mp member).elim (List.all_eq_true.mp kept d) (lexed.kept d)
  within fuel room := by
    obtain ⟨fuel, rfl⟩ := Nat.exists_eq_succ_of_ne_zero (Nat.ne_zero_of_lt room)
    rw [List.length_append, List.length_cons] at room
    have read := lexed.within fuel (by omega)
    obtain ⟨tab, feed, blank, line, comment, join⟩ := opensWord_iff.mp opens
    rw [List.cons_append] at scanned ⊢
    simp [lexemesWithin, tab, feed, blank, line, comment, join, scanned, read]

/-- A name or a reserved word. -/
theorem word (identifier : isIdentifier label) (known : Token.ofWord? label = some spelled)
    (ends : endsWord rest) (lexed : Lexes false rest lexemes) :
    Lexes false (label.toList ++ rest) (.token spelled :: lexemes) := by
  have kept : label.toList.all isKept := List.all_eq_true.mpr fun _ member =>
    isKept_of_isWordCharacter (isWordCharacter_of_mem_identifier identifier member)
  have scanned := scanToken_word identifier known ends
  obtain ⟨first, others, same, letter, -⟩ := exists_eq_cons_of_isIdentifier identifier
  rw [same] at scanned kept ⊢
  exact .token others (opensWord_of_isWordCharacter letter) kept scanned lexed

theorem name (name : IsName label) (ends : endsWord rest) (lexed : Lexes false rest lexemes) :
    Lexes false (label.toList ++ rest) (.token (.name label true) :: lexemes) :=
  .word (isIdentifier_of_isBindable name.bindable) name.ofWord? ends lexed

/-- A symbol that is read whatever stands behind it. -/
theorem lone (lone : (c, symbol) ∈ loneSymbols) (lexed : Lexes false rest lexemes) :
    Lexes false (c :: rest) (.token (.symbol symbol) :: lexemes) := by
  have open' : opensWord c ∧ isKept c := by
    simp only [loneSymbols, List.mem_cons, Prod.mk.injEq, List.not_mem_nil, or_false] at lone
    rcases lone with ⟨rfl, -⟩ | ⟨rfl, -⟩ | ⟨rfl, -⟩ | ⟨rfl, -⟩ | ⟨rfl, -⟩ | ⟨rfl, -⟩ | ⟨rfl, -⟩ <;>
      exact ⟨rfl, rfl⟩
  refine .token [] open'.1 ?_ (scanToken_lone lone) lexed
  simpa using open'.2

/-- A quoted literal. -/
theorem quoted (text : String) (ends : endsWord rest) (lexed : Lexes false rest lexemes) :
    Lexes false ((quote text).toList ++ rest) (.token (quotedToken text) :: lexemes) := by
  have scanned := scanToken_quoted text ends
  have kept : (quote text).toList.all isKept := by
    rw [quote, String.toList_ofList]
    exact List.all_eq_true.mpr fun _ member =>
      isKept_of_isPrintable (isPrintable_of_mem_quoteChars member)
  obtain ⟨body, same⟩ := exists_quote_eq_cons text
  rw [same] at scanned kept ⊢
  exact .token body (opensWord_quoteMark _) kept scanned lexed

/-- A symbol that only an equality sign makes longer. -/
theorem lengthened {first : Char} (others : List Char)
    (known : (first :: others, symbol) ∈ [([':'], ":"), (['='], "="), (['*', '*'], "**")])
    (apart : rest.head? ≠ some '=') (lexed : Lexes false rest lexemes) :
    Lexes false (first :: others ++ rest) (.token (.symbol symbol) :: lexemes) := by
  have different : ∀ c tail, rest = c :: tail → ('=' == c) = false := fun c tail same =>
    beq_eq_false_iff_ne.mpr fun equal => apart (by rw [same, equal]; rfl)
  simp only [List.mem_cons, Prod.mk.injEq, List.not_mem_nil, or_false] at known
  -- Only the second character decides, so each of the three is compared with what stands behind.
  rcases known with ⟨chars, rfl⟩ | ⟨chars, rfl⟩ | ⟨chars, rfl⟩ <;> cases chars <;>
  · refine .token _ rfl (by decide) ?_ lexed
    cases rest with
    | nil => rfl
    | cons c tail =>
      refine scanToken_symbol _ rfl rfl (by decide) rfl ?_
      simp [symbols, List.find?, List.isPrefixOf, different c tail rfl]

/-- A colon is read by itself unless an equals sign would lengthen it. -/
theorem colon (apart : rest.head? ≠ some '=') (lexed : Lexes false rest lexemes) :
    Lexes false (':' :: rest) (.token (.symbol ":") :: lexemes) :=
  .lengthened [] (by decide) apart lexed

/-- So is an equals sign. -/
theorem equals (apart : rest.head? ≠ some '=') (lexed : Lexes false rest lexemes) :
    Lexes false ('=' :: rest) (.token (.symbol "=") :: lexemes) :=
  .lengthened [] (by decide) apart lexed

theorem stars (apart : rest.head? ≠ some '=') (lexed : Lexes false rest lexemes) :
    Lexes false ('*' :: '*' :: rest) (.token (.symbol "**") :: lexemes) :=
  .lengthened ['*'] (by decide) apart lexed

theorem arrow (lexed : Lexes false rest lexemes) :
    Lexes false ('-' :: '>' :: rest) (.token (.symbol "->") :: lexemes) :=
  .token ['>'] rfl (by decide) rfl lexed

/-- Three points. -/
theorem ellipsis (lexed : Lexes false rest lexemes) :
    Lexes false ('.' :: '.' :: '.' :: rest) (.token (.symbol "...") :: lexemes) :=
  .token ['.', '.'] rfl (by decide) rfl lexed

/-- A point in front of neither a digit nor two more points. -/
theorem point (noDigit : ∀ c others, rest = c :: others → c.isDigit = false)
    (noPoints : ¬['.', '.'].isPrefixOf rest) (lexed : Lexes false rest lexemes) :
    Lexes false ('.' :: rest) (.token (.symbol ".") :: lexemes) := by
  refine .token [] rfl (by decide) ?_ lexed
  have noNumeral : opensNumeral ('.' :: rest) = false := by
    cases rest with
    | nil => rfl
    | cons c others => exact noDigit c others rfl
  refine scanToken_symbol "." rfl rfl (by decide) noNumeral ?_
  have short : ['.', '.'].isPrefixOf rest = false := Bool.eq_false_of_not_eq_true noPoints
  simp [symbols, List.find?, List.isPrefixOf, short]

/-- A point in front of a name. -/
theorem pointName (name : IsName label) (lexed : Lexes false (label.toList ++ rest) lexemes) :
    Lexes false ('.' :: (label.toList ++ rest)) (.token (.symbol ".") :: lexemes) := by
  obtain ⟨first, others, same, letter, noDigit⟩ :=
    exists_eq_cons_of_isIdentifier (isIdentifier_of_isBindable name.bindable)
  refine .point ?_ ?_ lexed
  · rintro c tail form
    rw [same] at form
    rw [← (List.cons.inj form).1]
    exact noDigit
  · have different : ('.' == first) = false := beq_eq_false_iff_ne.mpr <| by
      rintro rfl
      cases letter
    simp [same, List.isPrefixOf, different]

/-- The start of a line that is not blank. -/
theorem line {width : Nat} (opens : opensWord c) (lexed : Lexes false (c :: text) lexemes) :
    Lexes true (List.replicate width ' ' ++ c :: text)
      (.lineStart ⟨width, width⟩ :: lexemes) where
  kept d member := by
    rcases List.mem_append.mp member with blank | member
    · rw [(List.mem_replicate.mp blank).2]
      rfl
    · exact lexed.kept d member
  within fuel room := by
    obtain ⟨fuel, rfl⟩ := Nat.exists_eq_succ_of_ne_zero (Nat.ne_zero_of_lt room)
    rw [List.length_append] at room
    have read := lexed.within fuel (by simp at room ⊢; omega)
    obtain ⟨-, -, -, line, comment, -⟩ := opensWord_iff.mp opens
    rw [lexemesWithin, measure_blanks opens]
    simp [line, comment, read]

end Lexes

/-- A text is read as tokens, where what follows ends its last word. -/
def Spells (text : String) (tokens : List Token) : Prop :=
  ∀ rest lexemes, endsWord rest → Lexes false rest lexemes →
    Lexes false (text.toList ++ rest) (tokens.map .token ++ lexemes)

/-- A text is read as tokens where a given character stands behind it. -/
def SpellsBefore (c : Char) (text : String) (tokens : List Token) : Prop :=
  ∀ rest lexemes, Lexes false (c :: rest) lexemes →
    Lexes false (text.toList ++ c :: rest) (tokens.map .token ++ lexemes)

theorem Spells.before {text : String} {tokens : List Token} (spells : Spells text tokens)
    (ends : endsWord [c]) : SpellsBefore c text tokens :=
  fun _ _ lexed => spells _ _ ends lexed

/-- Brackets around a text are read with it, whatever stands behind them. -/
theorem SpellsBefore.enclosed {first last text : String} {tokens : List Token}
    (spells : SpellsBefore c text tokens) (opening : Char)
    (opens : (opening, first) ∈ loneSymbols) (closes : (c, last) ∈ loneSymbols)
    (lexed : Lexes false rest lexemes) :
    Lexes false ((first ++ text ++ last).toList ++ rest)
      ((Token.symbol first :: tokens ++ [Token.symbol last]).map .token ++ lexemes) := by
  have inside := spells rest _ (.lone closes lexed)
  simpa [toList_of_mem_loneSymbols opens, toList_of_mem_loneSymbols closes] using
    Lexes.lone opens inside

theorem Spells.name (name : IsName label) : Spells label [.name label true] :=
  fun _ _ ends lexed => .name name ends lexed

theorem Spells.quote (text : String) : Spells (quote text) [quotedToken text] :=
  fun _ _ ends lexed => .quoted text ends lexed

end EntryPoint.Syntax
