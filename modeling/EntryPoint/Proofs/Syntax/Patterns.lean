/-
# Printed patterns read back

A pattern that takes a mapping apart pairs texts with names, and may end with a
name for the rest. What stands behind a pattern, a comma, a brace or a colon, goes
on with none.

## Main definitions

* `Pattern.Written` - a text and its tokens stand for a pattern.
* `MappingItem.Written` - the same for an item of a mapping.

## Main results

* `Pattern.Written.capture`, `Pattern.Written.wildcard`, `Pattern.Written.mapping` - how such
  patterns are put together.
* `Pattern.Written.topPattern` - they are read as the pattern of an arm.
-/

import EntryPoint.Proofs.Syntax.Expression
import EntryPoint.Syntax.Printer.Statement
import EntryPoint.Syntax.Reader.Pattern

namespace EntryPoint.Syntax

open Reader Text

variable {height depth patternDepth : Nat} {pattern : Pattern} {item : MappingItem}
  {items : List MappingItem} {shown label mark : String} {texts : List String}
  {tokens rest : List Token}

/-- The symbols behind a pattern. -/
def patternMarks : List String := [",", "\x7d", ":"]

/-- A text and its tokens stand for a pattern, with brackets nested up to a height. -/
structure Pattern.Written (height : Nat) (pattern : Pattern) (text : String)
    (tokens : List Token) : Prop where
  prints : pattern.print Level.test = .ok text
  spells : Spells text tokens
  nests : Nests height tokens
  opens : ∃ first others, tokens = first :: others ∧ first ≠ .symbol "*"
  whole : pattern.isStar = false
  reads : ∀ depth patternDepth, height ≤ patternDepth → ∀ mark ∈ patternMarks, ∀ rest,
    patternOfDepth (Grammar.ofDepth depth) (patternDepth + 1) (tokens ++ .symbol mark :: rest) =
      some (pattern, .symbol mark :: rest)

/-- A text and its tokens stand for an item of a mapping. -/
inductive MappingItem.Written (height : Nat) : MappingItem → String → List Token → Prop
  | pair {pattern : Pattern} {text : String} {tokens : List Token} (key : String)
    (written : pattern.Written height text tokens) :
    Written height (.pair (.constant (.text key false)) pattern) (quote key ++ ": " ++ text)
      (quotedToken key :: .symbol ":" :: tokens)
  | rest {label : String} (isName : IsName label) (other : label ≠ "_") :
    Written height (.rest label) ("**" ++ label) [.symbol "**", .name label true]

/-! ### Closed patterns -/

theorem mem_patternMarks : mark ∈ patternMarks ↔ mark = "," ∨ mark = "\x7d" ∨ mark = ":" := by
  simp [patternMarks]

/-- Neither alternatives nor a name for the whole go on with such a symbol. -/
theorem patternOfDepth_of_closed (member : mark ∈ patternMarks)
    (read : closedPattern (Grammar.ofDepth depth)
      (patternOfDepth (Grammar.ofDepth depth) patternDepth) tokens =
        some (pattern, .symbol mark :: rest)) :
    patternOfDepth (Grammar.ofDepth depth) (patternDepth + 1) tokens =
      some (pattern, .symbol mark :: rest) := by
  have noOther : mark ≠ "|" := by
    rintro rfl
    simp [patternMarks] at member
  rw [patternOfDepth, Syntax.pattern, bind_of_eq read,
    bind_of_eq (repeatedly_of_repeats (.stop ?_))]
  · rw [bind_of_eq (word?_of_head?_ne (by simp))]
    rfl
  · rw [bind_of_eq (symbol?_of_head?_ne (by simpa using noOther))]
    rfl

theorem namedPattern_of_mem {inner : Reader Pattern} (other : label ≠ "_")
    (member : mark ∈ patternMarks) :
    namedPattern inner label (.symbol mark :: rest) =
      some (.capture none (some label), .symbol mark :: rest) := by
  rw [namedPattern, if_neg other]
  rcases mem_patternMarks.mp member with rfl | rfl | rfl <;> rfl

namespace Pattern.Written

theorem mono (written : pattern.Written height shown tokens) {height' : Nat}
    (le : height ≤ height') : pattern.Written height' shown tokens :=
  { written with
    nests := written.nests.mono le
    reads := fun depth patternDepth room => written.reads depth patternDepth (le.trans room) }

/-- A name that binds what it stands for. -/
theorem capture (isName : IsName label) (other : label ≠ "_") :
    (Pattern.capture none (some label)).Written height label [.name label true] where
  prints := by rw [Pattern.print]; rfl
  spells := .name isName
  nests := .single fun _ => rfl
  opens := ⟨_, _, rfl, by simp⟩
  whole := rfl
  reads _ _ _ _ member _ := patternOfDepth_of_closed member (namedPattern_of_mem other member)

/-- The pattern that everything matches. -/
theorem wildcard : (Pattern.capture none none).Written height "_" [.name "_" true] where
  prints := by rw [Pattern.print]; rfl
  spells := .name (.ascii (by decide))
  nests := .single fun _ => rfl
  opens := ⟨_, _, rfl, by simp⟩
  whole := rfl
  reads _ _ _ _ member _ := patternOfDepth_of_closed member rfl

end Pattern.Written

/-! ### Items of a mapping -/

namespace MappingItem.Written

theorem spells (written : item.Written height shown tokens) : Spells shown tokens := by
  cases written with
  | pair key written =>
    intro rest lexemes ends lexed
    have behind := (written.spells rest lexemes ends lexed).blank
    have colon := Lexes.colon (by simp) behind
    simpa using Lexes.quoted key rfl colon
  | rest isName _ =>
    intro rest lexemes ends lexed
    have named := Lexes.name isName ends lexed
    simpa using named.stars (isName.startsWord.head?_ne rest)

theorem nests (written : item.Written height shown tokens) : Nests height tokens := by
  cases written with
  | pair key written => exact .cons (fun _ => rfl) (.cons (fun _ => rfl) written.nests)
  | rest isName _ => exact .cons (fun _ => rfl) (.single fun _ => rfl)

theorem opens (written : item.Written height shown tokens) :
    ∃ first others, tokens = first :: others ∧ first ≠ .symbol "\x7d" := by
  cases written with
  -- A key is a literal and a rest opens with stars, so no item is taken for the end.
  | pair key written => exact ⟨_, _, rfl, by simp [quotedToken]⟩
  | rest isName _ => exact ⟨_, _, rfl, by simp⟩

theorem ne_nil (written : item.Written height shown tokens) : tokens ≠ [] := by
  cases written <;> simp

theorem reads (written : item.Written height shown tokens) (room : height ≤ patternDepth)
    (member : mark ∈ patternMarks) :
    mappingItem (Grammar.ofDepth depth)
      (patternOfDepth (Grammar.ofDepth depth) (patternDepth + 1)) (tokens ++ .symbol mark :: rest) =
        some (item, .symbol mark :: rest) := by
  cases written with
  | @pair pattern text behind key written =>
    have atom : atom (Grammar.ofDepth depth)
        (quotedToken key :: .symbol ":" :: (behind ++ .symbol mark :: rest)) =
        some (.constant (.text key false), .symbol ":" :: (behind ++ .symbol mark :: rest)) :=
      Expr.Written.atom_quotedToken key (by simp)
    have value : literalValue? (Grammar.ofDepth depth)
        (quotedToken key :: .symbol ":" :: (behind ++ .symbol mark :: rest)) =
        some (some (.constant (.text key false)),
          .symbol ":" :: (behind ++ .symbol mark :: rest)) := by
      rw [literalValue?, bind_of_eq peek?_cons]
      show (some <$> Syntax.atom (Grammar.ofDepth depth)) _ = _
      rw [run_map, atom]
      rfl
    have read := written.reads depth patternDepth room mark member rest
    have noStars : symbol? "**" (quotedToken key :: .symbol ":" ::
        (behind ++ .symbol mark :: rest)) = some (false, _) :=
      symbol?_of_head?_ne (by simp [quotedToken])
    simp only [List.cons_append]
    rw [mappingItem, ite_of_false noStars, bind_of_eq value]
    dsimp only
    rw [bind_of_eq (run_pure _ _), bind_of_eq symbol_self, bind_of_eq read]
    rfl
  | @rest label isName other =>
    have captured : captureName (.name label true :: .symbol mark :: rest) =
        some (label, .symbol mark :: rest) := by
      rw [captureName, bind_of_eq (name_cons label true)]
      rcases mem_patternMarks.mp member with rfl | rfl | rfl <;>
        simp [other, run_bind, nextIsSymbol, require]
    simp only [List.cons_append, List.nil_append]
    rw [mappingItem, ite_of_true symbol?_self, bind_of_eq captured]
    rfl

end MappingItem.Written

/-! ### Mappings -/

/-- Items in order are the pairs of a mapping with a name for the rest behind them, if any. -/
theorem Pattern.ofMapping?_pairs (earlier pairs : List (Expr × Pattern)) (rest : Option String) :
    Pattern.ofMapping? earlier
      (pairs.map (fun pair => .pair pair.1 pair.2) ++ (rest.map .rest).toList) =
        some (.mapping (earlier.reverse ++ pairs) rest) := by
  induction pairs generalizing earlier with
  -- The pairs read so far are kept in reverse.
  | nil => cases rest <;> simp [Pattern.ofMapping?]
  | cons first others ih =>
    rw [List.map_cons, List.cons_append, Pattern.ofMapping?, ih]
    simp

theorem printPatternItems_cons (key : String) (written : pattern.Written height shown tokens)
    {others : List (Expr × Pattern)} (rest : printPatternItems others = .ok texts) :
    printPatternItems ((.constant (.text key false), pattern) :: others) =
      .ok ((quote key ++ ": " ++ shown) :: texts) := by
  have literal : (Expr.constant (.text key false)).Written 0 (quote key) [quotedToken key] :=
    .text key
  rw [printPatternItems, Expr.text, literal.prints, written.prints, rest]
  rfl

/-- The texts of items are those of the pairs and of the rest. -/
theorem exists_of_ofMapping? (separated : Separated (MappingItem.Written height) items texts tokens)
    {earlier : List (Expr × Pattern)} (made : Pattern.ofMapping? earlier items = some pattern) :
    ∃ pairs rest shown, pattern = .mapping (earlier.reverse ++ pairs) rest ∧
      printPatternItems pairs = .ok shown ∧ texts = shown ++ (rest.map ("**" ++ ·)).toList := by
  have nothing : printPatternItems [] = .ok [] := by rw [printPatternItems]
  induction separated generalizing earlier with
  -- The rest can only stand last: `ofMapping?` refuses items behind it.
  | one written =>
    cases written with
    | pair key written =>
      obtain rfl := Option.some.inj made
      exact ⟨[_], none, _, by simp, printPatternItems_cons key written nothing, rfl⟩
    | rest isName _ =>
      obtain rfl := Option.some.inj made
      exact ⟨[], some _, [], by simp, nothing, rfl⟩
  | more written separated ih =>
    cases written with
    | pair key written =>
      obtain ⟨pairs, rest, shown, rfl, prints, rfl⟩ := ih made
      exact ⟨_ :: pairs, rest, _, by simp, printPatternItems_cons key written prints, rfl⟩
    | rest isName _ => cases separated <;> cases made

theorem mappingRest_of_separated
    (separated : Separated (MappingItem.Written height) items texts tokens)
    (made : Pattern.ofMapping? [] items = some pattern) (room : height ≤ patternDepth) :
    mappingRest (Grammar.ofDepth depth)
      (patternOfDepth (Grammar.ofDepth depth) (patternDepth + 1))
      (tokens ++ .symbol "\x7d" :: rest) = some (pattern, rest) := by
  have marks : ∀ mark ∈ [",", "\x7d"], mark ∈ patternMarks := by decide
  have items : Items (mappingItem (Grammar.ofDepth depth)
      (patternOfDepth (Grammar.ofDepth depth) (patternDepth + 1)))
      (tokens ++ .symbol "\x7d" :: rest) (items.map id) (.symbol "\x7d" :: rest) :=
    separated.items (by decide) fun _ _ _ written => ⟨written.ne_nil,
      fun mark member _ => written.reads room (marks mark member)⟩
  have open' : (tokens ++ .symbol "\x7d" :: rest).head? ≠ some (.symbol "\x7d") := by
    cases separated with
    | one written =>
      obtain ⟨_, _, rfl, other⟩ := written.opens
      simpa using other
    | more written _ =>
      obtain ⟨_, _, rfl, other⟩ := written.opens
      simpa using other
  rw [mappingRest, ite_of_false (symbol?_of_head?_ne open'), bind_of_eq (commaItems_of_items items)]
  dsimp only
  rw [bind_of_eq symbol_self, List.map_id, made]
  rfl

namespace Pattern.Written

/-- A pattern that takes a mapping apart. -/
theorem mapping (separated : Separated (MappingItem.Written height) items texts tokens)
    (made : Pattern.ofMapping? [] items = some pattern) :
    pattern.Written (height + 1) ("\x7b" ++ commas texts ++ "\x7d")
      (.symbol "\x7b" :: tokens ++ [.symbol "\x7d"]) where
  prints := by
    obtain ⟨pairs, rest, shown, rfl, prints, rfl⟩ := exists_of_ofMapping? separated made
    rw [List.reverse_nil, List.nil_append, Pattern.print, prints]
    rfl
  spells _ _ _ :=
    ((separated.spells fun _ _ _ written => written.spells).before (c := '\x7d') rfl).enclosed
      '\x7b' (by decide) (by decide)
  nests := (separated.nests fun _ _ _ written => written.nests).enclosed (fun _ => rfl) fun _ => rfl
  opens := ⟨_, _, rfl, by simp⟩
  whole := by
    obtain ⟨pairs, rest, shown, rfl, -, -⟩ := exists_of_ofMapping? separated made
    rfl
  reads depth patternDepth room mark member rest := by
    obtain ⟨inner, rfl⟩ := Nat.exists_eq_succ_of_ne_zero (Nat.ne_zero_of_lt room)
    refine patternOfDepth_of_closed member ?_
    rw [List.append_assoc]
    exact mappingRest_of_separated separated made (Nat.le_of_succ_le_succ room)

/-- A written pattern is read as that of an arm. -/
theorem topPattern (written : pattern.Written height shown tokens) (room : height ≤ patternDepth) :
    topPattern (Grammar.ofDepth depth) (patternDepth + 1) (tokens ++ .symbol ":" :: rest) =
      some (pattern, .symbol ":" :: rest) := by
  obtain ⟨first, others, rfl, noStar⟩ := written.opens
  have read := written.reads depth patternDepth room ":" (by decide) rest
  have item : sequenceItem (patternOfDepth (Grammar.ofDepth depth) (patternDepth + 1))
      (first :: (others ++ .symbol ":" :: rest)) = some (pattern, .symbol ":" :: rest) := by
    rw [sequenceItem, ite_of_false (symbol?_of_head?_ne (by simpa using noStar))]
    exact read
  rw [List.cons_append, Syntax.topPattern, sequenceOf,
    bind_of_eq (commaItems_singleton item (by simp))]
  dsimp only
  rw [written.whole]
  rfl

end Pattern.Written

end EntryPoint.Syntax
