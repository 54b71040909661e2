/-
# Characters by name

The names of ideographs and of Hangul syllables follow a rule and are upper case:
an ideograph is named for its code point, a syllable for its sounds. All other
names stand in tables and may be written in either case.

A table holds runs of consecutive characters between bars. A run opens with the
code point of its first character. In front of each name stands a small letter
that counts the segments which the name shares with the one before it, `a` for
none; only the other segments are written. Lines may break between names.

## Main definitions

* `runNames` - the names of a run.
* `tabledNames` - the code points of the names in the tables.
* `ideographOfName?`, `syllableOfName?` - the code points named by rule.
* `characterOfName?` - the character of a name.
-/

import EntryPoint.Text.NameTable.Ancient
import EntryPoint.Text.NameTable.EastAsia
import EntryPoint.Text.NameTable.Further
import EntryPoint.Text.NameTable.Pictographs
import EntryPoint.Text.NameTable.Scripts
import EntryPoint.Text.NameTable.Symbols
import EntryPoint.Text.Ranges
import Std.Data.HashMap

namespace EntryPoint.Text

/-! ### Names in tables -/

/-- The segments of a name; a blank or a hyphen closes the segment that it stands behind. -/
def nameSegments (name : List Char) : List (List Char) :=
  name.foldr (fun c segments =>
    match segments with
    | [] => [[c]]
    | first :: rest =>
      if c = ' ' ∨ c = '-' then [c] :: first :: rest else (c :: first) :: rest) []

/-- The opening of a run, and for each of its names the count of shared segments and the text of
the others. -/
def runEntries (run : List Char) : List Char × List (Nat × List Char) :=
  run.foldr (fun c (text, entries) =>
    if c.isLower then ([], (c.toNat - 'a'.toNat, text) :: entries) else (c :: text, entries))
    ([], [])

/-- The names of entries, given the segments of the name before them. -/
def entryNames : List (List Char) → List (Nat × List Char) → List String
  | _, [] => []
  | segments, (shared, text) :: entries =>
    let segments := segments.take shared ++ nameSegments text
    String.ofList segments.flatten :: entryNames segments entries

/-- The first code point of a run, and the names of its characters in order. -/
def runNames (run : List Char) : Nat × List String :=
  let (opening, entries) := runEntries run
  (ofDigits 16 opening, entryNames [] entries)

/-- The runs of a table, without the breaks and the indentation of its lines. -/
def tableRuns (table : String) : List String :=
  let lines := (table.splitOn "\n").map fun line =>
    String.ofList (line.toList.dropWhile (· = ' '))
  (String.join lines).splitOn "|"

/-- The code points of the names in the tables. -/
def tabledNames : Std.HashMap String Nat :=
  let tables := [scriptNames, symbolNames, eastAsianNames, ancientNames, pictographNames,
    furtherNames]
  (tables.flatMap tableRuns).foldl (fun codePoints run =>
    let (first, names) := runNames run.toList
    (names.zipIdx first).foldl (fun codePoints (name, codePoint) =>
      codePoints.insert name codePoint) codePoints) {}

/-! ### Names by rule -/

/-- What follows an opening text. -/
def afterOpening? (opening : String) (text : List Char) : Option (List Char) :=
  if opening.toList.isPrefixOf text then some (text.drop opening.length) else none

/-- The ideographs that are named for their code points. -/
def ideographs : Ranges :=
  Ranges.ofText
    "3400-4dbf 4e00-9fff 20000-2a6df 2a700-2b738 2b740-2b81d 2b820-2cea1 2ceb0-2ebe0 30000-3134a"

/-- The ideograph of a name. Four or five digits give its code point. -/
def ideographOfName? (name : List Char) : Option Nat := do
  let digits ← afterOpening? "CJK UNIFIED IDEOGRAPH-" name
  let codePoint := ofDigits 16 digits
  if (digits.length = 4 ∨ digits.length = 5) ∧
      digits.all (fun c => isDigitOf 16 c && !c.isLower) ∧ ideographs.contains codePoint then
    some codePoint
  else none

/-- The sounds that open a Hangul syllable, in the order that numbers the syllables. -/
def leadSounds : List String :=
  ["G", "GG", "N", "D", "DD", "R", "M", "B", "BB", "S", "SS", "", "J", "JJ", "C", "K", "T", "P",
    "H"]

/-- The vowels of a Hangul syllable. -/
def vowelSounds : List String :=
  ["A", "AE", "YA", "YAE", "EO", "E", "YEO", "YE", "O", "WA", "WAE", "OE", "YO", "U", "WEO", "WE",
    "WI", "YU", "EU", "YI", "I"]

/-- The sounds that close a Hangul syllable. -/
def trailSounds : List String :=
  ["", "G", "GG", "GS", "N", "NJ", "NH", "D", "L", "LG", "LM", "LB", "LS", "LT", "LP", "LH", "M",
    "B", "BS", "S", "SS", "NG", "J", "C", "K", "T", "P", "H"]

/-- The number of the longest sound at the front of a text, and what follows it. -/
def longestSound? (sounds : List String) (text : List Char) : Option (Nat × List Char) :=
  let fitting := sounds.zipIdx.filter (·.1.toList.isPrefixOf text)
  let longest := fitting.foldl (fun best (sound, _) => max best sound.length) 0
  (fitting.find? (·.1.length = longest)).map fun (_, index) => (index, text.drop longest)

/-- The Hangul syllable of a name. -/
def syllableOfName? (name : List Char) : Option Nat := do
  let sounds ← afterOpening? "HANGUL SYLLABLE " name
  let (lead, sounds) ← longestSound? leadSounds sounds
  let (vowel, sounds) ← longestSound? vowelSounds sounds
  let (trail, sounds) ← longestSound? trailSounds sounds
  if sounds.isEmpty then some (0xac00 + (lead * 21 + vowel) * 28 + trail) else none

/-! ### All names -/

/-- The character of a name. -/
def characterOfName? (name : String) : Option Char :=
  let byRule := (ideographOfName? name.toList).or (syllableOfName? name.toList)
  (byRule.or tabledNames[name.map Char.toUpper]?).map Char.ofNat

end EntryPoint.Text
