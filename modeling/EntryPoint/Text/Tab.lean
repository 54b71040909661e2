/-
# Tabs

Tabs stand for the spaces up to the next column that is a multiple of a width.
What counts as one column, a character or a cell of a terminal, is left open.

## Main definitions

* `expandTabs` - a text with spaces for its tabs.
* `cellCount` - the cells that a character takes up on a terminal.
-/

import EntryPoint.Text.CellTable

namespace EntryPoint.Text

/-- The text from a column on with spaces for its tabs. -/
def expandTabsFrom (columns : Char → Nat) (width : Nat) : Nat → List Char → List Char
  | _, [] => []
  | column, c :: rest =>
    if c = '\t' then
      let count := width - column % width
      List.replicate count ' ' ++ expandTabsFrom columns width (column + count) rest
    else c :: expandTabsFrom columns width (if c = '\n' then 0 else column + columns c) rest

/-- The text with spaces for its tabs, given the columns that characters take up. -/
def expandTabs (columns : Char → Nat) (width : Nat) (text : List Char) : List Char :=
  expandTabsFrom columns width 0 text

/-- The cells that a character takes up on a terminal. -/
def cellCount (c : Char) : Nat :=
  if cellless.contains c.toNat then 0 else if doubleCell.contains c.toNat then 2 else 1

end EntryPoint.Text
