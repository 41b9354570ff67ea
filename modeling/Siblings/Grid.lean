import Siblings.Text.Wrap

/-!
# Grids

A grid shows a list of things, a row for each, between lines drawn with rounded corners. It takes
as many columns of the terminal as its cells need, up to a limit; beyond it the cells of the wide
columns are wrapped.

* `Grid.widths`: the room of each column.
* `Grid.render`: a grid as a text.
-/

namespace Siblings

/-- Where the text of a cell stands. -/
inductive Alignment where
  | left
  | right
  | centre
  deriving DecidableEq, Repr

namespace Alignment

/-- **A text in a cell of some width.** In the centre, a blank that cannot be halved stands on the
left. -/
def pad (alignment : Alignment) (width : Nat) (text : Text) : Text :=
  let blank := width - Text.shownWidth text
  match alignment with
  | left => text ++ List.replicate blank ' '
  | right => List.replicate blank ' ' ++ text
  | centre =>
    List.replicate (blank - blank / 2) ' ' ++ text ++ List.replicate (blank / 2) ' '

end Alignment

/-- **A column of a grid:** its heading, and what it shows of a thing. -/
structure Column (α : Type) where
  heading : Text
  alignment : Alignment
  cell : α → Text

/-- A column without a width yet, or with one. -/
structure Slot where
  lines : List Text
  width : Option Nat

namespace Slot

/-- The width of the widest line. -/
def need (slot : Slot) : Nat :=
  slot.lines.foldl (fun most line => max most (Text.shownWidth line)) 0

/-- The width of the widest line, once the lines are wrapped. -/
def needWrapped (room : Nat) (slot : Slot) : Nat :=
  (slot.lines.flatMap (Text.wrap room)).foldl (fun most line => max most (Text.shownWidth line)) 0

end Slot

namespace Grid

/-- The columns of the terminal that a grid takes at most. -/
def limit : Nat := 120

/-- The room for the cells of `n` columns: without the lines between them, and without the blank
on both sides of each cell. -/
def roomFor (n : Nat) : Nat := limit - (n + 1) - 2 * n

/-- The width that a slot takes of an even share, if it needs no more than the share. -/
def fitting (share : Nat) (slot : Slot) : Option Nat :=
  if slot.need ≤ share then some slot.need else none

/-- The width that a slot takes of an even share, if it leaves three columns or more once its
lines are wrapped. -/
def fittingWrapped (share : Nat) (slot : Slot) : Option Nat :=
  let need := slot.needWrapped share
  if need + 3 ≤ share then some need else none

/-- **A round of the slots without a width,** from the left. `take` says what a slot takes of the
even share of the room; what it leaves is shared by the others. -/
def round (take : Nat → Slot → Option Nat) : Nat → Nat → List Slot → List Slot
  | _, _, [] => []
  | room, waiting, slot :: slots =>
    match slot.width with
    | some _ => slot :: round take room waiting slots
    | none =>
      match take (room / waiting) slot with
      | some width => ⟨slot.lines, some width⟩ :: round take (room - width) (waiting - 1) slots
      | none => slot :: round take room waiting slots

/-- The room that the slots leave. -/
def roomLeft (room : Nat) (slots : List Slot) : Nat :=
  slots.foldl (fun left slot => left - slot.width.getD 0) room

/-- The number of slots without a width. -/
def waiting (slots : List Slot) : Nat := (slots.filter (·.width.isNone)).length

/-- Some rounds, one after the other. -/
def rounds (take : Nat → Slot → Option Nat) (room : Nat) : Nat → List Slot → List Slot
  | 0, slots => slots
  | n + 1, slots =>
    rounds take room n (round take (roomLeft room slots) (waiting slots) slots)

/-- The widths of the slots, where those without one get `share` each and the first `extra` of
them one more. -/
def sharing (share : Nat) : Nat → List Slot → List Nat
  | _, [] => []
  | extra, slot :: slots =>
    match slot.width with
    | some width => width :: sharing share extra slots
    | none => (if extra = 0 then share else share + 1) :: sharing share (extra - 1) slots

/-- **The width of each column.** A column that needs no more than an even share of the room gets
what it needs; of the others, one that leaves some of its share when it is wrapped gets what it
needs then; the rest is shared evenly. Each round but the last gives a column its width, so there
are enough rounds when there are as many as columns. -/
def widths (columns : List (List Text)) : List Nat :=
  let room := roomFor columns.length
  let slots := columns.map fun lines => ⟨lines, none⟩
  let fitted := rounds fitting room slots.length slots
  let settled := rounds fittingWrapped room slots.length fitted
  let share := roomLeft room settled
  sharing (share / waiting settled) (share % waiting settled) settled

/-- A line across the grid. -/
def rule (start line crossing stop : Char) (widths : List Nat) : Text :=
  start :: Text.join [crossing] (widths.map fun width => List.replicate (width + 2) line) ++ [stop]

/-- The lines of a cell, before they are wrapped. A style does not go beyond its line. -/
def cellLines (cell : Text) : List Text := Text.restyle [] (Text.splitOn '\n' cell)

/-- One line of a row. The column of a cell is its alignment and its width. -/
def rowLine (columns : List (Alignment × Nat)) (cells : List Text) : Text :=
  let padded := columns.zipWith (fun (alignment, width) cell => alignment.pad width cell) cells
  "│ ".toList ++ Text.join " ┆ ".toList padded ++ " │".toList

/-- **The lines of a row,** as many as its tallest cell has. -/
def rowLines (columns : List (Alignment × Nat)) (cells : List Text) : List Text :=
  let wrapped :=
    columns.zipWith (fun (_, width) cell => (cellLines cell).flatMap (Text.wrap width)) cells
  let height := wrapped.foldl (fun most lines => max most lines.length) 0
  (List.range height).map fun i => rowLine columns (wrapped.map fun lines => lines.getD i [])

/-- **A grid as a text:** the headings, a double line, and a row for each thing. -/
def render {α : Type} (columns : List (Column α)) (things : List α) : Text :=
  let headings := columns.map Column.heading
  let rows := things.map fun thing => columns.map fun column => column.cell thing
  let widths := widths <| columns.map fun column =>
    (column.heading :: things.map column.cell).flatMap cellLines
  let layout := (columns.map Column.alignment).zip widths
  Text.join ['\n'] <|
    rule '╭' '─' '┬' '╮' widths :: rowLines layout headings ++
      rule '╞' '═' '╪' '╡' widths :: rows.flatMap (rowLines layout) ++
        [rule '╰' '─' '┴' '╯' widths]

end Grid

end Siblings
