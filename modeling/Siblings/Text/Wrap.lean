import Siblings.Text.Escape

/-!
# Wrapping

A line that is too wide for its room is broken between its words. A word that is too wide itself
fills the line that is open first and goes on in the next ones; the last piece of it leaves its
line open. A line with room for no more than two characters is closed.

* `Text.wrap`: the lines of a text in some room.
-/

namespace Siblings.Text

/-- **A word put behind an open line** that takes `used` columns, cut wherever the next character
does not fit. The answer holds the lines that are full and the one that stays open. Every line
takes one character at least. -/
def spill (room : Nat) : Nat → Text → Text → List Text × Text
  | _, line, [] => ([], line)
  | used, line, c :: word =>
    if !line.isEmpty && room < used + charWidth c then
      let (full, last) := spill room (charWidth c) [c] word
      (line :: full, last)
    else spill room (used + charWidth c) (line ++ [c]) word

/-- The room that a line must have left for a part of a word, beyond the space before it. -/
def leastRoom : Nat := 2

/-- A word put behind an open line, or on the next one. -/
def putWord (room : Nat) (line word : Text) : List Text × Text :=
  let used := width line + 1
  if line.isEmpty then spill room 0 [] word
  else if used + width word ≤ room then ([], line ++ ' ' :: word)
  else if room ≤ used + leastRoom ∨ width word ≤ room then
    let (full, last) := spill room 0 [] word
    (line :: full, last)
  else spill room used (line ++ [' ']) word

/-- Closes an open line that has no room left. -/
def closeFull (room : Nat) (line : Text) : List Text × Text :=
  if room - leastRoom < width line then ([line], []) else ([], line)

/-- Words put behind an open line, one after the other. Between two spaces stands an empty word. -/
def fillLines (room : Nat) : Text → List Text → List Text
  | line, [] => if line.isEmpty then [] else [line]
  | line, word :: words =>
    let (full, last) := putWord room line word
    let (closed, last) := closeFull room last
    full ++ closed ++ fillLines room last words

/-- **The lines of a text in some room.** A text that fits is one line, as it is. -/
def wrap (room : Nat) (text : Text) : List Text :=
  if shownWidth text ≤ room then [text] else fillLines room [] (splitOn ' ' text)

end Siblings.Text
