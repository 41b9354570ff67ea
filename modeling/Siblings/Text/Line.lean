import Siblings.Text.Basic

/-!
# Lines

A text is cut after each line feed, so that its lines keep their terminators and give the text
back when they are joined.

* `Text.flatten_lines`: the lines of a text join to the text.
-/

namespace Siblings.Text

/-- **The lines of a text,** each with its terminator. Only the last one may lack it. -/
def lines : Text → List Text
  | [] => []
  | c :: rest =>
    if c = '\n' then [c] :: lines rest
    else match lines rest with
      | [] => [[c]]
      | line :: more => (c :: line) :: more

/-- **The lines of a text join to the text.** -/
theorem flatten_lines (text : Text) : (lines text).flatten = text := by
  induction text with
  | nil => rfl
  | cons c rest ih =>
    rw [lines]
    split
    · simp [ih]
    · cases h : lines rest with
      | nil => rw [h] at ih; simp at ih; simp [← ih]
      | cons line more => rw [h] at ih; simp at ih; simp [← ih]

/-- A line without its terminator: a line feed, and one carriage return before it. -/
def bareLine (line : Text) : Text :=
  match line.reverse with
  | '\n' :: '\r' :: rest => rest.reverse
  | '\n' :: rest => rest.reverse
  | _ => line

/-- The lines of a text, each changed, joined again. -/
def mapLines (f : Text → Text) (text : Text) : Text := ((lines text).map f).flatten

end Siblings.Text
