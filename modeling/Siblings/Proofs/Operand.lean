import Siblings.Proofs.Brackets

/-!
# Operands and casts

The operand at the end of a text reaches as far as its characters do. A cast is put in front of
the operand that a call starts from, and so between whole words.

* `not_isOperandChar_of_splitTrailing`: the operand at the end of a text starts between words.
* `insertCast_cases`: **what a cast does to a line.**
* `infix_insertCast`: a word of operand characters outlasts a cast.
-/

namespace Siblings.Operand

variable {word line accessor cast : Text}

/-! ## The operand at the end of a text -/

theorem splitTrailing_append (text : Text) :
    (splitTrailing text).1 ++ (splitTrailing text).2 = text := by
  rw [splitTrailing, List.splitAt_eq]
  exact List.take_append_drop _ _

/-- What stands in front of the operand at the end of a text does not end in an operand
character. -/
theorem not_isOperandChar_of_splitTrailing {text front : Text} {c : Char}
    (h : (splitTrailing text).1 = front ++ [c]) : isOperandChar c = false := by
  rcases trailing_cases text with ⟨start, operand, -, hsplit, -, hstops⟩ | ⟨hsplit, -⟩
  · obtain rfl : start = front ++ [c] := by rwa [hsplit] at h
    exact (hstops c List.getLast?_concat).2
  · rw [hsplit] at h
    simp at h

/-! ## Casts -/

/-- **The first call of an accessor in a line has a receiver.** -/
def HasReceiver (accessor line : Text) : Prop :=
  ∃ before found, Text.cut? ('.' :: accessor ++ ['(']) line = some (before, found) ∧
    (splitTrailing before).2 ≠ []

/-- **What a cast does to a line:** nothing if the call has no receiver; else it goes in front of
the receiver, which is the operand that ends where the call starts. -/
theorem insertCast_cases (line accessor cast : Text) :
    insertCast line accessor cast = line ∧ ¬ HasReceiver accessor line ∨
      HasReceiver accessor line ∧ ∃ before found,
        before ++ found = line ∧ '.' :: accessor ++ ['('] <+: found ∧
          insertCast line accessor cast =
            (splitTrailing before).1 ++ cast ++ (splitTrailing before).2 ++ found := by
  unfold insertCast HasReceiver
  cases hcut : Text.cut? ('.' :: accessor ++ ['(']) line with
  | none => exact .inl ⟨rfl, by simp⟩
  | some parts =>
    obtain ⟨before, found⟩ := parts
    obtain ⟨hline, hcall⟩ := Text.cut?_eq_some hcut
    dsimp only
    split
    · rename_i hnil
      exact .inl ⟨rfl, by simpa using List.isEmpty_iff.1 hnil⟩
    · rename_i hreceiver
      exact .inr ⟨⟨before, found, rfl, by simpa using hreceiver⟩, before, found, hline, hcall, rfl⟩

/-- **A line takes a cast** exactly if its call has a receiver. -/
theorem insertCast_eq_self_iff (hcast : cast ≠ []) :
    insertCast line accessor cast = line ↔ ¬ HasReceiver accessor line := by
  rcases insertCast_cases line accessor cast with
    ⟨heq, hnot⟩ | ⟨hreceiver, before, found, hline, -, himage⟩
  · simp [heq, hnot]
  · simp only [hreceiver, not_true_eq_false, iff_false]
    intro heq
    -- the parts of the line are all there, with the cast between them
    rw [himage, ← hline] at heq
    have hlength := congrArg List.length heq
    have hbefore := congrArg List.length (splitTrailing_append before)
    have hpos := List.length_pos_iff.2 hcast
    simp only [List.length_append] at hlength hbefore
    omega

theorem length_le_insertCast (line accessor cast : Text) :
    line.length ≤ (insertCast line accessor cast).length := by
  rcases insertCast_cases line accessor cast with ⟨heq, -⟩ | ⟨-, before, found, hline, -, himage⟩
  · rw [heq]
  · have hbefore := congrArg List.length (splitTrailing_append before)
    rw [himage, ← hline]
    simp only [List.length_append] at hbefore ⊢
    omega

/-- **A word of operand characters outlasts a cast,** which goes in front of a whole operand and
so beside the word. -/
theorem infix_insertCast (hword : ∀ c ∈ word, isOperandChar c = true) (h : word <:+: line) :
    word <:+: insertCast line accessor cast := by
  rcases insertCast_cases line accessor cast with ⟨heq, -⟩ | ⟨-, before, found, hline, -, himage⟩
  · rwa [heq]
  rw [← hline, ← splitTrailing_append before, List.append_assoc,
    List.infix_append_iff_ne_nil] at h
  rw [himage]
  rcases h with hin | hin | ⟨front, back, hfront, -, heq, hend, -⟩
  · rw [List.append_assoc, List.append_assoc]
    exact hin.trans (List.prefix_append _ _).isInfix
  · rw [List.append_assoc]
    exact hin.trans (List.suffix_append _ _).isInfix
  · -- a word over the start of the operand would have its character there
    obtain ⟨most, c, rfl⟩ := (List.eq_nil_or_concat' front).resolve_left hfront
    obtain ⟨ahead, hahead⟩ := hend
    rw [← List.append_assoc] at hahead
    have hnot := not_isOperandChar_of_splitTrailing hahead.symm
    have hchar := hword c (heq ▸ by simp)
    simp [hnot] at hchar

end Siblings.Operand
