import Siblings.Proofs.Operand

/-!
# Inequalities

An inequality of a line is rewritten with the operands beside its sign. The search for the sign reads
all of the line, and the scan of the operand behind it does not stop for a comment. So what stands
behind the code, which is a comment or a terminator, stays as it is only if the sign stands in the
code and the operand behind it has closed its brackets where the code ends.

* `cutRemark`: a line cut behind its code.
* `valueEquality_of_isFirst`: what becomes of a line, in terms of its first sign.
* `LeavesCode`: an inequality that does not stay in the code.
* `isClosing_of_suffix`: why a remark that is rewritten is not found behind the result again.
* `remark_of_valueEquality`: **what becomes of the remark of a line.**
-/

namespace Siblings.Operand

variable {line before behind front back right part : Text}

/-! ## Code and remark -/

/-- **A line cut behind its code:** in front of its comment, which starts with the first pair of
slashes, or in front of its terminator if it has no comment. -/
def cutRemark (line : Text) : Text × Text :=
  (Text.cut? "//".toList line).getD (Text.bareLine line, Text.terminator line)

/-- The code of a line. -/
def code (line : Text) : Text := (cutRemark line).1

/-- What stands behind the code of a line: the comment with the terminator, or the terminator. -/
def remark (line : Text) : Text := (cutRemark line).2

theorem code_append_remark (line : Text) : code line ++ remark line = line := by
  unfold code remark cutRemark
  cases hcut : Text.cut? "//".toList line with
  | none => exact Text.bareLine_append_terminator line
  | some parts => exact (Text.cut?_eq_some hcut).1

/-- A remark starts with a slash or is a line break. -/
theorem head?_remark {c : Char} (h : (remark line).head? = some c) :
    c = '/' ∨ c = '\r' ∨ c = '\n' := by
  unfold remark cutRemark at h
  cases hcut : Text.cut? "//".toList line with
  | none =>
    rw [hcut, Option.getD_none] at h
    rcases Text.terminator_cases line with ⟨-, -, -, hend⟩ | ⟨-, -, -, hend⟩ | ⟨-, -, hend⟩
    · obtain rfl : '\r' = c := by simpa [hend] using h
      decide
    · obtain rfl : '\n' = c := by simpa [hend] using h
      decide
    · simp [hend] at h
  | some parts =>
    obtain ⟨tail, htail⟩ := (Text.cut?_eq_some hcut).2
    rw [hcut, Option.getD_some, ← htail] at h
    obtain rfl : '/' = c := by simpa using h
    decide

/-- No operand goes on into a remark outside brackets. -/
theorem stops_remark {c : Char} (h : (remark line).head? = some c) : Stops 0 c := by
  rcases head?_remark h with rfl | rfl | rfl <;> decide

/-- A sign stands in the code or in the remark. -/
theorem sign_in_code_or_remark (h : before ++ (unequalSign ++ behind) = line) :
    (∃ after, code line = before ++ (unequalSign ++ after) ∧ behind = after ++ remark line) ∨
      ∃ ahead, remark line = ahead ++ (unequalSign ++ behind) := by
  rcases List.append_eq_append_iff.1 (h.trans (code_append_remark line).symm) with
    ⟨start, hcode, hsign⟩ | ⟨ahead, -, hremark⟩
  · rcases List.append_eq_append_iff.1 hsign with ⟨after, rfl, hbehind⟩ | ⟨tail, htail, hremark⟩
    · exact .inl ⟨after, hcode, hbehind⟩
    · cases tail with
      | nil =>
        rw [List.append_nil] at htail
        rw [List.nil_append] at hremark
        exact .inl ⟨[], by rw [hcode, htail, List.append_nil], hremark.symm⟩
      | cons c tail =>
        -- the sign holds no character that a remark starts with
        have hhead : (remark line).head? = some c := by rw [hremark]; rfl
        have hnot : c ∉ unequalSign := by
          rcases head?_remark hhead with rfl | rfl | rfl <;> decide
        exact absurd (htail ▸ by simp) hnot
  · exact .inr ⟨ahead, hremark⟩

/-! ## What becomes of a line -/

/-- The two sides of a sign, rewritten. -/
def rewritten (before behind : Text) : Text :=
  (splitTrailing before).1 ++ '!' :: (splitTrailing before).2 ++ ".equals(".toList ++
    behind.take (leading behind) ++ ')' :: behind.drop (leading behind)

/-- **What becomes of a line** is read off its first sign. -/
theorem valueEquality_of_isFirst (h : Text.IsFirst unequalSign line before (unequalSign ++ behind)) :
    valueEquality line =
      if (splitTrailing before).2 = [] ∨ leading behind = 0 then line
      else rewritten before behind := by
  have hempty : behind.take (leading behind) = [] ↔ leading behind = 0 := by
    rw [List.take_eq_nil_iff]
    refine or_iff_left_of_imp fun hnil => ?_
    rw [hnil]
    rfl
  rw [valueEquality, Text.cut?_eq_some_iff.2 h]
  simp only [splitLeading, List.splitAt_eq, List.drop_left, Bool.or_eq_true, List.isEmpty_iff, hempty]
  rfl

theorem valueEquality_of_no_sign (h : ¬ unequalSign <:+: line) : valueEquality line = line := by
  rw [valueEquality, Text.cut?_eq_none_iff.2 h]

/-- **A line stays as it is** if an operand is missing beside its sign. -/
theorem valueEquality_eq_self_iff
    (h : Text.IsFirst unequalSign line before (unequalSign ++ behind)) :
    valueEquality line = line ↔ (splitTrailing before).2 = [] ∨ leading behind = 0 := by
  rw [valueEquality_of_isFirst h]
  constructor
  · intro hsame
    by_contra hoperands
    -- a line that is rewritten grows
    rw [if_neg hoperands, ← h.split, rewritten] at hsame
    have hlength := congrArg List.length hsame
    have hleft := congrArg List.length (splitTrailing_append before)
    have hright := congrArg List.length (List.take_append_drop (leading behind) behind)
    have hsign : unequalSign.length = 4 := rfl
    have hword : ".equals(".toList.length = 8 := rfl
    simp only [List.length_append, List.length_cons, hsign, hword] at hlength hleft hright
    omega
  · exact fun hmissing => if_pos hmissing

/-- A line that is changed has a sign with operands on both sides. -/
theorem exists_of_valueEquality_ne (h : valueEquality line ≠ line) :
    ∃ before behind, Text.IsFirst unequalSign line before (unequalSign ++ behind) ∧
      (splitTrailing before).2 ≠ [] ∧ leading behind ≠ 0 ∧
        valueEquality line = rewritten before behind := by
  have hsign : unequalSign <:+: line := by
    by_contra hnone
    exact h (valueEquality_of_no_sign hnone)
  obtain ⟨before, found, hfirst⟩ := Text.exists_isFirst hsign
  obtain ⟨behind, rfl⟩ := hfirst.starts
  have hoperands := (valueEquality_eq_self_iff hfirst).not.1 h
  exact ⟨before, behind, hfirst, (not_or.1 hoperands).1, (not_or.1 hoperands).2,
    (valueEquality_of_isFirst hfirst).trans (if_neg hoperands)⟩

/-! ## Inequalities that stay in the code -/

/-- **An inequality that does not stay in the code** of its line: its sign stands in the remark, or
the operand behind it is inside a bracket where the code ends. -/
structure LeavesCode (line : Text) : Prop where
  remarked : remark line ≠ []
  changed : valueEquality line ≠ line
  leaves : ¬ unequalSign <:+: code line ∨
    ∃ before stretch more, Text.IsFirst unequalSign (code line) before
      (unequalSign ++ (stretch ++ more)) ∧ IsOperand stretch ∧ Unclosed more

/-- **An inequality that stays in the code** is rewritten there, in front of the same remark. -/
theorem valueEquality_of_not_leavesCode (h : ¬ LeavesCode line) :
    valueEquality line = valueEquality (code line) ++ remark line := by
  have hline := code_append_remark line
  by_cases hremark : remark line = []
  · rw [hremark, List.append_nil] at hline ⊢
    rw [hline]
  by_cases hsign : unequalSign <:+: code line
  · obtain ⟨before, found, hcode⟩ := Text.exists_isFirst hsign
    obtain ⟨behind, rfl⟩ := hcode.starts
    have hfirst := hcode.append (remark line)
    rw [hline, List.append_assoc] at hfirst
    rw [valueEquality_of_isFirst hcode, valueEquality_of_isFirst hfirst]
    by_cases hopen : ∃ stretch more, stretch ++ more = behind ∧ IsOperand stretch ∧ Unclosed more
    · -- a bracket that stays open is not rewritten in a line that stays in its code
      obtain ⟨stretch, more, rfl, hstretch, hmore⟩ := hopen
      have hsame : valueEquality line = line := by
        by_contra hchanged
        exact h ⟨hremark, hchanged, .inr ⟨before, stretch, more, hcode, hstretch, hmore⟩⟩
      have hlong := length_lt_leading_append hstretch hmore hremark
      have hleft : (splitTrailing before).2 = [] :=
        ((valueEquality_eq_self_iff hfirst).1 hsame).resolve_right (by omega)
      rw [if_pos (.inl hleft), if_pos (.inl hleft), hline]
    · have hlength : leading (behind ++ remark line) = leading behind :=
        leading_append_of_closed (fun c => stops_remark) hopen
      have hle := leading_le behind
      rw [hlength]
      split
      · exact hline.symm
      · rw [rewritten, rewritten, hlength, List.take_append_of_le_length hle,
          List.drop_append_of_le_length hle]
        simp
  · have hsame : valueEquality line = line := by
      by_contra hchanged
      exact h ⟨hremark, hchanged, .inl hsign⟩
    rw [hsame, valueEquality_of_no_sign hsign, hline]

/-- A part of an operand that stands behind the operand and a closing bracket starts with a closing
bracket itself. -/
theorem isClosing_of_suffix {c : Char} (hpart : c :: part <:+ right)
    (h : c :: part <:+ front ++ (right ++ [')'])) : isClosing c = true := by
  have hle := hpart.length_le
  have hend : c :: part <:+ right ++ [')'] :=
    List.suffix_of_suffix_length_le h (List.suffix_append _ _) (by rw [List.length_append]; omega)
  -- without its last character and without its first it is the same end of the operand
  rcases List.suffix_concat_iff.1 hend with hnil | ⟨most, hmost, hsuffix⟩
  · simp at hnil
  · have htail : part <:+ right := (List.suffix_cons c part).trans hpart
    have hlength := congrArg List.length hmost
    rw [List.length_append, List.length_cons] at hlength
    obtain rfl : part = most :=
      (List.suffix_of_suffix_length_le htail hsuffix (by simp at hlength; omega)).eq_of_length
        (by simpa using hlength)
    have hcount := congrArg closes hmost
    rw [closes_append, closes_cons, closes_cons] at hcount
    by_contra hnot
    have hparen : isClosing ')' = true := by decide
    simp [hnot, hparen] at hcount

/-- A part of the right operand that the remark holds, with what follows it, starts with a closing
bracket if the remark stands behind the result. -/
theorem isClosing_of_remark_suffix {c : Char} (hpart : c :: part <:+ behind.take (leading behind))
    (hremark : c :: part ++ behind.drop (leading behind) <:+ remark line)
    (h : remark line <:+ rewritten before behind) : isClosing c = true := by
  have hend := hremark.trans h
  rw [rewritten, List.append_cons _ ')', List.append_assoc _ _ [')'],
    List.suffix_append_self_iff] at hend
  exact isClosing_of_suffix hpart hend

/-- A right operand that reaches over the end of the code changes the remark. -/
theorem not_suffix_of_unclosed {stretch more : Text} (hremarked : remark line ≠ [])
    (hstretch : IsOperand stretch) (hmore : Unclosed more) :
    ¬ remark line <:+ rewritten before (stretch ++ more ++ remark line) := by
  intro hsuffix
  obtain ⟨c, rest, hrest⟩ := List.exists_cons_of_ne_nil hremarked
  obtain ⟨most, hmost⟩ :=
    Nat.exists_eq_add_of_lt (length_lt_leading_append hstretch hmore hremarked)
  have htake : (stretch ++ more ++ remark line).take (leading (stretch ++ more ++ remark line)) =
      stretch ++ more ++ c :: rest.take most := by
    rw [hmost, Nat.add_assoc, List.take_length_add_append, hrest, List.take_succ_cons]
  have hdrop : (stretch ++ more ++ remark line).drop (leading (stretch ++ more ++ remark line)) =
      rest.drop most := by
    rw [hmost, Nat.add_assoc, List.drop_length_add_append, hrest, List.drop_succ_cons]
  have hpart : c :: rest.take most <:+
      (stretch ++ more ++ remark line).take (leading (stretch ++ more ++ remark line)) := by
    rw [htake]
    exact List.suffix_append _ _
  have hclosing : isClosing c = true := by
    refine isClosing_of_remark_suffix hpart ?_ hsuffix
    rw [hdrop, List.cons_append, List.take_append_drop, hrest]
  have hhead : (remark line).head? = some c := by
    rw [hrest]
    rfl
  have hnot : isClosing c = false := by
    rcases head?_remark hhead with rfl | rfl | rfl <;> decide
  simp [hnot] at hclosing

/-- A sign that stands in the remark changes the remark. -/
theorem not_suffix_of_remarked {ahead : Text} (hright : leading behind ≠ 0)
    (hremark : remark line = ahead ++ (unequalSign ++ behind)) :
    ¬ remark line <:+ rewritten before behind := by
  intro hsuffix
  cases behind with
  | nil => exact hright rfl
  | cons c behind =>
    have hgoes : ¬ Stops 0 c := fun hstops =>
      hright ((leadingFrom_cons 0 c behind).trans (if_pos hstops))
    have hlength : leading (c :: behind) = leadingFrom (bracketStep 0 c) behind + 1 :=
      (leadingFrom_cons 0 c behind).trans (if_neg hgoes)
    have hpart : c :: behind.take (leadingFrom (bracketStep 0 c) behind) <:+
        (c :: behind).take (leading (c :: behind)) := by
      rw [hlength, List.take_succ_cons]
    refine hgoes (stops_of_isClosing (isClosing_of_remark_suffix hpart ?_ hsuffix))
    rw [hlength, List.drop_succ_cons, List.cons_append, List.take_append_drop, hremark,
      ← List.append_assoc]
    exact List.suffix_append _ _

/-- **An inequality that leaves the code** changes what stands behind the code. -/
theorem not_suffix_of_leavesCode (h : LeavesCode line) :
    ¬ remark line <:+ valueEquality line := by
  obtain ⟨before, behind, hfirst, -, hright, himage⟩ := exists_of_valueEquality_ne h.changed
  rw [himage]
  rcases sign_in_code_or_remark hfirst.split with ⟨after, hcode, rfl⟩ | ⟨ahead, hremark⟩
  · -- the first sign of the line is the first of its code
    have hall : Text.IsFirst unequalSign (code line ++ remark line) before
        (unequalSign ++ after ++ remark line) := by
      rwa [code_append_remark line, List.append_assoc]
    have hfirst_code := hall.of_append hcode.symm (List.prefix_append unequalSign after)
    obtain ⟨front, stretch, more, hother, hstretch, hmore⟩ :=
      h.leaves.resolve_left fun hnot => hnot hfirst_code.isInfix
    obtain rfl : after = stretch ++ more :=
      List.append_cancel_left (hfirst_code.unique hother).2
    exact not_suffix_of_unclosed h.remarked hstretch hmore
  · exact not_suffix_of_remarked hright hremark

/-- **What becomes of the remark of a line.** A line that is changed has a sign with operands on both
sides, and they are rewritten. If the inequality stays in the code, the result is the rewritten code
with the same remark behind it. If it leaves the code, the remark does not stand behind the result
any more. -/
theorem remark_of_valueEquality (line : Text) :
    code line ++ remark line = line ∧
      (valueEquality line ≠ line → ∃ start left right rest, left ≠ [] ∧ right ≠ [] ∧
        Text.IsFirst unequalSign line (start ++ left) (unequalSign ++ (right ++ rest)) ∧
          valueEquality line =
            start ++ '!' :: left ++ ".equals(".toList ++ right ++ ')' :: rest) ∧
      (¬ LeavesCode line → valueEquality line = valueEquality (code line) ++ remark line) ∧
      (LeavesCode line → ¬ remark line <:+ valueEquality line) := by
  refine ⟨code_append_remark line, fun hchanged => ?_, valueEquality_of_not_leavesCode,
    not_suffix_of_leavesCode⟩
  obtain ⟨before, behind, hfirst, hleft, hright, himage⟩ := exists_of_valueEquality_ne hchanged
  refine ⟨(splitTrailing before).1, (splitTrailing before).2, behind.take (leading behind),
    behind.drop (leading behind), hleft, fun hnil => hright ?_, ?_, himage⟩
  · rcases List.take_eq_nil_iff.1 hnil with hzero | rfl
    · exact hzero
    · rfl
  · rwa [splitTrailing_append, List.take_append_drop]

/-- A line whose comment holds an inequality. -/
def commentedInequality : Text := "return v; // a != b\n".toList

/-- A line whose call goes on in the next line, behind a comment. -/
def brokenCall : Text := "if (a != f(x, // both\n".toList

theorem remark_of_valueEquality_spoiled :
    (LeavesCode commentedInequality ∧
      valueEquality commentedInequality = "return v; // !a.equals(b)\n".toList ∧
      ¬ remark commentedInequality <:+ valueEquality commentedInequality) ∧
    LeavesCode brokenCall ∧
      valueEquality brokenCall = "if (!a.equals(f(x, // both\n)".toList ∧
      ¬ remark brokenCall <:+ valueEquality brokenCall := by
  have hcomment : valueEquality commentedInequality = "return v; // !a.equals(b)\n".toList := by
    decide +kernel
  have hcall : valueEquality brokenCall = "if (!a.equals(f(x, // both\n)".toList := by
    decide +kernel
  have hfirst : LeavesCode commentedInequality := by
    refine ⟨by decide, by rw [hcomment]; decide, .inl ?_⟩
    exact Text.includes_eq_false_iff.1 (by decide)
  have hsecond : LeavesCode brokenCall := by
    refine ⟨by decide, by rw [hcall]; decide, .inr ⟨"if (a".toList, "f".toList, "(x, ".toList,
      ?_, by decide +kernel, by decide⟩⟩
    exact Text.cut?_eq_some_iff.1 (by decide)
  exact ⟨⟨hfirst, hcomment, (remark_of_valueEquality _).2.2.2 hfirst⟩, hsecond, hcall,
    (remark_of_valueEquality _).2.2.2 hsecond⟩

end Siblings.Operand
