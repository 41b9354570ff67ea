import Siblings.Proofs.BaseClass

/-!
# The body of a class without its base

The brace that opens the body ends a clause, unless an angle bracket is open in front of it. A bracket
that is closed behind the brace has the brace between the parameters of a type. But a bracket need
not be closed at all: it may stand in a comment, or compare two values. Then the depth stays above
zero up to the end of the text, and the body is taken out with the clause.

* `Enclosed`: a place between an angle bracket and the one that closes it.
* `enclosed_of_angleDepth`: **a bracket that is open at a place, and closed later, encloses it.**
* `IsClause.cases_of_brace`: a clause ends in front of a brace, or it reaches over it.
* `body_after_strip`: **when the body of a class is left as it is, and what is left otherwise.**
-/

namespace Siblings.BaseClass

variable {text name front generics blanks before after part clause rest body : Text} {depth : Nat}

/-! ## Places between brackets -/

/-- **A place between an angle bracket and the one that closes it.** -/
def Enclosed (before after : Text) : Prop :=
  ∃ opened inside closed rest, opened ++ inside = before ∧ closed ++ rest = after ∧
    inside ≠ [] ∧ closed ≠ [] ∧ Group (inside ++ closed)

theorem angleDepth_append (front back : Text) :
    angleDepth (front ++ back) = back.foldl angleStep (angleDepth front) := List.foldl_append

/-- Outside brackets, no bracket is closed later. -/
theorem not_enclosed_of_angleDepth (h : angleDepth before = 0) : ¬ Enclosed before after := by
  rintro ⟨opened, inside, closed, rest, rfl, -, hinside, hclosed, hgroup⟩
  have hopen := hgroup.inside inside closed rfl hinside hclosed
  have hdepth := (angleDepth_spec (opened ++ inside)).1 inside (List.suffix_append _ _)
  omega

/-- Without a closing bracket behind it, a place is not enclosed. -/
theorem not_enclosed_of_notMem (h : '>' ∉ after) : ¬ Enclosed before after := by
  rintro ⟨opened, inside, closed, rest, -, rfl, -, hclosed, hgroup⟩
  have hlast := hgroup.getLast?_eq
  rw [List.getLast?_append_of_ne_nil _ hclosed] at hlast
  exact h (List.mem_append_left _ (List.mem_of_getLast? hlast))

/-- Open brackets are closed where the depth comes down to zero. -/
theorem exists_closes (hpos : 0 < depth) (h : part.foldl angleStep depth = 0) :
    ∃ closed rest, closed ++ rest = part ∧ Closes depth closed := by
  induction part generalizing depth with
  | nil => exact absurd h (Nat.ne_of_gt hpos)
  | cons c part ih =>
    rw [List.foldl_cons] at h
    -- the first character behind which the depth is zero closes the last bracket
    by_cases hzero : angleStep depth c = 0
    · refine ⟨[c], part, rfl, (closes_cons hpos).2 ?_⟩
      rw [hzero]
      exact closes_zero_iff.2 rfl
    · obtain ⟨closed, rest, rfl, hcloses⟩ := ih (Nat.pos_of_ne_zero hzero) h
      exact ⟨c :: closed, rest, rfl, (closes_cons hpos).2 hcloses⟩

/-- The outermost bracket that is open behind a text is closed with all that are open there. -/
theorem exists_opened (h : angleDepth before ≠ 0) :
    ∃ opened inside, opened ++ '<' :: inside = before ∧
      ∀ closed, Closes (angleDepth before) closed → Closes 1 (inside ++ closed) := by
  induction before using List.reverseRecOn with
  | nil => exact absurd rfl h
  | append_singleton before c ih =>
    rw [angleDepth_concat] at h ⊢
    by_cases hzero : angleDepth before = 0
    · -- the bracket is opened here, since the depth is zero in front of it
      rw [hzero] at h ⊢
      obtain rfl : c = '<' := by
        by_contra hne
        simp [angleStep, hne] at h
      exact ⟨before, [], rfl, fun closed hcloses => hcloses⟩
    · obtain ⟨opened, inside, rfl, hinside⟩ := ih hzero
      refine ⟨opened, inside ++ [c], by simp, fun closed hcloses => ?_⟩
      rw [List.append_assoc]
      exact hinside (c :: closed) ((closes_cons (Nat.pos_of_ne_zero hzero)).2 hcloses)

/-- **A bracket that is open at a place encloses it,** if the depth comes down to zero later. -/
theorem enclosed_of_angleDepth (hopen : angleDepth before ≠ 0)
    (hclosed : angleDepth (before ++ part) = 0) (rest : Text) : Enclosed before (part ++ rest) := by
  rw [angleDepth_append] at hclosed
  obtain ⟨opened, inside, rfl, hinside⟩ := exists_opened hopen
  obtain ⟨closed, others, rfl, hcloses⟩ := exists_closes (Nat.pos_of_ne_zero hopen) hclosed
  refine ⟨opened, '<' :: inside, closed, others ++ rest, rfl, by rw [List.append_assoc],
    List.cons_ne_nil _ _, ?_, group_iff.2 ⟨inside ++ closed, rfl, hinside closed hcloses⟩⟩
  rintro rfl
  have hzero := hcloses.closed
  simp only [List.count_nil] at hzero
  omega

/-! ## Clauses and braces -/

/-- **A place in front of which a clause ends:** with the word `implements`, or with another
brace. -/
def EndsAhead (before after : Text) : Prop :=
  ∃ front back, front ++ back = before ∧ back ≠ [] ∧
    EndsClause (extendsWord ++ front) (back ++ after)

instance (before after : Text) : Decidable (EndsAhead before after) :=
  decidable_of_iff (∃ n, n < before.length ∧
      EndsClause (extendsWord ++ before.take n) (before.drop n ++ after)) <| by
    constructor
    · rintro ⟨n, hn, hends⟩
      refine ⟨before.take n, before.drop n, List.take_append_drop n before, fun hnil => ?_, hends⟩
      exact absurd hn (Nat.not_lt.2 (List.drop_eq_nil_iff.1 hnil))
    · rintro ⟨front, back, rfl, hback, hends⟩
      have hpos := List.length_pos_iff.2 hback
      refine ⟨front.length, by rw [List.length_append]; omega, ?_⟩
      rwa [List.take_left, List.drop_left]

/-- The word in front of a clause has no brackets. -/
theorem angleDepth_extends (text : Text) : angleDepth (extendsWord ++ text) = angleDepth text := by
  rw [angleDepth_append]
  rfl

/-- **A clause ends in front of a brace or reaches over it.** It ends there if no bracket is open at
the brace, or if the clause ends ahead of it. -/
theorem IsClause.cases_of_brace (h : IsClause clause rest)
    (heq : clause ++ rest = before ++ '{' :: body) :
    (∃ kept, clause ++ kept = before ∧ rest = kept ++ '{' :: body ∧
        (angleDepth before = 0 ∨ EndsAhead before ('{' :: body))) ∨
      ∃ part, part ≠ [] ∧ clause = before ++ part ∧ '{' :: body = part ++ rest ∧
        angleDepth before ≠ 0 ∧ ¬ EndsAhead before ('{' :: body) := by
  have hkept : ∀ kept, clause ++ kept = before → rest = kept ++ '{' :: body →
      angleDepth before = 0 ∨ EndsAhead before ('{' :: body) := by
    rintro kept rfl rfl
    have hends := h.ends.resolve_left (by simp)
    cases kept with
    | nil =>
      have hdepth := hends.1
      rw [angleDepth_extends] at hdepth
      rw [List.append_nil]
      exact .inl hdepth
    | cons c kept => exact .inr ⟨clause, c :: kept, rfl, List.cons_ne_nil c kept, hends⟩
  rcases List.append_eq_append_iff.1 heq with ⟨kept, hbefore, hrest⟩ | ⟨part, hclause, hbody⟩
  · exact .inl ⟨kept, hbefore.symm, hrest, hkept kept hbefore.symm hrest⟩
  · by_cases hnil : part = []
    · rw [hnil, List.append_nil] at hclause
      rw [hnil, List.nil_append] at hbody
      have hbefore : clause ++ [] = before := by rw [List.append_nil, hclause]
      exact .inl ⟨[], hbefore, hbody.symm, hkept [] hbefore hbody.symm⟩
    · refine .inr ⟨part, hnil, hclause, hbody, fun hdepth => ?_, ?_⟩
      · refine h.first before part hclause.symm hnil ⟨?_, .inl ?_⟩
        · rwa [angleDepth_extends]
        · rw [← hbody]
          rfl
      · rintro ⟨front, back, rfl, hback, hends⟩
        refine h.first front (back ++ part) ?_ (List.append_ne_nil_of_left_ne_nil hback part) ?_
        · rw [← List.append_assoc, hclause]
        · rwa [List.append_assoc, ← hbody]

/-- **A text with a base behind what is found in it.** -/
structure Found (text name front generics blanks after : Text) : Prop where
  found : afterDeclaration? name text =
    some (front, generics ++ (blanks ++ (extendsWord ++ after)))
  based : Based generics blanks after

namespace Found

theorem split (h : Found text name front generics blanks after) :
    text = front ++ generics ++ blanks ++ extendsWord ++ after := by
  rw [(declares_of_afterDeclaration? h.found).1]
  simp only [List.append_assoc]

theorem exists_clause (h : Found text name front generics blanks after) :
    ∃ clause rest, clause ++ rest = after ∧ IsClause clause rest ∧
      strip text name = front ++ generics ++ [' '] ++ rest := by
  obtain ⟨clause, rest, rfl, hclause, hstrip⟩ := strip_of_base h.based h.found
  exact ⟨clause, rest, rfl, hclause, by simp only [hstrip, List.append_assoc, List.singleton_append]⟩

end Found

/-- **A text is changed** exactly if a base stands behind what is found in it. -/
theorem strip_ne_iff : strip text name ≠ text ↔
    ∃ front generics blanks after, Found text name front generics blanks after := by
  constructor
  · intro hchanged
    rcases strip_cases text name with ⟨hsame, -⟩ | ⟨front, generics, blanks, clause, rest, hcut,
      hfound, -⟩
    · exact absurd hsame hchanged
    · exact ⟨front, generics, blanks, clause ++ rest, hfound, hcut.based⟩
  · rintro ⟨front, generics, blanks, after, hfound⟩ hsame
    obtain ⟨clause, rest, rfl, -, hstrip⟩ := hfound.exists_clause
    -- the word that is taken out is longer than the space in its place
    have hlength := congrArg List.length ((hstrip.symm.trans hsame).trans hfound.split)
    have hword : extendsWord.length = 7 := rfl
    simp only [List.length_append, List.length_singleton, hword] at hlength
    omega

/-- **The body of a class without its base.** A text is changed exactly if a base stands behind what
is found in it. Then everything from a brace on is left as it is, behind the space and perhaps an
`implements` in front of the brace, if no angle bracket is open at the brace or the clause ends ahead
of it; else it is not. Where a bracket is open and none that encloses the brace is closed later, the
result ends with the space: nothing of the body is left. -/
theorem body_after_strip (text name : Text) :
    (strip text name ≠ text ↔
        ∃ front generics blanks after, Found text name front generics blanks after) ∧
      ∀ front generics blanks before body,
        Found text name front generics blanks (before ++ '{' :: body) →
          text = front ++ generics ++ blanks ++ extendsWord ++ before ++ '{' :: body ∧
          ((∃ kept, kept <:+ before ∧
              strip text name = front ++ generics ++ [' '] ++ kept ++ '{' :: body) ↔
            angleDepth before = 0 ∨ EndsAhead before ('{' :: body)) ∧
          (angleDepth before = 0 → ¬ Enclosed before ('{' :: body)) ∧
          (¬ Enclosed before ('{' :: body) → angleDepth before ≠ 0 →
            ¬ EndsAhead before ('{' :: body) → strip text name = front ++ generics ++ [' ']) := by
  refine ⟨strip_ne_iff, fun front generics blanks before body hfound => ?_⟩
  have hsplit := hfound.split
  rw [← List.append_assoc] at hsplit
  obtain ⟨clause, rest, heq, hclause, hstrip⟩ := hfound.exists_clause
  refine ⟨hsplit, ?_, not_enclosed_of_angleDepth, ?_⟩
  · rcases hclause.cases_of_brace heq with
      ⟨kept, hbefore, rfl, hcause⟩ | ⟨part, hpart, -, hbody, hdepth, hahead⟩
    · refine iff_of_true ⟨kept, ⟨clause, hbefore⟩, ?_⟩ hcause
      rw [hstrip, ← List.append_assoc]
    · refine iff_of_false ?_ (not_or.2 ⟨hdepth, hahead⟩)
      rintro ⟨kept, -, hkept⟩
      -- the rest is too short to hold the brace
      rw [hstrip, List.append_assoc _ kept] at hkept
      have hlength := congrArg List.length (List.append_cancel_left hkept)
      have hlength_body := congrArg List.length hbody
      have hpos := List.length_pos_iff.2 hpart
      rw [List.length_append] at hlength hlength_body
      omega
  · intro henclosed hdepth hahead
    rcases hclause.cases_of_brace heq with
      ⟨kept, -, -, hcause⟩ | ⟨part, -, hreach, hbody, -, -⟩
    · exact absurd hcause (not_or.2 ⟨hdepth, hahead⟩)
    · rcases hclause.ends with rfl | hends
      · rw [hstrip, List.append_nil]
      · have hzero := hends.1
        rw [angleDepth_extends, hreach] at hzero
        exact absurd (hbody ▸ enclosed_of_angleDepth hdepth hzero rest) henclosed

/-- A declaration with a comparison in a comment behind the base. -/
def comparedInComment : Text :=
  "class Foo extends Base /* keys < 10 */ \x7b\n\tint size;\n\x7d\n".toList

theorem body_after_strip_compared :
    Found comparedInComment "Foo".toList "class Foo".toList [] [' ']
        (" Base /* keys < 10 */ ".toList ++ '{' :: "\n\tint size;\n\x7d\n".toList) ∧
      ¬ Enclosed " Base /* keys < 10 */ ".toList ('{' :: "\n\tint size;\n\x7d\n".toList) ∧
      strip comparedInComment "Foo".toList = "class Foo ".toList := by
  have hfound : Found comparedInComment "Foo".toList "class Foo".toList [] [' ']
      (" Base /* keys < 10 */ ".toList ++ '{' :: "\n\tint size;\n\x7d\n".toList) :=
    ⟨by decide, .inl rfl, by decide, ' ', rfl, by decide⟩
  have hclosed : ¬ Enclosed " Base /* keys < 10 */ ".toList
      ('{' :: "\n\tint size;\n\x7d\n".toList) := not_enclosed_of_notMem (by decide)
  have hahead : ¬ EndsAhead " Base /* keys < 10 */ ".toList
      ('{' :: "\n\tint size;\n\x7d\n".toList) := by decide
  exact ⟨hfound, hclosed, ((body_after_strip _ _).2 _ _ _ _ _ hfound).2.2.2 hclosed (by decide)
    hahead⟩

end Siblings.BaseClass
