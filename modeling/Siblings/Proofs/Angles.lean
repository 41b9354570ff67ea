import Mathlib.Data.List.Infix
import Siblings.BaseClass
import Siblings.Proofs.Text

/-!
# Angle brackets

Type parameters are a group of angle brackets: it ends with the bracket that closes the one it
starts with. A base clause ends at the first place outside angle brackets where a brace or the word
`implements` stands; there a bracket that closes none is passed over.

* `angleDepth`, `angleDepth_spec`: the depth behind a text, for any brackets.
* `groupFrom_eq_some_iff`: **the scan of a group stops where its depth is zero for the first time.**
* `checkedDepth?_isSome`: the depth in that scan never falls below zero.
* `parameters_append`, `isParameters_take`: the type parameters at the start of a text.
* `EndsClause`, `clauseFrom_spec`: **a clause ends at the first place where it may.**
-/

namespace Siblings.BaseClass

variable {depth n : Nat} {text group before : Text}

/-! ## Depths -/

/-- The depth behind a character. A bracket that closes none does not count. -/
def angleStep (depth : Nat) (c : Char) : Nat :=
  if c = '<' then depth + 1 else if c = '>' then depth - 1 else depth

/-- **The depth of angle brackets behind a text.** -/
def angleDepth (text : Text) : Nat := text.foldl angleStep 0

theorem angleDepth_concat (text : Text) (c : Char) :
    angleDepth (text ++ [c]) = angleStep (angleDepth text) c := by
  rw [angleDepth, List.foldl_append]
  rfl

/-- How a character changes the numbers of opening and closing brackets. -/
theorem count_angles_concat (text : Text) (c : Char) :
    (text ++ [c]).count '<' = text.count '<' + (if c = '<' then 1 else 0) ∧
      (text ++ [c]).count '>' = text.count '>' + (if c = '>' then 1 else 0) := by
  rw [List.count_append, List.count_append, List.count_singleton, List.count_singleton]
  simp only [beq_iff_eq, and_self]

/-- **The depth behind a text** is the greatest number by which opening brackets exceed closing
ones in an end of the text. So it is never below zero, however the brackets stand. -/
theorem angleDepth_spec (text : Text) :
    (∀ tail, tail <:+ text → tail.count '<' ≤ angleDepth text + tail.count '>') ∧
      ∃ tail, tail <:+ text ∧ tail.count '<' = angleDepth text + tail.count '>' := by
  induction text using List.reverseRecOn with
  | nil => exact ⟨fun tail h => by simp [List.suffix_nil.1 h], [], List.suffix_refl [], rfl⟩
  | append_singleton text c ih =>
    obtain ⟨hmax, tail, htail, hcount⟩ := ih
    rw [angleDepth_concat]
    -- a bracket changes the excess of every end by one, except one that closes none
    have hstep : angleStep (angleDepth text) c + (if c = '>' then 1 else 0) =
        angleDepth text + (if c = '<' then 1 else 0) ∨
          c = '>' ∧ angleDepth text = 0 ∧ angleStep (angleDepth text) c = 0 := by
      unfold angleStep
      by_cases hopen : c = '<'
      · subst hopen; simp
      · by_cases hclose : c = '>'
        · subst hclose; simp; omega
        · simp [hopen, hclose]
    constructor
    · intro other hother
      rcases List.suffix_concat_iff.1 hother with rfl | ⟨front, rfl, hfront⟩
      · simp
      · have := hmax front hfront
        obtain ⟨hopens, hcloses⟩ := count_angles_concat front c
        rw [hopens, hcloses]
        rcases hstep with hstep | ⟨rfl, hzero, hstay⟩
        · omega
        · simp at *; omega
    · -- the end with the greatest excess grows, or the empty end takes its place
      rcases hstep with hstep | ⟨rfl, hzero, hstay⟩
      · refine ⟨tail ++ [c], List.suffix_concat_iff.2 (.inr ⟨tail, rfl, htail⟩), ?_⟩
        obtain ⟨hopens, hcloses⟩ := count_angles_concat tail c
        rw [hopens, hcloses]
        omega
      · exact ⟨[], List.nil_suffix, by simp [hstay]⟩

/-! ## Groups -/

/-- A text that closes `depth` brackets with its last character, and not before. -/
structure Closes (depth : Nat) (text : Text) : Prop where
  closed : depth + text.count '<' = text.count '>'
  inside : ∀ front back, front ++ back = text → back ≠ [] →
    front.count '>' < depth + front.count '<'

/-- **A group of angle brackets:** it starts with a bracket, and its depth returns to zero with its
last character, and not before. -/
structure Group (group : Text) : Prop where
  opens : ['<'] <+: group
  closed : group.count '<' = group.count '>'
  inside : ∀ front back, front ++ back = group → front ≠ [] → back ≠ [] →
    front.count '>' < front.count '<'

theorem closes_zero_iff : Closes 0 text ↔ text = [] := by
  constructor
  · intro h
    by_contra hne
    simpa using h.inside [] text rfl hne
  · rintro rfl
    exact ⟨rfl, fun front back h hback => absurd (List.append_eq_nil_iff.1 h).2 hback⟩

/-- The first character of a text that closes brackets. -/
theorem closes_cons {c : Char} (hpos : 0 < depth) :
    Closes depth (c :: text) ↔ Closes (angleStep depth c) text := by
  -- the numbers of brackets behind `depth` and `c` are those behind the depth that `c` leaves
  have hcount : ∀ front : Text,
      (depth + (c :: front).count '<' = (c :: front).count '>' ↔
        angleStep depth c + front.count '<' = front.count '>') ∧
      ((c :: front).count '>' < depth + (c :: front).count '<' ↔
        front.count '>' < angleStep depth c + front.count '<') := by
    intro front
    rw [List.count_cons, List.count_cons]
    unfold angleStep
    by_cases hopen : c = '<'
    · subst hopen; simp; omega
    · by_cases hclose : c = '>'
      · subst hclose; simp; omega
      · simp [hopen, hclose]
  constructor
  · intro h
    refine ⟨(hcount text).1.1 h.closed, fun front back heq hback => ?_⟩
    exact (hcount front).2.1 (h.inside (c :: front) back (by rw [← heq]; rfl) hback)
  · intro h
    refine ⟨(hcount text).1.2 h.closed, fun front back heq hback => ?_⟩
    rcases List.append_eq_cons_iff.1 heq with ⟨rfl, -⟩ | ⟨rest, rfl, rfl⟩
    · simpa using hpos
    · exact (hcount rest).2.2 (h.inside rest back rfl hback)

theorem group_iff : Group group ↔ ∃ rest, group = '<' :: rest ∧ Closes 1 rest := by
  have hcount : ∀ front : Text, ('<' :: front).count '<' = 1 + front.count '<' ∧
      ('<' :: front).count '>' = front.count '>' := by
    intro front
    simp [Nat.add_comm]
  constructor
  · rintro ⟨⟨rest, rfl⟩, hclosed, hinside⟩
    refine ⟨rest, rfl, ?_, fun front back heq hback => ?_⟩
    · obtain ⟨hopens, hcloses⟩ := hcount rest
      rw [← hopens, ← hcloses]
      exact hclosed
    · obtain ⟨hopens, hcloses⟩ := hcount front
      rw [← hopens, ← hcloses]
      exact hinside ('<' :: front) back (by rw [← heq]; rfl) (by simp) hback
  · rintro ⟨rest, rfl, hclosed, hinside⟩
    refine ⟨⟨rest, rfl⟩, ?_, fun front back heq hfront hback => ?_⟩
    · obtain ⟨hopens, hcloses⟩ := hcount rest
      rw [hopens, hcloses, hclosed]
    · rcases List.append_eq_cons_iff.1 heq with ⟨rfl, -⟩ | ⟨tail, rfl, htail⟩
      · exact absurd rfl hfront
      · obtain ⟨hopens, hcloses⟩ := hcount tail
        rw [hopens, hcloses]
        exact hinside tail back htail.symm hback

/-- The scan of a group goes on inside it and stops where its depth is zero. -/
theorem groupFrom_cons {c : Char} {rest : Text} (hpos : 0 < depth) :
    groupFrom depth (c :: rest) =
      if angleStep depth c = 0 then some 1
      else (groupFrom (angleStep depth c) rest).map (· + 1) := by
  unfold angleStep
  by_cases hopen : c = '<'
  · subst hopen
    rw [groupFrom]
    simp
  · by_cases hclose : c = '>'
    · subst hclose
      rw [groupFrom]
      by_cases hone : depth ≤ 1
      · have hdepth : depth - 1 = 0 := by omega
        simp [hone, hdepth]
      · have hdepth : depth - 1 ≠ 0 := by omega
        simp [hone, hdepth]
    · rw [groupFrom]
      · have hdepth : depth ≠ 0 := by omega
        simp [hopen, hclose, hdepth]
      · exact hopen
      · exact hclose

/-- **The scan of a group finds where its depth returns to zero.** -/
theorem groupFrom_eq_some_iff (hpos : 0 < depth) :
    groupFrom depth text = some n ↔
      ∃ group rest, text = group ++ rest ∧ group.length = n ∧ Closes depth group := by
  induction text generalizing depth n with
  | nil =>
    simp only [groupFrom, reduceCtorEq, false_iff]
    rintro ⟨group, rest, heq, -, hcloses⟩
    obtain ⟨rfl, -⟩ := List.append_eq_nil_iff.1 heq.symm
    have hclosed := hcloses.closed
    simp only [List.count_nil] at hclosed
    omega
  | cons c text ih =>
    rw [groupFrom_cons hpos]
    constructor
    · intro h
      split at h
      · rename_i hzero
        refine ⟨[c], text, rfl, Option.some.inj h, ?_⟩
        rw [closes_cons hpos, hzero]
        exact closes_zero_iff.2 rfl
      · rename_i hinside
        obtain ⟨m, hm, rfl⟩ := Option.map_eq_some_iff.1 h
        obtain ⟨group, rest, rfl, rfl, hcloses⟩ := (ih (Nat.pos_of_ne_zero hinside)).1 hm
        exact ⟨c :: group, rest, rfl, rfl, (closes_cons hpos).2 hcloses⟩
    · rintro ⟨group, rest, heq, rfl, hcloses⟩
      rcases List.cons_eq_append_iff.1 heq with ⟨rfl, -⟩ | ⟨tail, rfl, rfl⟩
      · have hclosed := hcloses.closed
        simp only [List.count_nil] at hclosed
        omega
      · rw [closes_cons hpos] at hcloses
        split
        · rename_i hzero
          rw [hzero, closes_zero_iff] at hcloses
          rw [hcloses]
          rfl
        · rename_i hinside
          rw [(ih (Nat.pos_of_ne_zero hinside)).2 ⟨tail, rest, rfl, rfl, hcloses⟩]
          rfl

/-! ## Depths that are checked -/

/-- The depth behind a text where every closing bracket counts, if it never falls below zero. -/
def checkedDepth? (depth : Nat) : Text → Option Nat
  | [] => some depth
  | c :: rest =>
    if c = '>' ∧ depth = 0 then none else checkedDepth? (angleStep depth c) rest

/-- The depth never falls below zero inside some brackets, up to the end of what closes them. -/
theorem checkedDepth?_isSome_of_pos {read : Text} (hpos : 0 < depth) (hread : read <+: text)
    (hend : ∀ n, groupFrom depth text = some n → read.length ≤ n) :
    (checkedDepth? depth read).isSome = true := by
  induction text generalizing depth read with
  | nil =>
    rw [List.prefix_nil.1 hread]
    rfl
  | cons c text ih =>
    rcases List.prefix_cons_iff.1 hread with rfl | ⟨tail, rfl, htail⟩
    · rfl
    · have hcounts : ¬ (c = '>' ∧ depth = 0) := by omega
      rw [checkedDepth?, if_neg hcounts]
      rw [groupFrom_cons hpos] at hend
      split at hend
      · -- the last bracket is closed, and nothing behind it is read
        have hlength := hend 1 rfl
        rw [List.length_cons] at hlength
        have hnil : tail = [] := List.length_eq_zero_iff.1 (by omega)
        rw [hnil]
        rfl
      · rename_i hinside
        refine ih (Nat.pos_of_ne_zero hinside) htail fun m hm => ?_
        have hlength := hend (m + 1) (by rw [hm]; rfl)
        rw [List.length_cons] at hlength
        omega

/-- **The depth never falls below zero** in the scan of type parameters, which reads up to the end
of the group, or all of the text if the group has no end. -/
theorem checkedDepth?_isSome {read : Text} (hopen : ['<'] <+: text) (hread : read <+: text)
    (hend : ∀ n, groupFrom 0 text = some n → read.length ≤ n) :
    (checkedDepth? 0 read).isSome = true := by
  obtain ⟨rest, rfl⟩ := hopen
  rw [List.singleton_append] at hread hend
  rcases List.prefix_cons_iff.1 hread with rfl | ⟨tail, rfl, htail⟩
  · rfl
  · have hstep : checkedDepth? 0 ('<' :: tail) = checkedDepth? 1 tail := rfl
    rw [hstep]
    refine checkedDepth?_isSome_of_pos Nat.one_pos htail fun m hm => ?_
    have hgroup : groupFrom 0 ('<' :: rest) = (groupFrom 1 rest).map (· + 1) := rfl
    have hlength := hend (m + 1) (by rw [hgroup, hm]; rfl)
    rw [List.length_cons] at hlength
    omega

/-! ## Type parameters -/

/-- **Type parameters with the white space in front of them,** or nothing. -/
def IsParameters (text : Text) : Prop :=
  text = [] ∨ ∃ blanks group, text = blanks ++ group ∧ Text.allBlank blanks = true ∧ Group group

/-- A group ends with the bracket that closes it. -/
theorem Group.getLast?_eq (h : Group group) : group.getLast? = some '>' := by
  rcases List.eq_nil_or_concat' group with rfl | ⟨inner, c, rfl⟩
  · exact absurd h.opens (by decide)
  · have hclosed := h.closed
    obtain ⟨hopens, hcloses⟩ := count_angles_concat inner c
    rw [hopens, hcloses] at hclosed
    rw [List.getLast?_concat, Option.some.injEq]
    by_cases hnil : inner = []
    · obtain rfl : '<' = c := by simpa [hnil] using h.opens
      simp [hnil] at hclosed
    · have hinside := h.inside inner [c] rfl hnil (List.cons_ne_nil c [])
      by_contra hne
      rw [if_neg hne] at hclosed
      omega

theorem IsParameters.getLast?_eq (h : IsParameters group) (hne : group ≠ []) :
    group.getLast? = some '>' := by
  rcases h with hnil | ⟨blanks, brackets, rfl, -, hgroup⟩
  · exact absurd hnil hne
  · rw [List.getLast?_append, hgroup.getLast?_eq]
    rfl

/-- The scan of a group that stands at the start of a text. -/
theorem groupFrom_group (h : Group group) (rest : Text) :
    groupFrom 0 (group ++ rest) = some group.length := by
  obtain ⟨tail, rfl, hcloses⟩ := group_iff.1 h
  have htail : groupFrom 1 (tail ++ rest) = some tail.length :=
    (groupFrom_eq_some_iff Nat.one_pos).2 ⟨tail, rest, rfl, rfl, hcloses⟩
  have hgroup : groupFrom 0 ('<' :: (tail ++ rest)) = (groupFrom 1 (tail ++ rest)).map (· + 1) := rfl
  rw [List.cons_append, hgroup, htail]
  rfl

/-- A text that does not go on with a bracket has no type parameters. -/
theorem parameters_eq_zero (h : (Text.trimStart text).head? ≠ some '<') : parameters text = 0 := by
  unfold parameters
  split
  · rename_i heq
    rw [heq] at h
    exact absurd rfl h
  · rfl

/-- **Type parameters at the start of a text** are found as they are, unless others follow. -/
theorem parameters_append {rest : Text} (h : IsParameters group)
    (hrest : (Text.trimStart rest).head? ≠ some '<') :
    parameters (group ++ rest) = group.length := by
  rcases h with rfl | ⟨blanks, brackets, rfl, hblanks, hgroup⟩
  · exact parameters_eq_zero hrest
  · have hscan := groupFrom_group hgroup rest
    obtain ⟨tail, rfl, -⟩ := group_iff.1 hgroup
    rw [List.cons_append] at hscan
    have htrimmed : Text.trimStart ('<' :: (tail ++ rest)) = '<' :: (tail ++ rest) :=
      Text.trimStart_cons (by decide) _
    rw [List.append_assoc, List.cons_append, parameters, Text.trimStart_append hblanks, htrimmed,
      Text.indent_append hblanks htrimmed]
    simp only [hscan, List.length_append]

/-- **What is found is type parameters.** -/
theorem isParameters_take (text : Text) : IsParameters (text.take (parameters text)) := by
  have hsplit := Text.indent_append_trimStart text
  unfold parameters
  split
  · rename_i rest htrim
    split
    · rename_i n hscan
      -- the group is what the scan has read
      have hgroup : groupFrom 0 ('<' :: rest) = (groupFrom 1 rest).map (· + 1) := rfl
      rw [hgroup] at hscan
      obtain ⟨m, hm, rfl⟩ := Option.map_eq_some_iff.1 hscan
      obtain ⟨group, tail, rfl, rfl, hcloses⟩ := (groupFrom_eq_some_iff Nat.one_pos).1 hm
      refine .inr ⟨Text.indent text, '<' :: group, ?_, ?_, group_iff.2 ⟨group, rfl, hcloses⟩⟩
      · have hread : (Text.indent text ++ '<' :: group).length =
            (Text.indent text).length + (group.length + 1) := by
          rw [List.length_append, List.length_cons]
        rw [htrim, ← List.cons_append, ← List.append_assoc] at hsplit
        rw [← hread]
        exact List.prefix_iff_eq_take.1 ⟨tail, hsplit⟩ |>.symm
      · exact Text.allBlank_indent text
    · exact .inl (List.take_zero ..)
  · exact .inl (List.take_zero ..)

/-! ## Clauses -/

/-- **A place where a clause may end:** outside angle brackets, in front of a brace or of the word
`implements`, if that stands alone. -/
def EndsClause (before after : Text) : Prop :=
  angleDepth before = 0 ∧ (after.head? = some '{' ∨ implementsWord <+: after ∧
    isBoundary before.getLast? = true ∧
      isBoundary (after.drop implementsWord.length).head? = true)

instance (before after : Text) : Decidable (EndsClause before after) :=
  inferInstanceAs (Decidable (_ ∧ _))

/-- What follows a clause is a brace or the word. -/
theorem EndsClause.head?_eq {after : Text} (h : EndsClause before after) :
    after.head? = some '{' ∨ after.head? = some 'i' := by
  rcases h.2 with hbrace | ⟨⟨tail, rfl⟩, -⟩
  · exact .inl hbrace
  · exact .inr rfl

/-- The scan of a clause stops where the clause may end, and else goes on behind the character. -/
theorem clauseFrom_cons {c previous : Char} {rest : Text} (hlast : before.getLast? = some previous) :
    clauseFrom (angleDepth before) previous (c :: rest) =
      if EndsClause before (c :: rest) then 0
      else clauseFrom (angleDepth (before ++ [c])) c rest + 1 := by
  have hbracket : c ≠ '{' → c ≠ 'i' → ¬ EndsClause before (c :: rest) := by
    intro hbrace hword hends
    rcases hends.head?_eq with hc | hc
    · exact hbrace (Option.some.inj hc)
    · exact hword (Option.some.inj hc)
  rw [clauseFrom, angleDepth_concat, angleStep]
  by_cases hopen : c = '<'
  · subst hopen
    rw [if_pos rfl, if_pos rfl, if_neg (hbracket (by decide) (by decide))]
  · rw [if_neg hopen, if_neg hopen]
    by_cases hclose : c = '>'
    · subst hclose
      rw [if_pos rfl, if_pos rfl, if_neg (hbracket (by decide) (by decide))]
    · rw [if_neg hclose, if_neg hclose]
      congr 1
      simp only [EndsClause, hlast, List.head?_cons, Option.some.injEq, Bool.and_eq_true,
        Bool.or_eq_true, decide_eq_true_eq, beq_iff_eq, List.isPrefixOf_iff_prefix, and_assoc]

/-- **A clause ends at the first place where it may,** or with the text. -/
theorem clauseFrom_spec {previous : Char} (hlast : before.getLast? = some previous) (text : Text) :
    ∃ clause rest, text = clause ++ rest ∧
      clauseFrom (angleDepth before) previous text = clause.length ∧
      (rest = [] ∨ EndsClause (before ++ clause) rest) ∧
      ∀ front back, front ++ back = clause → back ≠ [] →
        ¬ EndsClause (before ++ front) (back ++ rest) := by
  -- the place where a clause may end depends on all in front, so that grows with every character
  induction text generalizing before previous with
  | nil =>
    refine ⟨[], [], rfl, rfl, .inl rfl, fun front back heq hback => ?_⟩
    exact absurd (List.append_eq_nil_iff.1 heq).2 hback
  | cons c text ih =>
    rw [clauseFrom_cons hlast]
    by_cases hends : EndsClause before (c :: text)
    · refine ⟨[], c :: text, rfl, if_pos hends, .inr ?_, fun front back heq hback => ?_⟩
      · rwa [List.append_nil]
      · exact absurd (List.append_eq_nil_iff.1 heq).2 hback
    · rw [if_neg hends]
      obtain ⟨clause, rest, rfl, hlength, hrest, hfirst⟩ :=
        ih (List.getLast?_concat : (before ++ [c]).getLast? = some c)
      rw [List.append_assoc] at hrest
      refine ⟨c :: clause, rest, rfl, by rw [hlength, List.length_cons], hrest, ?_⟩
      intro front back heq hback
      rcases List.append_eq_cons_iff.1 heq with ⟨rfl, rfl⟩ | ⟨tail, rfl, rfl⟩
      · rwa [List.append_nil]
      · have hinner := hfirst tail back rfl hback
        rwa [List.append_assoc] at hinner

end Siblings.BaseClass
