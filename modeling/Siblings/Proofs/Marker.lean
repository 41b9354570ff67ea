import Siblings.Marker
import Siblings.Proofs.Text

/-!
# Markers and the slashes in front of them

A comment reads as a marker where two slashes stand in front of the marker's name, with nothing but
white space between. The search takes the slashes of a line in pairs, from the left, so it finds such
a comment only if the slashes in front of it pair up: it finds `// NAME` and `//// NAME`, but not
`/// NAME`.

* `IsName`: the name in a marker, and `isName_iff`: it is what the search looks for.
* `ReadsBehind`: a comment that reads as a name, behind some text.
* `named_iff`: what the search finds in a line.
* `carried_where_slashes_pair`: **a line carries the markers that can be read where its slashes
  pair up.**
-/

namespace Siblings.Marker

variable {marker word line before after rest text : Text} {c : Char}

/-! ## The name in a marker -/

/-- **The name in a marker:** what stands behind its pairs of slashes, and behind the white space that
follows them. -/
def IsName (marker word : Text) : Prop :=
  ∃ pairs blanks, marker = List.replicate (2 * pairs) '/' ++ (blanks ++ word) ∧
    Text.allBlank blanks = true ∧ Text.trimStart word = word ∧ ¬ ['/', '/'] <+: blanks ++ word

/-- The signs of a marker are pairs of slashes, and no pair follows them. -/
theorem dropSigns_spec (marker : Text) :
    (∃ pairs, marker = List.replicate (2 * pairs) '/' ++ dropSigns marker) ∧
      ¬ ['/', '/'] <+: dropSigns marker := by
  fun_induction dropSigns marker with
  | case1 rest ih =>
    obtain ⟨⟨pairs, hpairs⟩, hnot⟩ := ih
    refine ⟨⟨pairs + 1, ?_⟩, hnot⟩
    rw [Nat.mul_succ, Nat.add_comm, List.replicate_add, List.append_assoc, ← hpairs]
    rfl
  | case2 text hnot =>
    refine ⟨⟨0, rfl⟩, ?_⟩
    rintro ⟨rest, rfl⟩
    exact hnot rest rfl

theorem dropSigns_append (h : ¬ ['/', '/'] <+: text) (pairs : Nat) :
    dropSigns (List.replicate (2 * pairs) '/' ++ text) = text := by
  induction pairs with
  | zero =>
    rw [Nat.mul_zero, List.replicate_zero, List.nil_append]
    unfold dropSigns
    split
    · exact absurd (List.prefix_append ['/', '/'] _) h
    · rfl
  | succ pairs ih =>
    rw [Nat.mul_succ, Nat.add_comm, List.replicate_add, List.append_assoc]
    exact ih

/-- **The name in a marker** is what the search looks for, and there is one only. -/
theorem isName_iff : IsName marker word ↔ word = name marker := by
  constructor
  · rintro ⟨pairs, blanks, rfl, hblanks, hword, hnot⟩
    rw [name, dropSigns_append hnot, Text.trimStart_append hblanks, hword]
  · rintro rfl
    obtain ⟨⟨pairs, hpairs⟩, hnot⟩ := dropSigns_spec marker
    refine ⟨pairs, Text.indent (dropSigns marker), ?_, Text.allBlank_indent _,
      Text.trimStart_trimStart _, ?_⟩
    · rw [name, Text.indent_append_trimStart, ← hpairs]
    · rwa [name, Text.indent_append_trimStart]

/-! ## Comments that read as a name -/

/-- **A comment of a line reads as a name,** behind some text: there stand two slashes, white space,
and the name. -/
def ReadsBehind (word line before : Text) : Prop :=
  ∃ blanks rest, before ++ '/' :: '/' :: (blanks ++ word ++ rest) = line ∧
    Text.allBlank blanks = true

theorem readsBehind_nil_iff (hword : Text.trimStart word = word) :
    ReadsBehind word ('/' :: '/' :: after) [] ↔ word <+: Text.trimStart after := by
  rw [Text.prefix_trimStart_iff hword]
  simp [ReadsBehind]

theorem readsBehind_cons_iff :
    ReadsBehind word (c :: rest) (c :: before) ↔ ReadsBehind word rest before := by
  simp [ReadsBehind]

/-- A comment stands at the start of a line, or behind its first character. -/
theorem readsBehind_cases (h : ReadsBehind word (c :: rest) before) :
    before = [] ∨ ∃ others, before = c :: others ∧ ReadsBehind word rest others := by
  cases before with
  | nil => exact .inl rfl
  | cons d others =>
    obtain rfl : d = c := by
      obtain ⟨blanks, more, heq, -⟩ := h
      exact (List.cons.inj heq).1
    exact .inr ⟨others, rfl, readsBehind_cons_iff.1 h⟩

/-! ## Slashes that pair up -/

/-- The number of slashes that a text ends with. -/
def slashes (text : Text) : Nat := (text.rtakeWhile (· == '/')).length

theorem slashes_concat (text : Text) (c : Char) :
    slashes (text ++ [c]) = if c = '/' then slashes text + 1 else 0 := by
  unfold slashes
  rw [List.rtakeWhile_concat]
  by_cases hc : c = '/' <;> simp [hc]

theorem slashes_of_getLast? (h : text.getLast? ≠ some '/') : slashes text = 0 := by
  cases text using List.reverseRecOn with
  | nil => rfl
  | append_singleton text c =>
    rw [List.getLast?_concat] at h
    rw [slashes_concat, if_neg fun hc => h (congrArg some hc)]

theorem slashes_cons (c : Char) (text : Text) :
    slashes (c :: text) = if (c :: text).all (· == '/') then text.length + 1 else slashes text := by
  induction text using List.reverseRecOn with
  | nil =>
    rw [← List.nil_append [c], slashes_concat]
    simp [slashes]
  | append_singleton text d ih =>
    rw [← List.cons_append, slashes_concat, slashes_concat, ih, List.all_append]
    by_cases hd : d = '/'
    · simp [hd]
      split <;> rfl
    · simp [hd]

/-- Two slashes in front of a text do not matter to whether the slashes at its end pair up. -/
theorem two_dvd_slashes_cons_cons (text : Text) :
    2 ∣ slashes ('/' :: '/' :: text) ↔ 2 ∣ slashes text := by
  cases text with
  | nil => decide
  | cons c text =>
    rw [slashes_cons, slashes_cons, slashes_cons]
    by_cases hall : (c :: text).all (· == '/') = true
    · rw [if_pos (by simpa using hall), if_pos hall, List.length_cons, List.length_cons]
      omega
    · rw [if_neg (by simpa using hall), if_neg (by simpa using hall), if_neg hall]

/-- **What the search finds.** It steps over two slashes at once, so it finds the comments with an even
number of slashes right in front of them. -/
theorem named_iff (hword : Text.trimStart word = word) (line : Text) :
    named word line = true ↔ ∃ before, ReadsBehind word line before ∧ 2 ∣ slashes before := by
  fun_induction named word line with
  | case1 rest ih =>
    rw [Bool.or_eq_true, List.isPrefixOf_iff_prefix, ih, ← readsBehind_nil_iff hword]
    constructor
    · rintro (hstarts | ⟨before, hreads, hpairs⟩)
      · exact ⟨[], hstarts, by decide⟩
      · exact ⟨'/' :: '/' :: before, readsBehind_cons_iff.2 (readsBehind_cons_iff.2 hreads),
          (two_dvd_slashes_cons_cons before).2 hpairs⟩
    · rintro ⟨before, hreads, hpairs⟩
      rcases readsBehind_cases hreads with rfl | ⟨first, rfl, hfirst⟩
      · exact .inl hreads
      rcases readsBehind_cases hfirst with rfl | ⟨second, rfl, hsecond⟩
      · exact absurd hpairs (by decide)
      · exact .inr ⟨second, hsecond, (two_dvd_slashes_cons_cons second).1 hpairs⟩
  | case2 c rest hnot ih =>
    -- a slash that starts the line stands alone, so it belongs to no slashes in front of a comment
    have hslashes : ∀ before, ReadsBehind word rest before →
        slashes (c :: before) = slashes before := by
      rintro before ⟨blanks, more, rfl, -⟩
      rw [slashes_cons, if_neg]
      intro hall
      simp only [List.all_eq_true, beq_iff_eq, List.forall_mem_cons] at hall
      cases before with
      | nil => exact hnot _ hall.1 rfl
      | cons d before =>
        obtain rfl : d = '/' := hall.2 d List.mem_cons_self
        exact hnot _ hall.1 rfl
    rw [ih]
    constructor
    · rintro ⟨before, hreads, hpairs⟩
      exact ⟨c :: before, readsBehind_cons_iff.2 hreads, by rwa [hslashes before hreads]⟩
    · rintro ⟨before, hreads, hpairs⟩
      rcases readsBehind_cases hreads with rfl | ⟨others, rfl, hothers⟩
      · obtain ⟨blanks, more, heq, -⟩ := hreads
        obtain ⟨rfl, rfl⟩ := List.cons.inj heq
        exact absurd rfl (hnot _ rfl)
      · exact ⟨others, hothers, by rwa [← hslashes others hothers]⟩
  | case3 => simp [ReadsBehind]

/-- **A line carries a marker** exactly if one of its comments reads as the marker's name and has an
even number of slashes right in front of it. So a marker that is carried can be read, and one that
can be read behind no slash is carried; but one that can be read only behind odd numbers of slashes
is not. -/
theorem carried_where_slashes_pair (line marker : Text) :
    ∃ word, (∀ other, IsName marker other ↔ other = word) ∧
      (carriedBy line marker = true ↔
        ∃ before, ReadsBehind word line before ∧ 2 ∣ slashes before) ∧
      ∀ before, ReadsBehind word line before → before.getLast? ≠ some '/' →
        carriedBy line marker = true := by
  have hcarried : carriedBy line marker = true ↔
      ∃ before, ReadsBehind (name marker) line before ∧ 2 ∣ slashes before :=
    named_iff (Text.trimStart_trimStart (dropSigns marker)) line
  refine ⟨name marker, fun other => isName_iff, hcarried, fun before hreads hlast => ?_⟩
  refine hcarried.2 ⟨before, hreads, ?_⟩
  rw [slashes_of_getLast? hlast]
  exact Nat.dvd_zero 2

/-- A line whose comment opens with three slashes. -/
def tripledComment : Text := "x = 1; /// BOOLEAN_USE".toList

/-- The same line with one slash more. -/
def doubledComment : Text := "x = 1; //// BOOLEAN_USE".toList

theorem carried_where_slashes_pair_tripled :
    IsName "BOOLEAN_USE".toList "BOOLEAN_USE".toList ∧
      ReadsBehind "BOOLEAN_USE".toList tripledComment "x = 1; /".toList ∧
      carriedBy tripledComment "BOOLEAN_USE".toList = false ∧
      carriedBy doubledComment "BOOLEAN_USE".toList = true := by
  have hname : IsName "BOOLEAN_USE".toList "BOOLEAN_USE".toList := by
    refine ⟨0, [], rfl, rfl, by decide, by decide⟩
  refine ⟨hname, ⟨[' '], [], by decide, by decide⟩, by decide, ?_⟩
  obtain ⟨word, hword, hcarried, -⟩ :=
    carried_where_slashes_pair doubledComment "BOOLEAN_USE".toList
  obtain rfl := (hword _).1 hname
  exact hcarried.2 ⟨"x = 1; //".toList, ⟨[' '], [], by decide, by decide⟩, by decide⟩

end Siblings.Marker
