import Siblings.Proofs.BaseClass

/-!
# Classes without a base

A clause is taken out of one declaration: of the first mention of the class that stands alone, or of
an interface if there is no class. It need not be the declaration that a reader sees: a comment may
mention the class in front of it. So what is left can still have a base.

* `Cut.declares_iff`: what is left declares what the text declares in front of the cut and behind.
* `Cut.hasBase_front`: a base in front of the cut is one in the text.
* `bases_after_strip`: **when a class is left without a base.**
-/

namespace Siblings.BaseClass

variable {name text front generics blanks clause rest others behind part : Text}

/-- **A text in which no declaration of a class has a base.** -/
def Baseless (name text : Text) : Prop :=
  ∀ front after, front ++ after = text → Declares name front after → ¬ HasBase after

/-- A text is cut in front of a character in it, or behind that character. -/
theorem cases_of_append_eq {before after left right : Text} {c : Char}
    (h : before ++ after = left ++ c :: right) :
    (∃ part, left = before ++ part ∧ after = part ++ c :: right) ∨
      ∃ part, before = left ++ c :: part ∧ right = part ++ after := by
  rcases List.append_eq_append_iff.1 h with hleft | ⟨part, rfl, hright⟩
  · exact .inl hleft
  · cases part with
    | nil => exact .inl ⟨[], by simp, hright.symm⟩
    | cons d part =>
      obtain ⟨rfl, rfl⟩ := List.cons.inj hright
      exact .inr ⟨part, rfl, rfl⟩

namespace Cut

/-- **What is left declares** what the text declares in front of the cut, and what the rest
declares. -/
theorem declares_iff (h : Cut name front generics blanks clause rest) (hname : IsIdentifier name)
    (hsplit : others ++ behind = front ++ (generics ++ ' ' :: rest)) :
    Declares name others behind ↔
      (∃ part, others ++ part = front ++ generics ∧ behind = part ++ ' ' :: rest ∧
        Declares name others (part ++ (blanks ++ (extendsWord ++ (clause ++ rest))))) ∨
      ∃ part, others = front ++ (generics ++ ' ' :: part) ∧ part ++ behind = rest ∧
        Declares name part behind := by
  have hspace : isBoundary (some ' ') = true := by decide
  constructor
  · rintro ⟨before, word, hword, rfl, hbefore, hafter⟩
    have hnospace : ∀ tail, word ++ name ≠ ' ' :: tail := by
      intro tail heq
      rw [← List.nil_append (' ' :: tail)] at heq
      have hword_eq := (mention_eq_append_cons hname hword hspace heq).1
      rcases hword with rfl | rfl <;> exact absurd hword_eq (by decide)
    rw [← List.append_assoc front] at hsplit
    rcases cases_of_append_eq hsplit with ⟨part, hfront, rfl⟩ | ⟨part, hothers, rfl⟩
    · -- the mention stands in front of the cut
      refine .inl ⟨part, hfront.symm, rfl, before, word, hword, rfl, hbefore, ?_⟩
      refine isBoundary_append hafter fun hnil => ?_
      rw [hnil, List.append_nil] at hfront
      have hend : word ++ name <:+ front ++ generics := hfront ▸ List.suffix_append before _
      have hgenerics := h.based.generic.eq_nil hname hword hend
        (List.append_ne_nil_of_right_ne_nil _ hname.nonempty) (List.prefix_refl _)
      have hfollows := h.declares.boundary
      rwa [hgenerics] at hfollows
    · rcases cases_of_append_eq hothers with ⟨more, hfront, heq⟩ | ⟨more, hmore, rfl⟩
      · -- a mention over the cut
        have hne : more ≠ [] := fun hnil => hnospace part (by rw [heq, hnil]; rfl)
        have hend : more <:+ front ++ generics := hfront ▸ List.suffix_append before more
        have hnot := h.not_straddle hname hword hend hne heq (List.cons_ne_nil _ _)
        exact absurd (List.cons_prefix_cons.2 ⟨rfl, List.prefix_append _ _⟩) hnot.2
      · -- the mention stands behind the cut
        rw [hmore, isBoundary_getLast? hspace] at hbefore
        refine .inr ⟨more ++ (word ++ name), ?_, rfl, more, word, hword, rfl, hbefore, hafter⟩
        rw [hmore]
        simp only [List.append_assoc, List.cons_append]
  · rintro (⟨part, -, rfl, before, word, hword, rfl, hbefore, hafter⟩ |
      ⟨part, rfl, -, before, word, hword, rfl, hbefore, hafter⟩)
    · exact ⟨before, word, hword, rfl, hbefore, isBoundary_append hafter fun _ => hspace⟩
    · refine ⟨front ++ (generics ++ ' ' :: before), word, hword, ?_, ?_, hafter⟩
      · simp only [List.append_assoc, List.cons_append]
      · rw [← List.append_assoc]
        exact (isBoundary_getLast? hspace).2 hbefore

/-- Between a declaration in front of the cut and the cut, something stands that is not in a base
without type parameters. -/
theorem exists_mem_part (h : Cut name front generics blanks clause rest) (hname : IsIdentifier name)
    (hsplit : others ++ part = front ++ generics) (hne : others ≠ front)
    (hother : Declares name others (part ++ behind)) :
    ∃ c ∈ part, c ∉ extendsWord ∧ Text.isBlank c = false := by
  by_cases hnil : generics = []
  · rw [hnil, List.append_nil] at hsplit
    suffices hc : 'c' ∈ part from ⟨'c', hc, by decide, by decide⟩
    obtain ⟨before, word, hword, hfront, -, -⟩ := h.declares
    have hmention : word ++ name <:+ front := hfront ▸ List.suffix_append before _
    rcases List.suffix_or_suffix_of_suffix hmention ⟨others, hsplit⟩ with hin | ⟨start, hstart⟩
    · obtain ⟨letters, rfl, -, hmem⟩ := exists_letters hword
      exact hin.subset (List.mem_append_left _ (List.mem_append_left _ hmem))
    · -- the other declaration ends in the mention of this one
      have hend : start <:+ others := by
        rw [hfront, ← hstart, ← List.append_assoc] at hsplit
        exact ⟨before, (List.append_cancel_right hsplit).symm⟩
      have hpart : part ≠ [] := by
        rintro rfl
        exact hne (by rw [← hsplit, List.append_nil])
      obtain ⟨c, tail, rfl⟩ := List.exists_cons_of_ne_nil hpart
      obtain ⟨-, rfl, hmem⟩ := hother.straddle hname hword hother.boundary hend hstart.symm
      exact List.mem_cons_of_mem _ hmem
  · suffices hc : '>' ∈ part from ⟨'>', hc, by decide, by decide⟩
    have hpart : part ≠ [] := by
      rintro rfl
      obtain ⟨before, word, hword, rfl, -, -⟩ := hother
      rw [List.append_nil] at hsplit
      have hend : word ++ name <:+ front ++ generics := hsplit ▸ List.suffix_append before _
      exact hnil (h.based.generic.eq_nil hname hword hend
        (List.append_ne_nil_of_right_ne_nil _ hname.nonempty) (List.prefix_refl _))
    have hlast : part.getLast? = some '>' := by
      rw [getLast?_eq_of_suffix ⟨others, hsplit⟩ hpart, List.getLast?_append_of_ne_nil _ hnil,
        h.based.generic.getLast?_eq hnil]
    exact List.mem_of_getLast? hlast

/-- **A base in front of the cut** does not depend on what stands behind the cut, if it has no type
parameters. -/
theorem hasBase_front {other : Text} (h : Cut name front generics blanks clause rest)
    (hname : IsIdentifier name) (hsplit : others ++ part = front ++ generics) (hne : others ≠ front)
    (hother : Declares name others (part ++ other))
    (hangle : (Text.trimStart (part ++ other)).head? ≠ some '<')
    (hbase : HasBase (part ++ behind)) : HasBase (part ++ other) := by
  obtain ⟨c, hc, hword, hblank⟩ := h.exists_mem_part hname hsplit hne hother
  have hshown : Text.trimStart part ≠ [] := fun hnil => by
    have hblanks := List.all_eq_true.1 (Text.trimStart_eq_nil_iff.1 hnil) c hc
    rw [hblank] at hblanks
    exact Bool.false_ne_true hblanks
  have hhead : (Text.trimStart (part ++ behind)).head? ≠ some '<' := by
    rw [Text.trimStart_append_of_ne_nil hshown] at hangle ⊢
    rwa [List.head?_append_of_ne_nil _ hshown] at hangle ⊢
  obtain ⟨others, blanks, body, heq, hbased⟩ := hbase
  -- the base has no type parameters, so it is white space, the word and one blank
  obtain rfl : others = [] := by
    have hlength := hbased.parameters_eq.1
    rw [← heq, parameters_eq_zero hhead] at hlength
    exact List.length_eq_zero_iff.1 hlength.symm
  obtain ⟨d, hd, hspaced⟩ := hbased.spaced
  obtain ⟨body, rfl⟩ := List.head?_eq_some_iff.1 hd
  have hbase : blanks ++ (extendsWord ++ [d]) <+: part ++ behind := ⟨body, by rw [heq]; simp⟩
  rcases List.prefix_or_prefix_of_prefix (List.prefix_append part behind) hbase with
    hshort | ⟨tail, rfl⟩
  · -- what is not in a base would be in this one
    have hmem := hshort.subset hc
    rw [List.mem_append, List.mem_append, List.mem_singleton] at hmem
    rcases hmem with hin | hin | rfl
    · have hblanks := List.all_eq_true.1 hbased.blank c hin
      rw [hblank] at hblanks
      exact absurd hblanks Bool.false_ne_true
    · exact absurd hin hword
    · rw [hblank] at hspaced
      exact absurd hspaced Bool.false_ne_true
  · exact ⟨[], blanks, d :: (tail ++ other), by simp, .inl rfl, hbased.blank, d, rfl, hspaced⟩

/-- What the rest declares is declared behind the clause. -/
theorem declares_behind (h : Cut name front generics blanks clause rest)
    (hsplit : part ++ behind = rest) (hother : Declares name part behind) :
    Declares name (front ++ (generics ++ (blanks ++ (extendsWord ++ (clause ++ part))))) behind := by
  obtain ⟨before, word, hword, rfl, hbefore, hafter⟩ := hother
  refine ⟨front ++ (generics ++ (blanks ++ (extendsWord ++ (clause ++ before)))), word, hword,
    by simp only [List.append_assoc], ?_, hafter⟩
  by_cases hnil : before = []
  · -- the mention is at the end of the clause, which is that of a word
    have hhead : rest.head? = some 'c' ∨ rest.head? = some 'i' := by
      rw [← hsplit, hnil]
      rcases hword with rfl | rfl
      · exact .inl rfl
      · exact .inr rfl
    have hend : extendsWord ++ clause <:+
        front ++ (generics ++ (blanks ++ (extendsWord ++ clause))) :=
      ⟨front ++ (generics ++ blanks), by simp only [List.append_assoc]⟩
    have hne : extendsWord ++ clause ≠ [] := List.append_ne_nil_of_left_ne_nil (by decide) _
    rw [hnil, List.append_nil, ← getLast?_eq_of_suffix hend hne]
    rcases h.clause.ends with hrest | ⟨-, hbrace | ⟨-, hbound, -⟩⟩
    · rw [hrest] at hhead
      exact absurd hhead (by decide)
    · rw [hbrace] at hhead
      exact absurd hhead (by decide)
    · exact hbound
  · have hend : before <:+ front ++ (generics ++ (blanks ++ (extendsWord ++ (clause ++ before)))) :=
      ⟨front ++ (generics ++ (blanks ++ (extendsWord ++ clause))),
        by simp only [List.append_assoc]⟩
    rwa [← getLast?_eq_of_suffix hend hnil]

/-- **When what is left has no base:** if there is none in front of the cut and none behind. -/
theorem baseless_iff (h : Cut name front generics blanks clause rest) (hname : IsIdentifier name) :
    Baseless name (front ++ (generics ++ ' ' :: rest)) ↔
      (∀ others part, others ++ part = front ++ generics → others ≠ front →
        Declares name others (part ++ (blanks ++ (extendsWord ++ (clause ++ rest)))) →
        ¬ HasBase (part ++ ' ' :: rest)) ∧ Baseless name rest := by
  constructor
  · intro hleft
    constructor
    · intro others part hsplit _ hother
      have htext : others ++ (part ++ ' ' :: rest) = front ++ (generics ++ ' ' :: rest) := by
        rw [← List.append_assoc, hsplit, List.append_assoc]
      exact hleft others _ htext
        ((h.declares_iff hname htext).2 (.inl ⟨part, hsplit, rfl, hother⟩))
    · intro part behind hsplit hother
      have htext : front ++ (generics ++ ' ' :: part) ++ behind =
          front ++ (generics ++ ' ' :: rest) := by
        rw [← hsplit]
        simp only [List.append_assoc, List.cons_append]
      exact hleft _ behind htext ((h.declares_iff hname htext).2 (.inr ⟨part, rfl, hsplit, hother⟩))
  · rintro ⟨hfront, hrest⟩ others behind htext hother
    rcases (h.declares_iff hname htext).1 hother with ⟨part, hsplit, rfl, hdeclares⟩ |
      ⟨part, -, hsplit, hdeclares⟩
    · -- of the declarations in front of the cut, one is that which was found
      by_cases hsame : others = front
      · rw [hsame] at hsplit
        rw [List.append_cancel_left hsplit]
        exact h.clause.not_hasBase h.based.generic
      · exact hfront others part hsplit hsame hdeclares
    · exact hrest part behind hsplit hdeclares

end Cut

/-- What is found in the text that is left has no base. -/
theorem not_hasBase_of_strip (hname : IsIdentifier name)
    (hleft : afterDeclaration? name (strip text name) = some (others, behind)) :
    ¬ HasBase behind := by
  rcases strip_cases text name with ⟨hstrip, hnone⟩ | ⟨front, generics, blanks, clause, rest, hcut,
    hfound, hstrip⟩
  · rw [hstrip] at hleft
    exact hnone others behind hleft
  · rw [hstrip, hcut.afterDeclaration?_eq hname hfound] at hleft
    obtain ⟨rfl, rfl⟩ := Prod.mk.inj (Option.some.inj hleft)
    exact hcut.clause.not_hasBase hcut.based.generic

/-- **A class is left without a base** if none but the declaration that is found has type parameters
or a base. -/
theorem baseless_strip (hname : IsIdentifier name)
    (hothers : ∀ front after, front ++ after = text → Declares name front after →
      afterDeclaration? name text = some (front, after) ∨
        ¬ HasBase after ∧ (Text.trimStart after).head? ≠ some '<') :
    Baseless name (strip text name) := by
  rcases strip_cases text name with ⟨hstrip, hnone⟩ | ⟨front, generics, blanks, clause, rest, hcut,
    hfound, hstrip⟩
  · rw [hstrip]
    intro front after hsplit hdeclares
    rcases hothers front after hsplit hdeclares with hfound | ⟨hnobase, -⟩
    · exact hnone front after hfound
    · exact hnobase
  · have htext := (declares_of_afterDeclaration? hfound).1
    rw [hstrip, hcut.baseless_iff hname]
    constructor
    · intro others part hsplit hne hother hbase
      have hwhole : others ++ (part ++ (blanks ++ (extendsWord ++ (clause ++ rest)))) = text := by
        rw [htext, ← List.append_assoc, hsplit, List.append_assoc]
      rcases hothers others _ hwhole hother with hsame | ⟨hnobase, hangle⟩
      · rw [hfound] at hsame
        exact hne (Prod.mk.inj (Option.some.inj hsame)).1.symm
      · exact hnobase (hcut.hasBase_front hname hsplit hne hother hangle hbase)
    · intro part behind hsplit hother hbase
      have hwhole : front ++ (generics ++ (blanks ++ (extendsWord ++ (clause ++ part)))) ++ behind =
          text := by
        rw [htext, ← hsplit]
        simp only [List.append_assoc]
      rcases hothers _ behind hwhole (hcut.declares_behind hsplit hother) with hsame | ⟨hnobase, -⟩
      · -- what is found ends in front of the clause
        rw [hfound] at hsame
        have hfront := List.append_right_eq_self.1 (Prod.mk.inj (Option.some.inj hsame)).1.symm
        simp only [List.append_eq_nil_iff] at hfront
        exact absurd hfront.2.2.1 (by decide)
      · exact hnobase hbase

/-- **When a class is left without a base.** What is found in the text that is left has none. But
the text stays as it is if what is found in it has no base, whatever follows; and if one clause is
cut out, the bases in front of the cut and behind it stay. So the class has no base in the end if
none but the declaration that is found has type parameters or a base. Something is found wherever
the class is declared, unless its name is a beginning of a word that declares. -/
theorem bases_after_strip (hname : IsIdentifier name) (text : Text) :
    (∀ front after, afterDeclaration? name (strip text name) = some (front, after) →
        ¬ HasBase after) ∧
      ((strip text name = text ∧
          ∀ front after, afterDeclaration? name text = some (front, after) → ¬ HasBase after) ∨
        ∃ front generics blanks clause rest, Cut name front generics blanks clause rest ∧
          afterDeclaration? name text =
            some (front, generics ++ (blanks ++ (extendsWord ++ (clause ++ rest)))) ∧
          (Baseless name (strip text name) ↔
            (∀ others part, others ++ part = front ++ generics → others ≠ front →
              Declares name others (part ++ (blanks ++ (extendsWord ++ (clause ++ rest)))) →
              ¬ HasBase (part ++ ' ' :: rest)) ∧ Baseless name rest)) ∧
      ((∀ front after, front ++ after = text → Declares name front after →
          afterDeclaration? name text = some (front, after) ∨
            ¬ HasBase after ∧ (Text.trimStart after).head? ≠ some '<') →
        Baseless name (strip text name)) ∧
      (¬ name <+: classWord → ¬ name <+: interfaceWord →
        (afterDeclaration? name text = none ↔
          ∀ front after, front ++ after = text → ¬ Declares name front after)) := by
  refine ⟨fun _ _ => not_hasBase_of_strip hname, ?_, baseless_strip hname,
    afterDeclaration?_eq_none_iff hname⟩
  rcases strip_cases text name with hnone | ⟨front, generics, blanks, clause, rest, hcut, hfound,
    hstrip⟩
  · exact .inl hnone
  · refine .inr ⟨front, generics, blanks, clause, rest, hcut, hfound, ?_⟩
    rw [hstrip]
    exact hcut.baseless_iff hname

/-- A class that a comment mentions in front of its declaration. -/
def commented : Text :=
  "// class Foo is generated\nclass Foo extends Base \x7b\n\x7d\n".toList

theorem bases_after_strip_commented :
    IsIdentifier "Foo".toList ∧ strip commented "Foo".toList = commented ∧
      afterDeclaration? "Foo".toList commented =
        some ("// class Foo".toList, commented.drop "// class Foo".toList.length) ∧
      ¬ HasBase (commented.drop "// class Foo".toList.length) ∧
      ¬ Baseless "Foo".toList (strip commented "Foo".toList) := by
  have hname : IsIdentifier "Foo".toList := ⟨by decide, by decide⟩
  have hstrip : strip commented "Foo".toList = commented := by decide
  have hfound : afterDeclaration? "Foo".toList commented =
      some ("// class Foo".toList, commented.drop "// class Foo".toList.length) := by decide
  have hbase := (bases_after_strip hname commented).1 "// class Foo".toList _ (by rwa [hstrip])
  refine ⟨hname, hstrip, hfound, hbase, fun hbaseless => ?_⟩
  rw [hstrip] at hbaseless
  -- the declaration itself, behind the comment
  have hdeclares : Declares "Foo".toList "// class Foo is generated\nclass Foo".toList
      " extends Base \x7b\n\x7d\n".toList :=
    ⟨"// class Foo is generated\n".toList, classWord, .inl rfl, by decide, by decide, by decide⟩
  have hextends : HasBase " extends Base \x7b\n\x7d\n".toList :=
    ⟨[], [' '], " Base \x7b\n\x7d\n".toList, by decide, .inl rfl, by decide, ' ', by decide,
      by decide⟩
  exact hbaseless _ _ (by decide) hdeclares hextends

end Siblings.BaseClass
