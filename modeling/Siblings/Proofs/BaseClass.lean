import Siblings.Proofs.Angles
import Siblings.Proofs.Declaration

/-!
# Base classes

The clause that names the base of a class is taken out of its declaration, that is, of the first
mention of the class that stands alone. What is left is the text in front, a space, and the rest.
To take out a clause again there would have to be a base behind the first mention of what is left.
There is none, since no mention reaches over the cut, and the mention behind which the cut was made
is still the first. For an interface this needs that the cut leaves no mention of a class: what a
mention in the clause hides from the search starts no other mention.

* `HasBase`, `IsClause`: a base behind a name, and where its clause ends.
* `strip_of_base`, `strip_of_not_base`: what is done to a text, by what follows the name in it.
* `Cut.not_straddle`: **no mention reaches over a cut.**
* `Cut.afterDeclaration?_eq`: what was found is found again.
* `strip_removes_one_clause`: **one clause is taken out, and a second time none.**
-/

namespace Siblings.BaseClass

variable {name text front after generics blanks body clause rest : Text}

/-! ## Clauses -/

/-- The word in front of a clause. -/
def extendsWord : Text := "extends".toList

/-- **The parts of what follows a name with a base:** type parameters, white space, and what
follows the word behind them, which starts with white space. -/
structure Based (generics blanks body : Text) : Prop where
  generic : IsParameters generics
  blank : Text.allBlank blanks = true
  spaced : ∃ c, body.head? = some c ∧ Text.isBlank c = true

/-- **A base** is what a name has if the word follows it, behind its type parameters. -/
def HasBase (after : Text) : Prop :=
  ∃ generics blanks body, after = generics ++ (blanks ++ (extendsWord ++ body)) ∧
    Based generics blanks body

/-- **A clause and the rest of its text.** -/
structure IsClause (clause rest : Text) : Prop where
  spaced : ∃ c, clause.head? = some c ∧ Text.isBlank c = true
  ends : rest = [] ∨ EndsClause (extendsWord ++ clause) rest
  first : ∀ front back, front ++ back = clause → back ≠ [] →
    ¬ EndsClause (extendsWord ++ front) (back ++ rest)

/-- What follows a word with white space behind it is a clause and a rest. -/
theorem exists_clause (hspaced : ∃ c, body.head? = some c ∧ Text.isBlank c = true) :
    ∃ clause rest, body = clause ++ rest ∧ clauseFrom 0 's' body = clause.length ∧
      IsClause clause rest := by
  have hlast : extendsWord.getLast? = some 's' := by decide
  obtain ⟨clause, rest, rfl, hlength, hends, hfirst⟩ := clauseFrom_spec hlast body
  refine ⟨clause, rest, rfl, hlength, ?_, hends, hfirst⟩
  obtain ⟨c, hc, hblank⟩ := hspaced
  cases clause with
  | nil =>
    -- a clause does not end in front of white space
    rw [List.nil_append] at hc
    rcases hends with rfl | hends
    · simp at hc
    · rcases hends.head?_eq with hhead | hhead <;>
      · rw [hc, Option.some.injEq] at hhead
        subst hhead
        exact absurd hblank (by decide)
  | cons d clause => exact ⟨c, hc, hblank⟩

/-- The parts of a base are found one after the other. -/
theorem Based.parameters_eq (h : Based generics blanks body) :
    parameters (generics ++ (blanks ++ (extendsWord ++ body))) = generics.length ∧
      Text.trimStart (blanks ++ (extendsWord ++ body)) = extendsWord ++ body := by
  have htrim : Text.trimStart (blanks ++ (extendsWord ++ body)) = extendsWord ++ body := by
    rw [Text.trimStart_append h.blank]
    exact Text.trimStart_cons (by decide) _
  have hhead : (extendsWord ++ body).head? = some 'e' := rfl
  refine ⟨parameters_append h.generic ?_, htrim⟩
  rw [htrim, hhead]
  decide

/-- **The clause of what is found is taken out,** and a space put in its place. -/
theorem strip_of_base (hbase : Based generics blanks body)
    (hfound : afterDeclaration? name text =
      some (front, generics ++ (blanks ++ (extendsWord ++ body)))) :
    ∃ clause rest, body = clause ++ rest ∧ IsClause clause rest ∧
      strip text name = front ++ (generics ++ ' ' :: rest) := by
  obtain ⟨clause, rest, rfl, hlength, hclause⟩ := exists_clause hbase.spaced
  refine ⟨clause, rest, rfl, hclause, ?_⟩
  obtain ⟨hparameters, htrim⟩ := hbase.parameters_eq
  obtain ⟨c, hc, hblank⟩ := hclause.spaced
  obtain ⟨more, rfl⟩ := List.head?_eq_some_iff.1 hc
  have hword : "extends".toList.isPrefixOf? (extendsWord ++ (c :: more ++ rest)) =
      some (c :: (more ++ rest)) := List.isPrefixOf?_eq_some_iff_append_eq.2 rfl
  have hlength : clauseFrom 0 's' (c :: (more ++ rest)) = (c :: more).length := hlength
  unfold strip
  rw [hfound]
  simp only [List.splitAt_eq, hparameters, List.drop_left, List.take_left, htrim]
  rw [hword]
  simp only [hblank, if_true, hlength]
  rw [← List.cons_append, List.drop_left, List.append_assoc]

/-- A text stays as it is if what is found in it has no base. -/
theorem strip_of_not_base (hfound : afterDeclaration? name text = some (front, after))
    (h : ¬ HasBase after) : strip text name = text := by
  unfold strip
  rw [hfound]
  simp only [List.splitAt_eq]
  split
  · rename_i c body hword
    rw [List.isPrefixOf?_eq_some_iff_append_eq] at hword
    split
    · rename_i hblank
      refine absurd ⟨_, Text.indent (after.drop (parameters after)), c :: body, ?_,
        isParameters_take after, ?_, c, rfl, hblank⟩ h
      · have hsplit := Text.indent_append_trimStart (after.drop (parameters after))
        rw [← hword] at hsplit
        exact (List.take_append_drop ..).symm.trans (congrArg _ hsplit.symm)
      · exact Text.allBlank_indent _
    · rfl
  · rfl

theorem strip_of_not_found (h : afterDeclaration? name text = none) : strip text name = text := by
  unfold strip
  rw [h]

/-! ## What is left -/

theorem IsClause.head?_rest (h : IsClause clause rest) :
    rest = [] ∨ rest.head? = some '{' ∨ rest.head? = some 'i' :=
  h.ends.imp_right EndsClause.head?_eq

theorem IsClause.head?_ne (h : IsClause clause rest) {c : Char} (hbrace : c ≠ '{')
    (hword : c ≠ 'i') : rest.head? ≠ some c := by
  intro hc
  rcases h.head?_rest with rfl | hrest | hrest
  · simp at hc
  · exact hbrace (Option.some.inj (hc.symm.trans hrest))
  · exact hword (Option.some.inj (hc.symm.trans hrest))

/-- The rest is no white space, so the space in place of the clause is all there is. -/
theorem IsClause.trimStart_eq (h : IsClause clause rest) : Text.trimStart (' ' :: rest) = rest := by
  have hblank : Text.allBlank [' '] = true := by decide
  have hspace : Text.trimStart (' ' :: rest) = Text.trimStart rest :=
    Text.trimStart_append hblank rest
  rw [hspace]
  rcases h.head?_rest with rfl | hhead | hhead
  · rfl
  · obtain ⟨tail, rfl⟩ := List.head?_eq_some_iff.1 hhead
    exact Text.trimStart_cons (by decide) tail
  · obtain ⟨tail, rfl⟩ := List.head?_eq_some_iff.1 hhead
    exact Text.trimStart_cons (by decide) tail

/-- **What is left behind the name is no base.** -/
theorem IsClause.not_hasBase (h : IsClause clause rest) (hgeneric : IsParameters generics) :
    ¬ HasBase (generics ++ ' ' :: rest) := by
  rintro ⟨others, blanks, body, heq, hbased⟩
  have hlength : generics.length = others.length := by
    rw [← hbased.parameters_eq.1, ← heq]
    refine (parameters_append hgeneric ?_).symm
    rw [h.trimStart_eq]
    exact h.head?_ne (by decide) (by decide)
  obtain ⟨rfl, hrest⟩ := List.append_inj heq hlength
  -- behind the type parameters a base goes on with `e`
  have htrim := hbased.parameters_eq.2
  rw [← hrest, h.trimStart_eq] at htrim
  have hword : rest.head? = some 'e' := by rw [htrim]; rfl
  exact h.head?_ne (by decide) (by decide) hword

/-- An identifier at the start of the rest is one at the start of `implements`. -/
theorem IsClause.prefix_implements (h : IsClause clause rest) (hname : IsIdentifier name)
    (hstart : name <+: rest) : name <+: implementsWord := by
  rcases h.ends with rfl | ⟨-, hbrace | ⟨⟨tail, rfl⟩, -, hafter⟩⟩
  · exact absurd (List.prefix_nil.1 hstart) hname.nonempty
  · have hnil : name <+: [] := hname.starts_word hstart (by rw [hbrace]; decide)
    exact absurd (List.prefix_nil.1 hnil) hname.nonempty
  · rw [List.drop_left] at hafter
    exact hname.starts_word hstart hafter

/-- An identifier behind one blank, at the start of a clause, is one at the start of `extends`. -/
theorem Based.prefix_extends (h : Based generics blanks body) (hname : IsIdentifier name)
    (hstart : ' ' :: name <+: blanks ++ (extendsWord ++ body)) : name <+: extendsWord := by
  obtain ⟨c, hc, hspaced⟩ := h.spaced
  have hbody : isBoundary body.head? = true := by
    rw [hc]
    exact isBoundary_of_isBlank hspaced
  match blanks, h.blank, hstart with
  | [], _, hstart => exact absurd (List.cons_prefix_cons.1 hstart).1 (by decide)
  | [_], _, hstart =>
    exact hname.starts_word (List.cons_prefix_cons.1 hstart).2 hbody
  | _ :: d :: blanks, hblank, hstart =>
    -- a second blank would be in the identifier
    have hd : Text.isBlank d = true := List.all_eq_true.1 hblank d (by simp)
    have hnil : name <+: [] := hname.starts_word (List.cons_prefix_cons.1 hstart).2
      (isBoundary_of_isBlank hd)
    exact absurd (List.prefix_nil.1 hnil) hname.nonempty

/-! ## Mentions beside the cut -/

/-- Type parameters end with a bracket, and no start of a mention does. -/
theorem IsParameters.eq_nil {word start : Text} (h : IsParameters generics)
    (hname : IsIdentifier name) (hword : word = classWord ∨ word = interfaceWord)
    (hend : start <:+ front ++ generics) (hne : start ≠ []) (hstart : start <+: word ++ name) :
    generics = [] := by
  by_contra hnil
  have hlast : start.getLast? = some '>' := by
    rw [getLast?_eq_of_suffix hend hne, List.getLast?_append_of_ne_nil _ hnil, h.getLast?_eq hnil]
  obtain ⟨inner, rfl⟩ := List.getLast?_eq_some_iff.1 hlast
  obtain ⟨tail, htail⟩ := hstart
  rw [List.append_assoc, List.singleton_append] at htail
  exact absurd (mention_eq_append_cons hname hword (by decide) htail.symm).2.1 (by decide)

/-- A mention that reaches over the end of a declaration has its space behind the end. Then the name
ends with the letters of the word that it is behind. -/
theorem Declares.straddle {word start part : Text} {c : Char} (h : Declares name front after)
    (hname : IsIdentifier name) (hword : word = classWord ∨ word = interfaceWord)
    (hc : isBoundary (some c) = true) (hend : start <:+ front)
    (heq : word ++ name = start ++ c :: part) :
    c = ' ' ∧ part = name ∧ 'c' ∈ name := by
  obtain ⟨hword_eq, rfl, rfl⟩ := mention_eq_append_cons hname hword hc heq
  obtain ⟨letters, rfl, hletters, hmem⟩ := exists_letters hword
  obtain rfl := List.append_cancel_right hword_eq
  refine ⟨rfl, rfl, ?_⟩
  -- the letters and the name with the space in front of it are both ends of the text in front
  obtain ⟨before, other, hother, rfl, -, -⟩ := h
  obtain ⟨others, rfl, -, -⟩ := exists_letters hother
  have hspaced : ' ' :: part <:+ before ++ (others ++ [' '] ++ part) := ⟨before ++ others, by simp⟩
  have hspace : ' ' ∉ letters := hletters.notMem (by decide)
  rcases List.suffix_or_suffix_of_suffix hend hspaced with hend | hend
  · rcases List.suffix_cons_iff.1 hend with rfl | hend
    · exact absurd List.mem_cons_self hspace
    · exact hend.subset hmem
  · exact absurd (hend.subset List.mem_cons_self) hspace

/-- **A text that is cut** behind the name in a declaration, its type parameters, white space, the
word `extends` and a clause. -/
structure Cut (name front generics blanks clause rest : Text) : Prop where
  declares : Declares name front (generics ++ (blanks ++ (extendsWord ++ (clause ++ rest))))
  based : Based generics blanks (clause ++ rest)
  clause : IsClause clause rest

namespace Cut

variable {word start part : Text}

/-- **No mention reaches over the cut,** in the text or in what is left of it. -/
theorem not_straddle (h : Cut name front generics blanks clause rest) (hname : IsIdentifier name)
    (hword : word = classWord ∨ word = interfaceWord) (hend : start <:+ front ++ generics)
    (hne : start ≠ []) (heq : word ++ name = start ++ part) (hpart : part ≠ []) :
    ¬ part <+: blanks ++ (extendsWord ++ (clause ++ rest)) ∧ ¬ part <+: ' ' :: rest := by
  obtain rfl := h.based.generic.eq_nil hname hword hend hne ⟨part, heq.symm⟩
  rw [List.append_nil] at hend
  obtain ⟨c, part, rfl⟩ := List.exists_cons_of_ne_nil hpart
  constructor
  · intro hfollows
    have hc : isBoundary (some c) = true := by
      have hafter := h.declares.boundary
      obtain ⟨tail, htail⟩ := hfollows
      rwa [List.nil_append, ← htail] at hafter
    obtain ⟨rfl, rfl, hmem⟩ := h.declares.straddle hname hword hc hend heq
    exact absurd ((h.based.prefix_extends hname hfollows).subset hmem) (by decide)
  · intro hfollows
    obtain ⟨rfl, hrest⟩ := List.cons_prefix_cons.1 hfollows
    obtain ⟨-, rfl, hmem⟩ := h.declares.straddle hname hword (by decide) hend heq
    exact absurd ((h.clause.prefix_implements hname hrest).subset hmem) (by decide)

/-- A mention of a class that starts in front of the cut of an interface ends in front of it. -/
theorem length_lt_of_starts (h : Cut name front generics blanks clause rest)
    (hname : IsIdentifier name) (hinterface : interfaceWord ++ name <:+ front)
    (hend : start <:+ front ++ generics) (hne : start ≠ [])
    (hstarts : classWord ++ name <+: start ++ (blanks ++ (extendsWord ++ (clause ++ rest))) ∨
      classWord ++ name <+: start ++ ' ' :: rest) :
    (classWord ++ name).length < start.length := by
  by_contra hlength
  have hmention : start <+: classWord ++ name := by
    rcases hstarts with hstarts | hstarts <;>
    exact List.prefix_of_prefix_length_le (List.prefix_append _ _) hstarts (Nat.not_lt.1 hlength)
  obtain ⟨part, hpart⟩ := hmention
  rw [← hpart, List.prefix_append_right_inj, List.prefix_append_right_inj] at hstarts
  by_cases hnil : part = []
  · -- the mention ends with the text in front of the cut, as the one of the interface does
    rw [hnil, List.append_nil] at hpart
    subst hpart
    obtain rfl := h.based.generic.eq_nil hname (.inl rfl) hend hne (List.prefix_refl _)
    rw [List.append_nil] at hend
    obtain ⟨before, rfl⟩ := hinterface
    obtain ⟨more, hmore⟩ := hend
    rw [← List.append_assoc, ← List.append_assoc] at hmore
    have hwords := congrArg List.reverse (List.append_cancel_right hmore)
    have hclass : classWord.reverse = ' ' :: 's' :: "salc".toList := by decide
    have hother : interfaceWord.reverse = ' ' :: 'e' :: "cafretni".toList := by decide
    rw [List.reverse_append, List.reverse_append, hclass, hother] at hwords
    exact absurd (List.cons.inj (List.cons.inj hwords).2).1 (by decide)
  · -- the mention reaches over the cut
    obtain ⟨hbehind, hleft⟩ := h.not_straddle hname (.inl rfl) hend hne hpart.symm hnil
    exact hstarts.elim hbehind hleft

/-- Of a mention that starts in a clause, only the name may reach over the end of the clause. -/
theorem notMem_of_straddle (h : Cut name front generics blanks clause rest)
    (hname : IsIdentifier name) {tail : Text} (htail : tail <+: rest)
    (hend : start <:+ blanks ++ (extendsWord ++ clause)) (hne : start ≠ [])
    (heq : classWord ++ name = start ++ tail) : 'c' ∉ tail := by
  by_cases hnil : tail = []
  · rw [hnil]
    exact List.not_mem_nil
  obtain ⟨c, more, rfl⟩ := List.exists_cons_of_ne_nil hnil
  obtain ⟨others, rfl⟩ := htail
  rcases h.clause.ends with hrest | ⟨-, hbrace | ⟨-, hbefore, -⟩⟩
  · exact absurd hrest (List.cons_ne_nil c _)
  · -- a mention has no brace in it
    obtain rfl : c = '{' := Option.some.inj hbrace
    exact absurd (mention_eq_append_cons hname (.inl rfl) (by decide) heq).2.1 (by decide)
  · -- the clause ends with the space of the mention
    have hword : extendsWord ++ clause ≠ [] := List.append_ne_nil_of_left_ne_nil (by decide) _
    have hlast : start.getLast? = (extendsWord ++ clause).getLast? := by
      rw [getLast?_eq_of_suffix hend hne, List.getLast?_append_of_ne_nil _ hword]
    obtain ⟨inner, d, rfl⟩ := (List.eq_nil_or_concat' start).resolve_left hne
    rw [← hlast, List.getLast?_concat] at hbefore
    rw [List.append_assoc, List.singleton_append] at heq
    obtain ⟨-, -, hmore⟩ := mention_eq_append_cons hname (.inl rfl) hbefore heq
    have hword := h.clause.prefix_implements hname (hmore ▸ List.prefix_append _ _)
    rw [hmore]
    exact fun hmem => absurd (hword.subset hmem) (by decide)

/-- **A text without a class is left without one** when the clause of an interface is taken out. -/
theorem class_eq_none (h : Cut name front generics blanks clause rest) (hname : IsIdentifier name)
    (hinterface : interfaceWord ++ name <:+ front)
    (hnone : mention? (classWord ++ name)
      (front ++ (generics ++ (blanks ++ (extendsWord ++ (clause ++ rest))))) = none) :
    mention? (classWord ++ name) (front ++ (generics ++ ' ' :: rest)) = none := by
  have hfirst : (classWord ++ name).head? = some 'c' := rfl
  have hrest : rest.head? ≠ some 'c' := h.clause.head?_ne (by decide) (by decide)
  -- both searches get to the cut with nothing to skip
  have hcut := mentionFrom_apart [] fun start hend hne =>
    h.length_lt_of_starts hname hinterface hend hne
  rw [List.append_nil, List.append_assoc, List.append_assoc] at hcut
  rcases hcut with ⟨found, tail, hback, -⟩ | ⟨hback, hother⟩
  · exact absurd (hnone.symm.trans hback) (by simp)
  -- behind the clause, what the search of the text skips does not matter
  have hmiddle : blanks ++ (extendsWord ++ (clause ++ rest)) =
      blanks ++ (extendsWord ++ clause) ++ rest := by simp only [List.append_assoc]
  have hnone_cut := hback.symm.trans hnone
  rw [hmiddle] at hnone_cut
  obtain ⟨left, hnone_rest, hstate⟩ := mentionFrom_eq_none_append hnone_cut
  have hskipped : 'c' ∉ rest.take left := by
    rcases hstate with hzero | ⟨start, hend, hne, heq⟩
    · rw [hzero, Nat.zero_sub, List.take_zero]
      exact List.not_mem_nil
    · exact h.notMem_of_straddle hname (List.take_prefix left rest) hend hne heq
  rw [mentionFrom_of_notMem hfirst hskipped] at hnone_rest
  rw [mention?, hother, mentionFrom_of_head_ne hfirst (by decide)]
  exact (mentionFrom_eq_none_of_head hfirst hrest).1 hnone_rest

/-- **What was found is found again** in what is left, without its clause. -/
theorem afterDeclaration?_eq (h : Cut name front generics blanks clause rest)
    (hname : IsIdentifier name)
    (hfound : afterDeclaration? name text =
      some (front, generics ++ (blanks ++ (extendsWord ++ (clause ++ rest))))) :
    afterDeclaration? name (front ++ (generics ++ ' ' :: rest)) =
      some (front, generics ++ ' ' :: rest) := by
  have hbound : isBoundary (generics ++ ' ' :: rest).head? = true := by
    have hspace : isBoundary (some ' ') = true := by decide
    exact isBoundary_append h.declares.boundary fun _ => hspace
  rw [afterDeclaration?_eq_some_iff] at hfound ⊢
  rcases hfound with hclass | ⟨hnone, hinterface⟩
  · exact .inl (mention?_append (List.append_ne_nil_of_left_ne_nil (by decide) _) hclass hbound)
  · -- an interface is found only if there is still no class
    refine .inr ⟨h.class_eq_none hname ?_ ?_, mention?_append
      (List.append_ne_nil_of_left_ne_nil (by decide) _) hinterface hbound⟩
    · obtain ⟨before, rfl, -⟩ := mention?_eq_some hinterface
      exact List.suffix_append before _
    · obtain ⟨before, rfl, rfl, -⟩ := mention?_eq_some hinterface
      rwa [← List.append_assoc] at hnone

end Cut

/-! ## One clause -/

/-- **What is done to a text:** nothing if what is found in it has no base, and else one cut. -/
theorem strip_cases (text name : Text) :
    (strip text name = text ∧
      ∀ front after, afterDeclaration? name text = some (front, after) → ¬ HasBase after) ∨
      ∃ front generics blanks clause rest, Cut name front generics blanks clause rest ∧
        afterDeclaration? name text =
          some (front, generics ++ (blanks ++ (extendsWord ++ (clause ++ rest)))) ∧
        strip text name = front ++ (generics ++ ' ' :: rest) := by
  cases hfound : afterDeclaration? name text with
  | none => exact .inl ⟨strip_of_not_found hfound, fun _ _ h => by simp at h⟩
  | some cut =>
    obtain ⟨front, after⟩ := cut
    by_cases hbase : HasBase after
    · obtain ⟨generics, blanks, body, rfl, hbased⟩ := hbase
      obtain ⟨clause, rest, rfl, hclause, hstrip⟩ := strip_of_base hbased hfound
      have hdeclares := (declares_of_afterDeclaration? hfound).2
      exact .inr ⟨front, generics, blanks, clause, rest, ⟨hdeclares, hbased, hclause⟩, rfl, hstrip⟩
    · refine .inl ⟨strip_of_not_base hfound hbase, fun front after h => ?_⟩
      obtain ⟨rfl, rfl⟩ := Prod.mk.inj (Option.some.inj h)
      exact hbase

/-- A second time, there is nothing to take out. -/
theorem strip_strip (hname : IsIdentifier name) (text : Text) :
    strip (strip text name) name = strip text name := by
  rcases strip_cases text name with ⟨hstrip, -⟩ | ⟨front, generics, blanks, clause, rest, hcut,
    hfound, hstrip⟩
  · rw [hstrip, hstrip]
  · rw [hstrip]
    exact strip_of_not_base (hcut.afterDeclaration?_eq hname hfound)
      (hcut.clause.not_hasBase hcut.based.generic)

/-- **One clause is taken out, and nothing else.** A text is left as it is if what is found in it
has no base. Else the clause behind the declaration that is found is replaced by a space, with the
word and the white space in front. What stands in front ends with the name, in a mention that stands
alone, and type parameters; what stands behind starts at the first place where the clause may end. A
second time nothing changes. The depth of brackets in type parameters never falls below zero while
they are read, and the depth in a clause is the greatest excess of opening brackets in what has been
read. -/
theorem strip_removes_one_clause (text name : Text) :
    ((strip text name = text ∧
        ∀ front after, afterDeclaration? name text = some (front, after) → ¬ HasBase after) ∨
      ∃ front generics blanks clause rest, Cut name front generics blanks clause rest ∧
        afterDeclaration? name text =
          some (front, generics ++ (blanks ++ (extendsWord ++ (clause ++ rest)))) ∧
        text = front ++ generics ++ blanks ++ extendsWord ++ clause ++ rest ∧
        strip text name = front ++ generics ++ [' '] ++ rest) ∧
      (IsIdentifier name → strip (strip text name) name = strip text name) ∧
      (∀ opened read : Text, ['<'] <+: opened → read <+: opened →
        (∀ n, groupFrom 0 opened = some n → read.length ≤ n) →
        (checkedDepth? 0 read).isSome = true) ∧
      ∀ read : Text,
        (∀ tail, tail <:+ read → tail.count '<' ≤ angleDepth read + tail.count '>') ∧
          ∃ tail, tail <:+ read ∧ tail.count '<' = angleDepth read + tail.count '>' := by
  refine ⟨?_, fun hname => strip_strip hname text,
    fun opened read => checkedDepth?_isSome, angleDepth_spec⟩
  rcases strip_cases text name with hnone | ⟨front, generics, blanks, clause, rest, hcut, hfound,
    hstrip⟩
  · exact .inl hnone
  · refine .inr ⟨front, generics, blanks, clause, rest, hcut, hfound, ?_, ?_⟩
    · rw [(declares_of_afterDeclaration? hfound).1]
      simp only [List.append_assoc]
    · rw [hstrip]
      simp only [List.append_assoc, List.singleton_append]

/-- A class with type parameters, and with a bracket that closes none in its clause. -/
def unbalanced : Text :=
  "class Box<T extends Number> extends Base<T>> implements List \x7b".toList

theorem strip_removes_one_clause_unbalanced :
    IsIdentifier "Box".toList ∧
      strip unbalanced "Box".toList = "class Box<T extends Number> implements List \x7b".toList ∧
      strip "class Box<T extends Number> implements List \x7b".toList "Box".toList =
        "class Box<T extends Number> implements List \x7b".toList := by
  have hname : IsIdentifier "Box".toList := ⟨by decide, by decide⟩
  have hstrip : strip unbalanced "Box".toList =
      "class Box<T extends Number> implements List \x7b".toList := by decide
  have hagain := (strip_removes_one_clause unbalanced "Box".toList).2.1 hname
  exact ⟨hname, hstrip, by rwa [hstrip] at hagain⟩

end Siblings.BaseClass
