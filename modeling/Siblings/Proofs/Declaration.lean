import Mathlib.Data.List.Basic
import Mathlib.Data.List.Infix
import Siblings.BaseClass
import Siblings.Proofs.Text

/-!
# Declarations

A declaration is a mention of a class, behind `class` or `interface`, that stands alone. The search
reads a text once: when a mention does not stand alone, it goes on behind it. So what it finds
depends on all that stands in front, but not on what follows.

* `mentionFrom_eq_some`, `mentionFrom_ne_none`: what is found, and when something is.
* `mentionFrom_past`: **two texts with one beginning are read alike** as long as no mention in the
  beginning reaches to its end.
* `mentionFrom_append`: what is found stays found if something else follows.
* `mentionFrom_eq_none_append`: the state of a search that finds nothing, at the end of a part.
* `Declares`, `declares_of_afterDeclaration?`, `afterDeclaration?_eq_none_iff`: **what is found is a
  declaration,** and nothing is found only if nothing is declared.
-/

namespace Siblings.BaseClass

variable {mention name text front back : Text} {skip : Nat} {passed : Text}

/-! ## Mentions -/

/-- A mention at the place that is read is taken if it stands alone, and else passed over. -/
theorem mentionFrom_of_starts {c : Char} {rest tail : Text} (h : c :: rest = mention ++ tail) :
    mentionFrom mention 0 passed (c :: rest) =
      if isBoundary passed.head? && isBoundary tail.head? then
        some (passed.reverse ++ mention, tail)
      else mentionFrom mention (mention.length - 1) (c :: passed) rest := by
  have hstarts : mention.isPrefixOf (c :: rest) = true :=
    List.isPrefixOf_iff_prefix.2 ⟨tail, h.symm⟩
  have hdrop : (c :: rest).drop mention.length = tail := by rw [h, List.drop_left]
  rw [mentionFrom, if_pos hstarts]
  simp only [hdrop]

theorem mentionFrom_of_not_starts {c : Char} {rest : Text} (h : ¬ mention <+: c :: rest) :
    mentionFrom mention 0 passed (c :: rest) = mentionFrom mention 0 (c :: passed) rest := by
  rw [mentionFrom, if_neg fun hstarts => h (List.isPrefixOf_iff_prefix.1 hstarts)]

/-- A mention does not start with a character other than its first. -/
theorem mentionFrom_of_head_ne {c d : Char} {rest : Text} (hstart : mention.head? = some c)
    (hne : c ≠ d) :
    mentionFrom mention 0 passed (d :: rest) = mentionFrom mention 0 (d :: passed) rest := by
  refine mentionFrom_of_not_starts ?_
  rintro ⟨tail, htail⟩
  obtain ⟨more, rfl⟩ := List.head?_eq_some_iff.1 hstart
  exact hne (List.cons.inj htail).1

theorem mentionFrom_of_alone (hne : mention ≠ []) (hbefore : isBoundary passed.head? = true)
    (hafter : isBoundary back.head? = true) :
    mentionFrom mention 0 passed (mention ++ back) = some (passed.reverse ++ mention, back) := by
  obtain ⟨c, rest, hcons⟩ := List.exists_cons_of_ne_nil hne
  have htext : c :: (rest ++ back) = mention ++ back := by rw [hcons]; rfl
  rw [← htext, mentionFrom_of_starts htext, if_pos (by rw [hbefore, hafter]; rfl)]

/-- **What is found is a mention that stands alone,** behind all that is skipped. -/
theorem mentionFrom_eq_some (h : mentionFrom mention skip passed text = some (front, back)) :
    ∃ part, front = passed.reverse ++ (part ++ mention) ∧ text = part ++ (mention ++ back) ∧
      skip ≤ part.length ∧ isBoundary (part.reverse ++ passed).head? = true ∧
      isBoundary back.head? = true := by
  induction text generalizing skip passed with
  | nil => simp [mentionFrom] at h
  | cons c rest ih =>
    -- whatever is left to skip behind `c`, a mention that is found there is found here
    have hlater : ∀ left, skip ≤ left + 1 →
        mentionFrom mention left (c :: passed) rest = some (front, back) →
        ∃ part, front = passed.reverse ++ (part ++ mention) ∧
          c :: rest = part ++ (mention ++ back) ∧ skip ≤ part.length ∧
          isBoundary (part.reverse ++ passed).head? = true ∧ isBoundary back.head? = true := by
      intro left hleft hfound
      obtain ⟨part, rfl, rfl, hskip, hbefore, hafter⟩ := ih hfound
      refine ⟨c :: part, by simp, by simp, ?_, by simpa using hbefore, hafter⟩
      rw [List.length_cons]
      omega
    cases skip with
    | succ skip => exact hlater skip (Nat.le_refl _) h
    | zero =>
      by_cases hstarts : mention <+: c :: rest
      · obtain ⟨tail, htail⟩ := hstarts
        rw [mentionFrom_of_starts htail.symm] at h
        split at h
        · rename_i halone
          obtain ⟨rfl, rfl⟩ := Prod.mk.inj (Option.some.inj h)
          rw [Bool.and_eq_true] at halone
          exact ⟨[], rfl, htail.symm, Nat.le_refl 0, halone.1, halone.2⟩
        · exact hlater _ (Nat.zero_le _) h
      · rw [mentionFrom_of_not_starts hstarts] at h
        exact hlater 0 (Nat.zero_le _) h

/-- **Two texts with one beginning are read alike:** a search finds the same mention in both, or it
reaches the end of the part in front in the same state, if every mention that starts in that part
ends before the common beginning does. -/
theorem mentionFrom_past {part common other : Text}
    (hends : ∀ start, start <:+ part → start ≠ [] →
      mention <+: start ++ (common ++ back) ∨ mention <+: start ++ (common ++ other) →
        mention.length < start.length + common.length)
    (hskip : skip ≤ part.length + common.length) :
    (∃ found after,
        mentionFrom mention skip passed (part ++ (common ++ back)) = some (found, after ++ back) ∧
        mentionFrom mention skip passed (part ++ (common ++ other)) =
          some (found, after ++ other)) ∨
      ∃ left ≤ common.length,
        mentionFrom mention skip passed (part ++ (common ++ back)) =
          mentionFrom mention left (part.reverse ++ passed) (common ++ back) ∧
        mentionFrom mention skip passed (part ++ (common ++ other)) =
          mentionFrom mention left (part.reverse ++ passed) (common ++ other) := by
  -- both searches are in one state at every character of the part, which carries the induction
  induction part generalizing skip passed with
  | nil => exact .inr ⟨skip, by simpa using hskip, rfl, rfl⟩
  | cons c part ih =>
    have hlater := fun left hleft => @ih left (c :: passed)
      (fun start hstart => hends start (hstart.trans (List.suffix_cons c part))) hleft
    have hfirst := hends (c :: part) (List.suffix_refl _) (List.cons_ne_nil c part)
    rw [List.length_cons] at hskip hfirst
    rw [List.reverse_cons, List.append_assoc, List.singleton_append, List.cons_append,
      List.cons_append]
    cases skip with
    | succ skip => exact hlater skip (by omega)
    | zero =>
      by_cases hstarts : mention <+: c :: (part ++ (common ++ back)) ∨
          mention <+: c :: (part ++ (common ++ other))
      · -- the mention and a character behind it lie in the common beginning
        have hlength := hfirst hstarts
        have hinside : mention <+: c :: part ++ common := by
          rcases hstarts with hstarts | hstarts <;>
          · rw [← List.append_assoc, ← List.cons_append] at hstarts
            refine List.prefix_of_prefix_length_le hstarts (List.prefix_append _ _) ?_
            simp only [List.length_append, List.length_cons]
            omega
        obtain ⟨tail, htail⟩ := hinside
        obtain ⟨d, tail, rfl⟩ : ∃ d more, tail = d :: more := by
          refine List.exists_cons_of_ne_nil fun hnil => ?_
          have hsame := congrArg List.length htail
          simp only [hnil, List.append_nil, List.length_append, List.length_cons] at hsame
          omega
        have htext : ∀ rest, c :: (part ++ (common ++ rest)) = mention ++ (d :: tail ++ rest) := by
          intro rest
          rw [← List.append_assoc mention, htail, List.append_assoc, List.cons_append]
        rw [mentionFrom_of_starts (htext back), mentionFrom_of_starts (htext other)]
        by_cases halone : (isBoundary passed.head? && isBoundary (some d)) = true
        · exact .inl ⟨passed.reverse ++ mention, d :: tail, if_pos halone, if_pos halone⟩
        · rw [List.cons_append, List.cons_append, List.head?_cons, List.head?_cons,
            if_neg halone, if_neg halone]
          exact hlater _ (by omega)
      · rw [not_or] at hstarts
        rw [mentionFrom_of_not_starts hstarts.1, mentionFrom_of_not_starts hstarts.2]
        exact hlater 0 (Nat.zero_le _)

/-- Searches that find nothing in a part get to its end with nothing to skip, if every mention that
starts in the part ends in front of its last character. -/
theorem mentionFrom_apart {part other : Text} (passed : Text)
    (hends : ∀ start, start <:+ part → start ≠ [] →
      mention <+: start ++ back ∨ mention <+: start ++ other → mention.length < start.length) :
    (∃ found after, mentionFrom mention 0 passed (part ++ back) = some (found, after ++ back) ∧
        mentionFrom mention 0 passed (part ++ other) = some (found, after ++ other)) ∨
      mentionFrom mention 0 passed (part ++ back) =
          mentionFrom mention 0 (part.reverse ++ passed) back ∧
        mentionFrom mention 0 passed (part ++ other) =
          mentionFrom mention 0 (part.reverse ++ passed) other := by
  rcases @mentionFrom_past mention back 0 passed part [] other hends (Nat.zero_le _) with
    hfound | ⟨left, hleft, hback, hother⟩
  · exact .inl hfound
  · obtain rfl := Nat.le_zero.1 hleft
    exact .inr ⟨hback, hother⟩

/-- **What is found stays found** if something else follows it, as long as a word may end there. -/
theorem mentionFrom_append {part other : Text} (hne : mention ≠ [])
    (h : mentionFrom mention 0 passed (part ++ (mention ++ back)) =
      some (passed.reverse ++ (part ++ mention), back))
    (hother : isBoundary other.head? = true) :
    mentionFrom mention 0 passed (part ++ (mention ++ other)) =
      some (passed.reverse ++ (part ++ mention), other) := by
  have hends : ∀ start, start <:+ part → start ≠ [] →
      mention <+: start ++ (mention ++ back) ∨ mention <+: start ++ (mention ++ other) →
        mention.length < start.length + mention.length := by
    intro start _ hstart _
    have := List.length_pos_iff.2 hstart
    omega
  rcases mentionFrom_past hends (Nat.zero_le _) with
    ⟨found, after, hback, hfound⟩ | ⟨left, -, hback, hfound⟩
  · -- a mention is found inside the part, and nothing stands between it and what follows
    rw [hback] at h
    obtain ⟨rfl, hafter⟩ := Prod.mk.inj (Option.some.inj h)
    rw [hfound, List.append_left_eq_self.1 hafter]
    rfl
  · -- both searches are at the mention that is found, and nothing is left to skip
    rw [hback] at h
    obtain ⟨between, hfront, -, hskip, hbefore, -⟩ := mentionFrom_eq_some h
    have hnil : between = [] := by
      have hlength := congrArg List.length hfront
      simp only [List.length_append, List.length_reverse] at hlength
      exact List.length_eq_zero_iff.1 (by omega)
    subst hnil
    obtain rfl := Nat.le_zero.1 hskip
    rw [List.reverse_nil, List.nil_append] at hbefore
    rw [hfound, mentionFrom_of_alone hne hbefore hother, List.reverse_append, List.reverse_reverse,
      List.append_assoc]

/-- **A mention that stands alone is found, or one in front of it,** unless a mention that does not
stand alone reaches over its start: then an end of the mention, behind a place where a word may
begin, is a beginning of it. -/
theorem mentionFrom_ne_none {part : Text} (hne : mention ≠ [])
    (hborder : ∀ start tail, mention = start ++ tail → start ≠ [] → tail ≠ [] →
      isBoundary start.getLast? = true → ¬ tail <+: mention)
    (hskip : skip ≤ part.length) (hbefore : isBoundary (part.reverse ++ passed).head? = true)
    (hafter : isBoundary back.head? = true) :
    mentionFrom mention skip passed (part ++ (mention ++ back)) ≠ none := by
  induction part generalizing skip passed with
  | nil =>
    obtain rfl := Nat.le_zero.1 hskip
    have hbefore : isBoundary passed.head? = true := hbefore
    rw [List.nil_append, mentionFrom_of_alone hne hbefore hafter]
    exact Option.some_ne_none _
  | cons c part ih =>
    rw [List.reverse_cons, List.append_assoc, List.singleton_append] at hbefore
    rw [List.length_cons] at hskip
    have hlater := fun left hleft => @ih left (c :: passed) hleft hbefore
    cases skip with
    | succ skip => exact hlater skip (by omega)
    | zero =>
      rw [List.cons_append]
      by_cases hstarts : mention <+: c :: (part ++ (mention ++ back))
      · rw [mentionFrom_of_starts hstarts.choose_spec.symm]
        split
        · exact Option.some_ne_none _
        · refine hlater _ ?_
          by_contra hlength
          -- this mention ends in a beginning of the one that stands alone
          have hover : c :: part <+: mention := by
            refine List.prefix_of_prefix_length_le ?_ hstarts (by rw [List.length_cons]; omega)
            exact List.prefix_append (c :: part) _
          obtain ⟨tail, htail⟩ := hover
          have hin : tail <+: mention ++ back := by
            rw [← htail, ← List.cons_append, List.prefix_append_right_inj, htail] at hstarts
            exact hstarts
          have hsize := congrArg List.length htail
          rw [List.length_append, List.length_cons] at hsize
          have hshort : tail <+: mention :=
            List.prefix_of_prefix_length_le hin (List.prefix_append _ _) (by omega)
          refine hborder (c :: part) tail htail.symm (List.cons_ne_nil c part) ?_ ?_ hshort
          · rintro rfl
            rw [List.length_nil] at hsize
            omega
          · rw [← List.head?_reverse, List.reverse_cons]
            cases hturned : part.reverse <;>
            · rw [hturned] at hbefore
              exact hbefore
      · rw [mentionFrom_of_not_starts hstarts]
        exact hlater 0 (Nat.zero_le _)

/-! ## States of the search -/

/-- What is skipped does not matter if no mention starts in it. -/
theorem mentionFrom_of_notMem {c : Char} (hstart : mention.head? = some c)
    (h : c ∉ text.take skip) :
    mentionFrom mention skip passed text = mentionFrom mention 0 passed text := by
  induction text generalizing skip passed with
  | nil => rfl
  | cons d rest ih =>
    cases skip with
    | zero => rfl
    | succ skip =>
      rw [List.take_succ_cons, List.mem_cons, not_or] at h
      rw [mentionFrom_of_head_ne hstart h.1, ← ih h.2]
      rfl

/-- Of what stands in front, only the last character matters to whether a mention is found. -/
theorem mentionFrom_eq_none_congr {other : Text} (h : passed.head? = other.head?) :
    mentionFrom mention skip passed text = none ↔ mentionFrom mention skip other text = none := by
  induction text generalizing skip passed other with
  | nil => simp [mentionFrom]
  | cons c rest ih =>
    have hlater : ∀ left, mentionFrom mention left (c :: passed) rest = none ↔
        mentionFrom mention left (c :: other) rest = none := fun left => ih rfl
    cases skip with
    | succ skip => exact hlater skip
    | zero =>
      by_cases hstarts : mention <+: c :: rest
      · obtain ⟨tail, htail⟩ := hstarts
        rw [mentionFrom_of_starts htail.symm, mentionFrom_of_starts htail.symm, h]
        split
        · simp
        · exact hlater _
      · rw [mentionFrom_of_not_starts hstarts, mentionFrom_of_not_starts hstarts]
        exact hlater 0

/-- What stands in front of a text does not matter if no mention is at its start. -/
theorem mentionFrom_eq_none_of_head {c : Char} {other : Text} (hstart : mention.head? = some c)
    (hhead : text.head? ≠ some c) :
    mentionFrom mention 0 passed text = none ↔ mentionFrom mention 0 other text = none := by
  cases text with
  | nil => exact Iff.rfl
  | cons d rest =>
    have hne : c ≠ d := fun heq => hhead (congrArg some heq.symm)
    rw [mentionFrom_of_head_ne hstart hne, mentionFrom_of_head_ne hstart hne]
    exact mentionFrom_eq_none_congr rfl

/-- A search that finds nothing gets to the end of a part. What it has to skip there belongs to a
mention that starts in the part. -/
theorem mentionFrom_eq_none_append {part : Text}
    (h : mentionFrom mention skip passed (part ++ back) = none) :
    ∃ left, mentionFrom mention left (part.reverse ++ passed) back = none ∧
      (left = skip - part.length ∨
        ∃ start, start <:+ part ∧ start ≠ [] ∧ mention = start ++ back.take left) := by
  induction part generalizing skip passed with
  | nil => exact ⟨skip, h, .inl rfl⟩
  | cons c part ih =>
    rw [List.cons_append] at h
    rw [List.reverse_cons, List.append_assoc, List.singleton_append, List.length_cons]
    have hlater : ∀ state, mentionFrom mention state (c :: passed) (part ++ back) = none →
        ∃ left, mentionFrom mention left (part.reverse ++ c :: passed) back = none ∧
          (left = state - part.length ∨
            ∃ start, start <:+ c :: part ∧ start ≠ [] ∧ mention = start ++ back.take left) := by
      intro state hstate
      obtain ⟨left, hnone, hleft | ⟨start, hstart, hne, heq⟩⟩ := ih hstate
      · exact ⟨left, hnone, .inl hleft⟩
      · exact ⟨left, hnone, .inr ⟨start, hstart.trans (List.suffix_cons c part), hne, heq⟩⟩
    cases skip with
    | succ skip =>
      rw [Nat.add_sub_add_right]
      exact hlater skip h
    | zero =>
      rw [Nat.zero_sub]
      by_cases hstarts : mention <+: c :: (part ++ back)
      · rw [mentionFrom_of_starts hstarts.choose_spec.symm] at h
        split at h
        · simp at h
        · obtain ⟨left, hnone, hleft | hstart⟩ := hlater _ h
          · refine ⟨left, hnone, ?_⟩
            by_cases hzero : left = 0
            · exact .inl hzero
            · -- the mention at `c` reaches over the end of the part
              refine .inr ⟨c :: part, List.suffix_refl _, List.cons_ne_nil c part, ?_⟩
              have hlength : mention.length = (c :: part).length + left := by
                rw [List.length_cons]
                omega
              rw [← List.take_length_add_append, ← hlength]
              exact List.prefix_iff_eq_take.1 hstarts
          · exact ⟨left, hnone, .inr hstart⟩
      · rw [mentionFrom_of_not_starts hstarts] at h
        obtain ⟨left, hnone, hleft | hstart⟩ := hlater 0 h
        · exact ⟨left, hnone, .inl (by rw [hleft, Nat.zero_sub])⟩
        · exact ⟨left, hnone, .inr hstart⟩

/-! ## Identifiers -/

/-- **An identifier:** letters, numbers, `_` and `$`. -/
structure IsIdentifier (name : Text) : Prop where
  nonempty : name ≠ []
  letters : name.all Text.isIdentChar = true

theorem isBoundary_some {c : Char} : isBoundary (some c) = true ↔ Text.isIdentChar c = false := by
  rw [isBoundary, Bool.not_eq_true']

/-- A word may end in front of a text that starts as one does in front of which it may end. -/
theorem isBoundary_append {part other : Text} (h : isBoundary (part ++ text).head? = true)
    (hother : part = [] → isBoundary other.head? = true) :
    isBoundary (part ++ other).head? = true := by
  cases part with
  | nil => exact hother rfl
  | cons c part => exact h

/-- A text ends with the last character of its end. -/
theorem getLast?_eq_of_suffix {start : Text} (hend : start <:+ text) (hne : start ≠ []) :
    start.getLast? = text.getLast? := by
  obtain ⟨more, rfl⟩ := hend
  exact (List.getLast?_append_of_ne_nil more hne).symm

/-- A word may begin behind a text as it may behind what follows a boundary in it. -/
theorem isBoundary_getLast? {part tail : Text} {c : Char} (hc : isBoundary (some c) = true) :
    isBoundary (part ++ c :: tail).getLast? = true ↔ isBoundary tail.getLast? = true := by
  rw [List.getLast?_append_of_ne_nil _ (List.cons_ne_nil c tail)]
  cases tail with
  | nil => exact iff_of_true hc rfl
  | cons d tail => rw [List.getLast?_cons_cons]

/-- White space does not stand in identifiers. -/
theorem isBoundary_of_isBlank {c : Char} (h : Text.isBlank c = true) :
    isBoundary (some c) = true := by
  rw [isBoundary_some]
  exact Text.forall_isBlank (P := fun c => Text.isIdentChar c = false) (by decide +kernel) h

theorem IsIdentifier.notMem {c : Char} (h : IsIdentifier name) (hc : isBoundary (some c) = true) :
    c ∉ name := fun hmem => by
  have hident := List.all_eq_true.1 h.letters c hmem
  rw [isBoundary_some.1 hc] at hident
  exact Bool.false_ne_true hident

/-- An identifier at the start of a word, and of what follows the word, is at the start of the
word. -/
theorem IsIdentifier.starts_word {word rest : Text} (h : IsIdentifier name)
    (hname : name <+: word ++ rest) (hrest : isBoundary rest.head? = true) : name <+: word := by
  rcases List.prefix_or_prefix_of_prefix hname (List.prefix_append word rest) with
    hshort | ⟨part, rfl⟩
  · exact hshort
  · rw [List.prefix_append_right_inj] at hname
    cases part with
    | nil => rw [List.append_nil]
    | cons c part =>
      obtain ⟨tail, rfl⟩ := hname
      exact absurd (List.mem_append_right word List.mem_cons_self) (h.notMem hrest)

/-! ## Declarations -/

/-- What stands in front of the name of a class. -/
def classWord : Text := "class ".toList

/-- What stands in front of the name of an interface. -/
def interfaceWord : Text := "interface ".toList

/-- **A text cut behind the name in a declaration,** where the mention stands alone. -/
def Declares (name front after : Text) : Prop :=
  ∃ before word, (word = classWord ∨ word = interfaceWord) ∧ front = before ++ (word ++ name) ∧
    isBoundary before.getLast? = true ∧ isBoundary after.head? = true

/-- The words are identifiers with a space behind. Both have a `c` in them. -/
theorem exists_letters {word : Text} (hword : word = classWord ∨ word = interfaceWord) :
    ∃ letters, word = letters ++ [' '] ∧ IsIdentifier letters ∧ 'c' ∈ letters := by
  rcases hword with rfl | rfl
  · exact ⟨"class".toList, rfl, ⟨by decide, by decide⟩, by decide⟩
  · exact ⟨"interface".toList, rfl, ⟨by decide, by decide⟩, by decide⟩

/-- The one character of a mention that does not stand in identifiers is the space in it. -/
theorem mention_eq_append_cons {word part tail : Text} {c : Char} (hname : IsIdentifier name)
    (hword : word = classWord ∨ word = interfaceWord) (hc : isBoundary (some c) = true)
    (h : word ++ name = part ++ c :: tail) : word = part ++ [' '] ∧ c = ' ' ∧ tail = name := by
  obtain ⟨letters, rfl, hletters, -⟩ := exists_letters hword
  rw [List.append_assoc, List.singleton_append,
    List.append_cons_inj_of_notMem (hletters.notMem hc) (hname.notMem hc)] at h
  obtain ⟨rfl, rfl, rfl⟩ := h
  exact ⟨rfl, rfl, rfl⟩

theorem Declares.boundary {after : Text} (h : Declares name front after) :
    isBoundary after.head? = true := by
  obtain ⟨-, -, -, -, -, hafter⟩ := h
  exact hafter

theorem Declares.suffix {after : Text} (h : Declares name front after) : name <:+ front := by
  obtain ⟨before, word, -, rfl, -, -⟩ := h
  exact (List.suffix_append word name).trans (List.suffix_append before _)

/-- A mention that is found stands alone. -/
theorem mention?_eq_some (h : mention? mention text = some (front, back)) :
    ∃ before, front = before ++ mention ∧ text = before ++ (mention ++ back) ∧
      isBoundary before.getLast? = true ∧ isBoundary back.head? = true := by
  obtain ⟨before, rfl, rfl, -, hbefore, hafter⟩ := mentionFrom_eq_some h
  rw [List.append_nil, List.head?_reverse] at hbefore
  exact ⟨before, rfl, rfl, hbefore, hafter⟩

/-- A mention that stands alone is found, or one in front of it, unless the name is a beginning of
the word: such a mention can start in the name of another. -/
theorem mention?_ne_none {word before after : Text} (hname : IsIdentifier name)
    (hword : word = classWord ∨ word = interfaceWord) (hnot : ¬ name <+: word)
    (hbefore : isBoundary before.getLast? = true) (hafter : isBoundary after.head? = true) :
    mention? (word ++ name) (before ++ (word ++ name ++ after)) ≠ none := by
  have hspace : ' ' ∈ word := by
    rcases hword with rfl | rfl <;> decide
  refine mentionFrom_ne_none (List.append_ne_nil_of_right_ne_nil _ hname.nonempty) ?_
    (Nat.zero_le _) ?_ hafter
  · intro start tail heq hne _ hbound htail
    obtain ⟨inner, c, rfl⟩ := (List.eq_nil_or_concat' start).resolve_left hne
    rw [List.getLast?_concat] at hbound
    rw [List.append_assoc, List.singleton_append] at heq
    obtain ⟨-, -, rfl⟩ := mention_eq_append_cons hname hword hbound heq
    -- an end of the mention behind a boundary is the whole name, which has no space in it
    rcases List.prefix_or_prefix_of_prefix htail (List.prefix_append word tail) with hshort | hlong
    · exact hnot hshort
    · exact hname.notMem (by decide) (hlong.subset hspace)
  · rwa [List.append_nil, List.head?_reverse]

/-- An interface is what is found if there is no class. -/
theorem afterDeclaration?_eq_some_iff :
    afterDeclaration? name text = some (front, back) ↔
      mention? (classWord ++ name) text = some (front, back) ∨
        mention? (classWord ++ name) text = none ∧
          mention? (interfaceWord ++ name) text = some (front, back) := by
  unfold afterDeclaration?
  rw [Option.orElse_eq_orElse, Option.orElse_eq_or, Option.or_eq_some_iff]
  rfl

/-- **What is found is a declaration.** -/
theorem declares_of_afterDeclaration? (h : afterDeclaration? name text = some (front, back)) :
    text = front ++ back ∧ Declares name front back := by
  have hdeclares : ∀ word, (word = classWord ∨ word = interfaceWord) →
      mention? (word ++ name) text = some (front, back) →
      text = front ++ back ∧ Declares name front back := by
    intro word hword hfound
    obtain ⟨before, rfl, rfl, hbefore, hafter⟩ := mention?_eq_some hfound
    exact ⟨(List.append_assoc ..).symm, before, word, hword, rfl, hbefore, hafter⟩
  rcases afterDeclaration?_eq_some_iff.1 h with hclass | ⟨-, hinterface⟩
  · exact hdeclares classWord (.inl rfl) hclass
  · exact hdeclares interfaceWord (.inr rfl) hinterface

/-- **Nothing is found only if nothing is declared,** unless the name is a beginning of a word. -/
theorem afterDeclaration?_eq_none_iff (hname : IsIdentifier name) (hclass : ¬ name <+: classWord)
    (hinterface : ¬ name <+: interfaceWord) :
    afterDeclaration? name text = none ↔
      ∀ front after, front ++ after = text → ¬ Declares name front after := by
  constructor
  · rintro hnone front after rfl ⟨before, word, hword, rfl, hbefore, hafter⟩
    have hboth : mention? (classWord ++ name) (before ++ (word ++ name) ++ after) = none ∧
        mention? (interfaceWord ++ name) (before ++ (word ++ name) ++ after) = none := by
      unfold afterDeclaration? at hnone
      rwa [Option.orElse_eq_orElse, Option.orElse_eq_or, Option.or_eq_none_iff] at hnone
    rw [List.append_assoc] at hboth
    rcases hword with rfl | rfl
    · exact mention?_ne_none hname (.inl rfl) hclass hbefore hafter hboth.1
    · exact mention?_ne_none hname (.inr rfl) hinterface hbefore hafter hboth.2
  · intro hnone
    rw [← Option.not_isSome_iff_eq_none, Option.isSome_iff_exists]
    rintro ⟨⟨front, after⟩, hfound⟩
    obtain ⟨rfl, hdeclares⟩ := declares_of_afterDeclaration? hfound
    exact hnone front after rfl hdeclares

/-- A mention that is found stays found if something else follows it. -/
theorem mention?_append {other : Text} (hne : mention ≠ [])
    (h : mention? mention text = some (front, back)) (hother : isBoundary other.head? = true) :
    mention? mention (front ++ other) = some (front, other) := by
  obtain ⟨before, rfl, rfl, -, -⟩ := mention?_eq_some h
  rw [List.append_assoc]
  exact mentionFrom_append hne h hother

end Siblings.BaseClass
