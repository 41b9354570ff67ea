import Mathlib.Data.List.Infix
import Mathlib.Data.List.Pairwise
import Siblings.RuleSet

/-!
# The pass of a rule set

What a pass does at a place is decided by the matchers that start there. None of
them: the character is kept (`Idle`). Some of them: the longest is used (`Wins`).
The pass is opened here once; later proofs cite these lemmas.

* `longest?_eq_some_iff`, `longest?_eq_none_iff`: the rule that is used at a place.
* `pieces_kept`, `pieces_hit`: the pass after a kept character and after a hit.
* `pass_induction`: **a property of texts holds when kept characters and hits
  preserve it.**
* `pieces_congr`, `apply_congr`: only the rules whose matcher occurs in a text matter to its pass.
* `apply_append_cons`: a character that no matcher holds divides the pass.
* `rules_ofList`: the rules of a set are those of its list, each once.
-/

namespace Siblings.RuleSet

variable {set : RuleSet}

/-- No matcher of the set starts a text. -/
def Idle (set : RuleSet) (text : Text) : Prop := ∀ rule ∈ set.rules, ¬ rule.matcher <+: text

/-- **The rule that is used at the start of a text:** its matcher starts the text,
and no longer one does. -/
structure Wins (set : RuleSet) (rule : Rule) (text : Text) : Prop where
  mem : rule ∈ set.rules
  starts : rule.matcher <+: text
  longest : ∀ other ∈ set.rules, other.matcher <+: text →
    other.matcher.length ≤ rule.matcher.length

/-! ## The rule at a place -/

theorem longestOf?_eq_none {text : Text} {rules : List Rule}
    (h : longestOf? text rules = none) : ∀ rule ∈ rules, ¬ rule.matcher <+: text := by
  induction rules with
  | nil => simp
  | cons first rules ih =>
    simp only [longestOf?, List.isPrefixOf_iff_prefix] at h
    split at h
    · split at h
      · split at h <;> simp_all
      · simp at h
    · rename_i hfirst
      intro rule hrule
      rcases List.mem_cons.1 hrule with rfl | hrule
      · exact hfirst
      · exact ih h rule hrule

theorem longestOf?_eq_some {text : Text} {rules : List Rule} {rule : Rule}
    (h : longestOf? text rules = some rule) :
    rule ∈ rules ∧ rule.matcher <+: text ∧
      ∀ other ∈ rules, other.matcher <+: text → other.matcher.length ≤ rule.matcher.length := by
  induction rules generalizing rule with
  | nil => simp [longestOf?] at h
  | cons first rules ih =>
    simp only [longestOf?, List.isPrefixOf_iff_prefix] at h
    by_cases hfirst : first.matcher <+: text
    · rw [if_pos hfirst] at h
      cases hbest : longestOf? text rules with
      | none =>
        rw [hbest] at h
        obtain rfl : first = rule := by simpa using h
        have hnone := longestOf?_eq_none hbest
        refine ⟨List.mem_cons_self, hfirst, fun other hother hstart => ?_⟩
        rcases List.mem_cons.1 hother with rfl | hother
        · exact Nat.le_refl _
        · exact absurd hstart (hnone other hother)
      | some best =>
        obtain ⟨hmem, hstarts, hmax⟩ := ih hbest
        rw [hbest] at h
        simp only at h
        split at h
        · -- the first rule is longer than the best of the others
          obtain rfl : first = rule := by simpa using h
          refine ⟨List.mem_cons_self, hfirst, fun other hother hstart => ?_⟩
          rcases List.mem_cons.1 hother with rfl | hother
          · exact Nat.le_refl _
          · have := hmax other hother hstart
            omega
        · obtain rfl : best = rule := by simpa using h
          refine ⟨List.mem_cons_of_mem _ hmem, hstarts, fun other hother hstart => ?_⟩
          rcases List.mem_cons.1 hother with rfl | hother
          · omega
          · exact hmax other hother hstart
    · rw [if_neg hfirst] at h
      obtain ⟨hmem, hstarts, hmax⟩ := ih h
      refine ⟨List.mem_cons_of_mem _ hmem, hstarts, fun other hother hstart => ?_⟩
      rcases List.mem_cons.1 hother with rfl | hother
      · exact absurd hstart hfirst
      · exact hmax other hother hstart

/-- Two rules of a set with the same matcher are one. -/
theorem eq_of_matcher_eq {a b : Rule} (ha : a ∈ set.rules) (hb : b ∈ set.rules)
    (h : a.matcher = b.matcher) : a = b := by
  have : Std.Symm fun a b : Rule => a.matcher ≠ b.matcher := ⟨fun _ _ hab => hab.symm⟩
  by_contra hne
  exact set.distinct.forall ha hb hne h

/-- At most one rule is used at a place. -/
theorem Wins.unique {a b : Rule} {text : Text} (ha : set.Wins a text) (hb : set.Wins b text) :
    a = b := by
  have hlen : a.matcher.length = b.matcher.length :=
    Nat.le_antisymm (hb.longest a ha.mem ha.starts) (ha.longest b hb.mem hb.starts)
  have hpre := List.prefix_of_prefix_length_le ha.starts hb.starts hlen.le
  exact eq_of_matcher_eq ha.mem hb.mem (hpre.eq_of_length hlen)

theorem longest?_eq_none_iff {text : Text} : set.longest? text = none ↔ set.Idle text := by
  refine ⟨longestOf?_eq_none, fun hidle => ?_⟩
  cases h : set.longest? text with
  | none => rfl
  | some rule =>
    obtain ⟨hmem, hstarts, -⟩ := longestOf?_eq_some h
    exact absurd hstarts (hidle rule hmem)

theorem longest?_eq_some_iff {text : Text} {rule : Rule} :
    set.longest? text = some rule ↔ set.Wins rule text := by
  have hwins : ∀ {best}, set.longest? text = some best → set.Wins best text := fun h =>
    have ⟨hmem, hstarts, hmax⟩ := longestOf?_eq_some h
    ⟨hmem, hstarts, hmax⟩
  refine ⟨hwins, fun hw => ?_⟩
  cases h : set.longest? text with
  | none => exact absurd hw.starts (longest?_eq_none_iff.1 h rule hw.mem)
  | some best => rw [(hwins h).unique hw]

/-! ## The pieces of a text -/

theorem piecesFrom_eq (set : RuleSet) (skip : Nat) (text : Text) :
    set.piecesFrom skip text = set.pieces (text.drop skip) := by
  induction text generalizing skip with
  | nil => cases skip <;> simp [pieces, piecesFrom]
  | cons c rest ih =>
    cases skip with
    | zero => rfl
    | succ skip => rw [piecesFrom, ih, List.drop_succ_cons]

@[simp]
theorem pieces_nil : set.pieces [] = [] := rfl

/-- **Where no matcher starts, the character is kept.** -/
theorem pieces_kept {c : Char} {rest : Text} (h : set.Idle (c :: rest)) :
    set.pieces (c :: rest) = .kept c :: set.pieces rest := by
  rw [pieces, piecesFrom, longest?_eq_none_iff.2 h]
  rfl

/-- **Where a rule wins, its matcher is one piece.** -/
theorem pieces_hit {rule : Rule} {rest : Text} (h : set.Wins rule (rule.matcher ++ rest)) :
    set.pieces (rule.matcher ++ rest) = .hit rule :: set.pieces rest := by
  obtain ⟨c, tail, hm⟩ := List.exists_cons_of_ne_nil (set.nonempty rule h.mem)
  have hlong := longest?_eq_some_iff.2 h
  rw [hm, List.cons_append] at hlong ⊢
  rw [pieces, piecesFrom, hlong]
  simp [piecesFrom_eq, hm]

@[simp]
theorem apply_nil : set.apply [] = [] := rfl

theorem apply_kept {c : Char} {rest : Text} (h : set.Idle (c :: rest)) :
    set.apply (c :: rest) = c :: set.apply rest := by
  simp [apply, pieces_kept h, Piece.output]

theorem apply_hit {rule : Rule} {rest : Text} (h : set.Wins rule (rule.matcher ++ rest)) :
    set.apply (rule.matcher ++ rest) = rule.replacement ++ set.apply rest := by
  simp [apply, pieces_hit h, Piece.output]

/-- **Induction along a pass.** A property of texts holds of every text if it holds of
the empty one and is preserved by a kept character and by a hit in front. -/
@[elab_as_elim]
theorem pass_induction (set : RuleSet) {motive : Text → Prop} (text : Text)
    (nil : motive [])
    (kept : ∀ c rest, set.Idle (c :: rest) → motive rest → motive (c :: rest))
    (hit : ∀ rule rest, set.Wins rule (rule.matcher ++ rest) → motive rest →
      motive (rule.matcher ++ rest)) : motive text := by
  -- the rest after a hit is no tail of the text, so the induction is on the length
  induction hn : text.length using Nat.strong_induction_on generalizing text with
  | _ n ih =>
    cases text with
    | nil => exact nil
    | cons c rest =>
      cases hlong : set.longest? (c :: rest) with
      | none => exact kept c rest (longest?_eq_none_iff.1 hlong) (ih _ (by simp [← hn]) rest rfl)
      | some rule =>
        have hw := longest?_eq_some_iff.1 hlong
        obtain ⟨after, hafter⟩ := hw.starts
        have hpos := List.length_pos_iff.2 (set.nonempty rule hw.mem)
        have hlen := congrArg List.length hafter
        rw [List.length_append] at hlen
        rw [← hafter] at hw ⊢
        exact hit rule after hw (ih _ (by omega) after rfl)

/-- **What a pass sees of a text** depends only on the rules whose matcher occurs in it. -/
theorem pieces_congr {first second : RuleSet} {text : Text}
    (h : ∀ rule : Rule, rule.matcher <:+: text → (rule ∈ first.rules ↔ rule ∈ second.rules)) :
    first.pieces text = second.pieces text := by
  induction text using pass_induction first with
  | nil => rfl
  | kept c rest hidle ih =>
    have hidle' : second.Idle (c :: rest) := fun rule hrule hstarts =>
      hidle rule ((h rule hstarts.isInfix).2 hrule) hstarts
    have hrest := ih fun rule hin => h rule (hin.trans (List.suffix_cons c rest).isInfix)
    rw [pieces_kept hidle, pieces_kept hidle', hrest]
  | hit used rest hwins ih =>
    have hwins' : second.Wins used (used.matcher ++ rest) :=
      { mem := (h used hwins.starts.isInfix).1 hwins.mem
        starts := hwins.starts
        longest := fun other hother hstarts =>
          hwins.longest other ((h other hstarts.isInfix).2 hother) hstarts }
    have hrest := ih fun rule hin => h rule (hin.trans (List.suffix_append _ rest).isInfix)
    rw [pieces_hit hwins, pieces_hit hwins', hrest]

/-- **Rules whose matcher does not occur in a text** do not matter to what becomes of it. -/
theorem apply_congr {first second : RuleSet} {text : Text}
    (h : ∀ rule : Rule, rule.matcher <:+: text → (rule ∈ first.rules ↔ rule ∈ second.rules)) :
    first.apply text = second.apply text := by
  rw [apply, apply, pieces_congr h]

/-- **A text in which no matcher occurs** stays as it is. -/
theorem apply_eq_self_of_absent {text : Text}
    (h : ∀ rule ∈ set.rules, ¬ rule.matcher <:+: text) : set.apply text = text := by
  induction text with
  | nil => rfl
  | cons c rest ih =>
    have hidle : set.Idle (c :: rest) := fun rule hrule hstarts => h rule hrule hstarts.isInfix
    have hrest := ih fun rule hrule hin => h rule hrule (hin.trans (List.suffix_cons c rest).isInfix)
    rw [apply_kept hidle, hrest]

/-! ## Characters that no matcher holds -/

theorem prefix_append_cons_iff {c : Char} {matcher : Text} (hc : c ∉ matcher) (front back : Text) :
    matcher <+: front ++ c :: back ↔ matcher <+: front := by
  refine ⟨fun h => ?_, fun h => h.trans (List.prefix_append _ _)⟩
  have hfront : front <+: front ++ c :: back := List.prefix_append front (c :: back)
  rcases List.prefix_or_prefix_of_prefix h hfront with hm | ⟨tail, rfl⟩
  · exact hm
  · -- what the matcher has beyond the front would start with the character
    rw [List.prefix_append_right_inj] at h
    rcases List.prefix_cons_iff.1 h with rfl | ⟨more, rfl, -⟩
    · rw [List.append_nil]
    · simp at hc

/-- **A character that no matcher holds divides the pass.** -/
theorem apply_append_cons {c : Char} (hc : ∀ rule ∈ set.rules, c ∉ rule.matcher)
    (front back : Text) :
    set.apply (front ++ c :: back) = set.apply front ++ c :: set.apply back := by
  have hidle : ∀ text, set.Idle text → set.Idle (text ++ c :: back) := fun text h rule hrule =>
    mt (prefix_append_cons_iff (hc rule hrule) text back).1 (h rule hrule)
  induction front using pass_induction set with
  | nil =>
    refine apply_kept (hidle [] fun rule hrule hpre => ?_)
    exact set.nonempty rule hrule (List.prefix_nil.1 hpre)
  | kept e rest he ih =>
    have he' : set.Idle (e :: (rest ++ c :: back)) := hidle _ he
    rw [List.cons_append, apply_kept he', ih, apply_kept he, List.cons_append]
  | hit used rest hwins ih =>
    have hwins' : set.Wins used (used.matcher ++ (rest ++ c :: back)) := by
      refine ⟨hwins.mem, List.prefix_append _ _, fun other hother hpre => ?_⟩
      rw [← List.append_assoc] at hpre
      exact hwins.longest other hother ((prefix_append_cons_iff (hc other hother) _ _).1 hpre)
    rw [List.append_assoc, apply_hit hwins', ih, apply_hit hwins, List.append_assoc]

/-- A pass brings in no character that no replacement holds. -/
theorem not_mem_apply {c : Char} (hc : ∀ rule ∈ set.rules, c ∉ rule.replacement) {text : Text}
    (h : c ∉ text) : c ∉ set.apply text := by
  induction text using pass_induction set with
  | nil => simp
  | kept e rest he ih =>
    rw [List.mem_cons, not_or] at h
    rw [apply_kept he, List.mem_cons, not_or]
    exact ⟨h.1, ih h.2⟩
  | hit used rest hwins ih =>
    rw [List.mem_append, not_or] at h
    rw [apply_hit hwins, List.mem_append, not_or]
    exact ⟨hc used hwins.mem, ih h.2⟩

/-! ## Making a set -/

/-- A rule that is added is there already, or comes last and has a matcher of its own. -/
theorem insert_ok {next : RuleSet} {rule : Rule} (h : set.insert rule = .ok next) :
    (rule ∈ set.rules ∧ next.rules = set.rules) ∨
      (rule ∉ set.rules ∧ next.rules = set.rules ++ [rule]) := by
  unfold insert at h
  split at h
  · simp at h
  · split at h
    · rename_i existing hf
      split at h
      · rename_i hrep
        have hmem := List.mem_of_find?_eq_some hf
        have hmat : existing.matcher = rule.matcher := by simpa using List.find?_some hf
        have heq : existing = rule := by cases existing; cases rule; simp_all
        exact .inl ⟨heq ▸ hmem, by rw [Except.ok.inj h]⟩
      · simp at h
    · rename_i hf
      refine .inr ⟨fun hmem => ?_, by rw [← Except.ok.inj h]⟩
      simpa using List.find?_eq_none.1 hf rule hmem

/-- What a list adds to a set: its rules that are not there, each once, in order. -/
theorem rules_foldlM {rules : List Rule} {final : RuleSet}
    (h : rules.foldlM RuleSet.insert set = .ok final) :
    final.rules = set.rules ++ (rules.removeAll set.rules).eraseDups := by
  induction rules generalizing set with
  | nil => simp_all [List.foldlM, pure, Except.pure, List.removeAll]
  | cons rule rules ih =>
    rw [List.foldlM_cons] at h
    cases hadd : set.insert rule with
    | error e => rw [hadd] at h; simp [bind, Except.bind] at h
    | ok next =>
      rw [hadd] at h
      have hrest := ih h
      rcases insert_ok hadd with ⟨hmem, heq⟩ | ⟨hmem, heq⟩
      · rw [hrest, heq]; simp [List.removeAll, hmem]
      · rw [hrest, heq]
        simp [List.removeAll, hmem, List.eraseDups_cons, List.filter_filter,
          Bool.beq_eq_decide_eq, Bool.and_comm]

/-- **The rules of a set are those of its list,** each once, in the order in which they are
first seen. -/
theorem rules_ofList {rules : List Rule} (h : ofList rules = .ok set) :
    set.rules = rules.eraseDups := by
  have := rules_foldlM h
  simpa [empty, List.removeAll] using this

theorem mem_ofList {rules : List Rule} (h : ofList rules = .ok set) {rule : Rule} :
    rule ∈ set.rules ↔ rule ∈ rules := by
  rw [rules_ofList h, List.mem_eraseDups]

end Siblings.RuleSet
