import Mathlib.Data.List.Nodup
import Siblings.Proofs.Except
import Siblings.Proofs.Pass

/-!
# Which rules make a set

Rules are added to a set one after the other, and the first that cannot join those before it is
reported.

* `Compatible`: **rules that can be applied together.**
* `Objection`: why a rule cannot join those before it, and the error that says so.
* `ofList_eq_ok_iff`, `ofList_eq_error_iff`: the lists that make a set, and what the others report.
-/

namespace Siblings

namespace RuleSet

variable {set : RuleSet} {rules before : List Rule} {rule : Rule} {error : GenError}

/-- **Rules that can be applied together:** no matcher is empty, and rules with one matcher have
one replacement. -/
structure Compatible (rules : List Rule) : Prop where
  nonempty : ∀ rule ∈ rules, rule.matcher ≠ []
  agree : ∀ first ∈ rules, ∀ second ∈ rules, first.matcher = second.matcher →
    first.replacement = second.replacement

theorem Compatible.mono {others : List Rule} (h : Compatible rules)
    (hsub : ∀ rule ∈ others, rule ∈ rules) : Compatible others where
  nonempty := fun rule hrule => h.nonempty rule (hsub rule hrule)
  agree := fun first hfirst second hsecond =>
    h.agree first (hsub first hfirst) second (hsub second hsecond)

/-- Rules with distinct matchers can be applied together, if no matcher is empty. -/
theorem compatible_of_nodup (hnil : [] ∉ rules.map Rule.matcher)
    (hnodup : (rules.map Rule.matcher).Nodup) : Compatible rules where
  nonempty := fun rule hrule heq => hnil (heq ▸ List.mem_map_of_mem hrule)
  agree := fun first hfirst second hsecond heq => by
    rw [List.inj_on_of_nodup_map hnodup hfirst hsecond heq]

/-- **Why a rule cannot join the rules before it,** and the error that says so: it matches
nothing, or one of them has its matcher and another replacement. -/
inductive Objection (before : List Rule) (rule : Rule) : GenError → Prop where
  | empty (h : rule.matcher = []) : Objection before rule (.emptyMatcher rule.replacement)
  | conflict (earlier : Rule) (hmem : earlier ∈ before) (hmatcher : earlier.matcher = rule.matcher)
      (hreplacement : earlier.replacement ≠ rule.replacement) :
      Objection before rule
        (.conflictingTokens rule.matcher earlier.replacement rule.replacement)

/-- Rules with one to which the rules before it object are not compatible. -/
theorem Objection.not_compatible (h : Objection before rule error) (after : List Rule) :
    ¬ Compatible (before ++ rule :: after) := by
  intro hcompatible
  have hmem : rule ∈ before ++ rule :: after := by simp
  cases h with
  | empty hnil => exact hcompatible.nonempty rule hmem hnil
  | conflict earlier hearlier hmatcher hreplacement =>
    exact hreplacement
      (hcompatible.agree earlier (List.mem_append_left _ hearlier) rule hmem hmatcher)

theorem Objection.mono {others : List Rule} (h : Objection before rule error)
    (hsub : ∀ earlier ∈ before, earlier ∈ others) : Objection others rule error := by
  cases h with
  | empty hnil => exact .empty hnil
  | conflict earlier hmem hmatcher hne => exact .conflict earlier (hsub earlier hmem) hmatcher hne

/-! ## Adding a rule -/

/-- **A rule is refused** exactly if the rules that are there object to it. -/
theorem insert_eq_error_iff :
    set.insert rule = .error error ↔ Objection set.rules rule error := by
  unfold insert
  split
  · rename_i hnil
    rw [Except.error.injEq]
    constructor
    · rintro rfl
      exact .empty hnil
    · intro h
      cases h with
      | empty => rfl
      | conflict earlier hmem hmatcher =>
        -- no rule of a set has an empty matcher
        exact absurd (hmatcher.trans hnil) (set.nonempty earlier hmem)
  · rename_i hfilled
    split
    · rename_i existing hfind
      have hmem := List.mem_of_find?_eq_some hfind
      have hmatcher : existing.matcher = rule.matcher := by simpa using List.find?_some hfind
      split
      · rename_i hsame
        simp only [reduceCtorEq, false_iff]
        intro h
        cases h with
        | empty hnil => exact hfilled hnil
        | conflict earlier hearlier hother hne =>
          rw [eq_of_matcher_eq hearlier hmem (hother.trans hmatcher.symm)] at hne
          exact hne hsame
      · rename_i hdiffer
        rw [Except.error.injEq]
        constructor
        · rintro rfl
          exact .conflict existing hmem hmatcher hdiffer
        · intro h
          cases h with
          | empty hnil => exact absurd hnil hfilled
          | conflict earlier hearlier hother =>
            rw [eq_of_matcher_eq hearlier hmem (hother.trans hmatcher.symm)]
    · rename_i hfind
      simp only [reduceCtorEq, false_iff]
      intro h
      cases h with
      | empty hnil => exact hfilled hnil
      | conflict earlier hearlier hother =>
        simpa [hother] using List.find?_eq_none.1 hfind earlier hearlier

/-! ## Making a set -/

theorem compatible_of_ofList (h : ofList rules = .ok set) : Compatible rules where
  nonempty := fun rule hrule => set.nonempty rule ((mem_ofList h).2 hrule)
  agree := fun first hfirst second hsecond hmatcher => by
    rw [eq_of_matcher_eq ((mem_ofList h).2 hfirst) ((mem_ofList h).2 hsecond) hmatcher]

/-- A list that makes no set has a first rule to which those before it object. -/
theorem exists_objection (h : ofList rules = .error error) :
    ∃ before rule after, rules = before ++ rule :: after ∧ Compatible before ∧
      Objection before rule error := by
  obtain ⟨before, rule, after, state, rfl, hbefore, hrule⟩ := foldlM_eq_error_iff.1 h
  refine ⟨before, rule, after, rfl, compatible_of_ofList hbefore, ?_⟩
  exact (insert_eq_error_iff.1 hrule).mono fun _ hmem => (mem_ofList hbefore).1 hmem

/-- **A list makes a set** exactly if its rules are compatible. -/
theorem ofList_eq_ok_iff : (∃ set, ofList rules = .ok set) ↔ Compatible rules := by
  constructor
  · rintro ⟨set, h⟩
    exact compatible_of_ofList h
  · intro hcompatible
    cases h : ofList rules with
    | ok set => exact ⟨set, rfl⟩
    | error e =>
      obtain ⟨before, rule, after, rfl, -, hobj⟩ := exists_objection h
      exact absurd hcompatible (hobj.not_compatible after)

/-- **A list that makes no set reports its first rule** to which those before it object. -/
theorem ofList_eq_error_iff :
    ofList rules = .error error ↔
      ∃ before rule after, rules = before ++ rule :: after ∧ Compatible before ∧
        Objection before rule error := by
  constructor
  · exact exists_objection
  · rintro ⟨before, rule, after, rfl, hbefore, hobj⟩
    obtain ⟨state, hstate⟩ := ofList_eq_ok_iff.2 hbefore
    refine foldlM_eq_error_iff.2 ⟨before, rule, after, state, rfl, hstate, ?_⟩
    exact insert_eq_error_iff.2 (hobj.mono fun _ hmem => (mem_ofList hstate).2 hmem)

end RuleSet

end Siblings
