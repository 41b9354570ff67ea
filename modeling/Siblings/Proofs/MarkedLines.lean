import Siblings.Proofs.Failure

/-!
# The replacement on marked lines

In the narrower scope a line is changed by the rules of the class, of the idioms, and of the fields
whose marker it carries. Lines with the same markers share a rule set, which is made for the first
of them; so what becomes of a line might depend on the lines in front of it. It does not, since
a set at hand is the one that would be made (`Sound`).

* `apply_eq_self_of_unmarked`: a line without markers, class and idioms is left alone by its rules.
* `substituteMarked_line_by_line`: **each line is changed by its own rules,** whatever stands in
  front of it.
-/

namespace Siblings.Derivation

variable {d : Derivation} {set : RuleSet}

/-- The rules for a line: the class, the idioms, and the fields whose marker it carries. -/
def rulesFor (d : Derivation) (line : Text) : List Rule :=
  d.rulesOf (Field.all.filter fun field => Marker.carriedBy line field.marker)

/-- **A line that carries no marker of a field** and holds neither the class nor an idiom. Tokens of
fields it may hold. -/
structure Unmarked (d : Derivation) (line : Text) : Prop where
  noField : ∀ field : Field, Marker.carriedBy line field.marker = false
  noClass : ¬ d.defaultClass <:+: line
  noIdiom : ∀ rule ∈ d.idiomRules, ¬ rule.matcher <:+: line

/-- The rules for a line without markers are those of the class and of the idioms. -/
theorem rulesFor_of_unmarked {line : Text} (h : d.Unmarked line) :
    d.rulesFor line = ⟨d.defaultClass, d.targetClass⟩ :: d.idiomRules := by
  have hfields : (Field.all.filter fun field => Marker.carriedBy line field.marker) = [] :=
    List.filter_eq_nil_iff.2 fun field _ => by simp [h.noField field]
  rw [rulesFor, hfields, rulesOf, List.map_nil, List.append_nil]

/-- **A line without markers, class and idioms** is left alone by its rules. -/
theorem apply_eq_self_of_unmarked {line : Text} (h : d.Unmarked line)
    (hset : RuleSet.ofList (d.rulesFor line) = .ok set) : set.apply line = line := by
  refine RuleSet.apply_eq_self_of_absent fun rule hrule => ?_
  rw [RuleSet.mem_ofList hset, rulesFor_of_unmarked h] at hrule
  rcases List.mem_cons.1 hrule with rfl | hidiom
  · exact h.noClass
  · exact h.noIdiom rule hidiom

theorem substituteLine_eq_ok_iff {line part : Text} :
    d.substituteLine line = .ok part ↔
      ∃ set, RuleSet.ofList (d.rulesFor line) = .ok set ∧ part = set.apply line := by
  rw [substituteLine, rules_fieldsOn, map_eq_ok_iff, rulesFor]
  exact exists_congr fun set => and_congr_right fun _ => eq_comm

/-- **The replacement on marked lines works line by line.** It does not depend on the rule sets
that are at hand when it starts, as long as they are right for their fields. It succeeds exactly
if the rules for every line make a set; then its result has, for each line in turn, what these
rules make of the line. A line that carries no marker and holds neither the class nor an idiom is
there as it was, whatever tokens of fields it holds. -/
theorem substituteMarked_line_by_line (d : Derivation) (text : Text) :
    (∀ cache, d.Sound cache →
        substituteLines d.rules cache (Text.lines text) = d.substituteMarked text) ∧
      ∀ result, d.substituteMarked text = .ok result ↔
        ∃ image : Text → Text, result = Text.mapLines image text ∧
          ∀ line ∈ Text.lines text,
            (∃ set, RuleSet.ofList (d.rulesFor line) = .ok set ∧ image line = set.apply line) ∧
              (d.Unmarked line → image line = line) := by
  refine ⟨fun cache hcache => ?_, fun result => ?_⟩
  · rw [substituteLines_eq hcache, substituteMarked_eq]
  · rw [substituteMarked_eq_ok_iff]
    refine exists_congr fun image => and_congr_right fun _ => forall₂_congr fun line _ => ?_
    rw [substituteLine_eq_ok_iff]
    constructor
    · rintro ⟨set, hset, himage⟩
      refine ⟨⟨set, hset, himage⟩, fun hline => ?_⟩
      rw [himage, apply_eq_self_of_unmarked hline hset]
    · rintro ⟨hset, -⟩
      exact hset

end Siblings.Derivation
