import Siblings.Proofs.Acceptance
import Siblings.Proofs.Derivation

/-!
# When a derivation fails

A derivation fails for want of a token, or because rules cannot be applied together. The tokens
come first; what is done after the replacement never fails.

* `Complete`: the master holds every token that the derivation needs.
* `ruleLists`: the lists of rules that a derivation needs, in order.
* `Fails`: **the failures of a derivation,** one constructor for each cause.
* `missing?_eq_some_iff`, `substituted_eq_error_iff`: the two stages that can fail.
* `run_fails_iff`: **a derivation fails as `Fails` says, and succeeds otherwise.**
-/

namespace Siblings

namespace Derivation

open RuleSet (Compatible Objection)

variable {d : Derivation} {error : GenError}

/-! ## Tokens -/

/-- **Whether the master holds the token of a field where it counts:** anywhere, or on a line
that carries the marker of the field. -/
def Holds (d : Derivation) (field : Field) : Prop :=
  match d.options.scope with
  | .global => d.default.get field <:+: d.master
  | .marked => ∃ line ∈ (Text.lines d.master).map Text.bareLine,
      Marker.carriedBy line field.marker = true ∧ d.default.get field <:+: line

/-- **The master holds every token that the derivation needs:** its class and the required
fields. -/
def Complete (d : Derivation) : Prop :=
  d.defaultClass <:+: d.master ∧ ∀ field ∈ d.options.required.toList, d.Holds field

theorem holdsToken_iff {field : Field} : d.holdsToken field = true ↔ d.Holds field := by
  unfold holdsToken Holds
  cases d.options.scope with
  | global => exact Text.includes_iff
  | marked => simp [Text.includes_iff]

theorem complete_iff : d.missing? = none ↔ d.Complete := by
  rw [missing?_eq_none_iff, Text.includes_iff]
  simp only [holdsToken_iff]
  rfl

/-- **The token that is missing first:** the class, or else the first required field. -/
theorem missing?_eq_some_iff :
    d.missing? = some error ↔
      (¬ d.defaultClass <:+: d.master ∧
        error = .missingToken d.targetClass .className d.defaultClass) ∨
      (d.defaultClass <:+: d.master ∧
        ∃ front field back, d.options.required.toList = front ++ field :: back ∧
          (∀ other ∈ front, d.Holds other) ∧ ¬ d.Holds field ∧
          error = .missingToken d.targetClass (.field field) (d.default.get field)) := by
  unfold missing?
  cases hclass : Text.includes d.defaultClass d.master with
  | false =>
    have hnot := Text.includes_eq_false_iff.1 hclass
    simp [hnot, eq_comm]
  | true =>
    have hin := Text.includes_iff.1 hclass
    simp only [Bool.not_true, Bool.false_eq_true, if_false, hin, not_true_eq_false, false_and,
      true_and, false_or, Option.map_eq_some_iff, List.find?_eq_some_iff_append]
    simp only [Bool.not_not, Bool.not_eq_true', ← Bool.not_eq_true, holdsToken_iff]
    constructor
    · rintro ⟨field, ⟨hfield, front, back, heq, hfront⟩, rfl⟩
      exact ⟨front, field, back, heq, hfront, hfield, rfl⟩
    · rintro ⟨front, field, back, heq, hfront, hfield, rfl⟩
      exact ⟨field, ⟨hfield, front, back, heq, hfront⟩, rfl⟩

/-! ## Rules -/

/-- The rules where the tokens of some fields are replaced: the class, the idioms of the active
tables, and those fields. -/
def rulesOf (d : Derivation) (fields : List Field) : List Rule :=
  ⟨d.defaultClass, d.targetClass⟩ :: d.idiomRules ++ fields.map d.fieldRule

/-- **The lists of rules that a derivation needs,** in order: one of every field for the whole
text, or one for each line of the shaped text, of the fields whose marker the line carries. -/
def ruleLists (d : Derivation) : List (List Rule) :=
  match d.options.scope with
  | .global => [d.rulesOf Field.all]
  | .marked => (Text.lines d.shaped).map fun line =>
      d.rulesOf (Field.all.filter fun field => Marker.carriedBy line field.marker)

theorem rules_all : d.rules .all = RuleSet.ofList (d.rulesOf Field.all) := rfl

theorem rules_fieldsOn (line : Text) :
    d.rules (fieldsOn line) = RuleSet.ofList
      (d.rulesOf (Field.all.filter fun field => Marker.carriedBy line field.marker)) := by
  have hfields : (fieldsOn line).toList =
      Field.all.filter fun field => Marker.carriedBy line field.marker :=
    List.filter_congr fun field _ => contains_fieldsOn line field
  rw [rules, ruleList, hfields]
  rfl

/-- Rules that can be applied together for every field can be for some of them. -/
theorem compatible_rulesOf (h : Compatible (d.rulesOf Field.all)) (fields : List Field) :
    Compatible (d.rulesOf fields) := by
  refine h.mono fun rule hrule => ?_
  unfold rulesOf at hrule ⊢
  rcases List.mem_append.1 hrule with hrule | hrule
  · exact List.mem_append_left _ hrule
  · obtain ⟨field, -, rfl⟩ := List.mem_map.1 hrule
    exact List.mem_append_right _ (List.mem_map_of_mem (Field.mem_all field))

theorem compatible_ruleLists (h : Compatible (d.rulesOf Field.all)) :
    ∀ rules ∈ d.ruleLists, Compatible rules := by
  intro rules hrules
  unfold ruleLists at hrules
  split at hrules
  · rw [List.mem_singleton.1 hrules]
    exact h
  · obtain ⟨line, -, rfl⟩ := List.mem_map.1 hrules
    exact compatible_rulesOf h _

theorem exists_substituteLine_iff {line : Text} :
    (∃ text, d.substituteLine line = .ok text) ↔ Compatible
      (d.rulesOf (Field.all.filter fun field => Marker.carriedBy line field.marker)) := by
  rw [substituteLine, exists_map_eq_ok_iff, rules_fieldsOn, RuleSet.ofList_eq_ok_iff]

/-- **The replacement succeeds** exactly if every list of rules can be applied together. -/
theorem exists_substituted_iff :
    (∃ text, d.substituted = .ok text) ↔ ∀ rules ∈ d.ruleLists, Compatible rules := by
  unfold substituted ruleLists
  cases d.options.scope with
  | global =>
    dsimp only
    rw [exists_map_eq_ok_iff, rules_all, RuleSet.ofList_eq_ok_iff, List.forall_mem_singleton]
  | marked =>
    dsimp only
    rw [exists_substituteMarked_iff, List.forall_mem_map]
    simp only [exists_substituteLine_iff]

/-- **The replacement fails** with the error of the first list that makes no set of rules. -/
theorem substituted_eq_error_iff :
    d.substituted = .error error ↔
      ∃ front rules back, d.ruleLists = front ++ rules :: back ∧
        (∀ earlier ∈ front, Compatible earlier) ∧ RuleSet.ofList rules = .error error := by
  unfold substituted ruleLists
  cases d.options.scope with
  | global =>
    dsimp only
    rw [map_eq_error_iff, rules_all]
    constructor
    · intro h
      exact ⟨[], _, [], rfl, by simp, h⟩
    · rintro ⟨front, rules, back, heq, -, h⟩
      rcases List.cons_eq_append_iff.1 heq with ⟨rfl, hcons⟩ | ⟨tail, -, hnil⟩
      · obtain ⟨rfl, -⟩ := List.cons.inj hcons
        exact h
      · simp at hnil
  | marked =>
    dsimp only
    rw [substituteMarked_eq, map_eq_error_iff, mapM_eq_error_iff]
    simp only [exists_substituteLine_iff]
    constructor
    · rintro ⟨before, line, after, heq, hbefore, hline⟩
      refine ⟨_, _, _, by rw [heq, List.map_append, List.map_cons], ?_, ?_⟩
      · simpa using hbefore
      · rwa [substituteLine, map_eq_error_iff, rules_fieldsOn] at hline
    · rintro ⟨front, rules, back, heq, hfront, h⟩
      obtain ⟨before, rest, hlines, rfl, hrest⟩ := List.map_eq_append_iff.1 heq
      obtain ⟨line, after, rfl, rfl, rfl⟩ := List.map_eq_cons_iff.1 hrest
      refine ⟨before, line, after, hlines, by simpa using hfront, ?_⟩
      rw [substituteLine, map_eq_error_iff, rules_fieldsOn]
      exact h

/-! ## The failures -/

/-- **The failures of a derivation.** -/
inductive Fails (d : Derivation) : GenError → Prop where
  /-- The master does not hold the name of its class. -/
  | className (h : ¬ d.defaultClass <:+: d.master) :
      Fails d (.missingToken d.targetClass .className d.defaultClass)
  /-- The master holds the name of its class; of the required fields, this is the first whose
  token it does not hold. -/
  | token (front : List Field) (field : Field) (back : List Field)
      (hclass : d.defaultClass <:+: d.master)
      (hrequired : d.options.required.toList = front ++ field :: back)
      (hfront : ∀ other ∈ front, d.Holds other) (hfield : ¬ d.Holds field) :
      Fails d (.missingToken d.targetClass (.field field) (d.default.get field))
  /-- The master holds every token; in the first list of rules that cannot be applied together,
  this is the first rule that cannot join those before it. -/
  | rules (front back : List (List Rule)) (before : List Rule) (rule : Rule) (after : List Rule)
      (error : GenError) (hcomplete : d.Complete)
      (hlists : d.ruleLists = front ++ (before ++ rule :: after) :: back)
      (hfront : ∀ rules ∈ front, Compatible rules) (hbefore : Compatible before)
      (hrule : Objection before rule error) : Fails d error

theorem run_eq_error_iff :
    d.run = .error error ↔
      d.missing? = some error ∨ d.missing? = none ∧ d.substituted = .error error := by
  unfold run
  cases d.missing? with
  | some e => simp
  | none => simp [map_eq_error_iff]

theorem fails_iff : d.run = .error error ↔ d.Fails error := by
  rw [run_eq_error_iff, missing?_eq_some_iff, complete_iff, substituted_eq_error_iff]
  simp only [RuleSet.ofList_eq_error_iff]
  constructor
  · rintro ((⟨hclass, rfl⟩ | ⟨hclass, front, field, back, heq, hfront, hfield, rfl⟩) |
      ⟨hcomplete, front, -, back, hlists, hfront, before, rule, after, rfl, hbefore, hrule⟩)
    · exact .className hclass
    · exact .token front field back hclass heq hfront hfield
    · exact .rules front back before rule after error hcomplete hlists hfront hbefore hrule
  · intro h
    cases h with
    | className hclass => exact .inl (.inl ⟨hclass, rfl⟩)
    | token front field back hclass heq hfront hfield =>
      exact .inl (.inr ⟨hclass, front, field, back, heq, hfront, hfield, rfl⟩)
    | rules front back before rule after _ hcomplete hlists hfront hbefore hrule =>
      exact .inr ⟨hcomplete, front, _, back, hlists, hfront, before, rule, after, rfl, hbefore,
        hrule⟩

/-- Where all rules can be applied together, a derivation fails for want of a token only. -/
theorem run_eq_error_iff_of_compatible (h : Compatible (d.rulesOf Field.all)) :
    d.run = .error error ↔ d.missing? = some error := by
  obtain ⟨text, htext⟩ := exists_substituted_iff.2 (compatible_ruleLists h)
  rw [run_eq_error_iff, htext]
  simp

/-- The derivation with another header, and with or without its base class. -/
def finishedWith (d : Derivation) (header : Option Text) (strip : Bool) : Derivation :=
  { d with
    flags := { d.flags with stripBaseClass := strip }
    options := { d.options with header } }

/-- **When a derivation fails.** It fails for want of its class, for want of the first required
field that the master does not hold, or for the first rule that cannot join those before it, in
the first list of rules that cannot be applied together; the earlier of these causes is the one
that is reported. In every other case it succeeds: the master holds all that is needed, and in
each list no matcher is empty and no two rules disagree. Header and base class do not matter. -/
theorem run_fails_iff (d : Derivation) :
    (∀ error, d.run = .error error ↔ d.Fails error) ∧
      ((∃ text, d.run = .ok text) ↔
        d.Complete ∧ ∀ rules ∈ d.ruleLists, Compatible rules) ∧
      ∀ header strip error,
        (d.finishedWith header strip).run = .error error ↔ d.run = .error error := by
  refine ⟨fun error => fails_iff, ?_, fun header strip error => ?_⟩
  · rw [← complete_iff, ← exists_substituted_iff]
    unfold run
    cases d.missing? with
    | some e => simp
    | none => simp [exists_map_eq_ok_iff]
  · -- neither stage that can fail looks at the header or at the base class
    have hmissing : (d.finishedWith header strip).missing? = d.missing? := rfl
    have hsubstituted : (d.finishedWith header strip).substituted = d.substituted := rfl
    rw [run_eq_error_iff, run_eq_error_iff, hmissing, hsubstituted]

end Derivation

end Siblings
