import Siblings.Proofs.Derivation

/-!
# No token is left

After a pass a token could stand in a kept part, in a replacement, or across their
borders. When no matcher can overlap a replacement (`Apart`), only the kept parts are
left, and there the pass would have replaced it.

* `prefix_of_prefix_apply`: the end of a matcher that starts the text after a pass
  starts the text before it.
* `not_infix_apply`: no matcher occurs after a pass.
* `pass_leaves_no_token`: **no token of the default type is left by the replacement
  of a derivation.**
-/

namespace Siblings

/-- **A matcher and a replacement that cannot overlap:** neither holds the other, the
replacement cannot end in the beginning of the matcher, nor begin with its end. -/
structure Apart (matcher replacement : Text) : Prop where
  inside : ¬ matcher <:+: replacement
  around : ¬ replacement <:+: matcher
  ahead : ∀ part, part ≠ [] → part <:+ replacement → ¬ part <+: matcher
  behind : ∀ part, part ≠ [] → part <+: replacement → ¬ part <:+ matcher

theorem apart_iff {matcher replacement : Text} :
    Apart matcher replacement ↔
      ¬ matcher <:+: replacement ∧ ¬ replacement <:+: matcher ∧
        (∀ part ∈ replacement.tails, part ≠ [] → ¬ part <+: matcher) ∧
          ∀ part ∈ replacement.inits, part ≠ [] → ¬ part <:+ matcher := by
  simp only [List.mem_tails, List.mem_inits]
  constructor
  · rintro ⟨h1, h2, h3, h4⟩
    exact ⟨h1, h2, fun part h hne => h3 part hne h, fun part h hne => h4 part hne h⟩
  · rintro ⟨h1, h2, h3, h4⟩
    exact ⟨h1, h2, fun part hne h => h3 part h hne, fun part hne h => h4 part h hne⟩

instance (matcher replacement : Text) : Decidable (Apart matcher replacement) :=
  decidable_of_iff _ apart_iff.symm

namespace RuleSet

variable {set : RuleSet}

/-- **A set whose replacements cannot overlap its matchers.** No replacement is empty. -/
structure Separate (set : RuleSet) : Prop where
  filled : ∀ rule ∈ set.rules, rule.replacement ≠ []
  apart : ∀ rule ∈ set.rules, ∀ other ∈ set.rules, Apart rule.matcher other.replacement

instance (set : RuleSet) : Decidable set.Separate :=
  decidable_of_iff
    ((∀ rule ∈ set.rules, rule.replacement ≠ []) ∧
      ∀ rule ∈ set.rules, ∀ other ∈ set.rules, Apart rule.matcher other.replacement)
    ⟨fun ⟨hfilled, hapart⟩ => ⟨hfilled, hapart⟩, fun h => ⟨h.filled, h.apart⟩⟩

/-- The end of a matcher that starts the text after a pass starts the text before it: a
replacement in front would begin with the end of a matcher, or lie in one. -/
theorem prefix_of_prefix_apply (hsep : set.Separate) {rule : Rule} (hrule : rule ∈ set.rules)
    {text part : Text} (hend : part <:+ rule.matcher) (hpre : part <+: set.apply text) :
    part <+: text := by
  induction text using pass_induction set generalizing part with
  | nil => exact hpre
  | kept c rest hidle ih =>
    rw [apply_kept hidle] at hpre
    rcases List.prefix_cons_iff.1 hpre with rfl | ⟨tail, rfl, htail⟩
    · exact List.nil_prefix
    · have := ih ((List.suffix_cons c tail).trans hend) htail
      exact List.cons_prefix_cons.2 ⟨rfl, this⟩
  | hit used rest hwins ih =>
    have hapart := hsep.apart rule hrule used hwins.mem
    rw [apply_hit hwins] at hpre
    by_cases hne : part = []
    · rw [hne]; exact List.nil_prefix
    rcases List.prefix_or_prefix_of_prefix hpre (List.prefix_append _ _) with h | h
    · exact absurd hend (hapart.behind part hne h)
    · exact absurd (h.isInfix.trans hend.isInfix) hapart.around

/-- **No matcher occurs after a pass** of a set whose replacements cannot overlap its
matchers. -/
theorem not_infix_apply (hsep : set.Separate) {rule : Rule} (hrule : rule ∈ set.rules)
    (text : Text) : ¬ rule.matcher <:+: set.apply text := by
  have hfilled := set.nonempty rule hrule
  induction text using pass_induction set with
  | nil => simpa using hfilled
  | kept c rest hidle ih =>
    rw [apply_kept hidle, List.infix_cons_iff, not_or]
    refine ⟨fun hpre => ?_, ih⟩
    -- an occurrence at a kept character was there before the pass
    rw [← apply_kept hidle] at hpre
    exact hidle rule hrule (prefix_of_prefix_apply hsep hrule List.suffix_rfl hpre)
  | hit used rest hwins ih =>
    have hapart := hsep.apart rule hrule used hwins.mem
    rw [apply_hit hwins, List.infix_append_iff_ne_nil]
    rintro (h | h | ⟨front, back, hfront, -, heq, hend, -⟩)
    · exact hapart.inside h
    · exact ih h
    · exact hapart.ahead front hfront hend (heq ▸ List.prefix_append _ _)

end RuleSet

/-- **No token is left.** After a pass of a set whose replacements are not empty and cannot
overlap its matchers, no matcher of the set occurs. So if the rules of a derivation are such
a set, the replacement over the whole text leaves neither the class of the master, nor a
token of the default type, nor the matcher of an idiom. -/
theorem pass_leaves_no_token {set : RuleSet} (hsep : set.Separate) :
    (∀ text, ∀ rule ∈ set.rules, Text.includes rule.matcher (set.apply text) = false) ∧
      ∀ d : Derivation, d.options.scope = .global → d.rules .all = .ok set →
        ∃ text, d.substituted = .ok text ∧ Text.includes d.defaultClass text = false ∧
          (∀ field, Text.includes (d.default.get field) text = false) ∧
          ∀ idiom ∈ d.idiomRules, Text.includes idiom.matcher text = false := by
  have hpass : ∀ text, ∀ rule ∈ set.rules,
      Text.includes rule.matcher (set.apply text) = false := fun text rule hrule =>
    Text.includes_eq_false_iff.2 (RuleSet.not_infix_apply hsep hrule text)
  refine ⟨hpass, fun d hscope hrules => ⟨set.apply d.shaped, ?_, ?_, ?_, ?_⟩⟩
  · exact (Derivation.substituted_global hscope).2 ⟨set, hrules, rfl⟩
  all_goals
    have hmem : ∀ rule ∈ d.ruleList .all, rule ∈ set.rules := fun rule hrule =>
      (RuleSet.mem_ofList hrules).2 hrule
    simp only [Derivation.mem_ruleList, FieldSet.contains_all, true_and] at hmem
  · exact hpass d.shaped _ (hmem _ (.inl rfl))
  · exact fun field => hpass d.shaped _ (hmem (d.fieldRule field) (.inr (.inr ⟨field, rfl⟩)))
  · exact fun idiom hidiom => hpass d.shaped _ (hmem idiom (.inr (.inl hidiom)))

/-- A derivation whose tokens cannot overlap those of the master. -/
def separateDerivation : Derivation where
  master := "class Doubles { double d = Double.isNaN(NaN) ? FLOAT64 : get(asReal(o)); }".toList
  defaultClass := "Doubles".toList
  default :=
    { storageKind := "FLOAT64".toList, boxedName := "Double".toList
      primitiveName := "double".toList, accessor := "get".toList, conversion := "asReal(o)".toList
      formatSpec := "%f".toList, sentinel := "NaN".toList, filled := by decide }
  targetClass := "Integers".toList
  target :=
    { storageKind := "INT32".toList, boxedName := "Integer".toList
      primitiveName := "int".toList, accessor := "at".toList, conversion := "int.of(o)".toList
      formatSpec := "%i".toList, sentinel := "MIN_VALUE".toList, filled := by decide }
  flags := { Flags.none with integer := true }
  options := { Options.standard with required := .empty }
  tables :=
    { Specialization.standard with
      integer := ⟨[], [⟨"\x7bboxed\x7d.isNaN(".toList, "isNull(".toList⟩]⟩ }

/-- The rules of that derivation. -/
def separateSet : RuleSet where
  rules :=
    [⟨"Doubles".toList, "Integers".toList⟩, ⟨"Double.isNaN(".toList, "isNull(".toList⟩,
      ⟨"FLOAT64".toList, "INT32".toList⟩, ⟨"Double".toList, "Integer".toList⟩,
      ⟨"double".toList, "int".toList⟩, ⟨"get".toList, "at".toList⟩,
      ⟨"asReal(o)".toList, "int.of(o)".toList⟩, ⟨"%f".toList, "%i".toList⟩,
      ⟨"NaN".toList, "MIN_VALUE".toList⟩]
  nonempty := by decide
  distinct := by decide

theorem pass_leaves_no_token_integer :
    separateSet.Separate ∧ separateDerivation.options.scope = .global ∧
      separateDerivation.rules .all = .ok separateSet ∧
        ∃ text, separateDerivation.substituted = .ok text ∧
          Text.includes "Doubles".toList text = false ∧
          Text.includes "Double".toList text = false ∧
          Text.includes "Double.isNaN(".toList text = false := by
  have hsep : separateSet.Separate := by decide +kernel
  have hrules : separateDerivation.rules .all = .ok separateSet := rfl
  obtain ⟨text, htext, hclass, hfield, hidiom⟩ :=
    (pass_leaves_no_token hsep).2 separateDerivation rfl hrules
  exact ⟨hsep, rfl, hrules, text, htext, hclass, hfield .boxedName,
    hidiom ⟨"Double.isNaN(".toList, "isNull(".toList⟩ (by decide)⟩

end Siblings
