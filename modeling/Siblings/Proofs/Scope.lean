import Siblings.Proofs.Failure
import Siblings.Proofs.LineLocality

/-!
# The two scopes

Tokens are replaced everywhere, or only on the lines that carry the markers of their fields. The
scopes agree on a text where every line is marked for the tokens that it holds: the pass over the
text divides at the line feeds, and on a line the rules of tokens that it does not hold do not
matter.

* `FullyMarked`: every line of the shaped text is marked for its tokens.
* `substituteLine_eq`: what is made of such a line is what all rules make of it.
* `scopes_agree`: **both scopes derive the same text.**
-/

namespace Siblings

namespace Derivation

variable {d : Derivation} {set : RuleSet}

/-- The derivation with its tokens replaced in another scope. -/
def inScope (d : Derivation) (scope : Scope) : Derivation :=
  { d with options := { d.options with scope } }

/-- A line carries the marker of every field whose token it holds. -/
def MarkedFor (d : Derivation) (line : Text) : Prop :=
  ∀ field, Text.includes (d.default.get field) line = true →
    Marker.carriedBy line field.marker = true

instance (line : Text) : Decidable (d.MarkedFor line) :=
  decidable_of_iff
    (∀ field ∈ Field.all, Text.includes (d.default.get field) line = true →
      Marker.carriedBy line field.marker = true)
    ⟨fun h field => h field (Field.mem_all field), fun h field _ => h field⟩

/-- **Every line of the shaped text is marked** for the tokens that it holds. -/
def FullyMarked (d : Derivation) : Prop := ∀ line ∈ Text.lines d.shaped, d.MarkedFor line

instance : Decidable d.FullyMarked :=
  inferInstanceAs (Decidable (∀ line ∈ Text.lines d.shaped, d.MarkedFor line))

/-- **A line that is marked for its tokens** becomes what the rules of all fields make of it. -/
theorem substituteLine_eq (hset : d.rules .all = .ok set) {line : Text} (h : d.MarkedFor line) :
    d.substituteLine line = .ok (set.apply line) := by
  obtain ⟨own, hown⟩ : ∃ own, d.rules (fieldsOn line) = .ok own := by
    rw [rules_fieldsOn]
    exact RuleSet.ofList_eq_ok_iff.2
      (compatible_rulesOf (RuleSet.ofList_eq_ok_iff.1 ⟨set, hset⟩) _)
  have happly : own.apply line = set.apply line := by
    refine RuleSet.apply_congr fun rule hin => ?_
    rw [RuleSet.mem_ofList hown, RuleSet.mem_ofList hset, mem_ruleList, mem_ruleList]
    refine or_congr_right (or_congr_right (exists_congr fun field => ?_))
    refine and_congr_left fun hfield => ?_
    -- the rule of a field counts on the line, since its matcher occurs there
    have htoken : Text.includes (d.default.get field) line = true := by
      rw [Text.includes_iff]
      rwa [← hfield] at hin
    rw [contains_fieldsOn, FieldSet.contains_all, h field htoken]
  rw [substituteLine, hown, ← happly]
  rfl

/-- The replacement on the lines that are marked is that of the whole text, when every line is
marked for its tokens and no matcher holds a line feed. -/
theorem substituted_marked_eq (hset : d.rules .all = .ok set)
    (hfeed : ∀ rule ∈ d.rulesOf Field.all, '\n' ∉ rule.matcher) (h : d.FullyMarked) :
    (d.inScope .marked).substituted = .ok (set.apply d.shaped) := by
  refine (substituted_marked rfl).2 ⟨set.apply, ?_, ?_⟩
  · have hrules : ∀ rule ∈ set.rules, '\n' ∉ rule.matcher := fun rule hrule =>
      hfeed rule ((RuleSet.mem_ofList hset).1 hrule)
    exact RuleSet.apply_eq_mapLines hrules d.shaped
  · exact fun line hline => substituteLine_eq hset (h line hline)

/-- **The scopes agree.** Let no matcher hold a line feed, and let every line of the shaped text
carry the marker of each field whose token it holds. If the replacement over the whole text derives
a text, then the replacement on marked lines derives the same text and no other, unless it lacks a
token on the marked lines of the master. -/
theorem scopes_agree (hfeed : ∀ rule ∈ d.rulesOf Field.all, '\n' ∉ rule.matcher)
    (h : d.FullyMarked) {text : Text} (hglobal : (d.inScope .global).run = .ok text)
    (other : Text) :
    (d.inScope .marked).run = .ok other ↔ (d.inScope .marked).Complete ∧ other = text := by
  obtain ⟨-, replaced, hreplaced, rfl⟩ := run_eq_ok_iff.1 hglobal
  obtain ⟨set, hrules, rfl⟩ := (substituted_global rfl).1 hreplaced
  -- the rules do not depend on the scope
  have hset : d.rules .all = .ok set := hrules
  rw [run_eq_ok_iff, complete_iff, substituted_marked_eq hset hfeed h]
  refine and_congr_right fun _ => ?_
  simp only [Except.ok.injEq, exists_eq_left']
  exact eq_comm

/-- A derivation for integers, with casts, an idiom and a header, whose lines are marked for tokens
that lie in one another. -/
def markedDerivation : Derivation where
  master :=
    "class Doubles //CLASS_TYPE\n".toList ++
      "Double.isNaN(a.getDouble()) //CLASS_TYPE//DEFAULT_VAL//GET_ELEMENT_WITH_CAST\nend".toList
  defaultClass := "Doubles".toList
  default :=
    { storageKind := "F64".toList, boxedName := "Double".toList
      primitiveName := "double".toList, accessor := "getDouble".toList
      conversion := "real(o)".toList, formatSpec := "%f".toList, sentinel := "NaN".toList
      filled := by decide }
  targetClass := "Ints".toList
  target :=
    { storageKind := "I32".toList, boxedName := "Int".toList, primitiveName := "int".toList
      accessor := "getInt".toList, conversion := "(int) long(o)".toList, formatSpec := "%d".toList
      sentinel := "MIN".toList, filled := by decide }
  flags := { Flags.none with integer := true }
  options :=
    { Options.standard with required := .ofList [.accessor], header := some "h".toList }
  tables :=
    { Specialization.standard with
      integer := ⟨[], [⟨"\x7bboxed\x7d.isNaN(".toList, "no(".toList⟩]⟩ }

def integerText : Text :=
  "// h\n\nclass Ints //CLASS_TYPE\n".toList ++
    "no((int) a.getInt()) //CLASS_TYPE//DEFAULT_VAL//GET_ELEMENT_WITH_CAST\nend".toList

theorem scopes_agree_integer :
    (∀ rule ∈ markedDerivation.rulesOf Field.all, '\n' ∉ rule.matcher) ∧
      markedDerivation.FullyMarked ∧
      (markedDerivation.inScope .global).run = .ok integerText ∧
      (markedDerivation.inScope .marked).run = .ok integerText := by
  have hfeed : ∀ rule ∈ markedDerivation.rulesOf Field.all, '\n' ∉ rule.matcher := by
    decide +kernel
  have hmarked : markedDerivation.FullyMarked := by decide +kernel
  have hglobal : (markedDerivation.inScope .global).run = .ok integerText := by decide +kernel
  have hmissing : (markedDerivation.inScope .marked).missing? = none := by decide +kernel
  exact ⟨hfeed, hmarked, hglobal,
    (scopes_agree hfeed hmarked hglobal integerText).2 ⟨complete_iff.1 hmissing, rfl⟩⟩

end Derivation

end Siblings
