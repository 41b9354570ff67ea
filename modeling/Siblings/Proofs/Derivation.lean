import Siblings.Derivation
import Siblings.Proofs.Except
import Siblings.Proofs.Pass
import Siblings.Proofs.Text

/-!
# What a derivation needs and uses

* `contains_fieldsOn`: the fields that a line is marked for.
* `mem_ruleList`: the rules where the tokens of some fields are replaced.
* `missing?_eq_none_iff`: no token is missing when the master holds them all.
* `substituteLines_eq`: the rule sets that are at hand do not show in what becomes of lines.
* `substituted_global`, `substituted_marked`: the replacement in either scope.
* `run_eq_ok_iff`: a derivation succeeds when no token is missing and the replacement
  succeeds.
-/

namespace Siblings

namespace FieldSet

/-- The set of a list has the fields of the list. -/
theorem contains_ofList (fields : List Field) (field : Field) :
    (ofList fields).contains field = true ↔ field ∈ fields := by
  have hfold : ∀ set : FieldSet,
      (fields.foldl insert set).contains field = true ↔
        set.contains field = true ∨ field ∈ fields := by
    induction fields with
    | nil => simp
    | cons first fields ih =>
      intro set
      rw [List.foldl_cons, ih, contains_insert, List.mem_cons, Bool.or_eq_true, beq_iff_eq,
        or_assoc, @eq_comm _ first field]
  rw [ofList, hfold, contains_empty]
  simp

end FieldSet

namespace Derivation

variable {d : Derivation}

/-- The fields on a line are those whose marker it carries. -/
theorem contains_fieldsOn (line : Text) (field : Field) :
    (fieldsOn line).contains field = Marker.carriedBy line field.marker := by
  rw [Bool.eq_iff_iff, fieldsOn, FieldSet.contains_ofList, List.mem_filter]
  simp [Field.mem_all]

/-- **The rules where the tokens of some fields are replaced:** the class, the idioms and
those fields. -/
theorem mem_ruleList {fields : FieldSet} {rule : Rule} :
    rule ∈ d.ruleList fields ↔
      rule = ⟨d.defaultClass, d.targetClass⟩ ∨ rule ∈ d.idiomRules ∨
        ∃ field, fields.contains field = true ∧ d.fieldRule field = rule := by
  simp [ruleList, FieldSet.toList, Field.mem_all]

theorem missing?_eq_none_iff :
    d.missing? = none ↔ Text.includes d.defaultClass d.master = true ∧
      ∀ field ∈ d.options.required.toList, d.holdsToken field = true := by
  unfold missing?
  cases hclass : Text.includes d.defaultClass d.master <;> simp

theorem substituted_global (hscope : d.options.scope = .global) {text : Text} :
    d.substituted = .ok text ↔ ∃ set, d.rules .all = .ok set ∧ set.apply d.shaped = text := by
  rw [substituted, hscope]
  exact map_eq_ok_iff

/-! ## The replacement on marked lines -/

theorem bits_injective {fields others : FieldSet} (h : fields.bits = others.bits) :
    fields = others := by
  cases fields
  cases others
  rw [FieldSet.mk.injEq]
  exact BitVec.eq_of_toNat_eq h

/-- **Every rule set at hand is the one that would be made** for its fields. -/
def Sound (d : Derivation) (cache : RuleCache) : Prop :=
  ∀ fields set, cache.lookup (FieldSet.bits fields) = some set → d.rules fields = .ok set

theorem sound_nil : d.Sound [] := fun _ _ h => by simp at h

/-- A set that is made for some fields can be kept at hand. -/
theorem Sound.cons {cache : RuleCache} (h : d.Sound cache) {fields : FieldSet} {set : RuleSet}
    (hset : d.rules fields = .ok set) : d.Sound ((fields.bits, set) :: cache) := by
  intro others found hfound
  rw [List.lookup_cons] at hfound
  by_cases heq : others.bits = fields.bits
  · rw [heq, beq_self_eq_true] at hfound
    obtain rfl := Option.some.inj hfound
    rw [bits_injective heq, hset]
  · rw [beq_false_of_ne heq] at hfound
    exact h others found hfound

/-- **What is at hand makes no difference** to the rule set of some fields: it is the one that
would be made, or there is none and its error is reported. -/
theorem fetch_cases {cache : RuleCache} (h : d.Sound cache) (fields : FieldSet) :
    (∃ set after, d.rules fields = .ok set ∧ fetch d.rules cache fields = .ok (set, after) ∧
        d.Sound after) ∨
      ∃ error, d.rules fields = .error error ∧ fetch d.rules cache fields = .error error := by
  unfold fetch
  cases hfound : cache.lookup fields.bits with
  | some set => exact .inl ⟨set, cache, h fields set hfound, rfl, h⟩
  | none =>
    cases hset : d.rules fields with
    | ok set => exact .inl ⟨set, _, rfl, rfl, h.cons hset⟩
    | error error => exact .inr ⟨error, rfl, rfl⟩

/-- **The rule sets at hand do not show** in what becomes of lines. -/
theorem substituteLines_eq {cache : RuleCache} (h : d.Sound cache) (lines : List Text) :
    substituteLines d.rules cache lines = (lines.mapM d.substituteLine).map List.flatten := by
  induction lines generalizing cache with
  | nil => rfl
  | cons line lines ih =>
    rw [substituteLines, List.mapM_cons, substituteLine]
    rcases fetch_cases h (fieldsOn line) with
      ⟨set, after, hset, hfetch, hafter⟩ | ⟨error, hset, hfetch⟩
    · have hrest := ih hafter
      rw [hset, hfetch, ok_bind]
      dsimp only
      rw [hrest]
      cases lines.mapM d.substituteLine <;> rfl
    · rw [hset, hfetch]
      rfl

theorem substituteMarked_eq (d : Derivation) (text : Text) :
    d.substituteMarked text =
      ((Text.lines text).mapM d.substituteLine).map List.flatten :=
  substituteLines_eq sound_nil (Text.lines text)

/-- **The replacement on marked lines** makes one image of every line. -/
theorem substituteMarked_eq_ok_iff {text result : Text} :
    d.substituteMarked text = .ok result ↔
      ∃ image : Text → Text, result = Text.mapLines image text ∧
        ∀ line ∈ Text.lines text, d.substituteLine line = .ok (image line) := by
  rw [substituteMarked_eq, map_eq_ok_iff]
  simp only [mapM_eq_ok_iff_exists_map]
  constructor
  · rintro ⟨parts, ⟨image, rfl, himage⟩, rfl⟩
    exact ⟨image, rfl, himage⟩
  · rintro ⟨image, rfl, himage⟩
    exact ⟨_, ⟨image, rfl, himage⟩, rfl⟩

/-- The replacement on marked lines succeeds if it succeeds on every line. -/
theorem exists_substituteMarked_iff {text : Text} :
    (∃ result, d.substituteMarked text = .ok result) ↔
      ∀ line ∈ Text.lines text, ∃ part, d.substituteLine line = .ok part := by
  rw [substituteMarked_eq, exists_map_eq_ok_iff, exists_mapM_eq_ok_iff]

theorem substituted_marked (hscope : d.options.scope = .marked) {text : Text} :
    d.substituted = .ok text ↔
      ∃ image : Text → Text, text = Text.mapLines image d.shaped ∧
        ∀ line ∈ Text.lines d.shaped, d.substituteLine line = .ok (image line) := by
  rw [substituted, hscope]
  exact substituteMarked_eq_ok_iff

theorem run_eq_ok_iff {text : Text} :
    d.run = .ok text ↔
      d.missing? = none ∧ ∃ replaced, d.substituted = .ok replaced ∧ d.finish replaced = text := by
  unfold run
  cases hmissing : d.missing? with
  | none => simp [map_eq_ok_iff]
  | some error => simp

end Derivation

end Siblings
