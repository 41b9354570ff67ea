import Siblings.Proofs.LineLocality

/-!
# A class from itself

A class that is derived from itself, with no flag and no header, should be what it was. The pass
replaces every token by itself, but the casts of the type are put in all the same: in front of a
receiver that has its cast already there is a second one.

* `apply_eq_self`: rules that replace tokens by themselves change nothing.
* `mapLines_eq_self_iff`: lines that never shrink join to the same text when none of them changes.
* `fromItself_eq_withCasts`: **the derived text is the master with the casts of its type.**
-/

namespace Siblings

/-- **Rules that replace tokens by themselves** change nothing. -/
theorem RuleSet.apply_eq_self {set : RuleSet}
    (h : ∀ rule ∈ set.rules, rule.replacement = rule.matcher) (text : Text) :
    set.apply text = text := by
  induction text using pass_induction set with
  | nil => rfl
  | kept c rest hidle ih => rw [apply_kept hidle, ih]
  | hit rule rest hwins ih => rw [apply_hit hwins, ih, h rule hwins.mem]

namespace Text

variable {f : Text → Text}

theorem length_flatten_le (h : ∀ part, part.length ≤ (f part).length) (parts : List Text) :
    parts.flatten.length ≤ (parts.map f).flatten.length := by
  induction parts with
  | nil => exact Nat.le_refl _
  | cons part parts ih =>
    have hpart := h part
    simp only [List.map_cons, List.flatten_cons, List.length_append]
    omega

/-- Parts that never shrink join to the same text exactly if none of them changes. -/
theorem flatten_map_eq_iff (h : ∀ part, part.length ≤ (f part).length) (parts : List Text) :
    (parts.map f).flatten = parts.flatten ↔ ∀ part ∈ parts, f part = part := by
  constructor
  · induction parts with
    | nil => simp
    | cons part parts ih =>
      intro heq
      rw [List.map_cons, List.flatten_cons, List.flatten_cons] at heq
      -- what follows does not shrink either, so this part did not grow
      have hrest := length_flatten_le h parts
      have hlength := congrArg List.length heq
      rw [List.length_append, List.length_append] at hlength
      have hpart := h part
      obtain ⟨hfirst, hothers⟩ := List.append_inj heq (by omega)
      exact List.forall_mem_cons.2 ⟨hfirst, ih hothers⟩
  · intro hall
    rw [List.map_congr_left hall, List.map_id']

/-- **Lines that never shrink** join to the same text exactly if none of them changes. -/
theorem mapLines_eq_self_iff (h : ∀ line, line.length ≤ (f line).length) (text : Text) :
    mapLines f text = text ↔ ∀ line ∈ lines text, f line = line := by
  have hjoin := flatten_map_eq_iff h (lines text)
  rwa [flatten_lines] at hjoin

end Text

namespace Derivation

variable {d : Derivation}

/-- **A derivation of a class from itself:** the same class and type, no flag, no header. -/
structure FromItself (d : Derivation) : Prop where
  sameClass : d.targetClass = d.defaultClass
  sameType : d.target = d.default
  noFlags : d.flags = Flags.none
  noHeader : d.options.header = none

namespace FromItself

theorem activeTables (h : d.FromItself) : d.activeTables = [] := by
  rw [Derivation.activeTables, h.noFlags]
  rfl

theorem shaped (h : d.FromItself) : d.shaped = d.master := by
  have hline : shapeLine [] = id := rfl
  rw [Derivation.shaped, h.activeTables, hline, Text.mapLines, List.map_id, Text.flatten_lines]

theorem rules (h : d.FromItself) {fields : FieldSet} {set : RuleSet}
    (hset : d.rules fields = .ok set) : ∀ rule ∈ set.rules, rule.replacement = rule.matcher := by
  intro rule hrule
  rcases mem_ruleList.1 ((RuleSet.mem_ofList hset).1 hrule) with rfl | hidiom | ⟨field, -, rfl⟩
  · exact h.sameClass
  · rw [idiomRules, h.activeTables] at hidiom
    simp at hidiom
  · rw [fieldRule, h.sameType]

theorem substituted (h : d.FromItself) {text : Text} (hsub : d.substituted = .ok text) :
    text = d.master := by
  cases hscope : d.options.scope with
  | global =>
    obtain ⟨set, hset, rfl⟩ := (substituted_global hscope).1 hsub
    rw [RuleSet.apply_eq_self (h.rules hset), h.shaped]
  | marked =>
    obtain ⟨image, rfl, himage⟩ := (substituted_marked hscope).1 hsub
    have hline : ∀ line ∈ Text.lines d.shaped, image line = line := by
      intro line hmem
      obtain ⟨set, hset, heq⟩ := map_eq_ok_iff.1 (himage line hmem)
      rw [← heq, RuleSet.apply_eq_self (h.rules hset)]
    rw [Text.mapLines, List.map_congr_left hline, List.map_id', Text.flatten_lines, h.shaped]

/-- Only the casts are left to do. -/
theorem finish (h : d.FromItself) (text : Text) : d.finish text = withCasts d.default text := by
  simp [Derivation.finish, h.noFlags, h.noHeader, h.sameType, Flags.none]

end FromItself

theorem cast?_ne_nil {descriptor : Descriptor} {cast : Text} (h : descriptor.cast? = some cast) :
    cast ≠ [] := by
  obtain ⟨-, -, ⟨left, name, right, blanks, rfl, -⟩, -⟩ := Descriptor.startsNamed_of_cast? h
  simp

/-- **A class from itself.** A derivation of a class from itself that succeeds derives the master
with the casts of its type. That is the master itself exactly if the type has no cast, or no line
that is marked for casts calls the accessor on a receiver. -/
theorem fromItself_eq_withCasts (h : d.FromItself) {text : Text} (hrun : d.run = .ok text) :
    text = withCasts d.default d.master ∧
      (text = d.master ↔ ∀ cast, d.default.cast? = some cast → ∀ line ∈ Text.lines d.master,
        Marker.carriedBy line castMarker = true →
          ¬ Operand.HasReceiver d.default.accessor line) := by
  obtain ⟨-, replaced, hreplaced, rfl⟩ := run_eq_ok_iff.1 hrun
  obtain rfl := h.substituted hreplaced
  rw [h.finish]
  refine ⟨rfl, ?_⟩
  unfold withCasts
  cases hcast : d.default.cast? with
  | none => simp
  | some cast =>
    have hgrows : ∀ line : Text,
        line.length ≤ (castLine d.default.accessor cast line).length := by
      intro line
      unfold castLine
      split
      · exact Operand.length_le_insertCast line d.default.accessor cast
      · exact Nat.le_refl _
    simp only [Text.mapLines_eq_self_iff hgrows, Option.some.injEq, forall_eq']
    refine forall₂_congr fun line _ => ?_
    unfold castLine
    split
    · rename_i hmarked
      simp [hmarked, Operand.insertCast_eq_self_iff (cast?_ne_nil hcast)]
    · rename_i hmarked
      simp [hmarked]

/-- A type whose conversion has a cast. -/
def floatType : Descriptor where
  storageKind := "F32".toList
  boxedName := "Float".toList
  primitiveName := "float".toList
  accessor := "get".toList
  conversion := "(float) of(o)".toList
  formatSpec := "%e".toList
  sentinel := "NaN".toList
  filled := by decide

/-- A derivation of a class of that type from itself, where a line has its cast. -/
def floatFromItself : Derivation where
  master := "class Floats\nf = (float) a.get(0) //GET_ELEMENT_WITH_CAST\n".toList
  defaultClass := "Floats".toList
  default := floatType
  targetClass := "Floats".toList
  target := floatType
  flags := Flags.none
  options := { Options.standard with required := .ofList [.primitiveName] }
  tables := Specialization.standard

def doubledCast : Text := "class Floats\nf = (float) (float) a.get(0) //GET_ELEMENT_WITH_CAST\n".toList

theorem fromItself_doubles_cast :
    floatFromItself.FromItself ∧ floatFromItself.run = .ok doubledCast ∧
      doubledCast ≠ floatFromItself.master ∧
      ∃ line ∈ Text.lines floatFromItself.master, Marker.carriedBy line castMarker = true ∧
        Operand.HasReceiver floatFromItself.default.accessor line := by
  have hself : floatFromItself.FromItself := ⟨rfl, rfl, rfl, rfl⟩
  have hmissing : floatFromItself.missing? = none := by decide +kernel
  have hreplaced : floatFromItself.substituted = .ok floatFromItself.master := by decide +kernel
  have hcasts : floatFromItself.finish floatFromItself.master = doubledCast := by decide +kernel
  have hrun := run_eq_ok_iff.2 ⟨hmissing, _, hreplaced, hcasts⟩
  have hne : doubledCast ≠ floatFromItself.master := by decide +kernel
  have hchanged := (fromItself_eq_withCasts hself hrun).2.not.1 hne
  push Not at hchanged
  obtain ⟨cast, -, line, hline, hmarked, hreceiver⟩ := hchanged
  exact ⟨hself, hrun, hne, line, hline, hmarked, hreceiver⟩

end Derivation

end Siblings
