import Siblings.Catalog.Builtin
import Siblings.Proofs.CastPrefix
import Siblings.Proofs.Derivation
import Siblings.Proofs.Operand

/-!
# Derivations work line by line

When no token holds a line break, each stage of a derivation changes every line by
itself and keeps its end (`KeepsLines`): the directives, the replacement in either
scope, and the casts. So the derived text is made of one image for each line.

* `replaced_of_substituted`: the passes that the replacement is made of, in either scope.
* `keepsLines_shapeLine`, `keepsLines_replaceLine`, `keepsEnd_castOf`: the stages.
* `keepsEnd_image`: the image of a line ends as the line does.
* `run_eq_mapLines`: a derived text is the image of its master.
* `run_append`: a derivation that succeeds on two masters succeeds on the first
  followed by the second.
* `run_line_by_line`: **all of it for derivations without base class and header.**
-/

namespace Siblings

/-- A text without line breaks. -/
def Text.Unbroken (text : Text) : Prop := '\n' ∉ text ∧ '\r' ∉ text

instance (text : Text) : Decidable text.Unbroken := inferInstanceAs (Decidable (_ ∧ _))

/-- **No token holds a line break:** neither a class, nor a token of a descriptor, nor an
idiom on either side. -/
structure Derivation.Inline (d : Derivation) : Prop where
  defaultClass : Text.Unbroken d.defaultClass
  targetClass : Text.Unbroken d.targetClass
  default : ∀ field, Text.Unbroken (d.default.get field)
  target : ∀ field, Text.Unbroken (d.target.get field)
  idioms : ∀ rule ∈ d.idiomRules, Text.Unbroken rule.matcher ∧ Text.Unbroken rule.replacement

/-! ## The replacement -/

namespace RuleSet

/-- No rule of the set holds a line break. -/
def Inline (set : RuleSet) : Prop :=
  ∀ rule ∈ set.rules, Text.Unbroken rule.matcher ∧ Text.Unbroken rule.replacement

variable {set : RuleSet}

theorem Inline.feed (h : set.Inline) : ∀ rule ∈ set.rules, '\n' ∉ rule.matcher :=
  fun rule hrule => (h rule hrule).1.1

/-- **A pass keeps the end of a line.** -/
theorem keepsEnd_apply (h : set.Inline) {line : Text} (hline : Text.OneLine line) :
    Text.KeepsEnd line (set.apply line) := by
  have hreturn : ∀ rule ∈ set.rules, '\r' ∉ rule.matcher := fun rule hrule => (h rule hrule).1.2
  have hbody : '\n' ∉ set.apply (Text.bareLine line) :=
    not_mem_apply (fun rule hrule => (h rule hrule).2.1) hline
  refine ⟨set.apply (Text.bareLine line), hbody, ?_⟩
  -- no matcher holds a character of the end, so the pass stops in front of it
  rcases Text.terminator_cases line with ⟨body, hl, hb, ht⟩ | ⟨body, hl, hb, ht⟩ | ⟨-, hb, ht⟩ <;>
    rw [hb, ht]
  · have hend := apply_append_cons h.feed [] []
    rw [hl, apply_append_cons hreturn]
    simpa using hend
  · rw [hl, apply_append_cons h.feed, apply_nil]
  · rw [List.append_nil]

/-- **A pass works line by line** when no matcher holds a line feed. -/
theorem apply_eq_mapLines (hfeed : ∀ rule ∈ set.rules, '\n' ∉ rule.matcher) (text : Text) :
    set.apply text = Text.mapLines set.apply text := by
  induction text using Text.lines_induction with
  | nil => rfl
  | last body hbody hne => rw [Text.mapLines_of_not_mem apply_nil hbody]
  | line body rest hbody ih =>
    -- the line feed divides the pass of the whole text, and closes the pass of the line
    rw [Text.mapLines_append_feed hbody, ← ih, apply_append_cons hfeed, apply_append_cons hfeed]
    simp

end RuleSet

namespace Derivation

variable {d : Derivation}

/-- The rules of a derivation hold no line break when its tokens hold none. -/
theorem Inline.rules (h : d.Inline) {fields : FieldSet} {set : RuleSet}
    (hset : d.rules fields = .ok set) : set.Inline := by
  intro rule hrule
  rcases mem_ruleList.1 ((RuleSet.mem_ofList hset).1 hrule) with rfl | hidiom | ⟨field, -, rfl⟩
  · exact ⟨h.defaultClass, h.targetClass⟩
  · exact h.idioms rule hidiom
  · exact ⟨h.default field, h.target field⟩

/-- The rules where the tokens of a line are replaced. -/
def rulesOn (d : Derivation) (line : Text) : Except GenError RuleSet :=
  match d.options.scope with
  | .global => d.rules .all
  | .marked => d.rules (fieldsOn line)

/-- A line after the replacement of its tokens; nothing if its rules are in conflict. -/
def replaceLine (d : Derivation) (line : Text) : Text :=
  match d.rulesOn line with
  | .ok set => set.apply line
  | .error _ => []

/-- The texts that the replacement passes over, each by itself: the shaped text, or its lines. -/
def units (d : Derivation) : List Text :=
  match d.options.scope with
  | .global => [d.shaped]
  | .marked => Text.lines d.shaped

/-- **The replacement is made of passes** over the shaped text or over its lines, all of which
have their rules. -/
theorem replaced_of_substituted {replaced : Text} (hsub : d.substituted = .ok replaced) :
    (∀ unit ∈ d.units, ∃ set, d.rulesOn unit = .ok set) ∧
      replaced = (d.units.map d.replaceLine).flatten := by
  cases hscope : d.options.scope with
  | global =>
    obtain ⟨set, hset, rfl⟩ := (substituted_global hscope).1 hsub
    simp [units, rulesOn, replaceLine, hscope, hset]
  | marked =>
    obtain ⟨image, rfl, himage⟩ := (substituted_marked hscope).1 hsub
    have hpass : ∀ unit ∈ d.units, ∃ set, d.rulesOn unit = .ok set ∧ set.apply unit = image unit := by
      intro unit hunit
      simp only [units, hscope] at hunit
      have hrules : d.rulesOn unit = d.rules (fieldsOn unit) := by simp only [rulesOn, hscope]
      rw [hrules]
      exact map_eq_ok_iff.1 (himage unit hunit)
    refine ⟨fun unit hunit => (hpass unit hunit).imp fun _ h => h.1, ?_⟩
    have hunits : d.units = Text.lines d.shaped := by simp only [units, hscope]
    rw [Text.mapLines, ← hunits]
    refine congrArg List.flatten (List.map_congr_left fun unit hunit => ?_)
    obtain ⟨set, hset, heq⟩ := hpass unit hunit
    rw [replaceLine, hset, ← heq]

theorem Inline.rulesOn (h : d.Inline) {line : Text} {set : RuleSet}
    (hset : d.rulesOn line = .ok set) : set.Inline := by
  unfold Derivation.rulesOn at hset
  split at hset <;> exact h.rules hset

theorem keepsLines_replaceLine (h : d.Inline) : Text.KeepsLines d.replaceLine := by
  refine ⟨?_, fun line hline => ?_⟩ <;> unfold replaceLine
  · cases hrules : d.rulesOn [] <;> simp
  · cases hrules : d.rulesOn line with
    | ok set => exact .inr (RuleSet.keepsEnd_apply (h.rulesOn hrules) hline)
    | error e => exact .inl rfl

/-- **The replacement works line by line,** in either scope. -/
theorem substituted_eq_mapLines (h : d.Inline) {text : Text} (hsub : d.substituted = .ok text) :
    text = Text.mapLines d.replaceLine d.shaped := by
  obtain ⟨hrules, rfl⟩ := replaced_of_substituted hsub
  cases hscope : d.options.scope with
  | global =>
    simp only [units, rulesOn, hscope, List.forall_mem_singleton] at hrules ⊢
    obtain ⟨set, hset⟩ := hrules
    have hline : d.replaceLine = set.apply := by
      funext line
      simp [replaceLine, rulesOn, hscope, hset]
    rw [hline, List.map_singleton, List.flatten_singleton]
    exact RuleSet.apply_eq_mapLines (h.rules hset).feed d.shaped
  | marked =>
    simp only [units, hscope]
    rfl

/-! ## The directives -/

theorem keepsEnd_uncomment {line : Text} (hline : Text.OneLine line) :
    Text.KeepsEnd line (Marker.uncomment line) := by
  have hsplit := Text.indent_append_trimStart line
  unfold Marker.uncomment
  split
  · rename_i rest hrest
    rw [hrest] at hsplit
    have heq : line = (Text.indent line ++ ['/', '/']) ++ ' ' :: rest := by simp [hsplit]
    exact Text.keepsEnd_of_rest (by decide) (by decide) heq hline (by simp)
  · rename_i rest hnot hrest
    rw [hrest] at hsplit
    have heq : line = (Text.indent line ++ ['/']) ++ '/' :: rest := by simp [hsplit]
    exact Text.keepsEnd_of_rest (by decide) (by decide) heq hline (by simp)
  · exact hline.keepsEnd

/-- The first directive of some tables that acts on a line. -/
def firstAction (tables : List SpecialTable) (line : Text) : Option Action :=
  (tables.findSome? (·.directiveFor line)).map Directive.action

theorem mem_of_firstAction {tables : List SpecialTable} {line : Text} {action : Action}
    (h : firstAction tables line = some action) :
    ∃ table ∈ tables, ∃ directive ∈ table.directives, directive.action = action := by
  obtain ⟨directive, hfind, rfl⟩ := Option.map_eq_some_iff.1 h
  obtain ⟨table, htable, hdir⟩ := List.exists_of_findSome?_eq_some hfind
  exact ⟨table, htable, directive, List.mem_of_find?_eq_some hdir, rfl⟩

/-- A line that no directive drops keeps its end, if no directive compares values. -/
theorem keepsEnd_shapeLine {tables : List SpecialTable}
    (hdir : ∀ table ∈ tables, ∀ directive ∈ table.directives, directive.action ≠ .valueEquality)
    {line : Text} (hline : Text.OneLine line) (hdrop : firstAction tables line ≠ some .drop) :
    Text.KeepsEnd line (shapeLine tables line) := by
  unfold shapeLine
  rw [← firstAction]
  split
  · rename_i h; exact absurd h hdrop
  · exact keepsEnd_uncomment hline
  · rename_i h
    obtain ⟨table, htable, directive, hmem, haction⟩ := mem_of_firstAction h
    exact absurd haction (hdir table htable directive hmem)
  · exact hline.keepsEnd

theorem shapeLine_drop {tables : List SpecialTable} {line : Text}
    (h : firstAction tables line = some .drop) : shapeLine tables line = [] := by
  unfold shapeLine
  rw [← firstAction, h]

theorem keepsLines_shapeLine {tables : List SpecialTable}
    (hdir : ∀ table ∈ tables, ∀ directive ∈ table.directives, directive.action ≠ .valueEquality) :
    Text.KeepsLines (shapeLine tables) := by
  refine ⟨?_, fun line hline => ?_⟩
  · unfold shapeLine
    split <;> rfl
  · by_cases hdrop : firstAction tables line = some .drop
    · exact .inl (shapeLine_drop hdrop)
    · exact .inr (keepsEnd_shapeLine hdir hline hdrop)

/-! ## The casts -/

/-- A line with the cast of a target, if the target has one and the line is marked for it. -/
def castOf (target : Descriptor) (line : Text) : Text :=
  match target.cast? with
  | some cast => castLine target.accessor cast line
  | none => line

theorem withCasts_eq_mapLines (target : Descriptor) (text : Text) :
    withCasts target text = Text.mapLines (castOf target) text := by
  unfold withCasts castOf
  cases target.cast? with
  | some cast => rfl
  | none => simp [Text.mapLines, Text.flatten_lines]

/-- The cast of a type is a part of its conversion. -/
theorem cast_isInfix {target : Descriptor} {cast : Text} (h : target.cast? = some cast) :
    cast <:+: target.conversion := by
  obtain ⟨expression, hstarts⟩ := Descriptor.startsNamed_of_cast? h
  have hprefix : cast <+: Text.trimStart target.conversion := ⟨expression, hstarts.split⟩
  exact hprefix.isInfix.trans (List.dropWhile_suffix _).isInfix

theorem keepsEnd_insertCast {line accessor cast : Text} (hline : Text.OneLine line)
    (hcast : '\n' ∉ cast) : Text.KeepsEnd line (Operand.insertCast line accessor cast) := by
  rcases Operand.insertCast_cases line accessor cast with
    ⟨heq, -⟩ | ⟨-, before, found, hparts, ⟨rest, hfound⟩, himage⟩
  · rw [heq]
    exact hline.keepsEnd
  · -- the dot of the call stands in front of the end of the line
    have heq : line = before ++ '.' :: (accessor ++ ['('] ++ rest) := by
      rw [← hparts, ← hfound]; rfl
    have hcut : Operand.insertCast line accessor cast =
        ((Operand.splitTrailing before).1 ++ cast ++ (Operand.splitTrailing before).2 ++ ['.']) ++
          (accessor ++ ['('] ++ rest) := by
      rw [himage, ← hfound]
      simp
    rw [hcut]
    refine Text.keepsEnd_of_rest (by decide) (by decide) heq hline fun hnot => ?_
    rw [← Operand.splitTrailing_append before, List.mem_append, not_or] at hnot
    simp [hnot, hcast]

/-- The cast keeps the end of a line. -/
theorem keepsEnd_castOf (h : d.Inline) {line : Text} (hline : Text.OneLine line) :
    Text.KeepsEnd line (castOf d.target line) := by
  unfold castOf
  split
  · rename_i cast hcast
    unfold castLine
    split
    · have hconversion : '\n' ∉ d.target.conversion := (h.target .conversion).1
      exact keepsEnd_insertCast hline fun hmem => hconversion ((cast_isInfix hcast).subset hmem)
    · exact hline.keepsEnd
  · exact hline.keepsEnd

theorem castOf_nil (target : Descriptor) : castOf target [] = [] := by
  unfold castOf
  split
  · simp [castLine, Marker.carriedBy, Marker.named]
  · rfl

/-! ## The whole derivation -/

/-- **The image of a line:** what the directives, the replacement and the casts make of it.
It does not depend on the master. -/
def image (d : Derivation) (line : Text) : Text :=
  castOf d.target (d.replaceLine (shapeLine d.activeTables line))

/-- A derivation that takes off no base class and adds no header, where no token holds a line
break and no directive compares values. -/
structure LineLocal (d : Derivation) : Prop where
  keepsBase : d.flags.stripBaseClass = false
  noHeader : d.options.header = none
  inline : d.Inline
  noComparison : ∀ table ∈ d.activeTables, ∀ directive ∈ table.directives,
    directive.action ≠ .valueEquality

theorem finish_eq_withCasts (h : d.LineLocal) (text : Text) :
    d.finish text = withCasts d.target text := by
  simp [finish, h.keepsBase, h.noHeader]

/-- **The derived text is the image of the master,** line by line. -/
theorem run_eq_mapLines (h : d.LineLocal) {text : Text} (hrun : d.run = .ok text) :
    text = Text.mapLines d.image d.master := by
  obtain ⟨-, replaced, hsub, rfl⟩ := run_eq_ok_iff.1 hrun
  have hreplace := keepsLines_replaceLine h.inline
  have hshape := keepsLines_shapeLine h.noComparison
  have hnil : castOf d.target (d.replaceLine []) = [] := by rw [hreplace.nil, castOf_nil]
  rw [finish_eq_withCasts h, withCasts_eq_mapLines, substituted_eq_mapLines h.inline hsub,
    Text.mapLines_mapLines (castOf_nil _) hreplace, shaped, Text.mapLines_mapLines hnil hshape]
  rfl

/-- The image of a line is nothing if its first directive drops it. -/
theorem image_drop (h : d.LineLocal) {line : Text}
    (hdrop : firstAction d.activeTables line = some .drop) : d.image line = [] := by
  rw [image, shapeLine_drop hdrop, (keepsLines_replaceLine h.inline).nil, castOf_nil]

/-- A derivation that succeeds has rules for every line that the directives leave. -/
theorem rulesOn_of_run (h : d.LineLocal) {text line : Text} (hrun : d.run = .ok text)
    (hmem : line ∈ Text.lines d.master) (hne : shapeLine d.activeTables line ≠ []) :
    ∃ set, d.rulesOn (shapeLine d.activeTables line) = .ok set := by
  obtain ⟨-, replaced, hsub, -⟩ := run_eq_ok_iff.1 hrun
  obtain ⟨hrules, -⟩ := replaced_of_substituted hsub
  cases hscope : d.options.scope with
  | global =>
    simp only [units, rulesOn, hscope, List.forall_mem_singleton] at hrules ⊢
    exact hrules
  | marked =>
    -- a line that is not empty is still a line of the shaped text
    have hshaped : shapeLine d.activeTables line ∈ Text.lines d.shaped := by
      rw [shaped, Text.lines_mapLines (keepsLines_shapeLine h.noComparison), List.mem_filter]
      exact ⟨List.mem_map_of_mem hmem, by simpa using hne⟩
    simp only [units, hscope] at hrules
    exact hrules _ hshaped

/-- **The image of a line keeps its end** unless its first directive drops it. -/
theorem keepsEnd_image (h : d.LineLocal) {text line : Text} (hrun : d.run = .ok text)
    (hmem : line ∈ Text.lines d.master) (hdrop : firstAction d.activeTables line ≠ some .drop) :
    Text.KeepsEnd line (d.image line) := by
  have hshape := keepsEnd_shapeLine h.noComparison (Text.oneLine_of_mem hmem) hdrop
  have hreplace : Text.KeepsEnd (shapeLine d.activeTables line)
      (d.replaceLine (shapeLine d.activeTables line)) := by
    by_cases hne : shapeLine d.activeTables line = []
    · -- an uncommented line may be empty: then there is nothing to replace
      rw [hne, (keepsLines_replaceLine h.inline).nil]
      exact (Text.oneLine_of_not_mem (by simp)).keepsEnd
    · obtain ⟨set, hset⟩ := rulesOn_of_run h hrun hmem hne
      rw [replaceLine, hset]
      exact RuleSet.keepsEnd_apply (h.inline.rulesOn hset) hshape.oneLine
  exact (hshape.trans hreplace).trans (keepsEnd_castOf h.inline hreplace.oneLine)

/-! ## One master after the other -/

/-- The derivation of the same class from another master. -/
def on (d : Derivation) (master : Text) : Derivation := { d with master }

variable {front back : Text}

theorem LineLocal.on (h : d.LineLocal) (master : Text) : (d.on master).LineLocal :=
  ⟨h.keepsBase, h.noHeader, ⟨h.inline.1, h.inline.2, h.inline.3, h.inline.4, h.inline.5⟩,
    h.noComparison⟩

/-- A token that is found in a master is found when more lines follow. -/
theorem holdsToken_append (hfront : Text.Closed front) {field : Field}
    (h : (d.on front).holdsToken field = true) :
    (d.on (front ++ back)).holdsToken field = true := by
  simp only [holdsToken, Derivation.on] at h ⊢
  cases hscope : d.options.scope with
  | global =>
    rw [hscope] at h
    exact Text.includes_iff.2 ((Text.includes_iff.1 h).trans (List.prefix_append _ _).isInfix)
  | marked =>
    rw [hscope] at h
    rw [Text.lines_append hfront, List.any_append, Bool.or_eq_true]
    exact .inl h

theorem missing?_append (hfront : Text.Closed front) (h : (d.on front).missing? = none) :
    (d.on (front ++ back)).missing? = none := by
  rw [missing?_eq_none_iff] at h ⊢
  obtain ⟨hclass, hfields⟩ := h
  refine ⟨?_, fun field hfield => holdsToken_append hfront (hfields field hfield)⟩
  exact Text.includes_iff.2
    ((Text.includes_iff.1 hclass).trans (List.prefix_append front back).isInfix)

theorem shaped_append (hfront : Text.Closed front) :
    (d.on (front ++ back)).shaped = (d.on front).shaped ++ (d.on back).shaped :=
  Text.mapLines_append hfront back

/-- The replacement succeeds on a master that is followed by another when it succeeds on both. -/
theorem substituted_append (h : d.LineLocal) (hfront : Text.Closed front) {first second : Text}
    (hfirst : (d.on front).substituted = .ok first)
    (hsecond : (d.on back).substituted = .ok second) :
    ∃ text, (d.on (front ++ back)).substituted = .ok text := by
  cases hscope : d.options.scope with
  | global =>
    obtain ⟨set, hset, -⟩ := (substituted_global (d := d.on front) hscope).1 hfirst
    exact ⟨_, (substituted_global (d := d.on (front ++ back)) hscope).2 ⟨set, hset, rfl⟩⟩
  | marked =>
    obtain ⟨image, -, himage⟩ := (substituted_marked (d := d.on front) hscope).1 hfirst
    obtain ⟨other, -, hother⟩ := (substituted_marked (d := d.on back) hscope).1 hsecond
    have hclosed : Text.Closed (d.on front).shaped :=
      Text.closed_mapLines (keepsLines_shapeLine h.noComparison) hfront
    have hmarked : (d.on (front ++ back)).substituted =
        d.substituteMarked (d.on (front ++ back)).shaped := by
      rw [substituted, on, hscope]
      rfl
    rw [hmarked, exists_substituteMarked_iff, shaped_append hfront, Text.lines_append hclosed]
    intro line hline
    rcases List.mem_append.1 hline with hline | hline
    · exact ⟨_, himage line hline⟩
    · exact ⟨_, hother line hline⟩

/-- **A derivation that succeeds on two masters** succeeds on the first followed by the second,
and derives the one text followed by the other. -/
theorem run_append (h : d.LineLocal) (hfront : Text.Closed front) {first second : Text}
    (hfirst : (d.on front).run = .ok first) (hsecond : (d.on back).run = .ok second) :
    (d.on (front ++ back)).run = .ok (first ++ second) := by
  obtain ⟨hmissing, replaced, hsub, -⟩ := run_eq_ok_iff.1 hfirst
  obtain ⟨-, others, hothers, -⟩ := run_eq_ok_iff.1 hsecond
  obtain ⟨text, htext⟩ := substituted_append h hfront hsub hothers
  have hrun := run_eq_ok_iff.2 ⟨missing?_append hfront hmissing, text, htext, rfl⟩
  rw [hrun, run_eq_mapLines (h.on _) hrun, run_eq_mapLines (h.on _) hfirst,
    run_eq_mapLines (h.on _) hsecond]
  exact congrArg Except.ok (Text.mapLines_append hfront back)

/-- **Derivations work line by line.** Without base class and header, when no token holds a line
break and no directive compares values, what is derived is made of one image for each line of the
master. The image of a line does not depend on the master; it is empty if the first directive
that acts on the line drops it, and ends as the line does otherwise. So masters can be put one
after the other. -/
theorem run_line_by_line (h : d.LineLocal) :
    (∃ image : Text → Text, ∀ master text, (d.on master).run = .ok text →
      text = ((Text.lines master).map image).flatten ∧
      ∀ line ∈ Text.lines master,
        (firstAction d.activeTables line = some .drop → image line = []) ∧
        (firstAction d.activeTables line ≠ some .drop → Text.KeepsEnd line (image line))) ∧
    ∀ front back first second, front.getLast? = some '\n' → (d.on front).run = .ok first →
      (d.on back).run = .ok second → (d.on (front ++ back)).run = .ok (first ++ second) := by
  refine ⟨⟨d.image, fun master text hrun => ⟨run_eq_mapLines (h.on master) hrun, ?_⟩⟩, ?_⟩
  · intro line hmem
    exact ⟨image_drop h, keepsEnd_image (h.on master) hrun hmem⟩
  · intro front back first second hlast hfirst hsecond
    exact run_append h (.inr hlast) hfirst hsecond

/-- A derivation for single precision, with casts, that works line by line. -/
def floatDerivation : Derivation where
  master := []
  defaultClass := "Doubles".toList
  default := Catalog.Builtin.float64
  targetClass := "Floats".toList
  target := Catalog.Builtin.float32
  flags := { Flags.none with integer := true }
  options := { Options.standard with scope := .marked, required := .empty }
  tables :=
    { Specialization.standard with
      integer := ⟨[⟨"OMIT".toList, .drop⟩, ⟨"USE".toList, .uncomment⟩], SpecialTable.realTests⟩ }

theorem run_line_by_line_float :
    floatDerivation.LineLocal ∧
      (floatDerivation.on "class Doubles // OMIT\r\n//int n; // USE\r\n".toList).run =
        .ok "int n; // USE\r\n".toList ∧
      (floatDerivation.on
          "Doubles a.getElementDoubleAbs(0) // GET_ELEMENT_WITH_CAST".toList).run =
        .ok "Floats (float) a.getElementDoubleAbs(0) // GET_ELEMENT_WITH_CAST".toList ∧
      (floatDerivation.on ("class Doubles // OMIT\r\n//int n; // USE\r\n".toList ++
          "Doubles a.getElementDoubleAbs(0) // GET_ELEMENT_WITH_CAST".toList)).run =
        .ok ("int n; // USE\r\n".toList ++
          "Floats (float) a.getElementDoubleAbs(0) // GET_ELEMENT_WITH_CAST".toList) := by
  have hlocal : floatDerivation.LineLocal :=
    { keepsBase := rfl
      noHeader := rfl
      inline :=
        { defaultClass := by decide
          targetClass := by decide
          default := fun field => by cases field <;> decide
          target := fun field => by cases field <;> decide
          idioms := by decide }
      noComparison := by decide }
  have hfirst : (floatDerivation.on
      "class Doubles // OMIT\r\n//int n; // USE\r\n".toList).run =
        .ok "int n; // USE\r\n".toList := by
    decide +kernel
  have hsecond : (floatDerivation.on
      "Doubles a.getElementDoubleAbs(0) // GET_ELEMENT_WITH_CAST".toList).run =
        .ok "Floats (float) a.getElementDoubleAbs(0) // GET_ELEMENT_WITH_CAST".toList := by
    decide +kernel
  exact ⟨hlocal, hfirst, hsecond,
    (run_line_by_line hlocal).2 _ _ _ _ (by decide) hfirst hsecond⟩

end Derivation

end Siblings
