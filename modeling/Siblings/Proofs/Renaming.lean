import Siblings.Proofs.Declaration
import Siblings.Proofs.Header
import Siblings.Proofs.LineLocality

/-!
# The name of a derived class

A derived class should name itself. That the master names its class does not make it so: a
directive can drop the lines that do, and another token can swallow the name. What counts is
whether the replacement uses the rule of the class (`Renames`). The name that it puts in is there
in the end: casts go in front of operands, a base class behind the name, a header between lines.

* `hit_of_infix`: **a token that no other matcher swallows is used where it occurs.**
* `infix_withCasts`, `infix_strip`, `infix_insertHeader`: a name outlasts each last stage.
* `infix_finish`: a name outlasts all that is done after the replacement.
* `run_names_class`: **when a derived text names its class.**
-/

namespace Siblings

/-! ## The use of a rule -/

namespace RuleSet

variable {set : RuleSet} {rule : Rule} {text : Text}

/-- A rule that is used is one of the set, and its matcher a part of the text. -/
theorem of_hit (h : .hit rule ∈ set.pieces text) : rule ∈ set.rules ∧ rule.matcher <:+: text := by
  induction text using pass_induction set with
  | nil => simp at h
  | kept c rest hidle ih =>
    rw [pieces_kept hidle, List.mem_cons] at h
    have hrest := ih (h.resolve_left (by simp))
    exact ⟨hrest.1, hrest.2.trans (List.suffix_cons c rest).isInfix⟩
  | hit used rest hwins ih =>
    rw [pieces_hit hwins, List.mem_cons, Piece.hit.injEq] at h
    rcases h with rfl | h
    · exact ⟨hwins.mem, (List.prefix_append _ _).isInfix⟩
    · exact ⟨(ih h).1, (ih h).2.trans (List.suffix_append _ _).isInfix⟩

/-- A rule that is used puts its replacement into the text. -/
theorem infix_apply_of_hit (h : .hit rule ∈ set.pieces text) :
    rule.replacement <:+: set.apply text := by
  have hpart : rule.replacement ∈ (set.pieces text).map Piece.output :=
    List.mem_map.2 ⟨.hit rule, h, rfl⟩
  exact List.infix_of_mem_flatten hpart

/-- **A matcher that swallows a token:** the token lies in it, or it ends, behind a beginning of
its own, in a beginning of the token. -/
def Swallows (matcher token : Text) : Prop :=
  token <:+: matcher ∨ ∃ part ∈ matcher.tails, part ≠ [] ∧ part ≠ matcher ∧ part <+: token

instance (matcher token : Text) : Decidable (Swallows matcher token) :=
  inferInstanceAs (Decidable (_ ∨ _))

/-- **A token that no other matcher swallows** is used in every text where it occurs. -/
theorem hit_of_infix (hrule : rule ∈ set.rules)
    (halone : ∀ other ∈ set.rules, other.matcher ≠ rule.matcher →
      ¬ Swallows other.matcher rule.matcher)
    (h : rule.matcher <:+: text) : .hit rule ∈ set.pieces text := by
  have hfilled := set.nonempty rule hrule
  induction text using pass_induction set with
  | nil => simp [hfilled] at h
  | kept c rest hidle ih =>
    rw [List.infix_cons_iff] at h
    have hrest := ih (h.resolve_left (hidle rule hrule))
    rw [pieces_kept hidle]
    exact List.mem_cons_of_mem _ hrest
  | hit used rest hwins ih =>
    rw [pieces_hit hwins]
    by_cases hsame : used.matcher = rule.matcher
    · rw [eq_of_matcher_eq hwins.mem hrule hsame]
      exact List.mem_cons_self
    have hnot := halone used hwins.mem hsame
    rw [List.infix_append_iff_ne_nil] at h
    rcases h with hin | hin | ⟨front, back, hfront, hback, heq, hend, hstart⟩
    · exact absurd (.inl hin) hnot
    · exact List.mem_cons_of_mem _ (ih hin)
    · have hpre : front <+: rule.matcher := heq ▸ List.prefix_append _ _
      by_cases hall : front = used.matcher
      · -- the token starts where the matcher does, and is longer, so the matcher would not win
        have hstarts : rule.matcher <+: used.matcher ++ rest := by
          rw [heq, hall]
          exact (List.prefix_append_right_inj _).2 hstart
        have hlength := hwins.longest rule hrule hstarts
        have hpos := List.length_pos_iff.2 hback
        rw [heq, hall, List.length_append] at hlength
        omega
      · exact absurd (.inr ⟨front, (List.mem_tails _ _).2 hend, hfront, hall, hpre⟩) hnot

/-- **A rule that is not used** counts by its matcher only: another replacement for it leaves the
text after the pass as it is. -/
theorem apply_congr_of_unused {first second : RuleSet} {matcher : Text}
    (hothers : ∀ rule : Rule, rule.matcher ≠ matcher → (rule ∈ first.rules ↔ rule ∈ second.rules))
    (hsame : ∃ rule ∈ first.rules, rule.matcher = matcher)
    (hunused : ∀ rule : Rule, rule.matcher = matcher → .hit rule ∉ first.pieces text) :
    first.apply text = second.apply text := by
  -- what starts a text by the second set does so by the first
  have hcounts : ∀ rule ∈ second.rules, ∃ other ∈ first.rules, other.matcher = rule.matcher := by
    intro rule hrule
    by_cases hmatcher : rule.matcher = matcher
    · rw [hmatcher]; exact hsame
    · exact ⟨rule, (hothers rule hmatcher).2 hrule, rfl⟩
  induction text using pass_induction first with
  | nil => rfl
  | kept c rest hidle ih =>
    have hidle' : second.Idle (c :: rest) := by
      intro rule hrule hstarts
      obtain ⟨other, hother, heq⟩ := hcounts rule hrule
      exact hidle other hother (heq ▸ hstarts)
    have hrest := ih fun rule hmatcher hhit =>
      hunused rule hmatcher (by rw [pieces_kept hidle]; exact List.mem_cons_of_mem _ hhit)
    rw [apply_kept hidle, apply_kept hidle', hrest]
  | hit used rest hwins ih =>
    have hne : used.matcher ≠ matcher := fun hmatcher =>
      hunused used hmatcher (by rw [pieces_hit hwins]; exact List.mem_cons_self)
    have hwins' : second.Wins used (used.matcher ++ rest) := by
      refine ⟨(hothers used hne).1 hwins.mem, hwins.starts, fun rule hrule hstarts => ?_⟩
      obtain ⟨other, hother, heq⟩ := hcounts rule hrule
      rw [← heq]
      exact hwins.longest other hother (heq ▸ hstarts)
    have hrest := ih fun rule hmatcher hhit =>
      hunused rule hmatcher (by rw [pieces_hit hwins]; exact List.mem_cons_of_mem _ hhit)
    rw [apply_hit hwins, apply_hit hwins', hrest]

end RuleSet

/-! ## Words and lines -/

namespace Text

variable {word text : Text}

/-- A word without a line feed stands on one line. -/
theorem exists_line_of_infix (hfeed : '\n' ∉ word) (hne : word ≠ []) (h : word <:+: text) :
    ∃ line ∈ lines text, word <:+: line := by
  induction text using lines_induction with
  | nil => exact absurd (List.infix_nil.1 h) hne
  | last body hbody hbne =>
    rw [lines_of_not_mem hbody hbne]
    exact ⟨body, List.mem_singleton_self body, h⟩
  | line body rest hbody ih =>
    rw [lines_append_feed hbody]
    have hfirst : ¬ word <+: '\n' :: rest := by
      rintro ⟨tail, htail⟩
      obtain ⟨c, more, rfl⟩ := List.exists_cons_of_ne_nil hne
      obtain ⟨rfl, -⟩ := List.cons.inj htail
      exact hfeed List.mem_cons_self
    rw [List.infix_append_iff_ne_nil, List.infix_cons_iff] at h
    rcases h with hin | (hpre | hin) | ⟨front, back, -, hback, heq, -, hpre⟩
    · exact ⟨_, List.mem_cons_self, hin.trans (List.prefix_append _ _).isInfix⟩
    · exact absurd hpre hfirst
    · obtain ⟨line, hline, hword⟩ := ih hin
      exact ⟨line, List.mem_cons_of_mem _ hline, hword⟩
    · -- a word over the end of the line would hold the line feed
      obtain ⟨c, more, rfl⟩ := List.exists_cons_of_ne_nil hback
      obtain ⟨rfl, -⟩ := List.cons_prefix_cons.1 hpre
      exact absurd (heq ▸ List.mem_append_right front List.mem_cons_self) hfeed

/-- A word without a line feed outlasts a change of the lines that it outlasts. -/
theorem infix_mapLines {f : Text → Text} (hfeed : '\n' ∉ word)
    (hline : ∀ line, word <:+: line → word <:+: f line) (h : word <:+: text) :
    word <:+: mapLines f text := by
  by_cases hne : word = []
  · rw [hne]; exact List.nil_infix
  · obtain ⟨line, hmem, hword⟩ := exists_line_of_infix hfeed hne h
    have himage : f line ∈ (lines text).map f := List.mem_map_of_mem hmem
    exact (hline line hword).trans (List.infix_of_mem_flatten himage)

end Text

/-! ## The base class -/

namespace BaseClass

variable {name text : Text}

/-- **The name of a class outlasts its base class,** which stands behind the name. -/
theorem infix_strip (h : name <:+: text) : name <:+: strip text name := by
  unfold strip
  split
  · exact h
  · rename_i upToName afterName hcut
    have hname := (declares_of_afterDeclaration? hcut).2.suffix.isInfix
    split
    split
    · split
      · rw [List.append_assoc]
        exact hname.trans (List.prefix_append _ _).isInfix
      · exact h
    · exact h

end BaseClass

namespace Derivation

variable {d : Derivation} {word text : Text}

/-! ## After the replacement -/

/-- **A name that the last stages cannot break:** it consists of operand characters if there are
casts, and holds no line feed if there is a header. -/
structure Unbreakable (d : Derivation) : Prop where
  cast : d.target.cast? = none ∨ ∀ c ∈ d.targetClass, Operand.isOperandChar c = true
  header : d.options.header = none ∨ '\n' ∉ d.targetClass

theorem infix_castLine {accessor cast line : Text}
    (hword : ∀ c ∈ word, Operand.isOperandChar c = true) (h : word <:+: line) :
    word <:+: castLine accessor cast line := by
  unfold castLine
  split
  · exact Operand.infix_insertCast hword h
  · exact h

theorem infix_withCasts {target : Descriptor}
    (hword : target.cast? = none ∨ ∀ c ∈ word, Operand.isOperandChar c = true)
    (h : word <:+: text) : word <:+: withCasts target text := by
  unfold withCasts
  split
  · rename_i cast hcast
    have hchars := hword.resolve_left (by simp [hcast])
    have hfeed : '\n' ∉ word := fun hmem => absurd (hchars '\n' hmem) (by decide)
    exact Text.infix_mapLines hfeed (fun _ => infix_castLine hchars) h
  · exact h

/-- **A word without a line feed outlasts a header,** which goes between two lines. -/
theorem infix_insertHeader {header : Text} (hfeed : '\n' ∉ word) (h : word <:+: text) :
    word <:+: insertHeader text header := by
  by_cases hne : word = []
  · rw [hne]; exact List.nil_infix
  obtain ⟨line, hline, hword⟩ := Text.exists_line_of_infix hfeed hne h
  obtain ⟨before, after, hplace⟩ := exists_isHeaderPlace text
  rw [← hplace.split, Text.lines_append hplace.whole, List.mem_append] at hline
  rw [insertHeader_eq hplace]
  rcases hline with hline | hline
  · have hbefore := hword.trans (List.infix_of_mem_flatten hline)
    rw [Text.flatten_lines] at hbefore
    rw [List.append_assoc]
    exact hbefore.trans (List.prefix_append _ _).isInfix
  · have hafter := hword.trans (List.infix_of_mem_flatten hline)
    rw [Text.flatten_lines] at hafter
    exact hafter.trans (List.suffix_append _ _).isInfix

/-- **A name that cannot be broken outlasts all** that is done after the replacement. -/
theorem infix_finish (hkept : d.Unbreakable) (h : d.targetClass <:+: text) :
    d.targetClass <:+: d.finish text := by
  have hcast : d.targetClass <:+: withCasts d.target text := infix_withCasts hkept.cast h
  have hstripped : d.targetClass <:+:
      if d.flags.stripBaseClass then BaseClass.strip (withCasts d.target text) d.targetClass
      else withCasts d.target text := by
    split
    · exact BaseClass.infix_strip hcast
    · exact hcast
  simp only [finish]
  split
  · rename_i header hheader
    have hfeed := hkept.header.resolve_left (by simp [hheader])
    exact infix_insertHeader hfeed hstripped
  · exact hstripped

/-! ## The use of the name -/

/-- The rule of the class. -/
def classRule (d : Derivation) : Rule := ⟨d.defaultClass, d.targetClass⟩

/-- A text as the pass with its rules sees it; nothing if its rules are in conflict. -/
def piecesOn (d : Derivation) (unit : Text) : List RuleSet.Piece :=
  match d.rulesOn unit with
  | .ok set => set.pieces unit
  | .error _ => []

/-- **Somewhere the replacement puts in the name** of the derived class. -/
def Renames (d : Derivation) : Prop := ∃ unit ∈ d.units, .hit d.classRule ∈ d.piecesOn unit

instance : Decidable d.Renames :=
  inferInstanceAs (Decidable (∃ unit ∈ d.units, .hit d.classRule ∈ d.piecesOn unit))

/-- **The directives leave a mention** of the class of the master. -/
def StillNamed (d : Derivation) : Prop := ∃ unit ∈ d.units, d.defaultClass <:+: unit

instance : Decidable d.StillNamed :=
  inferInstanceAs (Decidable (∃ unit ∈ d.units, d.defaultClass <:+: unit))

/-- **No other token swallows the name** of the class of the master. -/
def Unswallowed (d : Derivation) : Prop :=
  ∀ rule ∈ d.ruleList .all, rule.matcher ≠ d.defaultClass →
    ¬ RuleSet.Swallows rule.matcher d.defaultClass

instance : Decidable d.Unswallowed :=
  inferInstanceAs (Decidable (∀ rule ∈ d.ruleList .all, rule.matcher ≠ d.defaultClass →
    ¬ RuleSet.Swallows rule.matcher d.defaultClass))

/-- The derivation of a class of another name. -/
def naming (d : Derivation) (className : Text) : Derivation := { d with targetClass := className }

variable {unit replaced : Text} {set : RuleSet}

/-- The fields whose tokens are replaced in a text. -/
def fieldsIn (d : Derivation) (unit : Text) : FieldSet :=
  match d.options.scope with
  | .global => .all
  | .marked => fieldsOn unit

theorem mem_of_rulesOn (hset : d.rulesOn unit = .ok set) {rule : Rule} :
    rule ∈ set.rules ↔ rule ∈ d.ruleList (d.fieldsIn unit) := by
  have heq : d.rulesOn unit = d.rules (d.fieldsIn unit) := by
    unfold rulesOn fieldsIn
    cases d.options.scope <;> rfl
  rw [heq] at hset
  exact RuleSet.mem_ofList hset

theorem classRule_mem (hset : d.rulesOn unit = .ok set) : d.classRule ∈ set.rules :=
  (mem_of_rulesOn hset).2 (mem_ruleList.2 (.inl rfl))

/-- The rules of a text are among those of every field. -/
theorem mem_ruleList_all (hset : d.rulesOn unit = .ok set) {rule : Rule}
    (hrule : rule ∈ set.rules) : rule ∈ d.ruleList .all := by
  rw [mem_of_rulesOn hset, mem_ruleList] at hrule
  rw [mem_ruleList]
  refine hrule.imp_right (.imp_right ?_)
  rintro ⟨field, -, hfield⟩
  exact ⟨field, FieldSet.contains_all field, hfield⟩

/-- Under another name the rules of a text are the same but for the rule of the class. -/
theorem mem_rulesOn_naming {className : Text} {others : RuleSet} (hset : d.rulesOn unit = .ok set)
    (hothers : (d.naming className).rulesOn unit = .ok others) {rule : Rule}
    (hne : rule.matcher ≠ d.defaultClass) : rule ∈ set.rules ↔ rule ∈ others.rules := by
  have hclass : ∀ name : Text, rule ≠ ⟨d.defaultClass, name⟩ := by
    rintro name rfl
    exact hne rfl
  rw [mem_of_rulesOn hset, mem_of_rulesOn hothers, mem_ruleList, mem_ruleList]
  exact or_congr (iff_of_false (hclass _) (hclass _)) Iff.rfl

/-- **A name that is put in** is in the replaced text. -/
theorem infix_of_renames (hsub : d.substituted = .ok replaced) (h : d.Renames) :
    d.targetClass <:+: replaced := by
  obtain ⟨unit, hunit, hhit⟩ := h
  obtain ⟨hrules, rfl⟩ := replaced_of_substituted hsub
  obtain ⟨set, hset⟩ := hrules unit hunit
  have hpieces : .hit d.classRule ∈ set.pieces unit := by simpa [piecesOn, hset] using hhit
  have hunits : set.apply unit ∈ d.units.map d.replaceLine :=
    List.mem_map.2 ⟨unit, hunit, by rw [replaceLine, hset]⟩
  have hname : d.targetClass <:+: set.apply unit := RuleSet.infix_apply_of_hit hpieces
  exact hname.trans (List.infix_of_mem_flatten hunits)

/-- What is renamed is named by the text that the directives leave. -/
theorem stillNamed_of_renames (h : d.Renames) : d.StillNamed := by
  obtain ⟨unit, hunit, hhit⟩ := h
  unfold piecesOn at hhit
  split at hhit
  · exact ⟨unit, hunit, (RuleSet.of_hit hhit).2⟩
  · simp at hhit

/-- **A mention that no token swallows** is renamed. -/
theorem renames_of_stillNamed (hsub : d.substituted = .ok replaced) (hfree : d.Unswallowed)
    (h : d.StillNamed) : d.Renames := by
  obtain ⟨unit, hunit, hname⟩ := h
  obtain ⟨set, hset⟩ := (replaced_of_substituted hsub).1 unit hunit
  have halone : ∀ other ∈ set.rules, other.matcher ≠ d.classRule.matcher →
      ¬ RuleSet.Swallows other.matcher d.classRule.matcher := fun other hother =>
    hfree other (mem_ruleList_all hset hother)
  have hhit := RuleSet.hit_of_infix (classRule_mem hset) halone hname
  exact ⟨unit, hunit, by simpa [piecesOn, hset] using hhit⟩

/-- **Without a rename the name does not matter:** the replaced text is that of every name. -/
theorem substituted_naming (hsub : d.substituted = .ok replaced) (h : ¬ d.Renames)
    {className other : Text} (hother : (d.naming className).substituted = .ok other) :
    other = replaced := by
  obtain ⟨hrules, rfl⟩ := replaced_of_substituted hsub
  obtain ⟨hrules', rfl⟩ := replaced_of_substituted hother
  refine congrArg List.flatten (List.map_congr_left fun unit hunit => ?_)
  obtain ⟨set, hset⟩ := hrules unit hunit
  obtain ⟨others, hothers⟩ := hrules' unit hunit
  have hunused : ∀ rule : Rule, rule.matcher = d.defaultClass → .hit rule ∉ set.pieces unit := by
    intro rule hmatcher hhit
    have hclass : rule = d.classRule :=
      RuleSet.eq_of_matcher_eq (RuleSet.of_hit hhit).1 (classRule_mem hset) hmatcher
    exact h ⟨unit, hunit, by simpa [piecesOn, hset, hclass] using hhit⟩
  rw [replaceLine, replaceLine, hset, hothers]
  exact (RuleSet.apply_congr_of_unused (fun rule => mem_rulesOn_naming hset hothers)
    ⟨d.classRule, classRule_mem hset, rfl⟩ hunused).symm

/-- What is done after the replacement does not depend on the name if a base class stays. -/
theorem finish_naming (hkeeps : d.flags.stripBaseClass = false) (className : Text) :
    (d.naming className).finish text = d.finish text := by
  simp [finish, naming, hkeeps]

/-- **When a derived text names its class.** If the replacement puts the name in somewhere, and
casts and header cannot break it, the derived text names its class. For a rename the directives must
leave a mention, which is enough if no other token swallows it. Without a rename every name derives
the same text, if a base class stays. -/
theorem run_names_class (hrun : d.run = .ok text) :
    (d.Renames → d.Unbreakable → d.targetClass <:+: text) ∧
      (d.Renames → d.StillNamed) ∧ (d.Unswallowed → d.StillNamed → d.Renames) ∧
        (¬ d.Renames → d.flags.stripBaseClass = false →
          ∀ className other, (d.naming className).run = .ok other → other = text) := by
  obtain ⟨-, replaced, hsub, rfl⟩ := run_eq_ok_iff.1 hrun
  refine ⟨fun h hkept => ?_, stillNamed_of_renames, renames_of_stillNamed hsub, ?_⟩
  · exact infix_finish hkept (infix_of_renames hsub h)
  · intro h hkeeps className other hother
    obtain ⟨-, others, hothers, rfl⟩ := run_eq_ok_iff.1 hother
    rw [finish_naming hkeeps, substituted_naming hsub h hothers]

/-- A derivation for integers, where a directive drops the lines that real numbers alone need. -/
def longDerivation : Derivation where
  master := []
  defaultClass := "Doubles".toList
  default := Catalog.Builtin.float64
  targetClass := "Longs".toList
  target := Catalog.Builtin.int64
  flags := { Flags.none with integer := true }
  options :=
    { Options.standard with required := .ofList [.primitiveName], header := some "h".toList }
  tables := Specialization.standard

/-- The class is named on one line only. -/
def omittedMaster : Text := "class Doubles //NAN_OMIT\ndouble d;\n".toList

def omittedText : Text := "// h\n\nlong d;\n".toList

/-- The class is named on another line too. -/
def namedMaster : Text := "class Doubles //NAN_OMIT\nclass Doubles { double d; }\n".toList

def namedText : Text := "// h\n\nclass Longs { long d; }\n".toList

theorem run_names_class_omitted :
    ((longDerivation.on omittedMaster).run = .ok omittedText ∧
      longDerivation.defaultClass <:+: omittedMaster ∧
      (longDerivation.on omittedMaster).Unswallowed ∧
      ¬ (longDerivation.on omittedMaster).StillNamed ∧
      ¬ longDerivation.targetClass <:+: omittedText ∧
      ∀ className other, ((longDerivation.on omittedMaster).naming className).run = .ok other →
        other = omittedText) ∧
    ((longDerivation.on namedMaster).run = .ok namedText ∧
      (longDerivation.on namedMaster).StillNamed ∧
      (longDerivation.on namedMaster).Unbreakable ∧
      longDerivation.targetClass <:+: namedText) := by
  have hfree : ∀ master, (longDerivation.on master).Unswallowed := by
    have hlong : longDerivation.Unswallowed := by decide +kernel
    exact fun _ => hlong
  constructor
  · have hrun : (longDerivation.on omittedMaster).run = .ok omittedText := by decide +kernel
    have hlost : ¬ (longDerivation.on omittedMaster).StillNamed := by decide +kernel
    obtain ⟨-, hleft, -, hsame⟩ := run_names_class hrun
    exact ⟨hrun, by decide, hfree _, hlost, by decide, hsame (mt hleft hlost) rfl⟩
  · have hrun : (longDerivation.on namedMaster).run = .ok namedText := by decide +kernel
    have hleft : (longDerivation.on namedMaster).StillNamed := by decide +kernel
    have hkept : (longDerivation.on namedMaster).Unbreakable :=
      ⟨.inl (by decide), .inr (by decide)⟩
    obtain ⟨hnamed, -, hrenames, -⟩ := run_names_class hrun
    exact ⟨hrun, hleft, hkept, hnamed (hrenames (hfree _) hleft) hkept⟩

end Derivation

end Siblings
