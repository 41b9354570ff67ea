import Siblings.Descriptor
import Siblings.Proofs.Text

/-!
# Casts in conversions

A conversion such as `(float) of(o)` starts with a cast, which is one name in parentheses in front of
an expression. The search for it reads the parentheses and does not look at what follows. So every
cast is found, but a name in parentheses that is itself the expression, as in `(obj)` or
`(obj).toString()`, is taken for a cast.

* `IsNamed`, `StartsNamed`: one name in parentheses, and a text that starts with it.
* `cast?_eq_some_iff`: **what is found is a name in parentheses,** and every such name is found.
* `IsCast`: a cast in front of an expression.
* `found_cast_starts_conversion`: what is found is a cast unless nothing or a dot follows it.
-/

namespace Siblings.Descriptor

variable {text cast expression name left right : Text} {descriptor : Descriptor}

/-! ## Names in parentheses -/

/-- **One name in parentheses,** with white space around the name and behind the parentheses. -/
def IsNamed (cast : Text) : Prop :=
  ∃ left name right blanks, cast = '(' :: (left ++ name ++ right) ++ ')' :: blanks ∧
    Text.allBlank left = true ∧ Text.allBlank right = true ∧ Text.allBlank blanks = true ∧
      name ≠ [] ∧ name.all isCastChar = true

/-- **A text that starts with a name in parentheses,** and what follows the white space behind it. -/
structure StartsNamed (text cast expression : Text) : Prop where
  split : cast ++ expression = text
  named : IsNamed cast
  trimmed : Text.trimStart expression = expression

theorem isBlank_of_isCastChar {c : Char} (h : isCastChar c = true) : Text.isBlank c = false := by
  by_contra hblank
  have hnot := Text.forall_isBlank (P := fun c => isCastChar c = false) (by decide +kernel)
    (Bool.not_eq_false _ ▸ hblank)
  simp [h] at hnot

/-- White space and names hold no parenthesis that could be taken for the one behind them. -/
theorem ne_of_mem_inside (hleft : Text.allBlank left = true) (hright : Text.allBlank right = true)
    (hname : name.all isCastChar = true) {c : Char} (hc : c ∈ left ++ name ++ right) : c ≠ ')' := by
  rintro rfl
  rw [Text.allBlank, List.all_eq_true] at hleft hright
  rw [List.all_eq_true] at hname
  rcases List.mem_append.1 hc with hc | hc
  · rcases List.mem_append.1 hc with hc | hc
    · exact absurd (hleft _ hc) (by decide)
    · exact absurd (hname _ hc) (by decide)
  · exact absurd (hright _ hc) (by decide)

/-! ## What is found -/

/-- What is found starts the conversion, behind its white space. -/
theorem startsNamed_of_cast? (h : descriptor.cast? = some cast) :
    ∃ expression, StartsNamed (Text.trimStart descriptor.conversion) cast expression := by
  unfold cast? at h
  split at h
  · rename_i rest htrim
    split at h
    · simp at h
    · rename_i close after hclose
      dsimp only at h
      split at h
      · simp at h
      · rename_i hname
        obtain rfl := Option.some.inj h
        simp only [Bool.or_eq_true, Bool.not_eq_true', not_or, Bool.not_eq_false,
          List.isEmpty_iff] at hname
        -- the parenthesis that the search stops at closes the name
        have hparen : close = ')' := by
          have hhead := List.head?_dropWhile_not (· != ')') rest
          rw [hclose] at hhead
          simpa using hhead
        have hrest : rest.takeWhile (· != ')') ++ ')' :: after = rest := by
          have hsplit := List.takeWhile_append_dropWhile (p := fun c => c != ')') (l := rest)
          rwa [hclose, hparen] at hsplit
        obtain ⟨left, right, hinside, hleft, hright⟩ :=
          Text.exists_blanks_trim (rest.takeWhile (· != ')'))
        refine ⟨Text.trimStart after, ?_, ?_, Text.trimStart_trimStart after⟩
        · rw [htrim, List.append_assoc, List.cons_append, List.cons_append,
            Text.indent_append_trimStart, hrest]
        · exact ⟨left, _, right, Text.indent after, by rw [hinside], hleft, hright,
            Text.allBlank_indent after, hname⟩
  · simp at h

/-- **Every name in parentheses is found.** -/
theorem cast?_of_startsNamed
    (h : StartsNamed (Text.trimStart descriptor.conversion) cast expression) :
    descriptor.cast? = some cast := by
  obtain ⟨hsplit, ⟨left, name, right, blanks, rfl, hleft, hright, hblanks, hne, hname⟩, htrimmed⟩ := h
  -- the search stops at the parenthesis behind the name, and at none in front of it
  have hinside : ∀ c ∈ left ++ name ++ right, (c != ')') = true := fun c hc =>
    bne_iff_ne.2 (ne_of_mem_inside hleft hright hname hc)
  have htake : (left ++ name ++ right ++ ')' :: (blanks ++ expression)).takeWhile (· != ')') =
      left ++ name ++ right := by
    rw [List.takeWhile_append_of_pos hinside, List.takeWhile_cons]
    simp
  have hdrop : (left ++ name ++ right ++ ')' :: (blanks ++ expression)).dropWhile (· != ')') =
      ')' :: (blanks ++ expression) := by
    rw [List.dropWhile_append_of_pos hinside, List.dropWhile_cons]
    simp
  have hrest : Text.trimStart descriptor.conversion =
      '(' :: (left ++ name ++ right ++ ')' :: (blanks ++ expression)) := by
    rw [← hsplit]
    simp only [List.cons_append, List.append_assoc]
  have htrim : Text.trim (left ++ name ++ right) = name :=
    Text.trim_append hleft hright fun c hc =>
      isBlank_of_isCastChar (List.all_eq_true.1 hname c hc)
  have hempty : name.isEmpty = false := by simpa using hne
  unfold cast?
  rw [hrest]
  simp only [htake, hdrop, htrim, hname, hempty, Text.indent_append hblanks htrimmed,
    Bool.not_true, Bool.or_false, Bool.false_eq_true, if_false]

/-- **What is found is a name in parentheses,** and every such name is found. -/
theorem cast?_eq_some_iff : descriptor.cast? = some cast ↔
    ∃ expression, StartsNamed (Text.trimStart descriptor.conversion) cast expression :=
  ⟨startsNamed_of_cast?, fun ⟨_, h⟩ => cast?_of_startsNamed h⟩

/-- What is found is what the conversion starts with, and there is one such start. -/
theorem StartsNamed.unique {other more : Text}
    (h : StartsNamed (Text.trimStart descriptor.conversion) cast expression)
    (h' : StartsNamed (Text.trimStart descriptor.conversion) other more) :
    cast = other ∧ expression = more := by
  have hfound := cast?_of_startsNamed h
  rw [cast?_of_startsNamed h'] at hfound
  obtain rfl := Option.some.inj hfound
  exact ⟨rfl, List.append_cancel_left (h.split.trans h'.split.symm)⟩

/-! ## Casts -/

/-- **A cast in front of an expression:** a name in parentheses with something behind it that does
not reach into the parentheses. -/
structure IsCast (text cast expression : Text) : Prop extends StartsNamed text cast expression where
  nonempty : expression ≠ []
  noDot : expression.head? ≠ some '.'

/-- **What is found at the start of a conversion.** A name in parentheses is found exactly where the
conversion starts with one, so every cast is found. What is found is a cast, except where the
parentheses are all of the conversion or a dot follows them; then the conversion has no cast. -/
theorem found_cast_starts_conversion (descriptor : Descriptor) :
    (∀ cast, descriptor.cast? = some cast ↔
        ∃ expression, StartsNamed (Text.trimStart descriptor.conversion) cast expression) ∧
      (∀ cast expression, IsCast (Text.trimStart descriptor.conversion) cast expression →
        descriptor.cast? = some cast) ∧
      ∀ cast, descriptor.cast? = some cast →
        (∃ expression, IsCast (Text.trimStart descriptor.conversion) cast expression) ∨
          (∃ expression, StartsNamed (Text.trimStart descriptor.conversion) cast expression ∧
            (expression = [] ∨ expression.head? = some '.')) ∧
          ¬ ∃ other expression, IsCast (Text.trimStart descriptor.conversion) other expression := by
  refine ⟨fun cast => cast?_eq_some_iff, fun cast expression h =>
    cast?_of_startsNamed h.toStartsNamed, fun cast hfound => ?_⟩
  obtain ⟨expression, hstarts⟩ := cast?_eq_some_iff.1 hfound
  by_cases hplain : expression = [] ∨ expression.head? = some '.'
  · refine .inr ⟨⟨expression, hstarts, hplain⟩, ?_⟩
    rintro ⟨other, more, hcast⟩
    obtain ⟨rfl, rfl⟩ := hstarts.unique hcast.toStartsNamed
    exact hplain.elim hcast.nonempty hcast.noDot
  · obtain ⟨hnonempty, hdot⟩ := not_or.1 hplain
    exact .inl ⟨expression, hstarts, hnonempty, hdot⟩

/-- A type whose conversion calls a method of an object in parentheses. -/
def stringType : Descriptor where
  storageKind := "STRING".toList
  boxedName := "String".toList
  primitiveName := "String".toList
  accessor := "getStringAbs".toList
  conversion := "(obj).toString()".toList
  formatSpec := "%s".toList
  sentinel := "null".toList
  filled := by decide

theorem found_cast_starts_conversion_member :
    stringType.cast? = some "(obj)".toList ∧
      ¬ ∃ cast expression, IsCast (Text.trimStart stringType.conversion) cast expression := by
  have hfound : stringType.cast? = some "(obj)".toList := by decide
  have hstarts : StartsNamed (Text.trimStart stringType.conversion) "(obj)".toList
      ".toString()".toList := by
    refine ⟨by decide, ⟨[], "obj".toList, [], [], ?_⟩, by decide⟩
    decide
  refine ⟨hfound, ?_⟩
  rcases (found_cast_starts_conversion stringType).2.2 _ hfound with ⟨expression, hcast⟩ | ⟨-, hnone⟩
  · obtain ⟨-, rfl⟩ := hstarts.unique hcast.toStartsNamed
    exact absurd rfl hcast.noDot
  · exact hnone

end Siblings.Descriptor
