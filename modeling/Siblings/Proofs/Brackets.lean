import Mathlib.Data.List.Infix
import Siblings.Operand
import Siblings.Proofs.Text

/-!
# Brackets

Round and square brackets are counted alike: a bracket of either kind closes one of either kind. An
operand closes the brackets that it opens, and outside them it holds operand characters only. The
scan from the start of a text reads up to where no operand can go on, or, if a bracket stays open,
to the end of the text. The scan from the end is the same scan of the mirror image.

* `IsOperand`: a text that is an operand.
* `leadingFrom_cons`: one step of a scan, which all that follows is derived from.
* `leadingFrom_append`: a scan goes on behind what it has read.
* `leading_cases`: **what a scan from the start of a text finds.**
* `trailing_eq`: **the scan from the end** reads the mirror image from its start.
* `trailing_cases`: **what a scan from the end of a text finds.**
-/

namespace Siblings.Operand

variable {text front back operand rest stretch more : Text} {depth : Nat} {c : Char}

/-! ## Characters -/

theorem isClosing_of_isOpening (h : isOpening c = true) : isClosing c = false := by
  rcases (by simpa [isOpening] using h : c = '(' ∨ c = '[') with rfl | rfl <;> decide

theorem isOpening_of_isClosing (h : isClosing c = true) : isOpening c = false := by
  rcases (by simpa [isClosing] using h : c = ')' ∨ c = ']') with rfl | rfl <;> decide

theorem isOperandChar_of_isOpening (h : isOpening c = true) : isOperandChar c = false := by
  rcases (by simpa [isOpening] using h : c = '(' ∨ c = '[') with rfl | rfl <;> decide

theorem isOperandChar_of_isClosing (h : isClosing c = true) : isOperandChar c = false := by
  rcases (by simpa [isClosing] using h : c = ')' ∨ c = ']') with rfl | rfl <;> decide

/-- The number of opening brackets in a text. -/
def opens (text : Text) : Nat := text.countP isOpening

/-- The number of closing brackets in a text. -/
def closes (text : Text) : Nat := text.countP isClosing

@[simp]
theorem opens_nil : opens [] = 0 := rfl

@[simp]
theorem closes_nil : closes [] = 0 := rfl

theorem opens_cons (c : Char) (text : Text) :
    opens (c :: text) = opens text + if isOpening c then 1 else 0 := List.countP_cons

theorem closes_cons (c : Char) (text : Text) :
    closes (c :: text) = closes text + if isClosing c then 1 else 0 := List.countP_cons

@[simp]
theorem opens_append (front back : Text) : opens (front ++ back) = opens front + opens back :=
  List.countP_append

@[simp]
theorem closes_append (front back : Text) : closes (front ++ back) = closes front + closes back :=
  List.countP_append

/-! ## Operands -/

/-- **A text that an operand may begin with,** inside `depth` brackets: no closing bracket is one
too many, and outside the brackets there are operand characters only. -/
structure Begins (depth : Nat) (text : Text) : Prop where
  within : ∀ front, front <+: text → closes front ≤ depth + opens front
  plain : ∀ front c back, front ++ c :: back = text → depth + opens front = closes front →
    isOpening c = true ∨ isOperandChar c = true

/-- **An operand:** it closes the brackets that it opens, each behind its opening, and outside them
it holds operand characters only. -/
structure IsOperand (text : Text) : Prop where
  begins : Begins 0 text
  closed : opens text = closes text

/-- A text whose first character opens a bracket that is not closed in it. -/
def Unclosed (text : Text) : Prop :=
  text ≠ [] ∧ ∀ front, front <+: text → front ≠ [] → closes front < opens front

/-- A text whose last character closes a bracket that is not opened in it. -/
def Unopened (text : Text) : Prop :=
  text ≠ [] ∧ ∀ back, back <:+ text → back ≠ [] → opens back < closes back

instance (text : Text) : Decidable (Unclosed text) :=
  decidable_of_iff (text ≠ [] ∧ ∀ front ∈ text.inits, front ≠ [] → closes front < opens front)
    (by simp only [List.mem_inits, Unclosed])

theorem Begins.of_prefix (h : Begins depth text) (hfront : front <+: text) :
    Begins depth front := by
  refine ⟨fun start hstart => h.within start (hstart.trans hfront), fun start c tail heq => ?_⟩
  obtain ⟨others, rfl⟩ := hfront
  refine h.plain start c (tail ++ others) ?_
  rw [← heq, List.append_assoc, List.cons_append]

/-! ## Steps of a scan -/

/-- Where a scan ends: outside brackets, in front of a character that opens none and is none of an
operand. -/
def Stops (depth : Nat) (c : Char) : Prop :=
  depth = 0 ∧ isOpening c = false ∧ isOperandChar c = false

instance (depth : Nat) (c : Char) : Decidable (Stops depth c) :=
  inferInstanceAs (Decidable (_ ∧ _))

/-- A bracket that is not opened in an operand ends it. -/
theorem stops_of_isClosing (h : isClosing c = true) : Stops 0 c :=
  ⟨rfl, isOpening_of_isClosing h, isOperandChar_of_isClosing h⟩

/-- The depth behind a character. -/
def bracketStep (depth : Nat) (c : Char) : Nat :=
  if isOpening c then depth + 1 else if isClosing c then depth - 1 else depth

/-- A character that a scan reads changes the depth by its own brackets. -/
theorem bracketStep_add (h : ¬ Stops depth c) :
    bracketStep depth c + (if isClosing c then 1 else 0) =
      depth + (if isOpening c then 1 else 0) := by
  unfold bracketStep
  by_cases hopening : isOpening c = true
  · simp [hopening, isClosing_of_isOpening hopening]
  · by_cases hclosing : isClosing c = true
    · have hdepth : depth ≠ 0 := fun hzero =>
        h ⟨hzero, Bool.not_eq_true _ ▸ hopening, isOperandChar_of_isClosing hclosing⟩
      simp only [hopening, hclosing, if_true, if_false, Bool.false_eq_true]
      omega
    · simp [hopening, hclosing]

/-- The depth behind a part of a text, seen from behind its first character. -/
theorem bracketStep_add_sub (h : ¬ Stops depth c) (front : Text) :
    bracketStep depth c + opens front - closes front =
      depth + opens (c :: front) - closes (c :: front) := by
  have hstep := bracketStep_add h
  rw [opens_cons, closes_cons]
  omega

/-- **A step of a scan from the start.** -/
theorem leadingFrom_cons (depth : Nat) (c : Char) (rest : Text) :
    leadingFrom depth (c :: rest) =
      if Stops depth c then 0 else leadingFrom (bracketStep depth c) rest + 1 := by
  rw [leadingFrom.eq_def, bracketStep]
  unfold Stops
  by_cases hopening : isOpening c = true
  · simp [hopening]
  · by_cases hclosing : isClosing c = true
    · have hplain := isOperandChar_of_isClosing hclosing
      cases depth <;> simp [hopening, hclosing, hplain]
    · by_cases hplain : isOperandChar c = true
      · simp [hopening, hclosing, hplain]
      · cases depth <;> simp [hopening, hclosing, hplain]

/-- What begins an operand is read step by step. -/
theorem begins_cons :
    Begins depth (c :: text) ↔ ¬ Stops depth c ∧ Begins (bracketStep depth c) text := by
  -- the numbers of brackets behind `depth` and `c` are those behind the depth that `c` leaves
  have hcount : ¬ Stops depth c → ∀ front,
      (closes (c :: front) ≤ depth + opens (c :: front) ↔
        closes front ≤ bracketStep depth c + opens front) ∧
      (depth + opens (c :: front) = closes (c :: front) ↔
        bracketStep depth c + opens front = closes front) := by
    intro hgoes front
    have hstep := bracketStep_add hgoes
    rw [opens_cons, closes_cons]
    omega
  constructor
  · intro h
    have hgoes : ¬ Stops depth c := by
      rintro ⟨rfl, hopening, hplain⟩
      rcases h.plain [] c text rfl rfl with hc | hc
      · simp [hopening] at hc
      · simp [hplain] at hc
    refine ⟨hgoes, fun front hfront => ?_, fun front e back heq hzero => ?_⟩
    · exact (hcount hgoes front).1.1 (h.within _ ((List.prefix_cons_inj c).2 hfront))
    · exact h.plain (c :: front) e back (by rw [← heq]; rfl) ((hcount hgoes front).2.2 hzero)
  · rintro ⟨hgoes, h⟩
    refine ⟨fun front hfront => ?_, fun front e back heq hzero => ?_⟩
    · rcases List.prefix_cons_iff.1 hfront with rfl | ⟨tail, rfl, htail⟩
      · exact Nat.zero_le _
      · exact (hcount hgoes tail).1.2 (h.within tail htail)
    · rcases List.append_eq_cons_iff.1 heq with ⟨rfl, heq⟩ | ⟨tail, rfl, rfl⟩
      · obtain ⟨rfl, -⟩ := List.cons.inj heq
        rw [← Bool.not_eq_false, ← Bool.not_eq_false, ← not_and_or]
        exact fun hstops => hgoes ⟨by simpa using hzero, hstops⟩
      · exact h.plain tail e back rfl ((hcount hgoes tail).2.1 hzero)

theorem begins_nil (depth : Nat) : Begins depth [] := ⟨by simp, by simp⟩

instance decidableBegins : (depth : Nat) → (text : Text) → Decidable (Begins depth text)
  | depth, [] => .isTrue (begins_nil depth)
  | depth, c :: text =>
    have := decidableBegins (bracketStep depth c) text
    decidable_of_iff _ begins_cons.symm

instance (text : Text) : Decidable (IsOperand text) :=
  decidable_of_iff (Begins 0 text ∧ opens text = closes text)
    ⟨fun h => ⟨h.1, h.2⟩, fun h => ⟨h.begins, h.closed⟩⟩

/-- What begins an operand goes on at the depth that it leaves. -/
theorem Begins.append (hfront : Begins depth front)
    (hback : Begins (depth + opens front - closes front) back) : Begins depth (front ++ back) := by
  induction front generalizing depth with
  | nil => exact hback
  | cons c front ih =>
    obtain ⟨hgoes, htail⟩ := begins_cons.1 hfront
    rw [← bracketStep_add_sub hgoes] at hback
    exact begins_cons.2 ⟨hgoes, ih htail hback⟩

/-- **A scan goes on behind what it has read,** at the depth that this leaves. -/
theorem leadingFrom_append (h : Begins depth front) (back : Text) :
    leadingFrom depth (front ++ back) =
      front.length + leadingFrom (depth + opens front - closes front) back := by
  induction front generalizing depth with
  | nil => simp
  | cons c front ih =>
    obtain ⟨hgoes, hfront⟩ := begins_cons.1 h
    rw [List.cons_append, leadingFrom_cons, if_neg hgoes, ih hfront, bracketStep_add_sub hgoes,
      List.length_cons]
    omega

/-! ## The operand at the start of a text -/

/-- What a scan reads begins an operand. It ends with the text, or outside brackets in front of a
character that no operand goes on with. -/
theorem leadingFrom_spec (depth : Nat) (text : Text) :
    ∃ operand rest, operand ++ rest = text ∧ leadingFrom depth text = operand.length ∧
      Begins depth operand ∧ (rest = [] ∨
        depth + opens operand = closes operand ∧ ∀ c, rest.head? = some c → Stops 0 c) := by
  induction text generalizing depth with
  | nil => exact ⟨[], [], rfl, rfl, begins_nil depth, .inl rfl⟩
  | cons c text ih =>
    rw [leadingFrom_cons]
    by_cases hstops : Stops depth c
    · obtain ⟨rfl, -⟩ := id hstops
      refine ⟨[], c :: text, rfl, if_pos hstops, begins_nil 0, .inr ⟨rfl, ?_⟩⟩
      rintro e he
      rwa [← Option.some.inj he]
    · obtain ⟨operand, rest, rfl, hlength, hbegins, hrest⟩ := ih (bracketStep depth c)
      refine ⟨c :: operand, rest, rfl, by rw [if_neg hstops, hlength, List.length_cons],
        begins_cons.2 ⟨hstops, hbegins⟩, hrest.imp_right fun ⟨hzero, hhead⟩ => ⟨?_, hhead⟩⟩
      have hstep := bracketStep_add hstops
      rw [opens_cons, closes_cons]
      omega

theorem leading_le (text : Text) : leading text ≤ text.length := by
  obtain ⟨operand, rest, rfl, hlength, -⟩ := leadingFrom_spec 0 text
  rw [leading, hlength, List.length_append]
  omega

theorem splitLeading_eq (h : leading (front ++ back) = front.length) :
    splitLeading (front ++ back) = (front, back) := by
  rw [splitLeading, h, List.splitAt_eq, List.take_left, List.drop_left]

/-- A text has a longest start with a property that the empty text has. -/
theorem exists_longest_start {P : Text → Prop} (hnil : P []) (text : Text) :
    ∃ front back, front ++ back = text ∧ P front ∧
      ∀ more, more <+: back → more ≠ [] → ¬ P (front ++ more) := by
  -- from the end: all of the text has the property, or no start with its last character has
  induction text using List.reverseRecOn with
  | nil => exact ⟨[], [], rfl, hnil, fun more hmore hne => absurd (List.prefix_nil.1 hmore) hne⟩
  | append_singleton text c ih =>
    by_cases hall : P (text ++ [c])
    · exact ⟨text ++ [c], [], by simp, hall,
        fun more hmore hne => absurd (List.prefix_nil.1 hmore) hne⟩
    · obtain ⟨front, back, rfl, hfront, hlongest⟩ := ih
      refine ⟨front, back ++ [c], by simp, hfront, fun more hmore hne => ?_⟩
      rcases List.prefix_concat_iff.1 hmore with rfl | hmore
      · rwa [← List.append_assoc]
      · exact hlongest more hmore hne

/-- A beginning of an operand with brackets that stay open: behind an operand, the first of them is
opened. -/
theorem exists_unclosed (h : Begins 0 text) (hopen : closes text < opens text) :
    ∃ stretch more, stretch ++ more = text ∧ IsOperand stretch ∧ Unclosed more := by
  -- behind the longest start that closes all its brackets, one is open all the way
  obtain ⟨stretch, more, rfl, hclosed, hlongest⟩ :=
    exists_longest_start (P := fun front => opens front = closes front) rfl text
  refine ⟨stretch, more, rfl, ⟨h.of_prefix (List.prefix_append _ _), hclosed⟩, ?_, ?_⟩
  · rintro rfl
    rw [List.append_nil] at hopen
    omega
  · intro front hfront hne
    have hwithin := h.within (stretch ++ front) ((List.prefix_append_right_inj stretch).2 hfront)
    have hopen := hlongest front hfront hne
    rw [opens_append, closes_append] at hwithin hopen
    omega

/-- **What a scan from the start of a text finds:** an operand in front of a character that no
operand goes on with; or all of the text, since behind an operand a bracket is opened that is not
closed. -/
theorem leading_cases (text : Text) :
    (∃ operand rest, operand ++ rest = text ∧ leading text = operand.length ∧
        IsOperand operand ∧ ∀ c, rest.head? = some c → Stops 0 c) ∨
      (leading text = text.length ∧
        ∃ stretch more, stretch ++ more = text ∧ IsOperand stretch ∧ Unclosed more) := by
  obtain ⟨operand, rest, rfl, hlength, hbegins, hrest⟩ := leadingFrom_spec 0 text
  rw [Nat.zero_add] at hrest
  by_cases hclosed : opens operand = closes operand
  · refine .inl ⟨operand, rest, rfl, hlength, ⟨hbegins, hclosed⟩, fun c hc => ?_⟩
    rcases hrest with rfl | ⟨-, hstops⟩
    · simp at hc
    · exact hstops c hc
  · -- a scan inside a bracket ends with the text only
    obtain rfl := hrest.resolve_right fun h => hclosed h.1
    have hwithin := hbegins.within operand (List.prefix_refl operand)
    rw [List.append_nil] at hlength ⊢
    exact .inr ⟨hlength, exists_unclosed hbegins (by omega)⟩

/-- A bracket that is not closed can begin an operand. -/
theorem Unclosed.begins (h : Unclosed text) : Begins 0 text := by
  refine ⟨fun front hfront => ?_, fun front c back heq hzero => ?_⟩
  · by_cases hnil : front = []
    · simp [hnil]
    · have hlt := h.2 front hfront hnil
      omega
  · -- outside brackets there is the place in front of the first character only, and it opens one
    rcases List.eq_nil_or_concat' front with rfl | ⟨start, e, rfl⟩
    · have hlt := h.2 [c] (heq ▸ List.prefix_append [c] back) (List.cons_ne_nil c [])
      rw [opens_cons] at hlt
      by_contra hnot
      simp [(not_or.1 hnot).1] at hlt
    · have hlt := h.2 _ (heq ▸ List.prefix_append (start ++ [e]) (c :: back)) (by simp)
      omega

/-- Where no operand goes on, a scan that has closed its brackets ends. -/
theorem leading_append_of_closed (hback : ∀ c, back.head? = some c → Stops 0 c)
    (h : ¬ ∃ stretch more, stretch ++ more = front ∧ IsOperand stretch ∧ Unclosed more) :
    leading (front ++ back) = leading front := by
  obtain ⟨operand, rest, rfl, hlength, hoperand, hrest⟩ :=
    (leading_cases front).resolve_right fun hopen => h hopen.2
  have hstop : leadingFrom 0 (rest ++ back) = 0 := by
    cases rest with
    | nil =>
      cases back with
      | nil => rfl
      | cons c back => exact (leadingFrom_cons 0 c back).trans (if_pos (hback c rfl))
    | cons c rest => exact (leadingFrom_cons 0 c (rest ++ back)).trans (if_pos (hrest c rfl))
  have hdepth : 0 + opens operand - closes operand = 0 := by
    have hclosed := hoperand.closed
    omega
  rw [hlength, List.append_assoc, leading, leadingFrom_append hoperand.begins, hdepth, hstop,
    Nat.add_zero]

/-- **A scan that has not closed its brackets goes on,** whatever follows. -/
theorem length_lt_leading_append (hstretch : IsOperand stretch) (hmore : Unclosed more)
    (hback : back ≠ []) : (stretch ++ more).length < leading (stretch ++ more ++ back) := by
  obtain ⟨c, back, rfl⟩ := List.exists_cons_of_ne_nil hback
  have hclosed := hstretch.closed
  have hopen := hmore.2 more (List.prefix_refl more) hmore.1
  have hgoes : ¬ Stops (0 + opens more - closes more) c := fun hstops => by
    have hzero := hstops.1
    omega
  have hdepth : 0 + opens stretch - closes stretch = 0 := by omega
  rw [leading, List.append_assoc, leadingFrom_append hstretch.begins, hdepth,
    leadingFrom_append hmore.begins, leadingFrom_cons, if_neg hgoes, List.length_append]
  omega

/-! ## Mirror images -/

/-- A character in the mirror: brackets are exchanged. -/
def mirrorChar (c : Char) : Char :=
  if c = '(' then ')' else if c = ')' then '(' else if c = '[' then ']' else if c = ']' then '['
  else c

/-- **The mirror image of a text:** its characters backwards, with brackets exchanged. -/
def mirror (text : Text) : Text := (text.map mirrorChar).reverse

/-- A character is a bracket, or it is the same in the mirror. -/
theorem mirrorChar_cases (c : Char) :
    (c = '(' ∨ c = ')' ∨ c = '[' ∨ c = ']') ∨
      mirrorChar c = c ∧ isOpening c = false ∧ isClosing c = false := by
  by_cases hc : c = '(' ∨ c = ')' ∨ c = '[' ∨ c = ']'
  · exact .inl hc
  · refine .inr ?_
    simp only [not_or] at hc
    simp [mirrorChar, isOpening, isClosing, hc]

@[simp]
theorem mirrorChar_mirrorChar (c : Char) : mirrorChar (mirrorChar c) = c := by
  rcases mirrorChar_cases c with hc | ⟨hc, -⟩
  · rcases hc with rfl | rfl | rfl | rfl <;> decide
  · rw [hc, hc]

@[simp]
theorem isOpening_mirrorChar (c : Char) : isOpening (mirrorChar c) = isClosing c := by
  rcases mirrorChar_cases c with hc | ⟨hc, hopening, hclosing⟩
  · rcases hc with rfl | rfl | rfl | rfl <;> decide
  · rw [hc, hopening, hclosing]

@[simp]
theorem isClosing_mirrorChar (c : Char) : isClosing (mirrorChar c) = isOpening c := by
  rw [← isOpening_mirrorChar, mirrorChar_mirrorChar]

@[simp]
theorem isOperandChar_mirrorChar (c : Char) : isOperandChar (mirrorChar c) = isOperandChar c := by
  rcases mirrorChar_cases c with hc | ⟨hc, -⟩
  · rcases hc with rfl | rfl | rfl | rfl <;> decide
  · rw [hc]

@[simp]
theorem mirror_mirror (text : Text) : mirror (mirror text) = text := by
  rw [mirror, mirror, List.map_reverse, List.reverse_reverse, List.map_map]
  exact (List.map_congr_left fun c _ => mirrorChar_mirrorChar c).trans (List.map_id text)

@[simp]
theorem mirror_append (front back : Text) : mirror (front ++ back) = mirror back ++ mirror front := by
  rw [mirror, List.map_append, List.reverse_append]
  rfl

theorem mirror_cons (c : Char) (text : Text) : mirror (c :: text) = mirror text ++ [mirrorChar c] :=
  mirror_append [c] text

@[simp]
theorem length_mirror (text : Text) : (mirror text).length = text.length := by
  rw [mirror, List.length_reverse, List.length_map]

@[simp]
theorem opens_mirror (text : Text) : opens (mirror text) = closes text := by
  rw [opens, mirror, List.countP_reverse, List.countP_map, closes]
  exact List.countP_congr fun c _ => by simp

@[simp]
theorem closes_mirror (text : Text) : closes (mirror text) = opens text := by
  rw [← opens_mirror, mirror_mirror]

theorem mirror_eq_iff {first second : Text} : mirror first = second ↔ first = mirror second := by
  constructor
  · rintro rfl
    rw [mirror_mirror]
  · rintro rfl
    rw [mirror_mirror]

theorem mirror_ne_nil (h : text ≠ []) : mirror text ≠ [] := fun hnil =>
  h (mirror_eq_iff.1 hnil)

theorem prefix_mirror_iff : front <+: mirror text ↔ mirror front <:+ text := by
  constructor
  · rintro ⟨back, hback⟩
    exact ⟨mirror back, by rw [← mirror_append, hback, mirror_mirror]⟩
  · rintro ⟨back, rfl⟩
    exact ⟨mirror back, by rw [mirror_append, mirror_mirror]⟩

theorem head?_mirror (text : Text) : (mirror text).head? = text.getLast?.map mirrorChar := by
  rw [mirror, List.head?_reverse, List.getLast?_map]

/-- **The mirror image of an operand is an operand.** -/
theorem IsOperand.mirror (h : IsOperand text) : IsOperand (mirror text) := by
  have hclosed := h.closed
  refine ⟨⟨fun front hfront => ?_, fun front c back heq hzero => ?_⟩, ?_⟩
  · -- what an end has too much to close, the start in front of it has too much to open
    obtain ⟨start, rfl⟩ := prefix_mirror_iff.1 hfront
    have hwithin := h.begins.within start (List.prefix_append _ _)
    rw [opens_append, closes_append, opens_mirror, closes_mirror] at hclosed
    omega
  · have hparts : Operand.mirror back ++ mirrorChar c :: Operand.mirror front = text := by
      rw [← mirror_mirror text, ← heq, mirror_append]
      simp [Operand.mirror]
    rw [← hparts, opens_append, closes_append, opens_cons, closes_cons, opens_mirror,
      closes_mirror, opens_mirror, closes_mirror, isOpening_mirrorChar,
      isClosing_mirrorChar] at hclosed
    by_cases hopening : isOpening c = true
    · exact .inl hopening
    · have hwithin := h.begins.within _ (hparts ▸ List.prefix_append (Operand.mirror back) _)
      rw [opens_mirror, closes_mirror] at hwithin
      have hplain := h.begins.plain _ _ _ hparts
      rw [opens_mirror, closes_mirror, isOpening_mirrorChar, isOperandChar_mirrorChar] at hplain
      by_cases hclosing : isClosing c = true
      · simp only [hopening, hclosing, if_true, if_false, Bool.false_eq_true] at hclosed
        omega
      · simp only [hopening, hclosing, if_false, Bool.false_eq_true] at hclosed
        exact .inr ((hplain (by omega)).resolve_left hclosing)
  · rw [opens_mirror, closes_mirror, hclosed]

theorem Unclosed.mirror (h : Unclosed text) : Unopened (mirror text) := by
  refine ⟨mirror_ne_nil h.1, fun back hback hne => ?_⟩
  rw [← mirror_mirror back, ← prefix_mirror_iff, mirror_mirror] at hback
  have hlt := h.2 _ hback (mirror_ne_nil hne)
  rwa [opens_mirror, closes_mirror] at hlt

/-! ## The operand at the end of a text -/

theorem trailingFrom_eq (depth : Nat) (text : Text) :
    trailingFrom depth text = leadingFrom depth (text.map mirrorChar) := by
  induction text generalizing depth with
  | nil => rfl
  | cons c rest ih =>
    unfold trailingFrom
    rw [List.map_cons]
    unfold leadingFrom
    simp only [isOpening_mirrorChar, isClosing_mirrorChar, isOperandChar_mirrorChar, ih]

theorem trailingFrom_reverse (depth : Nat) (text : Text) :
    trailingFrom depth text.reverse = leadingFrom depth (mirror text) := by
  rw [trailingFrom_eq, List.map_reverse]
  rfl

/-- **The scan from the end of a text** is the scan of its mirror image from the start. -/
theorem trailing_eq (text : Text) : trailing text = leading (mirror text) :=
  trailingFrom_reverse 0 text

theorem splitTrailing_eq (h : trailing (front ++ back) = back.length) :
    splitTrailing (front ++ back) = (front, back) := by
  rw [splitTrailing, h, List.length_append, Nat.add_sub_cancel, List.splitAt_eq, List.take_left,
    List.drop_left]

/-- **What a scan from the end of a text finds:** an operand behind a character that no operand goes
on with; or all of the text, since in front of an operand a bracket is closed that is not opened. -/
theorem trailing_cases (text : Text) :
    (∃ start operand, start ++ operand = text ∧ splitTrailing text = (start, operand) ∧
        IsOperand operand ∧
        ∀ c, start.getLast? = some c → isClosing c = false ∧ isOperandChar c = false) ∨
      (splitTrailing text = ([], text) ∧
        ∃ ahead stretch, ahead ++ stretch = text ∧ IsOperand stretch ∧ Unopened ahead) := by
  rcases leading_cases (mirror text) with
    ⟨operand, rest, heq, hlength, hoperand, hstops⟩ | ⟨hlength, stretch, more, heq, hstretch, hmore⟩
  · obtain rfl : mirror rest ++ mirror operand = text := by
      rw [← mirror_append, heq, mirror_mirror]
    refine .inl ⟨_, _, rfl, splitTrailing_eq ?_, hoperand.mirror, fun c hc => ?_⟩
    · rw [trailing_eq, hlength, length_mirror]
    · have hhead : rest.head? = some (mirrorChar c) := by
        rw [← mirror_mirror rest, head?_mirror, hc]
        rfl
      obtain ⟨-, hopening, hplain⟩ := hstops _ hhead
      rw [isOpening_mirrorChar] at hopening
      rw [isOperandChar_mirrorChar] at hplain
      exact ⟨hopening, hplain⟩
  · refine .inr ⟨?_, mirror more, mirror stretch, ?_, hstretch.mirror, hmore.mirror⟩
    · have hall : trailing ([] ++ text) = text.length := by
        rw [List.nil_append, trailing_eq, hlength, length_mirror]
      exact splitTrailing_eq hall
    · rw [← mirror_append, heq, mirror_mirror]

end Siblings.Operand
