import Siblings.Proofs.Brackets

/-!
# Scans of operands

A scan reads a text from a place on, backwards or forwards, and counts the brackets that it is
inside. It is inside one wherever it reads a bracket that leads out, so the count never falls below
zero, and it ends in the middle of a text only where the count is zero. What it has read then is an
operand, and the longest one that stands there. The two scans are mirror images of each other.

* `Matched`: texts whose brackets match, by their parts.
* `closesAll_of_begins`: what closes its brackets falls into groups.
* `matched_iff_isOperand`: **an operand is made of operand characters and groups in brackets.**
* `ReadsFromStart`, `ReadsFromEnd`: what a scan reads, and how it goes.
* `exists_readsFromStart`: a scan from the start of a text.
* `ReadsFromStart.mirror`: the same scan in the mirror.
* `splitTrailing_mirror`: the operand that it finds there.
* `scans_read_operands`: **the scans from any place of a line.**
-/

namespace Siblings.Operand

variable {text front back operand rest inside : Text} {depth : Nat} {c opening closing : Char}
  {outside : Char → Bool}

/-! ## Texts whose brackets match -/

/-- A character that is no bracket. -/
def isPlain (c : Char) : Bool := !isOpening c && !isClosing c

/-- **A text whose brackets match,** with the characters of a class outside of them: such characters,
and groups, which go from a bracket that opens to the bracket that closes it. Inside a group there is
any text whose brackets match. -/
inductive Matched : (Char → Bool) → Text → Prop
  | nil {outside : Char → Bool} : Matched outside []
  | char {outside : Char → Bool} {c : Char} {rest : Text} (plain : outside c = true)
      (tail : Matched outside rest) : Matched outside (c :: rest)
  | group {outside : Char → Bool} {opening closing : Char} {inside rest : Text}
      (opened : isOpening opening = true) (body : Matched isPlain inside)
      (closed : isClosing closing = true) (tail : Matched outside rest) :
      Matched outside (opening :: (inside ++ closing :: rest))

/-- A text that goes on inside `depth` brackets and closes them: in front of the bracket that closes
the innermost one its brackets match, and so on outwards. -/
def ClosesAll : Nat → Text → Prop
  | 0, text => Matched isOperandChar text
  | depth + 1, text => ∃ inside closing rest, inside ++ closing :: rest = text ∧
      Matched isPlain inside ∧ isClosing closing = true ∧ ClosesAll depth rest

theorem isPlain_iff : isPlain c = true ↔ isOpening c = false ∧ isClosing c = false := by
  simp [isPlain]

theorem isPlain_of_isOperandChar (h : isOperandChar c = true) : isPlain c = true := by
  refine isPlain_iff.2 ⟨Bool.eq_false_iff.2 fun hopening => ?_, Bool.eq_false_iff.2 fun hclosing => ?_⟩
  · simp [isOperandChar_of_isOpening hopening] at h
  · simp [isOperandChar_of_isClosing hclosing] at h

/-- A group in front of a text that closes its brackets. -/
theorem ClosesAll.group (hopening : isOpening opening = true) (hinside : Matched isPlain inside)
    (hclosing : isClosing closing = true) (h : ClosesAll depth rest) :
    ClosesAll depth (opening :: (inside ++ closing :: rest)) := by
  cases depth with
  | zero => exact .group hopening hinside hclosing h
  | succ depth =>
    obtain ⟨body, last, tail, rfl, hbody, hlast, htail⟩ := h
    exact ⟨opening :: (inside ++ closing :: body), last, tail, by simp,
      .group hopening hinside hclosing hbody, hlast, htail⟩

/-- A character that a scan reads, other than a bracket, in front of such a text. -/
theorem ClosesAll.char (hplain : isPlain c = true) (hgoes : ¬ Stops depth c)
    (h : ClosesAll depth rest) : ClosesAll depth (c :: rest) := by
  cases depth with
  | zero =>
    refine .char ?_ h
    by_contra hnot
    exact hgoes ⟨rfl, (isPlain_iff.1 hplain).1, Bool.eq_false_iff.2 hnot⟩
  | succ depth =>
    obtain ⟨body, last, tail, rfl, hbody, hlast, htail⟩ := h
    exact ⟨c :: body, last, tail, rfl, .char hplain hbody, hlast, htail⟩

/-- **What begins an operand and closes its brackets** has groups in brackets as its parts. -/
theorem closesAll_of_begins (h : Begins depth text) (hclosed : depth + opens text = closes text) :
    ClosesAll depth text := by
  -- along the text, where a bracket opens there is one more to close behind it
  induction text generalizing depth with
  | nil =>
    obtain rfl : depth = 0 := hclosed
    exact .nil
  | cons c text ih =>
    obtain ⟨hgoes, hbegins⟩ := begins_cons.1 h
    have hstep := bracketStep_add hgoes
    rw [opens_cons, closes_cons] at hclosed
    have htail : ClosesAll (bracketStep depth c) text := ih hbegins (by omega)
    by_cases hopening : isOpening c = true
    · rw [bracketStep, if_pos hopening] at htail
      obtain ⟨inside, closing, rest, rfl, hinside, hclosing, hrest⟩ := htail
      exact hrest.group hopening hinside hclosing
    · rw [bracketStep, if_neg hopening] at htail
      by_cases hclosing : isClosing c = true
      · rw [if_pos hclosing] at htail
        cases depth with
        | zero => exact absurd (stops_of_isClosing hclosing) hgoes
        | succ depth => exact ⟨[], c, text, rfl, .nil, hclosing, htail⟩
      · rw [if_neg hclosing] at htail
        exact htail.char
          (isPlain_iff.2 ⟨Bool.eq_false_iff.2 hopening, Bool.eq_false_iff.2 hclosing⟩) hgoes

/-- A text whose brackets match closes as many as it opens. -/
theorem Matched.closed (h : Matched outside text) (hplain : ∀ c, outside c = true → isPlain c = true) :
    opens text = closes text := by
  induction h with
  | nil => rfl
  | char hc _ ih =>
    obtain ⟨hopening, hclosing⟩ := isPlain_iff.1 (hplain _ hc)
    rw [opens_cons, closes_cons, hopening, hclosing, ih hplain]
  | group hopening _ hclosing _ ihbody ih =>
    have hbody := ihbody fun _ => id
    have htail := ih hplain
    simp only [opens_cons, closes_cons, opens_append, closes_append, hopening, hclosing,
      isClosing_of_isOpening hopening, isOpening_of_isClosing hclosing, if_true, if_false,
      Bool.false_eq_true]
    omega

/-- A text whose brackets match can begin an operand wherever its other characters can stand. -/
theorem Matched.begins (h : Matched outside text)
    (hplain : ∀ c, outside c = true → isPlain c = true ∧ ¬ Stops depth c) : Begins depth text := by
  induction h generalizing depth with
  | nil => exact begins_nil depth
  | char hc _ ih =>
    obtain ⟨hneither, hgoes⟩ := hplain _ hc
    obtain ⟨hopening, hclosing⟩ := isPlain_iff.1 hneither
    refine begins_cons.2 ⟨hgoes, ?_⟩
    rw [bracketStep, hopening, hclosing]
    exact ih hplain
  | @group _ opening closing inside rest hopening hbody hclosing _ ihbody ih =>
    have hbalanced := hbody.closed fun _ => id
    have hin : bracketStep depth opening = depth + 1 := if_pos hopening
    have hout : bracketStep (depth + 1) closing = depth := by
      simp [bracketStep, hclosing, isOpening_of_isClosing hclosing]
    have hdepth : depth + 1 + opens inside - closes inside = depth + 1 := by omega
    have hinside : Begins (depth + 1) inside :=
      ihbody fun c hc => ⟨hc, fun hstops => Nat.succ_ne_zero depth hstops.1⟩
    have hbehind : Begins (depth + 1) (closing :: rest) := by
      refine begins_cons.2 ⟨fun hstops => Nat.succ_ne_zero depth hstops.1, ?_⟩
      rw [hout]
      exact ih hplain
    refine begins_cons.2 ⟨fun hstops => ?_, ?_⟩
    · rw [hstops.2.1] at hopening
      exact Bool.false_ne_true hopening
    · rw [hin]
      exact hinside.append (by rwa [hdepth])

/-- **An operand is made of operand characters and groups in brackets.** -/
theorem matched_iff_isOperand : Matched isOperandChar text ↔ IsOperand text := by
  constructor
  · intro h
    refine ⟨h.begins fun c hc => ⟨isPlain_of_isOperandChar hc, fun hstops => ?_⟩,
      h.closed fun c => isPlain_of_isOperandChar⟩
    rw [hstops.2.2] at hc
    exact Bool.false_ne_true hc
  · exact fun h => closesAll_of_begins h.begins ((Nat.zero_add _).trans h.closed)

/-! ## The scan from the start of a text -/

/-- **A scan from the start of a text** that reads an operand and ends in front of the rest. -/
structure ReadsFromStart (operand rest : Text) : Prop where
  reads : leading (operand ++ rest) = operand.length
  /-- It counts the brackets that it is inside: those that were opened and not closed. -/
  counts : ∀ start more, start ++ more = operand → ∃ depth, depth + closes start = opens start ∧
    leading (operand ++ rest) = start.length + leadingFrom depth (more ++ rest)
  /-- It is inside a bracket where it reads one that closes. -/
  inside : ∀ start c more, start ++ c :: more = operand → isClosing c = true →
    closes start < opens start
  /-- It ends in front of the end of the text outside brackets only. -/
  outside : rest ≠ [] → opens operand = closes operand
  /-- What it has read outside brackets is made of operand characters and groups. -/
  matched : opens operand = closes operand → Matched isOperandChar operand
  /-- It ends in front of a bracket that closes, or of a character of no operand. -/
  edge : ∀ c, rest.head? = some c →
    isClosing c = true ∨ isPlain c = true ∧ isOperandChar c = false
  /-- No operand at the start of the text is longer. -/
  longest : ∀ other, other <+: operand ++ rest → Matched isOperandChar other →
    other.length ≤ operand.length

/-- No operand goes on with a bracket that closes, or with a character of no operand. -/
theorem stops_iff : Stops 0 c ↔ isClosing c = true ∨ isPlain c = true ∧ isOperandChar c = false := by
  constructor
  · rintro ⟨-, hopening, hplain⟩
    by_cases hclosing : isClosing c = true
    · exact .inl hclosing
    · exact .inr ⟨isPlain_iff.2 ⟨hopening, Bool.eq_false_iff.2 hclosing⟩, hplain⟩
  · rintro (hclosing | ⟨hneither, hplain⟩)
    · exact stops_of_isClosing hclosing
    · exact ⟨rfl, (isPlain_iff.1 hneither).1, hplain⟩

/-- **A scan from the start of a text.** -/
theorem exists_readsFromStart (text : Text) :
    ∃ operand rest, operand ++ rest = text ∧ ReadsFromStart operand rest := by
  obtain ⟨operand, rest, rfl, hlength, hbegins, hrest⟩ := leadingFrom_spec 0 text
  rw [Nat.zero_add] at hrest
  refine ⟨operand, rest, rfl, hlength, fun start more heq => ?_, fun start c more heq hclosing => ?_,
    fun hne => (hrest.resolve_left hne).1,
    fun hclosed => matched_iff_isOperand.2 ⟨hbegins, hclosed⟩, fun c hc => ?_,
    fun other hother hmatched => ?_⟩
  · have hstart : start <+: operand := ⟨more, heq⟩
    have hwithin := hbegins.within start hstart
    refine ⟨opens start - closes start, by omega, ?_⟩
    rw [← heq, List.append_assoc, leading, leadingFrom_append (hbegins.of_prefix hstart),
      Nat.zero_add]
  · have hwithin := hbegins.within (start ++ [c]) ⟨more, by simpa using heq⟩
    rw [opens_append, closes_append, opens_cons, closes_cons, hclosing,
      isOpening_of_isClosing hclosing] at hwithin
    simp only [if_true, if_false, Bool.false_eq_true, opens_nil, closes_nil] at hwithin
    omega
  · rcases hrest with rfl | ⟨-, hstops⟩
    · simp at hc
    · exact stops_iff.1 (hstops c hc)
  · obtain ⟨more, hmore⟩ := hother
    have hscan := leadingFrom_append (matched_iff_isOperand.1 hmatched).begins more
    rw [hmore, hlength] at hscan
    omega

/-! ## The scan from the end of a text -/

/-- **A scan from the end of a text** that reads an operand and ends behind the start. -/
structure ReadsFromEnd (start operand : Text) : Prop where
  reads : trailing (start ++ operand) = operand.length
  /-- It counts the brackets that it is inside: those that close behind it and do not open there. -/
  counts : ∀ more tail, more ++ tail = operand → ∃ depth, depth + opens tail = closes tail ∧
    trailing (start ++ operand) = tail.length + trailingFrom depth (start ++ more).reverse
  /-- It is inside a bracket where it reads one that opens. -/
  inside : ∀ more c tail, more ++ c :: tail = operand → isOpening c = true →
    opens tail < closes tail
  /-- It ends behind the start of the text outside brackets only. -/
  outside : start ≠ [] → opens operand = closes operand
  /-- What it has read outside brackets is made of operand characters and groups. -/
  matched : opens operand = closes operand → Matched isOperandChar operand
  /-- It ends behind a bracket that opens, or behind a character of no operand. -/
  edge : ∀ c, start.getLast? = some c →
    isOpening c = true ∨ isPlain c = true ∧ isOperandChar c = false
  /-- No operand at the end of the text is longer. -/
  longest : ∀ other, other <:+ start ++ operand → Matched isOperandChar other →
    other.length ≤ operand.length

@[simp]
theorem isPlain_mirrorChar (c : Char) : isPlain (mirrorChar c) = isPlain c := by
  rw [isPlain, isOpening_mirrorChar, isClosing_mirrorChar, Bool.and_comm, isPlain]

theorem matched_mirror (h : Matched isOperandChar text) : Matched isOperandChar (mirror text) :=
  matched_iff_isOperand.2 (matched_iff_isOperand.1 h).mirror

/-- **In the mirror,** a scan from the start of a text is a scan from its end. -/
theorem ReadsFromStart.mirror (h : ReadsFromStart operand rest) :
    ReadsFromEnd (mirror rest) (mirror operand) := by
  have hscan : trailing (Operand.mirror rest ++ Operand.mirror operand) = leading (operand ++ rest) := by
    rw [← mirror_append, trailing_eq, mirror_mirror]
  refine ⟨?_, fun more tail heq => ?_, fun more c tail heq hopening => ?_, fun hne => ?_, ?_,
    fun c hc => ?_, fun other hother hmatched => ?_⟩
  · rw [hscan, h.reads, length_mirror]
  · obtain ⟨depth, hdepth, hreads⟩ := h.counts (Operand.mirror tail) (Operand.mirror more)
      (by rw [← mirror_append, heq, mirror_mirror])
    rw [opens_mirror, closes_mirror] at hdepth
    refine ⟨depth, hdepth, ?_⟩
    rw [hscan, hreads, length_mirror, trailingFrom_reverse, mirror_append, mirror_mirror]
  · have hlt := h.inside (Operand.mirror tail) (mirrorChar c) (Operand.mirror more)
      (by rw [← mirror_mirror operand, ← heq, mirror_append, mirror_cons, List.append_assoc]; rfl)
      (by rwa [isClosing_mirrorChar])
    rwa [opens_mirror, closes_mirror] at hlt
  · have hclosed := h.outside fun hnil => hne (by rw [hnil]; rfl)
    rw [opens_mirror, closes_mirror, hclosed]
  · intro hclosed
    rw [opens_mirror, closes_mirror] at hclosed
    exact matched_mirror (h.matched hclosed.symm)
  · have hhead : rest.head? = some (mirrorChar c) := by
      rw [← mirror_mirror rest, head?_mirror, hc]
      rfl
    simpa using h.edge _ hhead
  · have hstarts : Operand.mirror other <+: operand ++ rest := by
      rw [← mirror_mirror (operand ++ rest), prefix_mirror_iff, mirror_mirror, mirror_append]
      exact hother
    have hle := h.longest _ hstarts (matched_mirror hmatched)
    rwa [length_mirror] at hle ⊢

/-- **A scan from the end of a text.** -/
theorem exists_readsFromEnd (text : Text) :
    ∃ start operand, start ++ operand = text ∧ ReadsFromEnd start operand := by
  obtain ⟨operand, rest, heq, hreads⟩ := exists_readsFromStart (mirror text)
  refine ⟨mirror rest, mirror operand, ?_, hreads.mirror⟩
  rw [← mirror_append, heq, mirror_mirror]

/-! ## Mirror images of scans -/

theorem byteLength_mirror (text : Text) :
    Text.byteLength (mirror text) = Text.byteLength text := by
  have hsize : ∀ c, (mirrorChar c).utf8Size = c.utf8Size := fun c => by
    rcases mirrorChar_cases c with hc | ⟨hc, -⟩
    · rcases hc with rfl | rfl | rfl | rfl <;> decide
    · rw [hc]
  induction text with
  | nil => rfl
  | cons c text ih =>
    rw [mirror_cons, Text.byteLength_append, ih]
    simp only [Text.byteLength, List.foldr_cons, List.foldr_nil, hsize]
    omega

/-- **The operand at the end of the mirror image of a text** is the mirror image of the operand at
its start. -/
theorem splitTrailing_mirror (text : Text) :
    splitTrailing (mirror text) = (mirror (splitLeading text).2, mirror (splitLeading text).1) := by
  obtain ⟨operand, rest, rfl, hlength, -⟩ := leadingFrom_spec 0 text
  have htrailing : trailing (mirror rest ++ mirror operand) = (mirror operand).length := by
    rw [← mirror_append, trailing_eq, mirror_mirror, length_mirror]
    exact hlength
  rw [splitLeading_eq hlength, mirror_append, splitTrailing_eq htrailing]

/-- **The scans from any place of a line,** backwards and forwards. Each counts the brackets that it is
inside, is inside one where it reads one that leads out, and ends in the middle of the line only where
it is inside none. What it has read then is made of operand characters and groups in brackets, goes up
to a bracket of what is around it or to a character of no operand, and is the longest operand there. A
scan of a text and a scan of its mirror image read as many characters, and as many bytes. -/
theorem scans_read_operands (line : Text) (position : Nat) :
    (∃ start operand, start ++ operand = line.take position ∧ ReadsFromEnd start operand) ∧
      (∃ operand rest, operand ++ rest = line.drop position ∧ ReadsFromStart operand rest) ∧
      ∀ text, trailing (mirror text) = leading text ∧
        (splitTrailing (mirror text)).2 = mirror (splitLeading text).1 ∧
        Text.byteLength (splitTrailing (mirror text)).2 =
          Text.byteLength (splitLeading text).1 := by
  refine ⟨exists_readsFromEnd _, exists_readsFromStart _, fun text => ⟨?_, ?_, ?_⟩⟩
  · rw [trailing_eq, mirror_mirror]
  · rw [splitTrailing_mirror]
  · rw [splitTrailing_mirror, byteLength_mirror]

end Siblings.Operand
