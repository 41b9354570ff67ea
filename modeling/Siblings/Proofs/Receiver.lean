import Siblings.Proofs.Identity

/-!
# Receivers

A call starts from its receiver, which is the longest operand in front of its dot: the scan that
looks for it finds no longer one and no shorter one. Only if a bracket is closed there that is not
opened in the line does the scan go on to the start of the line. So a cast stands in front of a whole
receiver, and where there is none the line stays as it is.

* `IsStretch`, `IsReceiver`: the longest operand at the end of a text, and a receiver.
* `isStretch_of_forall`: an operand is the longest if no operand ends in front of it.
* `isReceiver_iff`: **the scan from the end of a text finds the receiver.**
* `hasReceiver_iff`: a line has a receiver if one stands in front of its first call.
* `insertCast_of_isReceiver`: a cast is put in front of the receiver.
* `castOf_cases`: what the casts of a type make of a line.
* `cast_goes_before_receiver`: **casts are put in front of receivers, and change nothing else.**
-/

namespace Siblings

namespace Operand

variable {text start operand stretch receiver ahead line accessor cast before found : Text}

/-! ## The longest operand -/

/-- **The longest operand at the end of a text.** -/
structure IsStretch (text stretch : Text) : Prop where
  ends : stretch <:+ text
  operand : IsOperand stretch
  longest : ∀ other, other <:+ text → IsOperand other → other.length ≤ stretch.length

/-- **The receiver of a call that a text stands in front of:** the longest operand at the end of the
text, or all of the text if this operand meets a closing bracket whose opening bracket is missing. -/
def IsReceiver (text receiver : Text) : Prop :=
  ∃ ahead stretch, ahead ++ stretch = text ∧ IsStretch text stretch ∧
    (Unopened ahead ∧ receiver = text ∨ ¬ Unopened ahead ∧ receiver = stretch)

/-- What stands in front of an operand in an operand is an operand. -/
theorem IsOperand.of_append (h : IsOperand (ahead ++ stretch)) (hstretch : IsOperand stretch) :
    IsOperand ahead := by
  refine ⟨h.begins.of_prefix (List.prefix_append _ _), ?_⟩
  have hall := h.closed
  have hend := hstretch.closed
  rw [opens_append, closes_append] at hall
  omega

/-- An operand ends with a closing bracket or an operand character. -/
theorem IsOperand.last {c : Char} (h : IsOperand (ahead ++ [c])) :
    isClosing c = true ∨ isOperandChar c = true := by
  have hwithin := h.begins.within ahead (List.prefix_append _ _)
  have hplain := h.begins.plain ahead c [] rfl
  have hclosed := h.closed
  rw [opens_append, closes_append, opens_cons, closes_cons, opens_nil, closes_nil] at hclosed
  by_cases hclosing : isClosing c = true
  · exact .inl hclosing
  · by_cases hopening : isOpening c = true
    · simp only [hopening, hclosing, if_true, if_false, Bool.false_eq_true] at hclosed
      omega
    · simp only [hopening, hclosing, if_false, Bool.false_eq_true] at hclosed
      exact .inr ((hplain (by omega)).resolve_left hopening)

/-- **An operand is the longest** if no other ends where it starts. -/
theorem isStretch_of_forall (hstretch : IsOperand stretch)
    (h : ∀ tail, tail <:+ ahead → IsOperand tail → tail = []) :
    IsStretch (ahead ++ stretch) stretch := by
  refine ⟨List.suffix_append _ _, hstretch, fun other hother hoperand => ?_⟩
  rcases List.suffix_or_suffix_of_suffix hother (List.suffix_append ahead stretch) with
    hshort | ⟨tail, rfl⟩
  · exact hshort.length_le
  · -- a longer one has an operand in front of this one
    obtain ⟨front, hfront⟩ := hother
    rw [← List.append_assoc] at hfront
    have htail : tail <:+ ahead := ⟨front, List.append_cancel_right hfront⟩
    rw [h tail htail (hoperand.of_append hstretch), List.nil_append]

theorem IsStretch.unique {other : Text} (h : IsStretch text stretch) (h' : IsStretch text other) :
    stretch = other := by
  have hle := h'.longest stretch h.ends h.operand
  have hge := h.longest other h'.ends h'.operand
  exact (List.suffix_of_suffix_length_le h.ends h'.ends hle).eq_of_length (Nat.le_antisymm hle hge)

/-- **The scan from the end of a text** finds the receiver of what follows. -/
theorem isReceiver_splitTrailing (text : Text) : IsReceiver text (splitTrailing text).2 := by
  rcases trailing_cases text with
    ⟨start, operand, rfl, hsplit, hoperand, hstops⟩ | ⟨hsplit, ahead, stretch, rfl, hstretch, hopen⟩
  · refine ⟨start, operand, rfl, isStretch_of_forall hoperand fun tail htail hother => ?_, .inr ?_⟩
    · -- its last character would have been read
      rcases List.eq_nil_or_concat' tail with rfl | ⟨front, c, rfl⟩
      · rfl
      · obtain ⟨others, rfl⟩ := htail
        obtain ⟨hclosing, hplain⟩ := hstops c (by simp)
        rcases hother.last with hc | hc
        · simp [hclosing] at hc
        · simp [hplain] at hc
    · refine ⟨fun hopen => ?_, by rw [hsplit]⟩
      obtain ⟨front, c, rfl⟩ := (List.eq_nil_or_concat' start).resolve_left hopen.1
      have hlast := hopen.2 [c] (List.suffix_append front [c]) (List.cons_ne_nil c [])
      have hclosing := (hstops c List.getLast?_concat).1
      rw [closes_cons, closes_nil, hclosing] at hlast
      simp at hlast
  · refine ⟨ahead, stretch, rfl, isStretch_of_forall hstretch fun tail htail hother => ?_,
      .inl ⟨hopen, by rw [hsplit]⟩⟩
    -- an end that closes more brackets than it opens is no operand
    by_contra hne
    have hlt := hopen.2 tail htail hne
    have hclosed := hother.closed
    omega

theorem IsReceiver.unique {other : Text} (h : IsReceiver text receiver)
    (h' : IsReceiver text other) : receiver = other := by
  obtain ⟨ahead, stretch, heq, hstretch, hcases⟩ := h
  obtain ⟨ahead', stretch', heq', hstretch', hcases'⟩ := h'
  obtain rfl := hstretch.unique hstretch'
  obtain rfl := List.append_cancel_right (heq.trans heq'.symm)
  rcases hcases with ⟨hopen, rfl⟩ | ⟨hopen, rfl⟩ <;>
    rcases hcases' with ⟨hopen', rfl⟩ | ⟨hopen', rfl⟩
  · rfl
  · exact absurd hopen hopen'
  · exact absurd hopen' hopen
  · rfl

/-- **A receiver is what the scan finds,** and nothing else. -/
theorem isReceiver_iff : IsReceiver text receiver ↔ (splitTrailing text).2 = receiver := by
  constructor
  · exact fun h => (isReceiver_splitTrailing text).unique h
  · rintro rfl
    exact isReceiver_splitTrailing text

/-! ## Casts in front of receivers -/

/-- The call of an accessor, up to its bracket. -/
def callOf (accessor : Text) : Text := '.' :: accessor ++ ['(']

/-- **A line has a receiver** if one stands in front of its first call. -/
theorem hasReceiver_iff : HasReceiver accessor line ↔
    ∃ start receiver found, Text.IsFirst (callOf accessor) line (start ++ receiver) found ∧
      IsReceiver (start ++ receiver) receiver ∧ receiver ≠ [] := by
  constructor
  · rintro ⟨before, found, hcut, hne⟩
    have hparts := splitTrailing_append before
    refine ⟨(splitTrailing before).1, (splitTrailing before).2, found, ?_, ?_, hne⟩
    · rw [hparts]
      exact Text.cut?_eq_some_iff.1 hcut
    · rw [hparts]
      exact isReceiver_splitTrailing before
  · rintro ⟨start, receiver, found, hfirst, hreceiver, hne⟩
    refine ⟨start ++ receiver, found, Text.cut?_eq_some_iff.2 hfirst, ?_⟩
    rwa [isReceiver_iff.1 hreceiver]

/-- A line has no receiver if it has no call, or if none stands in front of the first one. -/
theorem not_hasReceiver_iff : ¬ HasReceiver accessor line ↔
    ¬ callOf accessor <:+: line ∨
      ∃ before found, Text.IsFirst (callOf accessor) line before found ∧ IsReceiver before [] := by
  constructor
  · intro hnone
    by_cases hcall : callOf accessor <:+: line
    · obtain ⟨before, found, hfirst⟩ := Text.exists_isFirst hcall
      refine .inr ⟨before, found, hfirst, isReceiver_iff.2 ?_⟩
      by_contra hne
      exact hnone ⟨before, found, Text.cut?_eq_some_iff.2 hfirst, hne⟩
    · exact .inl hcall
  · rintro hnone ⟨before, found, hcut, hne⟩
    have hfirst := Text.cut?_eq_some_iff.1 hcut
    rcases hnone with hnone | ⟨front, back, hother, hreceiver⟩
    · exact hnone hfirst.isInfix
    · obtain ⟨rfl, -⟩ := hfirst.unique hother
      exact hne (isReceiver_iff.1 hreceiver)

/-- **A cast is put in front of the receiver** of the first call. -/
theorem insertCast_of_isReceiver
    (hfirst : Text.IsFirst (callOf accessor) line (start ++ receiver) found)
    (hreceiver : IsReceiver (start ++ receiver) receiver) (hne : receiver ≠ []) :
    insertCast line accessor cast = start ++ cast ++ receiver ++ found := by
  have hcut := Text.cut?_eq_some_iff.2 hfirst
  have hsplit := isReceiver_iff.1 hreceiver
  have hparts := splitTrailing_append (start ++ receiver)
  rw [hsplit] at hparts
  rw [callOf] at hcut
  rw [insertCast, hcut]
  simp [hsplit, hne, List.append_cancel_right hparts]

end Operand

namespace Derivation

open Operand

variable {target : Descriptor} {line : Text}

/-- What is done to a text behind the casts: base class and header. -/
def dressed (d : Derivation) (text : Text) : Text :=
  let stripped := if d.flags.stripBaseClass then BaseClass.strip text d.targetClass else text
  match d.options.header with
  | some header => insertHeader stripped header
  | none => stripped

/-- **What the casts of a type make of a line:** nothing if the line does not carry the marker; else
it takes the cast of the type, which is put in at one place or not at all. -/
theorem castOf_cases (target : Descriptor) (line : Text) :
    castOf target line = line ∨
      Marker.carriedBy line castMarker = true ∧ ∃ cast, target.cast? = some cast ∧
        castOf target line = insertCast line target.accessor cast ∧
        ∃ start rest, line = start ++ rest ∧ castOf target line = start ++ cast ++ rest := by
  unfold castOf
  cases hcast : target.cast? with
  | none => exact .inl rfl
  | some cast =>
    dsimp only
    unfold castLine
    split
    · rename_i hmarked
      rcases insertCast_cases line target.accessor cast with
        ⟨hsame, -⟩ | ⟨-, before, found, hline, -, himage⟩
      · exact .inl hsame
      · refine .inr ⟨hmarked, cast, rfl, rfl, (splitTrailing before).1,
          (splitTrailing before).2 ++ found, ?_, ?_⟩
        · rw [← List.append_assoc, splitTrailing_append, hline]
        · rw [himage, List.append_assoc]
    · exact .inl rfl

/-- **Casts are put in front of receivers.** A line stays as it is exactly if it has no call of the
accessor or if there is no receiver in front of the first one; else the cast stands in front of that
receiver, once. Every text has one receiver at its end. In a derivation the casts come between the
replacement and what is done to base class and header; they change lines that carry the marker, by
one cast at most, and no line if the type has no cast. -/
theorem cast_goes_before_receiver (d : Derivation) (line accessor cast : Text) (hcast : cast ≠ []) :
    (insertCast line accessor cast = line ↔
        ¬ callOf accessor <:+: line ∨
          ∃ before found, Text.IsFirst (callOf accessor) line before found ∧
            IsReceiver before []) ∧
      (insertCast line accessor cast ≠ line →
        ∃ start receiver found,
          Text.IsFirst (callOf accessor) line (start ++ receiver) found ∧
            IsReceiver (start ++ receiver) receiver ∧
              insertCast line accessor cast = start ++ cast ++ receiver ++ found) ∧
      (∀ before, ∃! receiver, IsReceiver before receiver) ∧
      (∀ text, d.run = .ok text → ∃ replaced, d.substituted = .ok replaced ∧
        text = d.dressed (withCasts d.target replaced)) ∧
      (∀ replaced, withCasts d.target replaced = Text.mapLines (castOf d.target) replaced) ∧
      (∀ line, castOf d.target line = line ∨
        Marker.carriedBy line castMarker = true ∧ ∃ cast, d.target.cast? = some cast ∧
          castOf d.target line = insertCast line d.target.accessor cast ∧
          ∃ start rest, line = start ++ rest ∧ castOf d.target line = start ++ cast ++ rest) ∧
      (d.target.cast? = none → ∀ replaced, withCasts d.target replaced = replaced) := by
  have hsame : insertCast line accessor cast = line ↔ ¬ HasReceiver accessor line :=
    insertCast_eq_self_iff hcast
  refine ⟨hsame.trans not_hasReceiver_iff, fun hchanged => ?_, fun before => ?_,
    fun text hrun => ?_, withCasts_eq_mapLines d.target, castOf_cases d.target,
    fun hnone replaced => ?_⟩
  · obtain ⟨start, receiver, found, hfirst, hreceiver, hne⟩ :=
      hasReceiver_iff.1 (not_not.1 (hsame.not.1 hchanged))
    exact ⟨start, receiver, found, hfirst, hreceiver,
      insertCast_of_isReceiver hfirst hreceiver hne⟩
  · exact ⟨_, isReceiver_splitTrailing before, fun other h => (isReceiver_iff.1 h).symm⟩
  · obtain ⟨-, replaced, hreplaced, rfl⟩ := run_eq_ok_iff.1 hrun
    exact ⟨replaced, hreplaced, rfl⟩
  · rw [withCasts, hnone]

/-- A call whose receiver is in brackets, behind a bracket that stays open. -/
def bracketedCall : Text := "set(((Dataset) o[0]).get(i));".toList

theorem cast_goes_before_receiver_bracketed :
    "(int) ".toList ≠ [] ∧
      insertCast bracketedCall "get".toList "(int) ".toList =
        "set((int) ((Dataset) o[0]).get(i));".toList ∧
      ∃ start receiver found,
        Text.IsFirst (callOf "get".toList) bracketedCall (start ++ receiver) found ∧
          IsReceiver (start ++ receiver) receiver ∧
            insertCast bracketedCall "get".toList "(int) ".toList =
              start ++ "(int) ".toList ++ receiver ++ found := by
  have hcast : "(int) ".toList ≠ [] := by decide
  have himage : insertCast bracketedCall "get".toList "(int) ".toList =
      "set((int) ((Dataset) o[0]).get(i));".toList := by decide +kernel
  have hchanged : insertCast bracketedCall "get".toList "(int) ".toList ≠ bracketedCall := by
    rw [himage]
    decide
  exact ⟨hcast, himage, (cast_goes_before_receiver floatFromItself bracketedCall "get".toList
    "(int) ".toList hcast).2.1 hchanged⟩

end Derivation

end Siblings
