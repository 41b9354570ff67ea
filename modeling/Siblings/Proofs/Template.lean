import Siblings.Proofs.Text
import Siblings.Specialization

/-!
# Templates

A template is a row of literal texts and placeholders. Filling it goes over the whole text once for
each placeholder, and so also over what was put in before. As long as there are no braces in the
literal texts and in the tokens, every brace of the text belongs to a placeholder of the template, so
each pass finds the places of its own placeholder and no others.

* `Text.replaceAll_append`, `Text.replaceAll_self`: a replacement, part by part.
* `Slot`, `Piece`, `Template`: templates by their parts, and what becomes of them at once.
* `replaceAll_text`: one pass over a template.
* `fillInOrder_text`: passes, one after the other.
* `fill_at_once`: **a template is filled as if all its placeholders were replaced at once.**
-/

namespace Siblings

namespace Text

variable {needle replacement text rest : Text} {c first : Char}

/-! ## Replacement, part by part -/

theorem replaceAll_cons (h : ¬ needle <+: c :: rest) :
    replaceAll needle replacement (c :: rest) = c :: replaceAll needle replacement rest := by
  rw [replaceAll, replaceFrom, if_neg (List.isPrefixOf_iff_prefix.not.2 h), ← replaceAll]

/-- **A text without the first character of what is replaced** stays as it is, whatever follows. -/
theorem replaceAll_append (h : first ∉ text) (rest : Text) :
    replaceAll (first :: needle) replacement (text ++ rest) =
      text ++ replaceAll (first :: needle) replacement rest := by
  induction text with
  | nil => rfl
  | cons c text ih =>
    rw [List.mem_cons, not_or] at h
    have hnot : ¬ first :: needle <+: c :: (text ++ rest) := fun hprefix =>
      h.1 (List.cons_prefix_cons.1 hprefix).1
    rw [List.cons_append, replaceAll_cons hnot, ih h.2, List.cons_append]

/-- The rest of an occurrence that has been replaced is skipped. -/
theorem replaceFrom_length (text rest : Text) :
    replaceFrom needle replacement text.length (text ++ rest) =
      replaceAll needle replacement rest := by
  induction text with
  | nil => rfl
  | cons c text ih => exact ih

/-- **An occurrence at the start of a text** is replaced. -/
theorem replaceAll_self (first : Char) (needle replacement rest : Text) :
    replaceAll (first :: needle) replacement (first :: needle ++ rest) =
      replacement ++ replaceAll (first :: needle) replacement rest := by
  have hstarts : first :: needle <+: first :: (needle ++ rest) := List.prefix_append _ rest
  rw [List.cons_append, replaceAll, replaceFrom, if_pos (List.isPrefixOf_iff_prefix.2 hstarts)]
  exact congrArg (replacement ++ ·) (replaceFrom_length needle rest)

end Text

namespace Idiom

/-! ## Templates by their parts -/

/-- **What a template leaves open:** one of four tokens of a type. -/
inductive Slot where
  | boxed
  | primitive
  | sentinel
  | storage
  deriving DecidableEq, Repr

namespace Slot

/-- Every slot, in the order in which a template is filled. -/
def all : List Slot := [boxed, primitive, sentinel, storage]

/-- The name of a slot in templates. -/
def name : Slot → Text
  | boxed => "boxed".toList
  | primitive => "primitive".toList
  | sentinel => "sentinel".toList
  | storage => "storage".toList

/-- The token of a type that goes into a slot. -/
def token (descriptor : Descriptor) : Slot → Text
  | boxed => descriptor.boxedName
  | primitive => descriptor.primitiveName
  | sentinel => descriptor.sentinel
  | storage => descriptor.storageKind

theorem mem_all (slot : Slot) : slot ∈ all := by cases slot <;> decide

theorem name_injective {slot other : Slot} (h : slot.name = other.name) : slot = other := by
  revert h
  cases slot <;> cases other <;> decide

end Slot

/-- A text without braces. -/
def Braceless (text : Text) : Prop := '{' ∉ text ∧ '}' ∉ text

instance (text : Text) : Decidable (Braceless text) := inferInstanceAs (Decidable (_ ∧ _))

theorem Slot.braceless_name (slot : Slot) : Braceless slot.name := by
  cases slot <;> decide

/-- **A part of a template:** a text without braces, or a placeholder. -/
inductive Piece where
  | literal (text : Text) (braceless : Braceless text)
  | hole (slot : Slot)

namespace Piece

/-- A part as it stands in the template. -/
def text : Piece → Text
  | literal text _ => text
  | hole slot => placeholder slot.name

/-- A part with the tokens of a type. -/
def filled (descriptor : Descriptor) : Piece → Text
  | literal text _ => text
  | hole slot => slot.token descriptor

/-- A part after the slots of a list have been filled. -/
def settle {descriptor : Descriptor} (h : ∀ slot : Slot, Braceless (slot.token descriptor))
    (slots : List Slot) : Piece → Piece
  | literal text braceless => literal text braceless
  | hole slot => if slot ∈ slots then literal (slot.token descriptor) (h slot) else hole slot

end Piece

/-- **A template:** its parts, one behind the other. -/
abbrev Template := List Piece

namespace Template

/-- The text of a template. -/
def text (template : Template) : Text := template.flatMap Piece.text

/-- **A template with all its placeholders filled at once.** -/
def filled (descriptor : Descriptor) (template : Template) : Text :=
  template.flatMap (Piece.filled descriptor)

end Template

/-- A text with its placeholders filled one after the other, in a given order. -/
def fillInOrder (order : List Slot) (template : Text) (descriptor : Descriptor) : Text :=
  order.foldl
    (fun text slot => Text.replaceAll (placeholder slot.name) (slot.token descriptor) text) template

/-! ## Filling -/

variable {descriptor : Descriptor}

/-- A placeholder starts with the placeholder of no other slot, whatever follows it. -/
theorem eq_of_prefix_placeholder {slot other : Slot} {rest : Text}
    (h : placeholder slot.name <+: placeholder other.name ++ rest) : slot = other := by
  obtain ⟨tail, htail⟩ := h
  have hnames : slot.name ++ '}' :: tail = other.name ++ '}' :: rest := by
    simpa [placeholder] using htail
  -- each name goes up to the first closing brace
  have hname : ∀ (slot : Slot) (rest : Text),
      (slot.name ++ '}' :: rest).takeWhile (· != '}') = slot.name := by
    intro slot rest
    rw [List.takeWhile_append_of_pos, List.takeWhile_cons_of_neg (by decide), List.append_nil]
    intro c hc
    exact bne_iff_ne.2 fun heq => slot.braceless_name.2 (heq ▸ hc)
  refine Slot.name_injective ?_
  rw [← hname slot tail, hnames, hname]

/-- A pass copies the placeholder of another slot. -/
theorem replaceAll_placeholder_of_ne {slot other : Slot} (hne : slot ≠ other)
    (replacement rest : Text) :
    Text.replaceAll (placeholder slot.name) replacement (placeholder other.name ++ rest) =
      placeholder other.name ++ Text.replaceAll (placeholder slot.name) replacement rest := by
  have hnot : ¬ placeholder slot.name <+: '{' :: (other.name ++ ['}'] ++ rest) := fun h =>
    hne (eq_of_prefix_placeholder h)
  have hinside : '{' ∉ other.name ++ ['}'] := by
    simpa using other.braceless_name.1
  calc
    Text.replaceAll (placeholder slot.name) replacement ('{' :: (other.name ++ ['}'] ++ rest))
      = '{' :: Text.replaceAll (placeholder slot.name) replacement (other.name ++ ['}'] ++ rest) :=
        Text.replaceAll_cons hnot
    _ = '{' :: (other.name ++ ['}'] ++
          Text.replaceAll (placeholder slot.name) replacement rest) :=
        congrArg _ (Text.replaceAll_append hinside rest)

/-- **One pass over a template** fills one slot. -/
theorem replaceAll_text (h : ∀ slot : Slot, Braceless (slot.token descriptor)) (slot : Slot)
    (template : Template) :
    Text.replaceAll (placeholder slot.name) (slot.token descriptor) template.text =
      Template.text (template.map (Piece.settle h [slot])) := by
  induction template with
  | nil => rfl
  | cons piece template ih =>
    rw [Template.text, List.flatMap_cons, List.map_cons, Template.text, List.flatMap_cons]
    rw [Template.text, Template.text] at ih
    cases piece with
    | literal text braceless =>
      exact (Text.replaceAll_append braceless.1 _).trans (congrArg (text ++ ·) ih)
    | hole other =>
      by_cases heq : other = slot
      · subst heq
        rw [Piece.settle, if_pos (List.mem_singleton_self other)]
        exact (Text.replaceAll_self _ _ _ _).trans (congrArg (other.token descriptor ++ ·) ih)
      · rw [Piece.settle, if_neg (List.mem_singleton.not.2 heq)]
        exact (replaceAll_placeholder_of_ne (Ne.symm heq) _ _).trans
          (congrArg (placeholder other.name ++ ·) ih)

/-- Slots that are filled one after the other are filled. -/
theorem settle_settle (h : ∀ slot : Slot, Braceless (slot.token descriptor)) (slot : Slot)
    (order : List Slot) (piece : Piece) :
    (piece.settle h [slot]).settle h order = piece.settle h (slot :: order) := by
  cases piece with
  | literal => rfl
  | hole other =>
    by_cases heq : other = slot
    · simp [Piece.settle, heq]
    · simp [Piece.settle, heq]

/-- **Passes over a template, one after the other,** fill the slots that they are made for. -/
theorem fillInOrder_text (h : ∀ slot : Slot, Braceless (slot.token descriptor)) (order : List Slot)
    (template : Template) :
    fillInOrder order template.text descriptor =
      Template.text (template.map (Piece.settle h order)) := by
  -- the token that a pass puts in is a literal text to the passes behind it
  induction order generalizing template with
  | nil =>
    have hsame : ∀ piece : Piece, piece.settle h [] = piece := fun piece => by cases piece <;> rfl
    rw [List.map_congr_left fun piece _ => hsame piece, List.map_id']
    rfl
  | cons slot order ih =>
    calc
      fillInOrder (slot :: order) template.text descriptor
        = fillInOrder order (Text.replaceAll (placeholder slot.name) (slot.token descriptor)
            template.text) descriptor := rfl
      _ = fillInOrder order (Template.text (template.map (Piece.settle h [slot]))) descriptor := by
          rw [replaceAll_text h]
      _ = Template.text ((template.map (Piece.settle h [slot])).map (Piece.settle h order)) := ih _
      _ = Template.text (template.map (Piece.settle h (slot :: order))) := by
          rw [List.map_map]
          exact congrArg _ (List.map_congr_left fun piece _ => settle_settle h slot order piece)

/-- A template whose slots are all filled. -/
theorem text_map_settle (h : ∀ slot : Slot, Braceless (slot.token descriptor)) {order : List Slot}
    (hall : ∀ slot, slot ∈ order) (template : Template) :
    Template.text (template.map (Piece.settle h order)) = template.filled descriptor := by
  rw [Template.text, List.flatMap_map, Template.filled]
  refine List.flatMap_congr fun piece _ => ?_
  cases piece with
  | literal => rfl
  | hole slot => rw [Piece.settle, if_pos (hall slot)]; rfl

/-- **Passes for all slots, in any order,** fill a template at once. -/
theorem fillInOrder_eq_filled (h : ∀ slot : Slot, Braceless (slot.token descriptor))
    {order : List Slot} (hall : ∀ slot, slot ∈ order) (template : Template) :
    fillInOrder order template.text descriptor = template.filled descriptor :=
  (fillInOrder_text h order template).trans (text_map_settle h hall template)

/-- A template is filled slot by slot. -/
theorem fill_eq_fillInOrder (template : Text) (descriptor : Descriptor) :
    fill template descriptor = fillInOrder Slot.all template descriptor := rfl

/-- **A template is filled as if all its placeholders were replaced at once,** if there are no braces
in the tokens that are put in. So the order of the passes does not matter, as long as there is one for
every slot. An idiom has the tokens of the default type in its matcher and those of the target in its
replacement; if it is made of two templates, they are filled at once. -/
theorem fill_at_once (template : Template) (descriptor : Descriptor)
    (h : ∀ slot : Slot, Braceless (slot.token descriptor)) :
    fill template.text descriptor = template.filled descriptor ∧
      (∀ order : List Slot, (∀ slot, slot ∈ order) →
        fillInOrder order template.text descriptor = template.filled descriptor) ∧
      (∀ (idiom : Idiom) (default target : Descriptor),
        render idiom default target = ⟨fill idiom.matcher default, fill idiom.replacement target⟩) ∧
      ∀ (replacement : Template) (target : Descriptor),
        (∀ slot : Slot, Braceless (slot.token target)) →
          render ⟨template.text, replacement.text⟩ descriptor target =
            ⟨template.filled descriptor, replacement.filled target⟩ := by
  have hmatcher : fill template.text descriptor = template.filled descriptor := by
    rw [fill_eq_fillInOrder, fillInOrder_eq_filled h Slot.mem_all]
  refine ⟨hmatcher, fun order hall => fillInOrder_eq_filled h hall template, fun _ _ _ => rfl,
    fun replacement target htarget => ?_⟩
  rw [render, hmatcher, fill_eq_fillInOrder, fillInOrder_eq_filled htarget Slot.mem_all]

/-- A type whose tokens are the names of slots. -/
def namesakes : Descriptor where
  storageKind := "boxed".toList
  boxedName := "sentinel".toList
  primitiveName := "storage".toList
  accessor := "get".toList
  conversion := "of(o)".toList
  formatSpec := "%s".toList
  sentinel := "primitive".toList
  filled := by decide

/-- A template where placeholders stand side by side, and beside a name that is no placeholder. -/
def crowded : Template :=
  [.hole .boxed, .hole .sentinel, .literal "(boxed) ".toList (by decide), .hole .primitive,
    .hole .storage, .hole .boxed]

theorem fill_at_once_namesakes :
    (∀ slot : Slot, Braceless (slot.token namesakes)) ∧
      crowded.text =
        "\x7bboxed\x7d\x7bsentinel\x7d(boxed) \x7bprimitive\x7d\x7bstorage\x7d\x7bboxed\x7d".toList ∧
      fill crowded.text namesakes = "sentinelprimitive(boxed) storageboxedsentinel".toList ∧
      fillInOrder Slot.all.reverse crowded.text namesakes =
        "sentinelprimitive(boxed) storageboxedsentinel".toList ∧
      render ⟨crowded.text, crowded.text⟩ namesakes namesakes =
        ⟨crowded.filled namesakes, crowded.filled namesakes⟩ := by
  have hbraceless : ∀ slot : Slot, Braceless (slot.token namesakes) := fun slot => by
    cases slot <;> decide
  have hall : ∀ slot : Slot, slot ∈ Slot.all.reverse := fun slot =>
    List.mem_reverse.2 slot.mem_all
  have hfilled : crowded.filled namesakes = "sentinelprimitive(boxed) storageboxedsentinel".toList :=
    by decide
  obtain ⟨hfill, horder, -, hrender⟩ := fill_at_once crowded namesakes hbraceless
  exact ⟨hbraceless, by decide, hfill.trans hfilled, (horder _ hall).trans hfilled,
    hrender crowded namesakes hbraceless⟩

end Idiom

end Siblings
