import Mathlib.Data.List.DropRight
import Mathlib.Data.List.Infix
import Siblings.Text.Blank
import Siblings.Text.Line
import Siblings.Text.Utf8

/-!
# Occurrences, bytes and lines

* `includes_iff`: a search finds a text exactly where it occurs.
* `cut?_eq_some_iff`: a text is cut at the first occurrence.
* `trim_eq_nil_iff`: a text is blank if nothing is left of it when it is trimmed.
* `encode_injective`, `length_encode`: the bytes of a text.
* `lines_induction`: **a property of texts holds when a line in front preserves it.**
* `lines_split`: lines that are cut apart are the lines of their own texts.
* `KeepsEnd`: an image of a line that ends as the line does.
* `lines_mapLines`: the lines of a changed text are the changed lines.
* `mapLines_mapLines`: changes of the lines, one after the other, are one change when
  the first keeps the ends of the lines.
-/

namespace Siblings.Text

/-! ## Occurrences -/

/-- **A search finds a text exactly when it occurs.** -/
theorem includes_iff {needle text : Text} : includes needle text = true ↔ needle <:+: text := by
  induction text with
  | nil => simp [includes]
  | cons c rest ih =>
    rw [includes, Bool.or_eq_true, List.isPrefixOf_iff_prefix, ih, List.infix_cons_iff]

theorem includes_eq_false_iff {needle text : Text} :
    includes needle text = false ↔ ¬ needle <:+: text := by
  rw [← includes_iff, Bool.not_eq_true]

/-- **The first occurrence of a text** in another, which it cuts in two. -/
structure IsFirst (needle text before found : Text) : Prop where
  split : before ++ found = text
  starts : needle <+: found
  first : ∀ front back, front ++ back = text → needle <+: back → before.length ≤ front.length

namespace IsFirst

variable {needle text before found : Text}

theorem of_starts (h : needle <+: text) : IsFirst needle text [] text :=
  ⟨rfl, h, fun _ _ _ _ => Nat.zero_le _⟩

theorem cons {c : Char} (h : IsFirst needle text before found) (hnot : ¬ needle <+: c :: text) :
    IsFirst needle (c :: text) (c :: before) found := by
  refine ⟨by rw [List.cons_append, h.split], h.starts, fun front back heq hback => ?_⟩
  rcases List.append_eq_cons_iff.1 heq with ⟨-, rfl⟩ | ⟨others, rfl, rfl⟩
  · exact absurd hback hnot
  · exact Nat.succ_le_succ (h.first others back rfl hback)

/-- There is one first occurrence at most. -/
theorem unique {front back : Text} (h : IsFirst needle text before found)
    (h' : IsFirst needle text front back) : before = front ∧ found = back := by
  have hle := h.first front back h'.split h'.starts
  have hge := h'.first before found h.split h.starts
  exact List.append_inj (h.split.trans h'.split.symm) (Nat.le_antisymm hle hge)

theorem isInfix (h : IsFirst needle text before found) : needle <:+: text := by
  obtain ⟨tail, htail⟩ := h.starts
  exact ⟨before, tail, by rw [List.append_assoc, htail, h.split]⟩

/-- What follows a text does not matter to the first occurrence in it. -/
theorem append (h : IsFirst needle text before found) (more : Text) :
    IsFirst needle (text ++ more) before (found ++ more) := by
  refine ⟨by rw [← List.append_assoc, h.split], h.starts.trans (List.prefix_append _ _), ?_⟩
  intro front back heq hback
  by_contra hlt
  -- an occurrence in front of the first would end in the text
  have hlength := congrArg List.length h.split
  have hneedle := h.starts.length_le
  rw [List.length_append] at hlength
  rcases List.append_eq_append_iff.1 heq with ⟨others, rfl, rfl⟩ | ⟨others, rfl, -⟩
  · rw [List.length_append] at hlength
    have hprefix : needle <+: others :=
      List.prefix_of_prefix_length_le hback (List.prefix_append _ _) (by omega)
    exact hlt (h.first front others rfl hprefix)
  · rw [List.length_append] at hlt
    omega

theorem of_append {more : Text} (h : IsFirst needle (text ++ more) before (found ++ more))
    (hsplit : before ++ found = text) (hstarts : needle <+: found) :
    IsFirst needle text before found :=
  ⟨hsplit, hstarts, fun front back heq hback => h.first front (back ++ more)
    (by rw [← List.append_assoc, heq]) (hback.trans (List.prefix_append _ _))⟩

end IsFirst

theorem cut?_eq_none_iff {needle text : Text} : cut? needle text = none ↔ ¬ needle <:+: text := by
  induction text with
  | nil => cases needle <;> simp [cut?]
  | cons c rest ih =>
    simp only [cut?, List.infix_cons_iff, not_or, List.isPrefixOf_iff_prefix]
    split
    · rename_i hstarts
      simp [hstarts]
    · rename_i hnot
      rw [Option.map_eq_none_iff, ih]
      simp [hnot]

theorem isFirst_of_cut? {needle text before found : Text}
    (h : cut? needle text = some (before, found)) : IsFirst needle text before found := by
  induction text generalizing before with
  | nil =>
    cases needle with
    | nil =>
      obtain ⟨rfl, rfl⟩ := Prod.mk.inj (Option.some.inj h)
      exact .of_starts (List.prefix_refl [])
    | cons c needle => simp [cut?] at h
  | cons c rest ih =>
    simp only [cut?, List.isPrefixOf_iff_prefix] at h
    split at h
    · rename_i hstarts
      obtain ⟨rfl, rfl⟩ := Prod.mk.inj (Option.some.inj h)
      exact .of_starts hstarts
    · rename_i hnot
      obtain ⟨⟨start, tail⟩, hcut, heq⟩ := Option.map_eq_some_iff.1 h
      obtain ⟨rfl, rfl⟩ := Prod.mk.inj heq
      exact (ih hcut).cons hnot

/-- **A text is cut at the first occurrence.** -/
theorem cut?_eq_some_iff {needle text before found : Text} :
    cut? needle text = some (before, found) ↔ IsFirst needle text before found := by
  refine ⟨isFirst_of_cut?, fun h => ?_⟩
  cases hcut : cut? needle text with
  | none => exact absurd h.isInfix (cut?_eq_none_iff.1 hcut)
  | some parts =>
    obtain ⟨rfl, rfl⟩ := (isFirst_of_cut? hcut).unique h
    rfl

/-- What occurs in a text has a first occurrence. -/
theorem exists_isFirst {needle text : Text} (h : needle <:+: text) :
    ∃ before found, IsFirst needle text before found := by
  obtain ⟨⟨before, found⟩, hcut⟩ := Option.ne_none_iff_exists'.1 (cut?_eq_none_iff.not_left.2 h)
  exact ⟨before, found, isFirst_of_cut? hcut⟩

/-- The first occurrence cuts the text, and what is found starts with it. -/
theorem cut?_eq_some {needle text before found : Text}
    (h : cut? needle text = some (before, found)) :
    before ++ found = text ∧ needle <+: found :=
  ⟨(isFirst_of_cut? h).split, (isFirst_of_cut? h).starts⟩

/-! ## White space -/

theorem trimStart_eq_nil_iff {text : Text} : trimStart text = [] ↔ allBlank text = true := by
  rw [trimStart, List.dropWhile_eq_nil_iff, allBlank, List.all_eq_true]

theorem trimStart_trimStart (text : Text) : trimStart (trimStart text) = trimStart text :=
  List.dropWhile_idempotent _ _

theorem trimStart_append {blanks : Text} (h : allBlank blanks = true) (rest : Text) :
    trimStart (blanks ++ rest) = trimStart rest := by
  rw [trimStart, List.dropWhile_append_of_pos (List.all_eq_true.1 h)]
  rfl

/-- What follows a text that is not blank does not matter to where it starts. -/
theorem trimStart_append_of_ne_nil {text : Text} (h : trimStart text ≠ []) (rest : Text) :
    trimStart (text ++ rest) = trimStart text ++ rest := by
  rw [trimStart, List.dropWhile_append, if_neg]
  · rfl
  · rwa [List.isEmpty_iff]

theorem trimStart_cons {c : Char} (h : isBlank c = false) (rest : Text) :
    trimStart (c :: rest) = c :: rest := by
  rw [trimStart, List.dropWhile_cons, h]
  rfl

theorem allBlank_indent (text : Text) : allBlank (indent text) = true :=
  List.all_eq_true.2 fun _ hc => List.mem_takeWhile_imp hc

theorem indent_append {blanks rest : Text} (h : allBlank blanks = true)
    (hrest : trimStart rest = rest) : indent (blanks ++ rest) = blanks := by
  have hsplit := indent_append_trimStart (blanks ++ rest)
  rw [trimStart_append h, hrest] at hsplit
  exact List.append_cancel_right hsplit

/-- **A text starts with a word behind white space** exactly if it starts with the word when it is
trimmed. -/
theorem prefix_trimStart_iff {word text : Text} (h : trimStart word = word) :
    word <+: trimStart text ↔
      ∃ blanks rest, blanks ++ word ++ rest = text ∧ allBlank blanks = true := by
  constructor
  · rintro ⟨rest, hrest⟩
    refine ⟨indent text, rest, ?_, allBlank_indent text⟩
    rw [List.append_assoc, hrest, indent_append_trimStart]
  · rintro ⟨blanks, rest, rfl, hblanks⟩
    rw [List.append_assoc, trimStart_append hblanks]
    by_cases hnil : word = []
    · rw [hnil]
      exact List.nil_prefix
    · rw [trimStart_append_of_ne_nil (by rwa [h]), h]
      exact List.prefix_append _ _

/-- **A text is blank** if nothing is left of it when it is trimmed. -/
theorem trim_eq_nil_iff {text : Text} : trim text = [] ↔ allBlank text = true := by
  rw [trim, trimEnd, List.reverse_eq_nil_iff, trimStart_eq_nil_iff, allBlank, List.all_reverse,
    ← allBlank, ← trimStart_eq_nil_iff, trimStart_trimStart, trimStart_eq_nil_iff]

/-- **A text is what is left when it is trimmed,** with white space around it. -/
theorem exists_blanks_trim (text : Text) : ∃ left right, left ++ trim text ++ right = text ∧
    allBlank left = true ∧ allBlank right = true := by
  have hstart := indent_append_trimStart text
  have hend := indent_append_trimStart (trimStart text).reverse
  refine ⟨indent text, (indent (trimStart text).reverse).reverse, ?_, allBlank_indent text, ?_⟩
  · rw [trim, trimEnd, List.append_assoc, ← List.reverse_append, hend, List.reverse_reverse, hstart]
  · rw [allBlank, List.all_reverse]
    exact allBlank_indent _

/-- White space around a text without white space is trimmed away. -/
theorem trim_append {left word right : Text} (hleft : allBlank left = true)
    (hright : allBlank right = true) (hword : ∀ c ∈ word, isBlank c = false) :
    trim (left ++ word ++ right) = word := by
  have htrimmed : ∀ word : Text, (∀ c ∈ word, isBlank c = false) → trimStart word = word := by
    intro word hword
    cases word with
    | nil => rfl
    | cons c word => exact trimStart_cons (hword c List.mem_cons_self) word
  have hback : allBlank right.reverse = true := by rwa [allBlank, List.all_reverse]
  have hreverse := htrimmed word.reverse fun c hc => hword c (List.mem_reverse.1 hc)
  rw [trim, trimEnd, List.append_assoc, trimStart_append hleft]
  by_cases hnil : word = []
  · rw [hnil, List.nil_append, trimStart_eq_nil_iff.2 hright]
    rfl
  · rw [trimStart_append_of_ne_nil (by rwa [htrimmed word hword]), htrimmed word hword,
      List.reverse_append, trimStart_append hback, hreverse, List.reverse_reverse]

/-- There are few enough characters of white space to look at each of them. -/
theorem forall_isBlank {P : Char → Prop}
    (h : ∀ range ∈ blankRanges, ∀ code ∈ List.range' range.1 (range.2 + 1 - range.1),
      P (Char.ofNat code)) {c : Char} (hc : isBlank c = true) : P c := by
  rw [isBlank, inRanges, List.any_eq_true] at hc
  obtain ⟨range, hrange, hbounds⟩ := hc
  simp only [Bool.and_eq_true, decide_eq_true_eq] at hbounds
  rw [← Char.ofNat_toNat c]
  exact h range hrange c.toNat (List.mem_range'_1.2 ⟨hbounds.1, by omega⟩)

/-! ## Bytes -/

/-- **Different texts have different bytes.** -/
theorem encode_injective {first second : Text} (h : encode first = encode second) :
    first = second := by
  have hbytes : List.utf8Encode first = List.utf8Encode second := by
    unfold List.utf8Encode
    exact congrArg List.toByteArray h
  rw [← String.toByteArray_ofList, ← String.toByteArray_ofList, String.toByteArray_inj] at hbytes
  exact String.ofList_injective hbytes

theorem length_encode (text : Text) : (encode text).length = byteLength text := by
  induction text with
  | nil => rfl
  | cons c rest ih =>
    rw [byteLength, List.foldr_cons, ← byteLength, ← ih, encode, List.flatMap_cons,
      List.length_append, String.length_utf8EncodeChar, ← encode]

theorem byteLength_append (front back : Text) :
    byteLength (front ++ back) = byteLength front + byteLength back := by
  rw [← length_encode, encode, List.flatMap_append, List.length_append, ← encode, ← encode,
    length_encode, length_encode]

theorem encode_ne_nil {text : Text} (h : text ≠ []) : encode text ≠ [] := fun hnil =>
  h (encode_injective hnil)

/-! ## Lines -/

@[simp]
theorem lines_nil : lines [] = [] := rfl

/-- The first line of a text ends with its first line feed. -/
theorem lines_append_feed {body : Text} (h : '\n' ∉ body) (rest : Text) :
    lines (body ++ '\n' :: rest) = (body ++ ['\n']) :: lines rest := by
  induction body with
  | nil => simp [lines]
  | cons c body ih =>
    rw [List.mem_cons, not_or] at h
    rw [List.cons_append, lines, if_neg (Ne.symm h.1), ih h.2]
    rfl

/-- A text without a line feed is one line. -/
theorem lines_of_not_mem {body : Text} (h : '\n' ∉ body) (hne : body ≠ []) :
    lines body = [body] := by
  induction body with
  | nil => exact absurd rfl hne
  | cons c body ih =>
    rw [List.mem_cons, not_or] at h
    rw [lines, if_neg (Ne.symm h.1)]
    by_cases hb : body = []
    · rw [hb]; rfl
    · rw [ih h.2 hb]

/-- **Induction along the lines.** A property of texts holds of every text if it holds of
the empty one, of a last line without line feed, and is preserved by a line in front. -/
@[elab_as_elim]
theorem lines_induction {motive : Text → Prop} (text : Text) (nil : motive [])
    (last : ∀ body, '\n' ∉ body → body ≠ [] → motive body)
    (line : ∀ body rest, '\n' ∉ body → motive rest → motive (body ++ '\n' :: rest)) :
    motive text := by
  -- the text behind the first line is no tail by one, so the induction is on the length
  induction hn : text.length using Nat.strong_induction_on generalizing text with
  | _ n ih =>
    by_cases hmem : '\n' ∈ text
    · obtain ⟨body, rest, rfl, hbody⟩ := List.eq_append_cons_of_mem hmem
      exact line body rest hbody (ih _ (by simp [← hn]; omega) rest rfl)
    · by_cases hne : text = []
      · rw [hne]; exact nil
      · exact last text hmem hne

/-- A text that is empty or ends with a line feed, so that what follows starts a line. -/
def Closed (text : Text) : Prop := text = [] ∨ text.getLast? = some '\n'

theorem not_closed {body : Text} (h : '\n' ∉ body) (hne : body ≠ []) : ¬ Closed body := by
  rintro (hc | hc)
  · exact hne hc
  · exact h (List.mem_of_getLast? hc)

/-- A closed text stays closed without its first line. -/
theorem Closed.tail {body rest : Text} (h : Closed (body ++ '\n' :: rest)) : Closed rest := by
  by_cases hne : rest = []
  · exact .inl hne
  · rcases h with h | h
    · simp at h
    · rw [List.append_cons, List.getLast?_append_of_ne_nil _ hne] at h
      exact .inr h

theorem Closed.append {front back : Text} (hfront : Closed front) (hback : Closed back) :
    Closed (front ++ back) := by
  by_cases hne : back = []
  · rw [hne, List.append_nil]; exact hfront
  · rw [Closed, List.getLast?_append_of_ne_nil _ hne]
    exact .inr (hback.resolve_left hne)

/-- **A closed text and what follows it** have their own lines. -/
theorem lines_append {front : Text} (h : Closed front) (back : Text) :
    lines (front ++ back) = lines front ++ lines back := by
  induction front using lines_induction with
  | nil => rfl
  | last body hbody hne => exact absurd h (not_closed hbody hne)
  | line body rest hbody ih =>
    rw [List.append_assoc, List.cons_append, lines_append_feed hbody, ih h.tail,
      lines_append_feed hbody]
    rfl

/-- **Lines that are cut apart** are the lines of their own texts, and those in front are whole. -/
theorem lines_split {text : Text} {front back : List Text} (h : lines text = front ++ back) :
    lines front.flatten = front ∧ lines back.flatten = back ∧
      (back = [] ∨ Closed front.flatten) := by
  induction text using lines_induction generalizing front with
  | nil =>
    obtain ⟨rfl, rfl⟩ := List.nil_eq_append_iff.1 h
    exact ⟨rfl, rfl, .inl rfl⟩
  | last body hbody hne =>
    have hbodyLines := lines_of_not_mem hbody hne
    rw [hbodyLines] at h
    rcases List.singleton_eq_append_iff.1 h with ⟨rfl, rfl⟩ | ⟨rfl, rfl⟩
    · exact ⟨rfl, by simpa using hbodyLines, .inr (.inl rfl)⟩
    · exact ⟨by simpa using hbodyLines, rfl, .inl rfl⟩
  | line body rest hbody ih =>
    rw [lines_append_feed hbody] at h
    rcases List.cons_eq_append_iff.1 h with ⟨rfl, rfl⟩ | ⟨others, rfl, hrest⟩
    · refine ⟨rfl, ?_, .inr (.inl rfl)⟩
      rw [List.flatten_cons, flatten_lines, List.append_assoc, List.singleton_append,
        lines_append_feed hbody]
    · obtain ⟨hfront, hback, hclosed⟩ := ih hrest
      refine ⟨?_, hback, hclosed.imp_right (Closed.append (.inr (by simp)))⟩
      rw [List.flatten_cons, List.append_assoc, List.singleton_append, lines_append_feed hbody,
        hfront]

/-! ## The ends of lines -/

/-- **How a line ends:** with a line feed, with a carriage return and a line feed, or with
neither. -/
def terminator (line : Text) : Text :=
  match line.reverse with
  | '\n' :: '\r' :: _ => ['\r', '\n']
  | '\n' :: _ => ['\n']
  | _ => []

/-- **An image of a line that ends as the line does** and holds no other line feed. -/
def KeepsEnd (line image : Text) : Prop := ∃ body, '\n' ∉ body ∧ image = body ++ terminator line

/-- A text of one line: it holds no line feed in front of its end. -/
def OneLine (line : Text) : Prop := '\n' ∉ bareLine line

/-- The three ends of a line. -/
theorem terminator_cases (line : Text) :
    (∃ body, line = body ++ ['\r', '\n'] ∧ bareLine line = body ∧ terminator line = ['\r', '\n']) ∨
      (∃ body, line = body ++ ['\n'] ∧ bareLine line = body ∧ terminator line = ['\n']) ∨
        (line.getLast? ≠ some '\n' ∧ bareLine line = line ∧ terminator line = []) := by
  -- the ends are read from behind
  obtain ⟨back, rfl⟩ : ∃ back : Text, line = back.reverse := ⟨line.reverse, by simp⟩
  simp only [bareLine, terminator, List.reverse_reverse]
  rcases back with _ | ⟨c, back⟩
  · exact .inr (.inr ⟨by simp, rfl, rfl⟩)
  by_cases hc : c = '\n'
  · subst hc
    rcases back with _ | ⟨e, back⟩
    · exact .inr (.inl ⟨[], rfl, rfl, rfl⟩)
    by_cases he : e = '\r'
    · subst he
      exact .inl ⟨back.reverse, by simp, rfl, rfl⟩
    · refine .inr (.inl ⟨(e :: back).reverse, by simp, ?_, ?_⟩) <;> simp [he]
  · exact .inr (.inr ⟨by simpa using hc, by simp [hc], by simp [hc]⟩)

theorem bareLine_append_terminator (line : Text) : bareLine line ++ terminator line = line := by
  rcases terminator_cases line with ⟨body, h, hb, ht⟩ | ⟨body, h, hb, ht⟩ | ⟨-, hb, ht⟩
  · rw [hb, ht, ← h]
  · rw [hb, ht, ← h]
  · rw [hb, ht, List.append_nil]

theorem terminator_of_not_mem {text : Text} (h : '\n' ∉ text) : terminator text = [] := by
  rcases terminator_cases text with ⟨body, rfl, -⟩ | ⟨body, rfl, -⟩ | ⟨-, -, ht⟩
  · simp at h
  · simp at h
  · exact ht

/-- What stands in front of a character that is no line break does not matter to the end. -/
theorem terminator_append {c : Char} (hfeed : c ≠ '\n') (hreturn : c ≠ '\r') (front rest : Text) :
    terminator (front ++ c :: rest) = terminator rest := by
  obtain ⟨back, rfl⟩ : ∃ back : Text, rest = back.reverse := ⟨rest.reverse, by simp⟩
  simp only [terminator, List.reverse_append, List.reverse_cons, List.reverse_reverse,
    List.append_assoc]
  rcases back with _ | ⟨d, _ | ⟨e, back⟩⟩
  · simp [hfeed]
  · by_cases hd : d = '\n'
    · subst hd; simp [hreturn]
    · simp [hd]
  · by_cases hd : d = '\n' <;> by_cases he : e = '\r' <;> simp [hd, he]

theorem oneLine_of_not_mem {text : Text} (h : '\n' ∉ text) : OneLine text := by
  rcases terminator_cases text with ⟨body, rfl, -⟩ | ⟨body, rfl, -⟩ | ⟨-, hb, -⟩
  · simp at h
  · simp at h
  · rwa [OneLine, hb]

theorem oneLine_append_feed {body : Text} (h : '\n' ∉ body) : OneLine (body ++ ['\n']) := by
  rcases terminator_cases (body ++ ['\n']) with ⟨b, hb, hbare, -⟩ | ⟨b, hb, hbare, -⟩ | ⟨hlast, -⟩
  · have : body = b ++ ['\r'] := by
      rw [List.append_cons b '\r'] at hb
      exact List.append_cancel_right hb
    rw [OneLine, hbare]
    exact fun hmem => h (by rw [this]; exact List.mem_append_left _ hmem)
  · rw [OneLine, hbare, ← List.append_cancel_right hb]
    exact h
  · simp at hlast

/-- **The lines of a text are lines.** -/
theorem oneLine_of_mem {text line : Text} (h : line ∈ lines text) : OneLine line := by
  induction text using lines_induction with
  | nil => simp at h
  | last body hbody hne =>
    rw [lines_of_not_mem hbody hne, List.mem_singleton] at h
    rw [h]; exact oneLine_of_not_mem hbody
  | line body rest hbody ih =>
    rw [lines_append_feed hbody, List.mem_cons] at h
    rcases h with rfl | h
    · exact oneLine_append_feed hbody
    · exact ih h

theorem OneLine.keepsEnd {line : Text} (h : OneLine line) : KeepsEnd line line :=
  ⟨bareLine line, h, (bareLine_append_terminator line).symm⟩

/-- An image keeps the end of a line when it replaces what stands in front of a character that
is no line break, that character included. -/
theorem keepsEnd_of_rest {c : Char} (hfeed : c ≠ '\n') (hreturn : c ≠ '\r')
    {line front new rest : Text} (heq : line = front ++ c :: rest) (hline : OneLine line)
    (hnew : '\n' ∉ front → '\n' ∉ new) : KeepsEnd line (new ++ rest) := by
  subst heq
  have hterm := terminator_append hfeed hreturn front rest
  have hbare : bareLine (front ++ c :: rest) = front ++ c :: bareLine rest := by
    have heq := bareLine_append_terminator (front ++ c :: rest)
    rw [hterm] at heq
    refine List.append_cancel_right (heq.trans ?_)
    rw [List.append_assoc, List.cons_append, bareLine_append_terminator]
  rw [OneLine, hbare, List.mem_append, List.mem_cons] at hline
  simp only [not_or] at hline
  refine ⟨new ++ bareLine rest, ?_, ?_⟩
  · rw [List.mem_append, not_or]
    exact ⟨hnew hline.1, hline.2.2⟩
  · rw [hterm, List.append_assoc, bareLine_append_terminator]

theorem KeepsEnd.trans {line first second : Text} (h : KeepsEnd line first)
    (h' : KeepsEnd first second) : KeepsEnd line second := by
  obtain ⟨body, hbody, rfl⟩ := h
  obtain ⟨body', hbody', rfl⟩ := h'
  -- the end of the first image is that of the line, with a carriage return in front at most
  obtain ⟨extra, hextra, hterm⟩ :
      ∃ extra, '\n' ∉ extra ∧ terminator (body ++ terminator line) = extra ++ terminator line := by
    rcases terminator_cases line with ⟨-, -, -, ht⟩ | ⟨-, -, -, ht⟩ | ⟨-, -, ht⟩ <;> rw [ht]
    · exact ⟨[], by simp, by simp [terminator]⟩
    · rcases terminator_cases (body ++ ['\n']) with ⟨-, -, -, ht⟩ | ⟨-, -, -, ht⟩ | ⟨hlast, -⟩
      · exact ⟨['\r'], by decide, by rw [ht]; rfl⟩
      · exact ⟨[], by simp, by rw [ht]; rfl⟩
      · simp at hlast
    · exact ⟨[], by simp, by simp [terminator_of_not_mem hbody]⟩
  refine ⟨body' ++ extra, ?_, by rw [hterm, List.append_assoc]⟩
  rw [List.mem_append, not_or]
  exact ⟨hbody', hextra⟩

/-- An image of a line that ends with a line feed holds that one, and no other. -/
theorem KeepsEnd.cases {line image : Text} (h : KeepsEnd line image) :
    '\n' ∉ image ∧ line.getLast? ≠ some '\n' ∨ ∃ body, '\n' ∉ body ∧ image = body ++ ['\n'] := by
  obtain ⟨body, hbody, rfl⟩ := h
  rcases terminator_cases line with ⟨-, -, -, ht⟩ | ⟨-, -, -, ht⟩ | ⟨hlast, -, ht⟩ <;> rw [ht]
  · refine .inr ⟨body ++ ['\r'], ?_, by simp⟩
    simpa using hbody
  · exact .inr ⟨body, hbody, rfl⟩
  · exact .inl ⟨by simpa using hbody, hlast⟩

/-- The image of a line is a line. -/
theorem KeepsEnd.oneLine {line image : Text} (h : KeepsEnd line image) : OneLine image := by
  rcases h.cases with ⟨hnot, -⟩ | ⟨body, hbody, rfl⟩
  · exact oneLine_of_not_mem hnot
  · exact oneLine_append_feed hbody

/-! ## Changes of lines -/

/-- **A change of lines that keeps the end of every line,** or drops the line. -/
structure KeepsLines (f : Text → Text) : Prop where
  nil : f [] = []
  line : ∀ line, OneLine line → f line = [] ∨ KeepsEnd line (f line)

variable {f g : Text → Text}

theorem mapLines_append {front : Text} (h : Closed front) (back : Text) :
    mapLines f (front ++ back) = mapLines f front ++ mapLines f back := by
  rw [mapLines, lines_append h, List.map_append, List.flatten_append]
  rfl

theorem mapLines_of_not_mem (hf : f [] = []) {text : Text} (h : '\n' ∉ text) :
    mapLines f text = f text := by
  by_cases hne : text = []
  · rw [hne, hf]; rfl
  · rw [mapLines, lines_of_not_mem h hne]; simp

theorem mapLines_append_feed {body : Text} (h : '\n' ∉ body) (rest : Text) :
    mapLines f (body ++ '\n' :: rest) = f (body ++ ['\n']) ++ mapLines f rest := by
  rw [mapLines, lines_append_feed h]
  rfl

/-- A change of one line leaves a line or nothing, so what follows starts a line. -/
theorem lines_image {body image : Text} (h : image = [] ∨ KeepsEnd (body ++ ['\n']) image)
    (rest : Text) : lines (image ++ rest) = [image].filter (!·.isEmpty) ++ lines rest := by
  rcases h with rfl | h
  · rfl
  · rcases h.cases with ⟨-, hlast⟩ | ⟨out, hout, rfl⟩
    · simp at hlast
    · rw [List.append_assoc, List.singleton_append, lines_append_feed hout]
      simp

/-- **The lines of a changed text** are the changed lines, without those that are dropped. -/
theorem lines_mapLines (hg : KeepsLines g) (text : Text) :
    lines (mapLines g text) = ((lines text).map g).filter (!·.isEmpty) := by
  induction text using lines_induction with
  | nil => rfl
  | last body hbody hne =>
    rw [mapLines_of_not_mem hg.nil hbody, lines_of_not_mem hbody hne]
    by_cases hnil : g body = []
    · simp [hnil]
    · obtain ⟨out, hout, h⟩ := (hg.line body (oneLine_of_not_mem hbody)).resolve_left hnil
      rw [terminator_of_not_mem hbody, List.append_nil] at h
      rw [lines_of_not_mem (h ▸ hout) hnil]
      simp [hnil]
  | line body rest hbody ih =>
    -- the image of the first line is closed or gone, so the others start a line of their own
    rw [mapLines_append_feed hbody, lines_append_feed hbody,
      lines_image (hg.line _ (oneLine_append_feed hbody)), ih, List.map_cons, ← List.filter_append]
    rfl

/-- **Changes of the lines, one after the other,** are one change of the lines when the first
keeps their ends. -/
theorem mapLines_mapLines (hf : f [] = []) (hg : KeepsLines g) (text : Text) :
    mapLines f (mapLines g text) = mapLines (fun line => f (g line)) text := by
  rw [mapLines, lines_mapLines hg, mapLines]
  induction lines text with
  | nil => rfl
  | cons line others ih =>
    by_cases hnil : g line = []
    · simpa [hnil, hf] using ih
    · simpa [hnil] using ih

/-- The image of a closed text is closed. -/
theorem closed_mapLines (hg : KeepsLines g) {text : Text} (h : Closed text) :
    Closed (mapLines g text) := by
  induction text using lines_induction with
  | nil => exact .inl rfl
  | last body hbody hne => exact absurd h (not_closed hbody hne)
  | line body rest hbody ih =>
    rw [mapLines_append_feed hbody]
    refine Closed.append ?_ (ih h.tail)
    rcases hg.line _ (oneLine_append_feed hbody) with himage | himage
    · exact .inl himage
    · rcases himage.cases with ⟨-, hlast⟩ | ⟨out, -, heq⟩
      · simp at hlast
      · rw [heq]; exact .inr (by simp)

end Siblings.Text
