import Mathlib.Logic.ExistsUnique
import Siblings.Proofs.Pass

/-!
# The leftmost-longest segmentation

A text can be cut into gaps, which a pass keeps, and matches, which it replaces. The
cut is leftmost-longest when no matcher starts inside a gap and every match is the
longest matcher that starts where it does.

* `pieces_source`: a leftmost-longest cut is what the pass sees of its text.
* `leftmostLongest_ofPieces`: what the pass sees of a text is such a cut.
* `pass_segmentation`: **every text has exactly one leftmost-longest cut, and the pass
  replaces its matches, keeps its gaps and counts its matches by rule.**
-/

namespace Siblings

/-- **A text cut into gaps and matches.** A gap stands in front of every match, and one
behind the last. -/
inductive Segmentation where
  /-- The gap at the end. -/
  | last (gap : Text)
  /-- A gap, the rule of the match behind it, and what follows the match. -/
  | cut (gap : Text) (rule : Rule) (rest : Segmentation)

namespace Segmentation

variable {set : RuleSet}

/-- The text that is cut. -/
def source : Segmentation → Text
  | last gap => gap
  | cut gap rule rest => gap ++ rule.matcher ++ rest.source

/-- The text with its matches replaced and its gaps as they are. -/
def output : Segmentation → Text
  | last gap => gap
  | cut gap rule rest => gap ++ rule.replacement ++ rest.output

/-- The rules of the matches, in order. -/
def used : Segmentation → List Rule
  | last _ => []
  | cut _ rule rest => rule :: rest.used

/-- No matcher starts at a character of a gap that stands in front of a text. -/
def Bare (set : RuleSet) (gap rest : Text) : Prop :=
  ∀ front back, gap = front ++ back → back ≠ [] → set.Idle (back ++ rest)

/-- **Leftmost-longest:** no matcher starts inside a gap, and every match is the longest
matcher of the set that starts where it does. -/
def LeftmostLongest (set : RuleSet) : Segmentation → Prop
  | last gap => Bare set gap []
  | cut gap rule rest =>
    Bare set gap (rule.matcher ++ rest.source) ∧ set.Wins rule (rule.matcher ++ rest.source) ∧
      rest.LeftmostLongest set

/-- The pieces of a segmentation: the characters of its gaps and its matches. -/
def pieces : Segmentation → List RuleSet.Piece
  | last gap => gap.map .kept
  | cut gap rule rest => gap.map .kept ++ .hit rule :: rest.pieces

/-- A segmentation with one more character in its first gap. -/
def push (c : Char) : Segmentation → Segmentation
  | last gap => last (c :: gap)
  | cut gap rule rest => cut (c :: gap) rule rest

/-- The segmentation of a list of pieces. -/
def ofPieces : List RuleSet.Piece → Segmentation
  | [] => last []
  | .kept c :: pieces => push c (ofPieces pieces)
  | .hit rule :: pieces => cut [] rule (ofPieces pieces)

/-! ## Pieces and segmentations -/

theorem ofPieces_kept (gap : Text) (pieces : List RuleSet.Piece) :
    ofPieces (gap.map .kept ++ pieces) = gap.foldr push (ofPieces pieces) := by
  induction gap with
  | nil => rfl
  | cons c gap ih => simp [ofPieces, ih]

theorem foldr_push_last (gap tail : Text) : gap.foldr push (last tail) = last (gap ++ tail) := by
  induction gap with
  | nil => rfl
  | cons c gap ih => rw [List.foldr_cons, ih]; rfl

theorem foldr_push_cut (gap tail : Text) (rule : Rule) (rest : Segmentation) :
    gap.foldr push (cut tail rule rest) = cut (gap ++ tail) rule rest := by
  induction gap with
  | nil => rfl
  | cons c gap ih => rw [List.foldr_cons, ih]; rfl

/-- **A segmentation is given by its pieces.** -/
theorem ofPieces_pieces (s : Segmentation) : ofPieces s.pieces = s := by
  induction s with
  | last gap =>
    have := ofPieces_kept gap []
    rw [List.append_nil] at this
    rw [pieces, this, ofPieces, foldr_push_last, List.append_nil]
  | cut gap rule rest ih =>
    rw [pieces, ofPieces_kept, ofPieces, ih, foldr_push_cut, List.append_nil]

theorem output_pieces (s : Segmentation) :
    s.pieces.flatMap RuleSet.Piece.output = s.output := by
  have hgap : ∀ gap : Text, (gap.map RuleSet.Piece.kept).flatMap RuleSet.Piece.output = gap := by
    intro gap
    induction gap with
    | nil => rfl
    | cons c gap ih => simp [RuleSet.Piece.output, ih]
  induction s with
  | last gap => exact hgap gap
  | cut gap rule rest ih =>
    rw [pieces, List.flatMap_append, hgap, List.flatMap_cons, ih, output, List.append_assoc]
    rfl

theorem countP_pieces (s : Segmentation) (rule : Rule) :
    s.pieces.countP (RuleSet.Piece.uses rule) = s.used.count rule := by
  have hgap : ∀ gap : Text,
      (gap.map RuleSet.Piece.kept).countP (RuleSet.Piece.uses rule) = 0 := by
    intro gap
    simp [List.countP_eq_zero, RuleSet.Piece.uses]
  induction s with
  | last gap => exact hgap gap
  | cut gap other rest ih =>
    rw [pieces, List.countP_append, hgap, List.countP_cons, ih, used, List.count_cons, Nat.zero_add]
    rfl

/-! ## Leftmost-longest segmentations -/

theorem bare_nil (rest : Text) : Bare set [] rest := by
  intro front back h hback
  simp_all

theorem bare_cons {c : Char} {gap rest : Text} :
    Bare set (c :: gap) rest ↔ set.Idle (c :: (gap ++ rest)) ∧ Bare set gap rest := by
  constructor
  · intro h
    refine ⟨h [] (c :: gap) rfl (by simp), fun front back hgap hback => ?_⟩
    exact h (c :: front) back (by rw [hgap]; rfl) hback
  · rintro ⟨hidle, hgap⟩ front back heq hback
    rcases List.cons_eq_append_iff.1 heq with ⟨-, rfl⟩ | ⟨front', rfl, htail⟩
    · exact hidle
    · exact hgap front' back htail hback

theorem source_push (c : Char) (s : Segmentation) : (push c s).source = c :: s.source := by
  cases s <;> rfl

theorem leftmostLongest_push {c : Char} {s : Segmentation} (hidle : set.Idle (c :: s.source))
    (hs : s.LeftmostLongest set) : (push c s).LeftmostLongest set := by
  cases s with
  | last gap => exact bare_cons.2 ⟨by simpa [source] using hidle, hs⟩
  | cut gap rule rest =>
    obtain ⟨hgap, hwins, hrest⟩ := hs
    exact ⟨bare_cons.2 ⟨by simpa [source] using hidle, hgap⟩, hwins, hrest⟩

/-- The pass keeps a gap. -/
theorem pieces_bare {gap rest : Text} (h : Bare set gap rest) :
    set.pieces (gap ++ rest) = gap.map .kept ++ set.pieces rest := by
  induction gap with
  | nil => rfl
  | cons c gap ih =>
    obtain ⟨hidle, hgap⟩ := bare_cons.1 h
    rw [List.cons_append, RuleSet.pieces_kept hidle, ih hgap]
    rfl

/-- **A leftmost-longest cut is what the pass sees of its text.** -/
theorem pieces_source {s : Segmentation} (h : s.LeftmostLongest set) :
    set.pieces s.source = s.pieces := by
  induction s with
  | last gap =>
    have := pieces_bare h
    simpa [source, pieces] using this
  | cut gap rule rest ih =>
    obtain ⟨hgap, hwins, hrest⟩ := h
    rw [source, List.append_assoc, pieces_bare hgap, RuleSet.pieces_hit hwins, ih hrest]
    rfl

/-- **What the pass sees of a text is a leftmost-longest cut of it.** -/
theorem leftmostLongest_ofPieces (set : RuleSet) (text : Text) :
    (ofPieces (set.pieces text)).source = text ∧
      (ofPieces (set.pieces text)).LeftmostLongest set := by
  induction text using RuleSet.pass_induction set with
  | nil => exact ⟨rfl, bare_nil []⟩
  | kept c rest hidle ih =>
    obtain ⟨hsource, hlong⟩ := ih
    rw [RuleSet.pieces_kept hidle, ofPieces, source_push, hsource]
    exact ⟨rfl, leftmostLongest_push (by rwa [hsource]) hlong⟩
  | hit rule rest hwins ih =>
    obtain ⟨hsource, hlong⟩ := ih
    rw [RuleSet.pieces_hit hwins, ofPieces, source, hsource]
    exact ⟨rfl, bare_nil _, by rwa [hsource], hlong⟩

theorem mem_of_used {s : Segmentation} (h : s.LeftmostLongest set) {rule : Rule}
    (hrule : rule ∈ s.used) : rule ∈ set.rules := by
  induction s with
  | last gap => simp [used] at hrule
  | cut gap other rest ih =>
    obtain ⟨-, hwins, hrest⟩ := h
    rcases List.mem_cons.1 hrule with rfl | hrule
    · exact hwins.mem
    · exact ih hrest hrule

/-- The matches of a rule are the matches with its matcher. -/
theorem count_used {s : Segmentation} (h : s.LeftmostLongest set) {rule : Rule}
    (hrule : rule ∈ set.rules) :
    s.used.count rule = (s.used.map Rule.matcher).count rule.matcher := by
  rw [List.count, List.count, List.countP_map]
  refine List.countP_congr fun other hother => ?_
  have hmem := mem_of_used h hother
  simp only [beq_iff_eq, Function.comp_apply]
  exact ⟨fun heq => by rw [heq], RuleSet.eq_of_matcher_eq hmem hrule⟩

end Segmentation

/-- **The pass of a rule set.** The rules of a set are those of its list, each once. A text
has exactly one leftmost-longest cut by their matchers. The text after the pass is that
cut with every match replaced and every gap as it is, and a rule is used as often as its
matcher is a match. -/
theorem pass_segmentation {rules : List Rule} {set : RuleSet} (h : RuleSet.ofList rules = .ok set)
    (text : Text) :
    set.rules = rules.eraseDups ∧
      (∃! s : Segmentation, s.source = text ∧ s.LeftmostLongest set) ∧
        ∀ s : Segmentation, s.source = text → s.LeftmostLongest set →
          set.apply text = s.output ∧
            set.hits text =
              set.rules.map fun rule => (s.used.map Rule.matcher).count rule.matcher := by
  have hpieces : ∀ s : Segmentation, s.source = text → s.LeftmostLongest set →
      set.pieces text = s.pieces := fun s hs hlong => hs ▸ Segmentation.pieces_source hlong
  refine ⟨RuleSet.rules_ofList h, ⟨_, Segmentation.leftmostLongest_ofPieces set text, ?_⟩, ?_⟩
  · -- a cut is given by its pieces, and these are the pieces of the text
    rintro s ⟨hs, hlong⟩
    rw [hpieces s hs hlong, Segmentation.ofPieces_pieces]
  · intro s hs hlong
    have heq := hpieces s hs hlong
    constructor
    · rw [RuleSet.apply, heq, Segmentation.output_pieces]
    · refine List.map_congr_left fun rule hrule => ?_
      rw [heq, Segmentation.countP_pieces, Segmentation.count_used hlong hrule]

/-- Rules whose matchers start, end and overlap in one another, one of them twice. -/
def overlapping : List Rule :=
  [⟨"ab".toList, "1".toList⟩, ⟨"abc".toList, "ab".toList⟩, ⟨"cab".toList, "3".toList⟩,
    ⟨"ab".toList, "1".toList⟩]

theorem pass_segmentation_overlapping :
    ∃ set, RuleSet.ofList overlapping = .ok set ∧ set.rules = overlapping.take 3 ∧
      (∃! s : Segmentation, s.source = "xabcabcab".toList ∧ s.LeftmostLongest set) ∧
      set.apply "xabcabcab".toList = "xabab1".toList ∧
      set.hits "xabcabcab".toList = [1, 2, 0] := by
  have hset : ∃ set, RuleSet.ofList overlapping = .ok set := ⟨_, rfl⟩
  obtain ⟨set, hset⟩ := hset
  obtain ⟨hrules, hunique, -⟩ := pass_segmentation hset "xabcabcab".toList
  obtain rfl := Except.ok.inj hset
  exact ⟨_, rfl, hrules, hunique, by decide, by decide⟩

end Siblings
