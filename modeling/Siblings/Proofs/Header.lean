import Siblings.Proofs.Derivation

/-!
# Headers

A header is a comment that is put into a text, in front of the line that names the package, or in
front of all lines. It is the last thing that is done to a class, so that a class with a header is
the class without it, and the comment between two of its lines.

* `NamesPackage`: a line that names the package.
* `IsHeaderPlace`: the place of a header, and `cutAtPackage_eq`: it is where a text is cut.
* `insertHeader_eq`: **a header is put in at its place,** and nothing else changes.
* `run_withHeader`: a derivation with a header is the derivation without it, with the header put in.
* `header_is_inserted`: what a header does to a derivation.
-/

namespace Siblings.Derivation

variable {text line before after : Text}

/-! ## The place of a header -/

/-- **A line that names the package:** behind white space, it starts with the word and a space. -/
def NamesPackage (line : Text) : Prop :=
  ∃ blanks rest, blanks ++ "package ".toList ++ rest = line ∧ Text.allBlank blanks = true

theorem isPackageLine_iff : isPackageLine line = true ↔ NamesPackage line := by
  rw [isPackageLine, List.isPrefixOf_iff_prefix, Text.prefix_trimStart_iff (by decide)]
  rfl

/-- **The place of a header** cuts a text: the lines in front of it are whole, and none of them names
the package. The line behind it does, or no line does and there are none in front. -/
structure IsHeaderPlace (text before after : Text) : Prop where
  split : before ++ after = text
  whole : Text.Closed before
  front : ∀ line ∈ Text.lines before, ¬ NamesPackage line
  back : (∃ line rest, Text.lines after = line :: rest ∧ NamesPackage line) ∨
    before = [] ∧ ∀ line ∈ Text.lines text, ¬ NamesPackage line

/-- The lines of a text are cut at the place of a header. -/
theorem cutAtPackage_eq (h : IsHeaderPlace text before after) :
    cutAtPackage (Text.lines text) = (Text.lines before, Text.lines after) := by
  obtain ⟨rfl, hwhole, hfront, hback⟩ := h
  simp only [← isPackageLine_iff, Bool.not_eq_true] at hfront hback
  unfold cutAtPackage
  rcases hback with ⟨line, rest, hafter, hline⟩ | ⟨rfl, hnone⟩
  · have hpassed : ∀ line ∈ Text.lines before, (!isPackageLine line) = true := by
      simpa using hfront
    rw [Text.lines_append hwhole, hafter, if_pos (by simp [hline]),
      List.takeWhile_append_of_pos hpassed, List.dropWhile_append_of_pos hpassed,
      List.takeWhile_cons_of_neg (by simp [hline]), List.dropWhile_cons_of_neg (by simp [hline]),
      List.append_nil]
  · rw [if_neg (by simpa using hnone)]
    rfl

/-- A text has one place for a header at most. -/
theorem IsHeaderPlace.unique {other more : Text} (h : IsHeaderPlace text before after)
    (h' : IsHeaderPlace text other more) : other = before ∧ more = after := by
  have hcut := (cutAtPackage_eq h').symm.trans (cutAtPackage_eq h)
  obtain ⟨hfront, hback⟩ := Prod.mk.inj hcut
  exact ⟨by rw [← Text.flatten_lines other, hfront, Text.flatten_lines],
    by rw [← Text.flatten_lines more, hback, Text.flatten_lines]⟩

/-- Every text has a place for a header. -/
theorem exists_isHeaderPlace (text : Text) :
    ∃ before after, IsHeaderPlace text before after := by
  by_cases hany : ∃ line ∈ Text.lines text, NamesPackage line
  · -- the lines in front of the first one that names the package
    simp only [← isPackageLine_iff] at hany
    let passed := (Text.lines text).takeWhile (!isPackageLine ·)
    let kept := (Text.lines text).dropWhile (!isPackageLine ·)
    have hcut : passed ++ kept = Text.lines text := List.takeWhile_append_dropWhile
    have hkept : kept ≠ [] := by simpa [kept] using hany
    obtain ⟨hpassed, hrest, hwhole⟩ := Text.lines_split hcut.symm
    refine ⟨passed.flatten, kept.flatten, ?_, hwhole.resolve_left hkept, ?_, .inl ?_⟩
    · rw [← List.flatten_append, hcut, Text.flatten_lines]
    · rw [hpassed]
      intro line hline
      simpa [← isPackageLine_iff] using List.mem_takeWhile_imp hline
    · obtain ⟨line, rest, hcons⟩ := List.exists_cons_of_ne_nil hkept
      refine ⟨line, rest, hrest.trans hcons, isPackageLine_iff.1 ?_⟩
      have hhead := List.head_dropWhile_not (!isPackageLine ·) hkept
      simpa [kept, hcons] using hhead
  · refine ⟨[], text, rfl, .inl rfl, by simp, .inr ⟨rfl, ?_⟩⟩
    simpa using hany

/-! ## What a header does -/

/-- The comment of a header, with a blank line behind it. -/
def headerComment (header : Text) : Text := "// ".toList ++ header ++ "\n\n".toList

/-- **A header is put in at its place,** and nothing else changes. -/
theorem insertHeader_eq (h : IsHeaderPlace text before after) (header : Text) :
    insertHeader text header = before ++ headerComment header ++ after := by
  rw [insertHeader, cutAtPackage_eq h]
  simp only [Text.flatten_lines, headerComment, List.append_assoc]

/-- A derivation with another header, or with none. -/
def withHeader (d : Derivation) (header : Option Text) : Derivation :=
  { d with options := { d.options with header } }

/-- **A header is put in last:** nothing that can fail looks at it. -/
theorem run_withHeader (d : Derivation) (header : Text) :
    (d.withHeader (some header)).run =
      (d.withHeader none).run.map fun text => insertHeader text header := by
  have hmissing : (d.withHeader (some header)).missing? = (d.withHeader none).missing? := rfl
  have hsubstituted : (d.withHeader (some header)).substituted = (d.withHeader none).substituted :=
    rfl
  have hfinish : ∀ text, (d.withHeader (some header)).finish text =
      insertHeader ((d.withHeader none).finish text) header := fun _ => rfl
  unfold run
  rw [hmissing, hsubstituted]
  cases (d.withHeader none).missing? with
  | some error => rfl
  | none => cases (d.withHeader none).substituted <;> rfl

/-- **What a header does.** Every text has one place for a header, and the header is put in there.
A derivation with a header fails exactly if it fails without it, with the same error. Its text is the
text without the header, with the comment put in at the place for it. -/
theorem header_is_inserted (d : Derivation) (header : Text) :
    (∀ text, ∃ before after, IsHeaderPlace text before after ∧
        (∀ other more, IsHeaderPlace text other more → other = before ∧ more = after) ∧
          insertHeader text header = before ++ headerComment header ++ after) ∧
      (∀ error, (d.withHeader (some header)).run = .error error ↔
        (d.withHeader none).run = .error error) ∧
      ∀ derived, (d.withHeader (some header)).run = .ok derived ↔
        ∃ before after, (d.withHeader none).run = .ok (before ++ after) ∧
          IsHeaderPlace (before ++ after) before after ∧
            derived = before ++ headerComment header ++ after := by
  refine ⟨fun text => ?_, fun error => ?_, fun derived => ?_⟩
  · obtain ⟨before, after, hplace⟩ := exists_isHeaderPlace text
    exact ⟨before, after, hplace, fun _ _ => hplace.unique, insertHeader_eq hplace header⟩
  · rw [run_withHeader, map_eq_error_iff]
  · rw [run_withHeader, map_eq_ok_iff]
    constructor
    · rintro ⟨plain, hplain, rfl⟩
      obtain ⟨before, after, hplace⟩ := exists_isHeaderPlace plain
      obtain rfl := hplace.split
      exact ⟨before, after, hplain, hplace, insertHeader_eq hplace header⟩
    · rintro ⟨before, after, hplain, hplace, rfl⟩
      exact ⟨before ++ after, hplain, insertHeader_eq hplace header⟩

end Siblings.Derivation
