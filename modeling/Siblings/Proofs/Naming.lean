import Mathlib.Data.List.Infix
import Mathlib.Data.List.Nodup
import Siblings.Options
import Siblings.Table

/-!
# Names of types and of their classes

The types of a table have distinct names, but two of them can have one class: an interface loses
one `Base` at the end of its name.

* `repeated?_eq_none_iff`: no entry has the name of an earlier one.
* `Table.eq_of_className_eq`: an entry of a table is known by its name.
* `classIdentifier_eq_iff`: **the names that share a class.**
-/

namespace Siblings

/-! ## Endings -/

namespace Text

theorem dropEnding_append (ending text : Text) : dropEnding ending (text ++ ending) = text := by
  have h : ending.reverse.isPrefixOf? (text ++ ending).reverse = some text.reverse := by
    rw [List.isPrefixOf?_eq_some_iff_append_eq, List.reverse_append]
  rw [dropEnding, h]
  exact List.reverse_reverse text

theorem dropEnding_of_not_suffix {ending text : Text} (h : ¬ ending <:+ text) :
    dropEnding ending text = text := by
  unfold dropEnding
  split
  · rename_i rest hrest
    rw [List.isPrefixOf?_eq_some_iff_append_eq] at hrest
    refine absurd ⟨rest.reverse, ?_⟩ h
    rw [← List.reverse_inj, List.reverse_append, List.reverse_reverse, hrest]
  · rfl

end Text

/-! ## Distinct names -/

/-- No entry is repeated when the names are distinct, and none of them was seen before. -/
theorem Entry.repeated?_eq_none_iff {seen : List Text} {entries : List Entry} :
    Entry.repeated? seen entries = none ↔
      (∀ entry ∈ entries, entry.className ∉ seen) ∧ (entries.map Entry.className).Nodup := by
  induction entries generalizing seen with
  | nil => simp [repeated?]
  | cons entry entries ih =>
    rw [repeated?]
    split
    · rename_i hseen
      simp [hseen]
    · rename_i hseen
      rw [ih, List.map_cons, List.nodup_cons]
      rw [List.forall_mem_cons]
      simp only [List.mem_cons, not_or, List.mem_map, not_exists, not_and]
      constructor
      · rintro ⟨hall, hnodup⟩
        exact ⟨⟨hseen, fun other hother => (hall other hother).2⟩,
          fun other hother => (hall other hother).1, hnodup⟩
      · rintro ⟨⟨-, hall⟩, hnew, hnodup⟩
        exact ⟨fun other hother => ⟨hnew other hother, hall other hother⟩, hnodup⟩

namespace Table

theorem nodup_className (table : Table) : (table.entries.map Entry.className).Nodup :=
  (Entry.repeated?_eq_none_iff.1 table.distinct).2

theorem mem_entries_of_mem_targets {table : Table} {entry : Entry} (h : entry ∈ table.targets) :
    entry ∈ table.entries := by
  rcases List.mem_append.1 h with h | h
  · exact List.mem_append_left _ h
  · exact List.mem_append_right _ (List.mem_cons_of_mem _ h)

/-- **An entry of a table is known by its name.** -/
theorem eq_of_className_eq {table : Table} {first second : Entry} (hfirst : first ∈ table.entries)
    (hsecond : second ∈ table.entries) (h : first.className = second.className) :
    first = second :=
  List.inj_on_of_nodup_map table.nodup_className hfirst hsecond h

/-- No target has the name of the default type. -/
theorem className_ne_default {table : Table} {entry : Entry} (h : entry ∈ table.targets) :
    entry.className ≠ table.default.className := by
  have hnodup := table.nodup_className
  rw [entries, List.map_append, List.map_cons, List.nodup_middle, List.nodup_cons,
    ← List.map_append, ← targets] at hnodup
  intro heq
  exact hnodup.1 (heq ▸ List.mem_map_of_mem h)

/-- **The targets of a table** are its entries but the default one, in order. -/
theorem targets_eq_filter (table : Table) :
    table.targets = table.entries.filter (· ≠ table.default) := by
  have hkept : ∀ entry ∈ table.targets, decide (entry ≠ table.default) = true := by
    intro entry hentry
    have hname := className_ne_default hentry
    simpa using fun heq : entry = table.default => hname (by rw [heq])
  rw [targets, List.forall_mem_append] at hkept
  rw [targets, entries, List.filter_append, List.filter_cons_of_neg (by simp),
    List.filter_eq_self.2 hkept.1, List.filter_eq_self.2 hkept.2]

end Table

/-! ## Shared classes -/

namespace Mode

/-- The ending that an interface loses. -/
def baseEnding : Text := "Base".toList

/-- **A name that is another with `Base` at the end,** the other having no such ending. -/
def AddsBase (name stem : Text) : Prop := name = stem ++ baseEnding ∧ ¬ baseEnding <:+ stem

instance (name stem : Text) : Decidable (AddsBase name stem) :=
  inferInstanceAs (Decidable (_ ∧ _))

theorem classIdentifier_interface (name : Text) :
    interface.classIdentifier name = Text.dropEnding baseEnding name := rfl

/-- Two names with one class in interfaces are one name, or one adds `Base` to the other. -/
theorem addsBase_of_dropEnding_eq {first second : Text} (hne : first ≠ second)
    (h : Text.dropEnding baseEnding first = Text.dropEnding baseEnding second) :
    AddsBase first second ∨ AddsBase second first := by
  by_cases hfirst : baseEnding <:+ first
  · obtain ⟨stem, rfl⟩ := hfirst
    rw [Text.dropEnding_append] at h
    by_cases hsecond : baseEnding <:+ second
    · obtain ⟨other, rfl⟩ := hsecond
      rw [Text.dropEnding_append] at h
      exact absurd (by rw [h]) hne
    · rw [Text.dropEnding_of_not_suffix hsecond] at h
      exact .inl ⟨by rw [h], hsecond⟩
  · rw [Text.dropEnding_of_not_suffix hfirst] at h
    by_cases hsecond : baseEnding <:+ second
    · obtain ⟨other, rfl⟩ := hsecond
      rw [Text.dropEnding_append] at h
      exact .inr ⟨by rw [h], hfirst⟩
    · rw [Text.dropEnding_of_not_suffix hsecond] at h
      exact absurd h hne

theorem AddsBase.dropEnding_eq {name stem : Text} (h : AddsBase name stem) :
    Text.dropEnding baseEnding name = Text.dropEnding baseEnding stem := by
  obtain ⟨rfl, hstem⟩ := h
  rw [Text.dropEnding_append, Text.dropEnding_of_not_suffix hstem]

/-- **Two names share a class** in interfaces only, when one adds `Base` to the other. -/
theorem classIdentifier_eq_iff {mode : Mode} {first second : Text} (hne : first ≠ second) :
    mode.classIdentifier first = mode.classIdentifier second ↔
      mode = interface ∧ (AddsBase first second ∨ AddsBase second first) := by
  cases mode with
  | implementation =>
    simp only [reduceCtorEq, false_and, iff_false]
    exact fun h => hne (List.append_cancel_right h)
  | interface =>
    simp only [classIdentifier_interface, true_and]
    constructor
    · exact addsBase_of_dropEnding_eq hne
    · rintro (h | h)
      · exact h.dropEnding_eq
      · exact h.dropEnding_eq.symm

theorem not_mem_classIdentifier {mode : Mode} {name : Text} {c : Char} (hc : c ∉ mode.suffix)
    (h : c ∉ name) : c ∉ mode.classIdentifier name := by
  cases mode with
  | implementation => exact fun hmem => (List.mem_append.1 hmem).elim h hc
  | interface =>
    rw [classIdentifier_interface]
    by_cases hbase : baseEnding <:+ name
    · obtain ⟨stem, rfl⟩ := hbase
      rw [Text.dropEnding_append]
      exact fun hmem => h (List.mem_append_left _ hmem)
    · rwa [Text.dropEnding_of_not_suffix hbase]

end Mode

end Siblings
