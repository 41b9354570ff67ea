import Siblings.Proofs.Except
import Siblings.Proofs.Naming

/-!
# Tables made from lists

A list of entries makes a table if its names are distinct and the default is one of them. The table
has the entries of the list, cut at the default.

* `Entry.IsRepeat`: the first entry whose name came before.
* `split?_eq_some_iff`: a list is cut at the first entry with a name.
* `ofEntries_eq_ok_iff`: **the table of a list** is the one with its entries and its default.
* `ofEntries_eq_error_iff`: a repeated name is reported before a default that is missing.
* `entry_eq_ok_iff`: a name leads to the one entry that has it.
* `table_of_entries`: **when a list makes a table,** and what is found in the table.
-/

namespace Siblings

variable {seen : List Text} {entries before after : List Entry} {entry found : Entry}
  {name defaultName : Text} {table : Table} {error : GenError}

namespace Entry

/-! ## Repeated names -/

/-- **The first entry of a list whose name came before:** the names in front of it are distinct, and
its own is one of them. -/
def IsRepeat (entries : List Entry) (entry : Entry) : Prop :=
  ∃ front back, entries = front ++ entry :: back ∧ entry.className ∈ front.map className ∧
    (front.map className).Nodup

/-- An entry is repeated if its name was seen or came before, and none in front of it is. -/
theorem repeated?_eq_some_iff_append : repeated? seen entries = some entry ↔
    ∃ front back, entries = front ++ entry :: back ∧
      (entry.className ∈ seen ∨ entry.className ∈ front.map className) ∧
      repeated? seen front = none := by
  induction entries generalizing seen with
  | nil => simp [repeated?]
  | cons first entries ih =>
    rw [repeated?]
    by_cases hseen : first.className ∈ seen
    · rw [if_pos hseen]
      constructor
      · intro h
        obtain rfl := Option.some.inj h
        exact ⟨[], entries, rfl, .inl hseen, rfl⟩
      · rintro ⟨front, back, heq, -, hfront⟩
        rcases List.cons_eq_append_iff.1 heq with ⟨rfl, hcons⟩ | ⟨others, rfl, -⟩
        · rw [(List.cons.inj hcons).1]
        · simp [repeated?, hseen] at hfront
    · rw [if_neg hseen, ih]
      constructor
      · rintro ⟨front, back, rfl, hname, hfront⟩
        refine ⟨first :: front, back, rfl, ?_, by rwa [repeated?, if_neg hseen]⟩
        rwa [List.mem_cons, or_assoc, or_left_comm, ← List.mem_cons, ← List.map_cons] at hname
      · rintro ⟨front, back, heq, hname, hfront⟩
        rcases List.cons_eq_append_iff.1 heq with ⟨rfl, hcons⟩ | ⟨others, rfl, rfl⟩
        · obtain ⟨rfl, -⟩ := List.cons.inj hcons
          exact absurd (hname.resolve_right (by simp)) hseen
        · refine ⟨others, back, rfl, ?_, by rwa [repeated?, if_neg hseen] at hfront⟩
          rwa [List.mem_cons, or_assoc, or_left_comm, ← List.mem_cons, ← List.map_cons]

theorem repeated?_eq_some_iff : repeated? [] entries = some entry ↔ IsRepeat entries entry := by
  rw [repeated?_eq_some_iff_append]
  simp only [repeated?_eq_none_iff, List.not_mem_nil, false_or, not_false_eq_true, implies_true,
    true_and]
  rfl

theorem repeated?_nil_eq_none_iff :
    repeated? [] entries = none ↔ (entries.map className).Nodup := by
  simp [repeated?_eq_none_iff]

theorem IsRepeat.not_nodup (h : IsRepeat entries entry) : ¬ (entries.map className).Nodup := by
  rw [← repeated?_nil_eq_none_iff, repeated?_eq_some_iff.2 h]
  simp

end Entry

namespace Table

open Entry (className IsRepeat)

/-! ## The making of a table -/

/-- **A list is cut at the first entry with a name.** -/
theorem split?_eq_some_iff : split? name entries = some (before, found, after) ↔
    before ++ found :: after = entries ∧ found.className = name ∧ name ∉ before.map className := by
  induction entries generalizing before with
  | nil => simp [split?]
  | cons first entries ih =>
    rw [split?]
    by_cases hname : first.className = name
    · rw [if_pos hname]
      constructor
      · intro h
        simp only [Option.some.injEq, Prod.mk.injEq] at h
        obtain ⟨rfl, rfl, rfl⟩ := h
        exact ⟨rfl, hname, List.not_mem_nil⟩
      · rintro ⟨heq, -, hnot⟩
        rcases List.append_eq_cons_iff.1 heq with ⟨rfl, hcons⟩ | ⟨others, rfl, -⟩
        · obtain ⟨rfl, rfl⟩ := List.cons.inj hcons
          rfl
        · exact absurd (hname ▸ List.mem_cons_self) hnot
    · rw [if_neg hname]
      simp only [Option.map_eq_some_iff, Prod.exists, Prod.mk.injEq]
      constructor
      · rintro ⟨others, entry, rest, hsplit, rfl, rfl, rfl⟩
        obtain ⟨rfl, hfound, hnot⟩ := ih.1 hsplit
        exact ⟨rfl, hfound, List.not_mem_cons_of_ne_of_not_mem (Ne.symm hname) hnot⟩
      · rintro ⟨heq, hfound, hnot⟩
        rcases List.append_eq_cons_iff.1 heq with ⟨rfl, hcons⟩ | ⟨others, rfl, rfl⟩
        · exact absurd ((List.cons.inj hcons).1 ▸ hfound) hname
        · exact ⟨others, found, after,
            ih.2 ⟨rfl, hfound, (not_or.1 (mt List.mem_cons.2 hnot)).2⟩, rfl, rfl, rfl⟩

theorem split?_eq_none_iff : split? name entries = none ↔ name ∉ entries.map className := by
  induction entries with
  | nil => simp [split?]
  | cons first entries ih =>
    rw [split?, List.map_cons, List.mem_cons, not_or, ← ih]
    by_cases hname : first.className = name
    · simp [hname]
    · simp [hname, Ne.symm hname]

/-- The default is listed behind other names only. -/
theorem split?_entries (table : Table) :
    split? table.default.className table.entries =
      some (table.before, table.default, table.after) := by
  refine split?_eq_some_iff.2 ⟨rfl, rfl, fun hmem => ?_⟩
  obtain ⟨entry, hentry, hname⟩ := List.mem_map.1 hmem
  exact className_ne_default (List.mem_append_left _ hentry) hname

/-- **The table of a list** is the one with its entries, and with the default that is named. -/
theorem ofEntries_eq_ok_iff : ofEntries defaultName entries = .ok table ↔
    table.entries = entries ∧ table.default.className = defaultName := by
  unfold ofEntries
  constructor
  · intro h
    split at h
    · simp at h
    · split at h
      · simp at h
      · rename_i hsplit
        obtain ⟨hentries, hname, -⟩ := split?_eq_some_iff.1 hsplit
        obtain rfl := Except.ok.inj h
        exact ⟨hentries, hname⟩
  · rintro ⟨rfl, rfl⟩
    split
    · rename_i hrepeated
      exact absurd (hrepeated.symm.trans table.distinct) (by simp)
    · split
      · rename_i hsplit
        exact absurd (hsplit.symm.trans table.split?_entries) (by simp)
      · rename_i hsplit
        have hparts := hsplit.symm.trans table.split?_entries
        simp only [Option.some.injEq, Prod.mk.injEq] at hparts
        obtain ⟨rfl, rfl, rfl⟩ := hparts
        rfl

/-- **A list makes no table** if a name is repeated, which is reported first, or if the default is
missing. -/
theorem ofEntries_eq_error_iff : ofEntries defaultName entries = .error error ↔
    (∃ entry, IsRepeat entries entry ∧ error = .duplicateType entry.className) ∨
      (entries.map className).Nodup ∧ defaultName ∉ entries.map className ∧
        error = .unknownType defaultName := by
  rw [← Entry.repeated?_nil_eq_none_iff, ← split?_eq_none_iff]
  simp only [← Entry.repeated?_eq_some_iff]
  unfold ofEntries
  split
  · rename_i entry hrepeated
    simp [hrepeated, eq_comm]
  · rename_i hrepeated
    split
    · rename_i hsplit
      simp [hrepeated, hsplit, eq_comm]
    · rename_i hsplit
      simp [hrepeated, hsplit]

/-- **A list makes a table** exactly if its names are distinct and the default is one of them. -/
theorem exists_ofEntries_iff : (∃ table, ofEntries defaultName entries = .ok table) ↔
    (entries.map className).Nodup ∧ defaultName ∈ entries.map className := by
  cases hmade : ofEntries defaultName entries with
  | ok table =>
    obtain ⟨rfl, rfl⟩ := ofEntries_eq_ok_iff.1 hmade
    have hdefault : table.default ∈ table.entries := List.mem_append_right _ List.mem_cons_self
    exact iff_of_true ⟨table, rfl⟩ ⟨table.nodup_className, List.mem_map_of_mem hdefault⟩
  | error error =>
    refine iff_of_false (by simp) fun ⟨hnodup, hmem⟩ => ?_
    rcases ofEntries_eq_error_iff.1 hmade with ⟨entry, hrepeat, -⟩ | ⟨-, hmissing, -⟩
    · exact hrepeat.not_nodup hnodup
    · exact hmissing hmem

/-! ## What is found in a table -/

/-- **A name leads to the one entry** that has it. -/
theorem entry_eq_ok_iff : table.entry name = .ok entry ↔
    entry ∈ table.entries ∧ entry.className = name := by
  unfold Table.entry
  cases hfind : table.entries.find? (·.className == name) with
  | some found =>
    have hfound : found ∈ table.entries ∧ found.className = name :=
      ⟨List.mem_of_find?_eq_some hfind, by simpa using List.find?_some hfind⟩
    constructor
    · intro h
      rwa [← Except.ok.inj h]
    · rintro ⟨hmem, rfl⟩
      rw [eq_of_className_eq hfound.1 hmem hfound.2]
  | none =>
    refine iff_of_false (by simp) fun ⟨hmem, hname⟩ => ?_
    exact List.find?_eq_none.1 hfind entry hmem (beq_iff_eq.2 hname)

/-- A name that no entry has is reported. -/
theorem entry_eq_error_iff : table.entry name = .error error ↔
    name ∉ table.entries.map className ∧ error = .unknownType name := by
  have hfind : table.entries.find? (·.className == name) = none ↔
      name ∉ table.entries.map className := by simp
  rw [← hfind]
  unfold Table.entry
  cases table.entries.find? (·.className == name) <;> simp [eq_comm]

/-- **Tables made from lists.** A list makes a table exactly if its names are distinct and the
default is one of them. Otherwise the first entry whose name came before is reported, or else the
default that is missing. The table has the entries of the list. A name leads to the one entry that
has it, and the default is that of its name. The targets are the other entries, in order. -/
theorem table_of_entries (defaultName : Text) (entries : List Entry) :
    ((∃ table, ofEntries defaultName entries = .ok table) ↔
      (entries.map className).Nodup ∧ defaultName ∈ entries.map className) ∧
    (∀ error, ofEntries defaultName entries = .error error ↔
      (∃ entry, IsRepeat entries entry ∧ error = .duplicateType entry.className) ∨
        (entries.map className).Nodup ∧ defaultName ∉ entries.map className ∧
          error = .unknownType defaultName) ∧
    ∀ table, ofEntries defaultName entries = .ok table →
      table.entries = entries ∧ table.entry defaultName = .ok table.default ∧
      (∀ name, (∃ entry ∈ entries, entry.className = name ∧ table.entry name = .ok entry ∧
          table.lookup name = .ok entry.descriptor ∧
            ∀ other ∈ entries, other.className = name → other = entry) ∨
        name ∉ entries.map className ∧ table.entry name = .error (.unknownType name) ∧
          table.lookup name = .error (.unknownType name)) ∧
      ∃ before after, entries = before ++ table.default :: after ∧
        table.targets = before ++ after ∧ ∀ entry ∈ table.targets, entry ≠ table.default := by
  refine ⟨exists_ofEntries_iff, fun error => ofEntries_eq_error_iff, fun table htable => ?_⟩
  obtain ⟨rfl, rfl⟩ := ofEntries_eq_ok_iff.1 htable
  have hdefault : table.default ∈ table.entries := List.mem_append_right _ List.mem_cons_self
  refine ⟨rfl, entry_eq_ok_iff.2 ⟨hdefault, rfl⟩, fun name => ?_,
    table.before, table.after, rfl, rfl, fun entry hentry heq => ?_⟩
  · by_cases hmem : name ∈ table.entries.map className
    · obtain ⟨entry, hentry, rfl⟩ := List.mem_map.1 hmem
      have hfound := entry_eq_ok_iff.2 ⟨hentry, rfl⟩
      refine .inl ⟨entry, hentry, rfl, hfound, by rw [lookup, hfound]; rfl, ?_⟩
      exact fun other hother hname => eq_of_className_eq hother hentry hname
    · have hmissing := entry_eq_error_iff.2 ⟨hmem, rfl⟩
      exact .inr ⟨hmem, hmissing, by rw [lookup, hmissing]; rfl⟩
  · exact className_ne_default hentry (by rw [heq])

end Table

end Siblings
