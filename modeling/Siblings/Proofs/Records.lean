import Siblings.Document.Forms
import Siblings.Proofs.Except
import Mathlib.Data.List.Forall2
import Mathlib.Data.List.Nodup

/-!
# Reading what is written

A document may come back with the entries of its tables in another order. Readers look entries up
by their keys, so they do not mind.

* `Value.Reordered`: a document with its entries in another order, at every level.
* `Reader.Inverts`: **a reader that reads back what is written.**
* `Record.Holds`: a record with the entries that are written, in any order.
* `Record.inverts_of_table`: the reader of a record.
-/

namespace Siblings

namespace Value

mutual

/-- **A document with the entries of its tables in another order.** -/
inductive Reordered : Value → Value → Prop where
  | same (v : Value) : Reordered v v
  | array {items others : List Value} (h : List.Forall₂ Reordered items others) :
      Reordered (.array items) (.array others)
  | table {entries middle others : List (Text × Value)}
      (h : List.Forall₂ ReorderedEntry entries middle) (hperm : middle.Perm others) :
      Reordered (.table entries) (.table others)

/-- An entry with its value reordered. -/
inductive ReorderedEntry : Text × Value → Text × Value → Prop where
  | mk (key : Text) {v w : Value} (h : Reordered v w) : ReorderedEntry (key, v) (key, w)

end

theorem Reordered.eq_of_string {text : Text} {w : Value} (h : Reordered (.string text) w) :
    w = .string text := by
  cases h
  rfl

theorem Reordered.eq_of_bool {b : Bool} {w : Value} (h : Reordered (.bool b) w) : w = .bool b := by
  cases h
  rfl

theorem Reordered.of_array {items : List Value} {w : Value} (h : Reordered (.array items) w) :
    ∃ others, w = .array others ∧ List.Forall₂ Reordered items others := by
  cases h with
  | same => exact ⟨items, rfl, List.forall₂_same.2 fun v _ => .same v⟩
  | array h => exact ⟨_, rfl, h⟩

theorem Reordered.of_table {entries : List (Text × Value)} {w : Value}
    (h : Reordered (.table entries) w) :
    ∃ middle others, w = .table others ∧ List.Forall₂ ReorderedEntry entries middle ∧
      middle.Perm others := by
  cases h with
  | same =>
    exact ⟨entries, entries, rfl, List.forall₂_same.2 fun entry _ => .mk _ (.same _), .refl _⟩
  | table h hperm => exact ⟨_, _, rfl, h, hperm⟩

theorem map_fst_of_forall₂ {entries middle : List (Text × Value)}
    (h : List.Forall₂ ReorderedEntry entries middle) :
    middle.map Prod.fst = entries.map Prod.fst := by
  induction h with
  | nil => rfl
  | cons hentry _ ih =>
    cases hentry
    rw [List.map_cons, List.map_cons, ih]

end Value

open Value (Reordered ReorderedEntry)

/-- **What is looked up among distinct keys** is what is there. -/
theorem lookup_eq_some_iff_mem {β : Type} {entries : List (Text × β)}
    (hnodup : (entries.map Prod.fst).Nodup) {key : Text} {b : β} :
    entries.lookup key = some b ↔ (key, b) ∈ entries := by
  induction entries with
  | nil => simp
  | cons entry entries ih =>
    obtain ⟨found, v⟩ := entry
    obtain ⟨hnew, hrest⟩ := List.nodup_cons.1 hnodup
    by_cases heq : key = found
    · subst heq
      have hmem : (key, b) ∉ entries := fun hmem => hnew (List.mem_map.2 ⟨_, hmem, rfl⟩)
      simp [hmem, eq_comm]
    · have hbeq : (key == found) = false := by simpa using heq
      simp [List.lookup_cons, hbeq, heq, ih hrest]

theorem mem_of_lookup_eq_some {β : Type} {entries : List (Text × β)} {key : Text} {b : β}
    (h : entries.lookup key = some b) : (key, b) ∈ entries := by
  obtain ⟨front, back, rfl, -⟩ := List.lookup_eq_some_iff.1 h
  simp

/-! ## Readers -/

variable {α : Type}

/-- **A reader that reads back what is written,** in whatever order its entries are kept. -/
def Reader.Inverts (read : Reader α) (write : α → Value) : Prop :=
  ∀ a dialect w, Reordered (write a) w → read dialect w = .ok a

namespace Reader

theorem inverts_text : Inverts text .string := by
  intro t dialect w h
  rw [h.eq_of_string]
  rfl

theorem inverts_bool : Inverts bool .bool := by
  intro b dialect w h
  rw [h.eq_of_bool]
  rfl

/-- The items of an array are read one by one. -/
theorem Inverts.list {read : Reader α} {write : α → Value} (h : Inverts read write) :
    Inverts (Reader.list read) fun items => .array (items.map write) := by
  intro items dialect w hw
  obtain ⟨others, rfl, hothers⟩ := hw.of_array
  rw [List.forall₂_map_left_iff] at hothers
  rw [Reader.list, mapM_eq_ok_iff]
  clear hw
  induction hothers with
  | nil => rfl
  | cons hitem _ ih => rw [List.map_cons, List.map_cons, h _ _ _ hitem, ih]

/-- An alternative is known by its name, if no two have the same. -/
theorem inverts_variant {all : List α} {name : α → Text} (hall : ∀ a, a ∈ all)
    (hnames : (all.map name).Nodup) :
    Inverts (variant all name) fun a => .string (name a) := by
  intro a dialect w h
  rw [h.eq_of_string]
  simp only [variant, named]
  cases hfind : all.find? (fun other => name other == name a) with
  | none => simpa using List.find?_eq_none.1 hfind a (hall a)
  | some other =>
    have hsame := List.find?_some hfind
    simp only [beq_iff_eq] at hsame
    exact congrArg Except.ok (List.inj_on_of_nodup_map hnames (hall other) (hall a) hsame)

end Reader

/-! ## Records -/

theorem exists_right_of_forall₂ {β : Type} {R : α → β → Prop} {as : List α} {bs : List β} {a : α}
    (h : List.Forall₂ R as bs) (ha : a ∈ as) : ∃ b ∈ bs, R a b := by
  induction h with
  | nil => simp at ha
  | cons hab _ ih =>
    rcases List.mem_cons.1 ha with rfl | ha
    · exact ⟨_, List.mem_cons_self, hab⟩
    · obtain ⟨b, hb, hab⟩ := ih ha
      exact ⟨b, List.mem_cons_of_mem _ hb, hab⟩

theorem exists_left_of_forall₂ {β : Type} {R : α → β → Prop} {as : List α} {bs : List β} {b : β}
    (h : List.Forall₂ R as bs) (hb : b ∈ bs) : ∃ a ∈ as, R a b :=
  exists_right_of_forall₂ h.flip hb

namespace Record

theorem ofValue_table (shape : RecordShape) (dialect : Dialect) (entries : List (Text × Value)) :
    ofValue shape dialect (.table entries) = .ok ⟨dialect, entries, .missingField⟩ := rfl

theorem ofTable_table (shape : RecordShape) (dialect : Dialect) (entries : List (Text × Value)) :
    ofTable shape dialect (.table entries) = .ok ⟨dialect, entries, .missingField⟩ := rfl

theorem checkLength_table (shape : RecordShape) (dialect : Dialect)
    (entries : List (Text × Value)) : checkLength shape dialect (.table entries) = .ok () := rfl

variable {record : Record} {entries : List (Text × Value)} {name : Text} {read : Reader α}
  {write : α → Value} {a : α} {checks : List Check}

/-- **A record with the entries that are written,** in whatever order. -/
structure Holds (record : Record) (entries : List (Text × Value)) : Prop where
  nodup : (record.entries.map Prod.fst).Nodup
  there : ∀ entry ∈ entries, ∃ other ∈ record.entries, ReorderedEntry entry other
  only : ∀ other ∈ record.entries, ∃ entry ∈ entries, ReorderedEntry entry other

/-- A table that is written comes back as a record with its entries. -/
theorem holds_of_reordered {w : Value} (hnodup : (entries.map Prod.fst).Nodup)
    (h : Reordered (.table entries) w) (dialect : Dialect) :
    ∃ others, w = .table others ∧ Holds ⟨dialect, others, .missingField⟩ entries := by
  obtain ⟨middle, others, rfl, hmiddle, hperm⟩ := h.of_table
  refine ⟨others, rfl, ?_, fun entry hentry => ?_, fun other hother => ?_⟩
  · have hkeys := (hperm.map Prod.fst).nodup_iff
    rw [Value.map_fst_of_forall₂ hmiddle] at hkeys
    exact hkeys.1 hnodup
  · obtain ⟨other, hother, hreordered⟩ := exists_right_of_forall₂ hmiddle hentry
    exact ⟨other, hperm.mem_iff.1 hother, hreordered⟩
  · exact exists_left_of_forall₂ hmiddle (hperm.mem_iff.2 hother)

/-- **A record is read back** if it is read from any table that holds what is written. -/
theorem inverts_of_table {entriesOf : α → List (Text × Value)}
    (hnodup : ∀ a, ((entriesOf a).map Prod.fst).Nodup)
    (hread : ∀ a dialect others, Holds ⟨dialect, others, .missingField⟩ (entriesOf a) →
      read dialect (.table others) = .ok a) :
    Reader.Inverts read fun a => .table (entriesOf a) := by
  intro a dialect w hw
  obtain ⟨others, rfl, h⟩ := holds_of_reordered (hnodup a) hw dialect
  exact hread a dialect others h

/-- **A field of a record reads as a value.** -/
def Reads (record : Record) (name : Text) (read : Reader α) (a : α) : Prop :=
  ∃ w, record.get? name = some w ∧ read record.dialect w = .ok a

/-- A field that is written is read. -/
theorem Holds.reads (h : record.Holds entries) (hread : Reader.Inverts read write)
    (hmem : (name, write a) ∈ entries) : record.Reads name read a := by
  obtain ⟨other, hother, hreordered⟩ := h.there _ hmem
  cases hreordered with
  | mk _ hw => exact ⟨_, (lookup_eq_some_iff_mem h.nodup).2 hother, hread _ _ _ hw⟩

theorem Reads.required (h : record.Reads name read a) : record.required name read = .ok a := by
  obtain ⟨w, hget, hok⟩ := h
  rw [Record.required, hget]
  exact hok

theorem Reads.optional (h : record.Reads name read a) :
    record.optional name read = .ok (some a) := by
  obtain ⟨w, hget, hok⟩ := h
  simp [Record.optional, hget, hok, Except.map]

/-- A text that must be there is in the record. -/
theorem get?_of_required_text {t : Text} (h : record.required name Reader.text = .ok t) :
    record.get? name = some (.string t) := by
  unfold Record.required at h
  split at h
  · rename_i v hget
    cases v with
    | string text => rw [hget, Except.ok.inj h]
    | _ => simp [Reader.text] at h
  · simp at h

/-- A record passes a check if its field does, where it has it. -/
def Passes (record : Record) (check : Check) : Prop :=
  ∀ w, record.get? check.1 = some w → check.2 record.dialect w = .ok ()

theorem Reads.passes (h : record.Reads name read a) : record.Passes (check name read) := by
  obtain ⟨w, hget, hok⟩ := h
  intro other hother
  obtain rfl := Option.some.inj (hget.symm.trans hother)
  simp [check, hok, Except.map]

/-- A record passes some checks. -/
def PassesAll (record : Record) (checks : List Check) : Prop :=
  ∀ check ∈ checks, record.Passes check

theorem passesAll_nil : record.PassesAll [] := by simp [PassesAll]

theorem Reads.passesAll (h : record.Reads name read a) (hrest : record.PassesAll checks) :
    record.PassesAll (check name read :: checks) := List.forall_mem_cons.2 ⟨h.passes, hrest⟩

/-- Entries are checked by the checks of their fields. -/
theorem Holds.inOrder (h : record.Holds entries) (hchecks : record.PassesAll checks) :
    record.inOrder checks = .ok () := by
  rw [Record.inOrder, forM_eq_ok_iff]
  rintro ⟨name, w⟩ hmem
  dsimp only
  split
  · rename_i check hlookup
    exact hchecks (name, check) (mem_of_lookup_eq_some hlookup) w
      ((lookup_eq_some_iff_mem h.nodup).2 hmem)
  · rfl

/-- Entries that hold no whole number can be kept. -/
theorem Holds.keepOthers (h : record.Holds entries) (shape : RecordShape)
    (hplain : ∀ entry ∈ entries, ∀ w, Reordered entry.2 w → w.oversized? = none) :
    record.keepOthers shape = .ok () := by
  rw [Record.keepOthers, forM_eq_ok_iff]
  intro other hother
  obtain ⟨entry, hentry, hreordered⟩ := h.only other hother
  cases hreordered with
  | mk name hw =>
    dsimp only
    rw [hplain _ hentry _ hw]
    cases shape.fields.contains name <;> rfl

end Record

end Siblings
