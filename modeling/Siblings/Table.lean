import Siblings.Descriptor
import Siblings.Kind

/-!
# Descriptor tables

A table lists the element types of a family under distinct names, and singles one out: the
default type, for which the master is written. The others are the targets.

* `Table.ofEntries`: a list of entries makes a table, unless a name comes twice or the default
  is missing.
-/

namespace Siblings

/-- **An element type of a table.** -/
structure Entry where
  className : Text
  descriptor : Descriptor
  kind : ElementKind
  stripBaseClass : Bool
  deriving DecidableEq

namespace Entry

/-- The adaptations that the derivation of a type makes. -/
def flags (entry : Entry) (stripBaseClass : Bool) : Flags :=
  { Flags.ofKind entry.kind with stripBaseClass := stripBaseClass || entry.stripBaseClass }

/-- The first entry whose name is that of an earlier one, where `seen` are the names before. -/
def repeated? (seen : List Text) : List Entry → Option Entry
  | [] => none
  | entry :: entries =>
    if entry.className ∈ seen then some entry
    else repeated? (entry.className :: seen) entries

end Entry

/-- **A table of element types:** the default one, between those listed before and after it. -/
structure Table where
  before : List Entry
  default : Entry
  after : List Entry
  distinct : Entry.repeated? [] (before ++ default :: after) = none
  deriving DecidableEq

namespace Table

/-- A list cut at the first entry with a name. -/
def split? (name : Text) : List Entry → Option (List Entry × Entry × List Entry)
  | [] => none
  | entry :: entries =>
    if entry.className = name then some ([], entry, entries)
    else (split? name entries).map fun (before, found, after) => (entry :: before, found, after)

theorem eq_of_split? {name : Text} {entries before after : List Entry} {found : Entry}
    (h : split? name entries = some (before, found, after)) :
    entries = before ++ found :: after := by
  induction entries generalizing before with
  | nil => simp [split?] at h
  | cons entry entries ih =>
    simp only [split?] at h
    split at h
    · simp only [Option.some.injEq, Prod.mk.injEq] at h
      obtain ⟨rfl, rfl, rfl⟩ := h
      rfl
    · simp only [Option.map_eq_some_iff, Prod.exists, Prod.mk.injEq] at h
      obtain ⟨b, f, a, hs, rfl, rfl, rfl⟩ := h
      rw [ih hs]
      rfl

/-- **A list of entries makes a table.** A name that comes twice is reported first, then a
default that is not listed. -/
def ofEntries (defaultName : Text) (entries : List Entry) : Except GenError Table :=
  match hd : Entry.repeated? [] entries with
  | some entry => .error (.duplicateType entry.className)
  | none =>
    match hs : split? defaultName entries with
    | none => .error (.unknownType defaultName)
    | some (before, default, after) =>
      .ok ⟨before, default, after, by rw [← eq_of_split? hs]; exact hd⟩

/-- Every entry, in order. -/
def entries (table : Table) : List Entry := table.before ++ table.default :: table.after

/-- **Every entry but the default,** in order. -/
def targets (table : Table) : List Entry := table.before ++ table.after

/-- The number of entries. -/
def size (table : Table) : Nat := table.entries.length

/-- The entry of a name. -/
def entry (table : Table) (name : Text) : Except GenError Entry :=
  match table.entries.find? (·.className == name) with
  | some entry => .ok entry
  | none => .error (.unknownType name)

/-- The descriptor of a name. -/
def lookup (table : Table) (name : Text) : Except GenError Descriptor :=
  (table.entry name).map (·.descriptor)

end Table

end Siblings
