import Siblings.Document.JsonReader
import Mathlib.Data.List.DropRight

/-!
# JSON texts that are read back

What is written of a document says what the document is: reading it gives the document again.

* `string?_string`: **a string between quotes is read back.**
* `reads_prettyAt`: a document is read back at any level, whatever follows it.
* `read?_pretty`: **what is written is read back.**
-/

namespace Siblings.Json

open Toml (put unicode?)

/-! ## Strings -/

theorem unicode?_fourDigits :
    ∀ n < 0x20, (fourDigits n).length = 4 ∧ unicode? (fourDigits n) = some (Char.ofNat n) := by
  decide

/-- A control character is read from its four digits. -/
theorem string?_control {c : Char} (h : c.toNat < 0x20) (more : Text) :
    string? ("\\u".toList ++ fourDigits c.toNat ++ more) = put (some c) (string? more) := by
  obtain ⟨hlength, hdigits⟩ := unicode?_fourDigits c.toNat h
  rw [Char.ofNat_toNat] at hdigits
  match hfour : fourDigits c.toNat, hlength with
  | [i, j, k, l], _ =>
    rw [hfour] at hdigits
    rw [← hdigits]
    rfl

theorem string?_escapeChar (c : Char) (more : Text) :
    string? (escapeChar c ++ more) = put (some c) (string? more) := by
  unfold escapeChar
  split
  -- an escape of one letter, or a character that needs none
  all_goals try rfl
  split
  · exact string?_control ‹_› more
  · rename_i hquote hbackslash _ _ _ _ _ hplain
    have hbounds : (decide (0x20 ≤ c.toNat) && c != '\\') = true := by
      simpa using ⟨by omega, hbackslash⟩
    rw [List.singleton_append, string?, if_pos hbounds]
    · exact hquote
    · exact fun _ _ _ _ _ heq => absurd heq hbackslash
    · exact fun _ _ heq => absurd heq hbackslash

/-- **What is written between quotes is read back.** -/
theorem string?_string (text rest : Text) :
    string? (text.flatMap escapeChar ++ '"' :: rest) = some (text, rest) := by
  induction text with
  | nil => rfl
  | cons c text ih =>
    rw [List.flatMap_cons, List.append_assoc, string?_escapeChar, ih]
    rfl

/-! ## Documents -/

/-- A document without numbers, and without moments, which JSON does not have. -/
inductive Plain : Value → Prop where
  | null : Plain .null
  | bool (b : Bool) : Plain (.bool b)
  | string (text : Text) : Plain (.string text)
  | array {items : List Value} (h : ∀ item ∈ items, Plain item) : Plain (.array items)
  | table {entries : List (Text × Value)} (h : ∀ entry ∈ entries, Plain entry.2) :
      Plain (.table entries)

variable {n level : Nat} {text rest : Text} {value : Value}

theorem skip_cons {c : Char} (h : isSpace c = false) (text : Text) : skip (c :: text) = c :: text :=
  List.dropWhile_cons_of_neg (by simpa using h)

theorem skip_skip (text : Text) : skip (skip text) = skip text := List.dropWhile_idempotent _ _

theorem skip_lineAt (level : Nat) (text : Text) : skip (lineAt level ++ text) = skip text := by
  unfold skip lineAt
  rw [List.cons_append, List.dropWhile_cons_of_pos (by decide), List.dropWhile_append_of_pos]
  simp [isSpace]

theorem value?_skip (n : Nat) (text : Text) : value? n (skip text) = value? n text := by
  cases n with
  | zero => rfl
  | succ n => rw [value?, value?, skip_skip]

theorem value?_lineAt (n level : Nat) (text : Text) :
    value? n (lineAt level ++ text) = value? n text := by
  rw [← value?_skip, skip_lineAt, value?_skip]

/-- **A text reads as a document,** whatever follows it. -/
def Reads (text : Text) (value : Value) : Prop :=
  ∀ n rest, (text ++ rest).length ≤ n → value? n (text ++ rest) = some (value, rest)

/-- A text that starts a document needs one step to be read. -/
theorem Reads.of_succ (hne : text ≠ [])
    (h : ∀ n rest, (text ++ rest).length ≤ n + 1 → value? (n + 1) (text ++ rest) = some (value, rest)) :
    Reads text value := by
  intro n rest hn
  cases n with
  | zero => simp [hne] at hn
  | succ n => exact h n rest hn

theorem reads_null : Reads "null".toList .null := .of_succ (by decide) fun _ _ _ => rfl

theorem reads_bool (b : Bool) : Reads (scalar (.bool b)) (.bool b) := by
  cases b <;> exact .of_succ (by decide) fun _ _ _ => rfl

theorem string_append (text rest : Text) :
    string text ++ rest = '"' :: (text.flatMap escapeChar ++ '"' :: rest) := by
  simp [string]

theorem reads_string (text : Text) : Reads (string text) (.string text) := by
  refine .of_succ (by simp [string]) fun n rest _ => ?_
  rw [string_append, value?_quote, string?_string]
  rfl

theorem reads_array_nil : Reads "[]".toList (.array []) := .of_succ (by decide) fun _ _ _ => rfl

theorem reads_table_nil : Reads "{}".toList (.table []) := .of_succ (by decide) fun _ _ _ => rfl

/-- An entry of a table as it is written. -/
def entryAt (level : Nat) (entry : Text × Value) : Text :=
  string entry.1 ++ ": ".toList ++ prettyAt level entry.2

theorem length_le_entryAt (level : Nat) (entry : Text × Value) :
    (prettyAt level entry.2).length ≤ (entryAt level entry).length := by
  rw [entryAt, List.length_append]
  exact Nat.le_add_left _ _

/-- Something written on a line of its own behind a comma. -/
def behind (level : Nat) (text : Text) : Text := ',' :: lineAt level ++ text

theorem prettyItems_cons (level : Nat) (item : Value) (items : List Value) :
    prettyItems level (item :: items) =
      lineAt level ++ prettyAt level item ++
        items.flatMap fun item => behind level (prettyAt level item) := by
  induction items generalizing item with
  | nil => simp [prettyItems]
  | cons next items ih =>
    rw [prettyItems, ih, List.flatMap_cons, behind]
    · simp
    · simp

theorem prettyEntries_cons (level : Nat) (entry : Text × Value) (entries : List (Text × Value)) :
    prettyEntries level (entry :: entries) =
      lineAt level ++ entryAt level entry ++
        entries.flatMap fun entry => behind level (entryAt level entry) := by
  induction entries generalizing entry with
  | nil => simp [prettyEntries, entryAt]
  | cons next entries ih =>
    rw [prettyEntries, ih, List.flatMap_cons, behind, entryAt, entryAt]
    · simp
    · simp

/-- What is written starts like a document, not like the end of an array. -/
theorem exists_head (h : Plain value) (level : Nat) :
    ∃ c more, prettyAt level value = c :: more ∧ isSpace c = false ∧ c ≠ ']' := by
  cases h with
  | null => exact ⟨'n', "ull".toList, rfl, by decide, by decide⟩
  | bool b => cases b <;> exact ⟨_, _, rfl, by decide, by decide⟩
  | string text => exact ⟨'"', _, rfl, by decide, by decide⟩
  | @array items _ => cases items <;> exact ⟨'[', _, rfl, by decide, by decide⟩
  | @table entries _ => cases entries <;> exact ⟨'{', _, rfl, by decide, by decide⟩

/-- **What stands behind commas is read up to the end,** if the end is read, and each part is read
with what follows it. -/
theorem many?_behind {β : Type} {many? : Nat → Text → Option (List β × Text)} {write : β → Text}
    {parts : List β} {tail : Text} (htail : tail ≠ [])
    (hclose : ∀ n, many? (n + 1) tail = some ([], rest))
    (hpart : ∀ part ∈ parts, ∀ n text, (write part ++ text).length ≤ n →
      many? (n + 1) (behind level (write part) ++ text) =
        (many? n text).map fun (parts, rest) => (part :: parts, rest))
    (hn : (parts.flatMap (fun part => behind level (write part)) ++ tail).length ≤ n) :
    many? n (parts.flatMap (fun part => behind level (write part)) ++ tail) =
      some (parts, rest) := by
  induction parts generalizing n with
  | nil =>
    obtain ⟨n, rfl⟩ := Nat.exists_eq_succ_of_ne_zero (n := n) (by rintro rfl; simp [htail] at hn)
    exact hclose n
  | cons part parts ih =>
    obtain ⟨hfirst, hothers⟩ := List.forall_mem_cons.1 hpart
    rw [List.flatMap_cons, List.append_assoc] at hn ⊢
    obtain ⟨n, rfl⟩ := Nat.exists_eq_succ_of_ne_zero (n := n) (by rintro rfl; simp [behind] at hn)
    simp only [behind, List.length_cons, List.length_append] at hn
    rw [hfirst n _ (by simp only [behind, List.length_append]; omega),
      ih hothers (by simp only [behind, List.length_append]; omega)]
    rfl

theorem items?_close (n level : Nat) (rest : Text) :
    items? (n + 1) (lineAt level ++ ']' :: rest) = some ([], rest) := by
  rw [items?, skip_lineAt]
  rfl

/-- An item is read in the middle of an array. -/
theorem items?_item {item : Value} (h : Reads (prettyAt level item) item) (n : Nat) (text : Text)
    (hn : (prettyAt level item ++ text).length ≤ n) :
    items? (n + 1) (behind level (prettyAt level item) ++ text) =
      (items? n text).map fun (items, rest) => (item :: items, rest) := by
  rw [behind, List.cons_append, List.cons_append, List.append_assoc, items?_comma, value?_lineAt,
    h n text hn]
  simp only [Option.bind_eq_bind, Option.bind_some]
  cases items? n text <;> rfl

/-- The items behind the first are read up to the end of their array. -/
theorem items?_behind {items : List Value} (outer : Nat)
    (h : ∀ item ∈ items, Reads (prettyAt level item) item)
    (hn : (items.flatMap (fun item => behind level (prettyAt level item)) ++
      (lineAt outer ++ ']' :: rest)).length ≤ n) :
    items? n (items.flatMap (fun item => behind level (prettyAt level item)) ++
      (lineAt outer ++ ']' :: rest)) = some (items, rest) :=
  many?_behind (by simp) (fun n => items?_close n outer rest)
    (fun item hitem => items?_item (h item hitem)) hn

theorem key?_skip (text : Text) : key? (skip text) = key? text := by rw [key?, key?, skip_skip]

theorem key?_lineAt (level : Nat) (text : Text) : key? (lineAt level ++ text) = key? text := by
  rw [← key?_skip, skip_lineAt, key?_skip]

/-- A key is read with the colon behind it. -/
theorem key?_entryAt (level : Nat) (entry : Text × Value) (text : Text) :
    key? (entryAt level entry ++ text) = some (entry.1, ' ' :: (prettyAt level entry.2 ++ text)) := by
  rw [entryAt, List.append_assoc, List.append_assoc, string_append, key?_quote, string?_string]
  rfl

theorem value?_space (n : Nat) (text : Text) : value? n (' ' :: text) = value? n text := by
  rw [← value?_skip, ← value?_skip n text]
  rfl

theorem entries?_close (n level : Nat) (rest : Text) :
    entries? (n + 1) (lineAt level ++ '}' :: rest) = some ([], rest) := by
  rw [entries?, skip_lineAt]
  rfl

/-- An entry is read in the middle of a table. -/
theorem entries?_entry {entry : Text × Value} (h : Reads (prettyAt level entry.2) entry.2)
    (n : Nat) (text : Text) (hn : (entryAt level entry ++ text).length ≤ n) :
    entries? (n + 1) (behind level (entryAt level entry) ++ text) =
      (entries? n text).map fun (entries, rest) => (entry :: entries, rest) := by
  have hvalue : (prettyAt level entry.2 ++ text).length ≤ n := by
    have hlength := length_le_entryAt level entry
    rw [List.length_append] at hn ⊢
    omega
  rw [behind, List.cons_append, List.cons_append, List.append_assoc, entries?_comma, key?_lineAt,
    key?_entryAt]
  simp only [Option.bind_eq_bind, Option.bind_some, value?_space]
  rw [h n text hvalue, Option.bind_some]
  cases entries? n text <;> rfl

/-- The entries behind the first are read up to the end of their table. -/
theorem entries?_behind {entries : List (Text × Value)} (outer : Nat)
    (h : ∀ entry ∈ entries, Reads (prettyAt level entry.2) entry.2)
    (hn : (entries.flatMap (fun entry => behind level (entryAt level entry)) ++
      (lineAt outer ++ '}' :: rest)).length ≤ n) :
    entries? n (entries.flatMap (fun entry => behind level (entryAt level entry)) ++
      (lineAt outer ++ '}' :: rest)) = some (entries, rest) :=
  many?_behind (by simp) (fun n => entries?_close n outer rest)
    (fun entry hentry => entries?_entry (h entry hentry)) hn

/-- An array whose end does not follow at once has an item. -/
theorem value?_array {text : Text} (h : ∀ rest, skip text ≠ ']' :: rest) (n : Nat) :
    value? (n + 1) ('[' :: text) = (do
      let (item, rest) ← value? n text
      let (items, rest) ← items? n rest
      some (.array (item :: items), rest)) := by
  rw [value?_bracket]
  split
  · rename_i rest heq
    exact absurd heq (h rest)
  · rw [value?_skip]

/-- A table whose end does not follow at once has an entry. -/
theorem value?_table {text : Text} (h : ∀ rest, skip text ≠ '}' :: rest) (n : Nat) :
    value? (n + 1) ('{' :: text) = (do
      let (key, rest) ← key? text
      let (value, rest) ← value? n rest
      let (entries, rest) ← entries? n rest
      some (.table ((key, value) :: entries), rest)) := by
  rw [value?_brace]
  split
  · rename_i rest heq
    exact absurd heq (h rest)
  · rw [key?_skip]

theorem reads_array_cons {item : Value} {items : List Value} (hplain : Plain item)
    (h : ∀ other ∈ item :: items, Reads (prettyAt (level + 1) other) other) :
    Reads (prettyAt level (.array (item :: items))) (.array (item :: items)) := by
  refine .of_succ (by simp [prettyAt]) fun n rest hn => ?_
  obtain ⟨hitem, hitems⟩ := List.forall_mem_cons.1 h
  have htext : prettyAt level (.array (item :: items)) ++ rest =
      '[' :: (lineAt (level + 1) ++ (prettyAt (level + 1) item ++
        (items.flatMap (fun item => behind (level + 1) (prettyAt (level + 1) item)) ++
          (lineAt level ++ ']' :: rest)))) := by
    simp [prettyAt, prettyItems_cons]
  rw [htext] at hn ⊢
  simp only [List.length_cons, List.length_append] at hn
  rw [value?_array, value?_lineAt,
    hitem _ _ (by simp only [List.length_append, List.length_cons]; omega)]
  · simp only [Option.bind_eq_bind, Option.bind_some]
    rw [items?_behind level hitems (by simp only [List.length_append, List.length_cons]; omega)]
    rfl
  · -- an item does not start with the bracket that ends an array
    intro more heq
    obtain ⟨c, start, hstart, hspace, hc⟩ := exists_head hplain (level + 1)
    rw [skip_lineAt, hstart, List.cons_append, skip_cons hspace] at heq
    exact hc (List.cons.inj heq).1

theorem reads_table_cons {entry : Text × Value} {entries : List (Text × Value)}
    (h : ∀ other ∈ entry :: entries, Reads (prettyAt (level + 1) other.2) other.2) :
    Reads (prettyAt level (.table (entry :: entries))) (.table (entry :: entries)) := by
  refine .of_succ (by simp [prettyAt]) fun n rest hn => ?_
  obtain ⟨hentry, hentries⟩ := List.forall_mem_cons.1 h
  have htext : prettyAt level (.table (entry :: entries)) ++ rest =
      '{' :: (lineAt (level + 1) ++ (entryAt (level + 1) entry ++
        (entries.flatMap (fun entry => behind (level + 1) (entryAt (level + 1) entry)) ++
          (lineAt level ++ '}' :: rest)))) := by
    simp [prettyAt, prettyEntries_cons]
  have hentryAt := length_le_entryAt (level + 1) entry
  rw [htext] at hn ⊢
  simp only [List.length_cons, List.length_append] at hn
  rw [value?_table, key?_lineAt, key?_entryAt]
  · simp only [Option.bind_eq_bind, Option.bind_some, value?_space]
    rw [hentry _ _ (by simp only [List.length_append, List.length_cons]; omega)]
    simp only [Option.bind_some]
    rw [entries?_behind level hentries (by simp only [List.length_append, List.length_cons]; omega)]
    rfl
  · intro more heq
    rw [skip_lineAt, entryAt, List.append_assoc, List.append_assoc, string_append,
      skip_cons (by decide)] at heq
    exact absurd (List.cons.inj heq).1 (by decide)

/-- **A document is read back** from what is written of it, whatever follows. -/
theorem reads_prettyAt (h : Plain value) (level : Nat) : Reads (prettyAt level value) value := by
  induction h generalizing level with
  | null => exact reads_null
  | bool b => exact reads_bool b
  | string text => exact reads_string text
  | @array items hitems ih =>
    cases items with
    | nil => exact reads_array_nil
    | cons item items =>
      exact reads_array_cons (hitems item (by simp)) fun item hitem => ih item hitem (level + 1)
  | @table entries hentries ih =>
    cases entries with
    | nil => exact reads_table_nil
    | cons entry entries => exact reads_table_cons fun entry hentry => ih entry hentry (level + 1)

/-- **What is written is read back,** with white space behind it. -/
theorem read?_pretty (h : Plain value) (hrest : skip rest = []) :
    read? (pretty value ++ rest) = some value := by
  rw [read?, pretty, reads_prettyAt h 0 _ rest le_rfl]
  simp [hrest]

example :
    let document := Value.table
      [("a".toList, .array [.bool true, .string "\"\n\x01".toList]), ("b".toList, .null)]
    read? (pretty document ++ ['\n']) = some document := by
  rfl

end Siblings.Json
