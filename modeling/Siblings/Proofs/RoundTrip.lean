import Siblings.Command
import Siblings.Proofs.JsonText
import Siblings.Proofs.Records
import Siblings.Proofs.Untouched

/-!
# Serialized forms are read back

Each form is written in the canonical order of its fields and read by their names, so a reader gets
back what was written from any document with the same entries.

* `Field.inverts`, `Entry.inverts` and the like: the forms one by one, along `Record.Holds`.
* `Descriptor.isIn_of_read`: **a descriptor that is read** has no blank token.
* `Command.read?_listTypes`, `Catalog.readTypes_listing`: a listing of types.
* `serialized_forms_round_trip`: **every form makes the round trip.**
-/

namespace Siblings

open Reader (Inverts inverts_text inverts_bool)
open Record (check checkLength_table inverts_of_table ofTable_table ofValue_table passesAll_nil)
open Value (Reordered)

/-! ## Alternatives -/

theorem Field.inverts : Inverts Field.read Field.toValue :=
  Reader.inverts_variant Field.mem_all (by decide)

theorem ElementKind.inverts : Inverts ElementKind.read ElementKind.toValue :=
  Reader.inverts_variant (fun kind => by cases kind <;> decide) (by decide)

theorem Scope.inverts : Inverts Scope.read Scope.toValue :=
  Reader.inverts_variant (fun scope => by cases scope <;> decide) (by decide)

theorem Policy.inverts : Inverts Policy.read Policy.toValue :=
  Reader.inverts_variant (fun policy => by cases policy <;> decide) (by decide)

theorem Mode.inverts : Inverts Mode.read Mode.toValue :=
  Reader.inverts_variant (fun mode => by cases mode <;> decide) (by decide)

theorem Action.inverts : Inverts Action.read Action.toValue :=
  Reader.inverts_variant (fun action => by cases action <;> decide) (by decide)

/-! ## Records -/

theorem Flags.inverts : Inverts Flags.read Flags.toValue := by
  refine inverts_of_table (fun _ => (by decide : shape.fields.Nodup)) ?_
  intro flags dialect others h
  have hstrip := h.reads inverts_bool (.head _)
  have hboolean := h.reads inverts_bool (.tail _ (.head _))
  have hstring := h.reads inverts_bool (.tail _ (.tail _ (.head _)))
  have hinteger := h.reads inverts_bool (.tail _ (.tail _ (.tail _ (.head _))))
  have horder : Record.inOrder _ (shape.fields.map fun name => check name Reader.bool) = _ :=
    h.inOrder <| hstrip.passesAll <| hboolean.passesAll <| hstring.passesAll <|
      hinteger.passesAll passesAll_nil
  simp only [read, ofValue_table, ok_bind, horder, hstrip.required, hboolean.required,
    hstring.required, hinteger.required, checkLength_table]
  rfl

theorem Directive.inverts : Inverts Directive.read Directive.toValue := by
  refine inverts_of_table (fun _ => (by decide : shape.fields.Nodup)) ?_
  intro directive dialect others h
  have hmarker := h.reads inverts_text (.head _)
  have haction := h.reads Action.inverts (.tail _ (.head _))
  have horder := h.inOrder <| hmarker.passesAll <| haction.passesAll passesAll_nil
  simp only [read, ofValue_table, ok_bind, horder, hmarker.required, haction.required,
    checkLength_table]
  rfl

theorem Idiom.inverts : Inverts Idiom.read Idiom.toValue := by
  refine inverts_of_table (fun _ => (by decide : shape.fields.Nodup)) ?_
  intro idiom dialect others h
  have hmatcher := h.reads inverts_text (.head _)
  have hreplacement := h.reads inverts_text (.tail _ (.head _))
  have horder : Record.inOrder _ (shape.fields.map fun name => check name Reader.text) = _ :=
    h.inOrder <| hmatcher.passesAll <| hreplacement.passesAll passesAll_nil
  simp only [read, ofValue_table, ok_bind, horder, hmatcher.required, hreplacement.required,
    checkLength_table]
  rfl

theorem SpecialTable.inverts : Inverts SpecialTable.read SpecialTable.toValue := by
  refine inverts_of_table (fun _ => (by decide : shape.fields.Nodup)) ?_
  intro table dialect others h
  have hdirectives := h.reads Directive.inverts.list (.head _)
  have hidioms := h.reads Idiom.inverts.list (.tail _ (.head _))
  have horder := h.inOrder <| hdirectives.passesAll <| hidioms.passesAll passesAll_nil
  simp only [read, ofValue_table, ok_bind, horder, hdirectives.optional, hidioms.optional,
    checkLength_table]
  rfl

theorem Specialization.inverts : Inverts Specialization.read Specialization.toValue := by
  refine inverts_of_table (fun _ => (by decide : shape.fields.Nodup)) ?_
  intro tables dialect others h
  have hboolean := h.reads SpecialTable.inverts (.head _)
  have hstring := h.reads SpecialTable.inverts (.tail _ (.head _))
  have hinteger := h.reads SpecialTable.inverts (.tail _ (.tail _ (.head _)))
  have horder : Record.inOrder _ (shape.fields.map fun name => check name SpecialTable.read) = _ :=
    h.inOrder <| hboolean.passesAll <| hstring.passesAll <| hinteger.passesAll passesAll_nil
  simp only [read, ofValue_table, ok_bind, horder, hboolean.optional, hstring.optional,
    hinteger.optional, checkLength_table]
  rfl

/-! ## Descriptors -/

/-- The tokens of a record are read in canonical order. -/
theorem Tokens.ofRecord_of_reads {record : Record} {entries : List (Text × Value)} {tokens : Tokens}
    (h : record.Holds entries)
    (hmem : ∀ field, (field.name, Value.string (tokens.get field)) ∈ entries) :
    Tokens.ofRecord record = .ok tokens := by
  have hreads := fun field => h.reads inverts_text (hmem field)
  have horder : record.inOrder (shape.fields.map fun name => check name Reader.text) = _ :=
    h.inOrder <| (hreads .storageKind).passesAll <| (hreads .boxedName).passesAll <|
      (hreads .primitiveName).passesAll <| (hreads .accessor).passesAll <|
      (hreads .conversion).passesAll <| (hreads .formatSpec).passesAll <|
      (hreads .sentinel).passesAll passesAll_nil
  simp only [ofRecord, ok_bind, horder, (hreads _).required]
  rfl

theorem Descriptor.ofReadTokens_toTokens (descriptor : Descriptor) :
    Descriptor.ofReadTokens descriptor.toTokens = .ok descriptor := by
  unfold ofReadTokens ofTokens
  split
  · rfl
  · rename_i field hblank
    rw [descriptor.filled] at hblank
    simp at hblank

theorem Tokens.mem_toEntries (tokens : Tokens) (field : Field) :
    (field.name, Value.string (tokens.get field)) ∈ tokens.toEntries :=
  List.mem_map_of_mem (Field.mem_all field)

theorem Descriptor.inverts : Inverts Descriptor.read Descriptor.toValue := by
  refine inverts_of_table (fun _ => (by decide : Tokens.shape.fields.Nodup)) ?_
  intro descriptor dialect others h
  have htokens := Tokens.ofRecord_of_reads h (Tokens.mem_toEntries descriptor.toTokens)
  simp only [read, ofValue_table, ok_bind, htokens, checkLength_table,
    Descriptor.ofReadTokens_toTokens]

/-! ## Entries -/

namespace Entry

/-- The entries of what an entry of a table is written as. -/
def entries (entry : Entry) : List (Text × Value) :=
  ("class_name".toList, .string entry.className) :: entry.descriptor.toTokens.toEntries ++
    [("kind".toList, entry.kind.toValue), ("strip_base_class".toList, .bool entry.stripBaseClass)]

theorem nodup_entries (entry : Entry) : (entry.entries.map Prod.fst).Nodup :=
  (by decide : ("class_name".toList :: Tokens.shape.fields ++
    ["kind".toList, "strip_base_class".toList]).Nodup)

/-- What an entry is written as holds texts and truth values only. -/
theorem plain_of_mem_entries (entry : Entry) :
    ∀ part ∈ entry.entries, ∀ w, Reordered part.2 w → w.oversized? = none := by
  have hstring : ∀ text w, Reordered (.string text) w → w.oversized? = none := by
    intro text w hw
    rw [hw.eq_of_string]
    rfl
  intro part hpart w hw
  rcases List.mem_append.1 hpart with hpart | hpart
  · rcases List.mem_cons.1 hpart with rfl | hpart
    · exact hstring _ w hw
    · obtain ⟨field, -, rfl⟩ := List.mem_map.1 hpart
      exact hstring _ w hw
  · rcases List.mem_cons.1 hpart with rfl | hpart
    · exact hstring _ w hw
    · obtain rfl := List.mem_singleton.1 hpart
      rw [hw.eq_of_bool]
      rfl

theorem inverts : Inverts read toValue := by
  refine inverts_of_table nodup_entries ?_
  intro entry dialect others h
  have hclass := h.reads inverts_text (.head _)
  have hkind := h.reads ElementKind.inverts (List.mem_append_right _ (.head _))
  have hstrip := h.reads inverts_bool (List.mem_append_right _ (.tail _ (.head _)))
  have hkeep := h.keepOthers shape entry.plain_of_mem_entries
  have horder := h.inOrder <| hclass.passesAll <| hkind.passesAll <| hstrip.passesAll passesAll_nil
  have htokens : Tokens.ofRecord _ = .ok entry.descriptor.toTokens :=
    Tokens.ofRecord_of_reads h fun field =>
      List.mem_append_left _ (.tail _ (Tokens.mem_toEntries _ field))
  simp only [read, ofTable_table, ok_bind, hkeep, horder, hclass.required, hkind.optional,
    hstrip.optional, htokens, Descriptor.ofReadTokens_toTokens]
  rfl

end Entry

/-! ## Blank tokens -/

/-- **No descriptor has a blank token,** however it was made. -/
theorem Descriptor.trim_ne_nil (descriptor : Descriptor) (field : Field) :
    Text.trim (descriptor.get field) ≠ [] := by
  rw [Ne, Text.trim_eq_nil_iff]
  have hfilled := descriptor.filled
  rw [Tokens.firstBlank?, List.find?_eq_none] at hfilled
  exact hfilled field (Field.mem_all field)

theorem Tokens.get?_of_ofRecord {record : Record} {tokens : Tokens}
    (h : Tokens.ofRecord record = .ok tokens) (field : Field) :
    record.get? field.name = some (.string (tokens.get field)) := by
  simp only [ofRecord, bind_eq_ok_iff] at h
  obtain ⟨-, -, storage, hstorage, boxed, hboxed, primitive, hprimitive, accessor, haccessor,
    conversion, hconversion, format, hformat, sentinel, hsentinel, htokens⟩ := h
  obtain rfl := Except.ok.inj htokens
  cases field with
  | storageKind => exact Record.get?_of_required_text hstorage
  | boxedName => exact Record.get?_of_required_text hboxed
  | primitiveName => exact Record.get?_of_required_text hprimitive
  | accessor => exact Record.get?_of_required_text haccessor
  | conversion => exact Record.get?_of_required_text hconversion
  | formatSpec => exact Record.get?_of_required_text hformat
  | sentinel => exact Record.get?_of_required_text hsentinel

theorem Descriptor.toTokens_of_ofReadTokens {tokens : Tokens} {descriptor : Descriptor}
    (h : ofReadTokens tokens = .ok descriptor) : descriptor.toTokens = tokens := by
  unfold ofReadTokens at h
  rw [mapError_eq_ok_iff, ofTokens] at h
  split at h
  · rw [← Except.ok.inj h]
  · simp at h

/-- **A record that a descriptor is read from** holds its tokens, none of them blank. -/
def Descriptor.IsIn (descriptor : Descriptor) (record : Record) : Prop :=
  ∀ field, record.get? field.name = some (.string (descriptor.get field)) ∧
    Text.trim (descriptor.get field) ≠ []

theorem Descriptor.isIn_of_ofRecord {record : Record} {tokens : Tokens} {descriptor : Descriptor}
    (h : Tokens.ofRecord record = .ok tokens) (hread : ofReadTokens tokens = .ok descriptor) :
    descriptor.IsIn record := by
  intro field
  obtain rfl := toTokens_of_ofReadTokens hread
  exact ⟨Tokens.get?_of_ofRecord h field, descriptor.trim_ne_nil field⟩

theorem Descriptor.isIn_of_read {dialect : Dialect} {v : Value} {descriptor : Descriptor}
    (h : Descriptor.read dialect v = .ok descriptor) :
    ∃ record, Record.ofValue Tokens.shape dialect v = .ok record ∧ descriptor.IsIn record := by
  simp only [read, bind_eq_ok_iff] at h
  obtain ⟨record, hrecord, tokens, htokens, -, -, hread⟩ := h
  exact ⟨record, hrecord, isIn_of_ofRecord htokens hread⟩

theorem Entry.isIn_of_read {dialect : Dialect} {v : Value} {entry : Entry}
    (h : Entry.read dialect v = .ok entry) :
    ∃ record, Record.ofTable Entry.shape dialect v = .ok record ∧
      entry.descriptor.IsIn record := by
  simp only [read, bind_eq_ok_iff] at h
  obtain ⟨record, hrecord, -, -, -, -, className, -, kind, -, strip, -, tokens, htokens, descriptor,
    hread, hentry⟩ := h
  obtain rfl := Except.ok.inj hentry
  exact ⟨record, hrecord, Descriptor.isIn_of_ofRecord htokens hread⟩

/-! ## Listings -/

theorem Entry.plain_toValue (entry : Entry) : Json.Plain entry.toValue := by
  refine .table fun part hpart => ?_
  rcases List.mem_append.1 hpart with hpart | hpart
  · rcases List.mem_cons.1 hpart with rfl | hpart
    · exact .string _
    · obtain ⟨field, -, rfl⟩ := List.mem_map.1 hpart
      exact .string _
  · rcases List.mem_cons.1 hpart with rfl | hpart
    · exact .string _
    · obtain rfl := List.mem_singleton.1 hpart
      exact .bool _

namespace Catalog

/-- The names of the parts of a listing. -/
def listingShape : RecordShape where
  name := "CatalogListing".toList
  fields := ["name".toList, "default".toList, "types".toList]

/-- **Reads the types of a listing.** -/
def readTypes : Reader (List Entry) := fun dialect v => do
  let record ← Record.ofTable listingShape dialect v
  record.required "types".toList (Reader.list Entry.read)

/-- The types of a listing are read back, in order. -/
theorem readTypes_listing (catalog : Catalog) (dialect : Dialect) {w : Value}
    (h : Reordered catalog.listing w) : readTypes dialect w = .ok catalog.table.entries := by
  obtain ⟨others, rfl, hholds⟩ :=
    Record.holds_of_reordered (by exact (by decide : listingShape.fields.Nodup)) h dialect
  have htypes := hholds.reads Entry.inverts.list (.tail _ (.tail _ (.head _)))
  simp only [readTypes, ofTable_table, ok_bind, htypes.required]

theorem plain_listing (catalog : Catalog) : Json.Plain catalog.listing := by
  refine .table ?_
  simp only [List.forall_mem_cons]
  refine ⟨.string _, .string _, .array fun v hv => ?_, by simp⟩
  obtain ⟨entry, -, rfl⟩ := List.mem_map.1 hv
  exact entry.plain_toValue

end Catalog

/-- **The types that the command prints as JSON** are read back from the text that is shown. -/
theorem Command.read?_listTypes {logger : Logger} {name : Text} {desk : Desk} {catalog : Catalog}
    (h : ((Catalog.resolve logger name).perform desk).1 = .ok catalog) :
    ∃ text, ((listTypes logger name true).perform desk).2.out = desk.out ++ text ∧
      Json.read? text = some catalog.listing := by
  refine ⟨Json.pretty catalog.listing ++ ['\n'], ?_, Json.read?_pretty catalog.plain_listing rfl⟩
  rw [listTypes, Script.perform_bind, h]
  have hpassive : Script.Passive logger (Catalog.resolve logger name) := Catalog.passive_resolve name
  rw [← hpassive.out_eq desk]
  rfl

/-! ## All forms -/

/-- **A form that makes the round trip:** what is written is read back, in whatever order its
entries are kept, and what is read from any document has a form that reads the same. -/
structure RoundTrips {α : Type} (read : Reader α) (write : α → Value) : Prop where
  back : ∀ a dialect w, Reordered (write a) w → read dialect w = .ok a
  normal : ∀ dialect v a, read dialect v = .ok a → ∀ other, read other (write a) = .ok a

theorem Reader.Inverts.roundTrips {α : Type} {read : Reader α} {write : α → Value}
    (h : Inverts read write) : RoundTrips read write where
  back := h
  normal := fun _ _ a _ other => h a other _ (.same _)

/-- **Every serialized form makes the round trip.** What a descriptor or an entry is read from
holds its tokens, none of them blank, and no descriptor has a blank one. The types that the command
prints are read back in order, in whatever order the entries of the text are kept. -/
theorem serialized_forms_round_trip :
    (RoundTrips Field.read Field.toValue ∧ RoundTrips ElementKind.read ElementKind.toValue ∧
      RoundTrips Flags.read Flags.toValue ∧ RoundTrips Scope.read Scope.toValue ∧
      RoundTrips Mode.read Mode.toValue ∧ RoundTrips Policy.read Policy.toValue ∧
      RoundTrips Descriptor.read Descriptor.toValue ∧ RoundTrips Entry.read Entry.toValue ∧
      RoundTrips Action.read Action.toValue ∧ RoundTrips Directive.read Directive.toValue ∧
      RoundTrips Idiom.read Idiom.toValue ∧ RoundTrips SpecialTable.read SpecialTable.toValue ∧
      RoundTrips Specialization.read Specialization.toValue) ∧
    (∀ dialect v descriptor, Descriptor.read dialect v = .ok descriptor →
      ∃ record, Record.ofValue Tokens.shape dialect v = .ok record ∧ descriptor.IsIn record) ∧
    (∀ dialect v entry, Entry.read dialect v = .ok entry →
      ∃ record, Record.ofTable Entry.shape dialect v = .ok record ∧
        entry.descriptor.IsIn record) ∧
    (∀ (descriptor : Descriptor) field, Text.trim (descriptor.get field) ≠ []) ∧
    ∀ logger name desk catalog, ((Catalog.resolve logger name).perform desk).1 = .ok catalog →
      ∃ text document, ((Command.listTypes logger name true).perform desk).2.out = desk.out ++ text ∧
        Json.read? text = some document ∧
        ∀ dialect w, Reordered document w →
          Catalog.readTypes dialect w = .ok catalog.table.entries := by
  refine ⟨⟨Field.inverts.roundTrips, ElementKind.inverts.roundTrips, Flags.inverts.roundTrips,
    Scope.inverts.roundTrips, Mode.inverts.roundTrips, Policy.inverts.roundTrips,
    Descriptor.inverts.roundTrips, Entry.inverts.roundTrips, Action.inverts.roundTrips,
    Directive.inverts.roundTrips, Idiom.inverts.roundTrips, SpecialTable.inverts.roundTrips,
    Specialization.inverts.roundTrips⟩, fun _ _ _ => Descriptor.isIn_of_read,
    fun _ _ _ => Entry.isIn_of_read, Descriptor.trim_ne_nil, ?_⟩
  intro logger name desk catalog hresolve
  obtain ⟨text, hout, hread⟩ := Command.read?_listTypes hresolve
  exact ⟨text, catalog.listing, hout, hread, fun dialect w => catalog.readTypes_listing dialect⟩

end Siblings
