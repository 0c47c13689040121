import Catalog.Proofs.LatestFacets
import Catalog.Lineage.Statistics

/-!
# The statistics document reads back

Lineage statistics go out in two forms: the wire form of the API (`LineageStatistics.toJson`)
and the facet document stored with the dataset (`LineageStatistics.toDocument`), which also
names the producer and the schema.  Both are objects, that is maps from keys to values.

The main statement, `LineageStatistics.toDocument_extends_toJson`: the document is the wire
form with exactly two keys added, `_producer` and `_schema`, which the wire form does not
have; and the document reads back, through the wire reader, as the statistics it was made
of.  The reader skips the two added keys as unknown.

Reading back rests on one lemma per kind of field of a record read from an object
(`Decode.field_of_lookup`, `Decode.field_optional_of_lookup`): a field whose key holds a
value the field's reader takes gives that value, and the record is then read whole when no
member holds a number out of range (`LineageStatistics.decode_obj`).
-/

namespace Catalog

/-! ### Members of an object -/

namespace Json

theorem itemsReadable_map_str (xs : List String) : itemsReadable (xs.map .str) = true := by
  induction xs with
  | nil => rfl
  | cons x xs ih => simp [itemsReadable, readable, ih]

theorem readable_strings (xs : List String) : (strings xs).readable = true := by
  simp only [strings, readable, itemsReadable_map_str]

theorem Fields.mem_insert_cases {key : String} {value : Json} {m : Fields} {x : String × Json}
    (h : x ∈ insert key value m) : x = (key, value) ∨ x ∈ m := by
  induction m with
  | nil => simpa [insert] using h
  | cons e rest ih =>
    obtain ⟨k', v⟩ := e
    unfold insert at h
    split_ifs at h with hkey hlt
    · rcases List.mem_cons.mp h with rfl | h
      · exact .inl rfl
      · exact .inr (List.mem_cons_of_mem _ h)
    · rcases List.mem_cons.mp h with rfl | h
      · exact .inl rfl
      · exact .inr h
    · rcases List.mem_cons.mp h with rfl | h
      · exact .inr List.mem_cons_self
      · exact (ih h).imp id (List.mem_cons_of_mem _)

end Json

/-- Every member of a folded timeline is one of its entries. -/
theorem mem_of_mem_foldTimeline {l : List (String × Json)} {x : String × Json}
    (h : x ∈ foldTimeline l) : x ∈ l := by
  induction l using List.reverseRecOn with
  | nil => simp [foldTimeline] at h
  | append_singleton l e ih =>
    obtain ⟨name, doc⟩ := e
    rw [foldTimeline_append] at h
    rcases Json.Fields.mem_insert_cases h with rfl | h
    · simp
    · exact List.mem_append_left _ (ih h)

/-- With each key once, an object's member is the entry of its key. -/
theorem lookup_foldTimeline_of_nodup {l : List (String × Json)} (h : (l.map Prod.fst).Nodup)
    (k : String) : (foldTimeline l).lookup k = l.lookup k := by
  rw [lookup_foldTimeline, lookup_reverse_of_nodup h]

/-! ### Reading a record field by field -/

namespace Decode

variable {α β : Type} [Inhabited α] {name : String} {r : Reading} {fields : Json.Fields}

theorem field_of_lookup {d : Decoder α} {absent : Absent α} {j : Json} {a : α}
    (hr : r.layout = .members fields) (hj : fields.lookup name = some j) (hd : d j = .ok a) :
    field name d absent r = (a, { r with known := name :: r.known }) := by
  unfold field
  rw [hr]
  simp only [hj, hd]

/-- An optional field with a default of none: what its key holds, if anything. -/
theorem field_optional_of_lookup {d : Decoder (Option β)} {o : Option β} (enc : β → Json)
    (hr : r.layout = .members fields) (hj : fields.lookup name = o.map enc)
    (hd : ∀ b, d (enc b) = .ok (some b)) :
    field name d (.defaulted none) r = (o, { r with known := name :: r.known }) := by
  cases o with
  | none =>
    unfold field
    rw [hr]
    simp only [hj, Option.map_none]
  | some b => exact field_of_lookup hr hj (hd b)

theorem u64_nat {n : Nat} (h : n < Nat.pow 2 64) : u64 (Json.nat n) = .ok n := by
  simp [u64, unsignedBelow, Json.nat, h]

theorem each_string (xs : List String) : each string (xs.map .str) = .ok xs := by
  induction xs with
  | nil => rfl
  | cons x xs ih =>
    simp only [List.map_cons, each, string, ih]
    rfl

theorem list_string_strings (xs : List String) : list string (Json.strings xs) = .ok xs :=
  each_string xs

theorem option_list_string_strings (xs : List String) :
    option (list string) (Json.strings xs) = .ok (some xs) := by
  simp only [Json.strings, option, list, each_string]
  rfl

/-- No member is refused as unknown when every member can be read. -/
theorem unreadableUnknown_eq_nil {members : Json.Fields}
    (h : ∀ m ∈ members, m.2.readable = true) (known : List String) :
    unreadableUnknown known members = [] := by
  rw [unreadableUnknown, List.map_eq_nil_iff, List.filter_eq_nil_iff]
  intro m hm
  simp [h m hm]

end Decode

/-! ### The statistics document -/

namespace LineageStatistics

/-- **The wire reader** takes an object whose members hold the statistics' fields, the job
types absent or a list, as long as no member holds a number out of range. -/
theorem decode_obj {M : Json.Fields} {s : LineageStatistics}
    (hread : ∀ m ∈ M, m.2.readable = true)
    (hin : M.lookup "inEdges" = some (.nat s.inEdges)) (hinb : s.inEdges < Nat.pow 2 64)
    (hout : M.lookup "outEdges" = some (.nat s.outEdges)) (houtb : s.outEdges < Nat.pow 2 64)
    (hcons : M.lookup "consumingNamespaces" = some (Json.strings s.consumingNamespaces))
    (hprod : M.lookup "producingNamespaces" = some (Json.strings s.producingNamespaces))
    (hpj : M.lookup "producingJobTypes" = s.producingJobTypes.map Json.strings)
    (hcj : M.lookup "consumingJobTypes" = s.consumingJobTypes.map Json.strings) :
    decode (.obj M) = .ok s := by
  simp only [decode, Decode.record, Decode.recordWith, bind, StateT.bind, StateT.run, pure,
    StateT.pure]
  -- the six fields in declaration order, each found under its key
  rw [Decode.field_of_lookup rfl hin (Decode.u64_nat hinb)]
  dsimp only
  rw [Decode.field_of_lookup rfl hout (Decode.u64_nat houtb)]
  dsimp only
  rw [Decode.field_of_lookup rfl hcons (Decode.list_string_strings _)]
  dsimp only
  rw [Decode.field_of_lookup rfl hprod (Decode.list_string_strings _)]
  dsimp only
  rw [Decode.field_optional_of_lookup Json.strings rfl hpj Decode.option_list_string_strings]
  dsimp only
  rw [Decode.field_optional_of_lookup Json.strings rfl hcj Decode.option_list_string_strings]
  dsimp only
  rw [List.nil_append, Decode.unreadableUnknown_eq_nil hread]
  rfl

/-- The members of the document, before they are put in key order. -/
theorem toDocument_eq (s : LineageStatistics) (l : LineageSettings) :
    s.toDocument l = .obj (foldTimeline
      ([("_producer", .str l.producer), ("_schema", .str l.schemaUrl)] ++ s.coreFields)) :=
  rfl

section Members

variable (s : LineageStatistics) (p sc : String)

theorem nodup_keys :
    (([("_producer", Json.str p), ("_schema", .str sc)] ++ s.coreFields).map Prod.fst).Nodup := by
  obtain ⟨i, o, cn, pn, pj, cj⟩ := s
  cases pj <;> cases cj <;> simp [coreFields]

theorem readable_members :
    ∀ m ∈ [("_producer", Json.str p), ("_schema", .str sc)] ++ s.coreFields,
      m.2.readable = true := by
  obtain ⟨i, o, cn, pn, pj, cj⟩ := s
  cases pj <;> cases cj <;> simp [coreFields, Json.readable, Json.nat, Json.readable_strings]

theorem lookup_coreFields_required :
    s.coreFields.lookup "inEdges" = some (.nat s.inEdges) ∧
      s.coreFields.lookup "outEdges" = some (.nat s.outEdges) ∧
      s.coreFields.lookup "consumingNamespaces" = some (Json.strings s.consumingNamespaces) ∧
      s.coreFields.lookup "producingNamespaces" = some (Json.strings s.producingNamespaces) := by
  simp [coreFields, lookup_cons_eq_ite]

theorem lookup_coreFields_job_types :
    s.coreFields.lookup "producingJobTypes" = s.producingJobTypes.map Json.strings ∧
      s.coreFields.lookup "consumingJobTypes" = s.consumingJobTypes.map Json.strings := by
  obtain ⟨i, o, cn, pn, pj, cj⟩ := s
  cases pj <;> cases cj <;> simp [coreFields, lookup_cons_eq_ite]

/-- The wire form has neither stamp. -/
theorem lookup_wire_stamps :
    (foldTimeline s.coreFields).lookup "_producer" = none ∧
      (foldTimeline s.coreFields).lookup "_schema" = none := by
  rw [lookup_foldTimeline, lookup_foldTimeline]
  obtain ⟨i, o, cn, pn, pj, cj⟩ := s
  cases pj <;> cases cj <;> simp [coreFields, lookup_cons_eq_ite]

end Members

/-- **The document reads back** as the statistics, whose counts fit in 64 bits. -/
theorem decode_toDocument (s : LineageStatistics) (l : LineageSettings)
    (hin : s.inEdges < Nat.pow 2 64) (hout : s.outEdges < Nat.pow 2 64) :
    decode (s.toDocument l) = .ok s := by
  -- past the two stamps, the document's members are the wire form's entries
  have hskip : ∀ k, k ≠ "_producer" → k ≠ "_schema" →
      (foldTimeline ([("_producer", .str l.producer), ("_schema", .str l.schemaUrl)] ++
        s.coreFields)).lookup k = s.coreFields.lookup k := by
    intro k hp hs
    rw [lookup_foldTimeline_of_nodup (nodup_keys s l.producer l.schemaUrl)]
    simp [lookup_cons_eq_ite, hp, hs]
  obtain ⟨hie, hoe, hcn, hpn⟩ := lookup_coreFields_required s
  obtain ⟨hpj, hcj⟩ := lookup_coreFields_job_types s
  rw [toDocument_eq]
  refine decode_obj (fun m hm => readable_members s _ _ m (mem_of_mem_foldTimeline hm)) ?_ hin ?_
    hout ?_ ?_ ?_ ?_
  all_goals rw [hskip _ (by decide) (by decide)]
  exacts [hie, hoe, hcn, hpn, hpj, hcj]

/-- The wire form's members: no `_producer`, no `_schema`, and the rest of the document. -/
theorem toDocument_eq_insert (s : LineageStatistics) (l : LineageSettings) :
    s.toDocument l = .obj (Json.Fields.insert "_schema" (.str l.schemaUrl)
      (Json.Fields.insert "_producer" (.str l.producer) (foldTimeline s.coreFields))) := by
  obtain ⟨hp, hs⟩ := lookup_wire_stamps s
  rw [lookup_foldTimeline] at hp hs
  rw [toDocument_eq]
  congr 1
  -- both member lists are in key order, so they are equal once every key has one value
  apply Json.Fields.Sorted.eq_of_lookup_eq (sorted_foldTimeline _)
    (((sorted_foldTimeline _).insert _ _).insert _ _)
  intro k
  rw [lookup_foldTimeline, Json.Fields.lookup_insert, Json.Fields.lookup_insert,
    lookup_foldTimeline, List.reverse_append, List.lookup_append]
  by_cases hks : k = "_schema"
  · subst hks
    simp [hs]
  · by_cases hkp : k = "_producer"
    · subst hkp
      simp [hp, lookup_cons_eq_ite]
    · simp [hks, hkp, lookup_cons_eq_ite]

/-- **The document is the wire form with two keys added**, `_producer` and `_schema`, which
the wire form lacks; and the document reads back as the statistics, whose counts are 64-bit. -/
theorem toDocument_extends_toJson (s : LineageStatistics) (l : LineageSettings)
    (hin : s.inEdges < 2 ^ 64) (hout : s.outEdges < 2 ^ 64) :
    (∃ fields, s.toJson = .obj fields ∧ fields.lookup "_producer" = none ∧
      fields.lookup "_schema" = none ∧
      s.toDocument l = .obj (Json.Fields.insert "_schema" (.str l.schemaUrl)
        (Json.Fields.insert "_producer" (.str l.producer) fields))) ∧
    decode (s.toDocument l) = .ok s :=
  ⟨⟨foldTimeline s.coreFields, rfl, (lookup_wire_stamps s).1, (lookup_wire_stamps s).2,
    toDocument_eq_insert s l⟩, decode_toDocument s l hin hout⟩

/-- One producing job and three consuming ones over one version, stamped with the default
producer and schema. -/
theorem toDocument_extends_toJson_of_version_test :
    let s : LineageStatistics :=
      ⟨1, 3, ["analytics", "ingest", "reporting"], ["ingest"], none, none⟩
    let l : LineageSettings := default
    s.inEdges < 2 ^ 64 ∧ s.outEdges < 2 ^ 64 ∧
      (∃ fields, s.toJson = .obj fields ∧ fields.lookup "_producer" = none ∧
        fields.lookup "_schema" = none ∧
        s.toDocument l = .obj (Json.Fields.insert "_schema" (.str l.schemaUrl)
          (Json.Fields.insert "_producer" (.str l.producer) fields))) ∧
      decode (s.toDocument l) = .ok s := by
  intro s l
  have hin : s.inEdges < 2 ^ 64 := by norm_num [s]
  have hout : s.outEdges < 2 ^ 64 := by norm_num [s]
  exact ⟨hin, hout, toDocument_extends_toJson s l hin hout⟩

end LineageStatistics

end Catalog
