import FormatConformance.Proofs.Json.Fields
import FormatConformance.Proofs.Steps
import FormatConformance.Specification

/-!
Options as JSON values and back. What an object gives is told key by key: each option read by the
harness is what its key holds, and every other key passes through, whatever the order in which the
fields stand. So reading what was written gives the same options again, but for the expected
failures, which are never written, and writing what was read gives the fields that had a say.
-/

namespace FormatConformance.Options

variable {α : Type} {o : Options} {fields : Fields Json} {key : String} {value : Json}

def readAt (read : Json → Except String α) (key : String) (fields : Fields Json) :
    Except String (Option α) :=
  match fields.lookup key with
  | none => .ok none
  | some value => Json.orNull read value

def passing (fields : Fields Json) : List (String × Json) :=
  fields.filter fun field => !reservedKeys.contains field.1

/-- The options that fields give, in whatever order they stand. -/
@[mk_iff]
structure Reads (fields : Fields Json) (o : Options) : Prop where
  parser : readAt Grammar.ofJson "parser" fields = .ok o.parser
  errors : readAt ExpectedFailures.ofJson "errors" fields = .ok o.errors
  cursor : readAt Json.asOffset "cursorOffset" fields = .ok o.offsets.cursor
  rangeStart : readAt Json.asOffset "rangeStart" fields = .ok o.offsets.rangeStart
  rangeEnd : readAt Json.asOffset "rangeEnd" fields = .ok o.offsets.rangeEnd
  filepath : readAt Json.asPath "filepath" fields = .ok o.filepath
  rest : o.rest = Fields.ofPairs (passing fields)

theorem readField_of_notMem (h : key ∉ reservedKeys) (o : Options) (value : Json) :
    readField o (key, value) = .ok (o.put key value) := by
  simp only [reservedKeys, List.mem_cons, List.not_mem_nil, not_or, or_false] at h
  simp [readField, h]

theorem readAt_concat (read : Json → Except String α) (h : key ∉ Fields.keys fields)
    (value : Json) (other : String) : readAt read other (fields ++ [(key, value)]) =
      if other = key then Json.orNull read value else readAt read other fields := by
  rw [readAt, readAt, List.lookup_append]
  by_cases hother : other = key
  · subst hother
    rw [if_pos rfl, Fields.lookup_eq_none_iff.2 h]
    simp
  · have hlast : [(key, value)].lookup other = none := by
      rw [List.lookup_cons, beq_false_of_ne hother, List.lookup_nil]
    rw [if_neg hother, hlast, Option.or_none]

theorem readAt_of_notMem (read : Json → Except String α) (h : key ∉ Fields.keys fields) :
    readAt read key fields = .ok none := by
  rw [readAt, Fields.lookup_eq_none_iff.2 h]

theorem ofPairs_passing_concat (fields : Fields Json) (key : String) (value : Json) :
    Fields.ofPairs (passing (fields ++ [(key, value)])) =
      if key ∈ reservedKeys then Fields.ofPairs (passing fields)
      else Fields.insert key value (Fields.ofPairs (passing fields)) := by
  rw [passing, List.filter_append, ← passing]
  by_cases h : key ∈ reservedKeys
  · simp [h]
  · simp [h, Fields.ofPairs_concat]

theorem exists_iff {p : Options → Prop} : (∃ known, p known) ↔
    ∃ parser errors cursor rangeStart rangeEnd filepath rest,
      p ⟨parser, errors, ⟨cursor, rangeStart, rangeEnd⟩, filepath, rest⟩ :=
  ⟨fun ⟨_, h⟩ => ⟨_, _, _, _, _, _, _, h⟩, fun ⟨_, _, _, _, _, _, _, h⟩ => ⟨_, h⟩⟩

theorem reads_concat_iff (h : key ∉ Fields.keys fields) : Reads (fields ++ [(key, value)]) o ↔
    ∃ known, Reads fields known ∧ readField known (key, value) = .ok o := by
  obtain ⟨parser, errors, ⟨cursor, rangeStart, rangeEnd⟩, filepath, rest⟩ := o
  simp only [reads_iff, exists_iff, readAt_concat _ h, ofPairs_passing_concat]
  by_cases hreserved : key ∈ reservedKeys
  · have hkey := hreserved
    simp only [reservedKeys, List.mem_cons, List.not_mem_nil, or_false] at hkey
    -- The field sets its own option, which no other field has set, and leaves the rest alone.
    rcases hkey with rfl | rfl | rfl | rfl | rfl | rfl
    all_goals
      simp [readAt_of_notMem _ h, readField, hreserved, bind_eq_ok_iff, pure, Except.pure,
        eq_comm (a := rest), and_assoc, and_left_comm]
  · simp only [readField_of_notMem hreserved, if_neg hreserved]
    simp only [reservedKeys, List.mem_cons, List.not_mem_nil, not_or, or_false] at hreserved
    obtain ⟨hparser, herrors, hcursor, hstart, hend, hfilepath⟩ := hreserved
    simp [Ne.symm hparser, Ne.symm herrors, Ne.symm hcursor, Ne.symm hstart, Ne.symm hend,
      Ne.symm hfilepath, put, eq_comm (a := rest), and_assoc]

theorem ofJson_eq_ok_iff (hfields : (Fields.keys fields).Nodup) :
    ofJson (.object fields) = .ok o ↔ Reads fields o := by
  change fields.foldlM readField {} = .ok o ↔ Reads fields o
  induction fields using List.reverseRecOn generalizing o with
  | nil =>
    obtain ⟨parser, errors, ⟨cursor, rangeStart, rangeEnd⟩, filepath, rest⟩ := o
    simp [reads_iff, readAt, passing, Fields.ofPairs, pure, Except.pure, and_assoc]
  | append_singleton fields field ih =>
    rw [Fields.keys, List.map_append, List.nodup_append] at hfields
    have hkey : field.1 ∉ Fields.keys fields := fun hmem =>
      hfields.2.2 field.1 hmem field.1 (by simp) rfl
    rw [List.foldlM_append, bind_eq_ok_iff, reads_concat_iff hkey]
    simp only [ih hfields.1, List.foldlM_cons, List.foldlM_nil, bind_pure]

/-- Values of an option are read off exactly the values that are written for them. -/
structure Inverse (read : Json → Except String α) (write : α → Json) : Prop where
  read_eq_ok_iff : ∀ value a, read value = .ok a ↔ value = write a
  ne_null : ∀ a, write a ≠ .null

theorem inverse_grammar : Inverse Grammar.ofJson fun g => .string g.name := by
  refine ⟨fun value g => ?_, nofun⟩
  rw [Grammar.ofJson, bind_eq_ok_iff]
  cases value
  case string name =>
    simp only [Json.asString, Except.ok.injEq, exists_eq_left', Json.string.injEq]
    rw [eq_comm (a := name), ← Grammar.ofName?_eq_some_iff]
    cases Grammar.ofName? name <;> simp
  all_goals simp [Json.asString]

theorem inverse_offset : Inverse Json.asOffset fun n => .int n := by
  refine ⟨fun value n => ?_, nofun⟩
  cases value
  case int m =>
    rw [Json.asOffset]
    split
    · simp; omega
    · simp; omega
  all_goals simp [Json.asOffset]

theorem inverse_path : Inverse Json.asPath .string := by
  refine ⟨fun value n => ?_, nofun⟩
  cases value <;> simp [Json.asPath]

def said (found : Option Json) : Option Json := found.filter fun value => !(value == .null)

theorem said_of_ne_null (h : value ≠ .null) : said (some value) = some value := by
  have hbeq : (value == .null) = false := by cases value <;> first | rfl | exact absurd rfl h
  simp [said, hbeq]

theorem orNull_of_ne_null (read : Json → Except String α) (h : value ≠ .null) :
    Json.orNull read value = (read value).map some := by
  cases value <;> first | rfl | exact absurd rfl h

theorem readAt_eq_ok_iff {read : Json → Except String α} {write : α → Json}
    (h : Inverse read write) {x : Option α} :
    readAt read key fields = .ok x ↔ said (fields.lookup key) = x.map write := by
  rw [readAt]
  cases fields.lookup key with
  | none => cases x <;> simp [said]
  | some value =>
    by_cases hnull : value = .null
    · subst hnull
      cases x <;> simp [said, Json.orNull, (h.ne_null _).symm]
    · have hread : Json.orNull read value = .ok x ↔ ∃ a, read value = .ok a ∧ some a = x := by
        rw [orNull_of_ne_null read hnull]
        cases read value <;> simp [Except.map]
      simp only [said_of_ne_null hnull, hread, h.read_eq_ok_iff]
      cases x <;> simp

def own (o : Options) : List (String × Json) :=
  (o.parser.map fun g => ("parser", Json.string g.name)).toList ++
    (o.offsets.cursor.map fun (n : Nat) => ("cursorOffset", Json.int n)).toList ++
    (o.offsets.rangeStart.map fun (n : Nat) => ("rangeStart", Json.int n)).toList ++
    (o.offsets.rangeEnd.map fun (n : Nat) => ("rangeEnd", Json.int n)).toList ++
    (o.filepath.map fun path => ("filepath", Json.string path)).toList

theorem fields_eq (o : Options) : o.fields = o.own ++ o.rest := by
  obtain ⟨_, _, ⟨_ | _, _ | _, _ | _⟩, _, _⟩ := o <;> rfl

theorem keys_own_sublist (o : Options) : (Fields.keys o.own).Sublist
    ["parser", "cursorOffset", "rangeStart", "rangeEnd", "filepath"] := by
  have hone : ∀ {β : Type} (x : Option β) (name : String) (write : β → Json),
      (Fields.keys (x.map fun b => (name, write b)).toList).Sublist [name] := by
    intro β x name write
    cases x <;> simp [Fields.keys]
  simp only [own, Fields.keys, List.map_append]
  exact ((((hone _ _ _).append (hone _ _ _)).append (hone _ _ _)).append (hone _ _ _)).append
    (hone _ _ _)

theorem said_lookup_own (o : Options) (key : String) :
    said (o.own.lookup key) = o.own.lookup key := by
  cases hget : o.own.lookup key with
  | none => rfl
  | some value =>
    have hnodup := (keys_own_sublist o).nodup (by decide)
    have hmem := (Fields.lookup_eq_some_iff hnodup).1 hget
    have hvalue : ∀ field ∈ o.own, field.2 ≠ .null := by
      simp only [own, List.forall_mem_append]
      simp
    exact said_of_ne_null (hvalue _ hmem)

theorem reads_iff_said : Reads fields o ↔
    (∀ key ∈ reservedKeys, key ≠ "errors" →
      said (fields.lookup key) = o.own.lookup key) ∧
    readAt ExpectedFailures.ofJson "errors" fields = .ok o.errors ∧
    o.rest = Fields.ofPairs (passing fields) := by
  simp only [reads_iff, readAt_eq_ok_iff inverse_grammar, readAt_eq_ok_iff inverse_offset,
    readAt_eq_ok_iff inverse_path]
  simp [reservedKeys, own, List.lookup_append, Fields.lookup_toList, and_assoc, and_left_comm]

/-- The values that pass through stand in order, none under the key of another option. -/
structure WellFormed (o : Options) : Prop where
  sorted : Fields.Sorted o.rest
  free : ∀ key ∈ reservedKeys, key ∉ Fields.keys o.rest

theorem lookup_ofPairs_passing (hfields : (Fields.keys fields).Nodup) (key : String) :
    (Fields.ofPairs (passing fields)).lookup key =
      if key ∈ reservedKeys then none else fields.lookup key := by
  have hpassing : (Fields.keys (passing fields)).Nodup :=
    hfields.sublist (List.filter_sublist.map Prod.fst)
  rw [Fields.lookup_ofPairs_of_nodup hpassing, passing, Fields.lookup_filter hfields]
  by_cases hkey : key ∈ reservedKeys
  · simp [hkey]
  · cases fields.lookup key <;> simp [hkey]

theorem Reads.congr {other : Fields Json} (h : Reads fields o)
    (hfields : (Fields.keys fields).Nodup) (hother : (Fields.keys other).Nodup)
    (hget : ∀ key, other.lookup key = fields.lookup key) : Reads other o := by
  obtain ⟨htyped, herrors, hrest⟩ := reads_iff_said.1 h
  have hpassing : Fields.ofPairs (passing other) = Fields.ofPairs (passing fields) := by
    refine (Fields.sorted_ofPairs _).ext (Fields.sorted_ofPairs _) fun key => ?_
    rw [lookup_ofPairs_passing hother, lookup_ofPairs_passing hfields, hget]
  refine reads_iff_said.2 ⟨fun key hkey hne => ?_, ?_, hrest.trans hpassing.symm⟩
  · rw [hget, htyped key hkey hne]
  · rwa [readAt, hget, ← readAt]

theorem Reads.wellFormed (hfields : (Fields.keys fields).Nodup) (h : Reads fields o) :
    WellFormed o := by
  refine ⟨h.rest ▸ Fields.sorted_ofPairs _, fun key hkey => ?_⟩
  rw [← Fields.lookup_eq_none_iff, h.rest, lookup_ofPairs_passing hfields, if_pos hkey]

theorem mem_reservedKeys_of_mem_own (h : key ∈ Fields.keys o.own) :
    key ∈ reservedKeys ∧ key ≠ "errors" := by
  have hmem := (keys_own_sublist o).subset h
  simp only [List.mem_cons, List.not_mem_nil, or_false] at hmem
  rcases hmem with rfl | rfl | rfl | rfl | rfl <;> decide

theorem passing_fields (h : WellFormed o) : passing o.fields = o.rest := by
  have hown : passing o.own = [] := by
    refine List.filter_eq_nil_iff.2 fun field hfield => ?_
    simp [(mem_reservedKeys_of_mem_own (List.mem_map_of_mem hfield)).1]
  have hrest : passing o.rest = o.rest := by
    refine List.filter_eq_self.2 fun field hfield => ?_
    have hfree : field.1 ∉ reservedKeys := fun hkey =>
      h.free field.1 hkey (List.mem_map_of_mem hfield)
    simp [hfree]
  rw [fields_eq, passing, List.filter_append, ← passing, ← passing, hown, hrest, List.nil_append]

theorem nodup_fields (h : WellFormed o) : (Fields.keys o.fields).Nodup := by
  have hown := keys_own_sublist o
  rw [fields_eq, Fields.keys, List.map_append, List.nodup_append]
  refine ⟨hown.nodup (by decide), h.sorted.nodup, fun key hkey other hother heq => ?_⟩
  subst heq
  exact h.free key (mem_reservedKeys_of_mem_own hkey).1 hother

theorem reads_fields (h : WellFormed o) : Reads o.fields { o with errors := none } := by
  have hget : ∀ key ∈ reservedKeys, o.fields.lookup key = o.own.lookup key := by
    intro key hkey
    rw [fields_eq, List.lookup_append, Fields.lookup_eq_none_iff.2 (h.free key hkey),
      Option.or_none]
  have herrors : "errors" ∉ Fields.keys o.own := fun hmem =>
    (mem_reservedKeys_of_mem_own hmem).2 rfl
  refine reads_iff_said.2 ⟨fun key hkey _ => ?_, ?_, ?_⟩
  · rw [hget key hkey, said_lookup_own]
    rfl
  · rw [readAt, hget "errors" (by decide), Fields.lookup_eq_none_iff.2 herrors]
  · rw [passing_fields h, h.sorted.ofPairs_eq]

def isKept (field : String × Json) : Bool :=
  field.1 ≠ "errors" && !(reservedKeys.contains field.1 && field.2 == .null)

theorem ofPairs_fields (hfields : Fields.Sorted fields) (h : Reads fields o) :
    Fields.ofPairs o.fields = fields.filter isKept := by
  apply (Fields.sorted_ofPairs o.fields).ext (hfields.filter isKept)
  intro key
  rw [Fields.lookup_ofPairs_of_nodup (nodup_fields (h.wellFormed hfields.nodup)), fields_eq,
    List.lookup_append, Fields.lookup_filter hfields.nodup, h.rest,
    lookup_ofPairs_passing hfields.nodup]
  by_cases hkey : key ∈ reservedKeys
  · rw [if_pos hkey, Option.or_none]
    by_cases herrors : key = "errors"
    · have hown : key ∉ Fields.keys o.own :=
        fun hmem => (mem_reservedKeys_of_mem_own hmem).2 herrors
      rw [Fields.lookup_eq_none_iff.2 hown]
      simp [isKept, herrors]
    · rw [← (reads_iff_said.1 h).1 key hkey herrors, said]
      simp [isKept, herrors, hkey]
  · have hown : key ∉ Fields.keys o.own := fun hmem => hkey (mem_reservedKeys_of_mem_own hmem).1
    have herrors : key ≠ "errors" := fun heq => hkey (heq ▸ by decide)
    rw [if_neg hkey, Fields.lookup_eq_none_iff.2 hown, Option.none_or]
    cases fields.lookup key <;> simp [isKept, herrors, hkey, Option.filter_some]

theorem options_survive_json :
    (∀ fields o, Fields.Sorted fields → ofJson (.object fields) = .ok o → WellFormed o) ∧
    (∀ o, WellFormed o → ofJson o.toJson = .ok { o with errors := none } ∧
      ofJson (.object o.fields) = .ok { o with errors := none }) ∧
    ∀ fields o, Fields.Sorted fields → ofJson (.object fields) = .ok o →
      o.toJson = .object (fields.filter isKept) ∧ o.fields.Perm (fields.filter isKept) := by
  refine ⟨fun fields o hfields h => ?_, fun o h => ⟨?_, ?_⟩, fun fields o hfields h => ?_⟩
  · exact ((ofJson_eq_ok_iff hfields.nodup).1 h).wellFormed hfields.nodup
  · have hsorted := Fields.sorted_ofPairs o.fields
    have hreads := (reads_fields h).congr (nodup_fields h) hsorted.nodup
      (Fields.lookup_ofPairs_of_nodup (nodup_fields h))
    exact (ofJson_eq_ok_iff hsorted.nodup).2 hreads
  · exact (ofJson_eq_ok_iff (nodup_fields h)).2 (reads_fields h)
  · have hreads := (ofJson_eq_ok_iff hfields.nodup).1 h
    have hwritten := ofPairs_fields hfields hreads
    have hperm := Fields.ofPairs_perm (nodup_fields (hreads.wellFormed hfields.nodup))
    rw [hwritten] at hperm
    exact ⟨congrArg Json.object hwritten, hperm.symm⟩

theorem options_survive_json_dropped :
    let fields : Fields Json := [("cursorOffset", .null), ("errors", .bool true),
      ("parser", .string "babel"), ("plugins", .null), ("rangeEnd", .int 7)]
    let o : Options :=
      { parser := some .babel
        errors := some (.all true)
        offsets := { rangeEnd := some 7 }
        rest := [("plugins", .null)] }
    let kept : Fields Json :=
      [("parser", .string "babel"), ("plugins", .null), ("rangeEnd", .int 7)]
    Fields.Sorted fields ∧ ofJson (.object fields) = .ok o ∧ WellFormed o ∧
      ofJson o.toJson = .ok { o with errors := none } ∧
      ofJson (.object o.fields) = .ok { o with errors := none } ∧
      o.toJson = .object kept ∧ o.fields.Perm kept := by
  intro fields o kept
  obtain ⟨hfree, hback, hkept⟩ := options_survive_json
  have hfields : Fields.Sorted fields := by
    rw [Fields.Sorted]
    decide +kernel
  have hread : ofJson (.object fields) = .ok o := by rfl
  have ho : WellFormed o := hfree fields o hfields hread
  obtain ⟨hvalue, hwritten⟩ := hback o ho
  obtain ⟨hjson, hperm⟩ := hkept fields o hfields hread
  exact ⟨hfields, hread, ho, hvalue, hwritten, hjson, hperm⟩

end FormatConformance.Options
