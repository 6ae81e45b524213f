import Mathlib.Data.List.Sort
import VmControl.Codec.Stat
import VmControl.Proofs.Json.Layout
import VmControl.Proofs.Time.Timestamps

/-!
# Statistics that are kept and read again

The statistics of a migration and of a copy are kept as a text. What is read from the text are the
same statistics (`MigrationStat.survives`, `CopyStat.survives`), provided that their points in time
are such as a clock can show (`DatesShown`).

A record is read from the members that are given, in any order and with some of them missing.
`Record.Reads` says what a record that was filled from given members holds; each member of the
statistics is read back from there by the law of its own decoder.
-/

namespace VmControl

/-! ## Records -/

namespace Record

variable {α : Type} {names : List String} {members : List (String × Json)} {r : Record}
  {name : String} {decoder : Decoder α}

theorem lookup_cons_eq {β : Type} (key : String) (first : String × β) (rest : List (String × β)) :
    (first :: rest).lookup key = if key = first.1 then some first.2 else rest.lookup key :=
  OrderedMap.lookup_cons_eq key first rest

/-- A slot that is filled shows its entry, and every other one what it showed before. -/
theorem lookup_fill (key : String) (entry : Nat × Draft)
    (slots : List (String × Option (Nat × Draft))) :
    (slots.map fun slot => if slot.1 = key then (key, some entry) else slot).lookup name =
      if name = key then (slots.lookup name).map fun _ => some entry else slots.lookup name := by
  induction slots with
  | nil =>
    split <;> rfl
  | cons slot rest ih =>
    rw [List.map_cons, lookup_cons_eq, lookup_cons_eq, ih]
    by_cases own : slot.1 = key
    · rw [if_pos own, own]
      split <;> rfl
    · rw [if_neg own]
      split
      · next here =>
        rw [here, if_neg own]
      · rfl

/-- Members of different declared names fill their slots and no others. -/
theorem fill_spec (names : List String) {members : List (String × Json)} :
    ∀ (index : Nat) (r : Record), (members.map (·.1)).Nodup →
    (∀ key ∈ members.map (·.1), key ∈ names ∧ r.slots.lookup key = some none) →
    (fill names index (membersToDraft members) r).trouble = r.trouble ∧
    (∀ name v, (name, v) ∈ members →
      ∃ i, (fill names index (membersToDraft members) r).slot name = some (i, v.toDraft)) ∧
    ∀ name, name ∉ members.map (·.1) →
      (fill names index (membersToDraft members) r).slot name = r.slot name := by
  induction members with
  | nil =>
    intro _ _ _ _
    rw [membersToDraft, fill]
    exact ⟨rfl, fun _ _ listed => absurd listed List.not_mem_nil, fun _ _ => rfl⟩
  | cons member rest ih =>
    obtain ⟨key, v⟩ := member
    intro index r distinct free
    rw [List.map_cons, List.nodup_cons] at distinct
    obtain ⟨declared, empty⟩ := free key List.mem_cons_self
    have contained : names.contains key = true := List.contains_iff_mem.mpr declared
    obtain ⟨next, same⟩ : ∃ next : Record, next =
      { r with slots := r.slots.map fun slot =>
          if slot.1 = key then (key, some (index, v.toDraft)) else slot } := ⟨_, rfl⟩
    have step : fill names index (membersToDraft ((key, v) :: rest)) r =
        fill names (index + 1) (membersToDraft rest) next := by
      rw [membersToDraft, fill]
      simp only [contained, if_true, empty, same]
    have slots (name : String) : next.slots.lookup name =
        if name = key then (r.slots.lookup name).map fun _ => some (index, v.toDraft)
        else r.slots.lookup name := by
      rw [same]
      exact lookup_fill key _ r.slots
    have others : ∀ name ∈ rest.map (·.1), name ∈ names ∧ next.slots.lookup name = some none := by
      intro name listed
      have apart : name ≠ key := fun same => distinct.1 (same ▸ listed)
      rw [slots, if_neg apart]
      exact free name (List.mem_cons_of_mem _ listed)
    obtain ⟨clean, given, missing⟩ := ih (index + 1) next distinct.2 others
    rw [step]
    refine ⟨by rw [clean, same], fun name w listed => ?_, fun name absent => ?_⟩
    · rcases List.mem_cons.mp listed with first | later
      · cases first
        refine ⟨index, ?_⟩
        rw [missing key distinct.1, slot, slots, if_pos rfl, empty]
        rfl
      · exact given name w later
    · rw [List.map_cons, List.mem_cons, not_or] at absent
      rw [missing name absent.2, slot, slots, if_neg absent.1, slot]

/-- A record holds what the members say, and nothing else. -/
structure Reads (r : Record) (members : List (String × Json)) : Prop where
  clean : r.trouble = none
  given : ∀ name v, (name, v) ∈ members → ∃ i, r.slot name = some (i, v.toDraft)
  missing : ∀ name, name ∉ members.map (·.1) → r.slot name = none

theorem lookup_empty (listed : name ∈ names) :
    (names.map fun n => (n, (none : Option (Nat × Draft)))).lookup name = some none := by
  induction names with
  | nil => cases listed
  | cons first rest ih =>
    rw [List.map_cons, lookup_cons_eq]
    split
    · rfl
    · next other => exact ih ((List.mem_cons.mp listed).resolve_left other)

theorem slot_empty (names : List String) (name : String) :
    ((names.map fun n => (n, (none : Option (Nat × Draft)))).lookup name).join = none := by
  induction names with
  | nil => rfl
  | cons first rest ih =>
    rw [List.map_cons, lookup_cons_eq]
    split
    · rfl
    · exact ih

/-- Some of the declared members, in the declared order, make a record. -/
theorem ofDraft_obj (distinct : names.Nodup) (some : (members.map (·.1)).Sublist names) :
    ∃ r, ofDraft names (Json.obj members).toDraft = .value r ∧ r.Reads members := by
  rw [Json.toDraft, ofDraft, if_pos rfl]
  refine ⟨_, rfl, ?_⟩
  obtain ⟨clean, given, missing⟩ := fill_spec names 0
    ⟨names.map fun n => (n, none), (membersToDraft members).length, none⟩ (distinct.sublist some)
    fun key listed => ⟨some.subset listed, lookup_empty (some.subset listed)⟩
  exact ⟨clean, given, fun name absent => (missing name absent).trans (slot_empty names name)⟩

theorem Reads.required {v : Json} {a : α} (reads : r.Reads members) (listed : (name, v) ∈ members)
    (decodes : decoder v.toDraft = .value a) : r.required name decoder = .value a := by
  obtain ⟨i, slot⟩ := reads.given name v listed
  simp only [Record.required, slot, decodes, Decoded.inside]

theorem Reads.optional (encode : α → Json) {o : Option α} (reads : r.Reads members)
    (listed : ∀ a, o = some a → (name, encode a) ∈ members)
    (absent : o = none → name ∉ members.map (·.1))
    (decodes : ∀ a, o = some a → Decode.nullable decoder (encode a).toDraft = .value (some a)) :
    r.optional name decoder = .value o := by
  cases o with
  | none => simp only [Record.optional, withDefault, reads.missing name (absent rfl)]
  | some a =>
    obtain ⟨i, slot⟩ := reads.given name _ (listed a rfl)
    simp only [Record.optional, withDefault, slot, decodes a rfl, Decoded.inside]

end Record

/-! ## Values -/

namespace Json

variable {α : Type} {encode : α → Json}

theorem plain_str (s : String) : (str s).Plain := trivial

theorem plain_nat {n : Nat} (word : n < UInt64.size) : (nat n).Plain :=
  ⟨Int.natCast_nonneg n, Int.ofNat_lt.mpr word⟩

theorem plain_word (n : UInt64) : (word n).Plain := plain_nat n.toNat_lt

theorem plainMembers_append {first rest : List (String × Json)} (left : PlainMembers first)
    (right : PlainMembers rest) : PlainMembers (first ++ rest) := by
  induction first with
  | nil => exact right
  | cons member others ih => exact ⟨left.1, ih left.2⟩

theorem plain_ofMap (plain : ∀ a, (encode a).Plain) (m : OrderedMap α) :
    (ofMap encode m).Plain := by
  have members (entries : List (String × α)) :
      PlainMembers (entries.map fun entry => (entry.1, encode entry.2)) := by
    induction entries with
    | nil => trivial
    | cons entry rest ih => exact ⟨plain entry.2, ih⟩
  exact members m.entries

theorem plainMembers_given {name : String} (plain : ∀ a, (encode a).Plain) (o : Option α) :
    PlainMembers (given name encode o) := by
  cases o with
  | none => trivial
  | some a => exact ⟨plain a, trivial⟩

theorem sublist_given (name : String) (o : Option α) :
    ((given name encode o).map (·.1)).Sublist [name] := by
  cases o with
  | none => exact List.nil_sublist _
  | some a => exact .refl _

end Json

/-- A map is made of its own entries. -/
theorem OrderedMap.ofList_entries {α : Type} (m : OrderedMap α) : ofList m.entries = m := by
  have distinct : (m.entries.map (·.1)).Nodup := by
    refine List.pairwise_map.mpr (m.sorted.imp fun {a b} less same => ?_)
    rw [same] at less
    exact String.lt_irrefl _ less
  have same : (ofList m.entries).entries = m.entries := by
    refine (entries_ofList distinct).eq_of_pairwise (fun a b _ _ less more => ?_) (ofList _).sorted
      m.sorted
    exact absurd (String.lt_trans less more) (String.lt_irrefl _)
  cases made : ofList m.entries
  rw [made] at same
  cases m
  cases same
  rfl

namespace Decode

variable {α : Type} {encode : α → Json} {decoder : Decoder α}

theorem whole_nat {n limit : Nat} (below : n < limit) :
    whole 0 limit (Json.nat n).toDraft = .value (n : Int) := by
  rw [Json.nat, Json.toDraft, whole, if_pos ⟨Int.natCast_nonneg n, Int.ofNat_lt.mpr below⟩]

theorem word64_word (n : UInt64) : word64 (Json.word n).toDraft = .value n := by
  rw [word64, Json.word, whole_nat n.toNat_lt_size, Decoded.map, Int.toNat_natCast,
    UInt64.ofNat_toNat]

theorem byte_nat (n : UInt8) : byte (Json.nat n.toNat).toDraft = .value n := by
  rw [byte, whole_nat n.toNat_lt_size, Decoded.map, Int.toNat_natCast, UInt8.ofNat_toNat]

theorem membersFrom_map (reads : ∀ a, decoder (encode a).toDraft = .value a)
    (entries : List (String × α)) (index : Nat) :
    membersFrom decoder true index
        (membersToDraft (entries.map fun entry => (entry.1, encode entry.2))) = .value entries := by
  induction entries generalizing index with
  | nil => rfl
  | cons entry rest ih =>
    rw [List.map_cons, membersToDraft, membersFrom, reads, ih]
    rfl

theorem map_ofMap (reads : ∀ a, decoder (encode a).toDraft = .value a) (m : OrderedMap α) :
    map decoder (Json.ofMap encode m).toDraft = .value m := by
  rw [Json.ofMap, Json.toDraft, map, membersFrom_map reads, Decoded.map, m.ofList_entries]

/-- A record is read from some of its members, in the declared order. -/
theorem record_obj {names : List String} {members : List (String × Json)}
    {build : Record → Decoded α} {a : α} (distinct : names.Nodup)
    (some : (members.map (·.1)).Sublist names)
    (builds : ∀ r : Record, r.Reads members → build r = .value a) :
    record names build (Json.obj members).toDraft = .value a := by
  obtain ⟨r, drafted, reads⟩ := Record.ofDraft_obj distinct some
  rw [record, drafted]
  dsimp only
  rw [Record.close, reads.clean]
  exact builds r reads

/-- A record is read from its text as it was, whether the text is one line or laid out. -/
structure Survives (encode : α → Json) (decoder : Decoder α) (a : α) : Prop where
  line : ofText decoder (encode a).render = .ok a
  lines : ofText decoder (encode a).layout = .ok a

theorem Survives.of_reads {a : α} (plain : (encode a).Plain)
    (reads : decoder (encode a).toDraft = .value a) : Survives encode decoder a where
  line := by
    rw [ofText, Reader.readText_render plain, ofReading, reads]
    rfl
  lines := by
    rw [ofText, Reader.readText_layout plain, ofReading, reads]
    rfl

end Decode

/-! ## Statistics -/

theorem TaskStatus.ofDraft_toJson (s : TaskStatus) : ofDraft s.toJson.toDraft = .value s := by
  cases s <;> rfl

theorem Progress.ofDraft_toJson (p : Progress) : ofDraft p.toJson.toDraft = .value p := by
  refine Decode.record_obj (by decide) (.refl _) fun r reads => ?_
  rw [reads.required (by simp) (Decode.word64_word p.total),
    reads.required (by simp) (Decode.word64_word p.remaining),
    reads.required (by simp) (Decode.word64_word p.transferred),
    reads.required (by simp) (Decode.byte_nat p.percent),
    reads.required (by simp) (Decode.word64_word p.speedMbps)]
  rfl

theorem Timestamp.nullable_toJson {t : Timestamp} (valid : t.Valid) :
    Decode.nullable Timestamp.ofDraft t.toJson.toDraft = .value (some t) := by
  rw [toJson, Json.toDraft]
  simp only [Decode.nullable, ofDraft, Decode.text, Decoded.refine, ofText?_text valid, Decoded.map]

/-- The points in time of a report, as far as it has them, are such as a clock can show. -/
structure DatesShown (started finished : Option Timestamp) : Prop where
  started : ∀ t, started = some t → t.Valid
  finished : ∀ t, finished = some t → t.Valid

/-- The last members of a report, which are left out when there is nothing to say, are read back. -/
theorem Record.Reads.ending {r : Record} {fixed : List (String × Json)} {error : Option String}
    {started finished : Option Timestamp}
    (reads : r.Reads (fixed ++ Json.given "error" .str error ++
      Json.given "started_at" Timestamp.toJson started ++
      Json.given "finished_at" Timestamp.toJson finished))
    (apart : ∀ name ∈ ["error", "started_at", "finished_at"], name ∉ fixed.map (·.1))
    (shown : DatesShown started finished) :
    r.optional "error" Decode.text = .value error ∧
      r.optional "started_at" Timestamp.ofDraft = .value started ∧
      r.optional "finished_at" Timestamp.ofDraft = .value finished := by
  have others : ("error" ∉ fixed.map (·.1)) ∧ ("started_at" ∉ fixed.map (·.1)) ∧
      "finished_at" ∉ fixed.map (·.1) := by simpa using apart
  refine ⟨reads.optional Json.str ?_ ?_ fun a _ => rfl,
    reads.optional Timestamp.toJson ?_ ?_ fun t some =>
      Timestamp.nullable_toJson (shown.started t some),
    reads.optional Timestamp.toJson ?_ ?_ fun t some =>
      Timestamp.nullable_toJson (shown.finished t some)⟩
  · intro a some
    simp [some, Json.given]
  · intro none
    cases started <;> cases finished <;> simpa [none, Json.given] using others.1
  · intro t some
    simp [some, Json.given]
  · intro none
    cases error <;> cases finished <;> simpa [none, Json.given] using others.2.1
  · intro t some
    simp [some, Json.given]
  · intro none
    cases error <;> cases started <;> simpa [none, Json.given] using others.2.2

/-- The members of a report come in the declared order. -/
theorem Json.sublist_ending (fixed : List (String × Json)) (error : Option String)
    (started finished : Option Timestamp) :
    ((fixed ++ given "error" .str error ++ given "started_at" Timestamp.toJson started ++
      given "finished_at" Timestamp.toJson finished).map (·.1)).Sublist
      (fixed.map (·.1) ++ ["error"] ++ ["started_at"] ++ ["finished_at"]) := by
  rw [List.map_append, List.map_append, List.map_append]
  exact (((List.Sublist.refl _).append (sublist_given "error" error)).append
    (sublist_given "started_at" started)).append (sublist_given "finished_at" finished)

theorem Json.plain_ending {fixed : List (String × Json)} (plain : PlainMembers fixed)
    (error : Option String) (started finished : Option Timestamp) :
    PlainMembers (fixed ++ given "error" .str error ++
      given "started_at" Timestamp.toJson started ++
      given "finished_at" Timestamp.toJson finished) :=
  plainMembers_append
    (plainMembers_append (plainMembers_append plain (plainMembers_given plain_str error))
      (plainMembers_given (fun t => plain_str t.text) started))
    (plainMembers_given (fun t => plain_str t.text) finished)

theorem Progress.plain_toJson (p : Progress) : p.toJson.Plain := by
  have percent : p.percent.toNat < UInt64.size := Nat.lt_trans p.percent.toNat_lt (by decide)
  exact ⟨Json.plain_word _, Json.plain_word _, Json.plain_word _, Json.plain_nat percent,
    Json.plain_word _, trivial⟩

namespace MigrationStat

abbrev Dated (s : MigrationStat) : Prop := DatesShown s.startedAt s.finishedAt

theorem plain_toJson (s : MigrationStat) : s.toJson.Plain := by
  have fixed : Json.PlainMembers [("dst_server", .str s.dstServer), ("status", s.status.toJson),
      ("qemu", s.state.toJson), ("disks", .ofMap Progress.toJson s.disks)] :=
    ⟨trivial, trivial, s.state.plain_toJson, Json.plain_ofMap Progress.plain_toJson s.disks,
      trivial⟩
  exact Json.plain_ending fixed s.error s.startedAt s.finishedAt

theorem ofDraft_toJson {s : MigrationStat} (dated : s.Dated) :
    ofDraft s.toJson.toDraft = .value s := by
  refine Decode.record_obj (by decide) (Json.sublist_ending _ s.error s.startedAt s.finishedAt)
    fun r reads => ?_
  obtain ⟨error, started, finished⟩ := reads.ending (by simp) dated
  rw [reads.required (by simp) (show Decode.text (Json.str s.dstServer).toDraft = _ from rfl),
    reads.required (by simp) s.status.ofDraft_toJson,
    reads.required (by simp) s.state.ofDraft_toJson,
    reads.required (by simp) (Decode.map_ofMap Progress.ofDraft_toJson s.disks), error, started,
    finished]
  rfl

theorem survives {s : MigrationStat} (dated : s.Dated) : Decode.Survives toJson ofDraft s :=
  .of_reads s.plain_toJson (ofDraft_toJson dated)

end MigrationStat

namespace CopyStat

abbrev Dated (s : CopyStat) : Prop := DatesShown s.startedAt s.finishedAt

theorem plain_toJson (s : CopyStat) : s.toJson.Plain := by
  have fixed : Json.PlainMembers [("disk", .str s.disk), ("target", .str s.target),
      ("status", s.status.toJson), ("progress", s.progress.toJson)] :=
    ⟨trivial, trivial, trivial, s.progress.plain_toJson, trivial⟩
  exact Json.plain_ending fixed s.error s.startedAt s.finishedAt

theorem ofDraft_toJson {s : CopyStat} (dated : s.Dated) : ofDraft s.toJson.toDraft = .value s := by
  refine Decode.record_obj (by decide) (Json.sublist_ending _ s.error s.startedAt s.finishedAt)
    fun r reads => ?_
  obtain ⟨error, started, finished⟩ := reads.ending (by simp) dated
  rw [reads.required (by simp) (show Decode.text (Json.str s.disk).toDraft = _ from rfl),
    reads.required (by simp) (show Decode.text (Json.str s.target).toDraft = _ from rfl),
    reads.required (by simp) s.status.ofDraft_toJson,
    reads.required (by simp) s.progress.ofDraft_toJson, error, started, finished]
  rfl

theorem survives {s : CopyStat} (dated : s.Dated) : Decode.Survives toJson ofDraft s :=
  .of_reads s.plain_toJson (ofDraft_toJson dated)

end CopyStat

end VmControl
