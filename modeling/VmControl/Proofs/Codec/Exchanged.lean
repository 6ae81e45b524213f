import VmControl.Codec.Options
import VmControl.Proofs.Codec.Kept
import VmControl.Proofs.Net.Addresses

/-!
# Records that are exchanged and read again

Options, disks, statistics and the configuration are written as data, on one line where they are
exchanged and laid out where they are kept. All of them are read again as they were
(`Decode.every_record_survives`): members that are left out stand for what was there, and texts,
numbers, addresses and points in time are what they were.

Each record is read member by member (`Decode.record_obj`) by the laws of the decoders of its
members: a list by that of its items (`Decode.list_arr`), a map by that of its values
(`Decode.map_ofMap`).
-/

namespace VmControl

namespace Record.Reads

variable {α : Type} {members : List (String × Json)} {r : Record} {name : String}
  {decoder : Decoder α} {default : α}

theorem withDefault {v : Json} {a : α} (reads : r.Reads members) (listed : (name, v) ∈ members)
    (decodes : decoder v.toDraft = .value a) : r.withDefault name decoder default = .value a := by
  obtain ⟨i, slot⟩ := reads.given name v listed
  simp only [Record.withDefault, slot, decodes, Decoded.inside]

theorem withDefault_missing (reads : r.Reads members) (absent : name ∉ members.map (·.1)) :
    r.withDefault name decoder default = .value default := by
  simp only [Record.withDefault, reads.missing name absent]

end Record.Reads

namespace Json

variable {α : Type} {encode : α → Json}

theorem plain_arr (plain : ∀ a, (encode a).Plain) (items : List α) :
    (arr (items.map encode)).Plain := by
  have each (items : List α) : PlainItems (items.map encode) := by
    induction items with
    | nil => trivial
    | cons item rest ih => exact ⟨plain item, ih⟩
  exact each items

theorem plain_bytesToJson (bytes : List UInt8) : (bytesToJson bytes).Plain :=
  plain_arr (fun b => plain_nat (Nat.lt_trans b.toNat_lt (by decide))) bytes

end Json

namespace Decode

variable {α : Type} {encode : α → Json} {decoder : Decoder α}

theorem text_str (s : String) : text (Json.str s).toDraft = .value s := rfl

theorem flag_bool (b : Bool) : flag (Json.bool b).toDraft = .value b := rfl

theorem word32_nat (n : UInt32) : word32 (Json.nat n.toNat).toDraft = .value n := by
  rw [word32, whole_nat n.toNat_lt_size, Decoded.map, Int.toNat_natCast, UInt32.ofNat_toNat]

theorem word16_nat (n : UInt16) : word16 (Json.nat n.toNat).toDraft = .value n := by
  rw [word16, whole_nat n.toNat_lt_size, Decoded.map, Int.toNat_natCast, UInt16.ofNat_toNat]

theorem itemsFrom_map (reads : ∀ a, decoder (encode a).toDraft = .value a) (items : List α)
    (index : Nat) : itemsFrom decoder true index (itemsToDraft (items.map encode)) =
      .value items := by
  induction items generalizing index with
  | nil => rfl
  | cons item rest ih =>
    rw [List.map_cons, itemsToDraft, itemsFrom, reads, ih]
    rfl

theorem list_arr (reads : ∀ a, decoder (encode a).toDraft = .value a) (items : List α) :
    list decoder (Json.arr (items.map encode)).toDraft = .value items := by
  rw [Json.toDraft, list, itemsFrom_map reads]

theorem list_texts (items : List String) : list text (Json.texts items).toDraft = .value items :=
  list_arr text_str items

theorem list_bytesToJson (bytes : List UInt8) :
    list byte (bytesToJson bytes).toDraft = .value bytes :=
  list_arr byte_nat bytes

/-- An object is not taken for nothing. -/
theorem nullable_obj {members : List (String × Json)} {a : α}
    (reads : decoder (Json.obj members).toDraft = .value a) :
    nullable decoder (Json.obj members).toDraft = .value (some a) := by
  rw [Json.toDraft] at reads ⊢
  simp only [nullable, reads, Decoded.map]

end Decode

/-! ## Disks and addresses -/

theorem DiskBackend.ofDraft_toJson (b : DiskBackend) : ofDraft b.toJson.toDraft = .value b := by
  cases b <;> rfl

namespace Disk

theorem plain_toJson (d : Disk) : d.toJson.Plain :=
  ⟨trivial, trivial, trivial, Json.plain_word _, Json.plain_arr Json.plain_str d.bitmaps, trivial⟩

theorem ofDraft_toJson (d : Disk) : ofDraft d.toJson.toDraft = .value d := by
  refine Decode.record_obj (by decide) (.refl _) fun r reads => ?_
  rw [reads.required (by simp) (Decode.text_str d.path),
    reads.required (by simp) (Decode.text_str d.device),
    reads.required (by simp) d.backend.ofDraft_toJson,
    reads.required (by simp) (Decode.word64_word d.virtualSize),
    reads.withDefault (by simp) (Decode.list_texts d.bitmaps)]
  rfl

end Disk

theorem IpAddress.plain_toJson (a : IpAddress) : a.toJson.Plain := trivial

theorem IpAddress.ofDraft_toJson (a : IpAddress) : ofDraft a.toJson.toDraft = .value a := by
  rw [toJson, Json.toDraft]
  simp only [ofDraft, Decode.text, Decoded.refine, ofText?_text]

/-! ## Options -/

namespace Overrides

/-- Renames of disks are left out when there are none. -/
def diskMembers (o : Overrides) : List (String × Json) :=
  if o.disks.isEmpty then [] else [("disks", .ofMap .str o.disks)]

theorem toJson_eq (o : Overrides) :
    o.toJson = .obj (Json.given "vm_name" .str o.vmName ++ o.diskMembers) := by
  unfold toJson
  cases o.vmName <;> rfl

theorem sublist_diskMembers (o : Overrides) : (o.diskMembers.map (·.1)).Sublist ["disks"] := by
  unfold diskMembers
  split
  · exact List.nil_sublist _
  · exact .refl _

theorem plain_toJson (o : Overrides) : o.toJson.Plain := by
  have disks : Json.PlainMembers o.diskMembers := by
    unfold diskMembers
    split
    · trivial
    · exact ⟨Json.plain_ofMap Json.plain_str o.disks, trivial⟩
  rw [toJson_eq]
  exact Json.plainMembers_append (Json.plainMembers_given Json.plain_str o.vmName) disks

theorem ofDraft_toJson (o : Overrides) : ofDraft o.toJson.toDraft = .value o := by
  rw [toJson_eq]
  refine Decode.record_obj (by decide) ?_ fun r reads => ?_
  · rw [List.map_append]
    exact (Json.sublist_given "vm_name" o.vmName).append o.sublist_diskMembers
  have name : r.optional "vm_name" Decode.text = .value o.vmName := by
    refine reads.optional Json.str (fun name some => ?_) (fun none there => ?_) fun _ _ => rfl
    · simp [some, Json.given]
    · rw [none, Json.given, List.nil_append] at there
      exact absurd (o.sublist_diskMembers.subset there) (by decide)
  have disks : r.withDefault "disks" (Decode.map Decode.text) .empty = .value o.disks := by
    cases none : o.disks.isEmpty with
    | true =>
      have empty : o.disks = .empty := by
        obtain ⟨_, ⟨entries, _⟩⟩ := o
        obtain rfl := List.isEmpty_iff.mp none
        rfl
      rw [empty]
      refine reads.withDefault_missing fun there => ?_
      rw [diskMembers, if_pos none, List.append_nil] at there
      exact absurd ((Json.sublist_given "vm_name" o.vmName).subset there) (by decide)
    | false =>
      refine reads.withDefault ?_ (Decode.map_ofMap Decode.text_str o.disks)
      simp [diskMembers, none]
  rw [name, disks]
  rfl

end Overrides

namespace MigrationOptions

theorem plain_toJson (o : MigrationOptions) : o.toJson.Plain :=
  ⟨trivial, trivial, Json.plain_arr IpAddress.plain_toJson o.dstAddrs,
    Json.plain_bytesToJson o.manifest, Json.plain_ofMap Json.plain_bytesToJson o.extraFiles,
    Json.plain_arr Disk.plain_toJson o.disks, o.overrides.plain_toJson, trivial⟩

theorem ofDraft_toJson (o : MigrationOptions) : ofDraft o.toJson.toDraft = .value o := by
  refine Decode.record_obj (by decide) (.refl _) fun r reads => ?_
  rw [reads.required (by simp) (Decode.text_str o.vmName),
    reads.required (by simp) (Decode.text_str o.dstServer),
    reads.required (by simp) (Decode.list_arr IpAddress.ofDraft_toJson o.dstAddrs),
    reads.required (by simp) (Decode.list_bytesToJson o.manifest),
    reads.withDefault (by simp) (Decode.map_ofMap Decode.list_bytesToJson o.extraFiles),
    reads.withDefault (by simp) (Decode.list_arr Disk.ofDraft_toJson o.disks),
    reads.withDefault (by simp) o.overrides.ofDraft_toJson]
  rfl

end MigrationOptions

namespace Confinement

theorem plain_toJson (c : Confinement) : c.toJson.Plain :=
  ⟨trivial, Json.plain_nat (Nat.lt_trans c.uid.toNat_lt (by decide)),
    Json.plain_nat (Nat.lt_trans c.gid.toNat_lt (by decide)), trivial⟩

theorem ofDraft_toJson (c : Confinement) : ofDraft c.toJson.toDraft = .value c := by
  refine Decode.record_obj (by decide) (.refl _) fun r reads => ?_
  rw [reads.required (by simp) (Decode.text_str c.root),
    reads.required (by simp) (Decode.word32_nat c.uid),
    reads.required (by simp) (Decode.word32_nat c.gid)]
  rfl

end Confinement

namespace CopyOptions

/-- The members that are always there. -/
def fixedMembers (o : CopyOptions) : List (String × Json) :=
  [("vm_name", .str o.vmName), ("disk", o.disk.toJson), ("target", .str o.target),
    ("reset_bitmap", .bool o.resetBitmap), ("bitmap_name", .str o.bitmapName)]

theorem toJson_eq (o : CopyOptions) :
    o.toJson = .obj (o.fixedMembers ++ Json.given "chroot" Confinement.toJson o.confinement) := by
  unfold toJson
  cases o.confinement <;> rfl

theorem plain_toJson (o : CopyOptions) : o.toJson.Plain := by
  have fixed : Json.PlainMembers o.fixedMembers :=
    ⟨trivial, o.disk.plain_toJson, trivial, trivial, trivial, trivial⟩
  rw [toJson_eq]
  exact Json.plainMembers_append fixed
    (Json.plainMembers_given Confinement.plain_toJson o.confinement)

theorem ofDraft_toJson (o : CopyOptions) : ofDraft o.toJson.toDraft = .value o := by
  rw [toJson_eq]
  refine Decode.record_obj (by decide) ?_ fun r reads => ?_
  · rw [List.map_append]
    exact (List.Sublist.refl _).append (Json.sublist_given "chroot" o.confinement)
  have confinement : r.optional "chroot" Confinement.ofDraft = .value o.confinement := by
    refine reads.optional Confinement.toJson (fun c some => ?_) (fun none => ?_) fun c _ => ?_
    · simp [some, Json.given]
    · simp [none, Json.given, fixedMembers]
    · exact Decode.nullable_obj c.ofDraft_toJson
  rw [reads.required (by simp [fixedMembers]) (Decode.text_str o.vmName),
    reads.required (by simp [fixedMembers]) o.disk.ofDraft_toJson,
    reads.required (by simp [fixedMembers]) (Decode.text_str o.target),
    reads.withDefault (by simp [fixedMembers]) (Decode.flag_bool o.resetBitmap),
    reads.required (by simp [fixedMembers]) (Decode.text_str o.bitmapName), confinement]
  rfl

end CopyOptions

/-! ## The configuration -/

namespace Config

theorem plain_toJson (c : Config) : c.toJson.Plain :=
  ⟨trivial, trivial, Json.plain_word _, Json.plain_word _, Json.plain_word _, Json.plain_word _,
    Json.plain_word _, Json.plain_word _, Json.plain_word _, Json.plain_word _,
    Json.plain_nat (Nat.lt_trans c.peerPort.toNat_lt (by decide)), trivial⟩

theorem ofDraft_toJson (c : Config) : ofDraft c.toJson.toDraft = .value c := by
  refine Decode.record_obj (by decide) (.refl _) fun r reads => ?_
  rw [reads.withDefault (by simp) (Decode.text_str c.socketDir),
    reads.withDefault (by simp) (Decode.text_str c.stateDir),
    reads.withDefault (by simp) (Decode.word64_word c.pollInterval),
    reads.withDefault (by simp) (Decode.word64_word c.jobStartTimeout),
    reads.withDefault (by simp) (Decode.word64_word c.jobFinishTimeout),
    reads.withDefault (by simp) (Decode.word64_word c.connectTimeout),
    reads.withDefault (by simp) (Decode.word64_word c.remoteTimeout),
    reads.withDefault (by simp) (Decode.word64_word c.incomingTimeout),
    reads.withDefault (by simp) (Decode.word64_word c.maxBandwidth),
    reads.withDefault (by simp) (Decode.word64_word c.cacheSize),
    reads.withDefault (by simp) (Decode.word16_nat c.peerPort)]
  rfl

end Config

/-! ## All records -/

/-- In the years that are written with four digits a clock shows every second, with its fraction. -/
theorem Timestamp.Valid.of_years {t : Timestamp}
    (first : Civil.yearStart 0 * Timestamp.daySeconds ≤ t.seconds)
    (last : t.seconds < Civil.yearStart 10000 * Timestamp.daySeconds)
    (nanos : t.nanos < 1000000000) :
    t.Valid := by
  have early : Civil.yearStart Timestamp.leastYear ≤ Civil.yearStart 0 := by decide
  have late : Civil.yearStart 10000 ≤ Civil.yearStart (Timestamp.greatestYear + 1) := by decide
  refine ⟨Bool.and_eq_true_iff.mpr ⟨decide_eq_true ?_, decide_eq_true ?_⟩, Or.inl nanos⟩
  · simp only [Timestamp.daySeconds] at first ⊢
    omega
  · simp only [Timestamp.daySeconds] at last ⊢
    omega

/-- Every record is read from its text as it was. Statistics have to name points in time that a
clock can show. -/
theorem Decode.every_record_survives :
    (∀ d : Disk, Survives Disk.toJson Disk.ofDraft d) ∧
    (∀ o : Overrides, Survives Overrides.toJson Overrides.ofDraft o) ∧
    (∀ o : MigrationOptions, Survives MigrationOptions.toJson MigrationOptions.ofDraft o) ∧
    (∀ o : CopyOptions, Survives CopyOptions.toJson CopyOptions.ofDraft o) ∧
    (∀ p : Progress, Survives Progress.toJson Progress.ofDraft p) ∧
    (∀ s : MigrationStat, s.Dated → Survives MigrationStat.toJson MigrationStat.ofDraft s) ∧
    (∀ s : CopyStat, s.Dated → Survives CopyStat.toJson CopyStat.ofDraft s) ∧
    ∀ c : Config, Survives Config.toJson Config.ofDraft c :=
  ⟨fun d => .of_reads d.plain_toJson d.ofDraft_toJson,
    fun o => .of_reads o.plain_toJson o.ofDraft_toJson,
    fun o => .of_reads o.plain_toJson o.ofDraft_toJson,
    fun o => .of_reads o.plain_toJson o.ofDraft_toJson,
    fun p => .of_reads p.plain_toJson p.ofDraft_toJson,
    fun _ dated => MigrationStat.survives dated, fun _ dated => CopyStat.survives dated,
    fun c => .of_reads c.plain_toJson c.ofDraft_toJson⟩

namespace Sample

/-- A migration to addresses of both families, with a file and a new name. -/
def exchanged : MigrationOptions :=
  { vmName := "web"
    dstServer := "backup"
    dstAddrs := [.v4 10 0 0 2, .v6 ⟨[0x2001, 0xdb8, 0, 0, 1, 0, 0, 2], rfl⟩]
    manifest := [123, 125]
    extraFiles := .ofList [("notes", [0, 255])]
    disks := [⟨"/dev/vg/root", "drive0", .localStorage, 4096, ["nightly"]⟩]
    overrides := ⟨some "web-new", .empty⟩ }

/-- A migration that has failed, with a quote and a line break in its wording. -/
def failedReport : MigrationStat :=
  { dstServer := "backup"
    status := .failed
    state := ⟨0xffffffffffffffff, 0, 0xffffffffffffffff, 100, 7⟩
    disks := .ofList [("/dev/vg/root", .initial)]
    error := some "cannot read \x22root\x22\nµ"
    startedAt := some ⟨1700000000, 123456789⟩
    finishedAt := none }

/-- A copy that goes on. -/
def openReport : CopyStat :=
  ⟨"/dev/vg/root", "/backup/root", .inProgress, .initial, none, some ⟨1700000000, 1⟩, none⟩

theorem exchanged_survive :
    failedReport.Dated ∧ openReport.Dated ∧
    Decode.ofText MigrationOptions.ofDraft exchanged.toJson.render = .ok exchanged ∧
    Decode.ofText MigrationStat.ofDraft failedReport.toJson.layout = .ok failedReport ∧
    Decode.ofText CopyStat.ofDraft openReport.toJson.layout = .ok openReport := by
  have began (n : Nat) (small : n < 1000000000) (t : Timestamp)
      (same : some (⟨1700000000, n⟩ : Timestamp) = some t) : t.Valid := by
    have first : Civil.yearStart 0 * Timestamp.daySeconds ≤ 1700000000 := by decide
    have last : 1700000000 < Civil.yearStart 10000 * Timestamp.daySeconds := by decide
    cases same
    exact .of_years first last small
  have failed : failedReport.Dated := ⟨began 123456789 (by decide), nofun⟩
  have going : openReport.Dated := ⟨began 1 (by decide), nofun⟩
  obtain ⟨-, -, options, -, -, migration, copy, -⟩ := Decode.every_record_survives
  exact ⟨failed, going, (options exchanged).line, (migration failedReport failed).lines,
    (copy openReport going).lines⟩

end Sample

end VmControl
