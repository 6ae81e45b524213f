import Mathlib.Data.List.Forall2
import VmControl.Peer.Client
import VmControl.Proofs.Codec.Kept
import VmControl.Proofs.Json.Recognition
import VmControl.Proofs.Text.Base64
import VmControl.Proofs.Text.Utf8

/-!
# Manifests on their way to the receiving host

The requests that create a machine, at rest or waiting for its state, carry the manifest and the
files that go along. What they carry is told by the grammar of data texts and the bits of the bytes,
so that neither the writer nor a reader of the body is part of it.

* `Manifest.Carried`: bytes are a body that carries a manifest and its files.
* `Manifest.ofPayload`: how a receiver reads a body.
* `Manifest.lossless`: a body carries what was sent and nothing else, and is read as what was sent.
-/

namespace VmControl

namespace Manifest

/-- The members of a body, in which bytes stand as texts. -/
def bodyOf (manifest : String) (files : List (String × String)) : Json :=
  .obj [("manifest", .str manifest),
    ("extra_files", .obj (files.map fun file => (file.1, .str file.2)))]

/-- A file is sent under its own name as a text that stands for its bytes. -/
def Sends (file : String × List UInt8) (sent : String × String) : Prop :=
  sent.1 = file.1 ∧ Base64.Stands file.2 sent.2.toList

/-- Bytes are a body that carries a manifest and its files: every file once and in its place, and no
other. -/
inductive Carried (m : Manifest) : List UInt8 → Prop
  | body {text manifest : String} {files : List (String × String)}
      (spells : Grammar.Spells (.entry (bodyOf manifest files).toDraft) text.toList)
      (bytes : Base64.Stands m.bytes manifest.toList)
      (others : List.Forall₂ Sends m.extraFiles.entries files) : Carried m (Utf8.encode text)

/-! ## Receiving -/

/-- Bytes that stand as a text. -/
def unpacked : Decoder (List UInt8) := fun d =>
  (Decode.text d).refine fun text => Base64.decode? text.toList

/-- A manifest and its files as a receiver interprets them. -/
def ofDraft : Decoder Manifest :=
  Decode.record ["manifest", "extra_files"] fun r =>
    mk <$> r.required "manifest" unpacked <*> r.required "extra_files" (Decode.map unpacked)

/-- What a receiver reads from a body. -/
def ofPayload (payload : List UInt8) : Except FaultKind Manifest :=
  Decode.ofReading ofDraft (Reader.readPieces (Utf8.pieces payload))

/-! ## What is sent -/

variable {m other : Manifest} {payload : List UInt8}

theorem stands_packed (bytes : List UInt8) : Base64.Stands bytes (packed bytes).toList := by
  rw [packed, String.toList_ofList]
  exact Base64.encode_stands bytes

theorem plain_toJson (m : Manifest) : m.toJson.Plain :=
  ⟨Json.plain_str _, Json.plain_ofMap Json.plain_str _, trivial⟩

theorem carried_toJson (m : Manifest) : m.Carried (Utf8.encode m.toJson.render) := by
  have spells : Grammar.Spells (.entry m.toJson.toDraft) m.toJson.render.toList :=
    (Grammar.readText_eq_iff id).mp (Reader.readText_render m.plain_toJson)
  refine .body spells (stands_packed m.bytes) ?_
  refine List.forall₂_map_right_iff.mpr (List.forall₂_same.mpr fun file _ => ?_)
  exact ⟨rfl, stands_packed file.2⟩

theorem unpacked_packed (bytes : List UInt8) :
    unpacked (Json.str (packed bytes)).toDraft = .value bytes := by
  rw [unpacked, Json.toDraft, Decode.text, Decoded.refine, packed, String.toList_ofList,
    Base64.decode?_encode]

theorem ofMap_files (m : Manifest) :
    Json.ofMap .str m.files = Json.ofMap (fun bytes => .str (packed bytes)) m.extraFiles :=
  congrArg Json.obj (List.map_map ..)

theorem ofDraft_toJson (m : Manifest) : ofDraft m.toJson.toDraft = .value m := by
  have files : Decode.map unpacked (Json.ofMap .str m.files).toDraft = .value m.extraFiles := by
    rw [ofMap_files]
    exact Decode.map_ofMap unpacked_packed m.extraFiles
  refine Decode.record_obj (by decide) (.refl _) fun r reads => ?_
  rw [reads.required (by simp) (unpacked_packed m.bytes), reads.required (by simp) files]
  rfl

theorem ofPayload_toJson (m : Manifest) : ofPayload (Utf8.encode m.toJson.render) = .ok m := by
  rw [ofPayload, Utf8.pieces_encode, ← Reader.readText, Reader.readText_render m.plain_toJson,
    Decode.ofReading, ofDraft_toJson]
  rfl

/-! ## What can be told from a body -/

theorem membersToDraft_files (files : List (String × String)) :
    membersToDraft (files.map fun file => (file.1, .str file.2)) =
      files.map fun file => (some file.1, .str (some file.2)) := by
  induction files with
  | nil => rfl
  | cons file rest ih => rw [List.map_cons, membersToDraft, ih, List.map_cons, Json.toDraft]

theorem bodyOf_injective {manifest manifest' : String} {files files' : List (String × String)}
    (same : (bodyOf manifest files).toDraft = (bodyOf manifest' files').toDraft) :
    manifest = manifest' ∧ files = files' := by
  simp only [bodyOf, Json.toDraft, membersToDraft, membersToDraft_files, Draft.obj.injEq,
    List.cons.injEq, Prod.mk.injEq, Draft.str.injEq, Option.some.injEq, true_and, and_true] at same
  refine ⟨same.1, List.map_injective_iff.mpr (fun file file' equal => ?_) same.2⟩
  simp only [Prod.mk.injEq, Draft.str.injEq, Option.some.injEq] at equal
  exact Prod.ext equal.1 equal.2

theorem sends_unique : Relator.LeftUnique Sends := by
  rintro file file' sent ⟨name, stands⟩ ⟨name', stands'⟩
  exact Prod.ext (name.symm.trans name') (stands.bytes_unique stands')

/-- A body carries one manifest. -/
theorem Carried.unique (one : m.Carried payload) (two : other.Carried payload) : m = other := by
  obtain @⟨text, manifest, files, spells, stands, others⟩ := one
  generalize sent : Utf8.encode text = payload at two
  obtain @⟨text', manifest', files', spells', stands', others'⟩ := two
  cases Utf8.encode_injective sent
  obtain ⟨rfl, rfl⟩ := bodyOf_injective (spells.unique spells')
  have bytes : m.bytes = other.bytes := stands.bytes_unique stands'
  have entries : m.extraFiles.entries = other.extraFiles.entries :=
    sends_unique.forall₂ others others'
  cases m with
  | mk b files =>
    cases other with
    | mk b' files' =>
      cases files
      cases files'
      cases bytes
      cases entries
      rfl

/-- A body carries what was sent, and whoever reads it can tell. -/
structure Lossless (m : Manifest) (payload : List UInt8) : Prop where
  carried : m.Carried payload
  /-- It carries no other manifest and no other files. -/
  unique : ∀ other : Manifest, other.Carried payload → other = m
  /-- Whoever sends the same bytes sends the same manifest and the same files. -/
  determined : ∀ other : Manifest, (PeerRequest.createConfig other).payload = payload ∨
    (PeerRequest.startIncoming other).payload = payload → other = m
  received : ofPayload payload = .ok m

theorem lossless_toJson (m : Manifest) : m.Lossless (Utf8.encode m.toJson.render) where
  carried := m.carried_toJson
  unique _ carried := carried.unique m.carried_toJson
  determined other same := by
    have sent : Utf8.encode other.toJson.render = Utf8.encode m.toJson.render := same.elim id id
    exact (sent ▸ other.carried_toJson).unique m.carried_toJson
  received := m.ofPayload_toJson

/-- Neither request that carries a manifest loses anything of it. -/
theorem lossless (m : Manifest) :
    m.Lossless (PeerRequest.createConfig m).payload ∧
      m.Lossless (PeerRequest.startIncoming m).payload :=
  ⟨m.lossless_toJson, m.lossless_toJson⟩

end Manifest

end VmControl
