import VmControl.Task.Id

/-!
# Identifiers that are read back from their texts

A text spells at most one identifier and is the text of that one, so nothing is lost in reading
(`TaskId.ofText_eq_ok_iff`). The other way an identifier may be lost: the first colon ends the kind,
which holds none, but the last separator begins the owner, wherever it comes from. So an identifier
is read back exactly if it is legible (`TaskId.IsLegible`): nothing in it is empty, and what stands
last holds no separator. An object in front of an owner may hold both characters.
-/

namespace VmControl

namespace TaskKind

variable {kind : TaskKind} {text : String}

theorem ofText_eq_ok_iff : ofText text = .ok kind ↔ text = kind.name := by
  constructor
  · intro read
    unfold ofText at read
    split at read
    · next found =>
      cases read
      unfold ofName? at found
      split at found
      · next same =>
        cases found
        exact same
      · split at found
        · next same =>
          cases found
          exact same
        · cases found
    · cases read
  · rintro rfl
    rw [ofText, ofName?_name]

/-- The name of a kind ends where its text has the first colon. -/
theorem colon_not_mem_name (kind : TaskKind) : ':' ∉ kind.name.toList := by
  cases kind <;> decide

end TaskKind

namespace TaskId

variable {id : TaskId} {text object : String} {owner : Option String} {rest : List Char}

/-- What a text says of the object and the owner, behind the kind and the colon. -/
def behindKind (object : String) : Option String → List Char
  | none => object.toList
  | some owner => object.toList ++ '@' :: owner.toList

theorem toList_text (id : TaskId) :
    id.text.toList = id.kind.name.toList ++ ':' :: behindKind id.object id.owner := by
  unfold text behindKind
  cases id.owner <;> simp

/-- The object and the owner can be told from what is written of them. -/
def TellsApart (object : String) : Option String → Prop
  | none => object ≠ "" ∧ '@' ∉ object.toList
  | some owner => object ≠ "" ∧ owner ≠ "" ∧ '@' ∉ owner.toList

/-- The last separator is the one in front of the owner. -/
def IsLegible (id : TaskId) : Prop := TellsApart id.object id.owner

/-- What is read behind the kind is what was written there, if it can be told apart. -/
theorem splitOwner_eq_ok_iff : splitOwner rest = .ok (object, owner) ↔
    rest = behindKind object owner ∧ TellsApart object owner := by
  constructor
  · intro read
    unfold splitOwner at read
    split at read
    · cases read
    · cases read
    · next front back noOwner noObject cut =>
      cases read
      obtain ⟨rfl, absent⟩ := Text.splitLast?_eq_some_iff.mp cut
      refine ⟨by simp [behindKind], mt String.ofList_eq_empty_iff.mp noObject,
        mt String.ofList_eq_empty_iff.mp noOwner, ?_⟩
      rwa [String.toList_ofList]
    · next uncut =>
      split at read
      · cases read
      · next some =>
        cases read
        refine ⟨String.toList_ofList.symm, mt String.ofList_eq_empty_iff.mp some, ?_⟩
        rw [String.toList_ofList]
        exact Text.splitLast?_eq_none_iff.mp uncut
  · rintro ⟨rfl, apart⟩
    cases owner with
    | none =>
      obtain ⟨some, absent⟩ := apart
      have some : object.toList ≠ [] := mt String.toList_eq_nil_iff.mp some
      rw [behindKind, splitOwner, Text.splitLast?_eq_none_iff.mpr absent]
      simp only [if_neg some, String.ofList_toList]
    | some owner =>
      obtain ⟨someObject, someOwner, absent⟩ := apart
      have cut : Text.splitLast? '@' (object.toList ++ '@' :: owner.toList) =
          some (object.toList, owner.toList) := Text.splitLast?_eq_some_iff.mpr ⟨rfl, absent⟩
      rw [behindKind, splitOwner, cut]
      split
      · next same =>
        have empty := (Prod.mk.inj (Option.some.inj same)).2
        exact absurd (String.toList_eq_nil_iff.mp empty) someOwner
      · next same =>
        have empty := (Prod.mk.inj (Option.some.inj same)).1
        exact absurd (String.toList_eq_nil_iff.mp empty) someObject
      · next same =>
        cases same
        simp only [String.ofList_toList]
      · next same => cases same

/-- A text spells an identifier exactly if it is the text of that identifier, which is legible. -/
theorem ofText_eq_ok_iff : ofText text = .ok id ↔ text = id.text ∧ id.IsLegible := by
  constructor
  · intro read
    unfold ofText at read
    split at read
    · cases read
    · next kindText rest cut =>
      split at read
      · cases read
      · next kind named =>
        split at read
        · cases read
        · next object owner parts =>
          cases read
          obtain ⟨whole, -⟩ := Text.splitFirst?_eq_some_iff.mp cut
          obtain ⟨rfl, legible⟩ := splitOwner_eq_ok_iff.mp parts
          refine ⟨String.toList_inj.mp ?_, legible⟩
          rw [whole, toList_text, ← TaskKind.ofText_eq_ok_iff.mp named, String.toList_ofList]
  · rintro ⟨rfl, legible⟩
    have cut : Text.splitFirst? ':' id.text.toList =
        some (id.kind.name.toList, behindKind id.object id.owner) :=
      Text.splitFirst?_eq_some_iff.mpr ⟨toList_text id, id.kind.colon_not_mem_name⟩
    have named : TaskKind.ofText (String.ofList id.kind.name.toList) = .ok id.kind := by
      rw [String.ofList_toList]
      exact TaskKind.ofText_eq_ok_iff.mpr rfl
    have parts : splitOwner (behindKind id.object id.owner) = .ok (id.object, id.owner) :=
      splitOwner_eq_ok_iff.mpr ⟨rfl, legible⟩
    rw [ofText, cut]
    dsimp only
    rw [named]
    dsimp only
    rw [parts]

/-- Whatever text spells an identifier is the one that is written of it. An identifier is read back
from its text exactly if its object is not empty and either it has no owner and there is no
separator in the object, or its owner is not empty and there is none in the owner. -/
theorem reads_back (id : TaskId) :
    (∀ text, ofText text = .ok id → id.text = text) ∧
    (ofText id.text = .ok id ↔ id.object ≠ "" ∧
      (id.owner = none ∧ '@' ∉ id.object.toList ∨
        ∃ owner, id.owner = some owner ∧ owner ≠ "" ∧ '@' ∉ owner.toList)) := by
  refine ⟨fun text read => (ofText_eq_ok_iff.mp read).1.symm, ?_⟩
  rw [ofText_eq_ok_iff, IsLegible, TellsApart.eq_def]
  cases id.owner with
  | none => simp
  | some owner => simp

end TaskId

namespace Sample

/-- The copy of a disk whose path holds both a colon and a separator. -/
def awkwardCopy : TaskId := .diskCopying "nbd:host:disk@1" "web"

/-- It is read from its text, and no other text spells it. With a separator in the name of its
machine it would not be read back. -/
theorem awkward_legible : TaskId.ofText "disk-copying:nbd:host:disk@1@web" = .ok awkwardCopy ∧
    awkwardCopy.text = "disk-copying:nbd:host:disk@1@web" ∧
    TaskId.ofText awkwardCopy.text = .ok awkwardCopy ∧
    TaskId.ofText (TaskId.diskCopying "disk" "1@web").text ≠ .ok (.diskCopying "disk" "1@web") := by
  have read : TaskId.ofText "disk-copying:nbd:host:disk@1@web" = .ok awkwardCopy := rfl
  obtain ⟨written, legible⟩ := awkwardCopy.reads_back
  refine ⟨read, written _ read, legible.mpr ⟨by decide, .inr ⟨"web", rfl, by decide, by decide⟩⟩,
    ?_⟩
  rw [ne_eq, (TaskId.diskCopying "disk" "1@web").reads_back.2]
  rintro ⟨-, ⟨none, -⟩ | ⟨owner, same, -, absent⟩⟩
  · cases none
  · cases same
    exact absent (by decide)

end Sample

end VmControl
