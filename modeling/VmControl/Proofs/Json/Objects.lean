import Mathlib.Data.List.Forall2
import VmControl.Proofs.Codec.Kept
import VmControl.Proofs.Json.Recognition

/-!
# What objects are interpreted as

* `Json.IsObject`: a text is an object with the given members, in their order. Of repeated members
  the last one counts (`OrderedMap.get?_ofList`).
* `Decode.ofText_map_eq_ok_iff`: the maps that are read from a text are its objects.
* `Json.Fields`: what a record with two fields is made of. The fields come under their names, each
  name once, or as a list in the declared order.
* `Decode.record_eq_value_iff`: the values that make such a record.
-/

namespace VmControl

/-! ## Interpretations -/

namespace Decoded

variable {α β : Type} {f : Decoded (α → β)} {g : α → β} {a : Decoded α} {b : β} {index : Nat}

theorem map_eq_value_iff : a.map g = .value b ↔ ∃ x, a = .value x ∧ g x = b := by
  cases a <;> simp [Decoded.map]

theorem functor_map_eq_value_iff : g <$> a = .value b ↔ ∃ x, a = .value x ∧ g x = b :=
  map_eq_value_iff

theorem seq_eq_value_iff : f <*> a = .value b ↔ ∃ g x, f = .value g ∧ a = .value x ∧ g x = b := by
  change Decoded.seq f a = .value b ↔ _
  cases f <;> cases a <;> simp [Decoded.seq]

theorem inside_eq_value_iff {x : α} : a.inside index = .value x ↔ a = .value x := by
  cases a <;> simp [Decoded.inside]

theorem toOption_eq_some_iff {x : α} : a.toOption = some x ↔ a = .value x := by
  cases a <;> simp [Decoded.toOption]

end Decoded

/-! ## Maps -/

theorem OrderedMap.get?_foldl {α : Type} {entries : List (String × α)} (name : String) :
    ∀ m : OrderedMap α,
      (entries.foldl (fun m entry => m.insert entry.1 entry.2) m).get? name =
        (entries.reverse.lookup name).or (m.get? name) := by
  induction entries with
  | nil => exact fun m => rfl
  | cons entry rest ih =>
    intro m
    rw [List.foldl_cons, ih, List.reverse_cons, List.lookup_append, Option.or_assoc, get?_insert,
      Record.lookup_cons_eq]
    split <;> rfl

/-- Of the entries with one key the last one counts. -/
theorem OrderedMap.get?_ofList {α : Type} (entries : List (String × α)) (name : String) :
    (ofList entries).get? name = entries.reverse.lookup name := by
  rw [ofList, get?_foldl, get?_empty, Option.or_none]

/-- A text is an object with the given members, in their order. Each is spelt as a value that can be
represented: not every numeral is a number, and not all quoted characters are a text, and the
nesting has a limit. -/
def Json.IsObject (text : String) (members : List (String × Json)) : Prop :=
  ∃ drafts, Grammar.Spells (.entry (.obj drafts true)) text.toList ∧
    List.Forall₂ (fun draft member => draft.1 = some member.1 ∧
      Decode.anyMember draft.2 = .value member.2)
      drafts members

namespace Decode

variable {α : Type} {decoder : Decoder α} {whole : Bool} {d : Draft} {text : String}

theorem name_eq_value_iff {key : Option String} {s : String} :
    name key = .value s ↔ key = some s := by
  cases key <;> simp [name]

theorem membersFrom_eq_value_iff {drafts : List (Option String × Draft)} :
    ∀ {index : Nat} {members : List (String × α)},
      membersFrom decoder whole index drafts = .value members ↔
        whole = true ∧
          List.Forall₂ (fun draft member => draft.1 = some member.1 ∧
            decoder draft.2 = .value member.2)
            drafts members := by
  induction drafts with
  | nil =>
    intro index members
    cases whole <;> simp [membersFrom, eq_comm]
  | cons draft rest ih =>
    obtain ⟨key, item⟩ := draft
    intro index members
    simp only [membersFrom, Decoded.seq_eq_value_iff, Decoded.functor_map_eq_value_iff,
      Decoded.inside_eq_value_iff, name_eq_value_iff, ih, List.forall₂_cons_left_iff]
    constructor
    · rintro ⟨_, others, ⟨_, value, ⟨key, named, rfl⟩, decodes, rfl⟩, ⟨closed, same⟩, rfl⟩
      exact ⟨closed, _, others, ⟨named, decodes⟩, same, rfl⟩
    · rintro ⟨closed, ⟨key, value⟩, others, ⟨named, decodes⟩, same, rfl⟩
      exact ⟨_, others, ⟨_, value, ⟨key, named, rfl⟩, decodes, rfl⟩, ⟨closed, same⟩, rfl⟩

theorem map_eq_value_iff {m : OrderedMap α} : map decoder d = .value m ↔
    ∃ drafts members, d = .obj drafts true ∧
      List.Forall₂ (fun draft member => draft.1 = some member.1 ∧ decoder draft.2 = .value member.2)
        drafts members ∧ OrderedMap.ofList members = m := by
  constructor
  · intro decodes
    cases d with
    | obj drafts whole =>
      obtain ⟨members, read, rfl⟩ := Decoded.map_eq_value_iff.mp decodes
      obtain ⟨rfl, same⟩ := membersFrom_eq_value_iff.mp read
      exact ⟨drafts, members, rfl, same, rfl⟩
    | null | bool | arr | cut => cases decodes
    | num n => cases n <;> cases decodes
    | str s => cases s <;> cases decodes
  · rintro ⟨drafts, members, rfl, same, rfl⟩
    exact Decoded.map_eq_value_iff.mpr ⟨members, membersFrom_eq_value_iff.mpr ⟨rfl, same⟩, rfl⟩

/-- What is read from a text is what its value is interpreted as, if no draft without an end is. -/
theorem ofText_eq_ok_iff {a : α} (refuses : ∀ {d a}, decoder d = .value a → ¬ d.IsOpen) :
    ofText decoder text = .ok a ↔
      ∃ d, Grammar.Spells (.entry d) text.toList ∧ decoder d = .value a := by
  unfold ofText ofReading
  constructor
  · intro read
    split at read
    · cases read
    · next b decodes =>
      split at read
      · next clean =>
        cases read
        refine ⟨_, (Grammar.readText_eq_iff (refuses decodes)).mp ?_, decodes⟩
        rw [← clean]
      · cases read
  · rintro ⟨d, spells, decodes⟩
    rw [spells.readText]
    simp only [decodes, if_true]

/-- The maps that are read from a text are its objects. -/
theorem ofText_map_eq_ok_iff {m : OrderedMap Json} : ofText (map anyMember) text = .ok m ↔
    ∃ members, Json.IsObject text members ∧ OrderedMap.ofList members = m := by
  have refuses {d : Draft} {m : OrderedMap Json} (decodes : map anyMember d = .value m) :
      ¬ d.IsOpen := by
    obtain ⟨drafts, members, rfl, -⟩ := map_eq_value_iff.mp decodes
    exact id
  rw [ofText_eq_ok_iff refuses]
  constructor
  · rintro ⟨d, spells, decodes⟩
    obtain ⟨drafts, members, rfl, same, made⟩ := map_eq_value_iff.mp decodes
    exact ⟨members, ⟨drafts, spells, same⟩, made⟩
  · rintro ⟨members, ⟨drafts, spells, same⟩, made⟩
    exact ⟨_, spells, map_eq_value_iff.mpr ⟨drafts, members, rfl, same, made⟩⟩

end Decode

/-! ## Records with two fields -/

/-- An object has one member of a name. -/
structure Json.OnlyMember (members : List (String × Json)) (name : String) (v : Json) : Prop where
  given : members.lookup name = some v
  once : members.countP (fun member => member.1 = name) ≤ 1

/-- The two fields of a record: under their names, or as a list in the declared order. -/
inductive Json.Fields (first second : String) : Json → Json → Json → Prop
  | named {members : List (String × Json)} {a b : Json} (one : OnlyMember members first a)
      (other : OnlyMember members second b) : Fields first second (.obj members) a b
  | listed (a b : Json) : Fields first second (.arr [a, b]) a b

namespace Record

variable {α : Type} {names : List String} {name : String} {decoder : Decoder α} {r : Record}

/-- A fault of a record stays. -/
theorem fill_trouble {members : List (Option String × Draft)} :
    ∀ {index : Nat} {r : Record}, r.trouble ≠ none →
      (fill names index members r).trouble ≠ none := by
  induction members with
  | nil => exact fun trouble => trouble
  | cons member rest ih =>
    obtain ⟨key, item⟩ := member
    intro index r trouble
    rw [fill.eq_def]
    refine ih ?_
    dsimp only
    split
    · exact Option.some_ne_none _
    · split
      · split
        · exact Option.some_ne_none _
        · exact trouble
      · split
        · exact trouble
        · exact Option.some_ne_none _

theorem skippable_toDraft (v : Json) : Decode.skippable v.toDraft = true := by
  cases v <;> rfl

/-- The record with one more slot filled. -/
def take (r : Record) (key : String) (index : Nat) (item : Draft) : Record :=
  { r with slots := r.slots.map fun slot =>
      if slot.1 = key then (key, some (index, item)) else slot }

section Steps

variable {key : String} {index : Nat} {v : Json} {rest : List (String × Json)}

theorem fill_undeclared (undeclared : key ∉ names) :
    fill names index (membersToDraft ((key, v) :: rest)) r =
      fill names (index + 1) (membersToDraft rest) r := by
  have absent : names.contains key = false := by simpa using undeclared
  rw [membersToDraft, fill]
  simp only [absent, skippable_toDraft, Bool.false_eq_true, if_false, if_true]

theorem fill_repeated (declared : key ∈ names) {entry : Nat × Draft}
    (filled : r.slots.lookup key = some (some entry)) :
    (fill names index (membersToDraft ((key, v) :: rest)) r).trouble ≠ none := by
  have contained : names.contains key = true := List.contains_iff_mem.mpr declared
  rw [membersToDraft, fill]
  simp only [contained, filled, if_true]
  exact fill_trouble (Option.some_ne_none _)

theorem fill_free (declared : key ∈ names) (empty : r.slots.lookup key = some none) :
    fill names index (membersToDraft ((key, v) :: rest)) r =
      fill names (index + 1) (membersToDraft rest) (r.take key index v.toDraft) := by
  have contained : names.contains key = true := List.contains_iff_mem.mpr declared
  rw [membersToDraft, fill]
  simp only [contained, if_true, empty]
  rfl

theorem lookup_take : (r.take key index v.toDraft).slots.lookup name =
    if name = key then (r.slots.lookup name).map fun _ => some (index, v.toDraft)
    else r.slots.lookup name := lookup_fill key _ r.slots

theorem slot_take_self (empty : r.slots.lookup key = some none) :
    (r.take key index v.toDraft).slot key = some (index, v.toDraft) := by
  rw [slot, lookup_take, if_pos rfl, empty]
  rfl

theorem slot_take_other (other : name ≠ key) :
    (r.take key index v.toDraft).slot name = r.slot name := by
  rw [slot, lookup_take, if_neg other, slot]

/-- Filling a slot takes no slot away. -/
theorem declared_take (declared : ∃ slot, r.slots.lookup name = some slot) :
    ∃ slot, (r.take key index v.toDraft).slots.lookup name = some slot := by
  obtain ⟨slot, shown⟩ := declared
  rw [lookup_take, shown]
  split
  · exact ⟨_, rfl⟩
  · exact ⟨slot, rfl⟩

/-- How often a declared name is given, by what a record already holds and by further members. -/
def uses (r : Record) (members : List (String × Json)) (name : String) : Nat :=
  (r.slot name).toList.length + members.countP (fun m => m.1 = name)

theorem uses_cons_of_ne (other : key ≠ name) :
    r.uses ((key, v) :: rest) name = r.uses rest name := by
  rw [uses, uses, List.countP_cons_of_neg (by simpa using other)]

theorem lt_uses_of_filled {entry : Nat × Draft} (filled : r.slots.lookup key = some (some entry)) :
    1 < r.uses ((key, v) :: rest) key := by
  rw [uses, slot, filled, List.countP_cons_of_pos (by simp)]
  simp

/-- A member is counted in its slot from then on. -/
theorem uses_take (empty : r.slots.lookup key = some none) :
    (r.take key index v.toDraft).uses rest name = r.uses ((key, v) :: rest) name := by
  by_cases same : name = key
  · subst same
    have free : r.slot name = none := by
      rw [slot, empty]
      rfl
    rw [uses, uses, slot_take_self empty, free, List.countP_cons_of_pos (by simp)]
    simp [Nat.add_comm]
  · rw [uses_cons_of_ne (Ne.symm same), uses, uses, slot_take_other same]

end Steps

/-- Named members make a record if no declared name is repeated, and each slot shows the member of
its name. -/
theorem fill_clean (members : List (String × Json)) :
    ∀ (index : Nat) (r : Record), r.trouble = none →
      (∀ name ∈ names, ∃ slot, r.slots.lookup name = some slot) →
      ((fill names index (membersToDraft members) r).trouble = none ↔
        ∀ name ∈ names, r.uses members name ≤ 1) ∧
      ((fill names index (membersToDraft members) r).trouble = none → ∀ name ∈ names,
        ((fill names index (membersToDraft members) r).slot name).map (·.2) =
          ((r.slot name).map (·.2)).or ((members.lookup name).map Json.toDraft)) := by
  induction members with
  | nil =>
    intro index r clean declared
    rw [membersToDraft, fill]
    refine ⟨iff_of_true clean fun name _ => ?_, fun _ name _ => by simp⟩
    rw [uses, List.countP_nil]
    cases r.slot name <;> simp
  | cons member rest ih =>
    obtain ⟨key, v⟩ := member
    intro index r clean declared
    by_cases listed : key ∈ names
    · obtain ⟨slot, shown⟩ := declared key listed
      cases slot with
      | some entry =>
        have faulty : (fill names index (membersToDraft ((key, v) :: rest)) r).trouble ≠ none :=
          fill_repeated listed shown
        exact ⟨iff_of_false faulty fun once =>
            absurd (once key listed) (Nat.not_le.mpr (lt_uses_of_filled shown)),
          fun sound => absurd sound faulty⟩
      | none =>
        rw [fill_free listed shown]
        obtain ⟨sound, told⟩ := ih (index + 1) (r.take key index v.toDraft) clean
          fun name member => declared_take (declared name member)
        refine ⟨sound.trans (forall₂_congr fun name _ => by rw [uses_take shown]),
          fun clean name member => ?_⟩
        rw [told clean name member, lookup_cons_eq]
        by_cases same : name = key
        · subst same
          rw [slot_take_self shown, Record.slot, shown, if_pos rfl]
          rfl
        · rw [slot_take_other same, if_neg same]
    · rw [fill_undeclared listed]
      obtain ⟨sound, told⟩ := ih (index + 1) r clean declared
      have other {name : String} (member : name ∈ names) : key ≠ name :=
        fun same => listed (same ▸ member)
      refine ⟨sound.trans (forall₂_congr fun name member => by rw [uses_cons_of_ne (other member)]),
        fun clean name member => ?_⟩
      rw [told clean name member, lookup_cons_eq, if_neg (other member).symm]

theorem close_eq_value_iff {a : Decoded α} {x : α} :
    r.close a = .value x ↔ r.trouble = none ∧ a = .value x := by
  unfold close
  split
  · next clean => simp [clean]
  · next fault =>
    refine iff_of_false (fun read => ?_) (fun both => nomatch fault.symm.trans both.1)
    obtain ⟨_, _, closed, -⟩ := Decoded.seq_eq_value_iff.mp read
    obtain ⟨_, none, -⟩ := Decoded.functor_map_eq_value_iff.mp closed
    cases none

theorem required_eq_value_iff {x : α} : r.required name decoder = .value x ↔
    ∃ d, (r.slot name).map (·.2) = some d ∧ decoder d = .value x := by
  unfold required
  cases r.slot name with
  | none => simp
  | some entry => simp [Decoded.inside_eq_value_iff]

end Record

namespace Decode

variable {α β γ : Type} {first second : String} {one : Decoder α} {other : Decoder β}
  {f : α → β → γ} {v : Json} {c : γ}

theorem fields_eq_value_iff {r : Record} :
    (f <$> r.required first one <*> r.required second other) = .value c ↔
      ∃ x y, (∃ d, (r.slot first).map (·.2) = some d ∧ one d = .value x) ∧
        (∃ d, (r.slot second).map (·.2) = some d ∧ other d = .value y) ∧ f x y = c := by
  simp only [Decoded.seq_eq_value_iff, Decoded.functor_map_eq_value_iff,
    Record.required_eq_value_iff]
  constructor
  · rintro ⟨_, y, ⟨x, left, rfl⟩, right, same⟩
    exact ⟨x, y, left, right, same⟩
  · rintro ⟨x, y, left, right, same⟩
    exact ⟨_, y, ⟨x, left, rfl⟩, right, same⟩

/-- What a record of named members holds. -/
theorem ofDraft_named (names : List String) (members : List (String × Json)) :
    ∃ r, Record.ofDraft names (Json.obj members).toDraft = .value r ∧
      (r.trouble = none ↔ ∀ name ∈ names, members.countP (fun m => m.1 = name) ≤ 1) ∧
      (r.trouble = none → ∀ name ∈ names,
        (r.slot name).map (·.2) = (members.lookup name).map Json.toDraft) := by
  rw [Json.toDraft, Record.ofDraft, if_pos rfl]
  refine ⟨_, rfl, ?_⟩
  obtain ⟨sound, told⟩ := Record.fill_clean members 0
    ⟨names.map fun n => (n, none), (membersToDraft members).length, none⟩ rfl
    fun name listed => ⟨none, Record.lookup_empty listed⟩
  have free (name : String) :
      Record.slot ⟨names.map fun n => (n, none), (membersToDraft members).length, none⟩
        name = none :=
    Record.slot_empty names name
  simp only [Record.uses, free, Option.toList_none, List.length_nil, Nat.zero_add, Option.map_none,
    Option.none_or] at sound told
  exact ⟨sound, told⟩

theorem record_obj_eq_value_iff {members : List (String × Json)} :
    record [first, second] (fun r => f <$> r.required first one <*> r.required second other)
        (Json.obj members).toDraft = .value c ↔
      ∃ a b x y, (Json.OnlyMember members first a ∧ Json.OnlyMember members second b) ∧
        one a.toDraft = .value x ∧ other b.toDraft = .value y ∧ f x y = c := by
  obtain ⟨r, holds, sound, told⟩ := ofDraft_named [first, second] members
  rw [record, holds]
  simp only [Record.close_eq_value_iff, fields_eq_value_iff]
  constructor
  · rintro ⟨clean, x, y, ⟨d, left, decodes⟩, ⟨d', right, decodes'⟩, same⟩
    have once := sound.mp clean
    rw [told clean first (by simp)] at left
    rw [told clean second (by simp)] at right
    obtain ⟨a, given, rfl⟩ := Option.map_eq_some_iff.mp left
    obtain ⟨b, given', rfl⟩ := Option.map_eq_some_iff.mp right
    exact ⟨a, b, x, y, ⟨⟨given, once first (by simp)⟩, ⟨given', once second (by simp)⟩⟩,
      decodes, decodes', same⟩
  · rintro ⟨a, b, x, y, ⟨left, right⟩, decodes, decodes', same⟩
    have clean : r.trouble = none := by
      rw [sound]
      intro name listed
      rcases List.mem_pair.mp listed with rfl | rfl
      · exact left.once
      · exact right.once
    refine ⟨clean, x, y, ⟨_, ?_, decodes⟩, ⟨_, ?_, decodes'⟩, same⟩
    · rw [told clean first (by simp), left.given, Option.map_some]
    · rw [told clean second (by simp), right.given, Option.map_some]

theorem record_arr_eq_value_iff (differ : first ≠ second) {items : List Json} :
    record [first, second] (fun r => f <$> r.required first one <*> r.required second other)
        (Json.arr items).toDraft = .value c ↔
      ∃ a b x y, items = [a, b] ∧ one a.toDraft = .value x ∧ other b.toDraft = .value y ∧
        f x y = c := by
  have apart : (second == first) = false := by simpa using differ.symm
  rw [Json.toDraft, record, Record.ofDraft]
  simp only [Record.close_eq_value_iff, fields_eq_value_iff]
  rcases items with _ | ⟨a, _ | ⟨b, _ | ⟨_, _⟩⟩⟩
  · simp [itemsToDraft, Record.slot]
  · simp [itemsToDraft, Record.slot, List.lookup_cons, apart]
  · simp [itemsToDraft, Record.slot, List.lookup_cons, apart]
  · simp [itemsToDraft]

/-- The values that make a record with two fields. -/
theorem record_eq_value_iff (differ : first ≠ second) :
    record [first, second] (fun r => f <$> r.required first one <*> r.required second other)
      v.toDraft =
        .value c ↔
      ∃ a b x y, Json.Fields first second v a b ∧ one a.toDraft = .value x ∧
        other b.toDraft = .value y ∧
        f x y = c := by
  cases v with
  | null | bool | num | str =>
    refine iff_of_false nofun ?_
    rintro ⟨_, _, _, _, ⟨⟩, -⟩
  | arr items =>
    rw [record_arr_eq_value_iff differ]
    refine exists₄_congr fun a b x y => and_congr_left fun _ => ⟨?_, ?_⟩
    · rintro rfl
      exact .listed a b
    · rintro ⟨⟩
      rfl
  | obj members =>
    rw [record_obj_eq_value_iff]
    refine exists₄_congr fun a b x y => and_congr_left fun _ => ⟨?_, ?_⟩
    · rintro ⟨left, right⟩
      exact .named left right
    · rintro ⟨left, right⟩
      exact ⟨left, right⟩

end Decode

end VmControl
