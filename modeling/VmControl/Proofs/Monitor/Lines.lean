import VmControl.Monitor.Inbound
import VmControl.Proofs.Json.Objects

/-!
# What the lines of a monitor tell

A line tells something exactly if it is an object with one of the members `QMP`, `event`, `return`
and `error`, and the first of these decides alone what it is and whether it is well-formed.

* `Inbound.Tells`: what an object tells, by its members; `Inbound.WellFormed`: the objects that tell
  something.
* `Inbound.Stamped`: the time of an event. A second outside all years stands for the time of
  receipt, and so does a missing stamp.
* `Inbound.clampedNanos_exact`: the fraction of a stamp is computed in words without overflow.
* `Inbound.parse_grammar`: the lines that are classified, and what they are classified as.
-/

namespace VmControl

namespace Inbound

/-- The number of a reply: a whole number that fits an unsigned word, and nothing otherwise. -/
def Numbered (given : Option Json) (id : Option UInt64) : Prop :=
  ∀ n : UInt64, id = some n ↔ given = some (.num (.whole n.toNat))

/-- The time of an event: what its stamp says, with the microseconds kept within a second, or the
time of receipt. -/
inductive Stamped (receipt : Timestamp) : Option Json → Timestamp → Prop
  | absent : Stamped receipt none receipt
  | given {raw : Json} {seconds micros : Int64}
      (fields : Json.Fields "seconds" "microseconds" raw (.num (.whole seconds.toInt))
        (.num (.whole micros.toInt)))
      (representable : Timestamp.inRange seconds.toInt = true) :
      Stamped receipt (some raw) ⟨seconds.toInt, (max 0 (min micros.toInt 999999)).toNat * 1000⟩
  | outside {raw : Json} {seconds micros : Int64}
      (fields : Json.Fields "seconds" "microseconds" raw (.num (.whole seconds.toInt))
        (.num (.whole micros.toInt)))
      (unrepresentable : Timestamp.inRange seconds.toInt = false) : Stamped receipt
        (some raw) receipt

/-- What the members of an object tell. -/
inductive Tells (member : String → Option Json) (receipt : Timestamp) : Inbound → Prop
  | greeting {v : Json} (greets : member "QMP" = some v) : Tells member receipt .greeting
  | event {kind : String} {time : Timestamp} (noGreeting : member "QMP" = none)
      (named : member "event" = some (.str kind))
      (stamped : Stamped receipt (member "timestamp") time) :
      Tells member receipt (.event ⟨kind, (member "data").getD .null, time⟩)
  | returned {id : Option UInt64} {v : Json} (noGreeting : member "QMP" = none)
      (noEvent : member "event" = none) (numbered : Numbered (member "id") id)
      (returns : member "return" = some v) : Tells member receipt (.reply id (.ok v))
  | failed {id : Option UInt64} {body : Json} {kind description : String}
      (noGreeting : member "QMP" = none) (noEvent : member "event" = none)
      (numbered : Numbered (member "id") id) (noValue : member "return" = none)
      (refuses : member "error" = some body)
      (fields : Json.Fields "class" "desc" body (.str kind) (.str description)) :
      Tells member receipt (.reply id (.error (.refused kind description)))

/-- A stamp that can be read: whole numbers of seconds and microseconds that fit signed words. -/
def Dated (raw : Json) : Prop :=
  ∃ seconds micros : Int64, Json.Fields "seconds" "microseconds" raw (.num (.whole seconds.toInt))
    (.num (.whole micros.toInt))

/-- The objects that tell something. -/
inductive WellFormed (member : String → Option Json) : Prop
  | greeting {v : Json} (greets : member "QMP" = some v)
  | event {kind : String} (noGreeting : member "QMP" = none)
      (named : member "event" = some (.str kind))
      (dated : ∀ raw, member "timestamp" = some raw → Dated raw)
  | returned {v : Json} (noGreeting : member "QMP" = none) (noEvent : member "event" = none)
      (returns : member "return" = some v)
  | failed {body : Json} {kind description : String} (noGreeting : member "QMP" = none)
      (noEvent : member "event" = none) (noValue : member "return" = none)
      (refuses : member "error" = some body)
      (fields : Json.Fields "class" "desc" body (.str kind) (.str description))

variable {line : String} {members : List (String × Json)} {receipt time : Timestamp} {raw v : Json}
  {inbound : Inbound} {id : Option UInt64}

/-! ## Parts of a line -/

theorem text_eq_value_iff {s : String} : Decode.text v.toDraft = .value s ↔ v = .str s := by
  cases v <;> simp [Json.toDraft, Decode.text, Decode.unexpected]

theorem signed64_eq_value_iff {n : Int} :
    Decode.signed64 v.toDraft = .value n ↔ ∃ word : Int64, v = .num (.whole word.toInt) ∧
      word.toInt = n := by
  constructor
  · intro decodes
    cases v with
    | null | bool | str | arr | obj => cases decodes
    | num number =>
      cases number with
      | real x => cases decodes
      | whole k =>
        rw [Json.toDraft, Decode.signed64, Decode.whole] at decodes
        split at decodes
        · next range =>
          cases decodes
          have same : (Int64.ofInt n).toInt = n := Int64.toInt_ofInt_of_le range.1 range.2
          exact ⟨Int64.ofInt n, by rw [same], same⟩
        · cases decodes
  · rintro ⟨word, rfl, rfl⟩
    rw [Json.toDraft, Decode.signed64, Decode.whole]
    exact if_pos ⟨word.le_toInt, word.toInt_lt⟩

theorem ofJson_rawStamp_iff {s : RawStamp} : Decode.ofJson RawStamp.ofDraft raw = some s ↔
    ∃ seconds micros : Int64,
      Json.Fields "seconds" "microseconds" raw (.num (.whole seconds.toInt))
        (.num (.whole micros.toInt)) ∧
        s = ⟨seconds.toInt, micros.toInt⟩ := by
  rw [Decode.ofJson, Decoded.toOption_eq_some_iff, RawStamp.ofDraft,
    Decode.record_eq_value_iff (by decide)]
  simp only [signed64_eq_value_iff]
  constructor
  · rintro ⟨_, _, _, _, fields, ⟨seconds, rfl, rfl⟩, ⟨micros, rfl, rfl⟩, rfl⟩
    exact ⟨seconds, micros, fields, rfl⟩
  · rintro ⟨seconds, micros, fields, rfl⟩
    exact ⟨_, _, _, _, fields, ⟨seconds, rfl, rfl⟩, ⟨micros, rfl, rfl⟩, rfl⟩

theorem ofJson_errorBody_iff {e : ControlError} : Decode.ofJson errorBody raw = some e ↔
    ∃ kind description, Json.Fields "class" "desc" raw (.str kind) (.str description) ∧
      e = .refused kind description := by
  rw [Decode.ofJson, Decoded.toOption_eq_some_iff, errorBody,
    Decode.record_eq_value_iff (by decide)]
  simp only [text_eq_value_iff]
  constructor
  · rintro ⟨_, _, kind, description, fields, rfl, rfl, rfl⟩
    exact ⟨kind, description, fields, rfl⟩
  · rintro ⟨kind, description, fields, rfl⟩
    exact ⟨_, _, kind, description, fields, rfl, rfl, rfl⟩

theorem word?_eq_some_iff {n : UInt64} : v.word? = some n ↔ v = .num (.whole n.toNat) := by
  constructor
  · intro word
    cases v with
    | null | bool | str | arr | obj => cases word
    | num number =>
      cases number with
      | real x => cases word
      | whole k =>
        simp only [Json.word?, Number.toUInt64?] at word
        split at word
        · next range =>
          cases word
          have low : k.toNat < UInt64.size := by omega
          rw [UInt64.toNat_ofNat_of_lt' low, Int.toNat_of_nonneg range.1]
        · cases word
  · rintro rfl
    have range : 0 ≤ (n.toNat : Int) ∧ (n.toNat : Int) < UInt64.size :=
      ⟨Int.natCast_nonneg _, Int.ofNat_lt.mpr n.toNat_lt_size⟩
    rw [Json.word?, Number.toUInt64?, if_pos range, Int.toNat_natCast, UInt64.ofNat_toNat]

theorem numbered_iff {given : Option Json} : Numbered given id ↔ id = given.bind Json.word? := by
  have found (n : UInt64) : given.bind Json.word? = some n ↔
      given = some (.num (.whole n.toNat)) := by
    cases given with
    | none => simp
    | some v => rw [Option.bind_some, word?_eq_some_iff, Option.some.injEq]
  unfold Numbered
  simp only [← found]
  exact Option.ext_iff.symm

theorem stamp_eq_ok_iff : stamp members receipt = .ok time ↔
    Stamped receipt (members.lookup "timestamp") time := by
  have resolves (seconds micros : Int64) :
      RawStamp.resolve ⟨seconds.toInt, micros.toInt⟩ receipt =
        if Timestamp.inRange seconds.toInt then
          ⟨seconds.toInt, (max 0 (min micros.toInt 999999)).toNat * 1000⟩
        else receipt := by
    rw [RawStamp.resolve, Timestamp.ofSeconds?]
    split <;> rfl
  unfold stamp
  cases members.lookup "timestamp" with
  | none =>
    constructor
    · rintro ⟨⟩
      exact .absent
    · rintro ⟨⟩
      rfl
  | some raw =>
    constructor
    · intro told
      dsimp only at told
      split at told
      · next s decoded =>
        obtain ⟨seconds, micros, fields, rfl⟩ := ofJson_rawStamp_iff.mp decoded
        rw [resolves] at told
        split at told
        · next inside =>
          cases told
          exact .given fields inside
        · next outside =>
          cases told
          exact .outside fields (Bool.eq_false_iff.mpr outside)
      · cases told
    · intro stamped
      cases stamped with
      | given fields inside =>
        have decoded := ofJson_rawStamp_iff.mpr ⟨_, _, fields, rfl⟩
        simp only [decoded, resolves, inside, if_true]
      | outside fields beyond =>
        have decoded := ofJson_rawStamp_iff.mpr ⟨_, _, fields, rfl⟩
        simp only [decoded, resolves, beyond, Bool.false_eq_true, if_false]

theorem parseEvent_eq_ok_iff {name : Json} : parseEvent name members receipt = .ok inbound ↔
    ∃ kind time, name = .str kind ∧ Stamped receipt (members.lookup "timestamp") time ∧
      inbound = .event ⟨kind, (members.lookup "data").getD .null, time⟩ := by
  constructor
  · intro told
    unfold parseEvent at told
    split at told
    · next kind =>
      split at told
      · cases told
      · next time stamped =>
        cases told
        exact ⟨kind, time, rfl, stamp_eq_ok_iff.mp stamped, rfl⟩
    · cases told
  · rintro ⟨kind, time, rfl, stamped, rfl⟩
    simp only [parseEvent, stamp_eq_ok_iff.mpr stamped]

theorem ofMembers_eq_ok_iff : ofMembers line members receipt = .ok inbound ↔
    Tells (members.lookup ·) receipt inbound := by
  constructor
  · intro told
    unfold ofMembers at told
    split at told
    · next greets =>
      cases told
      obtain ⟨v, found⟩ := Option.isSome_iff_exists.mp greets
      exact .greeting found
    · next other =>
      have noGreeting : members.lookup "QMP" = none := Option.not_isSome_iff_eq_none.mp other
      split at told
      · next name named =>
        obtain ⟨kind, time, rfl, stamped, rfl⟩ := parseEvent_eq_ok_iff.mp told
        exact .event noGreeting named stamped
      · next noEvent =>
        dsimp only at told
        split at told
        · next _ _ v returns =>
          cases told
          exact .returned noGreeting noEvent (numbered_iff.mpr rfl) returns
        · next body noValue refuses =>
          split at told
          · next e decoded =>
            cases told
            obtain ⟨kind, description, fields, rfl⟩ := ofJson_errorBody_iff.mp decoded
            exact .failed noGreeting noEvent (numbered_iff.mpr rfl) noValue refuses fields
          · cases told
        · cases told
  · intro tells
    cases tells with
    | greeting greets => rw [ofMembers, greets, Option.isSome_some, if_pos rfl]
    | event noGreeting named stamped =>
      simp only [ofMembers, noGreeting, named, Option.isSome_none, Bool.false_eq_true, if_false]
      exact parseEvent_eq_ok_iff.mpr ⟨_, _, rfl, stamped, rfl⟩
    | returned noGreeting noEvent numbered returns =>
      simp only [ofMembers, noGreeting, noEvent, returns, Option.isSome_none, Bool.false_eq_true,
        if_false, numbered_iff.mp numbered]
    | failed noGreeting noEvent numbered noValue refuses fields =>
      have decoded := ofJson_errorBody_iff.mpr ⟨_, _, fields, rfl⟩
      simp only [ofMembers, noGreeting, noEvent, noValue, refuses, decoded, Option.isSome_none,
        Bool.false_eq_true, if_false, numbered_iff.mp numbered]

theorem exists_stamped_iff {given : Option Json} :
    (∃ time, Stamped receipt given time) ↔ ∀ raw, given = some raw → Dated raw := by
  constructor
  · rintro ⟨time, stamped⟩ raw rfl
    cases stamped with
    | given fields => exact ⟨_, _, fields⟩
    | outside fields => exact ⟨_, _, fields⟩
  · intro dated
    cases given with
    | none => exact ⟨receipt, .absent⟩
    | some raw =>
      obtain ⟨seconds, micros, fields⟩ := dated raw rfl
      cases range : Timestamp.inRange seconds.toInt with
      | true => exact ⟨_, .given fields range⟩
      | false => exact ⟨receipt, .outside fields range⟩

theorem exists_tells_iff {member : String → Option Json} :
    (∃ inbound, Tells member receipt inbound) ↔ WellFormed member := by
  constructor
  · rintro ⟨inbound, tells⟩
    cases tells with
    | greeting greets => exact .greeting greets
    | event noGreeting named stamped =>
      exact .event noGreeting named (exists_stamped_iff.mp ⟨_, stamped⟩)
    | returned noGreeting noEvent _ returns => exact .returned noGreeting noEvent returns
    | failed noGreeting noEvent _ noValue refuses fields =>
      exact .failed noGreeting noEvent noValue refuses fields
  · intro formed
    cases formed with
    | greeting greets => exact ⟨_, .greeting greets⟩
    | event noGreeting named dated =>
      obtain ⟨time, stamped⟩ := exists_stamped_iff.mpr dated
      exact ⟨_, .event noGreeting named stamped⟩
    | returned noGreeting noEvent returns =>
      exact ⟨_, .returned noGreeting noEvent (numbered_iff.mpr rfl) returns⟩
    | failed noGreeting noEvent noValue refuses fields =>
      exact ⟨_, .failed noGreeting noEvent (numbered_iff.mpr rfl) noValue refuses fields⟩

/-! ## The fraction of a stamp -/

/-- The nanoseconds of a stamp, computed in words. -/
def clampedNanos (micros : Int64) : Int64 := max 0 (min micros 999999) * 1000

theorem toInt_max (a b : Int64) : (max a b).toInt = max a.toInt b.toInt := by
  have cases : max a b = if a ≤ b then b else a := rfl
  rw [cases]
  split
  · next below => rw [Int.max_eq_right (Int64.le_iff_toInt_le.mp below)]
  · next above =>
    rw [Int64.le_iff_toInt_le] at above
    rw [Int.max_eq_left (by omega)]

theorem toInt_min (a b : Int64) : (min a b).toInt = min a.toInt b.toInt := by
  have cases : min a b = if a ≤ b then a else b := rfl
  rw [cases]
  split
  · next below => rw [Int.min_eq_left (Int64.le_iff_toInt_le.mp below)]
  · next above =>
    rw [Int64.le_iff_toInt_le] at above
    rw [Int.min_eq_right (by omega)]

/-- The words neither overflow nor reach a full second. -/
theorem clampedNanos_exact (seconds micros : Int64) :
    (clampedNanos micros).toInt = ((RawStamp.mk seconds.toInt micros.toInt).micros * 1000 : Nat) ∧
      (clampedNanos micros).toInt < 1000000000 := by
  have product : (clampedNanos micros).toInt =
      (max 0 (min micros.toInt 999999) * 1000).bmod (2 ^ 64) := by
    rw [clampedNanos, Int64.toInt_mul, toInt_max, toInt_min]
    rfl
  have exact : (max 0 (min micros.toInt 999999) * 1000).bmod (2 ^ 64) =
      max 0 (min micros.toInt 999999) * 1000 := Int.bmod_eq_of_le (by omega) (by omega)
  rw [product, exact]
  dsimp only [RawStamp.micros]
  omega

/-! ## Whole lines -/

/-- The members of an object by their names; of repeated members the last one counts. -/
def lastOf (members : List (String × Json)) (name : String) : Option Json :=
  members.reverse.lookup name

theorem parse_of_isObject (object : Json.IsObject line members) :
    parse line receipt = .ok inbound ↔ Tells (lastOf members) receipt inbound := by
  have read := Decode.ofText_map_eq_ok_iff.mpr ⟨members, object, rfl⟩
  have counted : ((OrderedMap.ofList members).entries.lookup ·) = lastOf members :=
    funext (OrderedMap.get?_ofList members)
  rw [parse, read]
  exact ofMembers_eq_ok_iff.trans (by rw [counted])

theorem exists_isObject_of_parse (told : parse line receipt = .ok inbound) :
    ∃ members, Json.IsObject line members := by
  unfold parse at told
  split at told
  · next m read =>
    obtain ⟨members, object, -⟩ := Decode.ofText_map_eq_ok_iff.mp read
    exact ⟨members, object⟩
  · cases told

/-- Only objects are classified, and all that are well-formed. What an object is classified as, if
anything, is what its members tell. The fraction of a stamp is what it would be in words, whatever
the words are. -/
theorem parse_grammar (line : String) (receipt : Timestamp) :
    (∀ inbound, parse line receipt = .ok inbound → ∃ members, Json.IsObject line members) ∧
      (∀ members, Json.IsObject line members →
        ((∃ inbound, parse line receipt = .ok inbound) ↔ WellFormed (lastOf members)) ∧
          ∀ inbound, parse line receipt = .ok inbound ↔ Tells (lastOf members) receipt inbound) ∧
      ∀ seconds micros : Int64,
        (clampedNanos micros).toInt =
        ((RawStamp.mk seconds.toInt micros.toInt).micros * 1000 : Nat) ∧
          (clampedNanos micros).toInt < 1000000000 := by
  refine ⟨fun _ => exists_isObject_of_parse, fun members object =>
    ⟨?_, fun _ => parse_of_isObject object⟩, clampedNanos_exact⟩
  rw [← exists_tells_iff]
  exact exists_congr fun _ => parse_of_isObject object

end Inbound

namespace Sample

open Inbound

/-- An event that is named twice, with a stamp that is not kept within a second. -/
def renamed : String :=
  "\x7b\"event\": \"RESET\", \"event\": \"STOP\", \"timestamp\": [1, -5]\x7d"

/-- The name and the stamp of an event that was told. -/
def named? : Except LineError Inbound → Option (String × Timestamp)
  | .ok (.event e) => some (e.event, e.timestamp)
  | _ => none

theorem renamed_told : ∃ members data, Json.IsObject renamed members ∧
    Tells (lastOf members) ⟨7, 0⟩ (.event ⟨"STOP", data, ⟨1, 0⟩⟩) := by
  have check : named? (parse renamed ⟨7, 0⟩) = some ("STOP", ⟨1, 0⟩) := by decide +kernel
  obtain ⟨objects, tells, -⟩ := parse_grammar renamed ⟨7, 0⟩
  unfold named? at check
  split at check
  · next e told =>
    obtain ⟨kind, data, time⟩ := e
    cases check
    obtain ⟨members, object⟩ := objects _ told
    exact ⟨members, data, object, ((tells members object).2 _).mp told⟩
  · cases check

end Sample

end VmControl
