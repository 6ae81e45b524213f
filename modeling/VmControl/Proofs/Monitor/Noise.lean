import VmControl.Proofs.Monitor.Reader

/-!
# Noise on a connection

Blank lines, lines that are no objects, further greetings, replies without a number and replies
under numbers that nobody awaits are noise: the reader passes over them and goes on. Which replies
are noise depends on the moment at which they come.

* `Inbound.parse_of_reply`: what a well-formed reply tells.
* `Session.Noise.step?`: the reader takes noise and the connection stays as it is.
* `Session.Noisy.run_eq`: a connection gets to where it would get without the noise.
-/

namespace VmControl

/-- A reader goes on exactly after those lines whose failure says that they are malformed. -/
theorem LineError.isSkipped_iff (e : LineError) :
    e.isSkipped = true ↔ "malformed".toList <+: e.message.toList := by
  cases e with
  | malformed => exact iff_of_true rfl (by decide)
  | eventName | timestamp | errorBody => exact iff_of_false nofun (by decide)
  | unrecognized line =>
    have stops : (unrecognized line).isSkipped ≠ true := of_decide_eq_true.mt nofun
    have said : (unrecognized line).message.toList =
        "unrecognized message: ".toList ++ line.toList := String.toList_append
    refine iff_of_false stops fun starts => ?_
    rw [said] at starts
    -- the fixed front of the message is longer than the word, so the line itself does not matter
    have front : "malformed".toList <+: "unrecognized message: ".toList :=
      List.prefix_of_prefix_length_le starts (List.prefix_append ..) (by decide)
    exact absurd front (by decide)

namespace Inbound

/-- The members of a line, if it is an object. -/
def members? (line : String) : Option (List (String × Json)) :=
  (Decode.ofText (Decode.map Decode.anyMember) line).toOption.map (·.entries)

/-- The number that a line carries, if it is an unsigned 64-bit one. -/
def number? (members : List (String × Json)) : Option UInt64 :=
  (members.lookup "id").bind Json.word?

/-- What a failed reply holds, if it is well-formed. -/
def refusal? (members : List (String × Json)) : Option ControlError :=
  (members.lookup "error").bind (Decode.ofJson errorBody)

/-- Whether a line is a well-formed reply. -/
def isReply (members : List (String × Json)) : Bool :=
  (members.lookup "QMP").isNone && (members.lookup "event").isNone &&
    ((members.lookup "return").isSome || (refusal? members).isSome)

variable {line : String} {members : List (String × Json)}

theorem parse_of_members? (receipt : Timestamp) (object : members? line = some members) :
    parse line receipt = ofMembers line members receipt := by
  unfold members? at object
  rw [parse]
  split
  · next found =>
    rw [found] at object
    cases object
    rfl
  · next found =>
    rw [found] at object
    cases object

theorem parse_of_no_members (receipt : Timestamp) (noObject : members? line = none) :
    parse line receipt = .error .malformed := by
  refine parse_of_not_object receipt fun object found => ?_
  rw [members?, found] at noObject
  cases noObject

/-- A well-formed reply tells its number and an outcome. -/
theorem parse_of_reply (receipt : Timestamp) (object : members? line = some members)
    (reply : isReply members = true) :
    ∃ outcome, parse line receipt = .ok (.reply (number? members) outcome) := by
  simp only [isReply, Bool.and_eq_true, Bool.or_eq_true] at reply
  obtain ⟨⟨noGreeting, noEvent⟩, answer⟩ := reply
  rw [parse_of_members? receipt object, ofMembers, Option.isNone_iff_eq_none.mp noGreeting,
    Option.isNone_iff_eq_none.mp noEvent]
  cases returned : members.lookup "return" with
  | some value => exact ⟨.ok value, rfl⟩
  | none =>
    rw [returned] at answer
    obtain ⟨e, refusal⟩ := Option.isSome_iff_exists.mp (answer.resolve_left Bool.false_ne_true)
    obtain ⟨body, found, decoded⟩ := Option.bind_eq_some_iff.mp refusal
    refine ⟨.error e, ?_⟩
    simp only [found, decoded]
    rfl

end Inbound

namespace Session

variable {s t : Session} {line : String} {steps more : List SessionStep}

open Inbound in
/-- Lines that are noise when they are received on a connection. -/
inductive Noise (s : Session) (line : String) : Prop
  | blank (blank : Line.isBlank line = true)
  | noObject (noObject : members? line = none)
  | greeting {members : List (String × Json)} (object : members? line = some members)
      (greets : (members.lookup "QMP").isSome = true)
  | unnumbered {members : List (String × Json)} (object : members? line = some members)
      (reply : isReply members = true) (unnumbered : number? members = none)
  | stray {members : List (String × Json)} {id : UInt64} (object : members? line = some members)
      (reply : isReply members = true) (number : number? members = some id)
      (unawaited : ∀ entry ∈ s.pending, entry.1 ≠ id.toNat)

theorem deliver_of_unawaited {id : Nat} {outcome : Except ControlError Json}
    (unawaited : ∀ entry ∈ s.pending, entry.1 ≠ id) : s.deliver id outcome = s := by
  have absent : s.pending.lookup id = none :=
    List.lookup_eq_none_iff.mpr fun entry listed => bne_iff_ne.mpr (unawaited entry listed).symm
  rw [deliver, absent]

theorem Noise.take (noise : s.Noise line) (receipt : Timestamp) : s.take line receipt = s := by
  unfold Session.take
  split
  · rfl
  · next full =>
    cases noise with
    | blank blank => exact absurd blank full
    | noObject noObject =>
      rw [Inbound.parse_of_no_members receipt noObject]
      rfl
    | greeting object greets =>
      have greeting : Inbound.parse line receipt = .ok .greeting := by
        rw [Inbound.parse_of_members? receipt object, Inbound.ofMembers, if_pos greets]
      rw [greeting]
      rfl
    | unnumbered object reply unnumbered =>
      obtain ⟨outcome, told⟩ := Inbound.parse_of_reply receipt object reply
      rw [told, unnumbered]
      rfl
    | stray object reply number unawaited =>
      obtain ⟨outcome, told⟩ := Inbound.parse_of_reply receipt object reply
      rw [told, number]
      exact deliver_of_unawaited unawaited

/-- The reader takes noise, and the connection stays as it is. -/
theorem Noise.step? (noise : s.Noise line) (receipt : Timestamp) (reading : s.reading = true) :
    s.step? (.receive line receipt) = some s := by
  rw [Session.step?, if_pos reading, noise.take receipt]

/-- Noise is without effect even where nobody reads. -/
theorem Noise.step (noise : s.Noise line) (receipt : Timestamp) :
    s.step (.receive line receipt) = s := by
  unfold Session.step
  cases reading : s.reading with
  | true => rw [noise.step? receipt reading, Option.getD_some]
  | false =>
    have silent : s.step? (.receive line receipt) = none := by
      rw [Session.step?, reading, if_neg Bool.false_ne_true]
    rw [silent, Option.getD_none]

/-- Steps of a connection among which noise was received, at any places. -/
inductive Noisy : Session → List SessionStep → List SessionStep → Prop
  | nil {s : Session} : Noisy s [] []
  | step {s : Session} {x : SessionStep} {steps more : List SessionStep}
      (rest : Noisy (s.step x) steps more) : Noisy s (x :: steps) (x :: more)
  | noise {s : Session} {line : String} {receipt : Timestamp} {steps more : List SessionStep}
      (noise : s.Noise line) (rest : Noisy (s.step (.receive line receipt)) steps more) :
      Noisy s steps (.receive line receipt :: more)

/-- Noise that is received between the steps of a connection changes nothing: neither the outcome of
a call nor the log nor whether the connection is open or read. -/
theorem Noisy.run_eq (noisy : Noisy s steps more) : s.run more = s.run steps := by
  induction noisy with
  | nil => rfl
  | step rest ih => exact ih
  | @noise s line receipt steps more noise rest ih =>
    show (s.step (.receive line receipt)).run more = s.run steps
    rw [noise.step receipt] at ih ⊢
    exact ih

end Session

namespace Sample

open Session

def replyLine : String := "\x7b\"return\": 4, \"id\": 1\x7d"

def reply : SessionStep := .receive replyLine ⟨0, 0⟩

/-- A call and its reply. -/
def asking : List SessionStep := [.call queryStatus, .giveTurn, .register, .written, reply]

/-- The same with noise of every kind: a greeting, a blank line and a list before the number is
given, a reply under the number before the number is given, one without a number and one under a
number that nobody has while the call waits, and the reply once more after it has come. -/
def askingInNoise : List SessionStep :=
  [.call queryStatus, .receive "\x7b\"QMP\": 1, \"id\": 1\x7d" ⟨0, 0⟩, .receive " " ⟨0, 0⟩,
    .receive "[1]" ⟨0, 0⟩, reply, .giveTurn, .register, .written,
    .receive "\x7b\"return\": 5, \"id\": -1\x7d" ⟨0, 0⟩,
    .receive "\x7b\"error\": \x7b\"class\": \"C\", \"desc\": \"D\"\x7d, \"id\": 9\x7d" ⟨0, 0⟩,
    reply, reply]

/-- A line is an object. -/
theorem object_of_isSome {line : String} (isSome : (Inbound.members? line).isSome = true) :
    Inbound.members? line = some ((Inbound.members? line).get isSome) :=
  (Option.some_get isSome).symm

theorem replyLine_stray {s : Session} (unawaited : ∀ entry ∈ s.pending, entry.1 ≠ 1) :
    s.Noise replyLine :=
  .stray (object_of_isSome (by decide +kernel)) (by decide +kernel)
    (show Inbound.number? _ = some 1 by decide +kernel) unawaited

theorem asking_noisy : Noisy (new "alice") asking askingInNoise := by
  refine .step (.noise (.greeting (object_of_isSome (by decide +kernel)) (by decide +kernel)) ?_)
  refine .noise (.blank (by decide +kernel)) (.noise (.noObject (by decide +kernel)) ?_)
  refine .noise (replyLine_stray (by decide +kernel)) (.step (.step (.step ?_)))
  refine .noise (.unnumbered (object_of_isSome (by decide +kernel)) (by decide +kernel)
    (by decide +kernel)) ?_
  refine .noise (.stray (object_of_isSome (by decide +kernel)) (by decide +kernel)
    (show Inbound.number? _ = some 9 by decide +kernel) (by decide +kernel)) ?_
  exact .step (.noise (replyLine_stray (by decide +kernel)) .nil)

/-- The call gets its answer in spite of the noise. -/
theorem asking_undisturbed : Noisy (new "alice") asking askingInNoise ∧
    (new "alice").run askingInNoise = (new "alice").run asking ∧
    (((new "alice").run asking).outcome? 0).map (·.toOption.map Json.render) = some (some "4") :=
  ⟨asking_noisy, asking_noisy.run_eq, by decide +kernel⟩

end Sample

end VmControl
