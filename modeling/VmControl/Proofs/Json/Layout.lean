import Mathlib.Data.Nat.Digits.Defs
import VmControl.Json.Reader
import VmControl.Json.Render
import VmControl.Proofs.Text.Digits

/-!
# Values that are written and read again

A value is written on one line or laid out over several, and read one character at a time. What is
read again is the value (`Reader.readText_render`, `Reader.readText_layout`), if its numbers are
unsigned 64-bit words (`Json.Plain`); the text of any other number stands for the number only as far
as it can be told in decimals. The two written forms differ in the blanks between the parts of a
value only, so both are cases of one (`Json.writeChars`).

The reader knows that a numeral is over only when something else follows, so reading the text of a
value need not end with the value. It ends with something that *holds* the value
(`Reader.State.Holds`): the reader goes on as after the value, whatever may follow a value.
-/

namespace VmControl

namespace Json

mutual

/-- Whether a value has only unsigned 64-bit words for numbers. -/
def Plain : Json → Prop
  | .null | .bool _ | .str _ => True
  | .num (.whole n) => 0 ≤ n ∧ n < UInt64.size
  | .num (.real _) => False
  | .arr items => PlainItems items
  | .obj members => PlainMembers members

/-- Whether the items of a list are plain. -/
def PlainItems : List Json → Prop
  | [] => True
  | item :: rest => item.Plain ∧ PlainItems rest

/-- Whether the values of members are plain. -/
def PlainMembers : List (String × Json) → Prop
  | [] => True
  | (_, value) :: rest => value.Plain ∧ PlainMembers rest

end

/-! ## Written forms -/

/-- How the parts of a written value are set apart. -/
structure Form where
  /-- What stands in front of an entry, or of the end of a container, at a level. -/
  gap : Nat → List Char
  /-- What stands between a colon and a value. -/
  space : List Char
  blankGap : ∀ level, ∀ c ∈ gap level, Reader.isBlank c = true
  blankSpace : ∀ c ∈ space, Reader.isBlank c = true

/-- Everything on one line, without blanks. -/
def Form.compact : Form := ⟨fun _ => [], [], by simp, by simp⟩

/-- Every entry on a line of its own. -/
def Form.indented : Form where
  gap := lineBreak
  space := [' ']
  blankGap level c listed := by
    rcases List.mem_cons.mp listed with rfl | blank
    · rfl
    · rw [(List.mem_replicate.mp blank).2]
      rfl
  blankSpace c listed := by
    rw [List.mem_singleton.mp listed]
    rfl

mutual

/-- The characters of a value in a form, at a level. -/
def writeChars (form : Form) (level : Nat) : Json → List Char
  | .null => ['n', 'u', 'l', 'l']
  | .bool true => ['t', 'r', 'u', 'e']
  | .bool false => ['f', 'a', 'l', 's', 'e']
  | .num n => n.text.toList
  | .str s => quoteChars s
  | .arr [] => ['[', ']']
  | .arr (item :: rest) =>
    '[' :: (form.gap (level + 1) ++ writeChars form (level + 1) item ++ writeItems form level rest)
  | .obj [] => ['\x7b', '\x7d']
  | .obj ((name, value) :: rest) =>
    '\x7b' :: (form.gap (level + 1) ++ quoteChars name ++ ':' :: (form.space ++
      (writeChars form (level + 1) value ++ writeMembers form level rest)))

/-- The further items of a list, with the closing bracket. -/
def writeItems (form : Form) (level : Nat) : List Json → List Char
  | [] => form.gap level ++ [']']
  | item :: rest =>
    ',' :: (form.gap (level + 1) ++ writeChars form (level + 1) item ++ writeItems form level rest)

/-- The further members of an object, with the closing brace. -/
def writeMembers (form : Form) (level : Nat) : List (String × Json) → List Char
  | [] => form.gap level ++ ['\x7d']
  | (name, value) :: rest =>
    ',' :: (form.gap (level + 1) ++ quoteChars name ++ ':' :: (form.space ++
      (writeChars form (level + 1) value ++ writeMembers form level rest)))

end

mutual

theorem writeChars_compact : ∀ (v : Json) (level : Nat), v.writeChars .compact level = v.renderChars
  | .null, _ | .bool true, _ | .bool false, _ | .num _, _ | .str _, _ | .arr [], _
    | .obj [], _ => by
    rw [writeChars, renderChars]
  | .arr (item :: rest), level => by
    rw [writeChars, renderChars, writeChars_compact item, writeItems_compact rest]
    rfl
  | .obj ((name, value) :: rest), level => by
    rw [writeChars, renderChars, writeChars_compact value, writeMembers_compact rest]
    rfl

theorem writeItems_compact : ∀ (items : List Json) (level : Nat),
    writeItems .compact level items = renderItems items
  | [], _ => by
    rw [writeItems, renderItems]
    rfl
  | item :: rest, level => by
    rw [writeItems, renderItems, writeChars_compact item, writeItems_compact rest]
    rfl

theorem writeMembers_compact : ∀ (members : List (String × Json)) (level : Nat),
    writeMembers .compact level members = renderMembers members
  | [], _ => by
    rw [writeMembers, renderMembers]
    rfl
  | (name, value) :: rest, level => by
    rw [writeMembers, renderMembers, writeChars_compact value, writeMembers_compact rest]
    rfl

end

mutual

theorem writeChars_indented : ∀ (v : Json) (level : Nat),
    v.writeChars .indented level = v.layoutChars level
  | .null, _ | .bool true, _ | .bool false, _ | .num _, _ | .str _, _ | .arr [], _
    | .obj [], _ => by
    rw [writeChars, layoutChars]
  | .arr (item :: rest), level => by
    rw [writeChars, layoutChars, writeChars_indented item, writeItems_indented rest]
    rfl
  | .obj ((name, value) :: rest), level => by
    rw [writeChars, layoutChars, writeChars_indented value, writeMembers_indented rest]
    rfl

theorem writeItems_indented : ∀ (items : List Json) (level : Nat),
    writeItems .indented level items = layoutItems level items
  | [], _ => by
    rw [writeItems, layoutItems]
    rfl
  | item :: rest, level => by
    rw [writeItems, layoutItems, writeChars_indented item, writeItems_indented rest]
    rfl

theorem writeMembers_indented : ∀ (members : List (String × Json)) (level : Nat),
    writeMembers .indented level members = layoutMembers level members
  | [], _ => by
    rw [writeMembers, layoutMembers]
    rfl
  | (name, value) :: rest, level => by
    rw [writeMembers, layoutMembers, writeChars_indented value, writeMembers_indented rest]
    rfl

end

end Json

namespace Reader

/-! ## Numerals -/

/-- Digits that fit a word are collected to the number that they spell. -/
theorem collectWhole_digits {n : Nat} (word : n < UInt64.size) :
    (Nat.digits 10 n).reverse.foldl NumberText.Collected.takeWhole ⟨0, 0, false⟩ =
      ⟨n, 0, false⟩ := by
  induction n using Nat.strongRecOn with
  | ind n ih =>
    by_cases none : n = 0
    · subst none
      rfl
    · have front := ih (n / 10) (by omega) (by omega)
      have spelt : n / 10 * 10 + n % 10 = n := by omega
      have fits : NumberText.fits (n / 10) (n % 10) = true := by
        rw [NumberText.fits, spelt]
        exact decide_eq_true word
      rw [Nat.digits_def' (by omega) (by omega), List.reverse_cons, List.foldl_append, front]
      simp only [List.foldl_cons, List.foldl_nil, NumberText.Collected.takeWhole, fits, spelt,
        Bool.not_true, Bool.or_self, Bool.false_eq_true, if_false]

/-- A numeral whose digits before the point were read. -/
def wholeNumeral (n : Nat) : Numeral :=
  if n = 0 then ⟨false, [0], [], false, [], .zero⟩
  else ⟨false, Nat.digits 10 n, [], false, [], .whole⟩

theorem value?_wholeNumeral {n : Nat} (word : n < UInt64.size) :
    (wholeNumeral n).toText.value? = some (.whole n) := by
  unfold wholeNumeral
  split
  · next none =>
    subst none
    rfl
  · have collected : (Numeral.toText ⟨false, Nat.digits 10 n, [], false, [], .whole⟩).collectWhole =
        ⟨n, 0, false⟩ := collectWhole_digits word
    rw [NumberText.value?, collected]
    rfl

theorem canEnd_wholeNumeral (n : Nat) : (wholeNumeral n).canEnd = true := by
  unfold wholeNumeral
  split <;> rfl

theorem read_digitChar (frames : List Frame) {n d : Nat} (some : 0 < n) (digit : d < 10) :
    State.read ⟨frames, .numeral (wholeNumeral n)⟩ d.digitChar =
      ⟨frames, .numeral (wholeNumeral (n * 10 + d))⟩ := by
  have value : digit? d.digitChar = Option.some d := by
    rw [show digit? d.digitChar = Text.digit? d.digitChar from rfl,
      Text.digit?_of_isDigit (by rw [Nat.isDigit_digitChar]; exact decide_eq_true digit),
      Text.valueOf, Nat.toNat_digitChar_sub_48_of_lt_ten digit]
  have digits : Nat.digits 10 (n * 10 + d) = d :: Nat.digits 10 n := by
    rw [Nat.digits_def' (by omega) (by omega), show (n * 10 + d) % 10 = d by omega,
      show (n * 10 + d) / 10 = n by omega]
  rw [wholeNumeral, if_neg (by omega), wholeNumeral, if_neg (by omega), digits]
  simp only [State.read, Numeral.extend?, value]

theorem beginValue_digitChar {frames : List Frame} {d : Nat} (digit : d < 10) :
    State.read ⟨frames, .value⟩ d.digitChar = ⟨frames, .numeral (wholeNumeral d)⟩ := by
  have cases : d = 0 ∨ d = 1 ∨ d = 2 ∨ d = 3 ∨ d = 4 ∨ d = 5 ∨ d = 6 ∨ d = 7 ∨ d = 8 ∨ d = 9 := by
    omega
  rcases cases with rfl | rfl | rfl | rfl | rfl | rfl | rfl | rfl | rfl | rfl <;> rfl

/-- Reading the digits of a number. -/
theorem run_digits (frames : List Frame) (n : Nat) :
    run ⟨frames, .value⟩ ((Nat.toDigits 10 n).map some) = ⟨frames, .numeral (wholeNumeral n)⟩ := by
  induction n using Nat.strongRecOn with
  | ind n ih =>
    by_cases small : n < 10
    · rw [Nat.toDigits_of_lt_base small]
      exact beginValue_digitChar small
    · rw [Nat.toDigits_of_base_le (by omega) (by omega), List.map_append, run_append,
        ih (n / 10) (by omega)]
      have last := read_digitChar frames (show 0 < n / 10 by omega) (show n % 10 < 10 by omega)
      rw [show n / 10 * 10 + n % 10 = n by omega] at last
      exact last

/-! ## Quoted texts -/

theorem hexDigit?_hexDigit : ∀ d, d < 16 → hexDigit? (Json.hexDigit d) = some d := by decide

/-- Reading what stands for one character inside quotes. -/
theorem run_escapeChar (frames : List Frame) (isName : Bool) (chars : List Char) (c : Char) :
    run ⟨frames, .quote ⟨isName, chars, true, .plain⟩⟩ ((Json.escapeChar c).map some) =
      ⟨frames, .quote ⟨isName, c :: chars, true, .plain⟩⟩ := by
  unfold Json.escapeChar
  split
  · next quote =>
    subst quote
    rfl
  split
  · next backslash =>
    subst backslash
    rfl
  split
  · next back =>
    subst back
    rfl
  split
  · next feed =>
    subst feed
    rfl
  split
  · next line =>
    subst line
    rfl
  split
  · next carriage =>
    subst carriage
    rfl
  split
  · next tab =>
    subst tab
    rfl
  split
  · next control =>
    have high := hexDigit?_hexDigit (c.toNat / 16) (by omega)
    have low := hexDigit?_hexDigit (c.toNat % 16) (by omega)
    have whole : c.toNat / 16 * 16 + c.toNat % 16 = c.toNat := by omega
    have zero : hexDigit? '0' = some 0 := rfl
    have small : ¬ 0xd800 ≤ c.toNat := by omega
    have other : ¬ 0xdc00 ≤ c.toNat := by omega
    simp only [run, List.map_cons, List.map_nil, List.foldl_cons, List.foldl_nil, State.step]
    simp [State.read, State.inQuote, State.quotePlain, State.quoteEscape, zero, high, low,
      Quote.endHex, whole, small, other]
  · next quote backslash _ _ _ _ _ control =>
    simp [run, State.step, State.read, State.inQuote, State.quotePlain, quote, backslash, control]

/-- Reading what stands for a text inside quotes. -/
theorem run_escaped (frames : List Frame) (isName : Bool) (text : List Char) (chars : List Char) :
    run ⟨frames, .quote ⟨isName, chars, true, .plain⟩⟩ ((text.flatMap Json.escapeChar).map some) =
      ⟨frames, .quote ⟨isName, text.reverse ++ chars, true, .plain⟩⟩ := by
  induction text generalizing chars with
  | nil => rfl
  | cons c rest ih =>
    rw [List.flatMap_cons, List.map_append, run_append, run_escapeChar, ih, List.reverse_cons,
      List.append_assoc, List.singleton_append]

/-- Reading a quoted text from behind the opening quote. -/
theorem run_quoted (frames : List Frame) (isName : Bool) (text : String) :
    run ⟨frames, .quote ⟨isName, [], true, .plain⟩⟩
        ((text.toList.flatMap Json.escapeChar ++ ['\x22']).map some) =
      State.endQuote ⟨frames, .quote ⟨isName, text.toList.reverse, true, .plain⟩⟩
        ⟨isName, text.toList.reverse, true, .plain⟩ := by
  rw [List.map_append, run_append, run_escaped, List.append_nil]
  rfl

theorem endQuote_text (frames : List Frame) (stage : Stage) (text : String) :
    State.endQuote ⟨frames, stage⟩ ⟨false, text.toList.reverse, true, .plain⟩ =
      State.finish ⟨frames, stage⟩ (.str (some text)) := by
  simp [State.endQuote]

/-! ## Values -/

/-- After a value the reader looks only at the containers that are open. -/
theorem finish_stage (frames : List Frame) (stage stage' : Stage) (d : Draft) :
    State.finish ⟨frames, stage⟩ d = State.finish ⟨frames, stage'⟩ d := by
  cases frames with
  | nil => rfl
  | cons frame rest => cases frame <;> rfl

/-- Behind a value the reader looks at the next character in one way only. -/
theorem read_finish (s : State) (d : Draft) (c : Char) :
    (s.finish d).read c = (s.finish d).afterValue c := by
  obtain ⟨frames, stage⟩ := s
  cases frames with
  | nil => rfl
  | cons frame rest => cases frame <;> rfl

/-- What may follow a value. -/
def Follows (c : Char) : Prop := isBlank c = true ∨ c = ',' ∨ c = ']' ∨ c = '\x7d'

theorem Follows.stops {c : Char} (follows : Follows c) (n : Nat) :
    digit? c = none ∧ (wholeNumeral n).extend? c = none := by
  have cases : c = ' ' ∨ c = '\n' ∨ c = '\t' ∨ c = '\r' ∨ c = ',' ∨ c = ']' ∨ c = '\x7d' := by
    rcases follows with blank | follows
    · simp only [isBlank, Bool.or_eq_true, decide_eq_true_eq] at blank
      tauto
    · exact .inr (.inr (.inr (.inr follows)))
  unfold wholeNumeral
  rcases cases with rfl | rfl | rfl | rfl | rfl | rfl | rfl <;> split <;> exact ⟨rfl, rfl⟩

/-- The reader has read a value inside of some containers, whether it knows that the value is over
or not. -/
structure State.Holds (t : State) (frames : List Frame) (d : Draft) : Prop where
  next : ∀ c, Follows c → t.read c = (State.finish ⟨frames, .value⟩ d).afterValue c
  last : frames = [] → t.result = ⟨d, true⟩

theorem holds_finish (frames : List Frame) (stage : Stage) (d : Draft) :
    (State.finish ⟨frames, stage⟩ d).Holds frames d where
  next c _ := by rw [finish_stage frames stage .value, read_finish]
  last none := by
    subst none
    rfl

theorem holds_numeral (frames : List Frame) {n : Nat} (word : n < UInt64.size) :
    State.Holds ⟨frames, .numeral (wholeNumeral n)⟩ frames (.num (some (.whole n))) where
  next c follows := by
    obtain ⟨other, stops⟩ := follows.stops n
    simp only [State.read, stops, canEnd_wholeNumeral, other, Option.isNone_none, Bool.and_self,
      if_true, value?_wholeNumeral word]
    rw [finish_stage frames _ .value]
  last none := by
    subst none
    simp only [State.result, canEnd_wholeNumeral, if_true, value?_wholeNumeral word, State.finish]

theorem run_cons (s : State) (c : Char) (text : List Char) :
    run s ((c :: text).map some) = run (s.read c) (text.map some) := rfl

/-- Where blanks do not count, they are passed over. -/
theorem run_blanks {s : State} (rests : ∀ c, isBlank c = true → s.read c = s) {blanks : List Char}
    (blank : ∀ c ∈ blanks, isBlank c = true) (text : List Char) :
    run s ((blanks ++ text).map some) = run s (text.map some) := by
  induction blanks with
  | nil => rfl
  | cons c rest ih =>
    rw [List.cons_append, run_cons, rests c (blank c List.mem_cons_self)]
    exact ih fun d listed => blank d (List.mem_cons_of_mem _ listed)

theorem rests_afterValue (s : State) (d : Draft) (c : Char) (blank : isBlank c = true) :
    (s.finish d).read c = s.finish d := by
  rw [read_finish, State.afterValue, if_pos blank]

/-- Between a value and what closes its container blanks are passed over. -/
theorem State.Holds.run_end {t : State} {frames : List Frame} {d : Draft} (holds : t.Holds frames d)
    {blanks : List Char} (blank : ∀ c ∈ blanks, isBlank c = true) {c : Char} (follows : Follows c) :
    run t ((blanks ++ [c]).map some) = (State.finish ⟨frames, .value⟩ d).afterValue c := by
  cases blanks with
  | nil => exact holds.next c follows
  | cons b rest =>
    have first : isBlank b = true := blank b List.mem_cons_self
    rw [List.cons_append, run_cons, holds.next b (Or.inl first), State.afterValue, if_pos first,
      run_blanks (rests_afterValue _ d) fun e listed => blank e (List.mem_cons_of_mem _ listed)]
    exact read_finish ..

/-- Reading the name of a member and what separates it from its value. -/
theorem run_name (form : Json.Form) (stage : Stage) (named : stage = .firstName ∨ stage = .name)
    (level : Nat) (done : List (Option String × Draft)) (old : Option String) (frames : List Frame)
    (name : String) (text : List Char) :
    run ⟨.obj done old :: frames, stage⟩
        ((form.gap level ++ Json.quoteChars name ++ ':' :: (form.space ++ text)).map some) =
      run ⟨.obj done (some name) :: frames, .value⟩ (text.map some) := by
  have rests (c : Char) (blank : isBlank c = true) :
      State.read ⟨.obj done old :: frames, stage⟩ c = ⟨.obj done old :: frames, stage⟩ := by
    rcases named with rfl | rfl <;> simp only [State.read, blank, if_true]
  have opens : State.read ⟨.obj done old :: frames, stage⟩ '\x22' =
      ⟨.obj done old :: frames, .quote ⟨true, [], true, .plain⟩⟩ := by
    rcases named with rfl | rfl <;> rfl
  have closes : State.endQuote
      ⟨.obj done old :: frames, .quote ⟨true, name.toList.reverse, true, .plain⟩⟩
      ⟨true, name.toList.reverse, true, .plain⟩ = ⟨.obj done (some name) :: frames, .colon⟩ := by
    simp [State.endQuote]
  have colon : State.read ⟨.obj done (some name) :: frames, .colon⟩ ':' =
      ⟨.obj done (some name) :: frames, .value⟩ := rfl
  have rests' (c : Char) (blank : isBlank c = true) :
      State.read ⟨.obj done (some name) :: frames, .value⟩ c =
        ⟨.obj done (some name) :: frames, .value⟩ := by
    simp only [State.read, blank, if_true]
  rw [List.append_assoc, run_blanks rests (form.blankGap level), Json.quoteChars, List.cons_append,
    run_cons, opens, List.map_append, run_append, run_quoted, closes, run_cons, colon,
    run_blanks rests' form.blankSpace]

/-- What opens a value is no blank and closes no list. -/
theorem exists_writeChars_eq_cons (form : Json.Form) (level : Nat) {v : Json} (plain : v.Plain) :
    ∃ c text, v.writeChars form level = c :: text ∧ isBlank c = false ∧ c ≠ ']' := by
  cases v with
  | null => exact ⟨_, _, by rw [Json.writeChars], rfl, by decide⟩
  | bool b => cases b <;> exact ⟨_, _, by rw [Json.writeChars], rfl, by decide⟩
  | str s => exact ⟨_, _, by rw [Json.writeChars, Json.quoteChars], rfl, by decide⟩
  | arr items => cases items <;> exact ⟨_, _, by rw [Json.writeChars], rfl, by decide⟩
  | obj members => cases members <;> exact ⟨_, _, by rw [Json.writeChars], rfl, by decide⟩
  | num n =>
    cases n with
    | real x => cases plain
    | whole n =>
      have range : 0 ≤ n ∧ n < UInt64.size := plain
      obtain ⟨k, rfl⟩ := Int.eq_ofNat_of_zero_le range.1
      have spelt : Json.writeChars form level (.num (.whole k)) = Nat.toDigits 10 k := by
        rw [Json.writeChars]
        exact String.toList_ofList
      rw [spelt]
      cases digits : Nat.toDigits 10 k with
      | nil => exact absurd digits Nat.toDigits_ne_nil
      | cons c rest =>
        have front : c ∈ Text.digits k := by
          rw [Text.digits, digits]
          exact List.mem_cons_self
        have digit : c.isDigit = true := Text.isDigit_of_mem_digits front
        refine ⟨c, rest, rfl, ?_, ?_⟩
        · by_contra blank
          simp only [isBlank, Bool.not_eq_false, Bool.or_eq_true, decide_eq_true_eq] at blank
          rcases blank with ((rfl | rfl) | rfl) | rfl <;> cases digit
        · rintro rfl
          cases digit

/-- Behind the bracket that opens a list an item is read like any value. -/
theorem run_firstItem (form : Json.Form) (level : Nat) {v : Json} (plain : v.Plain)
    (frames : List Frame) (text : List Char) :
    run ⟨.arr [] :: frames, .firstItem⟩
        ((form.gap level ++ v.writeChars form level ++ text).map some) =
      run ⟨.arr [] :: frames, .value⟩ ((v.writeChars form level ++ text).map some) := by
  have rests (c : Char) (blank : isBlank c = true) :
      State.read ⟨.arr [] :: frames, .firstItem⟩ c = ⟨.arr [] :: frames, .firstItem⟩ := by
    simp only [State.read, blank, if_true]
  obtain ⟨c, rest, opens, solid, other⟩ := exists_writeChars_eq_cons form level plain
  rw [List.append_assoc, run_blanks rests (form.blankGap level), opens, List.cons_append, run_cons,
    run_cons]
  simp only [State.read, solid, other, Bool.false_eq_true, if_false]
  rfl

open Json in
mutual

/-- Reading a value that was written. -/
theorem holds_writeChars (form : Form) : ∀ (v : Json), v.Plain →
    ∀ (level : Nat) (frames : List Frame),
      (run ⟨frames, .value⟩ ((v.writeChars form level).map some)).Holds frames v.toDraft
  | .null, _, level, frames => by
    have read : run ⟨frames, .value⟩ ((writeChars form level .null).map some) =
        State.finish ⟨frames, .word ['l'] .null⟩ .null := by rw [writeChars]; rfl
    rw [read]
    exact holds_finish ..
  | .bool true, _, level, frames => by
    have read : run ⟨frames, .value⟩ ((writeChars form level (.bool true)).map some) =
        State.finish ⟨frames, .word ['e'] (.bool true)⟩ (.bool true) := by rw [writeChars]; rfl
    rw [read]
    exact holds_finish ..
  | .bool false, _, level, frames => by
    have read : run ⟨frames, .value⟩ ((writeChars form level (.bool false)).map some) =
        State.finish ⟨frames, .word ['e'] (.bool false)⟩ (.bool false) := by rw [writeChars]; rfl
    rw [read]
    exact holds_finish ..
  | .num (.whole n), plain, level, frames => by
    have range : 0 ≤ n ∧ n < UInt64.size := plain
    obtain ⟨k, rfl⟩ := Int.eq_ofNat_of_zero_le range.1
    have spelt : writeChars form level (.num (.whole k)) = Nat.toDigits 10 k := by
      rw [writeChars]
      exact String.toList_ofList
    rw [spelt, run_digits]
    exact holds_numeral frames (Int.ofNat_lt.mp range.2)
  | .str s, _, level, frames => by
    have read : run ⟨frames, .value⟩ ((writeChars form level (.str s)).map some) =
        State.finish ⟨frames, .quote ⟨false, s.toList.reverse, true, .plain⟩⟩ (.str (some s)) := by
      rw [writeChars, quoteChars, run_cons, ← endQuote_text]
      exact run_quoted frames false s
    rw [read]
    exact holds_finish ..
  | .arr [], _, level, frames => by
    have read : run ⟨frames, .value⟩ ((writeChars form level (.arr [])).map some) =
        State.finish ⟨frames, .next⟩ (.arr [] true) := by rw [writeChars]; rfl
    rw [read]
    exact holds_finish ..
  | .arr (item :: rest), plain, level, frames => by
    have parts : item.Plain ∧ PlainItems rest := plain
    have opens : State.read ⟨frames, .value⟩ '[' = ⟨.arr [] :: frames, .firstItem⟩ := rfl
    have first := holds_writeChars form item parts.1 (level + 1) (.arr [] :: frames)
    have read : run ⟨frames, .value⟩ ((writeChars form level (.arr (item :: rest))).map some) =
        State.finish ⟨frames, .next⟩ (.arr (itemsToDraft (item :: rest)) true) := by
      rw [writeChars, run_cons, opens, run_firstItem form _ parts.1, List.map_append, run_append]
      exact run_writeItems form rest parts.2 level first
    rw [read]
    exact holds_finish ..
  | .obj [], _, level, frames => by
    have read : run ⟨frames, .value⟩ ((writeChars form level (.obj [])).map some) =
        State.finish ⟨frames, .next⟩ (.obj [] true) := by rw [writeChars]; rfl
    rw [read]
    exact holds_finish ..
  | .obj ((name, value) :: rest), plain, level, frames => by
    have parts : value.Plain ∧ PlainMembers rest := plain
    have opens : State.read ⟨frames, .value⟩ '\x7b' = ⟨.obj [] none :: frames, .firstName⟩ := rfl
    have first := holds_writeChars form value parts.1 (level + 1) (.obj [] (some name) :: frames)
    have read : run ⟨frames, .value⟩
        ((writeChars form level (.obj ((name, value) :: rest))).map some) =
        State.finish ⟨frames, .next⟩ (.obj (membersToDraft ((name, value) :: rest)) true) := by
      rw [writeChars, run_cons, opens, run_name form _ (Or.inl rfl), List.map_append, run_append]
      exact run_writeMembers form rest parts.2 level first
    rw [read]
    exact holds_finish ..

/-- Reading the further items of a list that was written. -/
theorem run_writeItems (form : Form) : ∀ (items : List Json), PlainItems items →
    ∀ (level : Nat) {t : State} {done : List Draft} {frames : List Frame} {d : Draft},
      t.Holds (.arr done :: frames) d →
    run t ((writeItems form level items).map some) =
      State.finish ⟨frames, .next⟩ (.arr ((d :: done).reverse ++ itemsToDraft items) true)
  | [], _, level, t, done, frames, d, holds => by
    rw [writeItems, holds.run_end (form.blankGap level) (by simp [Follows]), itemsToDraft,
      List.append_nil]
    rfl
  | item :: rest, plain, level, t, done, frames, d, holds => by
    have parts : item.Plain ∧ PlainItems rest := plain
    have after : t.read ',' = ⟨.arr (d :: done) :: frames, .value⟩ :=
      holds.next ',' (by simp [Follows])
    have rests (c : Char) (blank : isBlank c = true) :
        State.read ⟨.arr (d :: done) :: frames, .value⟩ c =
          ⟨.arr (d :: done) :: frames, .value⟩ := by
      simp only [State.read, blank, if_true]
    have first := holds_writeChars form item parts.1 (level + 1) (.arr (d :: done) :: frames)
    rw [writeItems, run_cons, after, List.append_assoc, run_blanks rests (form.blankGap _),
      List.map_append, run_append, run_writeItems form rest parts.2 level first, itemsToDraft,
      List.reverse_cons, List.append_assoc, List.singleton_append]

/-- Reading the further members of an object that was written. -/
theorem run_writeMembers (form : Form) : ∀ (members : List (String × Json)), PlainMembers members →
    ∀ (level : Nat) {t : State} {done : List (Option String × Draft)} {name : Option String}
      {frames : List Frame} {d : Draft}, t.Holds (.obj done name :: frames) d →
    run t ((writeMembers form level members).map some) =
      State.finish ⟨frames, .next⟩
        (.obj (((name, d) :: done).reverse ++ membersToDraft members) true)
  | [], _, level, t, done, name, frames, d, holds => by
    rw [writeMembers, holds.run_end (form.blankGap level) (by simp [Follows]), membersToDraft,
      List.append_nil]
    rfl
  | (name', value) :: rest, plain, level, t, done, name, frames, d, holds => by
    have parts : value.Plain ∧ PlainMembers rest := plain
    have after : t.read ',' = ⟨.obj ((name, d) :: done) none :: frames, .name⟩ :=
      holds.next ',' (by simp [Follows])
    have first := holds_writeChars form value parts.1 (level + 1)
      (.obj ((name, d) :: done) (some name') :: frames)
    rw [writeMembers, run_cons, after, run_name form _ (Or.inr rfl), List.map_append, run_append,
      run_writeMembers form rest parts.2 level first, membersToDraft, List.reverse_cons,
      List.append_assoc, List.singleton_append]

end

/-- What was written on one line is read again. -/
theorem readText_render {v : Json} (plain : v.Plain) : readText v.render = ⟨v.toDraft, true⟩ := by
  have holds := holds_writeChars .compact v plain 0 []
  rw [Json.writeChars_compact] at holds
  rw [readText, Json.render, String.toList_ofList]
  exact holds.last rfl

/-- What was laid out is read again. -/
theorem readText_layout {v : Json} (plain : v.Plain) : readText v.layout = ⟨v.toDraft, true⟩ := by
  have holds := holds_writeChars .indented v plain 0 []
  rw [Json.writeChars_indented] at holds
  rw [readText, Json.layout, String.toList_ofList]
  exact holds.last rfl

end Reader

end VmControl
