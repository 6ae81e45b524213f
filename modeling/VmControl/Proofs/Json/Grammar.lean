import VmControl.Proofs.Json.Layout

/-!
# The grammar of data texts

Which texts are values, told without the reader. A draft keeps the parts of a text in their order,
repeated members among them, so a text that is a value has one draft.

* `Grammar.Spells`: a text is a value, or the items or members before one of them.
* `Grammar.textFrom?`: what quoted characters stand for. A unit given by its number may be half of a
  character, and then the other half has to stand next to it.
* `Grammar.Spells.readText`: the reader takes every such text and gives its draft.
-/

namespace VmControl

/-- A character inside quotes, or a unit that is given by its number. -/
inductive QuoteUnit where
  | char (c : Char)
  | code (value : Nat)

namespace Grammar

open Reader

/-! ## Numerals -/

def Blanks (text : List Char) : Prop := ∀ c ∈ text, isBlank c = true

/-- Digits and what they stand for. -/
def Digits (values : List Nat) (text : List Char) : Prop := text.map digit? = values.map some

/-- The digits of a numeral before its point. -/
inductive Whole : List Nat → List Char → Prop
  | zero : Whole [0] ['0']
  | more {c : Char} {d : Nat} {ds : List Nat} {text : List Char} (first : digit? c = some d)
      (positive : d ≠ 0) (rest : Digits ds text) : Whole (d :: ds) (c :: text)

/-- The point of a numeral and the digits behind it. -/
inductive Fraction : List Nat → List Char → Prop
  | none : Fraction [] []
  | point {ds : List Nat} {text : List Char} (digits : Digits ds text) (some : ds ≠ []) :
      Fraction ds ('.' :: text)

inductive ExponentSign : Bool → List Char → Prop
  | none : ExponentSign false []
  | plus : ExponentSign false ['+']
  | minus : ExponentSign true ['-']

inductive Exponent : Option (Bool × List Nat) → List Char → Prop
  | none : Exponent .none []
  | given {mark : Char} {minus : Bool} {ds : List Nat} {sign text : List Char}
      (marked : mark = 'e' ∨ mark = 'E') (signed : ExponentSign minus sign)
      (digits : Digits ds text)
      (some : ds ≠ []) : Exponent (.some (minus, ds)) (mark :: (sign ++ text))

def sign (negative : Bool) : List Char := if negative then ['-'] else []

/-- A numeral and its parts. -/
inductive IsNumeral : NumberText → List Char → Prop
  | parts (negative : Bool) {whole fraction : List Nat} {exponent : Option (Bool × List Nat)}
      {front middle back : List Char} (digits : Whole whole front)
      (behind : Fraction fraction middle)
      (power : Exponent exponent back) :
      IsNumeral ⟨negative, whole, fraction, exponent, !fraction.isEmpty⟩
        (sign negative ++ front ++ middle ++ back)

/-! ## Quoted texts -/

/-- Four hexadecimal digits and their value. -/
inductive Hex : Nat → List Char → Prop
  | digits {a b c d : Char} {p q r s : Nat} (first : hexDigit? a = some p)
      (second : hexDigit? b = some q)
      (third : hexDigit? c = some r) (fourth : hexDigit? d = some s) :
      Hex (((p * 16 + q) * 16 + r) * 16 + s) [a, b, c, d]

/-- What stands for a unit inside quotes. -/
inductive Piece : QuoteUnit → List Char → Prop
  | plain {c : Char} (quote : c ≠ '\x22') (backslash : c ≠ '\\') (control : ¬ c.toNat < 0x20) :
      Piece (.char c) [c]
  | escape {e c : Char} (stands : escaped? e = some c) : Piece (.char c) ['\\', e]
  | code {value : Nat} {text : List Char} (digits : Hex value text) :
      Piece (.code value) ('\\' :: 'u' :: text)

inductive Quoted : List QuoteUnit → List Char → Prop
  | nil : Quoted [] []
  | cons {u : QuoteUnit} {us : List QuoteUnit} {piece text : List Char} (first : Piece u piece)
      (rest : Quoted us text) : Quoted (u :: us) (piece ++ text)

/-- The first half of a character. -/
def IsLeading (value : Nat) : Prop := 0xd800 ≤ value ∧ value < 0xdc00

/-- The second half of a character. -/
def IsTrailing (value : Nat) : Prop := 0xdc00 ≤ value ∧ value < 0xe000

instance (value : Nat) : Decidable (IsLeading value) := inferInstanceAs (Decidable (_ ∧ _))

instance (value : Nat) : Decidable (IsTrailing value) := inferInstanceAs (Decidable (_ ∧ _))

/-- The character that two halves make. -/
def paired (high low : Nat) : Char :=
  Char.ofNat (0x10000 + (high - 0xd800) * 0x400 + (low - 0xdc00))

/-- What units stand for behind the first half of a character, or behind none. A half without the
other one stands for nothing. -/
def textFrom? : Option Nat → List QuoteUnit → Option (List Char)
  | none, [] => some []
  | none, .char c :: rest => (textFrom? none rest).map (c :: ·)
  | none, .code value :: rest =>
    if IsLeading value then textFrom? (some value) rest
    else if IsTrailing value then none
    else (textFrom? none rest).map (Char.ofNat value :: ·)
  | some high, .code low :: rest =>
    if IsTrailing low then (textFrom? none rest).map (paired high low :: ·) else none
  | some _, _ => none

def textOf? (us : List QuoteUnit) : Option String := (textFrom? none us).map String.ofList

/-- The name of a member, with the colon behind it. -/
inductive Named : Option String → List Char → Prop
  | quoted {us : List QuoteUnit} {before name behind : List Char} (blank : Blanks before)
      (units : Quoted us name) (blank' : Blanks behind) :
      Named (textOf? us) (before ++ '\x22' :: (name ++ '\x22' :: (behind ++ [':'])))

/-! ## Values -/

/-- What a text may spell. -/
inductive Phrase where
  | value (d : Draft)
  /-- A value with blanks around it. -/
  | entry (d : Draft)
  /-- Items of a list with a comma behind each of them. -/
  | items (items : List Draft)
  /-- Members of an object with a comma behind each of them. -/
  | members (members : List (Option String × Draft))

inductive Spells : Phrase → List Char → Prop
  | wordNull : Spells (.value .null) ['n', 'u', 'l', 'l']
  | wordTrue : Spells (.value (.bool true)) ['t', 'r', 'u', 'e']
  | wordFalse : Spells (.value (.bool false)) ['f', 'a', 'l', 's', 'e']
  | num {t : NumberText} {text : List Char} (numeral : IsNumeral t text) :
      Spells (.value (.num t.value?)) text
  | str {us : List QuoteUnit} {text : List Char} (units : Quoted us text) :
      Spells (.value (.str (textOf? us))) ('\x22' :: (text ++ ['\x22']))
  | emptyArr {blanks : List Char} (blank : Blanks blanks) :
      Spells (.value (.arr [] true)) ('[' :: (blanks ++ [']']))
  | arr {items : List Draft} {d : Draft} {front text : List Char}
      (others : Spells (.items items) front)
      (last : Spells (.entry d) text) :
      Spells (.value (.arr (items ++ [d]) true)) ('[' :: (front ++ (text ++ [']'])))
  | emptyObj {blanks : List Char} (blank : Blanks blanks) :
      Spells (.value (.obj [] true)) ('\x7b' :: (blanks ++ ['\x7d']))
  | obj {members : List (Option String × Draft)} {name : Option String} {d : Draft}
      {front named text : List Char} (others : Spells (.members members) front)
      (heading : Named name named) (last : Spells (.entry d) text) :
      Spells (.value (.obj (members ++ [(name, d)]) true))
        ('\x7b' :: (front ++ (named ++ (text ++ ['\x7d']))))
  | entry {d : Draft} {before text behind : List Char} (blank : Blanks before)
      (value : Spells (.value d) text) (blank' : Blanks behind) :
      Spells (.entry d) (before ++ (text ++ behind))
  | noItems : Spells (.items []) []
  | item {items : List Draft} {d : Draft} {front text : List Char}
      (others : Spells (.items items) front)
      (last : Spells (.entry d) text) : Spells (.items (items ++ [d])) (front ++ (text ++ [',']))
  | noMembers : Spells (.members []) []
  | member {members : List (Option String × Draft)} {name : Option String} {d : Draft}
      {front named text : List Char} (others : Spells (.members members) front)
      (heading : Named name named) (last : Spells (.entry d) text) :
      Spells (.members (members ++ [(name, d)])) (front ++ (named ++ (text ++ [','])))

/-! ## Reading numerals -/

variable {frames : List Frame} {text front middle back : List Char} {whole fraction ds : List Nat}
  {exponent : Option (Bool × List Nat)} {negative : Bool} {c e : Char} {d : Nat}

theorem ne_of_digit (digit : digit? c = some d) (other : digit? e = none) : c ≠ e := by
  rintro rfl
  cases digit.symm.trans other

theorem isBlank_of_digit (digit : digit? c = some d) : isBlank c = false := by
  have other {e : Char} (stops : digit? e = none) : decide (c = e) = false :=
    decide_eq_false (ne_of_digit digit stops)
  rw [isBlank, other (by decide), other (by decide), other (by decide), other (by decide)]
  rfl

theorem read_extend {n m : Reader.Numeral} (taken : n.extend? c = some m) :
    State.read ⟨frames, .numeral n⟩ c = ⟨frames, .numeral m⟩ := by
  simp only [State.read, taken]

/-- Digits are added one by one to those in front of them. -/
theorem run_moreDigits {n : List Nat → Reader.Numeral}
    (takes : ∀ {c : Char} {d : Nat}, digit? c = some d →
      ∀ others, (n others).extend? c = some (n (d :: others)))
    (digits : Digits ds text) (others : List Nat) :
    run ⟨frames, .numeral (n others)⟩ (text.map some) =
      ⟨frames, .numeral (n (ds.reverse ++ others))⟩ := by
  induction text generalizing ds others with
  | nil =>
    cases ds with
    | nil => rfl
    | cons d ds => cases digits
  | cons c text ih =>
    cases ds with
    | nil => cases digits
    | cons d ds =>
      obtain ⟨first, rest⟩ := List.cons.inj digits
      rw [run_cons, read_extend (takes first others), ih rest, List.reverse_cons, List.append_assoc]
      rfl

/-- Where the reader stands behind the digits of a numeral without an exponent. -/
def digitStage (whole fraction : List Nat) : NumeralStage :=
  if fraction = [] then if whole = [0] then .zero else .whole else .fraction

theorem digitStage_cases (whole fraction : List Nat) :
    digitStage whole fraction = .zero ∨ digitStage whole fraction = .whole ∨
      digitStage whole fraction = .fraction := by
  unfold digitStage
  split
  · split <;> simp
  · simp

/-- The numeral that the reader has when it has read the given parts. -/
def numeralRead (negative : Bool) (whole fraction : List Nat) :
    Option (Bool × List Nat) → Reader.Numeral
  | some (minus, ds) => ⟨negative, whole.reverse, fraction.reverse, minus, ds.reverse, .exponent⟩
  | none =>
    ⟨negative, whole.reverse, fraction.reverse, false, [], digitStage whole fraction⟩

theorem toText_numeralRead :
    (numeralRead negative whole fraction exponent).toText =
      ⟨negative, whole, fraction, exponent, !fraction.isEmpty⟩ := by
  cases exponent with
  | none =>
    rcases digitStage_cases whole fraction with same | same | same <;>
      simp [numeralRead, Numeral.toText, same]
  | some part => simp [numeralRead, Numeral.toText]

theorem canEnd_numeralRead : (numeralRead negative whole fraction exponent).canEnd = true := by
  cases exponent with
  | none =>
    rcases digitStage_cases whole fraction with same | same | same <;>
      simp only [numeralRead, Numeral.canEnd, same]
  | some part => rfl

theorem beginValue_digit (frames : List Frame) (digit : digit? c = some d) :
    State.read ⟨frames, .value⟩ c =
      ⟨frames, .numeral ⟨false, [d], [], false, [], if d = 0 then .zero else .whole⟩⟩ := by
  have other {e : Char} (stops : digit? e = none) : ¬ c = e := ne_of_digit digit stops
  simp only [State.read, isBlank_of_digit digit, Bool.false_eq_true, if_false]
  rw [State.beginValue, if_neg (other (by decide)), if_neg (other (by decide)),
    if_neg (other (by decide)), if_neg (other (by decide)), if_neg (other (by decide)),
    if_neg (other (by decide)), if_neg (other (by decide)), digit]
  cases d <;> rfl

theorem run_whole (digits : Whole whole front) :
    run ⟨frames, .value⟩ ((sign negative ++ front).map some) =
      ⟨frames, .numeral (numeralRead negative whole [] none)⟩ := by
  have takes {c : Char} {d : Nat} (digit : digit? c = some d) (others : List Nat) :
      Numeral.extend? ⟨negative, others, [], false, [], .whole⟩ c =
        some ⟨negative, d :: others, [], false, [], .whole⟩ := by
    simp only [Numeral.extend?, digit]
  cases digits with
  | zero => cases negative <;> rfl
  | @more c d ds text first positive rest =>
    have begun : run ⟨frames, .value⟩ ((sign negative ++ [c]).map some) =
        ⟨frames, .numeral ⟨negative, [d], [], false, [], .whole⟩⟩ := by
      cases negative with
      | false =>
        have read := beginValue_digit frames first
        rw [if_neg positive] at read
        exact read
      | true =>
        have read : Numeral.extend? ⟨true, [], [], false, [], .sign⟩ c =
            some ⟨true, [d], [], false, [], .whole⟩ := by
          cases d with
          | zero => exact absurd rfl positive
          | succ d => simp only [Numeral.extend?, first]
        exact read_extend read
    have other : d :: ds ≠ [0] := fun same => positive (List.cons.inj same).1
    rw [List.append_cons, List.map_append, run_append, begun,
      run_moreDigits (n := fun others => ⟨negative, others, [], false, [], .whole⟩) takes rest,
      numeralRead, digitStage, if_pos rfl, if_neg other, List.reverse_cons]
    rfl

theorem run_fraction (behind : Fraction fraction middle) :
    run ⟨frames, .numeral (numeralRead negative whole [] none)⟩ (middle.map some) =
      ⟨frames, .numeral (numeralRead negative whole fraction none)⟩ := by
  have takes {c : Char} {d : Nat} (digit : digit? c = some d) (others : List Nat) :
      Numeral.extend? ⟨negative, whole.reverse, others, false, [], .fraction⟩ c =
        some ⟨negative, whole.reverse, d :: others, false, [], .fraction⟩ := by
    simp only [Numeral.extend?, digit]
  cases behind with
  | none => rfl
  | @point _ text digits given =>
    have pointed : Numeral.extend? (numeralRead negative whole [] none) '.' =
        some ⟨negative, whole.reverse, [], false, [], .point⟩ := by
      unfold numeralRead
      by_cases zero : whole = [0]
      · rw [digitStage, if_pos rfl, if_pos zero]
        rfl
      · rw [digitStage, if_pos rfl, if_neg zero]
        rfl
    rw [run_cons, read_extend pointed]
    cases fraction with
    | nil => exact absurd rfl given
    | cons d ds =>
      cases text with
      | nil => cases digits
      | cons c text =>
        obtain ⟨first, rest⟩ := List.cons.inj digits
        have begun : Numeral.extend? ⟨negative, whole.reverse, [], false, [], .point⟩ c =
            some ⟨negative, whole.reverse, [d], false, [], .fraction⟩ := by
          simp only [Numeral.extend?, first]
        rw [run_cons, read_extend begun,
          run_moreDigits (n := fun others => ⟨negative, whole.reverse, others, false,
            [], .fraction⟩)
            takes rest, numeralRead, digitStage, if_neg given, List.reverse_cons]

theorem digit?_mark (marked : c = 'e' ∨ c = 'E') : digit? c = none := by
  rcases marked with rfl | rfl <;> decide

theorem run_exponent (power : Exponent exponent back) :
    run ⟨frames, .numeral (numeralRead negative whole fraction none)⟩ (back.map some) =
      ⟨frames, .numeral (numeralRead negative whole fraction exponent)⟩ := by
  cases power with
  | none => rfl
  | @given mark minus ds sign text marked signed digits given =>
    have takes {c : Char} {d : Nat} (digit : digit? c = some d) (others : List Nat) :
        Numeral.extend? ⟨negative, whole.reverse, fraction.reverse, minus, others, .exponent⟩ c =
          some ⟨negative, whole.reverse, fraction.reverse, minus, d :: others, .exponent⟩ := by
      simp only [Numeral.extend?, digit]
    have begins : Numeral.extend? (numeralRead negative whole fraction none) mark =
        some ⟨negative, whole.reverse, fraction.reverse, false, [], .mark⟩ := by
      have other : mark ≠ '.' := by rcases marked with rfl | rfl <;> decide
      have isMark : (decide (mark = 'e') || decide (mark = 'E')) = true := by simpa using marked
      rcases digitStage_cases whole fraction with same | same | same <;>
        simp only [numeralRead, Numeral.extend?, same, digit?_mark marked, other, isMark,
          if_true, if_false]
    cases ds with
    | nil => exact absurd rfl given
    | cons d ds =>
      cases text with
      | nil => cases digits
      | cons c text =>
        obtain ⟨first, rest⟩ := List.cons.inj digits
        have begun :
            run ⟨frames, .numeral ⟨negative, whole.reverse, fraction.reverse, false, [], .mark⟩⟩
            ((sign ++ [c]).map some) =
            ⟨frames, .numeral ⟨negative, whole.reverse, fraction.reverse, minus,
              [d], .exponent⟩⟩ := by
          cases signed with
          | none => exact read_extend (by simp only [Numeral.extend?, first])
          | plus | minus =>
            refine (run_cons ..).trans ?_
            exact read_extend (by simp only [Numeral.extend?, first])
        rw [run_cons, read_extend begins, List.append_cons, List.map_append, run_append, begun,
          run_moreDigits (n := fun others =>
            ⟨negative, whole.reverse, fraction.reverse, minus, others, .exponent⟩) takes rest,
          numeralRead, List.reverse_cons]

/-- What may follow a value does not belong to a numeral. -/
theorem Follows.stops_numeralRead (follows : Follows c) (negative : Bool)
    (whole fraction : List Nat) (exponent : Option (Bool × List Nat)) :
    digit? c = none ∧ (numeralRead negative whole fraction exponent).extend? c = none := by
  have cases : c = ' ' ∨ c = '\n' ∨ c = '\t' ∨ c = '\r' ∨ c = ',' ∨ c = ']' ∨ c = '\x7d' := by
    rcases follows with blank | follows
    · simp only [isBlank, Bool.or_eq_true, decide_eq_true_eq] at blank
      tauto
    · exact .inr (.inr (.inr (.inr follows)))
  have stops {e : Char} (other : digit? e = none) (point : e ≠ '.') (mark : e ≠ 'e')
      (mark' : e ≠ 'E') :
      (numeralRead negative whole fraction exponent).extend? e = none := by
    cases exponent with
    | none =>
      rcases digitStage_cases whole fraction with same | same | same <;>
        simp [numeralRead, Numeral.extend?, same, other, point, mark, mark']
    | some part => simp only [numeralRead, Numeral.extend?, other]
  rcases cases with rfl | rfl | rfl | rfl | rfl | rfl | rfl <;>
    exact ⟨by decide, stops (by decide) (by decide) (by decide) (by decide)⟩

theorem holds_numeralRead (frames : List Frame) :
    State.Holds ⟨frames, .numeral (numeralRead negative whole fraction exponent)⟩ frames
      (.num (NumberText.value? ⟨negative, whole, fraction, exponent, !fraction.isEmpty⟩)) where
  next c follows := by
    obtain ⟨other, stops⟩ :=
      Follows.stops_numeralRead follows negative whole fraction exponent
    simp only [State.read, stops, canEnd_numeralRead, other, Option.isNone_none, Bool.and_self,
      if_true, toText_numeralRead]
    rw [finish_stage frames _ .value]
  last none := by
    subst none
    simp only [State.result, canEnd_numeralRead, if_true, toText_numeralRead, State.finish]

theorem IsNumeral.holds {t : NumberText} (numeral : IsNumeral t text) (frames : List Frame) :
    (run ⟨frames, .value⟩ (text.map some)).Holds frames (.num t.value?) := by
  cases numeral with
  | parts negative digits behind power =>
    rw [List.map_append, run_append, List.map_append, run_append, run_whole digits,
      run_fraction behind, run_exponent power]
    exact holds_numeralRead frames

/-! ## Reading quoted texts -/

variable {isName sound : Bool} {chars : List Char} {value : Nat} {lead : Option Nat} {u : QuoteUnit}
  {us : List QuoteUnit}

/-- Where the reader stands between two units. -/
def leadStage : Option Nat → QuoteStage
  | none => .plain
  | some high => .afterLeading high

/-- What the characters so far are, unless they are no text. -/
def quotedSoFar (sound : Bool) (chars : List Char) (more : Option (List Char)) :
    Option (List Char) :=
  if sound then more.map (chars.reverse ++ ·) else none

theorem quotedSoFar_false (chars : List Char) (more : Option (List Char)) :
    quotedSoFar false chars more = none := rfl

theorem quotedSoFar_none (sound : Bool) (chars : List Char) :
    quotedSoFar sound chars none = none := by
  cases sound <;> rfl

theorem quotedSoFar_cons (sound : Bool) (chars : List Char) (c : Char) (more : Option (List Char)) :
    quotedSoFar sound (c :: chars) more = quotedSoFar sound chars (more.map (c :: ·)) := by
  cases more <;> cases sound <;> simp [quotedSoFar]

/-- Where the reader stood does not matter when the four digits of a unit are over. -/
theorem endHex_stage (stage stage' : QuoteStage) :
    Quote.endHex ⟨isName, chars, sound, stage⟩ value lead =
      Quote.endHex ⟨isName, chars, sound, stage'⟩ value lead := by
  cases lead <;> rfl

theorem run_hex (digits : Hex value text) :
    run ⟨frames, .quote ⟨isName, chars, sound, .hex 4 0 lead⟩⟩ (text.map some) =
      ⟨frames, .quote (Quote.endHex ⟨isName, chars, sound, .plain⟩ value lead)⟩ := by
  cases digits with
  | digits first second third fourth =>
    simp only [List.map_cons, List.map_nil, run, List.foldl_cons, List.foldl_nil, State.step,
      State.read, State.inQuote, first, second, third, fourth, Nat.zero_mul, Nat.zero_add]
    rw [endHex_stage]

theorem endHex_none : Quote.endHex ⟨isName, chars, sound, .plain⟩ value none =
    if IsLeading value then ⟨isName, chars, sound, .afterLeading value⟩
    else if IsTrailing value then ⟨isName, chars, false, .plain⟩
    else ⟨isName, Char.ofNat value :: chars, sound, .plain⟩ := rfl

theorem endHex_some (high : Nat) : Quote.endHex ⟨isName, chars, sound, .plain⟩ value (some high) =
    if IsTrailing value then ⟨isName, paired high value :: chars, sound, .plain⟩
    else ⟨isName, chars, false, .plain⟩ := rfl

/-- The reader after a unit that stands behind another one, or behind the first half of a
character. -/
theorem run_piece (piece : Piece u text) (frames : List Frame) (isName sound : Bool)
    (chars : List Char) (lead : Option Nat) :
    ∃ sound' chars' lead',
      run ⟨frames, .quote ⟨isName, chars, sound, leadStage lead⟩⟩ (text.map some) =
        ⟨frames, .quote ⟨isName, chars', sound', leadStage lead'⟩⟩ ∧
      ∀ rest, quotedSoFar sound' chars' (textFrom? lead' rest) =
        quotedSoFar sound chars (textFrom? lead (u :: rest)) := by
  cases piece with
  | @plain c quote backslash control =>
    cases lead with
    | none =>
      refine ⟨sound, c :: chars, none, ?_, fun rest => quotedSoFar_cons ..⟩
      simp only [List.map_cons, List.map_nil, run, List.foldl_cons, List.foldl_nil, State.step,
        State.read, State.inQuote, leadStage, State.quotePlain, quote, backslash, control, if_false]
    | some high =>
      refine ⟨false, c :: chars, none, ?_, fun rest => ?_⟩
      · simp only [List.map_cons, List.map_nil, run, List.foldl_cons, List.foldl_nil, State.step,
          State.read, State.inQuote, leadStage, State.quotePlain, quote, backslash,
          control, if_false]
      · rw [quotedSoFar_false, textFrom?, quotedSoFar_none]
        intro _ _ same
        cases same
  | @escape e c stands =>
    have other : e ≠ 'u' := by
      rintro rfl
      cases stands
    cases lead with
    | none =>
      refine ⟨sound, c :: chars, none, ?_, fun rest => quotedSoFar_cons ..⟩
      simp [run, State.step, State.read, State.inQuote, leadStage, State.quotePlain,
        State.quoteEscape, other, stands]
    | some high =>
      refine ⟨false, c :: chars, none, ?_, fun rest => ?_⟩
      · simp [run, State.step, State.read, State.inQuote, leadStage, State.quoteEscape, other,
          stands]
      · rw [quotedSoFar_false, textFrom?, quotedSoFar_none]
        intro _ _ same
        cases same
  | @code value text digits =>
    have opens : run ⟨frames, .quote ⟨isName, chars, sound, leadStage lead⟩⟩
        (['\\', 'u'].map some) =
        ⟨frames, .quote ⟨isName, chars, sound, .hex 4 0 lead⟩⟩ := by
      cases lead <;> rfl
    have read : run ⟨frames, .quote ⟨isName, chars, sound, leadStage lead⟩⟩
        (('\\' :: 'u' :: text).map some) =
        ⟨frames, .quote (Quote.endHex ⟨isName, chars, sound, .plain⟩ value lead)⟩ := by
      rw [← List.singleton_append, ← List.singleton_append (x := 'u'), ← List.append_assoc,
        List.map_append, run_append]
      exact (congrArg (run · (text.map some)) opens).trans (run_hex digits)
    rw [read]
    cases lead with
    | none =>
      rw [endHex_none]
      split
      · next leading =>
        exact ⟨sound, chars, some value, rfl, fun rest => by rw [textFrom?.eq_3, if_pos leading]⟩
      · next other =>
        split
        · next trailing =>
          refine ⟨false, chars, none, rfl, fun rest => ?_⟩
          rw [textFrom?.eq_3, if_neg other, if_pos trailing, quotedSoFar_none, quotedSoFar_false]
        · next single =>
          refine ⟨sound, Char.ofNat value :: chars, none, rfl, fun rest => ?_⟩
          rw [textFrom?.eq_3, if_neg other, if_neg single, quotedSoFar_cons]
    | some high =>
      rw [endHex_some]
      split
      · next trailing =>
        refine ⟨sound, paired high value :: chars, none, rfl, fun rest => ?_⟩
        rw [textFrom?.eq_4, if_pos trailing, quotedSoFar_cons]
      · next other =>
        refine ⟨false, chars, none, rfl, fun rest => ?_⟩
        rw [textFrom?.eq_4, if_neg other, quotedSoFar_none, quotedSoFar_false]

theorem Quoted.run (units : Quoted us text) (frames : List Frame) (isName sound : Bool)
    (chars : List Char) (lead : Option Nat) :
    ∃ sound' chars' lead',
      Reader.run ⟨frames, .quote ⟨isName, chars, sound, leadStage lead⟩⟩ (text.map some) =
        ⟨frames, .quote ⟨isName, chars', sound', leadStage lead'⟩⟩ ∧
      quotedSoFar sound' chars' (textFrom? lead' []) =
        quotedSoFar sound chars (textFrom? lead us) := by
  induction units generalizing sound chars lead with
  | nil => exact ⟨sound, chars, lead, rfl, rfl⟩
  | @cons u us piece text first rest ih =>
    obtain ⟨sound', chars', lead', read, means⟩ := run_piece first frames isName sound chars lead
    obtain ⟨sound'', chars'', lead'', last, same⟩ := ih sound' chars' lead'
    refine ⟨sound'', chars'', lead'', ?_, same.trans (means us)⟩
    rw [List.map_append, run_append, read, last]

/-- Behind its units the closing quote ends a quoted text. -/
theorem Quoted.run_close (units : Quoted us text) (frames : List Frame) (isName : Bool) :
    ∃ s q, Reader.run ⟨frames, .quote ⟨isName, [], true, .plain⟩⟩ ((text ++ ['\x22']).map some) =
        State.endQuote s q ∧ s.frames = frames ∧ q.isName = isName ∧
      (if q.sound then some (String.ofList q.chars.reverse) else none) = textOf? us := by
  obtain ⟨sound, chars, lead, read, means⟩ := units.run frames isName true [] none
  have whole : textOf? us = (quotedSoFar sound chars (textFrom? lead [])).map String.ofList := by
    rw [means, textOf?]
    cases textFrom? none us <;> rfl
  have closes : Reader.run ⟨frames, .quote ⟨isName, [], true, .plain⟩⟩
      ((text ++ ['\x22']).map some) =
      State.read ⟨frames, .quote ⟨isName, chars, sound, leadStage lead⟩⟩ '\x22' := by
    rw [List.map_append, run_append]
    exact congrArg (Reader.run · (['\x22'].map some)) read
  rw [closes, whole]
  cases lead with
  | none =>
    refine ⟨_, ⟨isName, chars, sound, .plain⟩, rfl, rfl, rfl, ?_⟩
    cases sound <;> simp [quotedSoFar, textFrom?]
  | some high =>
    refine ⟨_, ⟨isName, chars, false, .afterLeading high⟩, rfl, rfl, rfl, ?_⟩
    cases sound <;> rfl

theorem holds_str (units : Quoted us text) (frames : List Frame) :
    (Reader.run ⟨frames, .value⟩ (('\x22' :: (text ++ ['\x22'])).map some)).Holds frames
      (.str (textOf? us)) := by
  obtain ⟨s, q, read, rfl, isValue, means⟩ := units.run_close frames false
  have opens : State.read ⟨s.frames, .value⟩ '\x22' =
      ⟨s.frames, .quote ⟨false, [], true, .plain⟩⟩ := rfl
  have ends : State.endQuote s q = State.finish s (.str (textOf? us)) := by
    simp only [State.endQuote, isValue, means, Bool.false_eq_true, if_false]
  rw [run_cons, opens, read, ends]
  exact holds_finish s.frames s.stage _

theorem Named.run {name : Option String} (named : Named name text) {stage : Stage}
    (expects : stage = .firstName ∨ stage = .name) (done : List (Option String × Draft))
    (old : Option String) (frames : List Frame) :
    Reader.run ⟨.obj done old :: frames, stage⟩ (text.map some) =
      ⟨.obj done name :: frames, .value⟩ := by
  cases named with
  | @quoted us before text behind blank units blank' =>
    have rests (c : Char) (blank : isBlank c = true) :
        State.read ⟨.obj done old :: frames, stage⟩ c = ⟨.obj done old :: frames, stage⟩ := by
      rcases expects with rfl | rfl <;> simp only [State.read, blank, if_true]
    have opens : State.read ⟨.obj done old :: frames, stage⟩ '\x22' =
        ⟨.obj done old :: frames, .quote ⟨true, [], true, .plain⟩⟩ := by
      rcases expects with rfl | rfl <;> rfl
    obtain ⟨s, q, read, here, isName, means⟩ := units.run_close (.obj done old :: frames) true
    have ends : State.endQuote s q = ⟨.obj done (textOf? us) :: frames, .colon⟩ := by
      simp only [State.endQuote, isName, means, here, if_true]
    have rests' (c : Char) (blank : isBlank c = true) :
        State.read ⟨.obj done (textOf? us) :: frames, .colon⟩ c =
          ⟨.obj done (textOf? us) :: frames, .colon⟩ := by
      simp only [State.read, blank, if_true]
    rw [run_blanks rests blank, run_cons, opens, List.append_cons, List.map_append,
      run_append, read, ends, run_blanks rests' blank']
    rfl

/-! ## Reading values -/

variable {p : Phrase} {d : Draft}

/-- What the reader expects behind items with a comma behind each of them. -/
def itemStage : List Draft → Stage
  | [] => .firstItem
  | _ :: _ => .value

/-- What the reader expects behind members with a comma behind each of them. -/
def nameStage : List (Option String × Draft) → Stage
  | [] => .firstName
  | _ :: _ => .name

/-- What the reader makes of a phrase, in whatever containers it stands. -/
def Phrase.IsRead (text : List Char) : Phrase → Prop
  | .value d => (∃ c rest, text = c :: rest ∧ isBlank c = false ∧ c ≠ ']') ∧
    ∀ frames, (run ⟨frames, .value⟩ (text.map some)).Holds frames d
  | .entry d => ∀ frames stage, stage = .value ∨ stage = .firstItem →
    (run ⟨frames, stage⟩ (text.map some)).Holds frames d
  | .items done => ∀ frames, run ⟨.arr [] :: frames, .firstItem⟩ (text.map some) =
      ⟨.arr done.reverse :: frames, itemStage done⟩
  | .members done => ∀ frames, run ⟨.obj [] none :: frames, .firstName⟩ (text.map some) =
      ⟨.obj done.reverse none :: frames, nameStage done⟩

theorem holds_blanks {s : State} (holds : s.Holds frames d) {blanks : List Char}
    (blank : Blanks blanks) :
    (run s (blanks.map some)).Holds frames d := by
  cases blanks with
  | nil => exact holds
  | cons c rest =>
    have first : isBlank c = true := blank c List.mem_cons_self
    have passed := run_blanks (rests_afterValue ⟨frames, .value⟩ d)
      (fun e listed => blank e (List.mem_cons_of_mem c listed)) []
    rw [List.append_nil] at passed
    rw [run_cons, holds.next c (Or.inl first), State.afterValue, if_pos first, passed]
    exact holds_finish ..

theorem IsNumeral.exists_cons {t : NumberText} (numeral : IsNumeral t text) :
    ∃ c rest, text = c :: rest ∧ isBlank c = false ∧ c ≠ ']' := by
  cases numeral with
  | @parts negative _ _ _ front middle back digits _ _ =>
    cases negative with
    | true => exact ⟨_, _, rfl, rfl, by decide⟩
    | false =>
      cases digits with
      | zero => exact ⟨_, _, rfl, rfl, by decide⟩
      | more first _ _ => exact ⟨_, _, rfl, isBlank_of_digit first, ne_of_digit first (by decide)⟩

theorem Phrase.IsRead.entry {before behind : List Char} (value : Phrase.IsRead text (.value d))
    (blank : Blanks before) (blank' : Blanks behind) :
    Phrase.IsRead (before ++ (text ++ behind)) (.entry d) := by
  obtain ⟨⟨c, rest, rfl, solid, other⟩, holds⟩ := value
  intro frames stage expects
  have rests (e : Char) (blank : isBlank e = true) :
      State.read ⟨frames, stage⟩ e = ⟨frames, stage⟩ := by
    rcases expects with rfl | rfl <;> simp only [State.read, blank, if_true]
  have begins : State.read ⟨frames, stage⟩ c = State.read ⟨frames, .value⟩ c := by
    rcases expects with rfl | rfl
    · rfl
    · simp only [State.read, solid, other, Bool.false_eq_true, if_false]
      rfl
  have read : run ⟨frames, stage⟩ ((before ++ (c :: rest ++ behind)).map some) =
      run (run ⟨frames, .value⟩ ((c :: rest).map some)) (behind.map some) := by
    rw [run_blanks rests blank, List.cons_append, run_cons, begins, ← run_cons, ← List.cons_append,
      List.map_append, run_append]
  rw [read]
  exact holds_blanks (holds frames) blank'

theorem itemStage_cases (items : List Draft) :
    itemStage items = .value ∨ itemStage items = .firstItem := by
  cases items
  · exact Or.inr rfl
  · exact Or.inl rfl

theorem nameStage_cases (members : List (Option String × Draft)) :
    nameStage members = .firstName ∨ nameStage members = .name := by
  cases members
  · exact Or.inl rfl
  · exact Or.inr rfl

/-- Items are read one after the other. -/
theorem Phrase.IsRead.next_item {items : List Draft} {front : List Char}
    (others : Phrase.IsRead front (.items items)) (last : Phrase.IsRead text (.entry d))
    (frames : List Frame) {c : Char} (follows : Follows c) :
    run ⟨.arr [] :: frames, .firstItem⟩ ((front ++ (text ++ [c])).map some) =
      State.afterValue ⟨.arr (items ++ [d]).reverse :: frames, .next⟩ c := by
  have holds := last (.arr items.reverse :: frames) (itemStage items) (itemStage_cases items)
  rw [List.map_append, run_append, others frames, List.map_append, run_append, List.reverse_append]
  exact holds.next c follows

/-- Members are read one after the other. -/
theorem Phrase.IsRead.next_member {members : List (Option String × Draft)} {name : Option String}
    {front named : List Char} (others : Phrase.IsRead front (.members members))
    (heading : Named name named) (last : Phrase.IsRead text (.entry d)) (frames : List Frame)
    {c : Char} (follows : Follows c) :
    run ⟨.obj [] none :: frames, .firstName⟩ ((front ++ (named ++ (text ++ [c]))).map some) =
      State.afterValue ⟨.obj (members ++ [(name, d)]).reverse none :: frames, .next⟩ c := by
  have holds := last (.obj members.reverse name :: frames) .value (Or.inl rfl)
  rw [List.map_append, run_append, others frames, List.map_append, run_append,
    heading.run (nameStage_cases members), List.map_append, run_append, List.reverse_append]
  exact holds.next c follows

theorem close_arr (items : List Draft) (frames : List Frame) :
    State.afterValue ⟨.arr items.reverse :: frames, .next⟩ ']' =
      State.finish ⟨frames, .next⟩ (.arr items true) := by
  have closes : State.afterValue ⟨.arr items.reverse :: frames, .next⟩ ']' =
      State.finish ⟨frames, .next⟩ (.arr items.reverse.reverse true) := rfl
  rw [closes, List.reverse_reverse]

theorem close_obj (members : List (Option String × Draft)) (name : Option String)
    (frames : List Frame) :
    State.afterValue ⟨.obj members.reverse name :: frames, .next⟩ '\x7d' =
      State.finish ⟨frames, .next⟩ (.obj members true) := by
  have closes : State.afterValue ⟨.obj members.reverse name :: frames, .next⟩ '\x7d' =
      State.finish ⟨frames, .next⟩ (.obj members.reverse.reverse true) := rfl
  rw [closes, List.reverse_reverse]

theorem itemStage_concat (items : List Draft) (d : Draft) : itemStage (items ++ [d]) = .value := by
  cases items <;> rfl

theorem nameStage_concat (members : List (Option String × Draft)) (m : Option String × Draft) :
    nameStage (members ++ [m]) = .name := by
  cases members <;> rfl

theorem Spells.isRead (spells : Spells p text) : p.IsRead text := by
  -- a part of a phrase is read inside of further containers, so the statement is about all of them
  induction spells with
  | wordNull | wordTrue | wordFalse =>
    exact ⟨⟨_, _, rfl, rfl, by decide⟩, fun frames => holds_finish frames _ _⟩
  | num numeral => exact ⟨numeral.exists_cons, numeral.holds⟩
  | str units => exact ⟨⟨_, _, rfl, rfl, by decide⟩, holds_str units⟩
  | emptyArr blank =>
    refine ⟨⟨_, _, rfl, rfl, by decide⟩, fun frames => ?_⟩
    have rests (c : Char) (blank : isBlank c = true) :
        State.read ⟨.arr [] :: frames, .firstItem⟩ c = ⟨.arr [] :: frames, .firstItem⟩ := by
      simp only [State.read, blank, if_true]
    have opens : State.read ⟨frames, .value⟩ '[' = ⟨.arr [] :: frames, .firstItem⟩ := rfl
    rw [run_cons, opens, run_blanks rests blank]
    exact holds_finish frames .next (.arr [] true)
  | @arr items d front text others last ihOthers ihLast =>
    refine ⟨⟨_, _, rfl, rfl, by decide⟩, fun frames => ?_⟩
    have opens : State.read ⟨frames, .value⟩ '[' = ⟨.arr [] :: frames, .firstItem⟩ := rfl
    rw [run_cons, opens, ihOthers.next_item ihLast frames (by simp [Follows]), close_arr]
    exact holds_finish frames .next _
  | emptyObj blank =>
    refine ⟨⟨_, _, rfl, rfl, by decide⟩, fun frames => ?_⟩
    have rests (c : Char) (blank : isBlank c = true) :
        State.read ⟨.obj [] none :: frames, .firstName⟩ c =
          ⟨.obj [] none :: frames, .firstName⟩ := by
      simp only [State.read, blank, if_true]
    have opens : State.read ⟨frames, .value⟩ '\x7b' = ⟨.obj [] none :: frames, .firstName⟩ := rfl
    rw [run_cons, opens, run_blanks rests blank]
    exact holds_finish frames .next (.obj [] true)
  | @obj members name d front named text others heading last ihOthers ihLast =>
    refine ⟨⟨_, _, rfl, rfl, by decide⟩, fun frames => ?_⟩
    have opens : State.read ⟨frames, .value⟩ '\x7b' = ⟨.obj [] none :: frames, .firstName⟩ := rfl
    rw [run_cons, opens, ihOthers.next_member heading ihLast frames (by simp [Follows]), close_obj]
    exact holds_finish frames .next _
  | entry blank value blank' ih => exact ih.entry blank blank'
  | noItems | noMembers => exact fun frames => rfl
  | item others last ihOthers ihLast =>
    intro frames
    rw [ihOthers.next_item ihLast frames (by simp [Follows]), itemStage_concat]
    rfl
  | member others heading last ihOthers ihLast =>
    intro frames
    rw [ihOthers.next_member heading ihLast frames (by simp [Follows]), nameStage_concat]
    rfl

/-- The reader takes every text that is a value, and gives its draft. -/
theorem Spells.readText {line : String} (spells : Spells (.entry d) line.toList) :
    readText line = ⟨d, true⟩ :=
  (spells.isRead [] .value (Or.inl rfl)).last rfl

/-- A text is no two values. -/
theorem Spells.unique {d' : Draft} (one : Spells (.entry d) text) (two : Spells (.entry d') text) :
    d = d' := by
  have first := (one.isRead [] .value (Or.inl rfl)).last rfl
  have second := (two.isRead [] .value (Or.inl rfl)).last rfl
  exact congrArg Reading.draft (first.symm.trans second)

end Grammar

end VmControl
