import Mathlib.Data.List.Induction
import VmControl.Proofs.Json.Grammar

/-!
# What the reader takes

Whatever the reader takes as one value spells this value. It is enough that what was read so far is
the beginning of a value, as long as the reader goes on: which value it is then follows from what
the reader makes of it (`Grammar.Spells.readText`).

* `Grammar.Viable`: what was read so far, told by where the reader stands.
* `Grammar.Viable.read`: every further character keeps this.
* `Grammar.readText_eq_iff`: the texts that are taken are those that spell a value.
-/

namespace VmControl

/-- Where a value is still being read. -/
def Reader.Stage.IsAmid : Reader.Stage → Prop
  | .complete _ | .trailing _ | .broken _ => False
  | _ => True

/-- A draft without an end. -/
def Draft.IsOpen : Draft → Prop
  | .cut | .arr _ false | .obj _ false => True
  | _ => False

namespace Grammar

open Reader

variable {frames : List Frame} {text front middle back pre blanks : List Char} {c : Char}
  {p : Phrase} {d v : Draft} {s : State} {negative : Bool}

/-! ## Beginnings of numerals -/

/-- What was read of a numeral. -/
inductive Begun : NumeralStage → List Char → Prop
  | sign : Begun .sign ['-']
  | zero (negative : Bool) : Begun .zero (sign negative ++ ['0'])
  | whole (negative : Bool) {c : Char} {d : Nat} {ds : List Nat} {text : List Char}
      (first : digit? c = some d) (positive : d ≠ 0) (rest : Digits ds text) :
      Begun .whole (Grammar.sign negative ++ c :: text)
  | point (negative : Bool) {whole : List Nat} {front : List Char} (digits : Whole whole front) :
      Begun .point (Grammar.sign negative ++ (front ++ ['.']))
  | fraction (negative : Bool) {whole ds : List Nat} {front text : List Char}
      (digits : Whole whole front) (behind : Digits ds text) (some : ds ≠ []) :
      Begun .fraction (Grammar.sign negative ++ (front ++ '.' :: text))
  | mark (negative : Bool) {whole fraction : List Nat} {front middle : List Char} {mark : Char}
      (digits : Whole whole front) (behind : Fraction fraction middle)
      (marked : mark = 'e' ∨ mark = 'E') :
      Begun .mark (Grammar.sign negative ++ (front ++ (middle ++ [mark])))
  | exponentSign (negative : Bool) {whole fraction : List Nat} {front middle sign : List Char}
      {mark : Char} {minus : Bool} (digits : Whole whole front) (behind : Fraction fraction middle)
      (marked : mark = 'e' ∨ mark = 'E') (signed : ExponentSign minus sign) :
      Begun .exponentSign (Grammar.sign negative ++ (front ++ (middle ++ mark :: sign)))
  | exponent (negative : Bool) {whole fraction ds : List Nat} {front middle sign text : List Char}
      {mark : Char} {minus : Bool} (digits : Whole whole front) (behind : Fraction fraction middle)
      (marked : mark = 'e' ∨ mark = 'E') (signed : ExponentSign minus sign) (power : Digits ds text)
      (some : ds ≠ []) :
      Begun .exponent (Grammar.sign negative ++ (front ++ (middle ++ mark :: (sign ++ text))))

theorem Digits.concat {ds : List Nat} {d : Nat} (digits : Digits ds text)
    (digit : digit? c = some d) :
    Digits (ds ++ [d]) (text ++ [c]) := by
  rw [Digits, List.map_append, List.map_append, digits, List.map_singleton, digit]
  rfl

theorem eq_zero_of_digit (digit : digit? c = some 0) : c = '0' := by
  unfold digit? at digit
  split at digit
  · next bounds =>
    have low : 48 ≤ c.toNat := bounds.1
    have value : c.toNat - 48 = 0 := Option.some.inj digit
    have same : c.toNat = '0'.toNat := by
      show c.toNat = 48
      omega
    exact Char.toNat_inj.mp same
  · cases digit

theorem Begun.extend {n m : Reader.Numeral} (begun : Begun n.stage text)
    (taken : n.extend? c = some m) : Begun m.stage (text ++ [c]) := by
  obtain ⟨negative, whole, fraction, minus, exponent, stage⟩ := n
  dsimp only at begun
  cases begun with
  | sign =>
    cases digit : digit? c with
    | none => simp [Numeral.extend?, digit] at taken
    | some d =>
      cases d with
      | zero =>
        rw [eq_zero_of_digit digit] at taken ⊢
        cases taken
        exact .zero true
      | succ d =>
        simp only [Numeral.extend?, digit, Option.some.injEq] at taken
        subst taken
        have none : Digits [] [] := rfl
        exact .whole true digit (Nat.succ_ne_zero d) none
  | zero negative =>
    cases digit : digit? c with
    | none =>
      simp only [Numeral.extend?, digit] at taken
      split at taken
      · next point =>
        cases taken
        subst point
        simpa using Begun.point negative .zero
      · split at taken
        · next marked =>
          cases taken
          simpa using Begun.mark negative .zero .none (by simpa using marked)
        · cases taken
    | some d => simp [Numeral.extend?, digit] at taken
  | whole negative first positive rest =>
    cases digit : digit? c with
    | none =>
      simp only [Numeral.extend?, digit] at taken
      split at taken
      · next point =>
        cases taken
        subst point
        simpa using Begun.point negative (.more first positive rest)
      · split at taken
        · next marked =>
          cases taken
          simpa using Begun.mark negative (.more first positive rest) .none (by simpa using marked)
        · cases taken
    | some d =>
      simp only [Numeral.extend?, digit, Option.some.injEq] at taken
      subst taken
      simpa using Begun.whole negative first positive (rest.concat digit)
  | point negative digits =>
    cases digit : digit? c with
    | none => simp [Numeral.extend?, digit] at taken
    | some d =>
      simp only [Numeral.extend?, digit, Option.some.injEq] at taken
      subst taken
      have behind : Digits [d] [c] := congrArg (fun o => [o]) digit
      simpa using Begun.fraction negative digits behind (List.cons_ne_nil _ _)
  | fraction negative digits behind given =>
    cases digit : digit? c with
    | none =>
      simp only [Numeral.extend?, digit] at taken
      split at taken
      · next marked =>
        cases taken
        simpa using Begun.mark negative digits (.point behind given) (by simpa using marked)
      · cases taken
    | some d =>
      simp only [Numeral.extend?, digit, Option.some.injEq] at taken
      subst taken
      simpa using Begun.fraction negative digits (behind.concat digit) (by simp)
  | mark negative digits behind marked =>
    cases digit : digit? c with
    | none =>
      simp only [Numeral.extend?, digit] at taken
      split at taken
      · next plus =>
        cases taken
        subst plus
        simpa using Begun.exponentSign negative digits behind marked .plus
      · split at taken
        · next minus =>
          cases taken
          subst minus
          simpa using Begun.exponentSign negative digits behind marked .minus
        · cases taken
    | some d =>
      simp only [Numeral.extend?, digit, Option.some.injEq] at taken
      subst taken
      have power : Digits [d] [c] := congrArg (fun o => [o]) digit
      simpa using Begun.exponent negative digits behind marked .none power (List.cons_ne_nil _ _)
  | exponentSign negative digits behind marked signed =>
    cases digit : digit? c with
    | none => simp [Numeral.extend?, digit] at taken
    | some d =>
      simp only [Numeral.extend?, digit, Option.some.injEq] at taken
      subst taken
      have power : Digits [d] [c] := congrArg (fun o => [o]) digit
      simpa using Begun.exponent negative digits behind marked signed power (List.cons_ne_nil _ _)
  | exponent negative digits behind marked signed power given =>
    cases digit : digit? c with
    | none => simp [Numeral.extend?, digit] at taken
    | some d =>
      simp only [Numeral.extend?, digit, Option.some.injEq] at taken
      subst taken
      simpa using Begun.exponent negative digits behind marked signed (power.concat digit) (by simp)

/-- Where a numeral may end, one has been read. -/
theorem Begun.isNumeral {n : Reader.Numeral} (begun : Begun n.stage text) (ends : n.canEnd = true) :
    ∃ t, IsNumeral t text := by
  obtain ⟨negative, whole, fraction, minus, exponent, stage⟩ := n
  dsimp only at begun
  cases begun with
  | sign | point | mark | exponentSign => cases ends
  | zero negative => exact ⟨_, by simpa using IsNumeral.parts negative .zero .none .none⟩
  | whole negative first positive rest =>
    exact ⟨_, by simpa using IsNumeral.parts negative (.more first positive rest) .none .none⟩
  | fraction negative digits behind given =>
    exact ⟨_, by simpa using IsNumeral.parts negative digits (.point behind given) .none⟩
  | exponent negative digits behind marked signed power given =>
    exact ⟨_, by
      simpa using IsNumeral.parts negative digits behind (.given marked signed power given)⟩

/-! ## Beginnings of quoted texts -/

variable {q : Reader.Quote}

/-- What was read of a unit. -/
inductive Unfinished : QuoteStage → List Char → Prop
  | plain : Unfinished .plain []
  | afterLeading (high : Nat) : Unfinished (.afterLeading high) []
  | escape : Unfinished .escape ['\\']
  | afterLeadingEscape (high : Nat) : Unfinished (.afterLeadingEscape high) ['\\']
  | hex {left value : Nat} {lead : Option Nat} {digits : List Char} (some : 1 ≤ left)
      (four : digits.length + left = 4) (all : ∀ c ∈ digits, hexDigit? c ≠ none) :
      Unfinished (.hex left value lead) ('\\' :: 'u' :: digits)

/-- What was read behind the opening quote. -/
inductive InQuote (q : Reader.Quote) : List Char → Prop
  | units {us : List QuoteUnit} {front part : List Char} (units : Quoted us front)
      (unfinished : Unfinished q.stage part) : InQuote q (front ++ part)

theorem Quoted.concat {us : List QuoteUnit} {u : QuoteUnit} {piece : List Char}
    (units : Quoted us text) (last : Piece u piece) : Quoted (us ++ [u]) (text ++ piece) := by
  induction units with
  | nil =>
    have single := Quoted.cons last .nil
    rwa [List.append_nil] at single
  | cons first rest ih =>
    rw [List.append_assoc]
    exact .cons first ih

/-- What a character inside quotes leads to: a further beginning of a quoted text, its end, or a
fault. -/
inductive Continues (s : State) (q : Reader.Quote) (text : List Char) (c : Char) : State → Prop
  | goesOn {q' : Reader.Quote} (sort : q'.isName = q.isName) (inside : InQuote q' (text ++ [c])) :
      Continues s q text c ⟨s.frames, .quote q'⟩
  | ends {q' : Reader.Quote} {us : List QuoteUnit} (sort : q'.isName = q.isName)
      (closing : c = '\x22')
      (units : Quoted us text) : Continues s q text c (s.endQuote q')
  | fails : Continues s q text c s.fail

theorem continues_plain {us : List QuoteUnit} (units : Quoted us text) {q' : Reader.Quote}
    (sort : q'.isName = q.isName) : Continues s q text c (s.quotePlain q' c) := by
  unfold State.quotePlain
  split
  · next closing => exact .ends sort closing units
  · next other =>
    split
    · next escape =>
      subst escape
      exact .goesOn sort (.units units .escape)
    · next plain =>
      split
      · exact .fails
      · next control =>
        refine .goesOn sort ?_
        have inside := InQuote.units (q := { q' with chars := c :: q'.chars, stage := .plain })
          (units.concat (.plain other plain control)) .plain
        rwa [List.append_nil] at inside

theorem continues_escape {us : List QuoteUnit} (units : Quoted us front) {q' : Reader.Quote}
    (sort : q'.isName = q.isName) (other : c ≠ 'u') :
    Continues s q (front ++ ['\\']) c (s.quoteEscape q' c) := by
  rw [State.quoteEscape, if_neg other]
  split
  · next e stands =>
    refine .goesOn sort ?_
    have inside := InQuote.units (q := { q' with chars := e :: q'.chars, stage := .plain })
      (units.concat (.escape stands)) .plain
    simpa using inside
  · exact .fails

theorem begins_hex {us : List QuoteUnit} (units : Quoted us front) (q' : Reader.Quote)
    (lead : Option Nat) :
    InQuote { q' with stage := .hex 4 0 lead } (front ++ ['\\'] ++ ['u']) := by
  rw [List.append_assoc]
  exact .units units (.hex (by decide) rfl nofun)

theorem exists_hex {digits : List Char} (four : digits.length = 4)
    (all : ∀ c ∈ digits, hexDigit? c ≠ none) : ∃ value, Hex value digits := by
  match digits, four with
  | [a, b, c, e], _ =>
    simp only [List.mem_cons, List.not_mem_nil, or_false, forall_eq_or_imp, forall_eq,
      Option.ne_none_iff_exists'] at all
    obtain ⟨⟨_, first⟩, ⟨_, second⟩, ⟨_, third⟩, ⟨_, fourth⟩⟩ := all
    exact ⟨_, .digits first second third fourth⟩

theorem endHex_spec (q : Reader.Quote) (value : Nat) (lead : Option Nat) :
    (q.endHex value lead).isName = q.isName ∧ Unfinished (q.endHex value lead).stage [] := by
  cases lead with
  | none =>
    unfold Quote.endHex
    dsimp only
    split
    · exact ⟨rfl, .afterLeading value⟩
    · split <;> exact ⟨rfl, .plain⟩
  | some high =>
    unfold Quote.endHex
    dsimp only
    split <;> exact ⟨rfl, .plain⟩

theorem continues_hex {us : List QuoteUnit} (units : Quoted us front) {digits : List Char}
    {left value : Nat} {lead : Option Nat} (staged : q.stage = .hex left value lead)
    (some : 1 ≤ left) (four : digits.length + left = 4) (all : ∀ c ∈ digits, hexDigit? c ≠ none) :
    Continues s q (front ++ '\\' :: 'u' :: digits) c (s.inQuote q c) := by
  unfold State.inQuote
  rw [staged]
  dsimp only
  split
  · exact .fails
  · next d digit =>
    have more : ∀ e ∈ digits ++ [c], hexDigit? e ≠ none := by
      intro e listed
      rcases List.mem_append.mp listed with before | now
      · exact all e before
      · rw [List.mem_singleton.mp now, digit]
        exact nofun
    have longer : (digits ++ [c]).length = digits.length + 1 := by simp
    split
    · omega
    · obtain ⟨total, hex⟩ := exists_hex (longer.trans four) more
      obtain ⟨sort, unfinished⟩ := endHex_spec q (value * 16 + d) lead
      refine .goesOn sort ?_
      have inside := InQuote.units (units.concat (.code hex)) unfinished
      simpa using inside
    · next left before =>
      refine .goesOn rfl ?_
      have inside := InQuote.units (q := { q with stage := .hex left (value * 16 + d) lead }) units
        (.hex (Nat.one_le_iff_ne_zero.mpr before) (by omega) more)
      simpa using inside

theorem InQuote.read (inside : InQuote q text) : Continues s q text c (s.inQuote q c) := by
  obtain ⟨isName, chars, sound, stage⟩ := q
  obtain ⟨units, unfinished⟩ := inside
  cases unfinished with
  | plain =>
    rw [List.append_nil]
    exact continues_plain units rfl
  | afterLeading high =>
    rw [List.append_nil]
    show Continues s _ _ c (if c = '\\' then _ else _)
    split
    · next escape =>
      subst escape
      exact .goesOn rfl (.units units (.afterLeadingEscape high))
    · exact continues_plain units rfl
  | escape =>
    by_cases unit : c = 'u'
    · subst unit
      exact .goesOn rfl (begins_hex units _ none)
    · exact continues_escape units rfl unit
  | afterLeadingEscape high =>
    show Continues s _ _ c (if c = 'u' then _ else _)
    split
    · next unit =>
      subst unit
      exact .goesOn rfl (begins_hex units _ (some high))
    · next other => exact continues_escape units rfl other
  | hex some four all => exact continues_hex units rfl some four all

/-! ## Beginnings of values -/

/-- What was read before a value that stands in the given containers. What they hold does not
matter. -/
inductive Opened : List Frame → List Char → Prop
  | outside : Opened [] []
  | item {frames : List Frame} {done items : List Draft} {pre before front : List Char}
      (outer : Opened frames pre) (blank : Blanks before) (others : Spells (.items items) front) :
      Opened (.arr done :: frames) (pre ++ (before ++ '[' :: front))
  | member {frames : List Frame} {done members : List (Option String × Draft)}
      {old name : Option String}
      {pre before front named : List Char} (outer : Opened frames pre) (blank : Blanks before)
      (others : Spells (.members members) front) (heading : Named name named) :
      Opened (.obj done old :: frames) (pre ++ (before ++ '\x7b' :: (front ++ named)))

/-- What was read so far, by where the reader stands. -/
inductive Viable : State → List Char → Prop
  | value {frames : List Frame} {pre before : List Char} (opened : Opened frames pre)
      (blank : Blanks before) : Viable ⟨frames, .value⟩ (pre ++ before)
  | firstItem {frames : List Frame} {done : List Draft} {pre before behind : List Char}
      (outer : Opened frames pre) (blank : Blanks before) (blank' : Blanks behind) :
      Viable ⟨.arr done :: frames, .firstItem⟩ (pre ++ (before ++ '[' :: behind))
  | firstName {frames : List Frame} {done : List (Option String × Draft)} {old : Option String}
      {pre before behind : List Char} (outer : Opened frames pre) (blank : Blanks before)
      (blank' : Blanks behind) :
      Viable ⟨.obj done old :: frames, .firstName⟩ (pre ++ (before ++ '\x7b' :: behind))
  | name {frames : List Frame} {done members : List (Option String × Draft)} {old : Option String}
      {pre before front behind : List Char} (outer : Opened frames pre) (blank : Blanks before)
      (others : Spells (.members members) front) (blank' : Blanks behind) :
      Viable ⟨.obj done old :: frames, .name⟩ (pre ++ (before ++ '\x7b' :: (front ++ behind)))
  | inName {frames : List Frame} {done members : List (Option String × Draft)} {old : Option String}
      {q : Reader.Quote} {pre before front between text : List Char} (outer : Opened frames pre)
      (blank : Blanks before) (others : Spells (.members members) front) (blank' : Blanks between)
      (isName : q.isName = true) (inside : InQuote q text) :
      Viable ⟨.obj done old :: frames, .quote q⟩
        (pre ++ (before ++ '\x7b' :: (front ++ (between ++ '\x22' :: text))))
  | colon {frames : List Frame} {done members : List (Option String × Draft)} {old : Option String}
      {us : List QuoteUnit} {pre before front between text behind : List Char}
      (outer : Opened frames pre)
      (blank : Blanks before) (others : Spells (.members members) front) (blank' : Blanks between)
      (units : Quoted us text) (blank'' : Blanks behind) :
      Viable ⟨.obj done old :: frames, .colon⟩
        (pre ++ (before ++ '\x7b' :: (front ++ (between ++ '\x22' :: (text ++ '\x22' :: behind)))))
  | next {frame : Frame} {frames : List Frame} {d : Draft} {pre text : List Char}
      (opened : Opened (frame :: frames) pre) (entry : Spells (.entry d) text) :
      Viable ⟨frame :: frames, .next⟩ (pre ++ text)
  | word {frames : List Frame} {e : Char} {rest : List Char} {d v : Draft}
      {pre before front : List Char}
      (opened : Opened frames pre) (blank : Blanks before)
      (value : Spells (.value d) (front ++ e :: rest)) :
      Viable ⟨frames, .word (e :: rest) v⟩ (pre ++ (before ++ front))
  | inText {frames : List Frame} {q : Reader.Quote} {pre before text : List Char}
      (opened : Opened frames pre) (blank : Blanks before) (isText : q.isName = false)
      (inside : InQuote q text) : Viable ⟨frames, .quote q⟩ (pre ++ (before ++ '\x22' :: text))
  | numeral {frames : List Frame} {n : Reader.Numeral} {pre before text : List Char}
      (opened : Opened frames pre) (blank : Blanks before) (begun : Begun n.stage text) :
      Viable ⟨frames, .numeral n⟩ (pre ++ (before ++ text))
  | complete {d v : Draft} {text : List Char} (entry : Spells (.entry d) text) :
      Viable ⟨[], .complete v⟩ text
  | trailing {frames : List Frame} {v : Draft} {text : List Char} :
      Viable ⟨frames, .trailing v⟩ text
  | broken {frames : List Frame} {v : Draft} {text : List Char} (unfinished : v.IsOpen) :
      Viable ⟨frames, .broken v⟩ text

theorem Viable.of_eq (viable : Viable s text) (same : text = front) : Viable s front :=
  same ▸ viable

theorem abandon_isOpen {inner : Draft} (unfinished : inner.IsOpen) :
    (abandon frames inner).IsOpen := by
  induction frames generalizing inner with
  | nil => exact unfinished
  | cons frame rest ih =>
    cases frame with
    | arr | obj => exact ih trivial

theorem abandonBetween_isOpen (frames : List Frame) : (abandonBetween frames).IsOpen := by
  cases frames with
  | nil => trivial
  | cons frame rest =>
    cases frame with
    | arr | obj => exact abandon_isOpen trivial

theorem abandonQuote_isOpen (q : Reader.Quote) (frames : List Frame) :
    (if q.isName then abandonBetween frames else abandon frames .cut).IsOpen := by
  split
  · exact abandonBetween_isOpen frames
  · exact abandon_isOpen trivial

/-- Where a value is not yet complete, a fault leaves a draft without an end. -/
theorem viable_fail (amid : s.stage.IsAmid) : Viable s.fail text := by
  obtain ⟨frames, stage⟩ := s
  cases stage with
  | firstItem | firstName | name | next => exact .broken (abandonBetween_isOpen frames)
  | quote q => exact .broken (abandonQuote_isOpen q frames)
  | value | colon | word | numeral => exact .broken (abandon_isOpen trivial)
  | complete | trailing | broken => exact amid.elim

theorem blanks_nil : Blanks [] := nofun

theorem Blanks.concat (blank : Blanks blanks) (more : isBlank c = true) :
    Blanks (blanks ++ [c]) := by
  intro e listed
  rcases List.mem_append.mp listed with before | now
  · exact blank e before
  · rw [List.mem_singleton.mp now]
    exact more

theorem Spells.blank_behind (spells : Spells (.entry d) text) (blank : isBlank c = true) :
    Spells (.entry d) (text ++ [c]) := by
  cases spells with
  | entry before value behind =>
    rw [List.append_assoc, List.append_assoc]
    exact .entry before value (behind.concat blank)

theorem viable_finish {stage : Stage} {before : List Char} (opened : Opened frames pre)
    (blank : Blanks before) (value : Spells (.value d) text) :
    Viable (State.finish ⟨frames, stage⟩ v) (pre ++ (before ++ text)) := by
  have entry : Spells (.entry d) (before ++ text) := by
    have spells := Spells.entry blank value blanks_nil
    rwa [List.append_nil] at spells
  cases opened with
  | outside => exact .complete entry
  | item outer blank others => exact .next (.item outer blank others) entry
  | member outer blank others heading => exact .next (.member outer blank others heading) entry

/-- A character behind a value. -/
theorem Viable.afterValue (viable : Viable s text)
    (behind : s.stage = .next ∨ ∃ v, s.stage = .complete v) :
    Viable (s.afterValue c) (text ++ [c]) := by
  unfold State.afterValue
  split
  · next blank =>
    cases viable with
    | next opened entry =>
      rw [List.append_assoc]
      exact .next opened (entry.blank_behind blank)
    | complete entry => exact .complete (entry.blank_behind blank)
    | _ => rcases behind with ⟨⟨⟩⟩ | ⟨_, ⟨⟩⟩
  · next solid =>
    cases viable with
    | complete entry => exact .trailing
    | @next frame frames d pre text opened entry =>
      cases opened with
      | @item _ done items pre before front outer blank others =>
        dsimp only
        split
        · next comma =>
          subst comma
          refine .of_eq (.value (.item outer blank (others.item entry)) blanks_nil) ?_
          simp
        · split
          · next closing =>
            subst closing
            refine .of_eq (viable_finish outer blank (.arr others entry)) ?_
            simp
          · exact viable_fail trivial
      | @member _ done members old name pre before front named outer blank others heading =>
        dsimp only
        split
        · next comma =>
          subst comma
          refine .of_eq (.name outer blank (others.member heading entry) blanks_nil) ?_
          simp
        · split
          · next closing =>
            subst closing
            refine .of_eq (viable_finish outer blank (.obj others heading entry)) ?_
            simp
          · exact viable_fail trivial
    | _ => rcases behind with ⟨⟨⟩⟩ | ⟨_, ⟨⟩⟩

theorem inQuote_nil {q : Reader.Quote} (between : q.stage = .plain) : InQuote q [] := by
  have unfinished : Unfinished q.stage [] := between ▸ .plain
  exact .units .nil unfinished

/-- The first character of a value. -/
theorem viable_beginValue {before : List Char} (opened : Opened s.frames pre)
    (blank : Blanks before) :
    Viable (s.beginValue c) (pre ++ (before ++ [c])) := by
  have numeral {n : Reader.Numeral} (begun : Begun n.stage [c]) :
      Viable ⟨s.frames, .numeral n⟩ (pre ++ (before ++ [c])) := .numeral opened blank begun
  have word {e : Char} {rest : List Char} {d v : Draft}
      (value : Spells (.value d) (c :: e :: rest)) :
      Viable ⟨s.frames, .word (e :: rest) v⟩ (pre ++ (before ++ [c])) := .word opened blank value
  unfold State.beginValue
  split
  · next opens =>
    subst opens
    exact .firstItem opened blank blanks_nil
  split
  · next opens =>
    subst opens
    exact .firstName opened blank blanks_nil
  split
  · next opens =>
    subst opens
    exact .inText opened blank rfl (inQuote_nil rfl)
  split
  · next first =>
    subst first
    exact word .wordNull
  split
  · next first =>
    subst first
    exact word .wordTrue
  split
  · next first =>
    subst first
    exact word .wordFalse
  split
  · next minus =>
    subst minus
    exact numeral .sign
  split
  · next zero =>
    rw [eq_zero_of_digit zero]
    rw [eq_zero_of_digit zero] at numeral
    exact numeral (.zero false)
  · next d positive digit =>
    have none : Digits [] [] := rfl
    exact numeral (.whole false digit positive none)
  · exact viable_fail trivial

theorem Viable.read (viable : Viable s text) : Viable (s.read c) (text ++ [c]) := by
  cases viable with
  | value opened blank =>
    rw [List.append_assoc]
    unfold State.read
    dsimp only
    split
    · next more => exact .value opened (blank.concat more)
    · exact viable_beginValue opened blank
  | @firstItem frames done pre before behind outer blank blank' =>
    unfold State.read
    dsimp only
    split
    · next more =>
      refine .of_eq (.firstItem outer blank (blank'.concat more)) ?_
      simp
    split
    · next closing =>
      subst closing
      refine .of_eq (viable_finish outer blank (.emptyArr blank')) ?_
      simp
    · refine .of_eq (viable_beginValue (.item outer blank .noItems) blank') ?_
      simp
  | @firstName frames done old pre before behind outer blank blank' =>
    unfold State.read
    dsimp only
    split
    · next more =>
      refine .of_eq (.firstName outer blank (blank'.concat more)) ?_
      simp
    split
    · next opens =>
      subst opens
      refine .of_eq (.inName outer blank .noMembers blank' rfl (inQuote_nil rfl)) ?_
      simp
    split
    · next closing =>
      subst closing
      refine .of_eq (viable_finish outer blank (.emptyObj blank')) ?_
      simp
    · exact viable_fail trivial
  | @name frames done members old pre before front behind outer blank others blank' =>
    unfold State.read
    dsimp only
    split
    · next more =>
      refine .of_eq (.name outer blank others (blank'.concat more)) ?_
      simp
    split
    · next opens =>
      subst opens
      refine .of_eq (.inName outer blank others blank' rfl (inQuote_nil rfl)) ?_
      simp
    · exact viable_fail trivial
  | @inName frames done members old q pre before front between text outer blank others blank' isName
      inside =>
    have continues := inside.read (s := ⟨.obj done old :: frames, .quote q⟩) (c := c)
    show Viable (State.inQuote ⟨.obj done old :: frames, .quote q⟩ q c) _
    generalize State.inQuote ⟨.obj done old :: frames, .quote q⟩ q c = t at continues ⊢
    cases continues with
    | @goesOn q' sort inside =>
      refine .of_eq (.inName outer blank others blank' (sort.trans isName) inside) ?_
      simp
    | @ends q' us sort closing units =>
      subst closing
      rw [State.endQuote, if_pos (sort.trans isName)]
      refine .of_eq (.colon outer blank others blank' units blanks_nil) ?_
      simp
    | fails => exact viable_fail trivial
  | @colon frames done members old us pre before front between text behind outer blank others blank'
      units blank'' =>
    unfold State.read
    dsimp only
    split
    · next more =>
      refine .of_eq (.colon outer blank others blank' units (blank''.concat more)) ?_
      simp
    split
    · next closing =>
      subst closing
      refine .of_eq (.value (.member outer blank others (.quoted blank' units blank'')) blanks_nil)
        ?_
      simp
    · exact viable_fail trivial
  | next opened entry => exact Viable.afterValue (.next opened entry) (Or.inl rfl)
  | @word frames e rest d v pre before front opened blank value =>
    cases rest with
    | nil =>
      unfold State.read
      dsimp only
      split
      · next same =>
        subst same
        refine .of_eq (viable_finish opened blank value) ?_
        simp
      · exact viable_fail trivial
    | cons e' rest =>
      unfold State.read
      dsimp only
      split
      · next same =>
        subst same
        rw [List.append_cons] at value
        refine .of_eq (.word opened blank value) ?_
        simp
      · exact viable_fail trivial
  | @inText frames q pre before text opened blank isText inside =>
    have continues := inside.read (s := ⟨frames, .quote q⟩) (c := c)
    show Viable (State.inQuote ⟨frames, .quote q⟩ q c) _
    generalize State.inQuote ⟨frames, .quote q⟩ q c = t at continues ⊢
    cases continues with
    | @goesOn q' sort inside =>
      refine .of_eq (.inText opened blank (sort.trans isText) inside) ?_
      simp
    | @ends q' us sort closing units =>
      subst closing
      have other : q'.isName ≠ true := by
        rw [sort, isText]
        exact Bool.false_ne_true
      rw [State.endQuote, if_neg other]
      refine .of_eq (viable_finish opened blank (.str units)) ?_
      simp
    | fails => exact viable_fail trivial
  | @numeral frames n pre before text opened blank begun =>
    unfold State.read
    dsimp only
    split
    · next m taken =>
      rw [List.append_assoc, List.append_assoc]
      exact .numeral opened blank (begun.extend taken)
    · -- what does not belong to the numeral stands behind it
      split
      · next ends =>
        have canEnd : n.canEnd = true := (Bool.and_eq_true_iff.mp ends).1
        obtain ⟨t, spelt⟩ := begun.isNumeral canEnd
        refine (viable_finish opened blank (.num spelt)).afterValue ?_
        cases opened with
        | outside => exact Or.inr ⟨_, rfl⟩
        | item | member => exact Or.inl rfl
      · exact viable_fail trivial
  | complete entry => exact Viable.afterValue (.complete entry) (Or.inr ⟨_, rfl⟩)
  | trailing => exact .trailing
  | broken unfinished => exact .broken unfinished

theorem viable_run (text : List Char) : Viable (run start (text.map some)) text := by
  induction text using List.reverseRecOn with
  | nil => exact .value .outside blanks_nil
  | append_singleton text c ih =>
    rw [List.map_append, run_append]
    exact ih.read

/-- What the reader has in the end is a draft without an end, or something follows its value, or it
has read a value. -/
theorem Viable.result (viable : Viable s text) :
    s.result.draft.IsOpen ∨ s.result.clean = false ∨ ∃ d, Spells (.entry d) text := by
  cases viable with
  | value | firstItem | firstName | name | colon | word => exact Or.inl (abandon_isOpen trivial)
  | @next frame frames => exact Or.inl (abandonBetween_isOpen (frame :: frames))
  | inName | inText => exact Or.inl (abandonQuote_isOpen _ _)
  | complete entry => exact Or.inr (Or.inr ⟨_, entry⟩)
  | trailing => exact Or.inr (Or.inl rfl)
  | broken unfinished => exact Or.inl unfinished
  | @numeral frames n pre before text opened blank begun =>
    unfold State.result
    dsimp only
    split
    · next ends =>
      cases opened with
      | outside =>
        obtain ⟨t, spelt⟩ := begun.isNumeral ends
        have entry := Spells.entry blank (.num spelt) blanks_nil
        rw [List.append_nil] at entry
        exact Or.inr (Or.inr ⟨_, entry⟩)
      | item => exact Or.inl (abandonBetween_isOpen (.arr (_ :: _) :: _))
      | member => exact Or.inl (abandonBetween_isOpen (.obj (_ :: _) none :: _))
    · exact Or.inl (abandon_isOpen trivial)

/-- What the reader takes as one value spells this value, and the other way round. -/
theorem readText_eq_iff {line : String} (whole : ¬ d.IsOpen) :
    readText line = ⟨d, true⟩ ↔ Spells (.entry d) line.toList := by
  refine ⟨fun read => ?_, Spells.readText⟩
  have viable := (viable_run line.toList).result
  rw [show (run start (line.toList.map some)).result = ⟨d, true⟩ from read] at viable
  rcases viable with unfinished | trailing | ⟨d', spells⟩
  · exact absurd unfinished whole
  · cases trailing
  · -- some value is spelt, and as the reader takes every value, it is the one that was read
    obtain rfl : d' = d := congrArg Reading.draft (spells.readText.symm.trans read)
    exact spells

end Grammar

end VmControl
