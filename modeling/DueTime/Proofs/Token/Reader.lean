/-
DueTime.Proofs.Token.Reader — what each piece of a token reads, exactly.

Every reader of `DueTime.Token.Reader` is told by an equivalence: it gives
a value and a rest if and only if the characters split into a piece that
the relations of `DueTime.Proofs.Token.Says` give that value, and the
rest. The run of digits that `number` takes is the longest, so what is
left of it does not begin with a digit; every text that may follow a
number in the grammar begins with something else.
-/
import DueTime.Proofs.Token.Says
import DueTime.Token.Reader

namespace DueTime

/-! ## Fixed texts and runs -/

namespace Text

theorem expect_eq_some_iff {text cs rest : List Char} :
    expect text cs = some rest ↔ cs = text ++ rest := by
  fun_induction expect text cs with
  | case1 cs => simp
  | case2 text c cs ih => simp [ih]
  | case3 t text c cs hne =>
    refine iff_of_false nofun fun heq => hne ?_
    rw [List.cons_append, List.cons.injEq] at heq
    exact heq.1.symm
  | case4 t text => simp

/-- The longest run of characters with a property, and what follows it. -/
theorem takeWhile_dropWhile_eq_iff {p : Char → Bool} {cs run rest : List Char} :
    cs.takeWhile p = run ∧ cs.dropWhile p = rest ↔
      cs = run ++ rest ∧ (∀ c ∈ run, p c) ∧ ∀ c ∈ rest.head?, ¬ p c := by
  constructor
  · rintro ⟨rfl, rfl⟩
    refine ⟨List.takeWhile_append_dropWhile.symm, fun c hc => ?_, fun c hc hp => ?_⟩
    · exact List.all_eq_true.mp List.all_takeWhile c hc
    · have hnot := List.head?_dropWhile_not p cs
      rw [Option.mem_def.mp hc] at hnot
      exact Bool.eq_false_iff.mp hnot hp
  · rintro ⟨rfl, hrun, hrest⟩
    rw [List.takeWhile_append_of_pos hrun, List.dropWhile_append_of_pos hrun]
    cases rest with
    | nil => exact ⟨List.append_nil run, rfl⟩
    | cons c cs =>
      have hc : ¬ p c := hrest c rfl
      rw [List.takeWhile_cons_of_neg hc, List.dropWhile_cons_of_neg hc]
      exact ⟨List.append_nil run, rfl⟩

/-- The value of a run of digits, read from the highest, is their value in
the positional system. -/
theorem decimalValue_eq (ds : List Char) :
    decimalValue ds = Nat.ofDigits 10 (ds.reverse.map digitValue) := by
  -- The digits still to come shift the value of those read so far.
  have hfrom : ∀ start, Nat.ofDigitChars 10 ds start =
      Nat.ofDigits 10 (ds.reverse.map digitValue) + 10 ^ ds.length * start := by
    induction ds with
    | nil => intro start; simp
    | cons c ds ih =>
      intro start
      rw [Nat.ofDigitChars_cons, ih, List.reverse_cons, List.map_append, Nat.ofDigits_append,
        List.length_map, List.length_reverse, List.length_cons, List.map_singleton,
        Nat.ofDigits_singleton, digitValue]
      ring
  rw [decimalValue, hfrom, Nat.mul_zero, Nat.add_zero]

end Text

namespace Token

open Text (expect_eq_some_iff takeWhile_dropWhile_eq_iff decimalValue_eq)

/-! ## Numbers -/

theorem number_eq_some_iff {most n : Nat} {cs rest : List Char} :
    number most cs = some (n, rest) ↔
      ∃ ds, Numeral most ds n ∧ cs = ds ++ rest ∧ ∀ c ∈ rest.head?, ¬ c.isDigit := by
  have hread : number most cs = some (n, rest) ↔
      cs.takeWhile Char.isDigit ≠ [] ∧ (cs.takeWhile Char.isDigit).length ≤ most ∧
        Text.decimalValue (cs.takeWhile Char.isDigit) = n ∧ cs.dropWhile Char.isDigit = rest := by
    simp [number, and_assoc]
  rw [hread]
  constructor
  · rintro ⟨hne, hlen, hvalue, hrest⟩
    obtain ⟨heq, hdigit, hstop⟩ := takeWhile_dropWhile_eq_iff.mp ⟨rfl, hrest⟩
    refine ⟨cs.takeWhile Char.isDigit, ⟨hne, hlen, hdigit, ?_⟩, heq, hstop⟩
    rw [← hvalue, decimalValue_eq]
  · rintro ⟨ds, hds, heq, hstop⟩
    obtain ⟨hrun, hrest⟩ := takeWhile_dropWhile_eq_iff.mpr ⟨heq, hds.isDigit, hstop⟩
    rw [hrun, decimalValue_eq]
    exact ⟨hds.ne_nil, hds.length_le, hds.value.symm, hrest⟩

theorem Numeral.unique {most m n : Nat} {ds : List Char} (hm : Numeral most ds m)
    (hn : Numeral most ds n) : m = n := by
  rw [hm.value, hn.value]

/-! ## Times -/

theorem bareHour_eq_some_iff {hours : Nat} {cs : List Char} :
    bareHour cs = some hours ↔ Numeral 2 cs hours := by
  have hread : bareHour cs = some hours ↔ number 2 cs = some (hours, []) := by
    simp only [bareHour, bind, Option.bind_eq_some_iff, Prod.exists]
    simp
  rw [hread, number_eq_some_iff]
  constructor
  · rintro ⟨ds, hds, rfl, -⟩
    rwa [List.append_nil]
  · intro h
    exact ⟨cs, h, (List.append_nil cs).symm, nofun⟩

theorem fullTime_eq_some_iff {t : WrittenTime} {cs : List Char} :
    fullTime cs = some t ↔ FullTime cs t := by
  have hread : fullTime cs = some t ↔
      ∃ hours rest, number 2 cs = some (hours, ':' :: rest) ∧
        ∃ minutes, bareHour rest = some minutes ∧ ⟨hours, minutes⟩ = t := by
    simp only [fullTime, bareHour, bind, Option.bind_eq_some_iff, Prod.exists, expect_eq_some_iff]
    simp
  rw [hread]
  constructor
  · rintro ⟨hours, rest, hnumber, minutes, hm, rfl⟩
    obtain ⟨ds, hh, rfl, -⟩ := number_eq_some_iff.mp hnumber
    exact FullTime.mk hh (bareHour_eq_some_iff.mp hm)
  · rintro ⟨hh, hm⟩
    -- The run of the hours' digits stops at the colon.
    refine ⟨_, _, number_eq_some_iff.mpr ⟨_, hh, rfl, ?_⟩, _, bareHour_eq_some_iff.mpr hm, rfl⟩
    rintro c ⟨⟩
    decide

/-- The colon tells a full time from an hour. -/
theorem FullTime.not_numeral {most n : Nat} {cs : List Char} {t : WrittenTime}
    (h : FullTime cs t) : ¬ Numeral most cs n := by
  intro hn
  cases h with
  | mk hh hm => exact absurd (hn.isDigit ':' (by simp)) (by decide)

theorem time_eq_some_iff {t : WrittenTime} {cs : List Char} :
    time cs = some t ↔ ClockTime cs t := by
  cases hbare : bareHour cs with
  | some hours =>
    have hn := bareHour_eq_some_iff.mp hbare
    have hread : time cs = some ⟨hours, 0⟩ := by
      rw [time, hbare]
    rw [hread, Option.some.injEq]
    constructor
    · rintro rfl
      exact ClockTime.hour hn
    · intro h
      cases h with
      | hour hh => rw [hn.unique hh]
      | full hf => exact absurd hn hf.not_numeral
  | none =>
    have hread : time cs = fullTime cs := by
      rw [time, hbare]
    rw [hread, fullTime_eq_some_iff]
    refine ⟨ClockTime.full, fun h => ?_⟩
    cases h with
    | hour hh =>
      rw [bareHour_eq_some_iff.mpr hh] at hbare
      cases hbare
    | full hf => exact hf

/-! ## Weekdays -/

theorem weekdayNamed?_eq_some_iff {name : List Char} {w : Weekday} :
    weekdayNamed? name = some w ↔ NamesDay name w := by
  constructor
  · intro h
    have hlisted : ∀ entry ∈ weekdayNames, entry.1 ∈ spellings entry.2 := by decide
    obtain ⟨⟨s, w'⟩, hfind, rfl⟩ := Option.map_eq_some_iff.mp h
    have hname := List.find?_some hfind
    exact ⟨s, hlisted _ (List.mem_of_find?_eq_some hfind), eq_of_beq hname⟩
  · rintro ⟨s, hs, rfl⟩
    have hread : ∀ w, ∀ s ∈ spellings w, weekdayNamed? s.toList = some w := by
      intro w
      cases w <;> decide
    exact hread w s hs

theorem NamesDay.space_notMem {name : List Char} {w : Weekday} (h : NamesDay name w) :
    ' ' ∉ name := by
  refine h.of_spellings (P := (' ' ∉ ·)) fun w => ?_
  cases w <;> decide

theorem weekdayTime_eq_some_iff {cs : List Char} {w : Weekday} {t : WrittenTime} :
    weekdayTime cs = some (w, t) ↔
      ∃ name rest, cs = name ++ ' ' :: rest ∧ NamesDay name w ∧ ClockTime rest t := by
  have hread : weekdayTime cs = some (w, t) ↔
      NamesDay (cs.takeWhile (· != ' ')) w ∧
        ∃ rest, cs.dropWhile (· != ' ') = ' ' :: rest ∧ ClockTime rest t := by
    simp only [weekdayTime, bind, Option.bind_eq_some_iff, expect_eq_some_iff,
      weekdayNamed?_eq_some_iff, time_eq_some_iff]
    simp
  rw [hread]
  constructor
  · rintro ⟨hname, rest, hrest, htime⟩
    obtain ⟨heq, -⟩ := takeWhile_dropWhile_eq_iff.mp ⟨rfl, hrest⟩
    exact ⟨cs.takeWhile (· != ' '), rest, heq, hname, htime⟩
  · rintro ⟨name, rest, rfl, hname, htime⟩
    have hrun : ∀ c ∈ name, (c != ' ') = true := by
      intro c hc
      rw [bne_iff_ne]
      rintro rfl
      exact hname.space_notMem hc
    have hstop : ∀ c ∈ (' ' :: rest).head?, ¬ (c != ' ') = true := by simp
    obtain ⟨hrun, hrest⟩ := takeWhile_dropWhile_eq_iff.mpr ⟨rfl, hrun, hstop⟩
    rw [hrun, hrest]
    exact ⟨hname, rest, rfl, htime⟩

end Token

end DueTime
