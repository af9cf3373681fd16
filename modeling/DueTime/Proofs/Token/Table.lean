/-
DueTime.Proofs.Token.Table — each rule of the table reads its own form.

`TimePattern.place` is where the rule of a pattern stands in the table.
`Rule.read_eq_some_iff` says of all eleven rules at once that the rule at a
place reads a token as a pattern if and only if the token says the pattern
(`Says`) and the pattern has that place. It is put together from one lemma
for each reader of `DueTime.Token.Grammar`.
-/
import DueTime.Proofs.Token.Reader
import DueTime.Token.Grammar

namespace DueTime

/-- The place in the table of the rule that gives the pattern. -/
def TimePattern.place : TimePattern → Nat
  | relativeOffset .. => 0
  | tomorrow .. => 1
  | dayAfterTomorrow .. => 2
  | today .. => 3
  | inDays .. => 4
  | onWeekday .. => 5
  | inOneWeek .. => 6
  | inOneWeekOnWeekday .. => 7
  | inWeeksOnWeekday .. => 8
  | plainTime .. => 9
  | plainHour .. => 10

theorem TimePattern.place_lt (p : TimePattern) : p.place < Token.Rule.table.length := by
  cases p <;> simp [place, Token.Rule.table]

namespace Token

open Text (expect_eq_some_iff)

/-! ## Reading each form -/

namespace Rule

variable {cs : List Char} {p : TimePattern}

theorem readOffset_eq_some_iff : readOffset cs = some p ↔ Says cs p ∧ p.place = 0 := by
  constructor
  · intro h
    unfold readOffset at h
    split at h
    · obtain ⟨length, hlength, rfl⟩ := Option.map_eq_some_iff.mp h
      exact ⟨Says.forwards (fullTime_eq_some_iff.mp hlength), rfl⟩
    · obtain ⟨length, hlength, rfl⟩ := Option.map_eq_some_iff.mp h
      exact ⟨Says.backwards (fullTime_eq_some_iff.mp hlength), rfl⟩
    · cases h
  · rintro ⟨h, hplace⟩
    cases h with
    | forwards hlength => rw [readOffset, fullTime_eq_some_iff.mpr hlength, Option.map_some]
    | backwards hlength => rw [readOffset, fullTime_eq_some_iff.mpr hlength, Option.map_some]
    | _ => cases hplace

theorem readAfter_eq_some_iff {text : String} {pattern : WrittenTime → TimePattern} :
    readAfter text pattern cs = some p ↔
      ∃ rest t, cs = text.toList ++ rest ∧ ClockTime rest t ∧ pattern t = p := by
  simp only [readAfter, bind, Option.bind_eq_some_iff, expect_eq_some_iff,
    Option.map_eq_some_iff, time_eq_some_iff]
  simp

/-- Of texts that do not begin with one another, at most one stands in
front, so that the first that reads the token is the only one. -/
theorem findSome?_readAfter_eq_some_iff {texts : List String} {pattern : WrittenTime → TimePattern}
    (hapart : ∀ s ∈ texts, ∀ t ∈ texts, s.toList <+: t.toList → s = t) :
    texts.findSome? (readAfter · pattern cs) = some p ↔
      ∃ text ∈ texts, readAfter text pattern cs = some p := by
  refine ⟨List.exists_of_findSome?_eq_some, ?_⟩
  rintro ⟨text, htext, h⟩
  cases hq : texts.findSome? (readAfter · pattern cs) with
  | none =>
    rw [List.findSome?_eq_none_iff.mp hq text htext] at h
    cases h
  | some q =>
    obtain ⟨first, hfirst, hread⟩ := List.exists_of_findSome?_eq_some hq
    obtain ⟨rest, t, heq, -⟩ := readAfter_eq_some_iff.mp h
    obtain ⟨rest', t', heq', -⟩ := readAfter_eq_some_iff.mp hread
    have hsame : first = text := by
      rcases List.prefix_or_prefix_of_prefix ⟨rest', heq'.symm⟩ ⟨rest, heq.symm⟩ with hle | hle
      · exact hapart first hfirst text htext hle
      · exact (hapart text htext first hfirst hle).symm
    rw [← hread, hsame, h]

theorem readTomorrow_eq_some_iff :
    readAfter "tomorrow " .tomorrow cs = some p ↔ Says cs p ∧ p.place = 1 := by
  rw [readAfter_eq_some_iff]
  constructor
  · rintro ⟨rest, t, rfl, ht, rfl⟩
    exact ⟨Says.tomorrow ht, rfl⟩
  · rintro ⟨h, hplace⟩
    cases h with
    | tomorrow ht => exact ⟨_, _, rfl, ht, rfl⟩
    | _ => cases hplace

theorem readDayAfterTomorrow_eq_some_iff :
    readDayAfterTomorrow cs = some p ↔ Says cs p ∧ p.place = 2 := by
  rw [readDayAfterTomorrow, findSome?_readAfter_eq_some_iff (by decide)]
  simp only [readAfter_eq_some_iff]
  constructor
  · rintro ⟨text, htext, rest, t, rfl, ht, rfl⟩
    exact ⟨Says.dayAfterTomorrow htext ht, rfl⟩
  · rintro ⟨h, hplace⟩
    cases h with
    | dayAfterTomorrow htext ht => exact ⟨_, htext, _, _, rfl, ht, rfl⟩
    | _ => cases hplace

theorem readToday_eq_some_iff :
    readAfter "today " .today cs = some p ↔ Says cs p ∧ p.place = 3 := by
  rw [readAfter_eq_some_iff]
  constructor
  · rintro ⟨rest, t, rfl, ht, rfl⟩
    exact ⟨Says.today ht, rfl⟩
  · rintro ⟨h, hplace⟩
    cases h with
    | today ht => exact ⟨_, _, rfl, ht, rfl⟩
    | _ => cases hplace

theorem readInDays_eq_some_iff : readInDays cs = some p ↔ Says cs p ∧ p.place = 4 := by
  have hread : readInDays cs = some p ↔
      ∃ rest, cs = "in-".toList ++ rest ∧ ∃ days tail, number 4 rest = some (days, tail) ∧
        ∃ text ∈ ["-days ", "-day "], readAfter text (.inDays days) tail = some p := by
    have hapart : ∀ s ∈ ["-days ", "-day "], ∀ t ∈ ["-days ", "-day "],
        s.toList <+: t.toList → s = t := by decide
    simp only [readInDays, bind, Option.bind_eq_some_iff, Prod.exists, expect_eq_some_iff,
      findSome?_readAfter_eq_some_iff hapart]
  rw [hread]
  simp only [readAfter_eq_some_iff]
  constructor
  · rintro ⟨rest, rfl, days, tail, hnumber, text, htext, cs, t, rfl, ht, rfl⟩
    obtain ⟨ds, hds, rfl, -⟩ := number_eq_some_iff.mp hnumber
    exact ⟨Says.inDays hds htext ht, rfl⟩
  · rintro ⟨h, hplace⟩
    cases h with
    | inDays hds htext ht =>
      have hstop : ∀ text ∈ ["-days ", "-day "], ∀ rest : List Char,
          ∀ c ∈ (text.toList ++ rest).head?, ¬ c.isDigit := by
        simp
      exact ⟨_, rfl, _, _, number_eq_some_iff.mpr ⟨_, hds, rfl, hstop _ htext _⟩, _, htext,
        _, _, rfl, ht, rfl⟩
    | _ => cases hplace

theorem readWeekday_eq_some_iff : readWeekday cs = some p ↔ Says cs p ∧ p.place = 5 := by
  simp only [readWeekday, Option.map_eq_some_iff, Prod.exists, weekdayTime_eq_some_iff]
  constructor
  · rintro ⟨w, t, ⟨name, rest, rfl, hname, ht⟩, rfl⟩
    exact ⟨Says.onWeekday hname ht, rfl⟩
  · rintro ⟨h, hplace⟩
    cases h with
    | onWeekday hname ht => exact ⟨_, _, ⟨_, _, rfl, hname, ht⟩, rfl⟩
    | _ => cases hplace

theorem readInOneWeek_eq_some_iff :
    readAfter "in-one-week " .inOneWeek cs = some p ↔ Says cs p ∧ p.place = 6 := by
  rw [readAfter_eq_some_iff]
  constructor
  · rintro ⟨rest, t, rfl, ht, rfl⟩
    exact ⟨Says.inOneWeek ht, rfl⟩
  · rintro ⟨h, hplace⟩
    cases h with
    | inOneWeek ht => exact ⟨_, _, rfl, ht, rfl⟩
    | _ => cases hplace

theorem readInOneWeekOnWeekday_eq_some_iff :
    readInOneWeekOnWeekday cs = some p ↔ Says cs p ∧ p.place = 7 := by
  simp only [readInOneWeekOnWeekday, bind, Option.bind_eq_some_iff, expect_eq_some_iff,
    Option.map_eq_some_iff, Prod.exists, weekdayTime_eq_some_iff]
  constructor
  · rintro ⟨rest, rfl, w, t, ⟨name, cs, rfl, hname, ht⟩, rfl⟩
    exact ⟨Says.inOneWeekOnWeekday hname ht, rfl⟩
  · rintro ⟨h, hplace⟩
    cases h with
    | inOneWeekOnWeekday hname ht => exact ⟨_, rfl, _, _, ⟨_, _, rfl, hname, ht⟩, rfl⟩
    | _ => cases hplace

theorem readInWeeksOnWeekday_eq_some_iff :
    readInWeeksOnWeekday cs = some p ↔ Says cs p ∧ p.place = 8 := by
  simp only [readInWeeksOnWeekday, bind, Option.bind_eq_some_iff, expect_eq_some_iff,
    Option.map_eq_some_iff, Prod.exists, weekdayTime_eq_some_iff]
  constructor
  · rintro ⟨rest, rfl, weeks, tail, hnumber, cs, rfl, w, t, ⟨name, cs, rfl, hname, ht⟩, rfl⟩
    obtain ⟨ds, hds, rfl, -⟩ := number_eq_some_iff.mp hnumber
    exact ⟨Says.inWeeksOnWeekday hds hname ht, rfl⟩
  · rintro ⟨h, hplace⟩
    cases h with
    | inWeeksOnWeekday hds hname ht =>
      have hstop : ∀ rest : List Char, ∀ c ∈ ("-weeks ".toList ++ rest).head?, ¬ c.isDigit := by
        simp
      exact ⟨_, rfl, _, _, number_eq_some_iff.mpr ⟨_, hds, rfl, hstop _⟩, _, rfl,
        _, _, ⟨_, _, rfl, hname, ht⟩, rfl⟩
    | _ => cases hplace

theorem readPlainTime_eq_some_iff :
    (fullTime cs).map .plainTime = some p ↔ Says cs p ∧ p.place = 9 := by
  simp only [Option.map_eq_some_iff, fullTime_eq_some_iff]
  constructor
  · rintro ⟨t, ht, rfl⟩
    exact ⟨Says.plainTime ht, rfl⟩
  · rintro ⟨h, hplace⟩
    cases h with
    | plainTime ht => exact ⟨_, ht, rfl⟩
    | _ => cases hplace

theorem readPlainHour_eq_some_iff :
    (bareHour cs).map .plainHour = some p ↔ Says cs p ∧ p.place = 10 := by
  simp only [Option.map_eq_some_iff, bareHour_eq_some_iff]
  constructor
  · rintro ⟨hours, hh, rfl⟩
    exact ⟨Says.plainHour hh, rfl⟩
  · rintro ⟨h, hplace⟩
    cases h with
    | plainHour hh => exact ⟨_, hh, rfl⟩
    | _ => cases hplace

/-! ## The table -/

/-- The rule at a place reads the tokens that say a pattern of that place,
and reads them as what they say. -/
theorem read_eq_some_iff {i : Nat} {rule : Rule} (hrule : table[i]? = some rule) :
    rule.read cs = some p ↔ Says cs p ∧ p.place = i := by
  obtain ⟨hi, rfl⟩ := List.getElem?_eq_some_iff.mp hrule
  match i, hi with
  | 0, _ => exact readOffset_eq_some_iff
  | 1, _ => exact readTomorrow_eq_some_iff
  | 2, _ => exact readDayAfterTomorrow_eq_some_iff
  | 3, _ => exact readToday_eq_some_iff
  | 4, _ => exact readInDays_eq_some_iff
  | 5, _ => exact readWeekday_eq_some_iff
  | 6, _ => exact readInOneWeek_eq_some_iff
  | 7, _ => exact readInOneWeekOnWeekday_eq_some_iff
  | 8, _ => exact readInWeeksOnWeekday_eq_some_iff
  | 9, _ => exact readPlainTime_eq_some_iff
  | 10, _ => exact readPlainHour_eq_some_iff

end Rule

end Token

end DueTime
