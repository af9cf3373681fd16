/-
DueTime.Proofs.Token.Expression — the forms of the grammar as regular
expressions.

`Rule.forms` writes each form of the grammar down as a regular expression,
in the order of the table. `Rule.read_isSome_iff` says that the rule at a
place reads a token if and only if the whole token matches the expression
at that place: no rule refuses a token of its form, and none reads any
other. It rests on one lemma for each kind of piece, which tells what the
piece matches in the words of `DueTime.Proofs.Token.Says`.
-/
import DueTime.Proofs.Token.Table
import Mathlib.Computability.RegularExpressions
import Mathlib.Tactic.IntervalCases

namespace DueTime.Token

open RegularExpression (char)

/-! ## The pieces -/

namespace Form

/-- A fixed text. -/
def text (s : String) : RegularExpression Char :=
  (s.toList.map char).prod

/-- One of several forms. -/
def oneOf (forms : List (RegularExpression Char)) : RegularExpression Char :=
  forms.sum

/-- A form that may be left out. -/
def optional (form : RegularExpression Char) : RegularExpression Char :=
  1 + form

/-- An ASCII digit. -/
def digit : RegularExpression Char :=
  oneOf ("0123456789".toList.map char)

/-- One to `most` digits. -/
def digits : Nat → RegularExpression Char
  | 0 => 0
  | most + 1 => digit * optional (digits most)

/-- Hours, a colon and minutes. -/
def hoursMinutes : RegularExpression Char :=
  digits 2 * text ":" * digits 2

/-- Hours, and a colon and minutes or not. -/
def clock : RegularExpression Char :=
  digits 2 * optional (text ":" * digits 2)

/-- The name of a weekday. -/
def weekday : RegularExpression Char :=
  oneOf (weekdayNames.map (text ·.1))

end Form

open Form in
/-- The forms that the rules read, in the order of the table. -/
def Rule.forms : List (RegularExpression Char) :=
  [oneOf [text "+", text "-"] * hoursMinutes,
   text "tomorrow " * clock,
   oneOf [text "day-after-tomorrow", text "day after tomorrow", text "overmorrow"] * text " " *
     clock,
   text "today " * clock,
   text "in-" * digits 4 * text "-day" * optional (text "s") * text " " * clock,
   weekday * text " " * clock,
   text "in-one-week " * clock,
   text "in-one-week " * weekday * text " " * clock,
   text "in-" * digits 3 * text "-weeks " * weekday * text " " * clock,
   hoursMinutes,
   digits 2]

/-! ## What the pieces match -/

namespace Form

open RegularExpression (matches'_add matches'_epsilon matches'_mul)

variable {cs : List Char} {e f : RegularExpression Char}

theorem mem_optional_iff : cs ∈ (optional e).matches' ↔ cs = [] ∨ cs ∈ e.matches' := by
  rw [optional, matches'_add, Language.mem_add, matches'_epsilon, Language.mem_one]

theorem mem_oneOf_iff {forms : List (RegularExpression Char)} :
    cs ∈ (oneOf forms).matches' ↔ ∃ form ∈ forms, cs ∈ form.matches' := by
  induction forms with
  | nil => simp [oneOf]
  | cons form forms ih =>
    rw [oneOf, List.sum_cons, matches'_add, Language.mem_add]
    simp only [List.mem_cons, exists_eq_or_imp]
    exact or_congr_right ih

theorem mem_text_iff {s : String} : cs ∈ (text s).matches' ↔ cs = s.toList := by
  rw [text]
  generalize s.toList = ts
  induction ts generalizing cs with
  | nil => exact Language.mem_one cs
  | cons t ts ih =>
    rw [List.map_cons, List.prod_cons, matches'_mul, Language.mem_mul]
    simp only [ih]
    constructor
    · rintro ⟨as, has, bs, rfl, rfl⟩
      obtain rfl : as = [t] := has
      rfl
    · rintro rfl
      exact ⟨[t], rfl, ts, rfl, rfl⟩

theorem mem_digit_iff : cs ∈ digit.matches' ↔ ∃ c, c.isDigit ∧ cs = [c] := by
  have hlisted {c : Char} : c ∈ "0123456789".toList ↔ c.isDigit := by
    constructor
    · have hall : "0123456789".toList.all Char.isDigit := by decide
      exact List.all_eq_true.mp hall c
    · intro h
      rw [Char.isDigit_iff_toNat, show '9'.toNat = 57 from rfl, show '0'.toNat = 48 from rfl] at h
      rw [← Char.ofNat_toNat c]
      obtain ⟨hlow, hhigh⟩ := h
      interval_cases c.toNat <;> decide
  rw [digit, mem_oneOf_iff]
  simp only [List.mem_map, ← hlisted]
  constructor
  · rintro ⟨_, ⟨c, hc, rfl⟩, hcs⟩
    exact ⟨c, hc, hcs⟩
  · rintro ⟨c, hc, hcs⟩
    exact ⟨_, ⟨c, hc, rfl⟩, hcs⟩

/-- Some digits, but not too many, make a numeral. -/
theorem mem_digits_iff {most : Nat} : cs ∈ (digits most).matches' ↔ ∃ n, Numeral most cs n := by
  have hnumeral {most : Nat} {cs : List Char} :
      (∃ n, Numeral most cs n) ↔ cs ≠ [] ∧ cs.length ≤ most ∧ ∀ c ∈ cs, c.isDigit := by
    constructor
    · rintro ⟨n, h⟩
      exact ⟨h.ne_nil, h.length_le, h.isDigit⟩
    · rintro ⟨hne, hlen, hdigit⟩
      exact ⟨_, hne, hlen, hdigit, rfl⟩
  induction most generalizing cs with
  | zero =>
    rw [hnumeral]
    refine iff_of_false (Language.notMem_zero cs) ?_
    rintro ⟨hne, hlen, -⟩
    exact hne (List.length_eq_zero_iff.mp (Nat.le_zero.mp hlen))
  | succ most ih =>
    rw [digits, matches'_mul, Language.mem_mul, hnumeral]
    simp only [mem_digit_iff, mem_optional_iff, ih, hnumeral]
    constructor
    · rintro ⟨_, ⟨c, hc, rfl⟩, ds, rfl | ⟨-, hlen, hdigit⟩, rfl⟩
      · simp [hc]
      · simpa [hc, hlen] using hdigit
    · rintro ⟨hne, hlen, hdigit⟩
      obtain ⟨c, ds, rfl⟩ := List.exists_cons_of_ne_nil hne
      obtain ⟨hc, hds⟩ := List.forall_mem_cons.mp hdigit
      refine ⟨[c], ⟨c, hc, rfl⟩, ds, ?_, rfl⟩
      by_cases hempty : ds = []
      · exact Or.inl hempty
      · exact Or.inr ⟨hempty, Nat.le_of_succ_le_succ hlen, hds⟩

theorem mem_hoursMinutes_iff : cs ∈ hoursMinutes.matches' ↔ ∃ t, FullTime cs t := by
  simp only [hoursMinutes, matches'_mul, Language.mem_mul, mem_digits_iff, mem_text_iff]
  constructor
  · rintro ⟨_, ⟨hs, ⟨hours, hh⟩, _, rfl, rfl⟩, ms, ⟨minutes, hm⟩, rfl⟩
    rw [List.append_assoc]
    exact ⟨_, FullTime.mk hh hm⟩
  · rintro ⟨_, hh, hm⟩
    exact ⟨_, ⟨_, ⟨_, hh⟩, _, rfl, rfl⟩, _, ⟨_, hm⟩, List.append_assoc _ _ _⟩

theorem mem_clock_iff : cs ∈ clock.matches' ↔ ∃ t, ClockTime cs t := by
  simp only [clock, matches'_mul, Language.mem_mul, mem_optional_iff, mem_digits_iff,
    mem_text_iff]
  constructor
  · rintro ⟨hs, ⟨hours, hh⟩, _, rfl | ⟨_, rfl, ms, ⟨minutes, hm⟩, rfl⟩, rfl⟩
    · rw [List.append_nil]
      exact ⟨_, ClockTime.hour hh⟩
    · exact ⟨_, ClockTime.full (FullTime.mk hh hm)⟩
  · rintro ⟨_, hh | ⟨⟨hh, hm⟩⟩⟩
    · exact ⟨_, ⟨_, hh⟩, [], Or.inl rfl, List.append_nil _⟩
    · exact ⟨_, ⟨_, hh⟩, _, Or.inr ⟨_, rfl, _, ⟨_, hm⟩, rfl⟩, rfl⟩

theorem mem_weekday_iff : cs ∈ weekday.matches' ↔ ∃ w, NamesDay cs w := by
  rw [weekday, mem_oneOf_iff]
  constructor
  · rintro ⟨_, hform, hcs⟩
    obtain ⟨entry, hentry, rfl⟩ := List.mem_map.mp hform
    have hlisted : ∀ entry ∈ weekdayNames, entry.1 ∈ spellings entry.2 := by decide
    exact ⟨entry.2, entry.1, hlisted _ hentry, (mem_text_iff.mp hcs).symm⟩
  · rintro ⟨w, s, hs, rfl⟩
    have hlisted : ∀ w, ∀ s ∈ spellings w, (s, w) ∈ weekdayNames := by
      intro w
      cases w <;> decide
    exact ⟨_, List.mem_map.mpr ⟨_, hlisted w s hs, rfl⟩, mem_text_iff.mpr rfl⟩

end Form

/-! ## What the forms match -/

namespace Rule

open Form RegularExpression

variable {cs : List Char}

theorem readOffset_isSome_iff :
    (readOffset cs).isSome ↔ cs ∈ (oneOf [text "+", text "-"] * hoursMinutes).matches' := by
  simp only [Option.isSome_iff_exists, readOffset_eq_some_iff, matches'_mul, Language.mem_mul,
    mem_oneOf_iff, mem_hoursMinutes_iff]
  constructor
  · rintro ⟨_, h, hplace⟩
    cases h with
    | forwards hlength =>
      exact ⟨_, ⟨text "+", by simp, mem_text_iff.mpr rfl⟩, _, ⟨_, hlength⟩, rfl⟩
    | backwards hlength =>
      exact ⟨_, ⟨text "-", by simp, mem_text_iff.mpr rfl⟩, _, ⟨_, hlength⟩, rfl⟩
    | _ => cases hplace
  · rintro ⟨sign, ⟨form, hform, hsign⟩, rest, ⟨length, hlength⟩, rfl⟩
    simp only [List.mem_cons, List.not_mem_nil, or_false] at hform
    rcases hform with rfl | rfl
    · rw [mem_text_iff.mp hsign]
      exact ⟨_, Says.forwards hlength, rfl⟩
    · rw [mem_text_iff.mp hsign]
      exact ⟨_, Says.backwards hlength, rfl⟩

theorem readAfter_isSome_iff {s : String} {pattern : WrittenTime → TimePattern} :
    (readAfter s pattern cs).isSome ↔ cs ∈ (text s * clock).matches' := by
  simp only [Option.isSome_iff_exists, readAfter_eq_some_iff, matches'_mul, Language.mem_mul,
    mem_text_iff, mem_clock_iff]
  constructor
  · rintro ⟨_, rest, t, rfl, ht, rfl⟩
    exact ⟨_, rfl, rest, ⟨t, ht⟩, rfl⟩
  · rintro ⟨_, rfl, rest, ⟨t, ht⟩, rfl⟩
    exact ⟨_, rest, t, rfl, ht, rfl⟩

theorem readDayAfterTomorrow_isSome_iff :
    (readDayAfterTomorrow cs).isSome ↔
      cs ∈ (oneOf [text "day-after-tomorrow", text "day after tomorrow", text "overmorrow"] *
        text " " * clock).matches' := by
  simp only [Option.isSome_iff_exists, readDayAfterTomorrow_eq_some_iff, matches'_mul, mul_assoc,
    Language.mem_mul, mem_oneOf_iff, mem_text_iff, mem_clock_iff]
  constructor
  · rintro ⟨_, h, hplace⟩
    cases h with
    | dayAfterTomorrow htext ht =>
      have hlead : ∀ s ∈ ["day-after-tomorrow ", "day after tomorrow ", "overmorrow "],
          ∃ lead ∈ ["day-after-tomorrow", "day after tomorrow", "overmorrow"],
            lead.toList ++ " ".toList = s.toList := by decide
      obtain ⟨lead, hlead, heq⟩ := hlead _ htext
      rw [← heq, List.append_assoc]
      exact ⟨_, ⟨_, List.mem_map_of_mem hlead, mem_text_iff.mpr rfl⟩, _, ⟨_, rfl, _, ⟨_, ht⟩, rfl⟩,
        rfl⟩
    | _ => cases hplace
  · rintro ⟨_, ⟨form, hform, hlead⟩, _, ⟨_, rfl, rest, ⟨t, ht⟩, rfl⟩, rfl⟩
    have htext : ∀ lead ∈ ["day-after-tomorrow", "day after tomorrow", "overmorrow"],
        ∃ s ∈ ["day-after-tomorrow ", "day after tomorrow ", "overmorrow "],
          lead.toList ++ " ".toList = s.toList := by decide
    have hmap : form ∈ ["day-after-tomorrow", "day after tomorrow", "overmorrow"].map text := hform
    obtain ⟨lead, hspelt, rfl⟩ := List.mem_map.mp hmap
    obtain ⟨s, hs, heq⟩ := htext lead hspelt
    rw [mem_text_iff.mp hlead, ← List.append_assoc, heq]
    exact ⟨_, Says.dayAfterTomorrow hs ht, rfl⟩

theorem readInDays_isSome_iff :
    (readInDays cs).isSome ↔
      cs ∈ (text "in-" * digits 4 * text "-day" * optional (text "s") * text " " *
        clock).matches' := by
  simp only [Option.isSome_iff_exists, readInDays_eq_some_iff, matches'_mul, mul_assoc,
    Language.mem_mul, mem_optional_iff, mem_digits_iff, mem_text_iff, mem_clock_iff]
  constructor
  · rintro ⟨_, h, hplace⟩
    cases h with
    | inDays hds htext ht =>
      simp only [List.mem_cons, List.not_mem_nil, or_false] at htext
      rcases htext with rfl | rfl
      · exact ⟨_, rfl, _, ⟨_, ⟨_, hds⟩, _, ⟨_, rfl, _, ⟨_, Or.inr rfl, _,
          ⟨_, rfl, _, ⟨_, ht⟩, rfl⟩, rfl⟩, rfl⟩, rfl⟩, rfl⟩
      · exact ⟨_, rfl, _, ⟨_, ⟨_, hds⟩, _, ⟨_, rfl, _, ⟨_, Or.inl rfl, _,
          ⟨_, rfl, _, ⟨_, ht⟩, rfl⟩, rfl⟩, rfl⟩, rfl⟩, rfl⟩
    | _ => cases hplace
  · rintro ⟨_, rfl, _, ⟨ds, ⟨days, hds⟩, _, ⟨_, rfl, _, ⟨_, hs, _,
      ⟨_, rfl, rest, ⟨t, ht⟩, rfl⟩, rfl⟩, rfl⟩, rfl⟩, rfl⟩
    have hspelt : ∀ s ∈ ["-days ", "-day "],
        ∃ p, Says ("in-".toList ++ (ds ++ (s.toList ++ rest))) p ∧ p.place = 4 :=
      fun s hs => ⟨_, Says.inDays hds hs ht, rfl⟩
    rcases hs with rfl | rfl
    · exact hspelt "-day " (by decide)
    · exact hspelt "-days " (by decide)

theorem readWeekday_isSome_iff :
    (readWeekday cs).isSome ↔ cs ∈ (weekday * text " " * clock).matches' := by
  simp only [Option.isSome_iff_exists, readWeekday_eq_some_iff, matches'_mul, mul_assoc,
    Language.mem_mul, mem_weekday_iff, mem_text_iff, mem_clock_iff]
  constructor
  · rintro ⟨_, h, hplace⟩
    cases h with
    | onWeekday hname ht => exact ⟨_, ⟨_, hname⟩, _, ⟨_, rfl, _, ⟨_, ht⟩, rfl⟩, rfl⟩
    | _ => cases hplace
  · rintro ⟨name, ⟨w, hname⟩, _, ⟨_, rfl, rest, ⟨t, ht⟩, rfl⟩, rfl⟩
    exact ⟨_, Says.onWeekday hname ht, rfl⟩

theorem readInOneWeekOnWeekday_isSome_iff :
    (readInOneWeekOnWeekday cs).isSome ↔
      cs ∈ (text "in-one-week " * weekday * text " " * clock).matches' := by
  simp only [Option.isSome_iff_exists, readInOneWeekOnWeekday_eq_some_iff, matches'_mul,
    mul_assoc, Language.mem_mul, mem_weekday_iff, mem_text_iff, mem_clock_iff]
  constructor
  · rintro ⟨_, h, hplace⟩
    cases h with
    | inOneWeekOnWeekday hname ht =>
      exact ⟨_, rfl, _, ⟨_, ⟨_, hname⟩, _, ⟨_, rfl, _, ⟨_, ht⟩, rfl⟩, rfl⟩, rfl⟩
    | _ => cases hplace
  · rintro ⟨_, rfl, _, ⟨name, ⟨w, hname⟩, _, ⟨_, rfl, rest, ⟨t, ht⟩, rfl⟩, rfl⟩, rfl⟩
    exact ⟨_, Says.inOneWeekOnWeekday hname ht, rfl⟩

theorem readInWeeksOnWeekday_isSome_iff :
    (readInWeeksOnWeekday cs).isSome ↔
      cs ∈ (text "in-" * digits 3 * text "-weeks " * weekday * text " " * clock).matches' := by
  simp only [Option.isSome_iff_exists, readInWeeksOnWeekday_eq_some_iff, matches'_mul, mul_assoc,
    Language.mem_mul, mem_digits_iff, mem_weekday_iff, mem_text_iff, mem_clock_iff]
  constructor
  · rintro ⟨_, h, hplace⟩
    cases h with
    | inWeeksOnWeekday hds hname ht =>
      exact ⟨_, rfl, _, ⟨_, ⟨_, hds⟩, _, ⟨_, rfl, _, ⟨_, ⟨_, hname⟩, _,
        ⟨_, rfl, _, ⟨_, ht⟩, rfl⟩, rfl⟩, rfl⟩, rfl⟩, rfl⟩
    | _ => cases hplace
  · rintro ⟨_, rfl, _, ⟨ds, ⟨weeks, hds⟩, _, ⟨_, rfl, _, ⟨name, ⟨w, hname⟩, _,
      ⟨_, rfl, rest, ⟨t, ht⟩, rfl⟩, rfl⟩, rfl⟩, rfl⟩, rfl⟩
    exact ⟨_, Says.inWeeksOnWeekday hds hname ht, rfl⟩

/-- The rule at a place reads the tokens of the form at that place, and no
other. -/
theorem read_isSome_iff {i : Nat} {rule : Rule} {form : RegularExpression Char}
    (hrule : table[i]? = some rule) (hform : forms[i]? = some form) :
    (rule.read cs).isSome ↔ cs ∈ form.matches' := by
  obtain ⟨hi, rfl⟩ := List.getElem?_eq_some_iff.mp hform
  obtain ⟨-, rfl⟩ := List.getElem?_eq_some_iff.mp hrule
  match i, hi with
  | 0, _ => exact readOffset_isSome_iff
  | 1, _ => exact readAfter_isSome_iff
  | 2, _ => exact readDayAfterTomorrow_isSome_iff
  | 3, _ => exact readAfter_isSome_iff
  | 4, _ => exact readInDays_isSome_iff
  | 5, _ => exact readWeekday_isSome_iff
  | 6, _ => exact readAfter_isSome_iff
  | 7, _ => exact readInOneWeekOnWeekday_isSome_iff
  | 8, _ => exact readInWeeksOnWeekday_isSome_iff
  | 9, _ =>
    show ((fullTime cs).map TimePattern.plainTime).isSome ↔ cs ∈ hoursMinutes.matches'
    rw [Option.isSome_map, Option.isSome_iff_exists, mem_hoursMinutes_iff]
    simp only [fullTime_eq_some_iff]
  | 10, _ =>
    show ((bareHour cs).map TimePattern.plainHour).isSome ↔ cs ∈ (digits 2).matches'
    rw [Option.isSome_map, Option.isSome_iff_exists, mem_digits_iff]
    simp only [bareHour_eq_some_iff]

end Rule

end DueTime.Token
