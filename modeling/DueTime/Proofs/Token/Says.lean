/-
DueTime.Proofs.Token.Says — what normalized tokens say, form by form.

`Says cs p` holds when the characters `cs`, from the first to the last,
have one of the forms of the grammar and `p` is what that form means. It
is built from three smaller relations: a `Numeral` is a run of ASCII
digits of bounded length with its decimal value, a `ClockTime` is one or
two numerals, and `NamesDay` lists the seventeen spellings of weekdays. No
reader occurs in any of them.
-/
import DueTime.TimePattern.Basic
import DueTime.Text.Digits
import Mathlib.Data.Nat.Digits.Defs

namespace DueTime.Token

/-- One to `most` ASCII digits, the highest first, and their value. -/
structure Numeral (most : Nat) (ds : List Char) (n : Nat) : Prop where
  ne_nil : ds ≠ []
  length_le : ds.length ≤ most
  isDigit : ∀ c ∈ ds, c.isDigit
  value : n = Nat.ofDigits 10 (ds.reverse.map Text.digitValue)

/-- Hours, a colon and minutes. -/
inductive FullTime : List Char → WrittenTime → Prop
  | mk {h m : List Char} {hours minutes : Nat} :
    Numeral 2 h hours → Numeral 2 m minutes → FullTime (h ++ ':' :: m) ⟨hours, minutes⟩

/-- A time with or without minutes, which are zero when left out. -/
inductive ClockTime : List Char → WrittenTime → Prop
  | hour {h : List Char} {hours : Nat} : Numeral 2 h hours → ClockTime h ⟨hours, 0⟩
  | full {cs : List Char} {time : WrittenTime} : FullTime cs time → ClockTime cs time

/-- The spellings of a weekday. -/
def spellings : Weekday → List String
  | .monday => ["monday", "mon"]
  | .tuesday => ["tuesday", "tues", "tue"]
  | .wednesday => ["wednesday", "wed"]
  | .thursday => ["thursday", "thurs", "thur", "thu"]
  | .friday => ["friday", "fri"]
  | .saturday => ["saturday", "sat"]
  | .sunday => ["sunday", "sun"]

/-- The name is a spelling of the weekday. -/
def NamesDay (name : List Char) (w : Weekday) : Prop :=
  ∃ s ∈ spellings w, s.toList = name

/-- What holds of every spelling holds of every name. -/
theorem NamesDay.of_spellings {P : List Char → Prop} {name : List Char} {w : Weekday}
    (h : NamesDay name w) (hP : ∀ w, ∀ s ∈ spellings w, P s.toList) : P name := by
  obtain ⟨s, hs, rfl⟩ := h
  exact hP w s hs

/-- The normalized token has one of the forms of the grammar, and the
pattern is what it says. -/
inductive Says : List Char → TimePattern → Prop
  | forwards {cs : List Char} {length : WrittenTime} :
    FullTime cs length → Says ('+' :: cs) (.relativeOffset .plus length)
  | backwards {cs : List Char} {length : WrittenTime} :
    FullTime cs length → Says ('-' :: cs) (.relativeOffset .minus length)
  | tomorrow {cs : List Char} {time : WrittenTime} :
    ClockTime cs time → Says ("tomorrow ".toList ++ cs) (.tomorrow time)
  | dayAfterTomorrow {text : String} {cs : List Char} {time : WrittenTime} :
    text ∈ ["day-after-tomorrow ", "day after tomorrow ", "overmorrow "] →
    ClockTime cs time → Says (text.toList ++ cs) (.dayAfterTomorrow time)
  | today {cs : List Char} {time : WrittenTime} :
    ClockTime cs time → Says ("today ".toList ++ cs) (.today time)
  | inDays {ds cs : List Char} {days : Nat} {text : String} {time : WrittenTime} :
    Numeral 4 ds days → text ∈ ["-days ", "-day "] → ClockTime cs time →
    Says ("in-".toList ++ (ds ++ (text.toList ++ cs))) (.inDays days time)
  | onWeekday {name cs : List Char} {w : Weekday} {time : WrittenTime} :
    NamesDay name w → ClockTime cs time → Says (name ++ ' ' :: cs) (.onWeekday w time)
  | inOneWeek {cs : List Char} {time : WrittenTime} :
    ClockTime cs time → Says ("in-one-week ".toList ++ cs) (.inOneWeek time)
  | inOneWeekOnWeekday {name cs : List Char} {w : Weekday} {time : WrittenTime} :
    NamesDay name w → ClockTime cs time →
    Says ("in-one-week ".toList ++ (name ++ ' ' :: cs)) (.inOneWeekOnWeekday w time)
  | inWeeksOnWeekday {ds name cs : List Char} {weeks : Nat} {w : Weekday} {time : WrittenTime} :
    Numeral 3 ds weeks → NamesDay name w → ClockTime cs time →
    Says ("in-".toList ++ (ds ++ ("-weeks ".toList ++ (name ++ ' ' :: cs))))
      (.inWeeksOnWeekday weeks w time)
  | plainTime {cs : List Char} {time : WrittenTime} : FullTime cs time → Says cs (.plainTime time)
  | plainHour {cs : List Char} {hours : Nat} : Numeral 2 cs hours → Says cs (.plainHour hours)

/-! ## Bounds -/

/-- A numeral is as small as its digits are few. -/
theorem Numeral.lt_pow {most n : Nat} {ds : List Char} (h : Numeral most ds n) : n < 10 ^ most := by
  rw [h.value]
  have hdigit : ∀ d ∈ ds.reverse.map Text.digitValue, d < 10 := by
    intro d hd
    obtain ⟨c, hc, rfl⟩ := List.mem_map.mp hd
    have hdigit := h.isDigit c (List.mem_reverse.mp hc)
    rw [Char.isDigit_iff_toNat, show '9'.toNat = 57 from rfl, show '0'.toNat = 48 from rfl]
      at hdigit
    rw [Text.digitValue, show '0'.toNat = 48 from rfl]
    omega
  refine Nat.lt_of_lt_of_le (Nat.ofDigits_lt_base_pow_length (by decide) hdigit) ?_
  refine Nat.pow_le_pow_right (by decide) ?_
  rw [List.length_map, List.length_reverse]
  exact h.length_le

theorem FullTime.bounded {cs : List Char} {t : WrittenTime} (h : FullTime cs t) :
    t.hours ≤ 99 ∧ t.minutes ≤ 99 := by
  cases h with
  | mk hh hm => exact ⟨Nat.le_of_lt_succ hh.lt_pow, Nat.le_of_lt_succ hm.lt_pow⟩

theorem ClockTime.bounded {cs : List Char} {t : WrittenTime} (h : ClockTime cs t) :
    t.hours ≤ 99 ∧ t.minutes ≤ 99 := by
  cases h with
  | hour hh => exact ⟨Nat.le_of_lt_succ hh.lt_pow, Nat.zero_le _⟩
  | full hf => exact hf.bounded

/-- Nothing that a token says exceeds its digits. -/
theorem Says.bounded {cs : List Char} {p : TimePattern} (h : Says cs p) :
    p.time.hours ≤ 99 ∧ p.time.minutes ≤ 99 ∧ (∀ days t, p = .inDays days t → days ≤ 9999) ∧
      ∀ weeks w t, p = .inWeeksOnWeekday weeks w t → weeks ≤ 999 := by
  cases h with
  | forwards hf => exact ⟨hf.bounded.1, hf.bounded.2, nofun, nofun⟩
  | backwards hf => exact ⟨hf.bounded.1, hf.bounded.2, nofun, nofun⟩
  | tomorrow hc => exact ⟨hc.bounded.1, hc.bounded.2, nofun, nofun⟩
  | dayAfterTomorrow _ hc => exact ⟨hc.bounded.1, hc.bounded.2, nofun, nofun⟩
  | today hc => exact ⟨hc.bounded.1, hc.bounded.2, nofun, nofun⟩
  | inDays hn _ hc =>
    refine ⟨hc.bounded.1, hc.bounded.2, fun days t heq => ?_, nofun⟩
    cases heq
    exact Nat.le_of_lt_succ hn.lt_pow
  | onWeekday _ hc => exact ⟨hc.bounded.1, hc.bounded.2, nofun, nofun⟩
  | inOneWeek hc => exact ⟨hc.bounded.1, hc.bounded.2, nofun, nofun⟩
  | inOneWeekOnWeekday _ hc => exact ⟨hc.bounded.1, hc.bounded.2, nofun, nofun⟩
  | inWeeksOnWeekday hn _ hc =>
    refine ⟨hc.bounded.1, hc.bounded.2, nofun, fun weeks w t heq => ?_⟩
    cases heq
    exact Nat.le_of_lt_succ hn.lt_pow
  | plainTime hf => exact ⟨hf.bounded.1, hf.bounded.2, nofun, nofun⟩
  | plainHour hn => exact ⟨Nat.le_of_lt_succ hn.lt_pow, Nat.zero_le _, nofun, nofun⟩

end DueTime.Token
