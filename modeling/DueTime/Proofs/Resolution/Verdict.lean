/-
DueTime.Proofs.Resolution.Verdict — what becomes of a token.

Three questions are put to a token before any clock is looked at. Does its
normal form say anything? Are the hours and minutes that it says a time of
day? Does it point back? Only a token that passes them is resolved against
the clock, and then it has an instant or it leads nowhere
(`TimePattern.LeadsNowhere`): the calendar ends before its day or its
instant, or the zone has no instant for a reading that it looks at.
`resolveToken_verdict` puts the questions in their order. The first three
have the same answer at every clock in every zone.

There is one more thing that can happen. Within some hours of the ends of
the calendar a clock may show a day that the calendar does not have
(`TimePattern.Dayless`). What counts days from there is not refused, it
breaks off: so it does in Kolkata on the last evening of UTC
(`resolveToken_breaksOff_kolkata`).
-/
import DueTime.Proofs.Resolution.Refusal
import DueTime.Proofs.Text.Blank
import DueTime.Proofs.Token.Classify

namespace DueTime

/-- The pattern leads to no instant, seen from the clock. -/
inductive TimePattern.LeadsNowhere (now : ZonedTime) (p : TimePattern) : Prop
  /-- The instant so long from now is not in the calendar. -/
  | instantOutside {length : HourMinute} : p.aim = .elapsed →
    p.time = ⟨length.hour, length.minute⟩ →
    ¬ (now.instant.shift (60 * length.minutes)).InCalendar → LeadsNowhere now p
  /-- The day that is meant is not in the calendar. -/
  | dayOutside {time : HourMinute} {today : Date} {k : Nat} :
    p.time = ⟨time.hour, time.minute⟩ → now.date? = some today →
    p.MeansDay now today time k → lastDay < today.number + k → LeadsNowhere now p
  /-- The zone has no instant for a reading that is looked at. -/
  | readingMissing {l : Reading} : p.LooksAt now l → now.zone.localize? l = none →
    LeadsNowhere now p

/-- The pattern counts days, and the clock shows none of the calendar that
they could be counted from. -/
def TimePattern.Dayless (now : ZonedTime) (p : TimePattern) : Prop :=
  p.aim.countsDays ∧ now.date? = none

instance (now : ZonedTime) (p : TimePattern) : Decidable (p.Dayless now) :=
  inferInstanceAs (Decidable (_ ∧ _))

namespace ZonedTime

/-! ## Patterns -/

section
variable {now : ZonedTime} {p : TimePattern} {time : HourMinute}

/-- A pattern that leads nowhere has no instant. -/
theorem resolve_ne_ok_of_leadsNowhere (h : p.LeadsNowhere now) {r : Resolution} :
    now.resolve p ≠ .ok r := by
  intro hr
  cases h with
  | instantOutside haim htime hout =>
    obtain ⟨length, hlength, hi⟩ := exists_addMinutes?_of_resolve hr haim
    obtain rfl := TimePattern.time_unique hlength htime
    rw [Instant.addMinutes?, Instant.ofTimePoint?_eq_some_iff] at hi
    exact hout (hi ▸ r.time.instant.inCalendar)
  | dayOutside htime htoday hk hlast =>
    obtain ⟨d, hd, -⟩ := (resolve_eq_ok_iff htime htoday hk).mp hr
    have hle := d.le_last
    omega
  | readingMissing hl hnone =>
    obtain ⟨i, hi⟩ := exists_localize?_of_looksAt hr hl
    rw [hnone] at hi
    cases hi

/-- An offset ahead within the calendar has an instant. -/
theorem exists_resolve_of_inCalendar (htime : p.time = ⟨time.hour, time.minute⟩)
    (helapsed : p.aim = .elapsed) (h : (now.instant.shift (60 * time.minutes)).InCalendar) :
    ∃ r, now.resolve p = .ok r := by
  have hpast : p.aim ≠ .past := by
    rw [helapsed]
    nofun
  have hfollow : now.follow? p.aim time = some ⟨now.zone, ⟨_, h⟩⟩ := by
    rw [helapsed]
    simp only [follow?, afterMinutes?, Instant.addMinutes?, Instant.ofTimePoint?, dif_pos h]
    rfl
  exact ⟨⟨_, p⟩, resolve_eq_ok_iff_follow?.mpr ⟨time, htime, hpast, hfollow, rfl⟩⟩

/-- A pattern that leads somewhere has an instant, if it has a day to start
from. -/
theorem exists_resolve_of_not_leadsNowhere (htime : p.time = ⟨time.hour, time.minute⟩)
    (hpast : p.aim ≠ .past) (h : ¬ p.LeadsNowhere now) (hday : ¬ p.Dayless now) :
    ∃ r, now.resolve p = .ok r := by
  by_cases helapsed : p.aim = .elapsed
  · refine exists_resolve_of_inCalendar htime helapsed ?_
    by_contra hout
    exact h (.instantOutside helapsed htime hout)
  · have hlocalize {l : Reading} (hl : p.LooksAt now l) :
        ∃ i, now.zone.localize? l = some i := by
      rw [← Option.ne_none_iff_exists']
      intro hnone
      exact h (.readingMissing hl hnone)
    cases htoday : now.date? with
    | none => exact absurd ⟨Aim.countsDays_iff.mpr ⟨hpast, helapsed⟩, htoday⟩ hday
    | some today =>
      obtain ⟨k, hk⟩ := exists_meansDay_of_nextTime hpast helapsed fun hnext =>
        hlocalize (.inr ⟨hnext, time, today, htime, htoday, rfl⟩)
      by_cases hlast : lastDay < today.number + k
      · exact absurd (.dayOutside htime htoday hk hlast) h
      · have hfirst := today.first_le
        let d : Date := ⟨today.number + k, by omega, by omega⟩
        obtain ⟨i, hi⟩ := hlocalize (.inl ⟨time, today, d, k, htime, htoday, hk, rfl, rfl⟩)
        exact ⟨_, (resolve_eq_ok_iff htime htoday hk).mpr ⟨d, rfl, i, hi, rfl⟩⟩

/-- A clock from which a pattern leads nowhere shows a day, if days are
counted. -/
theorem not_dayless_of_leadsNowhere (h : p.LeadsNowhere now) : ¬ p.Dayless now := by
  rintro ⟨hdays, hnone⟩
  cases h with
  | instantOutside haim htime hout =>
    rw [haim] at hdays
    cases hdays
  | dayOutside htime htoday hk hlast => cases hnone.symm.trans htoday
  | readingMissing hl _ =>
    rcases hl with ⟨time, today, d, k, -, htoday, -⟩ | ⟨-, time, today, -, htoday, -⟩
    · cases hnone.symm.trans htoday
    · cases hnone.symm.trans htoday

/-- With a time, a pattern that does not point back has an instant, or it
leads nowhere and is refused for its time, or there is no day to count from
and the resolution breaks off. -/
theorem resolve_ahead (htime : p.time = ⟨time.hour, time.minute⟩) (hpast : p.aim ≠ .past) :
    ((∃ r, now.resolve p = .ok r ∧ r.pattern = p) ↔ ¬ p.LeadsNowhere now ∧ ¬ p.Dayless now) ∧
      (now.resolve p = .error (.invalidTime p.time.hours p.time.minutes) ↔
        p.LeadsNowhere now) ∧
      (now.resolve p = .crash ↔ p.Dayless now) := by
  by_cases hday : p.Dayless now
  · have hnot : ¬ p.LeadsNowhere now := fun h => not_dayless_of_leadsNowhere h hday
    rw [resolve_eq_iff.mpr (.dayless htime hday.1 hday.2)]
    simp [hday, hnot]
  · by_cases h : p.LeadsNowhere now
    · have hrefused : now.resolve p = .error (.invalidTime p.time.hours p.time.minutes) := by
        cases hresolve : now.resolve p with
        | ok r => exact absurd hresolve (resolve_ne_ok_of_leadsNowhere h)
        | error e => rw [invalidTime_of_resolve_error hpast hresolve]
        | crash =>
          obtain ⟨-, -, hcrash⟩ := resolve_eq_crash_iff.mp hresolve
          exact absurd hcrash hday
      rw [hrefused]
      simp [h, hday]
    · obtain ⟨r, hr⟩ := exists_resolve_of_not_leadsNowhere htime hpast h hday
      obtain ⟨-, -, -, -, hpattern⟩ := resolve_eq_ok_iff_follow?.mp hr
      rw [hr]
      simp [h, hday, hpattern]

end

/-! ## Tokens -/

open Token (Says)

section
variable {token : String} {p : TimePattern}

theorem classify_eq_iff_meaning :
    Token.classify token = some p ↔ Says (Token.normalize token).toList p := by
  rw [Token.normalize, String.toList_ofList]
  exact Token.classify_eq_some_iff

/-- A token that says something is resolved as what it says. -/
theorem resolveToken_of_meaning (now : ZonedTime) (h : Says (Token.normalize token).toList p) :
    now.resolveToken token = now.resolve p := by
  rw [resolveToken, classify_eq_iff_meaning.mpr h, resolveFound]

/-- A token that says nothing is given back, trimmed. -/
theorem resolveToken_of_no_meaning (now : ZonedTime)
    (h : ∀ p, ¬ Says (Token.normalize token).toList p) :
    now.resolveToken token = .error (.unrecognized (Text.trimmed token)) := by
  have hnone : Token.classify token = none := by
    rw [Option.eq_none_iff_forall_ne_some]
    intro p hp
    exact h p (classify_eq_iff_meaning.mp hp)
  rw [resolveToken, hnone, resolveFound]

theorem resolveToken_eq_unrecognized_iff (now : ZonedTime) {s : String} :
    now.resolveToken token = .error (.unrecognized s) ↔
      (∀ p, ¬ Says (Token.normalize token).toList p) ∧ Text.Trims token s := by
  by_cases hmeans : ∃ p, Says (Token.normalize token).toList p
  · obtain ⟨p, hp⟩ := hmeans
    rw [resolveToken_of_meaning now hp]
    refine iff_of_false resolve_ne_unrecognized ?_
    intro h
    exact h.1 p hp
  · have hnone : ∀ p, ¬ Says (Token.normalize token).toList p := not_exists.mp hmeans
    rw [resolveToken_of_no_meaning now hnone, ← Text.trimmed_eq_iff]
    simp [hnone]

/-- What comes of a token, unless it is unknown, comes of what it says. -/
theorem resolveToken_eq_iff (now : ZonedTime) {x : Result ResolveError Resolution}
    (hx : ∀ s, x ≠ .error (.unrecognized s)) :
    now.resolveToken token = x ↔
      ∃ p, Says (Token.normalize token).toList p ∧ now.resolve p = x := by
  constructor
  · intro h
    by_cases hmeans : ∃ p, Says (Token.normalize token).toList p
    · obtain ⟨p, hp⟩ := hmeans
      rw [resolveToken_of_meaning now hp] at h
      exact ⟨p, hp, h⟩
    · rw [resolveToken_of_no_meaning now (not_exists.mp hmeans)] at h
      exact absurd h.symm (hx _)
  · intro h
    obtain ⟨p, hp, h⟩ := h
    rw [resolveToken_of_meaning now hp, h]

/-- A token that is refused for pointing back is one at every clock. -/
theorem resolveToken_eq_pastTime_iff (now : ZonedTime) :
    now.resolveToken token = .error .pastTime ↔
      ∃ p, Says (Token.normalize token).toList p ∧ p.aim = .past ∧ p.time.hours ≤ 23 ∧
        p.time.minutes ≤ 59 := by
  simp only [resolveToken_eq_iff now (x := .error .pastTime) nofun, resolve_eq_pastTime_iff]

/-- A token breaks off the resolution when it has a time and there is no day
to count from. -/
theorem resolveToken_eq_crash_iff (now : ZonedTime) :
    now.resolveToken token = .crash ↔
      ∃ p, Says (Token.normalize token).toList p ∧ p.time.hours ≤ 23 ∧ p.time.minutes ≤ 59 ∧
        p.Dayless now := by
  simp only [resolveToken_eq_iff now (x := .crash) nofun, resolve_eq_crash_iff]
  rfl

theorem resolveToken_ne_crash {now : ZonedTime} {today : Date} (htoday : now.date? = some today) :
    now.resolveToken token ≠ .crash := by
  intro h
  obtain ⟨p, -, -, -, -, hnone⟩ := (resolveToken_eq_crash_iff now).mp h
  cases hnone.symm.trans htoday

/-- What a token says within a time of day is within the bounds of the
grammar. -/
theorem inRange_of_meaning {cs : List Char} (h : Says cs p) (hhours : p.time.hours ≤ 23)
    (hminutes : p.time.minutes ≤ 59) : p.InRange := by
  obtain ⟨-, -, hdays, hweeks⟩ := h.bounded
  refine ⟨hhours, hminutes, ?_, ?_⟩
  · intro days haim
    cases p with
    | inDays n time =>
      cases haim
      exact hdays _ _ rfl
    | tomorrow t | dayAfterTomorrow t | inOneWeek t =>
      cases haim
      decide
    | relativeOffset sign t => cases sign <;> cases haim
    | _ => cases haim
  · intro w weeks haim
    cases p with
    | inWeeksOnWeekday n w' time =>
      cases haim
      exact hweeks _ _ _ rfl
    | onWeekday w' t | inOneWeekOnWeekday w' t =>
      cases haim
      exact Nat.zero_le _
    | relativeOffset sign t => cases sign <;> cases haim
    | _ => cases haim

/-- What becomes of a token. One that says nothing is unknown, and is given
back without its outer blanks. One whose hours and minutes make no time is
refused for them, even if it points back. One that points back is refused
for that. Every other has an instant, or leads nowhere and is refused for
its time, or finds no day to count from; its numbers are far from the ends
of machine words. The last is the only way in which the resolution of a
token breaks off, and a clock that shows a day of the calendar rules it out.
The questions that come before the instant have one answer at all clocks. -/
theorem resolveToken_verdict (now : ZonedTime) (token : String) :
    (∀ s, now.resolveToken token = .error (.unrecognized s) ↔
      (∀ p, ¬ Says (Token.normalize token).toList p) ∧ Text.Trims token s) ∧
    (∀ p, Says (Token.normalize token).toList p →
      ((23 < p.time.hours ∨ 59 < p.time.minutes) →
        now.resolveToken token = .error (.invalidTime p.time.hours p.time.minutes)) ∧
      (p.time.hours ≤ 23 → p.time.minutes ≤ 59 →
        (now.resolveToken token = .error .pastTime ↔
          ∃ length, p = .relativeOffset .minus length) ∧
        ((∀ length, p ≠ .relativeOffset .minus length) →
          ((∃ r, now.resolveToken token = .ok r ∧ r.pattern = p) ↔
            ¬ p.LeadsNowhere now ∧ ¬ p.Dayless now) ∧
          (now.resolveToken token = .error (.invalidTime p.time.hours p.time.minutes) ↔
            p.LeadsNowhere now) ∧
          (now.resolveToken token = .crash ↔ p.Dayless now)) ∧
        60 * p.time.hours + p.time.minutes < 2 ^ 32 ∧
        (∀ days, p.aim = .daysAhead days → days < 2 ^ 64) ∧
        ∀ w weeks, p.aim = .weekdayAhead w weeks → 7 * weeks < 2 ^ 64)) ∧
    (now.resolveToken token = .crash ↔
      ∃ p, Says (Token.normalize token).toList p ∧ p.time.hours ≤ 23 ∧ p.time.minutes ≤ 59 ∧
        p.Dayless now) ∧
    ∀ now' : ZonedTime,
      (∀ s, now.resolveToken token = .error (.unrecognized s) ↔
        now'.resolveToken token = .error (.unrecognized s)) ∧
      (now.resolveToken token = .error .pastTime ↔
        now'.resolveToken token = .error .pastTime) ∧
      ∀ p, Says (Token.normalize token).toList p →
        (23 < p.time.hours ∨ 59 < p.time.minutes) →
          now.resolveToken token = now'.resolveToken token := by
  refine ⟨fun s => resolveToken_eq_unrecognized_iff now, ?_, resolveToken_eq_crash_iff now, ?_⟩
  · intro p hp
    rw [resolveToken_of_meaning now hp]
    refine ⟨resolve_of_no_time, ?_⟩
    intro hhours hminutes
    have hrange := inRange_of_meaning hp hhours hminutes
    obtain ⟨time, htime⟩ := hrange.exists_time
    refine ⟨?_, ?_, ?_, ?_, ?_⟩
    · rw [resolve_eq_pastTime_iff, TimePattern.aim_eq_past_iff]
      simp [hhours, hminutes]
    · intro hahead
      refine resolve_ahead htime ?_
      rw [ne_eq, TimePattern.aim_eq_past_iff, not_exists]
      exact hahead
    · omega
    · intro days haim
      have hdays := hrange.days_le days haim
      omega
    · intro w weeks haim
      have hweeks := hrange.weeks_le w weeks haim
      omega
  · intro now'
    refine ⟨?_, ?_, ?_⟩
    · intro s
      rw [resolveToken_eq_unrecognized_iff, resolveToken_eq_unrecognized_iff]
    · rw [resolveToken_eq_pastTime_iff, resolveToken_eq_pastTime_iff]
    · intro p hp hno
      rw [resolveToken_of_meaning now hp, resolveToken_of_meaning now' hp, resolve_of_no_time hno,
        resolve_of_no_time hno]

/-- Seen from Thursday noon in Apia, whose zone leaves Friday out. -/
theorem resolveToken_verdict_apia :
    thursdayInApia.resolveToken " Noon " = .error (.unrecognized "Noon") ∧
      thursdayInApia.resolveToken "-99:30" = .error (.invalidTime 99 30) ∧
      thursdayInApia.resolveToken "-00:00" = .error .pastTime ∧
      thursdayInApia.resolveToken "Tomorrow 12" = .error (.invalidTime 12 0) ∧
      ∃ r, thursdayInApia.resolveToken "+05:30" = .ok r := by
  refine ⟨?_, ?_, ?_, ?_, ?_⟩
  · obtain ⟨hunknown, -⟩ := resolveToken_verdict thursdayInApia " Noon "
    refine (hunknown "Noon").mpr ⟨?_, ?_⟩
    · intro p hp
      rw [← classify_eq_iff_meaning] at hp
      have hnone : Token.classify " Noon " = none := by decide +kernel
      rw [hnone] at hp
      cases hp
    · rw [← Text.trimmed_eq_iff]
      decide +kernel
  · obtain ⟨-, hknown, -⟩ := resolveToken_verdict thursdayInApia "-99:30"
    obtain ⟨hno, -⟩ := hknown (.relativeOffset .minus ⟨99, 30⟩)
      (classify_eq_iff_meaning.mp (by decide +kernel))
    exact hno (by decide)
  · obtain ⟨-, hknown, -⟩ := resolveToken_verdict thursdayInApia "-00:00"
    obtain ⟨-, htime⟩ := hknown (.relativeOffset .minus ⟨0, 0⟩)
      (classify_eq_iff_meaning.mp (by decide +kernel))
    exact (htime (by decide) (by decide)).1.mpr ⟨_, rfl⟩
  · obtain ⟨-, hknown, -⟩ := resolveToken_verdict thursdayInApia "Tomorrow 12"
    obtain ⟨-, htime⟩ := hknown (.tomorrow ⟨12, 0⟩)
      (classify_eq_iff_meaning.mp (by decide +kernel))
    obtain ⟨-, hahead, -⟩ := htime (by decide) (by decide)
    let noon : HourMinute := ⟨12, 0, by decide, by decide⟩
    have hlooks : (TimePattern.tomorrow ⟨noon.hour, noon.minute⟩).LooksAt thursdayInApia
        (fridayOfApia.reading noon) :=
      looksAt_tomorrow_apia.mpr rfl
    exact (hahead (by simp)).2.1.mpr (.readingMissing hlooks (by decide +kernel))
  · obtain ⟨-, hknown, -⟩ := resolveToken_verdict thursdayInApia "+05:30"
    obtain ⟨-, htime⟩ := hknown (.relativeOffset .plus ⟨5, 30⟩)
      (classify_eq_iff_meaning.mp (by decide +kernel))
    obtain ⟨-, hahead, -⟩ := htime (by decide) (by decide)
    let length : HourMinute := ⟨5, 30, by decide, by decide⟩
    have hinstant : ∃ r, thursdayInApia.resolve
        (.relativeOffset .plus ⟨length.hour, length.minute⟩) = .ok r :=
      exists_resolve_of_inCalendar rfl rfl (by decide +kernel)
    have hsomewhere :
        ¬ (TimePattern.relativeOffset .plus ⟨5, 30⟩).LeadsNowhere thursdayInApia := by
      intro h
      obtain ⟨r, hr⟩ := hinstant
      exact resolve_ne_ok_of_leadsNowhere h hr
    obtain ⟨r, hr, -⟩ := (hahead (by simp)).1.mpr ⟨hsomewhere, by decide⟩
    exact ⟨r, hr⟩

/-- Eight in the evening of the last day of the calendar, which is past one
in the morning of the day after in Kolkata. -/
def lastEveningInKolkata : ZonedTime :=
  ⟨Zone.kolkata, ⟨lastDay * secondsPerDay + 72000, 0, zero_nanos_lt⟩, by decide⟩

/-- From there tomorrow at nine has neither an instant nor an error. -/
theorem resolveToken_breaksOff_kolkata :
    Zone.named? "Asia/Kolkata" = some lastEveningInKolkata.zone ∧
      Token.classify "tomorrow 9" = some (.tomorrow ⟨9, 0⟩) ∧
      lastEveningInKolkata.resolveToken "tomorrow 9" = .crash := by
  have hclassify : Token.classify "tomorrow 9" = some (.tomorrow ⟨9, 0⟩) := by decide +kernel
  refine ⟨rfl, hclassify, (resolveToken_eq_crash_iff _).mpr ?_⟩
  refine ⟨.tomorrow ⟨9, 0⟩, classify_eq_iff_meaning.mp hclassify, by decide, by decide, rfl, ?_⟩
  decide +kernel

end

end ZonedTime

end DueTime
