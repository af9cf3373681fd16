/-
DueTime.Proofs.Resolution.Resolver — all that the resolver can do.

`ZonedTime.ResolvesTo` lists what can come of a pattern: its time is none and
is refused; it points back and is refused for that; its days cannot be
counted, because the clock shows no day of the calendar, and the resolution
breaks off; or its aim is followed, to an instant or to nowhere. The list is
complete and nothing in it happens for another reason (`resolve_eq_iff`), so
no proof has to open the resolver again. In particular a resolution breaks
off in one way only (`resolve_eq_crash_iff`).
-/
import DueTime.Proofs.Calendar.TimePoint
import DueTime.Resolution.Basic

namespace DueTime

/-! ## Aims -/

/-- Only an offset points back. -/
theorem TimePattern.aim_eq_past_iff {p : TimePattern} :
    p.aim = .past ↔ ∃ length, p = .relativeOffset .minus length := by
  cases p with
  | relativeOffset sign length =>
    cases sign with
    | plus => simp [aim]
    | minus => simp [aim]
  | _ => simp [aim]

/-- Only an offset ahead is a length of time from now. -/
theorem TimePattern.aim_eq_elapsed_iff {p : TimePattern} :
    p.aim = .elapsed ↔ ∃ length, p = .relativeOffset .plus length := by
  cases p with
  | relativeOffset sign length =>
    cases sign with
    | plus => simp [aim]
    | minus => simp [aim]
  | _ => simp [aim]

/-- Days are counted unless a length of time is meant. -/
theorem Aim.countsDays_iff {a : Aim} : a.countsDays ↔ a ≠ .past ∧ a ≠ .elapsed := by
  cases a with
  | past | elapsed => simp [countsDays]
  | daysAhead days => simp [countsDays]
  | nextTime => simp [countsDays]
  | weekdayAhead w weeks => simp [countsDays]

/-- Hours and minutes are a time of day, or one of them is too large. -/
theorem WrittenTime.cases (w : WrittenTime) :
    (23 < w.hours ∨ 59 < w.minutes) ∨ ∃ time : HourMinute, w = ⟨time.hour, time.minute⟩ := by
  by_cases h : w.hours < 24 ∧ w.minutes < 60
  · exact Or.inr ⟨⟨w.hours, w.minutes, h.1, h.2⟩, rfl⟩
  · left
    omega

theorem HourMinute.of?_eq_none_iff {hour minute : Nat} :
    HourMinute.of? hour minute = none ↔ 23 < hour ∨ 59 < minute := by
  unfold HourMinute.of?
  split
  · simp only [reduceCtorEq, false_iff]
    omega
  · simp only [true_iff]
    omega

/-- A pattern has one time of day at most. -/
theorem TimePattern.time_unique {p : TimePattern} {time time' : HourMinute}
    (h : p.time = ⟨time.hour, time.minute⟩) (h' : p.time = ⟨time'.hour, time'.minute⟩) :
    time = time' := by
  rw [h] at h'
  exact HourMinute.ext (congrArg WrittenTime.hours h') (congrArg WrittenTime.minutes h')

namespace ZonedTime

variable {now : ZonedTime} {p : TimePattern} {time : HourMinute}

/-- To follow an aim at a day takes a day to start from. -/
theorem exists_date?_of_follow? {a : Aim} (hdays : a.countsDays) {t : ZonedTime}
    (h : now.follow? a time = some t) : ∃ today, now.date? = some today := by
  rw [← Option.ne_none_iff_exists']
  intro hnone
  cases a with
  | past | elapsed => cases hdays
  | daysAhead days => simp [follow?, daysAhead?, hnone] at h
  | nextTime => simp [follow?, nextTime?, daysAhead?, hnone] at h
  | weekdayAhead w weeks => simp [follow?, weekdayAhead?, hnone] at h

/-! ## The resolver -/

/-- What comes of a pattern, and when. -/
inductive ResolvesTo (now : ZonedTime) (p : TimePattern) :
    Result ResolveError Resolution → Prop
  /-- The hours and minutes are no time of day. -/
  | noTime (h : 23 < p.time.hours ∨ 59 < p.time.minutes) :
    ResolvesTo now p (.error (.invalidTime p.time.hours p.time.minutes))
  /-- The pattern points back. -/
  | past {time : HourMinute} (htime : p.time = ⟨time.hour, time.minute⟩) (haim : p.aim = .past) :
    ResolvesTo now p (.error .pastTime)
  /-- Days are to be counted from a clock that shows none of the calendar. -/
  | dayless {time : HourMinute} (htime : p.time = ⟨time.hour, time.minute⟩)
    (hdays : p.aim.countsDays) (hnone : now.date? = none) : ResolvesTo now p .crash
  /-- The aim leads to an instant. -/
  | found {time : HourMinute} {t : ZonedTime} (htime : p.time = ⟨time.hour, time.minute⟩)
    (haim : p.aim ≠ .past) (hfollow : now.follow? p.aim time = some t) :
    ResolvesTo now p (.ok ⟨t, p⟩)
  /-- The aim leads nowhere. -/
  | nowhere {time : HourMinute} (htime : p.time = ⟨time.hour, time.minute⟩)
    (haim : p.aim ≠ .past) (hdays : p.aim.countsDays → ∃ today, now.date? = some today)
    (hfollow : now.follow? p.aim time = none) :
    ResolvesTo now p (.error (.invalidTime p.time.hours p.time.minutes))

theorem of?_time (htime : p.time = ⟨time.hour, time.minute⟩) :
    HourMinute.of? p.time.hours p.time.minutes = some time := by
  rw [htime]
  exact HourMinute.of?_eq_some_iff.mpr ⟨rfl, rfl⟩

theorem resolvesTo_resolve (now : ZonedTime) (p : TimePattern) :
    now.ResolvesTo p (now.resolve p) := by
  rcases p.time.cases with hno | ⟨time, htime⟩
  · simp only [resolve, HourMinute.of?_eq_none_iff.mpr hno]
    exact .noTime hno
  · simp only [resolve, of?_time htime]
    split
    · rename_i haim
      exact .past htime haim
    · rename_i haim
      split
      · rename_i hdayless
        rw [Bool.and_eq_true, Option.isNone_iff_eq_none] at hdayless
        exact .dayless htime hdayless.1 hdayless.2
      · rename_i hdays
        rw [Bool.and_eq_true, Option.isNone_iff_eq_none, not_and, ← ne_eq,
          Option.ne_none_iff_exists'] at hdays
        split
        · rename_i hfollow
          exact .found htime haim hfollow
        · rename_i hfollow
          exact .nowhere htime haim hdays hfollow

/-- What the resolver does when it goes on to follow the aim. -/
theorem resolve_of_days (htime : p.time = ⟨time.hour, time.minute⟩) (haim : p.aim ≠ .past)
    (hdays : p.aim.countsDays → ∃ today, now.date? = some today) :
    now.resolve p = (now.follow? p.aim time).elim
      (.error (.invalidTime p.time.hours p.time.minutes)) fun found => .ok ⟨found, p⟩ := by
  have hgoes : ¬ (p.aim.countsDays && now.date?.isNone) := by
    rwa [Bool.and_eq_true, Option.isNone_iff_eq_none, not_and, ← ne_eq,
      Option.ne_none_iff_exists']
  simp only [resolve, of?_time htime, if_neg haim, if_neg hgoes]
  cases now.follow? p.aim time with
  | none => rfl
  | some found => rfl

/-- The list is complete, and nothing in it happens for another reason. -/
theorem resolve_eq_iff {x : Result ResolveError Resolution} :
    now.resolve p = x ↔ now.ResolvesTo p x := by
  constructor
  · rintro rfl
    exact resolvesTo_resolve now p
  · intro h
    cases h with
    | noTime h => simp only [resolve, HourMinute.of?_eq_none_iff.mpr h]
    | past htime haim => simp only [resolve, of?_time htime, if_pos haim]
    | dayless htime hdays hnone =>
      have hpast := (Aim.countsDays_iff.mp hdays).1
      simp only [resolve, of?_time htime, if_neg hpast, hdays, hnone, Option.isNone_none,
        Bool.and_self, if_true]
    | found htime haim hfollow =>
      rw [resolve_of_days htime haim fun hdays => exists_date?_of_follow? hdays hfollow, hfollow]
      rfl
    | nowhere htime haim hdays hfollow =>
      rw [resolve_of_days htime haim hdays, hfollow]
      rfl

/-! ## One outcome after the other -/

/-- A pattern resolves when its hours and minutes are a time of day and
its aim, which must not be the past, leads somewhere. -/
theorem resolve_eq_ok_iff_follow? {r : Resolution} :
    now.resolve p = .ok r ↔
      ∃ time : HourMinute, p.time = ⟨time.hour, time.minute⟩ ∧ p.aim ≠ .past ∧
        now.follow? p.aim time = some r.time ∧ r.pattern = p := by
  rw [resolve_eq_iff]
  constructor
  · intro h
    cases h with
    | found htime haim hfollow => exact ⟨_, htime, haim, hfollow, rfl⟩
  · rintro ⟨time, htime, haim, hfollow, hpattern⟩
    obtain ⟨found, pattern⟩ := r
    cases hpattern
    exact .found htime haim hfollow

/-- Whether a pattern resolves is found by resolving it. -/
theorem exists_resolve_of_isOk (h : (now.resolve p).isOk) : ∃ r, now.resolve p = .ok r :=
  Result.isOk_iff.mp h

/-- Hours and minutes that make no time are refused, whatever the pattern. -/
theorem resolve_of_no_time (h : 23 < p.time.hours ∨ 59 < p.time.minutes) :
    now.resolve p = .error (.invalidTime p.time.hours p.time.minutes) :=
  resolve_eq_iff.mpr (.noTime h)

/-- What points back, with a time, is refused for that, and nothing else
is. -/
theorem resolve_eq_pastTime_iff :
    now.resolve p = .error .pastTime ↔
      p.aim = .past ∧ p.time.hours ≤ 23 ∧ p.time.minutes ≤ 59 := by
  rw [resolve_eq_iff]
  constructor
  · intro h
    cases h with
    | @past time htime haim =>
      have hhour := time.hour_lt
      have hminute := time.minute_lt
      rw [htime]
      exact ⟨haim, Nat.le_of_lt_succ hhour, Nat.le_of_lt_succ hminute⟩
  · rintro ⟨haim, hhours, hminutes⟩
    rcases p.time.cases with hno | ⟨time, htime⟩
    · omega
    · exact .past htime haim

/-- No pattern is unknown to the grammar. -/
theorem resolve_ne_unrecognized {s : String} : now.resolve p ≠ .error (.unrecognized s) := by
  rw [ne_eq, resolve_eq_iff]
  nofun

/-- A pattern that is refused is told that its time is not a time of day,
offsets back aside. -/
theorem invalidTime_of_resolve_error {e : ResolveError} (haim : p.aim ≠ .past)
    (h : now.resolve p = .error e) : e = .invalidTime p.time.hours p.time.minutes := by
  cases resolve_eq_iff.mp h with
  | noTime _ => rfl
  | past _ hpast => exact absurd hpast haim
  | nowhere _ _ _ _ => rfl

/-- A resolution breaks off when days are to be counted from a clock that
shows no day of the calendar. -/
theorem resolve_eq_crash_iff :
    now.resolve p = .crash ↔
      p.time.hours ≤ 23 ∧ p.time.minutes ≤ 59 ∧ p.aim.countsDays ∧ now.date? = none := by
  rw [resolve_eq_iff]
  constructor
  · intro h
    cases h with
    | @dayless time htime hdays hnone =>
      have hhour := time.hour_lt
      have hminute := time.minute_lt
      rw [htime]
      exact ⟨Nat.le_of_lt_succ hhour, Nat.le_of_lt_succ hminute, hdays, hnone⟩
  · rintro ⟨hhours, hminutes, hdays, hnone⟩
    rcases p.time.cases with hno | ⟨time, htime⟩
    · omega
    · exact .dayless htime hdays hnone

/-- Seen from a clock that shows a day, no resolution breaks off. -/
theorem resolve_ne_crash {today : Date} (htoday : now.date? = some today) :
    now.resolve p ≠ .crash := by
  intro h
  obtain ⟨-, -, -, hnone⟩ := resolve_eq_crash_iff.mp h
  cases hnone.symm.trans htoday

/-! ## The next weekday -/

/-- The next day of a name is asked for in two ways, which lead to the same
instants. -/
theorem nextWeekday?_eq_ok_iff {w : Weekday} {hour minute : Nat} {t : ZonedTime} :
    now.nextWeekday? w hour minute = .ok t ↔
      ∃ time : HourMinute, time.hour = hour ∧ time.minute = minute ∧
        now.weekdayAhead? w 0 time = some t := by
  have hfound : (HourMinute.of? hour minute >>= now.weekdayAhead? w 0) = some t ↔
      ∃ time : HourMinute, time.hour = hour ∧ time.minute = minute ∧
        now.weekdayAhead? w 0 time = some t := by
    simp only [Option.bind_eq_bind, Option.bind_eq_some_iff, HourMinute.of?_eq_some_iff, and_assoc]
  rw [← hfound]
  unfold nextWeekday?
  split
  · rename_i hnone
    refine iff_of_false nofun ?_
    intro h
    obtain ⟨time, -, -, hahead⟩ := hfound.mp h
    have hfollow : now.follow? (.weekdayAhead w 0) time = some t := hahead
    obtain ⟨today, htoday⟩ := exists_date?_of_follow? rfl hfollow
    rw [htoday] at hnone
    cases hnone
  · split
    · rename_i hsome
      rw [hsome, Result.ok.injEq, Option.some.injEq]
    · rename_i hnone
      rw [hnone]
      exact iff_of_false nofun nofun

/-- There it takes a day to start from, too, whatever the hour and the
minute. -/
theorem nextWeekday?_eq_crash_iff {w : Weekday} {hour minute : Nat} :
    now.nextWeekday? w hour minute = .crash ↔ now.date? = none := by
  unfold nextWeekday?
  split
  · rename_i hnone
    exact iff_of_true rfl (Option.isNone_iff_eq_none.mp hnone)
  · rename_i hsome
    rw [Option.isNone_iff_eq_none] at hsome
    refine iff_of_false ?_ hsome
    split
    · nofun
    · nofun

end ZonedTime

end DueTime
