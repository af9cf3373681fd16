/-
DueTime.Proofs.Command.ExitCode — what the exit code tells.

The reading of the arguments stops, or leaves options. Options can be faulty
in several ways, and often in more than one at a time; the run then ends
with the first that it meets, but its exit code is the same for all. Options
that are not faulty name one subject and one clock, and the exit code is
that of the answer; that is never the one of a run that breaks off, since the
clock shows a day. `Ends` says this in no order, and `run_code_eq_iff` that
the exit code is the one it gives. Since `Ends` speaks neither of colors nor
of the form of the output nor of diagnostics, the exit code does not depend
on them.
-/
import DueTime.Proofs.Command.Faults
import DueTime.Proofs.Command.MachineLine
import DueTime.Proofs.Command.Scan

namespace DueTime.Command

variable {arguments : List String} {around : Surroundings} {elapsed : Nat} {o : Options}

/-! ## Reading -/

/-- The reading of the arguments stops. -/
def Halts (arguments : List String) (stop : Stop) : Prop :=
  ∃ given, Reads arguments given (.error stop)

/-- The options that the arguments leave: what was heeded, and the token. -/
def Leaves (arguments : List String) (around : Surroundings) (o : Options) : Prop :=
  ∃ given token, Reads arguments given (.ok token) ∧
    o = { ({ color := around.terminal } : Options).heeding given with token }

theorem Halts.scan_eq {stop : Stop} (h : Halts arguments stop) (o : Options) :
    o.scan arguments = .error stop := by
  obtain ⟨given, hreads⟩ := h
  exact hreads.scan_eq o

theorem Leaves.scan_eq (h : Leaves arguments around o) :
    Options.scan { color := around.terminal } arguments = .ok o := by
  obtain ⟨given, token, hreads, rfl⟩ := h
  rw [hreads.scan_eq, Except.map, Option.or_none]

theorem halts_or_leaves (arguments : List String) (around : Surroundings) :
    (∃ stop, Halts arguments stop) ∨ ∃ o, Leaves arguments around o := by
  obtain ⟨given, result, hreads⟩ := exists_reads arguments
  cases result with
  | error stop => exact Or.inl ⟨stop, given, hreads⟩
  | ok token => exact Or.inr ⟨_, given, token, hreads, rfl⟩

/-! ## The exit code -/

/-- What the arguments ask for has been answered, with an exit code. -/
def Answers (arguments : List String) (around : Surroundings) (code : ExitCode) : Prop :=
  ∃ o subject now members, Leaves arguments around o ∧ o.Asks around subject ∧
    o.Shows around now ∧ subject.Answered now code members

/-- How a run ends, told in no order. -/
inductive Ends (arguments : List String) (around : Surroundings) : ExitCode → Prop
  | help (h : Halts arguments .help) : Ends arguments around .resolved
  | version (h : Halts arguments .version) : Ends arguments around .resolved
  | unread {reason : Refusal} (h : Halts arguments (.refused reason)) :
    Ends arguments around .refused
  | faulty {o : Options} (ho : Leaves arguments around o) (h : o.Faulty around) :
    Ends arguments around .refused
  | answered {code : ExitCode} (h : Answers arguments around code) : Ends arguments around code

theorem run_of_halts {stop : Stop} (h : Halts arguments stop) :
    run arguments around elapsed = stop.outcome :=
  run_of_stop (settings_eq_error_iff.mpr (Or.inl (h.scan_eq _)))

theorem Halts.ends {stop : Stop} (h : Halts arguments stop) :
    Ends arguments around stop.outcome.code := by
  cases stop with
  | help => exact .help h
  | version => exact .version h
  | refused reason => exact .unread h

/-- A run that goes on leaves what comes of its options. -/
theorem run_of_leaves (ho : Leaves arguments around o) (elapsed : Nat) :
    (∃ reason, o.answer around = .error reason ∧
      run arguments around elapsed = (Stop.refused reason).outcome) ∨
    ∃ a s, o.answer around = .ok a ∧
      run arguments around elapsed = a.outcome s around.tracing elapsed := by
  cases hanswer : o.answer around with
  | error reason =>
    refine Or.inl ⟨reason, rfl, ?_⟩
    rcases bind_eq_error_iff.mp hanswer with hsettle | ⟨s, hsettle, hfind⟩
    · exact run_of_stop (settings_eq_error_iff.mpr (Or.inr ⟨o, ho.scan_eq, reason, hsettle, rfl⟩))
    · exact run_of_refused (settings_eq_ok_iff.mpr ⟨o, ho.scan_eq, hsettle⟩) hfind
  | ok a =>
    obtain ⟨s, hsettle, hfind⟩ := bind_eq_ok_iff.mp hanswer
    exact Or.inr ⟨a, s, rfl, run_of_found (settings_eq_ok_iff.mpr ⟨o, ho.scan_eq, hsettle⟩) hfind⟩

/-- The exit code of a run is the one that its arguments and surroundings
have it end with. -/
theorem run_code_eq_iff {code : ExitCode} :
    (run arguments around elapsed).code = code ↔ Ends arguments around code := by
  constructor
  · rintro rfl
    rcases halts_or_leaves arguments around with ⟨stop, h⟩ | ⟨o, ho⟩
    · rw [run_of_halts h]
      exact h.ends
    · rcases run_of_leaves ho elapsed with ⟨reason, h, hrun⟩ | ⟨a, s, h, hrun⟩
      · rw [hrun]
        exact .faulty ho (Options.faulty_of_answer h)
      · rw [hrun]
        obtain ⟨subject, now, hasks, hshows, hanswer⟩ := Options.exists_of_answer h
        obtain ⟨today, htoday⟩ := exists_date?_of_shows ho.scan_eq hshows
        obtain ⟨members, -, hanswered⟩ := exists_answered htoday hanswer
        exact .answered ⟨o, subject, now, members, ho, hasks, hshows, hanswered⟩
  · intro h
    cases h with
    | help h =>
      rw [run_of_halts h]
      rfl
    | version h =>
      rw [run_of_halts h]
      rfl
    | unread h =>
      rw [run_of_halts h]
      rfl
    | faulty ho hfaulty =>
      rcases run_of_leaves ho elapsed with ⟨reason, h, hrun⟩ | ⟨a, s, h, hrun⟩
      · rw [hrun]
        rfl
      · -- An answer would be one to what the options ask, but they are faulty.
        obtain ⟨subject, now, hasks, hshows, hanswer⟩ := Options.exists_of_answer h
        exact absurd hanswer (hfaulty.answer_ne_ok hasks hshows a)
    | answered h =>
      obtain ⟨o, subject, now, members, ho, hasks, hshows, hanswered⟩ := h
      obtain ⟨a, hanswer, rfl, -⟩ := hanswered.exists_answer
      rcases run_of_leaves ho elapsed with ⟨reason, h, hrun⟩ | ⟨a', s, h, hrun⟩
      · exact absurd hanswer ((Options.faulty_of_answer h).answer_ne_ok hasks hshows a)
      · -- The run has found the same subject and the same clock.
        obtain ⟨subject', now', hasks', hshows', hanswer'⟩ := Options.exists_of_answer h
        cases hasks.unique hasks'
        cases hshows.unique hshows'
        cases hanswer.symm.trans hanswer'
        rw [hrun]
        rfl

theorem ExitCode.ofResult_ne_refused {ε α : Type} (x : Result ε α) : ofResult x ≠ .refused := by
  cases x with
  | ok | error | crash => exact nofun

theorem Answer.exitCode_ne_refused (a : Answer) : a.exitCode ≠ .refused := by
  cases a with
  | token | payload => exact ExitCode.ofResult_ne_refused _

/-- What became of a subject is told by one of two codes. -/
theorem Subject.Answered.code_eq {now : ZonedTime} {subject : Subject} {code : ExitCode}
    {members : List (String × String)} (h : subject.Answered now code members) :
    code = .resolved ∨ code = .unresolved := by
  cases h with
  | resolved | drafted => exact Or.inl rfl
  | unresolved | undrafted => exact Or.inr rfl

/-! ### One code after the other -/

theorem ends_refused_iff :
    Ends arguments around .refused ↔
      (∃ reason, Halts arguments (.refused reason)) ∨
        ∃ o, Leaves arguments around o ∧ o.Faulty around := by
  constructor
  · intro h
    cases h with
    | unread h => exact Or.inl ⟨_, h⟩
    | faulty ho h => exact Or.inr ⟨_, ho, h⟩
    | answered h =>
      obtain ⟨o, subject, now, members, -, -, -, hanswered⟩ := h
      obtain ⟨⟨⟩⟩ | ⟨⟨⟩⟩ := hanswered.code_eq
  · rintro (⟨reason, h⟩ | ⟨o, ho, h⟩)
    · exact .unread h
    · exact .faulty ho h

theorem ends_resolved_iff :
    Ends arguments around .resolved ↔
      Halts arguments .help ∨ Halts arguments .version ∨ Answers arguments around .resolved := by
  constructor
  · intro h
    cases h with
    | help h => exact Or.inl h
    | version h => exact Or.inr (Or.inl h)
    | answered h => exact Or.inr (Or.inr h)
  · rintro (h | h | h)
    · exact .help h
    · exact .version h
    · exact .answered h

theorem ends_unresolved_iff :
    Ends arguments around .unresolved ↔ Answers arguments around .unresolved := by
  constructor
  · intro h
    cases h with
    | answered h => exact h
  · exact .answered

/-- No run breaks off. -/
theorem not_ends_crashed : ¬ Ends arguments around .crashed := by
  intro h
  cases h with
  | answered h =>
    obtain ⟨o, subject, now, members, -, -, -, hanswered⟩ := h
    obtain ⟨⟨⟩⟩ | ⟨⟨⟩⟩ := hanswered.code_eq

/-! ## The streams -/

/-- A run is refused, or it says nothing of errors unless diagnostics are
asked for. -/
theorem refused_or_quiet (arguments : List String) (around : Surroundings) (elapsed : Nat) :
    (∃ reason, run arguments around elapsed = (Stop.refused reason).outcome) ∨
      (run arguments around elapsed).code ≠ .refused ∧
        (around.tracing = false → (run arguments around elapsed).errors = "") := by
  rcases halts_or_leaves arguments around with ⟨stop, h⟩ | ⟨o, ho⟩
  · rw [run_of_halts h]
    cases stop with
    | help => exact Or.inr ⟨nofun, fun _ => rfl⟩
    | version => exact Or.inr ⟨nofun, fun _ => rfl⟩
    | refused reason => exact Or.inl ⟨reason, rfl⟩
  · rcases run_of_leaves ho elapsed with ⟨reason, -, hrun⟩ | ⟨a, s, -, hrun⟩
    · exact Or.inl ⟨reason, hrun⟩
    · rw [hrun]
      refine Or.inr ⟨a.exitCode_ne_refused, fun htracing => ?_⟩
      simp [Answer.outcome, htracing]

/-- Diagnostics are beside the output. -/
theorem run_tracing (tracing : Bool) :
    (run arguments { around with tracing } elapsed).code = (run arguments around elapsed).code ∧
      (run arguments { around with tracing } elapsed).output =
        (run arguments around elapsed).output := by
  have hanswer : answer arguments { around with tracing } = answer arguments around := rfl
  simp only [run, hanswer]
  cases answer arguments around with
  | ok found => exact ⟨rfl, rfl⟩
  | error stop => exact ⟨rfl, rfl⟩

/-! ## Options that say how to write -/

section
variable {color json : Bool}

theorem Options.Asks.written {subject : Subject} (h : o.Asks around subject) :
    Options.Asks { o with color, json } around subject := by
  cases h with
  | token h hblank => exact .token h hblank
  | payload hpayload htoken => exact .payload hpayload htoken

theorem Options.Shows.written {now : ZonedTime} (h : o.Shows around now) :
    Options.Shows { o with color, json } around now := by
  cases h with
  | present hzone h => exact .present hzone h
  | reference hzone hl h => exact .reference hzone hl h

theorem Options.Faulty.written (h : o.Faulty around) :
    Options.Faulty { o with color, json } around := by
  cases h with
  | unknownZone h => exact .unknownZone h
  | tokenAndPayload htoken hpayload => exact .tokenAndPayload htoken hpayload
  | unreadableInput htoken hpayload h => exact .unreadableInput htoken hpayload h
  | noInput h hblank => exact .noInput h hblank
  | referenceOutOfRange hzone hl h => exact .referenceOutOfRange hzone hl h
  | badPayload hpayload h => exact .badPayload hpayload h

end

theorem Halts.given {g : Given} (hg : ∀ option, g.value? option = none) {stop : Stop}
    (h : Halts arguments stop) : Halts (g.arguments ++ arguments) stop := by
  obtain ⟨given, hreads⟩ := h
  exact ⟨g :: given, hreads.cons (Given.wellFormed_of_valueless hg)⟩

/-- An option without a value in front changes only how the output is
written. -/
theorem Leaves.given {g : Given} (hg : ∀ option, g.value? option = none)
    (h : Leaves arguments around o) :
    ∃ color json, Leaves (g.arguments ++ arguments) around { o with color, json } := by
  obtain ⟨given, token, hreads, rfl⟩ := h
  let front := ({ color := around.terminal } : Options).heeding (g :: given)
  have hfront := Options.heeding_cons_of_valueless { color := around.terminal } hg given
  exact ⟨front.color, front.json, g :: given, token,
    hreads.cons (Given.wellFormed_of_valueless hg),
    congrArg (fun o : Options => { o with token }) hfront.symm⟩

theorem Ends.given {g : Given} (hg : ∀ option, g.value? option = none) {code : ExitCode}
    (h : Ends arguments around code) : Ends (g.arguments ++ arguments) around code := by
  cases h with
  | help h => exact .help (h.given hg)
  | version h => exact .version (h.given hg)
  | unread h => exact .unread (h.given hg)
  | faulty ho h =>
    obtain ⟨color, json, ho⟩ := ho.given hg
    exact .faulty ho h.written
  | answered h =>
    obtain ⟨o, subject, now, members, ho, hasks, hshows, hanswered⟩ := h
    obtain ⟨color, json, ho⟩ := ho.given hg
    exact .answered ⟨_, subject, now, members, ho, hasks.written, hshows.written, hanswered⟩

theorem run_given_code {g : Given} (hg : ∀ option, g.value? option = none) :
    (run (g.arguments ++ arguments) around elapsed).code =
      (run arguments around elapsed).code :=
  run_code_eq_iff.mpr ((run_code_eq_iff.mp rfl).given hg)

/-! ## The law -/

theorem ExitCode.number_inj {a b : ExitCode} : a.number = b.number ↔ a = b := by
  cases a <;> cases b <;> simp [number]

/-- What the exit code tells of a run, and what the run writes with it. -/
structure Outcome.Accounts (arguments : List String) (around : Surroundings)
    (outcome : Outcome) : Prop where
  /-- The arguments cannot be read, or say something faulty. -/
  refused_iff : outcome.code.number = 2 ↔
    (∃ reason, Halts arguments (.refused reason)) ∨
      ∃ o, Leaves arguments around o ∧ o.Faulty around
  /-- Help or the version is asked for, or there is an instant. -/
  resolved_iff : outcome.code.number = 0 ↔
    Halts arguments .help ∨ Halts arguments .version ∨ Answers arguments around .resolved
  /-- There is no instant. -/
  unresolved_iff : outcome.code.number = 1 ↔ Answers arguments around .unresolved
  streams_of_refused : outcome.code.number = 2 →
    outcome.output = "" ∧ ∃ complaint, outcome.errors = "error: " ++ complaint
  errors_eq_nil : outcome.code.number ≠ 2 → around.tracing = false → outcome.errors = ""

/-- Options with two faults: there is no such zone, and there are a token and
a payload. -/
def doublyFaulty : List String :=
  ["--tz", "Mars", "--oracle", "\x7b\x7d", "09:05"]

end DueTime.Command
