/-
DueTime.Proofs.Command.Run — the stages of a run.

A run settles what it is to do, finds something to resolve and a clock, and
answers. Any stage can be the last, and the run leaves what that stage says:
it stops before it has settings (`run_of_stop`), its settings find nothing to
answer (`run_of_refused`), or it leaves the answer (`run_of_found`). What
settings find, and why they find nothing, is told stage by stage
(`Settings.find_eq_ok_iff`, `Settings.find_eq_error_iff`).
-/
import DueTime.Command.Run
import DueTime.Proofs.Except

namespace DueTime.Command

variable {arguments : List String} {around : Surroundings} {elapsed : Nat} {s : Settings}

/-! ## Settling -/

theorem Options.settle_eq_ok_iff {o : Options} {zones : Zone.Database}
    {zoneVariable : Option String} {s : Settings} :
    o.settle zones zoneVariable = .ok s ↔
      zones.find? (o.zoneName zoneVariable) = some s.zone ∧ o.source? = some s.source ∧
        s.reference = o.reference ∧ s.color = o.color ∧ s.json = o.json := by
  obtain ⟨source, reference, zone, color, json⟩ := s
  unfold Options.settle
  split
  · rename_i hzone
    simp [hzone]
  · rename_i zone' hzone
    split
    · rename_i hsource
      simp [hsource]
    · rename_i source' hsource
      simp only [hzone, hsource, Except.ok.injEq, Settings.mk.injEq, Option.some.injEq]
      constructor
      · rintro ⟨rfl, rfl, rfl, rfl, rfl⟩
        exact ⟨rfl, rfl, rfl, rfl, rfl⟩
      · rintro ⟨rfl, rfl, rfl, rfl, rfl⟩
        exact ⟨rfl, rfl, rfl, rfl, rfl⟩

theorem settings_eq_ok_iff :
    settings arguments around = .ok s ↔
      ∃ o, Options.scan { color := around.terminal } arguments = .ok o ∧
        o.settle around.zones around.zoneVariable = .ok s := by
  simp only [settings, bind_eq_ok_iff, mapError_eq_ok_iff]

theorem settings_eq_error_iff {stop : Stop} :
    settings arguments around = .error stop ↔
      Options.scan { color := around.terminal } arguments = .error stop ∨
        ∃ o, Options.scan { color := around.terminal } arguments = .ok o ∧
          ∃ reason, o.settle around.zones around.zoneVariable = .error reason ∧
            stop = .refused reason := by
  simp only [settings, bind_eq_error_iff, mapError_eq_error_iff]

/-! ## Finding -/

theorem inputText_eq_ok_iff {input : ByteArray} {text : String} :
    inputText input = .ok text ↔ String.fromUTF8? input = some text := by
  unfold inputText
  split
  · rename_i hread
    simp [hread]
  · rename_i hread
    simp [hread]

theorem inputText_eq_error_iff {input : ByteArray} {reason : Refusal} :
    inputText input = .error reason ↔
      String.fromUTF8? input = none ∧ reason = .unreadableInput := by
  unfold inputText
  split
  · rename_i hread
    simp [hread]
  · rename_i hread
    simp [hread, eq_comm]

theorem tokenSubject_eq_ok_iff {text : String} {subject : Subject} :
    tokenSubject text = .ok subject ↔ Text.allBlank text = false ∧ subject = .token text := by
  unfold tokenSubject
  split
  · rename_i hblank
    simp [hblank]
  · rename_i hblank
    simp [hblank, eq_comm]

theorem tokenSubject_eq_error_iff {text : String} {reason : Refusal} :
    tokenSubject text = .error reason ↔ Text.allBlank text ∧ reason = .noInput := by
  unfold tokenSubject
  split
  · rename_i hblank
    simp [hblank, eq_comm]
  · rename_i hblank
    simp [hblank]

theorem Subject.answer_payload_eq_error_iff {now : ZonedTime} {text : String} {reason : Refusal} :
    (Subject.payload text).answer now = .error reason ↔
      ∃ error, Extraction.ofText text = .error error ∧ reason = .badPayload text error := by
  simp only [Subject.answer]
  split
  · rename_i extraction hpayload
    simp [hpayload]
  · rename_i error hpayload
    simp [hpayload, eq_comm]

/-- What the settings find to answer. -/
def Settings.find (s : Settings) (around : Surroundings) : Except Refusal Answer := do
  let subject ← s.subject around.input
  let clock ← s.clock around.now
  subject.answer clock

theorem Settings.find_eq_ok_iff {a : Answer} :
    s.find around = .ok a ↔
      ∃ subject, s.subject around.input = .ok subject ∧
        ∃ now, s.clock around.now = .ok now ∧ subject.answer now = .ok a := by
  simp only [find, bind_eq_ok_iff]

/-- Nothing is found when there is nothing to resolve, or else no clock, or
else no answer. -/
theorem Settings.find_eq_error_iff {reason : Refusal} :
    s.find around = .error reason ↔
      s.subject around.input = .error reason ∨
        ∃ subject, s.subject around.input = .ok subject ∧
          (s.clock around.now = .error reason ∨
            ∃ now, s.clock around.now = .ok now ∧ subject.answer now = .error reason) := by
  simp only [find, bind_eq_error_iff]

/-! ## Leaving -/

/-- A run depends on its arguments by what they settle. -/
theorem run_congr {arguments' : List String}
    (h : settings arguments around = settings arguments' around) :
    run arguments around elapsed = run arguments' around elapsed := by
  simp only [run, answer, h]

theorem run_of_stop {stop : Stop} (h : settings arguments around = .error stop) :
    run arguments around elapsed = stop.outcome := by
  simp only [run, answer, h]
  rfl

theorem answer_of_settings (h : settings arguments around = .ok s) :
    answer arguments around = (s.find around).mapError .refused >>= fun a => .ok (s, a) := by
  rw [answer, h]
  rfl

theorem answer_eq_ok_iff {a : Answer} :
    answer arguments around = .ok (s, a) ↔
      settings arguments around = .ok s ∧ s.find around = .ok a := by
  cases hsettings : settings arguments around with
  | error stop =>
    simp [answer, hsettings, bind, Except.bind]
  | ok s' =>
    simp only [answer_of_settings hsettings, bind_eq_ok_iff, mapError_eq_ok_iff, Except.ok.injEq,
      Prod.mk.injEq]
    constructor
    · rintro ⟨a', hfind, rfl, rfl⟩
      exact ⟨rfl, hfind⟩
    · rintro ⟨rfl, hfind⟩
      exact ⟨a, hfind, rfl, rfl⟩

theorem run_of_answer {a : Answer} (h : answer arguments around = .ok (s, a)) :
    run arguments around elapsed = a.outcome s around.tracing elapsed := by
  rw [run, h]

theorem run_of_refused {reason : Refusal} (h : settings arguments around = .ok s)
    (hfind : s.find around = .error reason) :
    run arguments around elapsed = (Stop.refused reason).outcome := by
  rw [run, answer_of_settings h, hfind]
  rfl

theorem run_of_found {a : Answer} (h : settings arguments around = .ok s)
    (hfind : s.find around = .ok a) :
    run arguments around elapsed = a.outcome s around.tracing elapsed := by
  rw [run, answer_of_settings h, hfind]
  rfl

/-- A run that goes on past its settings and is not refused leaves its
answer. -/
theorem exists_answer_of_run (h : settings arguments around = .ok s)
    (hcode : (run arguments around elapsed).code ≠ .refused) :
    ∃ subject now a, s.subject around.input = .ok subject ∧ s.clock around.now = .ok now ∧
      subject.answer now = .ok a ∧
        run arguments around elapsed = a.outcome s around.tracing elapsed := by
  cases hfind : s.find around with
  | ok a =>
    obtain ⟨subject, hsubject, now, hclock, hanswer⟩ := Settings.find_eq_ok_iff.mp hfind
    exact ⟨subject, now, a, hsubject, hclock, hanswer, run_of_found h hfind⟩
  | error reason =>
    rw [run_of_refused h hfind] at hcode
    exact absurd rfl hcode

end DueTime.Command
