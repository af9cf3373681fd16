/-
DueTime.Proofs.Command.MachineLine — what other programs get is what came
of the run.

An answer for other programs is an object of strings, written on one line.
The strings may come from anywhere, so anything can stand in them; they are
read back as they were all the same, since writing and reading are inverse
(`Json.read_render`). `Subject.Answered` lists the objects there are, each
with the exit code that goes with it, and `run_machineLine` says that a
program which reads the line has one of them in its hands.
-/
import DueTime.Proofs.Command.Clock
import DueTime.Proofs.Json.Written
import DueTime.Proofs.Reminder.Draft

namespace DueTime.Command

/-! ## Objects of strings -/

/-- The members of an object whose values are strings. -/
def stringMembers (members : List (String × String)) : List (String × Json) :=
  members.map fun (name, value) => (name, .string value)

theorem stringObject_nests (members : List (String × String)) :
    (stringObject members).Nests Json.maxDepth := by
  intro member hmember
  obtain ⟨text, -, rfl⟩ := List.mem_map.mp hmember
  trivial

/-! ## What the objects say -/

/-- What became of a subject at a clock: the exit code, and the members of
the object that tells about it. -/
inductive Subject.Answered (now : ZonedTime) :
    Subject → ExitCode → List (String × String) → Prop
  /-- The token has an instant. -/
  | resolved {token : String} {r : Resolution} (h : now.resolveToken token = .ok r) :
    Answered now (.token token) .resolved
      [("due", r.due), ("rule", r.rule), ("token", Token.normalize token)]
  /-- The token has none. -/
  | unresolved {token : String} {reason : ResolveError}
    (h : now.resolveToken token = .error reason) :
    Answered now (.token token) .unresolved
      [("error", reason.message), ("token", Token.normalize token)]
  /-- The payload names something to be reminded of, and its token has an
  instant. -/
  | drafted {payload activity token : String} {d : Draft}
    (hpayload : Extraction.ofText payload = .ok (.extracted activity token))
    (h : now.draft (.extracted activity token) = .ok d) :
    Answered now (.payload payload) .resolved
      [("activity", Text.trimmed activity), ("due", d.due), ("rule", d.rule)]
  /-- No reminder could be drafted from the payload. -/
  | undrafted {payload : String} {extraction : Extraction} {code : FailureCode}
    (hpayload : Extraction.ofText payload = .ok extraction)
    (h : now.draft extraction = .error code) :
    Answered now (.payload payload) .unresolved
      [("error", code.text), ("message", code.message)]

variable {now : ZonedTime} {subject : Subject} {a : Answer}

/-- A draft comes from an activity and a token, and has the activity
without its outer blanks. -/
theorem exists_extracted_of_draft {extraction : Extraction} {d : Draft}
    (h : now.draft extraction = .ok d) :
    ∃ activity token, extraction = .extracted activity token ∧
      d.activity = Text.trimmed activity := by
  obtain ⟨activity, token, hextracted, -, -, htrimmed, -⟩ := ZonedTime.draft_eq_ok_iff.mp h
  exact ⟨activity, token, hextracted, htrimmed⟩

theorem explain_result (now : ZonedTime) (token : String) :
    (now.explain token).result = now.resolveToken token := by
  rw [ZonedTime.explain, ZonedTime.resolveToken, Token.classify]

theorem explain_normalized (now : ZonedTime) (token : String) :
    (now.explain token).trace.normalized = Token.normalize token := by
  rw [ZonedTime.explain, Token.trace, Token.traceWith, Token.normalize]

/-- Where something became of a subject there is an answer that says so: by
the exit code, and in the object of strings that it is written as. -/
theorem Subject.Answered.exists_answer {code : ExitCode} {members : List (String × String)}
    (h : subject.Answered now code members) :
    ∃ a, subject.answer now = .ok a ∧ a.exitCode = code ∧
      a.machineLine? = some (stringObject members).render := by
  cases h with
  | resolved h | unresolved h =>
    refine ⟨_, rfl, ?_, ?_⟩
    · rw [Answer.exitCode, explain_result, h]
      rfl
    · rw [Answer.machineLine?, explain_result, explain_normalized, h]
      rfl
  | drafted hpayload h =>
    obtain ⟨activity, token, hextracted, hactivity⟩ := exists_extracted_of_draft h
    cases hextracted
    refine ⟨.payload now _, by rw [Subject.answer, hpayload], ?_, ?_⟩
    · rw [Answer.exitCode, h]
      rfl
    · rw [Answer.machineLine?, h, ← hactivity]
      rfl
  | undrafted hpayload h =>
    refine ⟨.payload now _, by rw [Subject.answer, hpayload], ?_, ?_⟩
    · rw [Answer.exitCode, h]
      rfl
    · rw [Answer.machineLine?, h]
      rfl

/-- An answer to a subject says what became of it, if the clock shows a day:
then nothing breaks off. -/
theorem exists_answered {today : Date} (htoday : now.date? = some today)
    (h : subject.answer now = .ok a) :
    ∃ members, a.machineLine? = some (stringObject members).render ∧
      subject.Answered now a.exitCode members := by
  obtain ⟨code, members, hanswered⟩ : ∃ code members, subject.Answered now code members := by
    cases subject with
    | token token =>
      cases hresolve : now.resolveToken token with
      | ok r => exact ⟨_, _, .resolved hresolve⟩
      | error reason => exact ⟨_, _, .unresolved hresolve⟩
      | crash => exact absurd hresolve (ZonedTime.resolveToken_ne_crash htoday)
    | payload payload =>
      simp only [Subject.answer] at h
      split at h
      · rename_i extraction hpayload
        cases hdraft : now.draft extraction with
        | ok d =>
          obtain ⟨activity, token, rfl, -⟩ := exists_extracted_of_draft hdraft
          exact ⟨_, _, .drafted hpayload hdraft⟩
        | error code => exact ⟨_, _, .undrafted hpayload hdraft⟩
        | crash => exact absurd hdraft (ZonedTime.draft_ne_crash htoday)
      · cases h
  obtain ⟨a', hanswer, rfl, hline⟩ := hanswered.exists_answer
  cases h.symm.trans hanswer
  exact ⟨members, hline, hanswered⟩

/-! ## The line -/

/-- What an answer writes for other programs, when it has a line for them. -/
theorem output_of_machineLine? {s : Settings} {tracing : Bool} {elapsed : Nat} {line : String}
    (hjson : s.json) (h : a.machineLine? = some line) :
    (a.outcome s tracing elapsed).output = line ++ "\n" := by
  rw [Answer.outcome, Answer.written?, if_pos hjson, h]
  rfl

/-- A run that writes for other programs leaves the object for what became of
its subject. -/
theorem run_of_answered {arguments : List String} {around : Surroundings} {elapsed : Nat}
    {s : Settings} (hsettings : settings arguments around = .ok s) (hjson : s.json)
    (hsubject : s.subject around.input = .ok subject) (hclock : s.clock around.now = .ok now)
    {code : ExitCode} {members : List (String × String)}
    (h : subject.Answered now code members) :
    (run arguments around elapsed).code = code ∧
      (run arguments around elapsed).output = (stringObject members).render ++ "\n" := by
  obtain ⟨a, hanswer, rfl, hline⟩ := h.exists_answer
  have hfind := Settings.find_eq_ok_iff.mpr ⟨subject, hsubject, now, hclock, hanswer⟩
  rw [run_of_found hsettings hfind]
  exact ⟨rfl, output_of_machineLine? hjson hline⟩

/-- A run that writes for other programs, and is neither refused nor stopped
for help or for the version, leaves one line. No control character stands
in it, and the reader reads it as an object that tells what became of what
was to be resolved, in agreement with the exit code. -/
theorem run_machineLine {arguments : List String} {around : Surroundings} {elapsed : Nat}
    {s : Settings} (hsettings : settings arguments around = .ok s) (hjson : s.json)
    (hcode : (run arguments around elapsed).code ≠ .refused) :
    ∃ line members subject now, (run arguments around elapsed).output = line ++ "\n" ∧
      (∀ c ∈ line.toList, 0x20 ≤ c.toNat) ∧
      Json.read line = .ok (.object (stringMembers members)) ∧
      s.subject around.input = .ok subject ∧ s.clock around.now = .ok now ∧
      subject.Answered now (run arguments around elapsed).code members := by
  obtain ⟨subject, now, a, hsubject, hclock, hanswer, hrun⟩ :=
    exists_answer_of_run hsettings hcode
  obtain ⟨today, htoday⟩ := exists_date?_of_clock hsettings hclock
  obtain ⟨members, hline, hanswered⟩ := exists_answered htoday hanswer
  have hnests := stringObject_nests members
  have hread := Json.read_render hnests
  have houtput : (run arguments around elapsed).output = (stringObject members).render ++ "\n" := by
    rw [hrun]
    exact output_of_machineLine? hjson hline
  have hexit : (run arguments around elapsed).code = a.exitCode := by
    rw [hrun]
    rfl
  rw [← hexit] at hanswered
  refine ⟨_, members, subject, now, houtput, ?_, hread, hsubject, hclock, hanswered⟩
  intro c hc
  exact Json.le_toNat_of_mem_render hnests hc

/-- Nothing around the program but the zones of the table and the clock,
which stands at the start of 1970. -/
def bareSurroundings : Surroundings where
  zones := .known
  zoneVariable := none
  tracing := false
  terminal := false
  now := ⟨⟨0, 0, zero_nanos_lt⟩, by decide⟩
  now_hasMargin := by decide
  input := ⟨#[]⟩

/-- A payload with a quotation mark, a line end and a clef in its activity,
for half past two. -/
def clefPayload : String :=
  "\x7b\"activity\":\" say \\\"\\n\\uD834\\uDD1E \",\"timePattern\":\"14:30\"\x7d"

/-- The activity comes back without its outer blanks and otherwise as it
was, on one line all the same. -/
theorem run_machineLine_clef :
    ∃ s, settings ["--json", "--oracle", clefPayload] bareSurroundings = .ok s ∧ s.json ∧
      (run ["--json", "--oracle", clefPayload] bareSurroundings 0).code = .resolved ∧
      ∃ line members, (run ["--json", "--oracle", clefPayload] bareSurroundings 0).output =
          line ++ "\n" ∧
        (∀ c ∈ line.toList, 0x20 ≤ c.toNat) ∧
        Json.read line = .ok (.object (stringMembers members)) ∧
        ("activity", "say \"\n𝄞") ∈ members := by
  have hcode : (run ["--json", "--oracle", clefPayload] bareSurroundings 0).code = .resolved := by
    decide +kernel
  have hpayload : (Extraction.ofText clefPayload).toOption =
      some (.extracted " say \"\n𝄞 " "14:30") := by
    decide +kernel
  have hsettled : (settings ["--json", "--oracle", clefPayload] bareSurroundings).toOption.map
      (fun s => (s.json, s.source)) = some (true, .payload clefPayload) := by
    decide +kernel
  cases hsettings : settings ["--json", "--oracle", clefPayload] bareSurroundings with
  | error stop =>
    rw [hsettings] at hsettled
    cases hsettled
  | ok s =>
    rw [hsettings] at hsettled
    obtain ⟨hjson, hsource⟩ := Prod.mk.inj (Option.some.inj hsettled)
    have hanswers :
        (run ["--json", "--oracle", clefPayload] bareSurroundings 0).code ≠ .refused := by
      rw [hcode]
      exact nofun
    obtain ⟨line, members, subject, now, hline, hplain, hread, hsubject, -, hanswered⟩ :=
      run_machineLine hsettings hjson hanswers
    rw [Settings.subject, hsource] at hsubject
    cases hsubject
    rw [hcode] at hanswered
    refine ⟨s, rfl, hjson, rfl, line, members, hline, hplain, hread, ?_⟩
    cases hanswered with
    | drafted hextracted _ =>
      rw [hextracted] at hpayload
      cases hpayload
      have htrimmed : Text.trimmed " say \"\n𝄞 " = "say \"\n𝄞" := by decide +kernel
      rw [htrimmed]
      exact List.mem_cons_self

end DueTime.Command
