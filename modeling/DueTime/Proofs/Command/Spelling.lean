/-
DueTime.Proofs.Command.Spelling — the two ways to give an option its value.

The value of an option is the next argument, or stands behind an equals sign
in the same one. The first way takes the value as it is. The second way takes
the option's own name and equals sign off the front of the value, as often as
they stand there (`Argument.Bares`), and is otherwise the same
(`scan_joined`). So the two ways agree on every value that does not begin
with the option's own text. On a value that does they come apart in some run,
but for payloads that are refused in the same words (`run_spelling`).
-/
import DueTime.Proofs.Command.ExitCode

namespace DueTime

/-! ## Taking a text off the front -/

namespace Text

/-- Any bound will do that is not below the number of characters. -/
theorem expectUpTo_eq_of_le {text cs : List Char} (htext : text ≠ []) {m n : Nat}
    (hm : cs.length ≤ m) (hn : cs.length ≤ n) : expectUpTo text m cs = expectUpTo text n cs := by
  have hnil : expect text [] = none := by
    cases text with
    | nil => exact absurd rfl htext
    | cons c text => rfl
  have hstop (n : Nat) : expectUpTo text n [] = [] := by
    cases n with
    | zero => rfl
    | succ n => rw [expectUpTo, hnil]
  induction m generalizing n cs with
  | zero =>
    rw [List.length_eq_zero_iff.mp (Nat.le_zero.mp hm), hstop, hstop]
  | succ m ih =>
    cases n with
    | zero => rw [List.length_eq_zero_iff.mp (Nat.le_zero.mp hn), hstop, hstop]
    | succ n =>
      rw [expectUpTo, expectUpTo]
      cases hrest : expect text cs with
      | none => rfl
      | some rest =>
        have hlength := congrArg List.length (expect_eq_some_iff.mp hrest)
        have hpos := List.length_pos_iff.mpr htext
        rw [List.length_append] at hlength
        exact ih (by omega) (by omega)

theorem expectAll_append {text : List Char} (htext : text ≠ []) (cs : List Char) :
    expectAll text (text ++ cs) = expectAll text cs := by
  have hpos := List.length_pos_iff.mpr htext
  have hlength : (text ++ cs).length ≤ cs.length + text.length := by
    rw [List.length_append, Nat.add_comm]
  obtain ⟨n, hn⟩ : ∃ n, cs.length + text.length = n + 1 := ⟨_, (Nat.succ_pred (by omega)).symm⟩
  rw [expectAll, expectUpTo_eq_of_le htext (Nat.le_refl _) hlength, hn, expectUpTo,
    expect_eq_some_iff.mpr rfl]
  exact expectUpTo_eq_of_le htext (by omega) (Nat.le_refl _)

theorem expectAll_of_expect_eq_none {text cs : List Char} (h : expect text cs = none) :
    expectAll text cs = cs := by
  rw [expectAll]
  cases cs.length with
  | zero => rfl
  | succ n => rw [expectUpTo, h]

end Text

namespace Command

namespace Argument

variable {option : ValueOption} {text bare : String}

/-! ## Values without the option's own text -/

/-- The value does not begin with the option's name and an equals sign. -/
def IsBare (option : ValueOption) (text : String) : Prop :=
  ∀ value, text ≠ joined option value

/-- What is left of a value when the option's name and equals sign are taken
off its front as often as they stand there. -/
inductive Bares (option : ValueOption) : String → String → Prop
  | bare {text : String} (h : IsBare option text) : Bares option text text
  | joined {value bare : String} (h : Bares option value bare) :
    Bares option (joined option value) bare

theorem Bares.isBare (h : Bares option text bare) : IsBare option bare := by
  induction h with
  | bare h => exact h
  | joined _ ih => exact ih

/-- A value that is not bare becomes another. -/
theorem Bares.ne (h : Bares option (Argument.joined option text) bare) :
    bare ≠ Argument.joined option text := by
  rintro rfl
  exact h.isBare text rfl

theorem joinedValue_joined : joinedValue option (joined option text) = joinedValue option text := by
  have hlead : (joined option text).toList = option.flag.toList ++ ['='] ++ text.toList := by
    simp [joined]
  rw [joinedValue, hlead, Text.expectAll_append (by simp), joinedValue]

theorem joinedValue_of_isBare (h : IsBare option text) : joinedValue option text = text := by
  have hnone : Text.expect (option.flag.toList ++ ['=']) text.toList = none := by
    cases hrest : Text.expect (option.flag.toList ++ ['=']) text.toList with
    | none => rfl
    | some rest =>
      refine absurd (String.toList_injective ?_) (h (String.ofList rest))
      simp [joined, Text.expect_eq_some_iff.mp hrest]
  rw [joinedValue, Text.expectAll_of_expect_eq_none hnone, String.ofList_toList]

/-- The value that is taken from an argument has the option's own text in
front no more. -/
theorem bares_iff : Bares option text bare ↔ joinedValue option text = bare := by
  constructor
  · intro h
    induction h with
    | bare h => exact joinedValue_of_isBare h
    | joined _ ih => rw [joinedValue_joined, ih]
  · rintro rfl
    -- By the length, since each name that is taken off leaves less.
    induction hlength : text.length using Nat.strongRecOn generalizing text with
    | _ n ih =>
      by_cases hbare : IsBare option text
      · rw [joinedValue_of_isBare hbare]
        exact .bare hbare
      · obtain ⟨value, rfl⟩ : ∃ value, text = joined option value := by
          simpa [IsBare] using hbare
        rw [joinedValue_joined]
        refine .joined (ih value.length ?_ rfl)
        rw [← hlength, joined, String.length_append, String.length_append]
        have hequals : "=".length = 1 := rfl
        omega

end Argument

/-! ## The same value in both ways -/

/-- A value behind an equals sign is read like the bare value as an argument
of its own. -/
theorem scan_joined {option : ValueOption} {text bare : String}
    (h : Argument.Bares option text bare) (rest : List String) (o : Options) :
    o.scan (Argument.joined option text :: rest) = o.scan (option.flag :: bare :: rest) := by
  obtain rfl := Argument.bares_iff.mp h
  exact (o.scan_arguments (.joined option text) rest).trans
    (o.scan_arguments (.apart option _) rest).symm

/-- So is the run, whatever stands before and after. -/
theorem run_joined {option : ValueOption} {text bare : String}
    (h : Argument.Bares option text bare) {front : List String} (hfront : OnlyOptions front)
    (rest : List String) (around : Surroundings) (elapsed : Nat) :
    run (front ++ Argument.joined option text :: rest) around elapsed =
      run (front ++ option.flag :: bare :: rest) around elapsed := by
  refine run_congr ?_
  rw [settings, settings]
  rcases hfront.scan_eq { color := around.terminal } with ⟨stop, hstop⟩ | ⟨o, hgoes⟩
  · rw [hstop, hstop]
  · rw [hgoes, hgoes, scan_joined h]

/-! ## Payloads that are refused in the same words -/

/-- Neither payload can be read, and the complaints are the same. -/
def SameComplaint (text text' : String) : Prop :=
  ∃ error error', Extraction.ofText text = .error error ∧ Extraction.ofText text' = .error error' ∧
    error.message text = error'.message text'

/-- A payload that counts is all in which two readings differ, or they do not
differ. -/
theorem scan_payload (o : Options) (text text' : String) (rest : List String) :
    o.scan ("--oracle" :: text :: rest) = o.scan ("--oracle" :: text' :: rest) ∨
      ∃ o' : Options, o.scan ("--oracle" :: text :: rest) = .ok { o' with payload := some text } ∧
        o.scan ("--oracle" :: text' :: rest) = .ok { o' with payload := some text' } := by
  have hscan (text : String) : o.scan ("--oracle" :: text :: rest) =
      Options.scan { o with payload := some text } rest :=
    o.scan_arguments (.apart .payload text) rest
  obtain ⟨given, result, hreads⟩ := exists_reads rest
  rw [hscan, hscan, hreads.scan_eq, hreads.scan_eq]
  cases result with
  | error stop => exact Or.inl rfl
  | ok token =>
    cases hlater : (givenValues .payload given).getLast? with
    | some later =>
      left
      simp only [Except.map, Options.heeding, hlater, Option.some_or]
    | none =>
      refine Or.inr ⟨{ o.heeding given with token := token.or o.token }, ?_, ?_⟩
      · simp only [Except.map, Options.heeding, hlater, Option.none_or]
      · simp only [Except.map, Options.heeding, hlater, Option.none_or]

/-- What is settled depends on the payload by the source alone. -/
theorem settle_payload (o : Options) (zones : Zone.Database) (zoneVariable : Option String) :
    (∃ reason, ∀ text, Options.settle { o with payload := some text } zones zoneVariable =
        .error reason) ∨
      ∃ zone, ∀ text, Options.settle { o with payload := some text } zones zoneVariable =
        .ok ⟨.payload text, o.reference, zone, o.color, o.json⟩ := by
  have hname (text : String) : Options.zoneName { o with payload := some text } zoneVariable =
      o.zoneName zoneVariable := rfl
  have hsource (text : String) : Options.source? { o with payload := some text } =
      if o.token.isSome then none else some (.payload text) := by
    rw [Options.source?]
    cases o.token with
    | none => rfl
    | some token => rfl
  simp only [Options.settle, hname, hsource]
  cases zones.find? (o.zoneName zoneVariable) with
  | none => exact Or.inl ⟨_, fun _ => rfl⟩
  | some zone =>
    cases o.token with
    | none => exact Or.inr ⟨zone, fun _ => rfl⟩
    | some token => exact Or.inl ⟨.tokenAndPayload, fun _ => rfl⟩

/-- Options with a payload are refused for something else, whatever the
payload, or a payload that cannot be read is why they are refused. -/
theorem answer_payload (o : Options) (around : Surroundings) :
    (∃ reason, ∀ text, Options.answer { o with payload := some text } around = .error reason) ∨
      ∀ text error, Extraction.ofText text = .error error →
        Options.answer { o with payload := some text } around =
          .error (.badPayload text error) := by
  rcases settle_payload o around.zones around.zoneVariable with ⟨reason, hsettle⟩ | ⟨zone, hsettle⟩
  · refine Or.inl ⟨reason, fun text => ?_⟩
    rw [Options.answer, hsettle]
    rfl
  · -- The clock does not depend on the payload.
    let s (text : String) : Settings := ⟨.payload text, o.reference, zone, o.color, o.json⟩
    have hanswer (text : String) : Options.answer { o with payload := some text } around =
        (s "").clock around.now >>= (Subject.payload text).answer := by
      rw [Options.answer, hsettle]
      rfl
    cases hclock : (s "").clock around.now with
    | error reason =>
      refine Or.inl ⟨reason, fun text => ?_⟩
      rw [hanswer, hclock]
      rfl
    | ok now =>
      refine Or.inr fun text error h => ?_
      rw [hanswer, hclock]
      exact Subject.answer_payload_eq_error_iff.mpr ⟨error, h, rfl⟩

theorem leaves_of_scan {arguments : List String} {around : Surroundings} {o : Options}
    (h : Options.scan { color := around.terminal } arguments = .ok o) :
    Leaves arguments around o := by
  rcases halts_or_leaves arguments around with ⟨stop, hhalts⟩ | ⟨o', ho'⟩
  · cases h.symm.trans (hhalts.scan_eq _)
  · cases h.symm.trans ho'.scan_eq
    exact ho'

section
variable {arguments : List String} {around : Surroundings} {o : Options}
  (hscan : Options.scan { color := around.terminal } arguments = .ok o)
include hscan

theorem run_of_answer_error {reason : Refusal} (h : o.answer around = .error reason)
    (elapsed : Nat) : run arguments around elapsed = (Stop.refused reason).outcome := by
  rcases run_of_leaves (leaves_of_scan hscan) elapsed with ⟨reason', h', hrun⟩ | ⟨a, s, h', -⟩
  · cases h.symm.trans h'
    exact hrun
  · cases h.symm.trans h'

theorem run_code_of_answer_ok {a : Answer} (h : o.answer around = .ok a) (elapsed : Nat) :
    (run arguments around elapsed).code ≠ .refused := by
  rcases run_of_leaves (leaves_of_scan hscan) elapsed with ⟨reason, h', -⟩ | ⟨a', s, h', hrun⟩
  · cases h.symm.trans h'
  · rw [hrun]
    exact a'.exitCode_ne_refused

end

/-- In a run one payload is as bad as the other. -/
theorem run_of_sameComplaint {text text' : String} (h : SameComplaint text text')
    {front : List String} (hfront : OnlyOptions front) (rest : List String)
    (around : Surroundings) (elapsed : Nat) :
    run (front ++ "--oracle" :: text :: rest) around elapsed =
      run (front ++ "--oracle" :: text' :: rest) around elapsed := by
  obtain ⟨error, error', herror, herror', hmessage⟩ := h
  rcases hfront.scan_eq { color := around.terminal } with ⟨stop, hstop⟩ | ⟨o, hgoes⟩
  · exact run_congr (by rw [settings, settings, hstop, hstop])
  · rcases scan_payload o text text' rest with hsame | ⟨o', ho, ho'⟩
    · exact run_congr (by rw [settings, settings, hgoes, hgoes, hsame])
    · have hscan := (hgoes _).trans ho
      have hscan' := (hgoes _).trans ho'
      rcases answer_payload o' around with ⟨reason, hreason⟩ | hbad
      · rw [run_of_answer_error hscan (hreason text), run_of_answer_error hscan' (hreason text')]
      · rw [run_of_answer_error hscan (hbad text error herror),
          run_of_answer_error hscan' (hbad text' error' herror')]
        have hcomplaint : (Refusal.badPayload text error).message =
            (Refusal.badPayload text' error').message :=
          congrArg (fun words => "error: " ++ ("invalid oracle payload: " ++ words) ++ "\n")
            hmessage
        exact congrArg (Outcome.mk .refused "") hcomplaint

/-! ## Values on which the two ways come apart -/

theorem Refusal.complaint_of_outcome {reason reason' : Refusal}
    (h : (Stop.refused reason).outcome = (Stop.refused reason').outcome) :
    reason.complaint = reason'.complaint := by
  have hmessage : reason.message = reason'.message := congrArg Outcome.errors h
  simpa only [message, String.append_left_inj, String.append_right_inj] using hmessage

/-- No timestamp begins with two dashes. -/
theorem read?_joined (value : String) :
    Timestamp.read? (Argument.joined .reference value) = none := by
  have hdashes : (Argument.joined .reference value).toList =
      '-' :: '-' :: ("reference=".toList ++ value.toList) := by
    simp [Argument.joined, ValueOption.flag]
  rw [Timestamp.read?, hdashes]
  rfl

/-- No zone has a name that begins with a dash. -/
theorem find?_joined (zones : Zone.Database) (value : String) :
    zones.find? (Argument.joined .zone value) = none := by
  have hdashes : (Argument.joined .zone value).toList =
      '-' :: '-' :: ("tz=".toList ++ value.toList) := by
    simp [Argument.joined, ValueOption.flag]
  rw [Option.eq_none_iff_forall_ne_some]
  intro zone h
  have hname := zones.isName h
  rw [Zone.isName, hdashes] at hname
  cases hname

/-- No JSON value begins with two dashes. -/
theorem exists_ofText_joined (value : String) :
    ∃ error, Extraction.ofText (Argument.joined .payload value) = .error error := by
  have hdashes : (Argument.joined .payload value).toList =
      '-' :: '-' :: ("oracle=".toList ++ value.toList) := by
    simp [Argument.joined, ValueOption.flag]
  rw [Extraction.ofText, Json.readValue, hdashes]
  exact ⟨_, rfl⟩

theorem run_of_malformed {text : String} (h : Timestamp.read? text = none) (rest : List String)
    (around : Surroundings) (elapsed : Nat) :
    run ("--reference" :: text :: rest) around elapsed =
      (Stop.refused (.malformedReference text)).outcome :=
  run_of_halts ⟨[], (Closes.malformedReference (g := .apart .reference text) rfl h).reads⟩

/-- Nothing around the program but these zones and the clock. -/
def bareAmong (zones : Zone.Database) : Surroundings :=
  { bareSurroundings with zones }

section
variable (zones : Zone.Database)

/-- One reference is refused, and the other is too, in other words, or help
is given. -/
theorem run_ne_of_reference {value bare : String}
    (h : Argument.Bares .reference (Argument.joined .reference value) bare) :
    run ["--reference", bare, "--help"] (bareAmong zones) 0 ≠
      run ["--reference", Argument.joined .reference value, "--help"] (bareAmong zones) 0 := by
  rw [run_of_malformed (read?_joined value)]
  cases hread : Timestamp.read? bare with
  | none =>
    rw [run_of_malformed hread]
    intro hsame
    have hcomplaint : "invalid --reference '" ++ bare ++ _ = "invalid --reference '" ++ _ ++ _ :=
      Refusal.complaint_of_outcome hsame
    exact h.ne ((String.append_right_inj _).mp ((String.append_left_inj _).mp hcomplaint))
  | some l =>
    have hgiven : Given.WellFormed (.apart .reference bare) := by
      intro text htext
      cases htext
      exact Option.isSome_of_eq_some hread
    have hhelp : Closes ["--help"] (.error .help) := .help (by simp [Argument.WrittenAs])
    have hrun : run ["--reference", bare, "--help"] (bareAmong zones) 0 = Stop.help.outcome :=
      run_of_halts ⟨_, hhelp.reads.cons hgiven⟩
    rw [hrun]
    intro hsame
    cases congrArg Outcome.code hsame

/-- One zone is unknown, and the other is too, or a token is answered. -/
theorem run_ne_of_zone {value bare : String}
    (h : Argument.Bares .zone (Argument.joined .zone value) bare) :
    run ["--tz", bare, "0"] (bareAmong zones) 0 ≠
      run ["--tz", Argument.joined .zone value, "0"] (bareAmong zones) 0 := by
  have hscan (name : String) : Options.scan { color := (bareAmong zones).terminal }
      ["--tz", name, "0"] = .ok { zone := some name, token := some "0", color := false } := rfl
  let named (name : String) : Options := { zone := some name, token := some "0", color := false }
  have hname (name : String) : (named name).zoneName (bareAmong zones).zoneVariable = name := rfl
  have hzones : (bareAmong zones).zones = zones := rfl
  have hunknown {name : String} (hzone : zones.find? name = none) :
      run ["--tz", name, "0"] (bareAmong zones) 0 =
        (Stop.refused (.unknownZone name)).outcome := by
    refine run_of_answer_error (hscan name) (o := named name) ?_ 0
    rw [Options.answer, Options.settle, hname, hzones, hzone]
    rfl
  rw [hunknown (find?_joined zones value)]
  cases hzone : zones.find? bare with
  | none =>
    rw [hunknown hzone]
    intro hsame
    have hcomplaint : "unknown timezone '" ++ bare ++ _ = "unknown timezone '" ++ _ ++ _ :=
      Refusal.complaint_of_outcome hsame
    exact h.ne ((String.append_right_inj _).mp ((String.append_left_inj _).mp hcomplaint))
  | some zone =>
    have hanswer : (named bare).answer (bareAmong zones) =
        .ok (.token ((ZonedTime.mk zone bareSurroundings.now).explain "0")) := by
      rw [Options.answer, Options.settle, hname, hzones, hzone]
      rfl
    intro hsame
    exact run_code_of_answer_ok (hscan bare) hanswer 0 (congrArg Outcome.code hsame)

/-- One payload is refused, and the other is too, in other words, or it is
answered. -/
theorem run_ne_of_payload {value bare : String}
    (h : ¬ SameComplaint (Argument.joined .payload value) bare) :
    run ["--oracle", bare] (bareAmong zones) 0 ≠
      run ["--oracle", Argument.joined .payload value] (bareAmong zones) 0 := by
  have hscan (text : String) : Options.scan { color := (bareAmong zones).terminal }
      ["--oracle", text] = .ok { payload := some text, color := false } := rfl
  have hname (text : String) : Options.zoneName { payload := some text, color := false }
      (bareAmong zones).zoneVariable = "UTC" := rfl
  have hutc : (bareAmong zones).zones.find? "UTC" = some Zone.utc := zones.find?_utc
  have hanswer (text : String) :
      Options.answer { payload := some text, color := false } (bareAmong zones) =
        (Subject.payload text).answer ⟨Zone.utc, bareSurroundings.now⟩ := by
    rw [Options.answer, Options.settle, hname, hutc]
    rfl
  have hbad {text : String} {error : Extraction.PayloadError}
      (herror : Extraction.ofText text = .error error) :
      run ["--oracle", text] (bareAmong zones) 0 =
        (Stop.refused (.badPayload text error)).outcome :=
    run_of_answer_error (hscan text)
      ((hanswer text).trans (Subject.answer_payload_eq_error_iff.mpr ⟨error, herror, rfl⟩)) 0
  obtain ⟨error, herror⟩ := exists_ofText_joined value
  rw [hbad herror]
  intro hsame
  cases hbare : Extraction.ofText bare with
  | error error' =>
    rw [hbad hbare] at hsame
    have hcomplaint : "invalid oracle payload: " ++ error'.message bare = _ ++ error.message _ :=
      Refusal.complaint_of_outcome hsame
    exact h ⟨error, error', herror, hbare, ((String.append_right_inj _).mp hcomplaint).symm⟩
  | ok extraction =>
    have hanswered := hanswer bare
    rw [Subject.answer, hbare] at hanswered
    exact run_code_of_answer_ok (hscan bare) hanswered 0 (congrArg Outcome.code hsame)

end

/-! ## The law -/

/-- Whatever stands before and after the option, the value means the same in
both ways, where there are these zones. -/
def AgreesInBothWays (zones : Zone.Database) (option : ValueOption) (text : String) : Prop :=
  ∀ front rest around elapsed, around.zones = zones → OnlyOptions front →
    run (front ++ Argument.joined option text :: rest) around elapsed =
      run (front ++ option.flag :: text :: rest) around elapsed

/-- A value behind an equals sign means the same as an argument of its own
that is the bare value. So the two ways to give a value agree in every run if
the value is bare, and besides if it is a payload that is refused in the same
words as the bare one. On every other value some runs tell them apart,
whichever zones there are. -/
theorem run_spelling (option : ValueOption) {text bare : String}
    (hbare : Argument.Bares option text bare) :
    (∀ front rest around elapsed, OnlyOptions front →
      run (front ++ Argument.joined option text :: rest) around elapsed =
        run (front ++ option.flag :: bare :: rest) around elapsed) ∧
    ∀ zones, AgreesInBothWays zones option text ↔
      Argument.IsBare option text ∨ option = .payload ∧ SameComplaint text bare := by
  have hjoined (front rest : List String) (around : Surroundings) (elapsed : Nat)
      (hfront : OnlyOptions front) := run_joined hbare hfront rest around elapsed
  refine ⟨hjoined, fun zones => ⟨?_, ?_⟩⟩
  · intro hagrees
    by_contra hother
    obtain ⟨htext, hcomplaint⟩ := not_or.mp hother
    cases hbare with
    | bare h => exact htext h
    | @joined value bare h =>
      have hruns (rest : List String) : run (option.flag :: bare :: rest) (bareAmong zones) 0 =
          run (option.flag :: Argument.joined option value :: rest) (bareAmong zones) 0 :=
        (hjoined [] rest (bareAmong zones) 0 .nil).symm.trans
          (hagrees [] rest (bareAmong zones) 0 rfl .nil)
      cases option with
      | reference => exact run_ne_of_reference zones (.joined h) (hruns ["--help"])
      | zone => exact run_ne_of_zone zones (.joined h) (hruns ["0"])
      | payload =>
        exact run_ne_of_payload zones (fun hsame => hcomplaint ⟨rfl, hsame⟩) (hruns [])
  · rintro (htext | ⟨rfl, hcomplaint⟩) front rest around elapsed - hfront
    · exact run_joined (.bare htext) hfront rest around elapsed
    · rw [hjoined front rest around elapsed hfront]
      exact (run_of_sameComplaint hcomplaint hfront rest around elapsed).symm

/-- The name of the option stands in front of its value once more. Behind an
equals sign it is taken off, and the rest is known. -/
theorem run_spelling_utc :
    Argument.Bares .zone "--tz=UTC" "UTC" ∧
      run ["--tz=--tz=UTC", "0"] bareSurroundings 0 = run ["--tz", "UTC", "0"] bareSurroundings 0 ∧
      ∀ zones, ¬ AgreesInBothWays zones .zone "--tz=UTC" := by
  have hbare : Argument.Bares .zone "--tz=UTC" "UTC" :=
    Argument.bares_iff.mpr (by decide +kernel)
  obtain ⟨hjoined, hagrees⟩ := run_spelling .zone hbare
  refine ⟨hbare, hjoined [] ["0"] bareSurroundings 0 .nil, fun zones h => ?_⟩
  rcases (hagrees zones).mp h with htext | ⟨hpayload, -⟩
  · exact htext "UTC" rfl
  · cases hpayload

/-- As an argument of its own the value is kept as it is, and no zone has
that name. -/
theorem run_repeatedName :
    (run ["--tz=--tz=UTC", "0"] bareSurroundings 0).code = .resolved ∧
      (run ["--tz", "--tz=UTC", "0"] bareSurroundings 0).code = .refused ∧
      (run ["--tz", "--tz=UTC", "0"] bareSurroundings 0).errors =
        "error: unknown timezone '--tz=UTC' (expected an IANA name such as Europe/Berlin)\n" := by
  decide +kernel

end Command

end DueTime
