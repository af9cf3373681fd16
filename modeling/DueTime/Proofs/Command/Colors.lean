/-
DueTime.Proofs.Command.Colors — what color does to a report.

With its sequences deleted, a colored report should be the report without
colors. For drafts it is (`draft_fades`). In an explanation the marks of the
rules stand in a column: spaces fill each one up to a width, and the
sequences count towards it. So a colored mark gets no spaces, and the names
behind the marks do not stand in line. Everything else is the same
(`explanation_fades`). The option decides nothing but the colors, and
`run_color` says this of whole runs.
-/
import DueTime.Proofs.Command.Faults
import DueTime.Proofs.Command.MachineLine
import DueTime.Proofs.Command.Scan
import DueTime.Proofs.Command.Unpainted
import DueTime.Proofs.Token.Trace

namespace DueTime.Command

open List (Forall₂)

/-! ## Lines of a report -/

namespace Report

variable (p : Palette)

theorem heading_fades {title : String} (h : Clear title) :
    Fades (heading p title) (heading ⟨false⟩ title) := by
  have htext : Clear ("━━━ " ++ title ++ " ━━━") := (Clear.append (by decide) h).append (by decide)
  exact .colored p .gray htext

theorem referenceLine_fades {now : ZonedTime} (h : Clear now.zone.name) :
    Fades (referenceLine p now) (referenceLine ⟨false⟩ now) := by
  have hlabel : Fades (p.paint .dim "reference:") "reference:" := .colored p .dim (by decide)
  have hname : Clear ("(" ++ now.zone.name ++ ")") :=
    (Clear.append (by decide) h).append (by decide)
  exact (hlabel.indented.spaced (.colored p .yellow (clear_exact now))).spaced
    (.colored p .dim hname)

/-- A label and what it is the label of. -/
theorem labeled_fades {label painted plain : String} (hlabel : Clear label)
    (h : Fades painted plain) :
    Fades ("  " ++ p.paint .dim label ++ " " ++ painted) ("  " ++ label ++ " " ++ plain) :=
  (Fades.colored p .dim hlabel).indented.spaced h

theorem resultLines_fades {result : Except ResolveError Resolution}
    (h : ∀ token, result = .error (.unrecognized token) → Clear token) :
    Forall₂ Fades (resultLines p result) (resultLines ⟨false⟩ result) := by
  cases result with
  | ok r =>
    have hdue : Fades (p.paintBold .green r.due) r.due :=
      .paint p .bold (.colored p .green (clear_due r.time))
    have hbar : Fades (p.paint .dim "│") "│" := .colored p .dim (by decide)
    have hfirst := (hdue.indented.spaced hbar).spaced (.colored p .cyan (clear_rule r))
    have hutc : Fades r.time.utc r.time.utc := .of_clear (clear_exact _)
    exact .cons hfirst (.cons (labeled_fades p (by decide) hutc) .nil)
  | error reason =>
    have hmessage : Fades ("  " ++ p.paint .red reason.message) ("  " ++ reason.message) :=
      .indented (.colored p .red (clear_message fun token htoken => h token (by rw [htoken])))
    cases reason with
    | unrecognized token =>
      have hclear {line : String} (h : Clear line) : Fades line line := .of_clear h
      have hempty := hclear (by decide : Clear "")
      have hreasons : Fades (p.paint .yellow "Possible reasons:") "Possible reasons:" :=
        .colored p .yellow (by decide)
      have htip : Fades
          (p.paint .dim "  Tip: Set REMINDTIME_DEBUG_RULES=1 to see rule matching details")
          "  Tip: Set REMINDTIME_DEBUG_RULES=1 to see rule matching details" :=
        .colored p .dim (by decide)
      exact .cons hmessage (.cons hempty (.cons hreasons (.cons (hclear (by decide))
        (.cons (hclear (by decide)) (.cons hempty (.cons htip .nil))))))
    | invalidTime hours minutes => exact .cons hmessage .nil
    | pastTime => exact .cons hmessage .nil

/-! ### Drafts -/

theorem draft_fades {now : ZonedTime} {result : Except FailureCode Draft}
    (hzone : Clear now.zone.name) (h : ∀ d, result = .ok d → Clear d.activity) :
    Forall₂ Fades (draft p now result) (draft ⟨false⟩ now result) := by
  have hempty : Fades "" "" := .of_clear (by decide)
  have htitle : Fades (p.paintBold .cyan "⏰ Reminder draft") "⏰ Reminder draft" :=
    .paint p .bold (.colored p .cyan (by decide))
  have hresult : Fades (heading p "Result") (heading ⟨false⟩ "Result") :=
    heading_fades p (by decide)
  refine List.rel_append (List.rel_append ?_ ?_) (.cons hempty .nil)
  · exact .cons hempty (.cons htitle (.cons (referenceLine_fades p hzone)
      (.cons hempty (.cons hresult .nil))))
  · cases result with
    | ok d =>
      exact .cons (labeled_fades p (by decide) (.colored p .bold (h d rfl)))
        (.cons (labeled_fades p (by decide) (.colored p .green (clear_due _)))
          (.cons (labeled_fades p (by decide) (.colored p .blue (clear_rule _))) .nil))
    | error code =>
      have htext : Clear code.text := by cases code <;> decide
      have hmessage : Clear code.message := by cases code <;> decide
      exact .cons ((Fades.colored p .red htext).indented.spaced (.colored p .dim hmessage)) .nil

/-! ### Explanations -/

/-- The line for a rule without the spaces that fill up the mark. -/
def narrowLine (attempt : Token.Attempt) : String :=
  "  " ++ mark ⟨false⟩ attempt.outcome ++ " " ++ attempt.rule

/-- A colored mark is as wide as the column, so that no spaces fill it up. -/
theorem padded_mark (outcome : Token.Outcome) :
    padded 11 (mark ⟨true⟩ outcome) = mark ⟨true⟩ outcome := by
  have hwide : 11 ≤ (mark ⟨true⟩ outcome).length := by
    cases outcome with
    | matched p => exact (by decide : 11 ≤ (Palette.paint ⟨true⟩ .green "✓ matched").length)
    | missed => decide
    | gated => decide
  rw [padded, Nat.sub_eq_zero_of_le hwide]
  exact String.append_empty

theorem attemptLine_fades {attempt : Token.Attempt} (h : Clear attempt.rule) :
    Fades (attemptLine ⟨true⟩ attempt) (narrowLine attempt) := by
  have hmark : Fades (mark ⟨true⟩ attempt.outcome) (mark ⟨false⟩ attempt.outcome) := by
    cases attempt.outcome with
    | matched p => exact .colored _ .green (by decide)
    | missed => exact .colored _ .dim (by decide)
    | gated => exact .colored _ .dim (by decide)
  rw [attemptLine, padded_mark]
  exact hmark.indented.spaced (.colored _ .blue h)

theorem attemptLines_fade (token : String) :
    Forall₂ Fades ((Token.trace token).attempts.map (attemptLine ⟨true⟩))
      ((Token.trace token).attempts.map narrowLine) := by
  have hrules : ∀ rule ∈ Token.Rule.table, Clear rule.name := by decide
  rw [List.forall₂_map_left_iff, List.forall₂_map_right_iff, List.forall₂_same]
  intro attempt hattempt
  have hrule : attempt.rule ∈ Token.Rule.table.map (·.name) := by
    rw [← Token.trace_attempts_map_rule token]
    exact List.mem_map_of_mem hattempt
  obtain ⟨rule, hmem, hname⟩ := List.mem_map.mp hrule
  exact attemptLine_fades (hname ▸ hrules rule hmem)

/-- The lines differ where they are for the rules. There the second ones lack
the spaces that fill up the marks. -/
def Narrowed (attempts : List Token.Attempt) (wide narrow : List String) : Prop :=
  ∃ front back, wide = front ++ attempts.map (attemptLine ⟨false⟩) ++ back ∧
    narrow = front ++ attempts.map narrowLine ++ back

theorem explanation_fades {now : ZonedTime} {token : String} (hzone : Clear now.zone.name)
    (htoken : Clear token) {result : Except ResolveError Resolution}
    (hsettled : (now.explain token).result.settled? = some result) (elapsed : Nat) :
    ∃ narrow, Narrowed (now.explain token).trace.attempts
        (explanation ⟨false⟩ elapsed (now.explain token) result) narrow ∧
      Forall₂ Fades (explanation ⟨true⟩ elapsed (now.explain token) result) narrow := by
  have hempty : Fades "" "" := .of_clear (by decide)
  have htitle : Clear ("⏰ Pattern: \"" ++ Text.trimmed token ++ "\"") :=
    (Clear.append (by decide) (htoken.trims (Text.trims_trimmed token))).append (by decide)
  have hnormalized : Clear ("\"" ++ (now.explain token).trace.normalized ++ "\"") := by
    rw [explain_normalized]
    exact (Clear.append (by decide) (clear_normalize htoken)).append (by decide)
  have hresult : ∀ given, result = .error (.unrecognized given) → Clear given := by
    intro given h
    rw [explain_result, h, Result.settled?_eq_error_iff] at hsettled
    exact htoken.trims ((ZonedTime.resolveToken_eq_unrecognized_iff now).mp hsettled).2
  refine ⟨_, ⟨_, _, by rw [explanation, List.append_assoc, List.append_assoc], rfl⟩, ?_⟩
  rw [explanation, List.append_assoc, List.append_assoc]
  refine List.rel_append (List.rel_append ?_ (attemptLines_fade token))
    (List.rel_append ?_ (List.rel_append (resultLines_fades _ hresult) ?_))
  · have hfeatures : Fades (featureText (now.explain token).trace.features)
        (featureText (now.explain token).trace.features) := .of_clear (clear_featureText _)
    exact .cons hempty (.cons (.paint _ .bold (.colored _ .cyan htitle))
      (.cons (referenceLine_fades _ hzone) (.cons hempty (.cons (heading_fades _ (by decide))
        (.cons (labeled_fades _ (by decide) (.colored _ .yellow hnormalized))
          (.cons (labeled_fades _ (by decide) hfeatures) .nil))))))
  · exact .cons hempty (.cons (heading_fades _ (by decide)) .nil)
  · have htotal : Fades ("  Total: " ++ Palette.paint ⟨true⟩ .green (elapsedText elapsed))
        ("  Total: " ++ elapsedText elapsed) :=
      (Fades.of_clear (by decide)).append (.colored _ .green (clear_elapsedText elapsed))
    exact .cons hempty (.cons (heading_fades _ (by decide)) (.cons htotal (.cons hempty .nil)))

/-! ### The width of the column -/

theorem length_narrowLine (attempt : Token.Attempt) :
    (narrowLine attempt).length + 2 ≤ (attemptLine ⟨false⟩ attempt).length := by
  have hmark : (mark ⟨false⟩ attempt.outcome).length + 2 ≤
      (padded 11 (mark ⟨false⟩ attempt.outcome)).length := by
    cases attempt.outcome with
    | matched p =>
      exact (by decide : "✓ matched".length + 2 ≤ (padded 11 "✓ matched").length)
    | missed => decide
    | gated => decide
  have hrule : (Palette.paint ⟨false⟩ .blue attempt.rule) = attempt.rule := rfl
  rw [narrowLine, attemptLine, hrule]
  simp only [String.length_append]
  omega

theorem length_narrowLines (attempts : List Token.Attempt) :
    (unlines (attempts.map narrowLine)).length + 2 * attempts.length ≤
      (unlines (attempts.map (attemptLine ⟨false⟩))).length := by
  induction attempts with
  | nil => exact Nat.le_refl _
  | cons attempt attempts ih =>
    have hline := length_narrowLine attempt
    simp only [List.map_cons, unlines_cons, String.length_append, List.length_cons]
    omega

/-- Lines that lack the spaces are other lines. -/
theorem Narrowed.unlines_ne {attempts : List Token.Attempt} {wide narrow : List String}
    (h : Narrowed attempts wide narrow) (hattempts : attempts ≠ []) :
    unlines narrow ≠ unlines wide := by
  obtain ⟨front, back, rfl, rfl⟩ := h
  intro hsame
  have hlength := congrArg String.length hsame
  have hlines := length_narrowLines attempts
  have hpos := List.length_pos_iff.mpr hattempts
  simp only [unlines_append, String.length_append] at hlength
  omega

end Report

/-! ## Reports of a run -/

/-- The run ends with a report of the answer. -/
def Reports (arguments : List String) (around : Surroundings) (a : Answer) : Prop :=
  ∃ s, answer arguments around = .ok (s, a) ∧ s.json = false

section
variable {arguments : List String} {around : Surroundings} {s : Settings} {a : Answer}
  (h : answer arguments around = .ok (s, a))
include h

theorem reports_iff {a' : Answer} :
    Reports arguments around a' ↔ a' = a ∧ s.json = false := by
  simp only [Reports, h, Except.ok.injEq, Prod.mk.injEq]
  constructor
  · rintro ⟨_, ⟨rfl, rfl⟩, hjson⟩
    exact ⟨rfl, hjson⟩
  · rintro ⟨rfl, hjson⟩
    exact ⟨s, ⟨rfl, rfl⟩, hjson⟩

/-- An answer is one to a token or to a payload, seen from a clock that shows
a day, in a zone that has a name. -/
theorem answer_cases :
    ∃ now : ZonedTime, Clear now.zone.name ∧ (∃ today, now.date? = some today) ∧
      ((∃ token, a = .token (now.explain token)) ∨
        ∃ extraction, a = .payload now extraction) := by
  obtain ⟨hsettings, hfind⟩ := answer_eq_ok_iff.mp h
  obtain ⟨o, -, hsettle⟩ := settings_eq_ok_iff.mp hsettings
  obtain ⟨hzone, -, hreference, -, -⟩ := Options.settle_eq_ok_iff.mp hsettle
  obtain ⟨subject, -, now, hclock, hanswer⟩ := Settings.find_eq_ok_iff.mp hfind
  refine ⟨now, ?_, exists_date?_of_clock hsettings hclock, ?_⟩
  · cases Options.shows_of_clock hzone hreference hclock with
    | present hzone => exact clear_name_of_find? hzone
    | reference hzone hl hnow =>
      obtain ⟨t, -, rfl⟩ := Option.map_eq_some_iff.mp hnow
      exact clear_name_of_find? hzone
  · cases subject with
    | token token =>
      cases hanswer
      exact Or.inl ⟨token, rfl⟩
    | payload text =>
      rw [Subject.answer] at hanswer
      split at hanswer
      · cases hanswer
        exact Or.inr ⟨_, rfl⟩
      · cases hanswer

end

/-! ### The option among the others -/

/-- What is settled does not depend on color. -/
theorem settle_color (o : Options) (zones : Zone.Database) (zoneVariable : Option String)
    (on : Bool) :
    Options.settle { o with color := on } zones zoneVariable =
      (o.settle zones zoneVariable).map fun s => { s with color := on } := by
  have hzone : Options.zoneName { o with color := on } zoneVariable = o.zoneName zoneVariable := rfl
  have hsource : Options.source? { o with color := on } = o.source? := rfl
  rw [Options.settle, Options.settle, hzone, hsource]
  cases zones.find? (o.zoneName zoneVariable) with
  | none => rfl
  | some zone =>
    cases o.source? with
    | none => rfl
    | some source => rfl

section
variable {front rest : List String} {back : List Given} {result : Except Stop (Option String)}
  (hfront : OnlyOptions front) (hrest : Reads rest back result)
  (hback : ∀ g ∈ back, g.color? = none)
include hfront hrest hback

/-- The reading stops before or behind the option, or the option decides
about color and nothing else. -/
theorem scan_color (o : Options) :
    (∃ stop, ∀ on, o.scan (front ++ ((Given.color on).arguments ++ rest)) = .error stop) ∨
      ∃ o' : Options, ∀ on, o.scan (front ++ ((Given.color on).arguments ++ rest)) =
        .ok { o' with color := on } := by
  rcases hfront.scan_eq o with ⟨stop, hstop⟩ | ⟨o', hgoes⟩
  · exact Or.inl ⟨stop, fun on => hstop _⟩
  · have hheeding (on : Bool) :
        Options.heeding { o' with color := on } back = { o'.heeding back with color := on } := by
      have hnone : back.filterMap Given.color? = [] := List.filterMap_eq_nil_iff.mpr hback
      simp [Options.heeding, hnone]
    have hscan (on : Bool) : o.scan (front ++ ((Given.color on).arguments ++ rest)) =
        result.map fun token =>
          { o'.heeding back with token := token.or o'.token, color := on } := by
      rw [hgoes, Options.scan_arguments]
      exact (hrest.scan_eq _).trans (by rw [hheeding])
    cases result with
    | error stop => exact Or.inl ⟨stop, hscan⟩
    | ok token => exact Or.inr ⟨{ o'.heeding back with token := token.or o'.token }, hscan⟩

/-- The run ends without an answer in the same way, or its answer is the
same. -/
theorem answer_color (around : Surroundings) :
    (∃ stop, ∀ on, answer (front ++ ((Given.color on).arguments ++ rest)) around =
        .error stop) ∨
      ∃ (s : Settings) (a : Answer), ∀ on,
        answer (front ++ ((Given.color on).arguments ++ rest)) around =
          .ok ({ s with color := on }, a) := by
  rcases scan_color hfront hrest hback { color := around.terminal } with
    ⟨stop, hstop⟩ | ⟨o, ho⟩
  · refine Or.inl ⟨stop, fun on => ?_⟩
    rw [answer, settings, hstop]
    rfl
  · have hsettings (on : Bool) :
        settings (front ++ ((Given.color on).arguments ++ rest)) around =
          ((o.settle around.zones around.zoneVariable).map
            fun s => { s with color := on }).mapError .refused := by
      rw [settings, ho, ← settle_color]
      rfl
    cases hsettle : o.settle around.zones around.zoneVariable with
    | error reason =>
      refine Or.inl ⟨.refused reason, fun on => ?_⟩
      rw [answer, hsettings, hsettle]
      rfl
    | ok s =>
      have hanswer (on : Bool) : answer (front ++ ((Given.color on).arguments ++ rest)) around =
          (s.find around).mapError .refused >>= fun a => .ok ({ s with color := on }, a) := by
        have hsettled : settings (front ++ ((Given.color on).arguments ++ rest)) around =
            .ok { s with color := on } := by
          rw [hsettings, hsettle]
          rfl
        exact answer_of_settings hsettled
      cases hfind : s.find around with
      | error reason => exact Or.inl ⟨.refused reason, fun on => by rw [hanswer, hfind]; rfl⟩
      | ok a => exact Or.inr ⟨s, a, fun on => by rw [hanswer, hfind]; rfl⟩

end

/-! ## The law -/

/-- No escape character stands in what a report quotes: in the token, or in
the activity. -/
def Answer.IsClear : Answer → Prop
  | token e => Clear e.token
  | payload _ (.extracted activity _) => Clear activity
  | payload _ (.failed _) => True

/-- What color does to the report of an answer. A draft without its sequences
is the draft without colors. An explanation without its sequences lacks, in
the lines for the rules, the spaces that fill up the marks. -/
def Answer.Decorates : Answer → String → String → Prop
  | token e, colored, plain =>
    withoutSequences colored ≠ plain ∧
      ∃ wide narrow, Report.Narrowed e.trace.attempts wide narrow ∧ plain = unlines wide ∧
        withoutSequences colored = unlines narrow
  | payload _ _, colored, plain => withoutSequences colored = plain

/-- There are two reports of the answer, and this is what color does. -/
def Answer.Decorated (a : Answer) (elapsed : Nat) : Prop :=
  ∃ colored plain, a.report? ⟨true⟩ elapsed = some colored ∧
    a.report? ⟨false⟩ elapsed = some plain ∧ a.Decorates (unlines colored) (unlines plain)

theorem decorates_explanation {now : ZonedTime} {token : String} (hzone : Clear now.zone.name)
    (htoken : Clear token) {today : Date} (htoday : now.date? = some today) (elapsed : Nat) :
    (Answer.token (now.explain token)).Decorated elapsed := by
  obtain ⟨result, hsettled⟩ := Result.exists_settled? (ZonedTime.resolveToken_ne_crash htoday)
  rw [← explain_result] at hsettled
  obtain ⟨narrow, hnarrowed, hfades⟩ := Report.explanation_fades hzone htoken hsettled elapsed
  have hattempts : (now.explain token).trace.attempts ≠ [] := by
    have hrules : (now.explain token).trace.attempts.map (·.rule) ≠ [] := by
      rw [ZonedTime.explain, Token.trace_attempts_map_rule]
      exact List.cons_ne_nil _ _
    exact fun hnil => hrules (by rw [hnil]; rfl)
  have hstripped := (Fades.unlines hfades).withoutSequences_eq
  have hreport (p : Palette) : (Answer.token (now.explain token)).report? p elapsed =
      some (Report.explanation p elapsed (now.explain token) result) := by
    rw [Answer.report?, hsettled]
    rfl
  refine ⟨_, _, hreport _, hreport _, ?_, _, narrow, hnarrowed, rfl, hstripped⟩
  rw [hstripped]
  exact hnarrowed.unlines_ne hattempts

theorem decorates_draft {now : ZonedTime} {extraction : Extraction} (hzone : Clear now.zone.name)
    (h : (Answer.payload now extraction).IsClear) {today : Date} (htoday : now.date? = some today)
    (elapsed : Nat) : (Answer.payload now extraction).Decorated elapsed := by
  have hcrash : now.draft extraction ≠ .crash := ZonedTime.draft_ne_crash htoday
  obtain ⟨result, hsettled⟩ := Result.exists_settled? hcrash
  have hactivity : ∀ d, result = .ok d → Clear d.activity := by
    intro d hd
    rw [hd, Result.settled?_eq_ok_iff] at hsettled
    obtain ⟨activity, token, rfl, -, -, htrimmed, -⟩ := ZonedTime.draft_eq_ok_iff.mp hsettled
    rw [htrimmed]
    exact Clear.trims h (Text.trims_trimmed activity)
  have hreport (p : Palette) : (Answer.payload now extraction).report? p elapsed =
      some (Report.draft p now result) := by
    rw [Answer.report?, hsettled]
    rfl
  have hfades := Report.draft_fades ⟨true⟩ hzone hactivity
  exact ⟨_, _, hreport _, hreport _, (Fades.unlines hfades).withoutSequences_eq⟩

/-- What an answer writes for people, when it has a report for them. -/
theorem output_of_report? {a : Answer} {s : Settings} {tracing : Bool} {elapsed : Nat}
    {lines : List String} (hjson : s.json = false)
    (h : a.report? ⟨s.color⟩ elapsed = some lines) :
    (a.outcome s tracing elapsed).output = unlines lines := by
  rw [Answer.outcome, Answer.written?, hjson, h]
  rfl

/-- With `--color` a run does what it does with `--no-color` in the same
place, when neither is given behind it. The exit code and the errors are the
same, and so is the output, unless it is a report. The reports are of one
answer. For a draft the one without its sequences is the other; for an
explanation it never is, since the spaces that fill up the marks are gone. -/
theorem run_color {front rest : List String} {back : List Given}
    {result : Except Stop (Option String)} (hfront : OnlyOptions front)
    (hrest : Reads rest back result) (hback : ∀ g ∈ back, g.color? = none)
    (around : Surroundings) (elapsed : Nat) :
    (run (front ++ "--color" :: rest) around elapsed).code =
        (run (front ++ "--no-color" :: rest) around elapsed).code ∧
      (run (front ++ "--color" :: rest) around elapsed).errors =
        (run (front ++ "--no-color" :: rest) around elapsed).errors ∧
      (∀ a, Reports (front ++ "--color" :: rest) around a ↔
        Reports (front ++ "--no-color" :: rest) around a) ∧
      ((∀ a, ¬ Reports (front ++ "--color" :: rest) around a) →
        (run (front ++ "--color" :: rest) around elapsed).output =
          (run (front ++ "--no-color" :: rest) around elapsed).output) ∧
      ∀ a, Reports (front ++ "--color" :: rest) around a → a.IsClear →
        a.Decorates (run (front ++ "--color" :: rest) around elapsed).output
          (run (front ++ "--no-color" :: rest) around elapsed).output := by
  rcases answer_color hfront hrest hback around with ⟨stop, hstop⟩ | ⟨s, a, ha⟩
  · have hcolored : answer (front ++ "--color" :: rest) around = .error stop := hstop true
    have hplain : answer (front ++ "--no-color" :: rest) around = .error stop := hstop false
    have hno (a : Answer) : ¬ Reports (front ++ "--color" :: rest) around a := by
      rintro ⟨s, hs, -⟩
      cases hcolored.symm.trans hs
    rw [run, run, hcolored, hplain]
    refine ⟨rfl, rfl, fun a => ?_, fun _ => rfl, fun a ha => absurd ha (hno a)⟩
    rw [Reports, Reports, hcolored, hplain]
  · have hcolored : answer (front ++ "--color" :: rest) around =
        .ok ({ s with color := true }, a) := ha true
    have hplain : answer (front ++ "--no-color" :: rest) around =
        .ok ({ s with color := false }, a) := ha false
    rw [run_of_answer hcolored, run_of_answer hplain]
    refine ⟨rfl, rfl, fun a' => ?_, fun hno => ?_, fun a' ha' hclear => ?_⟩
    · rw [reports_iff hcolored, reports_iff hplain]
    · have hjson : s.json = true := by
        by_contra hjson
        exact hno a ((reports_iff hcolored).mpr ⟨rfl, eq_false_of_ne_true hjson⟩)
      simp only [Answer.outcome, Answer.written?, hjson, if_true]
    · obtain ⟨rfl, hjson⟩ : a' = a ∧ s.json = false := (reports_iff hcolored).mp ha'
      obtain ⟨colored, plain, hcolored', hplain', hdecorates⟩ : a'.Decorated elapsed := by
        obtain ⟨now, hzone, ⟨today, htoday⟩, ⟨token, rfl⟩ | ⟨extraction, rfl⟩⟩ :=
          answer_cases hcolored
        · exact decorates_explanation hzone hclear htoday elapsed
        · exact decorates_draft hzone hclear htoday elapsed
      rwa [output_of_report? (s := { s with color := true }) hjson hcolored',
        output_of_report? (s := { s with color := false }) hjson hplain']

/-- The draft of a reminder at half past two, in UTC. Without its sequences it
is the draft without colors. -/
theorem run_color_clef :
    (∃ now activity token, Clear activity ∧
      Reports ["--color", "--oracle", clefPayload] bareSurroundings
        (.payload now (.extracted activity token))) ∧
      withoutSequences (run ["--color", "--oracle", clefPayload] bareSurroundings 0).output =
        (run ["--no-color", "--oracle", clefPayload] bareSurroundings 0).output := by
  have hpayload : Extraction.ofText clefPayload = .ok (.extracted " say \"\n𝄞 " "14:30") := by
    have hread : (Extraction.ofText clefPayload).toOption =
        some (.extracted " say \"\n𝄞 " "14:30") := by
      decide +kernel
    cases hextracted : Extraction.ofText clefPayload with
    | ok extraction =>
      rw [hextracted] at hread
      cases hread
      rfl
    | error error =>
      rw [hextracted] at hread
      cases hread
  have hreports : Reports ["--color", "--oracle", clefPayload] bareSurroundings
      (.payload ⟨Zone.utc, bareSurroundings.now⟩ (.extracted " say \"\n𝄞 " "14:30")) := by
    refine ⟨⟨.payload clefPayload, none, Zone.utc, true, false⟩, answer_eq_ok_iff.mpr
      ⟨rfl, Settings.find_eq_ok_iff.mpr ⟨.payload clefPayload, rfl, _, rfl, ?_⟩⟩, rfl⟩
    rw [Subject.answer, hpayload]
  have hgiven : Given.WellFormed (.apart .payload clefPayload) := by decide
  obtain ⟨-, -, -, -, hdecorates⟩ := run_color .nil (Closes.nothing.reads.cons hgiven)
    (by simp) bareSurroundings 0
  have hclear : Clear " say \"\n𝄞 " := by decide
  exact ⟨⟨_, _, _, hclear, hreports⟩, hdecorates _ hreports hclear⟩

/-- The explanation of midnight, in UTC. Without its sequences it is not the
explanation without colors. -/
theorem run_color_midnight :
    ∃ e : Explanation, Clear e.token ∧
      Reports ["--color", "0"] bareSurroundings (.token e) ∧
      Reports ["--no-color", "0"] bareSurroundings (.token e) ∧
      withoutSequences (run ["--color", "0"] bareSurroundings 0).output ≠
        (run ["--no-color", "0"] bareSurroundings 0).output := by
  let now : ZonedTime := ⟨Zone.utc, bareSurroundings.now⟩
  have hcolored : answer ["--color", "0"] bareSurroundings =
      .ok (⟨.token "0", none, Zone.utc, true, false⟩, .token (now.explain "0")) :=
    answer_eq_ok_iff.mpr ⟨rfl, rfl⟩
  have hplain : answer ["--no-color", "0"] bareSurroundings =
      .ok (⟨.token "0", none, Zone.utc, false, false⟩, .token (now.explain "0")) :=
    answer_eq_ok_iff.mpr ⟨rfl, rfl⟩
  have hzone : Clear now.zone.name := by decide
  have htoken : Clear "0" := by decide
  refine ⟨now.explain "0", htoken, ⟨_, hcolored, rfl⟩, ⟨_, hplain, rfl⟩, ?_⟩
  obtain ⟨today, htoday⟩ : ∃ today, now.date? = some today := ⟨_, rfl⟩
  obtain ⟨colored, plain, hcolored', hplain', hne, -⟩ :=
    decorates_explanation hzone htoken htoday 0
  rw [run_of_answer hcolored, run_of_answer hplain, output_of_report? rfl hcolored',
    output_of_report? rfl hplain']
  exact hne

end DueTime.Command
