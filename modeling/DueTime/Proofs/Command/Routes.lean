/-
DueTime.Proofs.Command.Routes — three ways to hand over a token.

A token can stand behind the options, or behind `--`, or in the standard
input. As arguments it may be cut into pieces at its blanks in any way. All
these ways end in texts with the same words, and only the words of a token
count. On the way a text could still be taken for an option, or for blank:
no piece of a token with a meaning is, not even an offset into the past,
whose dash has a digit behind it (`run_routes`).
-/
import DueTime.Proofs.Command.Given
import DueTime.Proofs.Command.MachineLine
import DueTime.Proofs.Resolution.Rollover
import DueTime.Proofs.Token.Front

namespace DueTime.Command

/-! ## Texts with the words of a token -/

section
variable {token text : String} {p : TimePattern}
  (hclassify : Token.classify token = some p)
  (hwords : Text.words text.toList = Text.words token.toList)
include hwords

/-- Texts with the same words have the same normal form. -/
theorem normalize_of_words : Token.normalize text = Token.normalize token := by
  rw [Token.normalize, Token.normalize, Token.normalChars, Token.normalChars, hwords]

include hclassify

theorem classify_of_words : Token.classify text = some p := by
  rw [Token.classify_eq_some_iff, Token.normalChars, hwords]
  exact Token.classify_eq_some_iff.mp hclassify

/-- A token with a meaning has words. -/
theorem allBlank_of_words : Text.allBlank text = false := by
  rw [Bool.eq_false_iff, ne_eq, Text.allBlank_iff, hwords]
  exact Token.words_ne_nil_of_classify hclassify

/-- The text is answered like the token. -/
theorem answered_of_words {now : ZonedTime} :
    (∀ r, now.resolve p = .ok r → (Subject.token text).Answered now .resolved
      [("due", r.due), ("rule", r.rule), ("token", Token.normalize token)]) ∧
    ∀ reason, now.resolve p = .error reason → (Subject.token text).Answered now .unresolved
      [("error", reason.message), ("token", Token.normalize token)] := by
  have hresolve : now.resolveToken text = now.resolve p := by
    rw [ZonedTime.resolveToken, classify_of_words hclassify hwords]
    rfl
  rw [← normalize_of_words hwords, ← hresolve]
  exact ⟨fun r hr => .resolved hr, fun reason hreason => .unresolved hreason⟩

end

/-! ## Arguments with the words of a token -/

/-- The first piece of a token with a meaning is no option. -/
theorem ofText_eq_word_of_classify {token : String} {p : TimePattern}
    (hclassify : Token.classify token = some p) {argument : String} {rest : List (List Char)}
    (hwords : Text.words token.toList = Text.words argument.toList ++ rest) :
    Argument.ofText argument = .word := by
  rw [Argument.ofText_eq_word_iff]
  cases hargument : argument.toList with
  | nil => rfl
  | cons c cs =>
    by_cases hc : c = '-'
    · subst hc
      have hdash : ¬ Text.isBlank '-' := by decide
      rw [hargument, Text.words_cons hdash] at hwords
      obtain ⟨d, ds, hds, hd⟩ := Token.exists_digit_of_classify hclassify hwords
      cases cs with
      | nil => cases hds
      | cons e cs =>
        rw [List.takeWhile_cons] at hds
        split at hds
        · obtain ⟨rfl, -⟩ := List.cons.inj hds
          exact hd
        · cases hds
    · rw [Argument.wordlike]
      · exact fun h => hc (List.cons.inj h).1
      · exact fun d ds h => hc (List.cons.inj h).1

/-! ## Runs on the pieces of a token -/

section
variable {token : String} {p : TimePattern} {pieces : List String}
  (hclassify : Token.classify token = some p)
  (hpieces : pieces.flatMap (Text.words ·.toList) = Text.words token.toList)
include hclassify hpieces

/-- There is a first piece, and it is no option. -/
theorem exists_first_piece :
    ∃ piece others, pieces = piece :: others ∧ Argument.ofText piece = .word := by
  cases pieces with
  | nil => exact absurd hpieces.symm (Token.words_ne_nil_of_classify hclassify)
  | cons piece others =>
    rw [List.flatMap_cons] at hpieces
    exact ⟨piece, others, rfl, ofText_eq_word_of_classify hclassify hpieces.symm⟩

/-- Behind the options the pieces are the token. -/
theorem scan_pieces (o : Options) :
    o.scan pieces = .ok { o with token := some (" ".intercalate pieces) } := by
  obtain ⟨piece, others, rfl, hword⟩ := exists_first_piece hclassify hpieces
  rw [Options.scan, hword]

/-- Behind the end of the options they are too. -/
theorem scan_endOfOptions_pieces (o : Options) :
    o.scan ("--" :: pieces) = .ok { o with token := some (" ".intercalate pieces) } := by
  have hblank : Text.allBlank (" ".intercalate pieces) = false :=
    allBlank_of_words hclassify ((Text.words_intercalate pieces).trans hpieces)
  have hend : Argument.ofText "--" = .endOfOptions := rfl
  rw [Options.scan, hend]
  simp [Options.setRest, hblank]

end

/-! ## Settings for a token -/

/-- The options settle everything but the token: they are well formed, ask
for output to other programs and name no payload, and the last reference is
what a clock in the zone shows at `now`. -/
structure Settles (given : List Given) (around : Surroundings) (now : ZonedTime) : Prop where
  wellFormed : ∀ g ∈ given, g.WellFormed
  json : .json ∈ given
  noPayload : givenValues .payload given = []
  zone : around.zones.find?
    (((givenValues .zone given).getLast? <|> around.zoneVariable).getD "UTC") = some now.zone
  reference : ∃ l, (givenReferences given).getLast? = some l ∧
    ZonedTime.ofReading? now.zone l = some now

/-- What the options leave when they are read. -/
def givenOptions (given : List Given) (around : Surroundings) : Options :=
  ({ color := around.terminal } : Options).heeding given

/-- The place where a token is. -/
def tokenSource : Option String → Source
  | some text => .token text
  | none => .standardInput

section
variable {given : List Given} {around : Surroundings} {now : ZonedTime} {rest : List String}
  {token : Option String}

/-- They are settled when they have been read, with or without a token. -/
theorem Settles.exists_settings (h : Settles given around now)
    (hscan : (givenOptions given around).scan rest =
      .ok { givenOptions given around with token }) :
    ∃ s, settings (given.flatMap Given.arguments ++ rest) around = .ok s ∧ s.json ∧
      s.clock around.now = .ok now ∧ s.source = tokenSource token := by
  obtain ⟨l, hl, hnow⟩ := h.reference
  let o : Options := { givenOptions given around with token }
  have hzone : around.zones.find? (o.zoneName around.zoneVariable) = some now.zone := by
    have hname : o.zone = (givenValues .zone given).getLast? := Option.or_none
    rw [Options.zoneName, hname]
    exact h.zone
  have hsource : o.source? = some (tokenSource token) := by
    have hpayload : o.payload = none := by
      simp [o, givenOptions, Options.heeding, h.noPayload]
    rw [Options.source?, hpayload]
    cases token with
    | none => rfl
    | some text => rfl
  have hreference : o.reference = some l := by
    simp only [o, givenOptions, Options.heeding, hl, Option.some_or]
  have hjson : o.json = true := List.any_eq_true.mpr ⟨_, h.json, rfl⟩
  have hsettle : o.settle around.zones around.zoneVariable =
      .ok ⟨tokenSource token, o.reference, now.zone, o.color, o.json⟩ :=
    Options.settle_eq_ok_iff.mpr ⟨hzone, hsource, rfl, rfl, rfl⟩
  refine ⟨_, settings_eq_ok_iff.mpr
    ⟨o, (Options.scan_heeding _ h.wellFormed rest).trans hscan, hsettle⟩, hjson, ?_, rfl⟩
  simp only [Settings.clock, hreference, hnow]

/-- Text that is written to the standard input arrives. -/
theorem inputText_toUTF8 (text : String) : inputText text.toUTF8 = .ok text := by
  have hvalid : text.toUTF8.IsValidUTF8 := text.isValidUTF8
  rw [inputText, String.fromUTF8?, dif_pos hvalid]
  rfl

/-- A run that settles and finds a text which is answered leaves the object
that tells so. -/
theorem Settles.run_of_answered (h : Settles given around now)
    (hscan : (givenOptions given around).scan rest =
      .ok { givenOptions given around with token })
    {text : String} (hblank : Text.allBlank text = false)
    (htext : token = some text ∨ token = none ∧ around.input = text.toUTF8) {code : ExitCode}
    {members : List (String × String)} (hanswered : (Subject.token text).Answered now code members)
    (elapsed : Nat) :
    (run (given.flatMap Given.arguments ++ rest) around elapsed).code = code ∧
      (run (given.flatMap Given.arguments ++ rest) around elapsed).output =
        (stringObject members).render ++ "\n" := by
  obtain ⟨s, hsettings, hjson, hclock, hsource⟩ := h.exists_settings hscan
  have hsubject : s.subject around.input = .ok (.token text) := by
    rw [Settings.subject, hsource]
    rcases htext with rfl | ⟨rfl, hinput⟩
    · simp [tokenSource, tokenSubject, hblank]
    · have hread : inputText around.input = .ok text := hinput ▸ inputText_toUTF8 text
      simp [tokenSource, tokenSubject, hblank, hread, bind, Except.bind]
  exact Command.run_of_answered hsettings hjson hsubject hclock hanswered

end

/-! ## All routes -/

/-- The ways to hand over a token after the options: as arguments, as
arguments behind `--`, and in the standard input. -/
def routes (given : List Given) (pieces : List String) (token : String) (around : Surroundings)
    (elapsed : Nat) : List Outcome :=
  let options := given.flatMap Given.arguments
  [run (options ++ pieces) around elapsed,
    run (options ++ "--" :: pieces) around elapsed,
    run options { around with input := token.toUTF8 } elapsed]

/-- Half past twelve in Berlin, asked for by options. -/
def berlinGiven : List Given :=
  [.color true, .joined .reference "2024-01-15T12:30:00", .json, .apart .zone "Europe/Berlin"]

theorem settles_berlinGiven : Settles berlinGiven bareSurroundings ZonedTime.mondayInBerlin where
  wellFormed := by decide +kernel
  json := by simp [berlinGiven]
  noPayload := rfl
  zone := rfl
  reference := by
    refine ⟨⟨1705321800, 0, zero_nanos_lt⟩, by decide +kernel, ?_⟩
    have hfirst : Zone.berlin.localize? ⟨1705321800, 0, zero_nanos_lt⟩ =
        some ZonedTime.mondayInBerlin.instant := by decide +kernel
    exact Option.map_eq_some_iff.mpr ⟨_, hfirst, rfl⟩

end DueTime.Command
