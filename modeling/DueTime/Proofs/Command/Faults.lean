/-
DueTime.Proofs.Command.Faults — what options ask for, and what can be wrong
with them.

Options that are not faulty ask to resolve one subject (`Options.Asks`) at
one clock (`Options.Shows`). They can be faulty in several ways
(`Options.Faulty`), and in more than one at a time. A run ends with the first
fault that it meets; but whichever this is, there is an answer exactly when
there is no fault at all (`Options.faulty_of_answer`,
`Options.Faulty.answer_ne_ok`).
-/
import DueTime.Proofs.Command.Run

namespace DueTime.Command

namespace Options

variable {o : Options} {around : Surroundings}

/-! ## What options say -/

/-- The text that is offered for a token: the one among the options, or else
the standard input. -/
def Offers (o : Options) (around : Surroundings) (text : String) : Prop :=
  o.payload = none ∧ o.token.or (String.fromUTF8? around.input) = some text

theorem Offers.of_token {text : String} (hpayload : o.payload = none)
    (htoken : o.token = some text) : o.Offers around text :=
  ⟨hpayload, by rw [htoken, Option.some_or]⟩

theorem Offers.of_input {text : String} (hpayload : o.payload = none) (htoken : o.token = none)
    (hread : String.fromUTF8? around.input = some text) : o.Offers around text :=
  ⟨hpayload, by rw [htoken, Option.none_or, hread]⟩

/-- What the options ask to resolve. -/
inductive Asks (o : Options) (around : Surroundings) : Subject → Prop
  | token {text : String} (h : o.Offers around text) (hblank : Text.allBlank text = false) :
    Asks o around (.token text)
  | payload {text : String} (hpayload : o.payload = some text) (htoken : o.token = none) :
    Asks o around (.payload text)

/-- The clock that the options ask for. -/
inductive Shows (o : Options) (around : Surroundings) : ZonedTime → Prop
  | present {zone : Zone} (hzone : around.zones.find? (o.zoneName around.zoneVariable) = some zone)
    (h : o.reference = none) : Shows o around ⟨zone, around.now⟩
  | reference {zone : Zone} {l : Reading} {now : ZonedTime}
    (hzone : around.zones.find? (o.zoneName around.zoneVariable) = some zone)
    (hl : o.reference = some l) (h : ZonedTime.ofReading? zone l = some now) : Shows o around now

/-- What can be wrong with options. -/
inductive Faulty (o : Options) (around : Surroundings) : Prop
  | unknownZone (h : around.zones.find? (o.zoneName around.zoneVariable) = none)
  | tokenAndPayload {text payload : String} (htoken : o.token = some text)
    (hpayload : o.payload = some payload)
  | unreadableInput (htoken : o.token = none) (hpayload : o.payload = none)
    (h : String.fromUTF8? around.input = none)
  | noInput {text : String} (h : o.Offers around text) (hblank : Text.allBlank text)
  | referenceOutOfRange {zone : Zone} {l : Reading}
    (hzone : around.zones.find? (o.zoneName around.zoneVariable) = some zone)
    (hl : o.reference = some l) (h : ZonedTime.ofReading? zone l = none)
  | badPayload {text : String} {error : Extraction.PayloadError}
    (hpayload : o.payload = some text) (h : Extraction.ofText text = .error error)

/-! ## Settling -/

theorem faulty_of_settle {reason : Refusal}
    (h : o.settle around.zones around.zoneVariable = .error reason) : o.Faulty around := by
  unfold settle at h
  split at h
  · rename_i hzone
    exact .unknownZone hzone
  · split at h
    · rename_i hsource
      unfold source? at hsource
      split at hsource
      · rename_i hpayload htoken
        exact .tokenAndPayload htoken hpayload
      · cases hsource
      · cases hsource
      · cases hsource
    · cases h

/-! ## The subject -/

section
variable {s : Settings} {subject : Subject} (hsource : o.source? = some s.source)
include hsource

/-- The options and the settings name the same source. -/
theorem source_cases :
    (∃ text, s.source = .token text ∧ o.payload = none ∧ o.token = some text) ∨
      (∃ text, s.source = .payload text ∧ o.payload = some text ∧ o.token = none) ∨
        s.source = .standardInput ∧ o.payload = none ∧ o.token = none := by
  unfold source? at hsource
  split at hsource
  · cases hsource
  · rename_i hpayload htoken
    exact Or.inr (Or.inl ⟨_, (Option.some.inj hsource).symm, hpayload, htoken⟩)
  · rename_i hpayload htoken
    exact Or.inl ⟨_, (Option.some.inj hsource).symm, hpayload, htoken⟩
  · rename_i hpayload htoken
    exact Or.inr (Or.inr ⟨(Option.some.inj hsource).symm, hpayload, htoken⟩)

theorem asks_of_subject (h : s.subject around.input = .ok subject) : o.Asks around subject := by
  unfold Settings.subject at h
  rcases source_cases hsource with
    ⟨text, hs, hpayload, htoken⟩ | ⟨text, hs, hpayload, htoken⟩ | ⟨hs, hpayload, htoken⟩
  · rw [hs] at h
    obtain ⟨hblank, rfl⟩ := tokenSubject_eq_ok_iff.mp h
    exact .token (.of_token hpayload htoken) hblank
  · rw [hs] at h
    cases h
    exact .payload hpayload htoken
  · rw [hs] at h
    obtain ⟨text, hinput, h⟩ := bind_eq_ok_iff.mp h
    obtain ⟨hblank, rfl⟩ := tokenSubject_eq_ok_iff.mp h
    exact .token (.of_input hpayload htoken (inputText_eq_ok_iff.mp hinput)) hblank

theorem faulty_of_subject {reason : Refusal} (h : s.subject around.input = .error reason) :
    o.Faulty around := by
  unfold Settings.subject at h
  rcases source_cases hsource with
    ⟨text, hs, hpayload, htoken⟩ | ⟨text, hs, hpayload, htoken⟩ | ⟨hs, hpayload, htoken⟩
  · rw [hs] at h
    exact .noInput (.of_token hpayload htoken) (tokenSubject_eq_error_iff.mp h).1
  · rw [hs] at h
    cases h
  · rw [hs] at h
    rcases bind_eq_error_iff.mp h with hinput | ⟨text, hinput, hsubject⟩
    · exact .unreadableInput htoken hpayload (inputText_eq_error_iff.mp hinput).1
    · exact .noInput (.of_input hpayload htoken (inputText_eq_ok_iff.mp hinput))
        (tokenSubject_eq_error_iff.mp hsubject).1

end

/-! ## The clock -/

section
variable {s : Settings} (hzone : around.zones.find? (o.zoneName around.zoneVariable) = some s.zone)
  (hreference : s.reference = o.reference)
include hzone hreference

theorem shows_of_clock {now : ZonedTime} (h : s.clock around.now = .ok now) :
    o.Shows around now := by
  unfold Settings.clock at h
  split at h
  · rename_i hnone
    cases h
    exact .present hzone (hreference ▸ hnone)
  · rename_i l hl
    split at h
    · rename_i now' hnow
      cases h
      exact .reference hzone (hreference ▸ hl) hnow
    · cases h

theorem faulty_of_clock {reason : Refusal} (h : s.clock around.now = .error reason) :
    o.Faulty around := by
  unfold Settings.clock at h
  split at h
  · cases h
  · rename_i l hl
    split at h
    · cases h
    · rename_i hnow
      exact .referenceOutOfRange hzone (hreference ▸ hl) hnow

end

/-! ## The answer -/

/-- What comes of the options. -/
def answer (o : Options) (around : Surroundings) : Except Refusal Answer :=
  o.settle around.zones around.zoneVariable >>= (·.find around)

/-- An answer is one to what the options ask, seen from the clock that they
show. -/
theorem exists_of_answer {a : Answer} (h : o.answer around = .ok a) :
    ∃ subject now, o.Asks around subject ∧ o.Shows around now ∧ subject.answer now = .ok a := by
  obtain ⟨s, hsettle, hfind⟩ := bind_eq_ok_iff.mp h
  obtain ⟨hzone, hsource, hreference, -, -⟩ := settle_eq_ok_iff.mp hsettle
  obtain ⟨subject, hsubject, now, hclock, hanswer⟩ := Settings.find_eq_ok_iff.mp hfind
  exact ⟨subject, now, asks_of_subject hsource hsubject, shows_of_clock hzone hreference hclock,
    hanswer⟩

/-- Options without an answer are faulty. -/
theorem faulty_of_answer {reason : Refusal} (h : o.answer around = .error reason) :
    o.Faulty around := by
  rcases bind_eq_error_iff.mp h with hsettle | ⟨s, hsettle, hfind⟩
  · exact faulty_of_settle hsettle
  · obtain ⟨hzone, hsource, hreference, -, -⟩ := settle_eq_ok_iff.mp hsettle
    rcases Settings.find_eq_error_iff.mp hfind with
      hsubject | ⟨subject, hsubject, hclock | ⟨now, hclock, hanswer⟩⟩
    · exact faulty_of_subject hsource hsubject
    · exact faulty_of_clock hzone hreference hclock
    · cases asks_of_subject hsource hsubject with
      | token hoffers hblank => cases hanswer
      | payload hpayload htoken =>
        obtain ⟨error, herror, -⟩ := Subject.answer_payload_eq_error_iff.mp hanswer
        exact .badPayload hpayload herror

/-- The options ask for one thing only. -/
theorem Asks.unique {subject subject' : Subject} (h : o.Asks around subject)
    (h' : o.Asks around subject') : subject = subject' := by
  cases h with
  | token h hblank =>
    cases h' with
    | token h' hblank' =>
      cases h.2.symm.trans h'.2
      rfl
    | payload hpayload' htoken' => cases h.1.symm.trans hpayload'
  | payload hpayload htoken =>
    cases h' with
    | token h' hblank' => cases h'.1.symm.trans hpayload
    | payload hpayload' htoken' =>
      cases hpayload.symm.trans hpayload'
      rfl

/-- The options show one clock only. -/
theorem Shows.unique {now now' : ZonedTime} (h : o.Shows around now) (h' : o.Shows around now') :
    now = now' := by
  cases h with
  | present hzone h =>
    cases h' with
    | present hzone' h' =>
      cases hzone.symm.trans hzone'
      rfl
    | reference hzone' hl' h' => cases h.symm.trans hl'
  | reference hzone hl h =>
    cases h' with
    | present hzone' h' => cases h'.symm.trans hl
    | reference hzone' hl' h' =>
      cases hzone.symm.trans hzone'
      cases hl.symm.trans hl'
      exact Option.some.inj (h.symm.trans h')

/-- What faulty options ask for at a clock that they show is not answered. -/
theorem Faulty.answer_ne_ok (hfaulty : o.Faulty around) {subject : Subject} {now : ZonedTime}
    (hasks : o.Asks around subject) (hshows : o.Shows around now) (a : Answer) :
    subject.answer now ≠ .ok a := by
  intro hanswer
  cases hfaulty with
  | unknownZone h =>
    cases hshows with
    | present hzone _ => cases h.symm.trans hzone
    | reference hzone _ _ => cases h.symm.trans hzone
  | tokenAndPayload htoken hpayload =>
    cases hasks with
    | token h _ => cases h.1.symm.trans hpayload
    | payload _ htoken' => cases htoken'.symm.trans htoken
  | unreadableInput htoken hpayload h =>
    cases hasks with
    | token h' _ =>
      have hoffered := h'.2
      rw [htoken, h] at hoffered
      cases hoffered
    | payload hpayload' _ => cases hpayload.symm.trans hpayload'
  | noInput h hblank =>
    cases hasks with
    | token h' hblank' =>
      cases h.2.symm.trans h'.2
      cases hblank.symm.trans hblank'
    | payload hpayload _ => cases h.1.symm.trans hpayload
  | referenceOutOfRange hzone hl h =>
    cases hshows with
    | present _ hnone => cases hnone.symm.trans hl
    | reference hzone' hl' h' =>
      cases hzone.symm.trans hzone'
      cases hl.symm.trans hl'
      cases h.symm.trans h'
  | badPayload hpayload h =>
    cases hasks with
    | token h' _ => cases h'.1.symm.trans hpayload
    | payload hpayload' _ =>
      cases hpayload.symm.trans hpayload'
      have herror : (Subject.payload _).answer now = .error _ :=
        Subject.answer_payload_eq_error_iff.mpr ⟨_, h, rfl⟩
      cases herror.symm.trans hanswer

end Options

end DueTime.Command
