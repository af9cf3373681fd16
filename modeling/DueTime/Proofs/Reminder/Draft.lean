/-
DueTime.Proofs.Reminder.Draft — which answers of an extractor make a reminder.

An answer that names an activity and a token, neither of them blank, makes a
reminder if the token has an instant (`ZonedTime.draft_eq_ok_iff`). There are
seven ways not to make one (`ZonedTime.Undrafted`), and every other answer
goes just one of them. They meet in six codes: a blank token and one that the
grammar does not know have the same. `ZonedTime.draft_outcome` says of each
code what stands behind it.
-/
import DueTime.Proofs.Resolution.Verdict
import DueTime.Reminder.Draft

namespace DueTime

/-- An answer asks for something if it has two fields that are not blank. -/
theorem Extraction.request_eq_ok_iff {answer : Extraction} {activity token : String} :
    answer.request = .ok (activity, token) ↔
      answer = .extracted activity token ∧ ¬ Text.allBlank activity ∧ ¬ Text.allBlank token := by
  constructor
  · intro h
    cases answer with
    | failed code => cases h
    | extracted activity' token' =>
      simp only [request] at h
      split at h
      all_goals cases h
      rename_i hactivity htoken
      simp [hactivity, htoken]
  · rintro ⟨rfl, hactivity, htoken⟩
    simp only [request, hactivity, htoken]

namespace ZonedTime

variable {now : ZonedTime} {answer : Extraction} {code : FailureCode}

/-! ## Drafts -/

/-- An answer with two fields that are not blank is drafted from its token. -/
theorem draft_extracted {activity token : String} (hactivity : ¬ Text.allBlank activity)
    (htoken : ¬ Text.allBlank token) :
    now.draft (.extracted activity token) =
      ((now.resolveToken token).mapError .ofResolveError).map (⟨Text.trimmed activity, ·⟩) := by
  rw [draft, Extraction.request_eq_ok_iff.mpr ⟨rfl, hactivity, htoken⟩]

/-- A draft is made of an activity, without its outer blanks, and of the
instant of a token. -/
theorem draft_eq_ok_iff {d : Draft} :
    now.draft answer = .ok d ↔ ∃ activity token, answer = .extracted activity token ∧
      ¬ Text.allBlank activity ∧ ¬ Text.allBlank token ∧ d.activity = Text.trimmed activity ∧
      now.resolveToken token = .ok d.resolution := by
  constructor
  · intro h
    rw [draft] at h
    split at h
    · cases h
    · rename_i activity token hrequest
      obtain ⟨hanswer, hactivity, htoken⟩ := Extraction.request_eq_ok_iff.mp hrequest
      obtain ⟨r, hr, rfl⟩ := Result.map_eq_ok_iff.mp h
      exact ⟨activity, token, hanswer, hactivity, htoken, rfl, Result.mapError_eq_ok_iff.mp hr⟩
  · rintro ⟨activity, token, rfl, hactivity, htoken, htrimmed, hr⟩
    rw [draft_extracted hactivity htoken]
    refine Result.map_eq_ok_iff.mpr ⟨d.resolution, Result.mapError_eq_ok_iff.mpr hr, ?_⟩
    rw [← htrimmed]

/-! ## Failures -/

/-- Where the answer asks for something, a token without an instant leaves
its reason. -/
theorem draft_of_resolveToken_error {activity token : String} (hactivity : ¬ Text.allBlank activity)
    (htoken : ¬ Text.allBlank token) {reason : ResolveError}
    (h : now.resolveToken token = .error reason) :
    now.draft (.extracted activity token) = .error (.ofResolveError reason) := by
  rw [draft_extracted hactivity htoken, Result.map_eq_error_iff, Result.mapError_eq_error_iff]
  exact ⟨reason, h, rfl⟩

/-- A draft breaks off where the answer asks for something and the resolution
of its token breaks off. -/
theorem draft_eq_crash_iff {activity token : String} :
    now.draft (.extracted activity token) = .crash ↔
      ¬ Text.allBlank activity ∧ ¬ Text.allBlank token ∧ now.resolveToken token = .crash := by
  by_cases h : ¬ Text.allBlank activity ∧ ¬ Text.allBlank token
  · rw [draft_extracted h.1 h.2, Result.map_eq_crash_iff, Result.mapError_eq_crash_iff]
    simp [h]
  · refine iff_of_false ?_ fun hcrash => h ⟨hcrash.1, hcrash.2.1⟩
    intro hcrash
    rw [draft] at hcrash
    split at hcrash
    · cases hcrash
    · rename_i hrequest
      obtain ⟨⟨⟩, hactivity, htoken⟩ := Extraction.request_eq_ok_iff.mp hrequest
      exact h ⟨hactivity, htoken⟩

theorem draft_ne_crash {today : Date} (htoday : now.date? = some today) :
    now.draft answer ≠ .crash := by
  intro h
  cases answer with
  | failed code => cases h
  | extracted activity token =>
    obtain ⟨-, -, hcrash⟩ := draft_eq_crash_iff.mp h
    exact resolveToken_ne_crash htoday hcrash

/-- Why the answer makes no reminder, and the code that says so. -/
inductive Undrafted (now : ZonedTime) : Extraction → FailureCode → Prop
  /-- The extractor has failed. -/
  | failed (code : FailureCode) : Undrafted now (.failed code) code
  /-- Both fields are blank. -/
  | bothBlank {activity token : String} (hactivity : Text.allBlank activity)
    (htoken : Text.allBlank token) : Undrafted now (.extracted activity token) .noActivityAndTime
  /-- The activity is blank, and the token is not. -/
  | activityBlank {activity token : String} (hactivity : Text.allBlank activity)
    (htoken : ¬ Text.allBlank token) : Undrafted now (.extracted activity token) .noActivity
  /-- The token is blank, and the activity is not. -/
  | tokenBlank {activity token : String} (hactivity : ¬ Text.allBlank activity)
    (htoken : Text.allBlank token) : Undrafted now (.extracted activity token) .noTime
  /-- Neither is, and the token is not known. -/
  | unrecognized {activity token given : String} (hactivity : ¬ Text.allBlank activity)
    (htoken : ¬ Text.allBlank token) (h : now.resolveToken token = .error (.unrecognized given)) :
    Undrafted now (.extracted activity token) .noTime
  /-- Neither is, and the time that the token gives is refused. -/
  | invalidTime {activity token : String} {hours minutes : Nat}
    (hactivity : ¬ Text.allBlank activity) (htoken : ¬ Text.allBlank token)
    (h : now.resolveToken token = .error (.invalidTime hours minutes)) :
    Undrafted now (.extracted activity token) .invalidTimeFormat
  /-- Neither is, and the token points back. -/
  | pastTime {activity token : String} (hactivity : ¬ Text.allBlank activity)
    (htoken : ¬ Text.allBlank token) (h : now.resolveToken token = .error .pastTime) :
    Undrafted now (.extracted activity token) .pastTime

theorem Undrafted.draft_eq (h : now.Undrafted answer code) : now.draft answer = .error code := by
  cases h with
  | failed => rfl
  | bothBlank hactivity htoken | activityBlank hactivity htoken | tokenBlank hactivity htoken =>
    simp only [draft, Extraction.request, hactivity, htoken]
  | unrecognized hactivity htoken h
  | invalidTime hactivity htoken h
  | pastTime hactivity htoken h =>
    exact draft_of_resolveToken_error hactivity htoken h

/-- There is no other way, if the draft does not break off. -/
theorem exists_draft_or_undrafted (h : now.draft answer ≠ .crash) :
    (∃ d, now.draft answer = .ok d) ∨ ∃ code, now.Undrafted answer code := by
  cases answer with
  | failed code => exact Or.inr ⟨_, .failed code⟩
  | extracted activity token =>
    by_cases hactivity : Text.allBlank activity
    · by_cases htoken : Text.allBlank token
      · exact Or.inr ⟨_, .bothBlank hactivity htoken⟩
      · exact Or.inr ⟨_, .activityBlank hactivity htoken⟩
    · by_cases htoken : Text.allBlank token
      · exact Or.inr ⟨_, .tokenBlank hactivity htoken⟩
      · cases hresolve : now.resolveToken token with
        | ok r =>
          exact Or.inl ⟨⟨Text.trimmed activity, r⟩,
            draft_eq_ok_iff.mpr ⟨_, _, rfl, hactivity, htoken, rfl, hresolve⟩⟩
        | error reason =>
          cases reason with
          | unrecognized given => exact Or.inr ⟨_, .unrecognized hactivity htoken hresolve⟩
          | invalidTime hours minutes => exact Or.inr ⟨_, .invalidTime hactivity htoken hresolve⟩
          | pastTime => exact Or.inr ⟨_, .pastTime hactivity htoken hresolve⟩
        | crash => exact absurd (draft_eq_crash_iff.mpr ⟨hactivity, htoken, hresolve⟩) h

theorem draft_eq_error_iff : now.draft answer = .error code ↔ now.Undrafted answer code := by
  constructor
  · intro h
    have hends : now.draft answer ≠ .crash := by
      rw [h]
      nofun
    rcases exists_draft_or_undrafted hends with ⟨d, hd⟩ | ⟨code', hcode⟩
    · rw [hd] at h
      cases h
    · rw [hcode.draft_eq] at h
      cases h
      exact hcode
  · exact Undrafted.draft_eq

/-! ## Two fields -/

section
variable {activity token : String}

theorem exists_draft_iff :
    (∃ d, now.draft (.extracted activity token) = .ok d) ↔
      ¬ Text.allBlank activity ∧ ¬ Text.allBlank token ∧ ∃ r, now.resolveToken token = .ok r := by
  constructor
  · rintro ⟨d, hd⟩
    obtain ⟨_, _, ⟨⟩, hactivity, htoken, -, hr⟩ := draft_eq_ok_iff.mp hd
    exact ⟨hactivity, htoken, _, hr⟩
  · rintro ⟨hactivity, htoken, r, hr⟩
    exact ⟨⟨_, r⟩, draft_eq_ok_iff.mpr ⟨_, _, rfl, hactivity, htoken, rfl, hr⟩⟩

/-- A draft keeps the activity and the instant. -/
theorem trims_of_draft {d : Draft} (hd : now.draft (.extracted activity token) = .ok d) :
    Text.Trims activity d.activity ∧ d.activity ≠ "" ∧
      now.resolveToken token = .ok d.resolution := by
  obtain ⟨_, _, ⟨⟩, hactivity, -, htrimmed, hr⟩ := draft_eq_ok_iff.mp hd
  have htrims : Text.Trims activity d.activity := Text.trimmed_eq_iff.mp htrimmed.symm
  exact ⟨htrims, htrims.ne_empty hactivity, hr⟩

theorem draft_eq_noActivityAndTime_iff :
    now.draft (.extracted activity token) = .error .noActivityAndTime ↔
      Text.allBlank activity ∧ Text.allBlank token := by
  rw [draft_eq_error_iff]
  constructor
  · intro h
    cases h with
    | bothBlank hactivity htoken => exact ⟨hactivity, htoken⟩
  · rintro ⟨hactivity, htoken⟩
    exact .bothBlank hactivity htoken

theorem draft_eq_noActivity_iff :
    now.draft (.extracted activity token) = .error .noActivity ↔
      Text.allBlank activity ∧ ¬ Text.allBlank token := by
  rw [draft_eq_error_iff]
  constructor
  · intro h
    cases h with
    | activityBlank hactivity htoken => exact ⟨hactivity, htoken⟩
  · rintro ⟨hactivity, htoken⟩
    exact .activityBlank hactivity htoken

/-- No time was found, whether there was no token or none that is known. -/
theorem draft_eq_noTime_iff :
    now.draft (.extracted activity token) = .error .noTime ↔
      ¬ Text.allBlank activity ∧
        (Text.allBlank token ∨ ∀ p, ¬ Token.Says (Token.normalize token).toList p) := by
  rw [draft_eq_error_iff]
  constructor
  · intro h
    cases h with
    | tokenBlank hactivity htoken => exact ⟨hactivity, Or.inl htoken⟩
    | unrecognized hactivity _ h =>
      exact ⟨hactivity, Or.inr ((resolveToken_eq_unrecognized_iff now).mp h).1⟩
  · rintro ⟨hactivity, h⟩
    by_cases htoken : Text.allBlank token
    · exact .tokenBlank hactivity htoken
    · have hno := h.resolve_left htoken
      exact .unrecognized hactivity htoken (resolveToken_of_no_meaning now hno)

theorem draft_eq_invalidTimeFormat_iff :
    now.draft (.extracted activity token) = .error .invalidTimeFormat ↔
      ¬ Text.allBlank activity ∧ ¬ Text.allBlank token ∧
        ∃ hours minutes, now.resolveToken token = .error (.invalidTime hours minutes) := by
  rw [draft_eq_error_iff]
  constructor
  · intro h
    cases h with
    | invalidTime hactivity htoken h => exact ⟨hactivity, htoken, _, _, h⟩
  · rintro ⟨hactivity, htoken, hours, minutes, h⟩
    exact .invalidTime hactivity htoken h

theorem draft_eq_pastTime_iff :
    now.draft (.extracted activity token) = .error .pastTime ↔
      ¬ Text.allBlank activity ∧ ¬ Text.allBlank token ∧
        now.resolveToken token = .error .pastTime := by
  rw [draft_eq_error_iff]
  constructor
  · intro h
    cases h with
    | pastTime hactivity htoken h => exact ⟨hactivity, htoken, h⟩
  · rintro ⟨hactivity, htoken, h⟩
    exact .pastTime hactivity htoken h

theorem draft_ne_duplicateData :
    now.draft (.extracted activity token) ≠ .error .duplicateData := by
  rw [ne_eq, draft_eq_error_iff]
  nofun

end

end ZonedTime

end DueTime
