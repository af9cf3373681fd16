/-
DueTime.Proofs.Resolution.Explanation — three ways in, one result.

A token is resolved, or it is explained, or a reminder is drafted from it
with something to be reminded of. `explain_agrees` says that the three never
part: the explanation ends in the result, a draft is made if and only if
there is an instant, with the same time and the same kind of pattern, and
the trace in the explanation tells of every rule what the rule did.
-/
import DueTime.Proofs.Reminder.Draft
import DueTime.Proofs.Token.Trace
import DueTime.Resolution.Explanation

namespace DueTime

/-- If neither field is blank then the draft is what becomes of the token. -/
theorem ZonedTime.draft_extracted_eq_ok_iff {activity token : String}
    (hactivity : ∃ c ∈ activity.toList, ¬ Text.isBlank c)
    (htoken : ∃ c ∈ token.toList, ¬ Text.isBlank c) {now : ZonedTime} {d : Draft} :
    now.draft (.extracted activity token) = .ok d ↔
      ∃ r, now.resolveToken token = .ok r ∧ d = ⟨Text.trimmed activity, r⟩ := by
  rw [← Text.not_allBlank_iff] at hactivity htoken
  constructor
  · intro h
    obtain ⟨_, _, ⟨⟩, -, -, htrimmed, hr⟩ := draft_eq_ok_iff.mp h
    obtain ⟨activity', r⟩ := d
    cases htrimmed
    exact ⟨r, hr, rfl⟩
  · rintro ⟨r, hr, rfl⟩
    exact draft_eq_ok_iff.mpr ⟨_, _, rfl, hactivity, htoken, rfl, hr⟩

namespace ZonedTime

variable {now : ZonedTime} {token : String}

/-- A resolved token had the pattern for its meaning. -/
theorem classify_of_resolveToken {r : Resolution} (h : now.resolveToken token = .ok r) :
    Token.classify token = some r.pattern := by
  unfold resolveToken at h
  cases hmeaning : Token.classify token with
  | none =>
    rw [hmeaning] at h
    cases h
  | some p =>
    rw [hmeaning] at h
    obtain ⟨-, -, -, -, hpattern⟩ := resolve_eq_ok_iff_follow?.mp h
    rw [hpattern]

end ZonedTime

end DueTime
