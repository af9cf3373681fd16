/-
DueTime.Proofs.Token.Classify — a token means what its normal form says.

`found_traceWith` tells what a trace finds: of any rules of the table, in
whatever order, those that read the normal form, each with the pattern it
gives. Since a rule reads what is said (`Rule.read_eq_some_iff`), and only
one thing is (`Says.unique`), `classify_grammar` can leave the rules out of
its statement: the meaning of a token is the one thing that its normal form
says, and a token whose normal form says nothing has none.
-/
import DueTime.Proofs.Token.Gate
import DueTime.Proofs.Token.Skeleton
import Mathlib.Data.List.Basic

namespace DueTime.Token

/-- Of rules of the table, a trace finds those that read the normal form. -/
theorem found_traceWith {rules : List Rule} (hrules : rules ⊆ Rule.table) (token : String) :
    (traceWith rules token).found =
      rules.filterMap fun rule =>
        (rule.read (normalChars token.toList)).map (rule.name, ·) := by
  rw [Trace.found, traceWith, List.filterMap_map]
  refine List.filterMap_congr fun rule hrule => ?_
  show (Rule.offer ..).pattern?.map (rule.name, ·) = _
  rw [Rule.offer_pattern? (hrules hrule)]

/-- The meaning of a token is the first that a rule reads in its normal
form. -/
theorem classify_eq_findSome? (token : String) :
    classify token = Rule.table.findSome? (·.read (normalChars token.toList)) := by
  rw [classify, Trace.pattern?, trace, found_traceWith (List.Subset.refl _), List.head?_filterMap,
    List.map_findSome?]
  congr 1
  funext rule
  rw [Function.comp_apply, Option.map_map]
  exact Option.map_id'

theorem classify_eq_some_iff {token : String} {p : TimePattern} :
    classify token = some p ↔ Says (normalChars token.toList) p := by
  rw [classify_eq_findSome?]
  constructor
  · intro h
    obtain ⟨rule, hrule, hread⟩ := List.exists_of_findSome?_eq_some h
    obtain ⟨i, hi⟩ := List.getElem?_of_mem hrule
    exact ((Rule.read_eq_some_iff hi).mp hread).1
  · intro hmeans
    obtain ⟨rule, hi⟩ : ∃ rule, Rule.table[p.place]? = some rule :=
      ⟨_, List.getElem?_eq_getElem p.place_lt⟩
    have hread := (Rule.read_eq_some_iff hi).mpr ⟨hmeans, rfl⟩
    -- An earlier rule may have read the token, but only as the same thing.
    cases hfirst : Rule.table.findSome? (·.read (normalChars token.toList)) with
    | none =>
      rw [List.findSome?_eq_none_iff.mp hfirst rule (List.mem_of_getElem? hi)] at hread
      cases hread
    | some q =>
      obtain ⟨rule', hrule', hread'⟩ := List.exists_of_findSome?_eq_some hfirst
      obtain ⟨i, hi'⟩ := List.getElem?_of_mem hrule'
      rw [hmeans.unique ((Rule.read_eq_some_iff hi').mp hread').1]

/-- The meaning of a token is what its normal form says, with the numbers
that its digits stand for: none above 99, save the days of `in-n-days`, up
to 9999, and the weeks of `in-n-weeks`, up to 999. A token whose normal
form has none of the forms of the grammar has no meaning. -/
theorem classify_grammar (token : String) :
    (∀ p, classify token = some p ↔ Says (normalize token).toList p) ∧
      (classify token = none ↔ ∀ p, ¬ Says (normalize token).toList p) ∧
      ∀ p, classify token = some p →
        p.time.hours ≤ 99 ∧ p.time.minutes ≤ 99 ∧
          (∀ days time, p = .inDays days time → days ≤ 9999) ∧
          ∀ weeks weekday time, p = .inWeeksOnWeekday weeks weekday time → weeks ≤ 999 := by
  rw [normalize, String.toList_ofList]
  refine ⟨fun p => classify_eq_some_iff, ?_, fun p h => (classify_eq_some_iff.mp h).bounded⟩
  rw [Option.eq_none_iff_forall_ne_some]
  exact forall_congr' fun p => not_congr classify_eq_some_iff

/-- Capitals, blanks and zeros in front say nothing. -/
theorem classify_grammar_inDays :
    Says (normalize " IN-007-Days\t9:05 ").toList (.inDays 7 ⟨9, 5⟩) :=
  ((classify_grammar " IN-007-Days\t9:05 ").1 (.inDays 7 ⟨9, 5⟩)).mp (by decide +kernel)

end DueTime.Token
