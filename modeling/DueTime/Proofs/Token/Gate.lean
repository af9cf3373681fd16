/-
DueTime.Proofs.Token.Gate — a gated rule would have refused the token.

Every token that says a pattern has the features that the pattern's rule
needs (`Says.presentIn`). All features but the sign are seen in a text as
soon as they are seen in a part of it, so it is enough to look at the
pieces: a time has a digit, a full time a colon, the name of a weekday a
stem. Hence a rule that is gated refuses, and asking for features first
changes no answer (`Rule.offer_pattern?`).
-/
import DueTime.Proofs.Token.Table
import DueTime.Token.Classify

namespace DueTime.Token

/-! ## Features of parts -/

theorem occursIn_iff {text cs : List Char} : occursIn text cs ↔ text <:+: cs := by
  induction cs with
  | nil => rw [occursIn, List.isEmpty_iff, List.infix_nil]
  | cons c cs ih =>
    rw [occursIn, Bool.or_eq_true, List.isPrefixOf_iff_prefix, ih, List.infix_cons_iff]

namespace Feature

/-- A feature of a part is one of the whole, unless it is the sign. -/
theorem presentIn_of_infix {cs ds : List Char} {f : Feature} (h : f.presentIn cs)
    (hin : cs <:+: ds) (hf : f ≠ .signed) : f.presentIn ds := by
  cases f with
  | hasDigits =>
    obtain ⟨c, hc, hdigit⟩ := List.any_eq_true.mp h
    exact List.any_eq_true.mpr ⟨c, hin.subset hc, hdigit⟩
  | hasColon => exact List.contains_iff_mem.mpr (hin.subset (List.contains_iff_mem.mp h))
  | signed => exact absurd rfl hf
  | hasWord =>
    obtain ⟨c, hc, hletter⟩ := List.any_eq_true.mp h
    exact List.any_eq_true.mpr ⟨c, hin.subset hc, hletter⟩
  | weekdayish =>
    obtain ⟨stem, hstem, hoccurs⟩ := List.any_eq_true.mp h
    have hpart := (occursIn_iff.mp hoccurs).trans hin
    exact List.any_eq_true.mpr ⟨stem, hstem, occursIn_iff.mpr hpart⟩

theorem mem_detect_iff {cs : List Char} {f : Feature} : f ∈ detect cs ↔ f.presentIn cs := by
  have hall : f ∈ all := by cases f <;> decide
  rw [detect, List.mem_filter]
  exact and_iff_right hall

end Feature

/-! ## Features of the pieces -/

theorem Numeral.hasDigits {most n : Nat} {ds : List Char} (h : Numeral most ds n) :
    Feature.hasDigits.presentIn ds := by
  obtain ⟨c, hc⟩ := List.exists_mem_of_ne_nil ds h.ne_nil
  exact List.any_eq_true.mpr ⟨c, hc, h.isDigit c hc⟩

theorem FullTime.hasDigits {cs : List Char} {t : WrittenTime} (h : FullTime cs t) :
    Feature.hasDigits.presentIn cs := by
  cases h with
  | mk hh hm => exact Feature.presentIn_of_infix hh.hasDigits List.infix_append_left nofun

theorem FullTime.hasColon {cs : List Char} {t : WrittenTime} (h : FullTime cs t) :
    Feature.hasColon.presentIn cs := by
  cases h with
  | mk hh hm => simp [Feature.presentIn]

theorem ClockTime.hasDigits {cs : List Char} {t : WrittenTime} (h : ClockTime cs t) :
    Feature.hasDigits.presentIn cs := by
  cases h with
  | hour hh => exact hh.hasDigits
  | full hf => exact hf.hasDigits

theorem NamesDay.weekdayish {name : List Char} {w : Weekday} (h : NamesDay name w) :
    Feature.weekdayish.presentIn name := by
  refine h.of_spellings (P := (Feature.presentIn · .weekdayish)) fun w => ?_
  cases w <;> decide

/-! ## Features of tokens -/

section
variable {cs : List Char} {p : TimePattern}

/-- Each form ends in a number. -/
theorem Says.hasDigits (h : Says cs p) : Feature.hasDigits.presentIn cs := by
  have hpart {ds : List Char} (hds : Feature.hasDigits.presentIn ds) (hend : ds <:+ cs) :
      Feature.hasDigits.presentIn cs :=
    Feature.presentIn_of_infix hds hend.isInfix nofun
  cases h with
  | forwards hf => exact hpart hf.hasDigits (List.suffix_cons _ _)
  | backwards hf => exact hpart hf.hasDigits (List.suffix_cons _ _)
  | tomorrow hc => exact hpart hc.hasDigits (List.suffix_append _ _)
  | dayAfterTomorrow _ hc => exact hpart hc.hasDigits (List.suffix_append _ _)
  | today hc => exact hpart hc.hasDigits (List.suffix_append _ _)
  | inDays _ _ hc =>
    refine hpart hc.hasDigits ?_
    rw [← List.append_assoc, ← List.append_assoc]
    exact List.suffix_append _ _
  | onWeekday _ hc =>
    rw [List.append_cons] at hpart ⊢
    exact hpart hc.hasDigits (List.suffix_append _ _)
  | inOneWeek hc => exact hpart hc.hasDigits (List.suffix_append _ _)
  | inOneWeekOnWeekday _ hc =>
    rw [List.append_cons, ← List.append_assoc] at hpart ⊢
    exact hpart hc.hasDigits (List.suffix_append _ _)
  | inWeeksOnWeekday _ _ hc =>
    rw [List.append_cons, ← List.append_assoc, ← List.append_assoc, ← List.append_assoc]
      at hpart ⊢
    exact hpart hc.hasDigits (List.suffix_append _ _)
  | plainTime hf => exact hf.hasDigits
  | plainHour hn => exact hn.hasDigits

/-- A token has the features that the rule of what it says needs. -/
theorem Says.presentIn {rule : Rule} (h : Says cs p)
    (hrule : Rule.table[p.place]? = some rule) : ∀ f ∈ rule.needs, f.presentIn cs := by
  have hdigits := h.hasDigits
  have hword {text : List Char} (htext : Feature.hasWord.presentIn text) (hfront : text <+: cs) :
      ∀ f ∈ [Feature.hasWord, .hasDigits], f.presentIn cs := by
    have hpresent := Feature.presentIn_of_infix htext hfront.isInfix nofun
    simp [hpresent, hdigits]
  have hweekday {name : List Char} {w : Weekday} (hname : NamesDay name w) (hin : name <:+: cs) :
      ∀ f ∈ [Feature.weekdayish, .hasDigits], f.presentIn cs := by
    have hpresent := Feature.presentIn_of_infix hname.weekdayish hin nofun
    simp [hpresent, hdigits]
  cases h with
  | forwards hf =>
    obtain rfl := Option.some.inj hrule
    have hcolon := Feature.presentIn_of_infix hf.hasColon (List.suffix_cons '+' _).isInfix nofun
    exact List.forall_mem_cons.mpr ⟨rfl, by simp [hcolon, hdigits]⟩
  | backwards hf =>
    obtain rfl := Option.some.inj hrule
    have hcolon := Feature.presentIn_of_infix hf.hasColon (List.suffix_cons '-' _).isInfix nofun
    exact List.forall_mem_cons.mpr ⟨rfl, by simp [hcolon, hdigits]⟩
  | tomorrow hc =>
    obtain rfl := Option.some.inj hrule
    exact hword (by decide) (List.prefix_append "tomorrow ".toList _)
  | dayAfterTomorrow htext hc =>
    obtain rfl := Option.some.inj hrule
    have hletters : ∀ text ∈ ["day-after-tomorrow ", "day after tomorrow ", "overmorrow "],
        Feature.hasWord.presentIn text.toList := by decide
    exact hword (hletters _ htext) (List.prefix_append _ _)
  | today hc =>
    obtain rfl := Option.some.inj hrule
    exact hword (by decide) (List.prefix_append "today ".toList _)
  | inDays hds htext hc =>
    obtain rfl := Option.some.inj hrule
    exact hword (by decide) (List.prefix_append "in-".toList _)
  | onWeekday hname hc =>
    obtain rfl := Option.some.inj hrule
    exact hweekday hname List.infix_append_left
  | inOneWeek hc =>
    obtain rfl := Option.some.inj hrule
    exact hword (by decide) (List.prefix_append "in-one-week ".toList _)
  | inOneWeekOnWeekday hname hc =>
    obtain rfl := Option.some.inj hrule
    exact hweekday hname (List.infix_append_left.trans List.infix_append_right)
  | inWeeksOnWeekday hds hname hc =>
    obtain rfl := Option.some.inj hrule
    refine hweekday hname ?_
    rw [← List.append_assoc, ← List.append_assoc]
    exact List.infix_append_left.trans List.infix_append_right
  | plainTime hf =>
    obtain rfl := Option.some.inj hrule
    simp [hf.hasColon, hdigits]
  | plainHour hn =>
    obtain rfl := Option.some.inj hrule
    simp [hdigits]

/-- Gated or not, a rule of the table finds what it reads. -/
theorem Rule.offer_pattern? {rule : Rule} (hrule : rule ∈ table) (cs : List Char) :
    (rule.offer (Feature.detect cs) cs).pattern? = rule.read cs := by
  have hneeds : rule.needs.all ((Feature.detect cs).contains ·) ↔
      ∀ f ∈ rule.needs, f.presentIn cs := by
    simp only [List.all_eq_true, List.contains_iff_mem, Feature.mem_detect_iff]
  rw [Rule.offer]
  split
  · cases hread : rule.read cs with
    | none => rfl
    | some p => rfl
  · rename_i hgated
    cases hread : rule.read cs with
    | none => rfl
    | some p =>
      obtain ⟨i, hi⟩ := List.getElem?_of_mem hrule
      obtain ⟨hmeans, rfl⟩ := (read_eq_some_iff hi).mp hread
      exact absurd (hneeds.mpr (hmeans.presentIn hi)) hgated

end

end DueTime.Token
