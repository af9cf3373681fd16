/-
DueTime.Proofs.Token.Front — a dash in front of a token.

Of all forms only the offset backwards begins with a dash, and its dash is
followed by a digit. Neither the dash nor the digit can come from another
character or from another word, since lower-casing keeps both and joins
words by spaces. So in the token as it was written, too, the digit comes
right after the dash (`exists_digit_of_classify`).
-/
import DueTime.Proofs.Text.Lowercase
import DueTime.Proofs.Text.Words
import DueTime.Proofs.Token.Classify

namespace DueTime.Token

/-! ## In the normal form -/

theorem Numeral.exists_cons {most n : Nat} {ds : List Char} (h : Numeral most ds n) :
    ∃ d rest, ds = d :: rest ∧ d.isDigit := by
  obtain ⟨d, rest, rfl⟩ := List.exists_cons_of_ne_nil h.ne_nil
  exact ⟨d, rest, rfl, h.isDigit d List.mem_cons_self⟩

theorem FullTime.exists_cons {cs : List Char} {t : WrittenTime} (h : FullTime cs t) :
    ∃ d rest, cs = d :: rest ∧ d.isDigit := by
  cases h with
  | mk hh hm =>
    obtain ⟨d, rest, rfl, hd⟩ := hh.exists_cons
    exact ⟨d, _, rfl, hd⟩

theorem NamesDay.exists_cons {name : List Char} {w : Weekday} (h : NamesDay name w) :
    ∃ c rest, name = c :: rest ∧ c ≠ '-' := by
  refine h.of_spellings (P := fun name => ∃ c rest, name = c :: rest ∧ c ≠ '-') ?_
  intro w s hs
  have hspellings : ∀ w, ∀ s ∈ spellings w, s.toList ≠ [] ∧ s.toList.head? ≠ some '-' := by
    intro w
    cases w <;> decide
  obtain ⟨hne, hhead⟩ := hspellings w s hs
  obtain ⟨c, rest, hcons⟩ := List.exists_cons_of_ne_nil hne
  rw [hcons] at hhead
  exact ⟨c, rest, hcons, fun hc => hhead (congrArg some hc)⟩

/-- What begins with a dash goes on with a digit. -/
theorem Says.exists_digit {cs : List Char} {p : TimePattern} (h : Says ('-' :: cs) p) :
    ∃ d rest, cs = d :: rest ∧ d.isDigit := by
  generalize hfront : '-' :: cs = all at h
  cases h with
  | backwards hf =>
    obtain ⟨-, rfl⟩ := List.cons.inj hfront
    exact hf.exists_cons
  | forwards hf => simp at hfront
  | tomorrow hc | today hc | inDays _ _ hc | inOneWeek hc | inOneWeekOnWeekday _ hc
  | inWeeksOnWeekday _ _ hc => simp at hfront
  | dayAfterTomorrow htext hc =>
    simp only [List.mem_cons, List.not_mem_nil, or_false] at htext
    rcases htext with rfl | rfl | rfl
    all_goals simp at hfront
  | onWeekday hname hc =>
    obtain ⟨c, rest, rfl, hc⟩ := hname.exists_cons
    exact absurd (List.cons.inj hfront).1.symm hc
  | plainTime hf =>
    obtain ⟨d, rest, rfl, hd⟩ := hf.exists_cons
    obtain ⟨rfl, -⟩ := List.cons.inj hfront
    exact absurd hd (by decide)
  | plainHour hn =>
    obtain ⟨d, rest, rfl, hd⟩ := hn.exists_cons
    obtain ⟨rfl, -⟩ := List.cons.inj hfront
    exact absurd hd (by decide)

/-! ## In the token -/

/-- A token with a meaning is not blank. -/
theorem words_ne_nil_of_classify {token : String} {p : TimePattern}
    (h : classify token = some p) : Text.words token.toList ≠ [] := by
  intro hnone
  rw [classify_eq_some_iff, normalChars, hnone] at h
  exact absurd h.hasDigits (by decide)

/-- If the first word of a token with a meaning begins with a dash then a
digit comes next in it. -/
theorem exists_digit_of_classify {token : String} {p : TimePattern}
    (h : classify token = some p) {cs : List Char} {others : List (List Char)}
    (hwords : Text.words token.toList = ('-' :: cs) :: others) :
    ∃ d rest, cs = d :: rest ∧ d.isDigit := by
  rw [classify_eq_some_iff, normalChars, hwords, Text.unwords_cons] at h
  have hdash : ∀ c ∈ ['-'], c.toNat < 0x41 := by simp
  obtain ⟨lowered, hlowered⟩ := (Text.isPrefix_lower_iff hdash).mpr
    (⟨_, rfl⟩ : ['-'] <+: ('-' :: cs) ++ others.flatMap (' ' :: ·))
  rw [← hlowered] at h
  obtain ⟨d, rest, rfl, hd⟩ := Says.exists_digit h
  have hlow : ∀ c ∈ ['-', d], c.toNat < 0x41 := by
    rw [Char.isDigit_iff_toNat, show '9'.toNat = 57 from rfl] at hd
    intro c hc
    rcases List.mem_pair.mp hc with rfl | rfl
    · decide
    · omega
  -- So the dash and the digit stand in front of the words.
  have hfront := (Text.isPrefix_lower_iff hlow).mp ⟨rest, hlowered⟩
  rw [List.cons_append, List.cons_prefix_cons] at hfront
  obtain ⟨tail, htail⟩ := hfront.2
  cases cs with
  | cons c cs =>
    obtain ⟨rfl, -⟩ := List.cons.inj htail
    exact ⟨d, cs, rfl, hd⟩
  | nil =>
    cases others with
    | nil => cases htail
    | cons other others =>
      obtain ⟨rfl, -⟩ := List.cons.inj htail
      exact absurd hd (by decide)

end DueTime.Token
