/-
DueTime.Proofs.Token.Skeleton — no token says two things.

Take the digits out of a token: what is left of a token of the grammar is
one of 122 short texts, its skeleton, and no skeleton that one rule of the
table leaves is left by another. So the skeleton of a token tells which
rule may read it, and one rule gives one meaning at most.
-/
import DueTime.Proofs.Token.Table

namespace DueTime.Token

/-- A text with its ASCII digits taken out. -/
def withoutDigits (cs : List Char) : List Char :=
  cs.filter (! ·.isDigit)

/-- The names of the weekdays, each with a space after it. -/
def spacedNames : List (List Char) :=
  weekdayNames.map (·.1.toList ++ [' '])

/-- What stands before the time in the tokens of the rule at a place, less
the digits. -/
def leads : Nat → List (List Char)
  | 1 => ["tomorrow ".toList]
  | 2 => ["day-after-tomorrow ".toList, "day after tomorrow ".toList, "overmorrow ".toList]
  | 3 => ["today ".toList]
  | 4 => ["in--days ".toList, "in--day ".toList]
  | 5 => spacedNames
  | 6 => ["in-one-week ".toList]
  | 7 => spacedNames.map ("in-one-week ".toList ++ ·)
  | 8 => spacedNames.map ("in--weeks ".toList ++ ·)
  | _ => []

/-- What the tokens of the rule at a place leave when their digits are
taken out. Of a time only the colon is left, if it has one. -/
def skeletons : Nat → List (List Char)
  | 0 => ["+:".toList, "-:".toList]
  | 9 => [[':']]
  | 10 => [[]]
  | i => (leads i).flatMap fun lead => [lead, lead ++ [':']]

/-- A skeleton is left by one rule only. -/
theorem skeletons_apart : ∀ i < 11, ∀ j < i, ∀ text ∈ skeletons i, text ∉ skeletons j := by
  decide +kernel

/-! ## The pieces -/

theorem withoutDigits_append (cs ds : List Char) :
    withoutDigits (cs ++ ds) = withoutDigits cs ++ withoutDigits ds :=
  List.filter_append cs ds

theorem withoutDigits_cons {c : Char} (hc : c.isDigit = false) (cs : List Char) :
    withoutDigits (c :: cs) = c :: withoutDigits cs :=
  List.filter_cons_of_pos (by rw [hc]; rfl)

theorem Numeral.withoutDigits {most n : Nat} {ds : List Char} (h : Numeral most ds n) :
    withoutDigits ds = [] := by
  rw [Token.withoutDigits, List.filter_eq_nil_iff]
  intro c hc
  simp [h.isDigit c hc]

theorem FullTime.withoutDigits {cs : List Char} {t : WrittenTime} (h : FullTime cs t) :
    withoutDigits cs = [':'] := by
  cases h with
  | mk hh hm =>
    rw [withoutDigits_append, withoutDigits_cons (by decide), hh.withoutDigits, hm.withoutDigits]
    rfl

theorem ClockTime.withoutDigits {cs : List Char} {t : WrittenTime} (h : ClockTime cs t) :
    withoutDigits cs = [] ∨ withoutDigits cs = [':'] := by
  cases h with
  | hour hh => exact Or.inl hh.withoutDigits
  | full hf => exact Or.inr hf.withoutDigits

theorem NamesDay.withoutDigits_mem {name : List Char} {w : Weekday} (h : NamesDay name w) :
    Token.withoutDigits (name ++ [' ']) ∈ spacedNames := by
  refine h.of_spellings (P := fun name => Token.withoutDigits (name ++ [' ']) ∈ spacedNames)
    fun w => ?_
  cases w <;> decide

/-- The skeleton of a lead and a time. -/
theorem ClockTime.withoutDigits_mem {text cs : List Char} {t : WrittenTime} {i : Nat}
    (h : ClockTime cs t) (htext : Token.withoutDigits text ∈ leads i) :
    Token.withoutDigits (text ++ cs) ∈
      (leads i).flatMap fun lead => [lead, lead ++ [':']] := by
  refine List.mem_flatMap.mpr ⟨_, htext, ?_⟩
  rw [withoutDigits_append]
  rcases h.withoutDigits with hcs | hcs
  · simp [hcs]
  · simp [hcs]

/-! ## Whole tokens -/

theorem Says.withoutDigits_mem {cs : List Char} {p : TimePattern} (h : Says cs p) :
    withoutDigits cs ∈ skeletons p.place := by
  cases h with
  | forwards hf =>
    rw [withoutDigits_cons (by decide), hf.withoutDigits]
    exact List.mem_cons_self
  | backwards hf =>
    rw [withoutDigits_cons (by decide), hf.withoutDigits]
    exact List.mem_cons_of_mem _ List.mem_cons_self
  | tomorrow hc =>
    exact hc.withoutDigits_mem (show withoutDigits "tomorrow ".toList ∈ leads 1 by decide)
  | dayAfterTomorrow htext hc =>
    have hlead : ∀ text ∈ ["day-after-tomorrow ", "day after tomorrow ", "overmorrow "],
        withoutDigits text.toList ∈ leads 2 := by decide
    exact hc.withoutDigits_mem (hlead _ htext)
  | today hc =>
    exact hc.withoutDigits_mem (show withoutDigits "today ".toList ∈ leads 3 by decide)
  | inDays hds htext hc =>
    have hlead : ∀ text ∈ ["-days ", "-day "],
        withoutDigits "in-".toList ++ withoutDigits text.toList ∈ leads 4 := by decide
    rw [← List.append_assoc, ← List.append_assoc]
    refine hc.withoutDigits_mem ?_
    rw [withoutDigits_append, withoutDigits_append, hds.withoutDigits, List.append_nil]
    exact hlead _ htext
  | onWeekday hname hc =>
    rw [List.append_cons]
    exact hc.withoutDigits_mem (show _ ∈ leads 5 from hname.withoutDigits_mem)
  | inOneWeek hc =>
    exact hc.withoutDigits_mem (show withoutDigits "in-one-week ".toList ∈ leads 6 by decide)
  | inOneWeekOnWeekday hname hc =>
    rw [List.append_cons, ← List.append_assoc]
    refine hc.withoutDigits_mem (i := 7) ?_
    rw [withoutDigits_append]
    exact List.mem_map.mpr ⟨_, hname.withoutDigits_mem, rfl⟩
  | inWeeksOnWeekday hds hname hc =>
    rw [List.append_cons, ← List.append_assoc, ← List.append_assoc, ← List.append_assoc]
    refine hc.withoutDigits_mem (i := 8) ?_
    rw [withoutDigits_append, withoutDigits_append, withoutDigits_append, hds.withoutDigits]
    exact List.mem_map.mpr ⟨_, hname.withoutDigits_mem, rfl⟩
  | plainTime hf =>
    rw [hf.withoutDigits]
    exact List.mem_singleton_self _
  | plainHour hn =>
    rw [hn.withoutDigits]
    exact List.mem_singleton_self _

/-- All that a token says is of one place in the table. -/
theorem Says.place_eq {cs : List Char} {p q : TimePattern} (hp : Says cs p) (hq : Says cs q) :
    p.place = q.place := by
  rcases Nat.lt_trichotomy p.place q.place with hlt | heq | hlt
  · exact absurd hp.withoutDigits_mem
      (skeletons_apart q.place q.place_lt p.place hlt _ hq.withoutDigits_mem)
  · exact heq
  · exact absurd hq.withoutDigits_mem
      (skeletons_apart p.place p.place_lt q.place hlt _ hp.withoutDigits_mem)

/-- A token says one thing at most. -/
theorem Says.unique {cs : List Char} {p q : TimePattern} (hp : Says cs p) (hq : Says cs q) :
    p = q := by
  obtain ⟨rule, hrule⟩ : ∃ rule, Rule.table[p.place]? = some rule :=
    ⟨_, List.getElem?_eq_getElem p.place_lt⟩
  have hreadp := (Rule.read_eq_some_iff hrule).mpr ⟨hp, rfl⟩
  have hreadq := (Rule.read_eq_some_iff hrule).mpr ⟨hq, hq.place_eq hp⟩
  exact Option.some.inj (hreadp.symm.trans hreadq)

end DueTime.Token
