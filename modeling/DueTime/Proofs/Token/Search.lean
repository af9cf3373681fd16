/-
DueTime.Proofs.Token.Search — what the search through the table finds.

No token matches two forms of the grammar (`Rule.forms_unique`), so that a
trace has one finding at most, and the order in which the rules stand
decides nothing (`search_unambiguous`). And a rule whose form a token
matches is never gated, so that the findings are those of a search that
asks for no features at all (`search_ungated`).
-/
import DueTime.Proofs.Token.Classify
import DueTime.Proofs.Token.Expression

namespace DueTime.Token

/-! ## One form at most -/

namespace Rule

theorem exists_says_of_matches {i : Nat} {form : RegularExpression Char}
    (hform : forms[i]? = some form) {cs : List Char} (hcs : cs ∈ form.matches') :
    ∃ p, Says cs p ∧ p.place = i := by
  obtain ⟨hi, -⟩ := List.getElem?_eq_some_iff.mp hform
  obtain ⟨rule, hrule⟩ : ∃ rule, table[i]? = some rule :=
    ⟨_, List.getElem?_eq_getElem (show i < table.length from hi)⟩
  obtain ⟨p, hp⟩ := Option.isSome_iff_exists.mp ((read_isSome_iff hrule hform).mpr hcs)
  exact ⟨p, (read_eq_some_iff hrule).mp hp⟩

/-- No token matches the forms of two places. -/
theorem forms_unique {i j : Nat} {e f : RegularExpression Char} (he : forms[i]? = some e)
    (hf : forms[j]? = some f) {cs : List Char} (hi : cs ∈ e.matches') (hj : cs ∈ f.matches') :
    i = j := by
  obtain ⟨p, hp, rfl⟩ := exists_says_of_matches he hi
  obtain ⟨q, hq, rfl⟩ := exists_says_of_matches hf hj
  exact hp.place_eq hq

/-- What one rule of the table reads, no later one does. -/
theorem table_pairwise (cs : List Char) :
    table.Pairwise fun r s => ∀ p, r.read cs = some p → ∀ q, s.read cs ≠ some q := by
  rw [List.pairwise_iff_getElem]
  intro i j hi hj hlt p hp q hq
  obtain ⟨hmeant, hplace⟩ := (read_eq_some_iff (List.getElem?_eq_getElem hi)).mp hp
  obtain ⟨hmeant', hplace'⟩ := (read_eq_some_iff (List.getElem?_eq_getElem hj)).mp hq
  have := hmeant.place_eq hmeant'
  omega

end Rule

theorem found_length_le_one (token : String) : (trace token).found.length ≤ 1 := by
  have hnone : (trace token).found.Pairwise fun _ _ => False := by
    rw [trace, found_traceWith (List.Subset.refl _), List.pairwise_filterMap]
    refine (Rule.table_pairwise (normalChars token.toList)).imp ?_
    intro r s hrs _ hp _ hq
    obtain ⟨p, hp, -⟩ := Option.map_eq_some_iff.mp hp
    obtain ⟨q, hq, -⟩ := Option.map_eq_some_iff.mp hq
    exact hrs p hp q hq
  rcases h : (trace token).found with _ | ⟨a, _ | ⟨b, rest⟩⟩
  · simp
  · simp
  · rw [h] at hnone
    exact (List.rel_of_pairwise_cons hnone List.mem_cons_self).elim

/-- Another order of the rules gives the same findings. -/
theorem found_eq_of_perm {rules : List Rule} (hrules : rules.Perm Rule.table) (token : String) :
    (traceWith rules token).found = (trace token).found := by
  have hperm : (traceWith rules token).found.Perm (trace token).found := by
    rw [trace, found_traceWith hrules.subset, found_traceWith (List.Subset.refl _)]
    exact hrules.filterMap _
  have hlen := found_length_le_one token
  rcases h : (trace token).found with _ | ⟨a, _ | ⟨b, rest⟩⟩
  · rwa [h, List.perm_nil] at hperm
  · rwa [h, List.perm_singleton] at hperm
  · simp [h] at hlen

/-- The grammar is unambiguous. A rule reads what matches its form; a
token, normalized or not, matches one form at most; and with the rules in
any order a trace finds the same, which is one meaning at most. -/
theorem search_unambiguous :
    (∀ (i : Nat) (rule : Rule) (form : RegularExpression Char), Rule.table[i]? = some rule →
      Rule.forms[i]? = some form → ∀ cs, (rule.read cs).isSome ↔ cs ∈ form.matches') ∧
    (∀ (cs : List Char) (i j : Nat) (e f : RegularExpression Char), Rule.forms[i]? = some e →
      Rule.forms[j]? = some f → cs ∈ e.matches' → cs ∈ f.matches' → i = j) ∧
    ∀ rules : List Rule, rules.Perm Rule.table → ∀ token,
      (traceWith rules token).found.length ≤ 1 ∧
        (traceWith rules token).pattern? = classify token := by
  refine ⟨fun i rule form hrule hform cs => Rule.read_isSome_iff hrule hform,
    fun cs i j e f he hf hi hj => Rule.forms_unique he hf hi hj, fun rules hrules token => ?_⟩
  have hfound := found_eq_of_perm hrules token
  refine ⟨hfound ▸ found_length_le_one token, ?_⟩
  rw [classify, Trace.pattern?, hfound]
  rfl

/-- `in-one-week mon 9` begins as `in-one-week 9` does, and ends as
`mon 9`. It has the form of neither, and the table read backwards finds
what the table finds. -/
theorem search_unambiguous_inOneWeek :
    (∀ j form, Rule.forms[j]? = some form → "in-one-week mon 9".toList ∈ form.matches' → j = 7) ∧
      (traceWith Rule.table.reverse "in-one-week mon 9").pattern? =
        some (.inOneWeekOnWeekday .monday ⟨9, 0⟩) := by
  obtain ⟨hreads, hunique, hsearch⟩ := search_unambiguous
  have hseven := (hreads 7 _ _ rfl rfl "in-one-week mon 9".toList).mp (by decide +kernel)
  refine ⟨fun j form hform hcs => hunique _ j 7 form _ hform rfl hcs hseven, ?_⟩
  rw [(hsearch _ (List.reverse_perm _) "in-one-week mon 9").2]
  decide +kernel

/-! ## Gates -/

theorem Outcome.pattern?_eq_some_iff {outcome : Outcome} {p : TimePattern} :
    outcome.pattern? = some p ↔ outcome = .matched p := by
  cases outcome <;> simp [Outcome.pattern?]

/-- Gates close on no rule that would have read the token. A normalized
token that matches a form has all features that the rule of the form
needs, and the rule is offered the token and reads it; so the findings of a
trace are, one by one and in order, those of offering the normal form to
every rule. -/
theorem search_ungated :
    (∀ (i : Nat) (rule : Rule) (form : RegularExpression Char), Rule.table[i]? = some rule →
      Rule.forms[i]? = some form → ∀ cs ∈ form.matches',
        (∀ f ∈ rule.needs, f ∈ Feature.detect cs) ∧
          ∃ p, rule.read cs = some p ∧ rule.offer (Feature.detect cs) cs = .matched p) ∧
    ∀ token, (trace token).found =
      Rule.table.filterMap fun rule =>
        (rule.read (normalize token).toList).map (rule.name, ·) := by
  refine ⟨fun i rule form hrule hform cs hcs => ?_, fun token => ?_⟩
  · obtain ⟨p, hp⟩ := Option.isSome_iff_exists.mp ((Rule.read_isSome_iff hrule hform).mpr hcs)
    obtain ⟨hmeant, rfl⟩ := (Rule.read_eq_some_iff hrule).mp hp
    refine ⟨fun f hf => Feature.mem_detect_iff.mpr (hmeant.presentIn hrule f hf), p, hp, ?_⟩
    rw [← Outcome.pattern?_eq_some_iff, Rule.offer_pattern? (List.mem_of_getElem? hrule), hp]
  · rw [trace, found_traceWith (List.Subset.refl _), normalize, String.toList_ofList]

/-- The letters `thu` in the middle of a long token are enough for the
rule that needs a weekday. -/
theorem search_ungated_thursday :
    Feature.weekdayish ∈ Feature.detect "in-3-weeks thurs 9:30".toList ∧
      (trace "in-3-weeks thurs 9:30").found =
        [("in <n> weeks <weekday> <time>", .inWeeksOnWeekday 3 .thursday ⟨9, 30⟩)] := by
  obtain ⟨hgates, hfound⟩ := search_ungated
  obtain ⟨form, hform⟩ : ∃ form, Rule.forms[8]? = some form := ⟨_, rfl⟩
  have hmatches : "in-3-weeks thurs 9:30".toList ∈ form.matches' :=
    (Rule.read_isSome_iff (i := 8) rfl hform).mp (by decide +kernel)
  refine ⟨(hgates 8 _ _ rfl hform _ hmatches).1 .weekdayish (by decide), ?_⟩
  rw [hfound]
  decide +kernel

end DueTime.Token
