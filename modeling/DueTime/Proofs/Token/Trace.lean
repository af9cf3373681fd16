/-
DueTime.Proofs.Token.Trace — what a trace says about each rule.

A rule is gated when the token lacks a feature that it needs, and otherwise
it matched if and only if the normal form matches the form of the rule
(`exists_offer_eq_matched_iff`): no gate closes on a rule that would have
read the token, and no rule fails on a token of its form. The findings of a
trace can be kept in a list of their own while the rules are gone through
(`Ledger`), and at every rule the two lists are in step.
-/
import DueTime.Proofs.Token.Search

namespace DueTime.Token

/-! ## Offering a token to a rule -/

section
variable {rule : Rule} {features : List Feature} {cs : List Char}

theorem Rule.admits_iff :
    rule.needs.all (features.contains ·) = true ↔ ∀ f ∈ rule.needs, f ∈ features := by
  simp only [List.all_eq_true, List.contains_iff_mem]

theorem Rule.offer_eq_gated_iff :
    rule.offer features cs = .gated ↔ ∃ f ∈ rule.needs, f ∉ features := by
  by_cases hadmits : ∀ f ∈ rule.needs, f ∈ features
  · rw [offer, if_pos (admits_iff.mpr hadmits)]
    cases rule.read cs with
    | none => simpa using hadmits
    | some p => simpa using hadmits
  · rw [offer, if_neg (mt admits_iff.mp hadmits)]
    simpa using hadmits

theorem Rule.offer_eq_missed_iff :
    rule.offer features cs = .missed ↔
      (∀ f ∈ rule.needs, f ∈ features) ∧ rule.read cs = none := by
  by_cases hadmits : ∀ f ∈ rule.needs, f ∈ features
  · rw [offer, if_pos (admits_iff.mpr hadmits)]
    cases rule.read cs with
    | none => simpa using hadmits
    | some p => simp
  · rw [offer, if_neg (mt admits_iff.mp hadmits)]
    simp [hadmits]

/-- A rule of the table matches what has its form, gates or no gates. -/
theorem Rule.exists_offer_eq_matched_iff {i : Nat} {form : RegularExpression Char}
    (hrule : table[i]? = some rule) (hform : forms[i]? = some form) :
    (∃ p, rule.offer (Feature.detect cs) cs = .matched p) ↔ cs ∈ form.matches' := by
  rw [← read_isSome_iff hrule hform, Option.isSome_iff_exists,
    ← offer_pattern? (List.mem_of_getElem? hrule)]
  simp only [Outcome.pattern?_eq_some_iff]

end

/-- The attempt tells what the rule did with a token whose features are
given: it matched if the token has the form of the rule, it was gated if a
feature that it needs is missing, and else it missed. -/
structure Attempt.Tells (attempt : Attempt) (rule : Rule) (form : RegularExpression Char)
    (features : List Feature) (cs : List Char) : Prop where
  rule_eq : attempt.rule = rule.name
  matched_iff : (∃ p, attempt.outcome = .matched p) ↔ cs ∈ form.matches'
  gated_iff : attempt.outcome = .gated ↔ ∃ f ∈ rule.needs, f ∉ features
  missed_iff : attempt.outcome = .missed ↔
    (∀ f ∈ rule.needs, f ∈ features) ∧ cs ∉ form.matches'

theorem Rule.offer_tells {i : Nat} {rule : Rule} {form : RegularExpression Char}
    (hrule : table[i]? = some rule) (hform : forms[i]? = some form) (cs : List Char) :
    Attempt.Tells ⟨rule.name, rule.offer (Feature.detect cs) cs⟩ rule form (Feature.detect cs)
      cs where
  rule_eq := rfl
  matched_iff := exists_offer_eq_matched_iff hrule hform
  gated_iff := offer_eq_gated_iff
  missed_iff := by
    rw [offer_eq_missed_iff, ← read_isSome_iff hrule hform, Option.not_isSome_iff_eq_none]

/-! ## Attempts -/

theorem trace_features (token : String) :
    (trace token).features = Feature.detect (normalize token).toList := by
  rw [normalize, String.toList_ofList]
  rfl

theorem trace_attempts (token : String) :
    (trace token).attempts = Rule.table.map fun rule =>
      ⟨rule.name, rule.offer (Feature.detect (normalize token).toList)
        (normalize token).toList⟩ := by
  rw [normalize, String.toList_ofList]
  rfl

/-- Every rule is listed, in the order of the table. -/
theorem trace_attempts_map_rule (token : String) :
    (trace token).attempts.map (·.rule) = Rule.table.map (·.name) := by
  rw [trace_attempts, List.map_map]
  rfl

theorem Rule.table_names_nodup : (table.map (·.name)).Nodup := by
  decide

/-! ## Findings -/

/-- The attempts that matched are the findings, in the same order. -/
theorem Attempt.filter_matched (attempts : List Attempt) :
    attempts.filter (·.outcome.pattern?.isSome) =
      (attempts.filterMap match?).map fun found => ⟨found.1, .matched found.2⟩ := by
  induction attempts with
  | nil => rfl
  | cons attempt attempts ih =>
    obtain ⟨rule, outcome⟩ := attempt
    cases outcome with
    | gated => exact ih
    | missed => exact ih
    | matched p => exact congrArg (⟨rule, .matched p⟩ :: ·) ih

/-- What is put down while a token goes through the rules: what each one
did, and in a second list what was found. -/
structure Ledger where
  attempts : List Attempt
  found : List (String × TimePattern)

namespace Ledger

/-- Puts down one more attempt, and its finding when it has one. -/
def enter (l : Ledger) (attempt : Attempt) : Ledger :=
  { attempts := l.attempts ++ [attempt], found := l.found ++ attempt.match?.toList }

/-- The second list holds the findings of the first. -/
def InStep (l : Ledger) : Prop :=
  l.found = l.attempts.filterMap Attempt.match?

theorem InStep.enter {l : Ledger} (h : l.InStep) (attempt : Attempt) :
    (l.enter attempt).InStep := by
  unfold InStep at h ⊢
  rw [Ledger.enter, h, List.filterMap_append]
  cases hmatch : attempt.match? with
  | none => simp [hmatch]
  | some found => simp [hmatch]

/-- However many attempts are put down, the lists stay in step. -/
theorem InStep.foldl {l : Ledger} (h : l.InStep) (attempts : List Attempt) :
    (attempts.foldl Ledger.enter l).InStep ∧
      (attempts.foldl Ledger.enter l).attempts = l.attempts ++ attempts := by
  induction attempts generalizing l with
  | nil => exact ⟨h, (List.append_nil _).symm⟩
  | cons attempt attempts ih =>
    obtain ⟨hstep, hattempts⟩ := ih (h.enter attempt)
    refine ⟨hstep, ?_⟩
    rw [List.foldl_cons, hattempts, List.append_cons]
    rfl

end Ledger

/-- Going through the rules and putting down what each does gives the
attempts of the trace and its findings. -/
theorem foldl_enter_eq (token : String) :
    Rule.table.foldl (fun l rule => l.enter ⟨rule.name, rule.offer
      (Feature.detect (normalize token).toList) (normalize token).toList⟩) ⟨[], []⟩ =
        (⟨(trace token).attempts, (trace token).found⟩ : Ledger) := by
  have hempty : Ledger.InStep ⟨[], []⟩ := rfl
  obtain ⟨hstep, hall⟩ := hempty.foldl (trace token).attempts
  rw [← List.foldl_map, ← trace_attempts]
  generalize (trace token).attempts.foldl Ledger.enter ⟨[], []⟩ = l at hstep hall
  obtain ⟨attempts, found⟩ := l
  obtain rfl : attempts = _ := hall
  rw [Trace.found]
  exact congrArg _ hstep

/-- The rule of a trace is the one at the place of its meaning. -/
theorem trace_rule?_eq (token : String) :
    (trace token).rule? =
      (trace token).pattern?.bind fun p => Rule.table[p.place]?.map (·.name) := by
  cases hfound : (trace token).found with
  | nil => simp [Trace.rule?, Trace.pattern?, hfound]
  | cons first rest =>
    obtain ⟨name, p⟩ := first
    have hmem : (name, p) ∈ (trace token).found := by simp [hfound]
    rw [trace, found_traceWith (List.Subset.refl _), List.mem_filterMap] at hmem
    obtain ⟨rule, hrule, hread⟩ := hmem
    obtain ⟨i, hi⟩ := List.getElem?_of_mem hrule
    obtain ⟨q, hq, hpair⟩ := Option.map_eq_some_iff.mp hread
    obtain ⟨rfl, rfl⟩ := Prod.mk.inj hpair
    obtain ⟨-, rfl⟩ := (Rule.read_eq_some_iff hi).mp hq
    simp [Trace.rule?, Trace.pattern?, hfound, hi]

/-! ## Whole traces -/

/-- The trace tells what became of a normalized token. -/
structure Trace.Tells (trace : Trace) (cs : List Char) : Prop where
  normalized_eq : trace.normalized = String.ofList cs
  features_eq : trace.features = Feature.detect cs
  /-- Every rule is listed, in the order of the table. -/
  attempts_rule : trace.attempts.map (·.rule) = Rule.table.map (·.name)
  /-- No rule is listed twice. -/
  attempts_nodup : (trace.attempts.map (·.rule)).Nodup
  attempts_tell : ∀ (i : Nat) (rule : Rule), Rule.table[i]? = some rule →
    ∃ form attempt, Rule.forms[i]? = some form ∧ trace.attempts[i]? = some attempt ∧
      attempt.Tells rule form trace.features cs
  /-- The attempts that matched are the findings, in the same order. -/
  matched_eq : trace.attempts.filter (·.outcome.pattern?.isSome) =
    trace.found.map fun found => ⟨found.1, .matched found.2⟩
  /-- The findings are what a second list would hold that is kept while the
  rules are gone through. -/
  ledger_eq : Rule.table.foldl (fun l rule => l.enter ⟨rule.name, rule.offer
      trace.features cs⟩) ⟨[], []⟩ = (⟨trace.attempts, trace.found⟩ : Ledger)
  /-- A rule is named when there is a meaning, and it is the rule at the
  place of the meaning's kind. -/
  rule?_eq : trace.rule? =
    trace.pattern?.bind fun p => Rule.table[p.place]?.map (·.name)
  rule?_isSome_iff : trace.rule?.isSome ↔ trace.pattern?.isSome

theorem trace_tells (token : String) : (trace token).Tells (normalize token).toList where
  normalized_eq := by rw [String.ofList_toList, normalize, trace, traceWith]
  features_eq := trace_features token
  attempts_rule := trace_attempts_map_rule token
  attempts_nodup := by
    rw [trace_attempts_map_rule]
    exact Rule.table_names_nodup
  attempts_tell := by
    intro i rule hrule
    obtain ⟨form, hform⟩ : ∃ form, Rule.forms[i]? = some form := by
      obtain ⟨hi, -⟩ := List.getElem?_eq_some_iff.mp hrule
      exact ⟨_, List.getElem?_eq_getElem (show i < Rule.forms.length from hi)⟩
    rw [trace_features, trace_attempts, List.getElem?_map, hrule, Option.map_some]
    exact ⟨form, _, hform, rfl, Rule.offer_tells hrule hform _⟩
  matched_eq := Attempt.filter_matched _
  ledger_eq := by
    rw [trace_features]
    exact foldl_enter_eq token
  rule?_eq := trace_rule?_eq token
  rule?_isSome_iff := by
    simp [Trace.rule?, Trace.pattern?]

end DueTime.Token
