/-
DueTime.Proofs.Text.Lowercase — what lower-casing leaves alone.

A character comes by its lower-case form in one of five ways (`Lowers`). The
forms are letters, or marks over them, and their code points are those of `a`
and above. So a digit or a sign in a lower-case text was there before
(`eq_or_le_of_mem_lowerChar`, `isPrefix_lower_iff`), and so was a blank. No
form has another form, so lower-casing a second time changes nothing
(`lower_lower`).

A final sigma depends on the letters around it; apart from sigmas, a text is
lowered character by character (`exists_lower`). It does not depend on the
case that the letters of ASCII have (`lower_map_toLower`).
-/
import DueTime.Text.Lowercase
import Mathlib.Data.List.Forall2

namespace DueTime.Text

/-! ## Runs of letters -/

/-- The forms of the letters of a run lie between those of its ends. -/
theorem LowerRun.lower_bounds {run : LowerRun} {code : Nat} (h : run.holds code) :
    run.image ≤ run.lower code ∧ run.lower code ≤ run.lower run.last := by
  simp only [holds, Bool.and_eq_true, decide_eq_true_eq] at h
  simp only [lower]
  omega

/-- They are code points of characters, from that of `a` on. -/
theorem lowerRuns_image : ∀ run ∈ lowerRuns, 0x61 ≤ run.image ∧
    (run.lower run.last < 0xD800 ∨ 0xDFFF < run.image ∧ run.lower run.last < 0x110000) := by
  decide +kernel

theorem toNat_lower {run : LowerRun} (hrun : run ∈ lowerRuns) {code : Nat}
    (hcode : run.holds code) : (Char.ofNat (run.lower code)).toNat = run.lower code := by
  obtain ⟨-, hvalid⟩ := lowerRuns_image run hrun
  have hbounds := run.lower_bounds hcode
  have hchar : (run.lower code).isValidChar := by
    simp only [Nat.isValidChar]
    omega
  rw [Char.ofNat, dif_pos hchar]
  rfl

/-- The other run has letters among the code points of the forms, or around
them. There are many pairs of runs, and the kernel computes this comparison
faster than `≤`. -/
def LowerRun.meets (run other : LowerRun) : Bool :=
  Nat.ble run.image other.last && Nat.ble other.first (run.lower run.last)

/-- Where runs and forms meet, every second code point is a letter and the
others are forms. -/
theorem lowerRuns_alternate : ∀ run ∈ lowerRuns, ∀ other ∈ lowerRuns.filter run.meets,
    (run.stride = 2 ∨ run.first = run.last) ∧ other.stride = 2 ∧
      (run.image + other.first) % 2 = 1 := by
  decide +kernel

/-- No form of a run is a letter of a run. -/
theorem not_holds_lower {run other : LowerRun} (hrun : run ∈ lowerRuns)
    (hother : other ∈ lowerRuns) {code : Nat} (hcode : run.holds code) :
    ¬ other.holds (run.lower code) := by
  have hbounds := run.lower_bounds hcode
  simp only [LowerRun.holds, Bool.and_eq_true, decide_eq_true_eq, beq_iff_eq] at hcode ⊢
  obtain ⟨⟨hlow, hhigh⟩, hstep⟩ := hcode
  rintro ⟨⟨hfirst, hlast⟩, hmod⟩
  have hmeets : run.meets other := by
    simp only [LowerRun.meets, Bool.and_eq_true, Nat.ble_eq]
    omega
  obtain ⟨hsteps, htwo, hodd⟩ :=
    lowerRuns_alternate run hrun other (List.mem_filter.mpr ⟨hother, hmeets⟩)
  -- The form is an even number of code points after the image of the run, and an
  -- even number after the first letter of the other run.
  rw [LowerRun.lower] at hfirst hmod
  rw [htwo] at hmod
  rcases hsteps with hstride | hsingle
  · rw [hstride] at hstep
    omega
  · omega

/-- No form of a run is blank, or one of the two letters that are in no run
although they have a lower-case form. -/
theorem lowerRuns_apart : ∀ run ∈ lowerRuns,
    ∀ range ∈ (0x0130, 0x0130) :: (0x03A3, 0x03A3) :: blankRanges,
      run.lower run.last < range.1 ∨ range.2 < run.image := by
  decide +kernel

theorem not_between_of_lower {run : LowerRun} (hrun : run ∈ lowerRuns) {code : Nat}
    (hcode : run.holds code) (range : Nat × Nat)
    (hrange : range ∈ (0x0130, 0x0130) :: (0x03A3, 0x03A3) :: blankRanges) :
    ¬ (range.1 ≤ run.lower code ∧ run.lower code ≤ range.2) := by
  have hapart := lowerRuns_apart run hrun range hrange
  have hbounds := run.lower_bounds hcode
  omega

/-! ## Characters of ASCII -/

/-- What is so for all code points below a bound is so for the characters. -/
theorem forall_of_toNat_lt {p : Char → Prop} {bound : Nat} (h : ∀ n < bound, p (Char.ofNat n))
    {c : Char} (hc : c.toNat < bound) : p c := by
  have hchar := h c.toNat hc
  rwa [Char.ofNat_toNat] at hchar

theorem toNat_le_of_isUpper {c : Char} (h : c.isUpper) : c.toNat ≤ 0x5A :=
  UInt32.le_iff_toNat_le.mp (of_decide_eq_true h).2

theorem toLower_of_not_isUpper {c : Char} (h : ¬ c.isUpper) : c.toLower = c :=
  dif_neg fun hcapital => h (decide_eq_true hcapital)

theorem toLower_of_lt {c : Char} (hc : 0x5A < c.toNat) : c.toLower = c := by
  refine toLower_of_not_isUpper fun h => ?_
  have hle := toNat_le_of_isUpper h
  omega

/-- What does not tell a capital of ASCII from its small letter does not tell
any character from its lower-case form in ASCII. -/
theorem toLower_eq_of_capitals {α : Type} {f : Char → α}
    (h : ∀ n < 26, f (Char.ofNat (0x41 + n)).toLower = f (Char.ofNat (0x41 + n))) (c : Char) :
    f c.toLower = f c := by
  by_cases hc : c.isUpper
  · have hlow : 0x41 ≤ c.toNat := UInt32.le_iff_toNat_le.mp (of_decide_eq_true hc).1
    have hhigh := toNat_le_of_isUpper hc
    have hcapital := h (c.toNat - 0x41) (by omega)
    rwa [Nat.add_sub_cancel' hlow, Char.ofNat_toNat] at hcapital
  · rw [toLower_of_not_isUpper hc]

theorem isBlank_toLower (c : Char) : isBlank c.toLower = isBlank c :=
  toLower_eq_of_capitals (by decide +kernel) c

theorem isCased_toLower (c : Char) : isCased c.toLower = isCased c :=
  toLower_eq_of_capitals (by decide +kernel) c

theorem isCaseIgnorable_toLower (c : Char) : isCaseIgnorable c.toLower = isCaseIgnorable c :=
  toLower_eq_of_capitals (by decide +kernel) c

theorem lowerChar_toLower (c : Char) : lowerChar c.toLower = lowerChar c :=
  toLower_eq_of_capitals (by decide +kernel) c

theorem toLower_eq_sigma_iff {c : Char} : c.toLower = 'Σ' ↔ c = 'Σ' := by
  have hsame := toLower_eq_of_capitals (f := fun c => decide (c = 'Σ')) (by decide +kernel) c
  simpa using hsame

/-! ## One character -/

/-- How a character comes by its lower-case form. -/
inductive Lowers : Char → List Char → Prop
  | ascii {c : Char} : c.toNat < 0x80 → Lowers c [c.toLower]
  | dottedI : Lowers '\u0130' ['i', '\u0307']
  | sigma : Lowers 'Σ' ['σ']
  | letter {c : Char} {run : LowerRun} : run ∈ lowerRuns → run.holds c.toNat →
    Lowers c [Char.ofNat (run.lower c.toNat)]
  | same {c : Char} : (∀ run ∈ lowerRuns, ¬ run.holds c.toNat) → Lowers c [c]

theorem lowers_lowerChar (c : Char) : Lowers c (lowerChar c) := by
  by_cases hascii : c.toNat < 0x80
  · rw [lowerChar, if_pos hascii]
    exact .ascii hascii
  · by_cases hdotted : c = '\u0130'
    · rw [hdotted]
      exact .dottedI
    · by_cases hsigma : c = 'Σ'
      · rw [hsigma]
        exact .sigma
      · cases hfind : lowerRuns.find? (·.holds c.toNat) with
        | none =>
          simp only [lowerChar, if_neg hascii, if_neg hdotted, if_neg hsigma, hfind]
          exact .same (List.find?_eq_none.mp hfind)
        | some run =>
          have hholds := List.find?_some hfind
          simp only [lowerChar, if_neg hascii, if_neg hdotted, if_neg hsigma, hfind]
          exact .letter (List.mem_of_find?_eq_some hfind) hholds

/-- The lower-case form of a character is the character, or else no
character below `a`. -/
theorem eq_or_le_of_mem_lowerChar {c d : Char} (h : d ∈ lowerChar c) : d = c ∨ 0x61 ≤ d.toNat := by
  have hform := lowers_lowerChar c
  generalize lowerChar c = form at h hform
  cases hform with
  | ascii hc =>
    rw [List.mem_singleton.mp h]
    exact forall_of_toNat_lt (p := fun c => c.toLower = c ∨ 0x61 ≤ c.toLower.toNat)
      (by decide +kernel) hc
  | dottedI => exact Or.inr (by rcases List.mem_pair.mp h with rfl | rfl <;> decide)
  | sigma => exact Or.inr (by rw [List.mem_singleton.mp h]; decide)
  | @letter c run hrun hholds =>
    rw [List.mem_singleton.mp h, toNat_lower hrun hholds]
    exact Or.inr (Nat.le_trans (lowerRuns_image run hrun).1 (run.lower_bounds hholds).1)
  | same _ => exact Or.inl (List.mem_singleton.mp h)

theorem lowerChar_ne_nil (c : Char) : lowerChar c ≠ [] := by
  have hform := lowers_lowerChar c
  generalize lowerChar c = form at hform
  cases hform with
  | ascii | dottedI | sigma | letter | same => exact List.cons_ne_nil _ _

/-- A lower-case form that begins below `a` is the character itself. -/
theorem lowerChar_eq_of_head {c d : Char} {ds : List Char} (h : lowerChar c = d :: ds)
    (hd : d.toNat < 0x61) : c = d ∧ ds = [] := by
  have hmem : d ∈ lowerChar c := by
    rw [h]
    exact List.mem_cons_self
  obtain rfl : d = c := (eq_or_le_of_mem_lowerChar hmem).resolve_right (by omega)
  rw [lowerChar, if_pos (by omega)] at h
  exact ⟨rfl, (List.cons.inj h).2.symm⟩

/-- A digit or a sign is its own lower-case form. -/
theorem lowerChar_of_lt {c : Char} (hc : c.toNat < 0x41) : lowerChar c = [c] :=
  forall_of_toNat_lt (p := fun c => lowerChar c = [c]) (by decide +kernel) hc

/-- A lower-case form is its own lower-case form. -/
theorem lowerChar_of_mem_lowerChar {c d : Char} (h : d ∈ lowerChar c) : lowerChar d = [d] := by
  have hform := lowers_lowerChar c
  generalize hlower : lowerChar c = form at h hform
  cases hform with
  | ascii hc =>
    rw [List.mem_singleton.mp h]
    exact forall_of_toNat_lt (p := fun c => lowerChar c.toLower = [c.toLower])
      (by decide +kernel) hc
  | dottedI => rcases List.mem_pair.mp h with rfl | rfl <;> decide +kernel
  | sigma =>
    rw [List.mem_singleton.mp h]
    decide +kernel
  | @letter c run hrun hholds =>
    have himage := Nat.le_trans (lowerRuns_image run hrun).1 (run.lower_bounds hholds).1
    have hcode := toNat_lower hrun hholds
    rw [List.mem_singleton.mp h]
    generalize Char.ofNat (run.lower c.toNat) = d at hcode
    have hform := lowers_lowerChar d
    generalize lowerChar d = form at hform
    -- None of the rules but the last is for the form of a run.
    cases hform with
    | ascii _ => rw [toLower_of_lt (by omega)]
    | dottedI =>
      refine absurd ?_ (not_between_of_lower hrun hholds (0x0130, 0x0130) (by simp))
      rw [← hcode]
      decide
    | sigma =>
      refine absurd ?_ (not_between_of_lower hrun hholds (0x03A3, 0x03A3) (by simp))
      rw [← hcode]
      decide
    | @letter d other hother hholds' =>
      rw [hcode] at hholds'
      exact absurd hholds' (not_holds_lower hrun hother hholds)
    | same _ => rfl
  | same _ => rw [List.mem_singleton.mp h, hlower]

/-- The lower-case form of a character that is not blank has no blanks. -/
theorem not_isBlank_of_mem_lowerChar {c d : Char} (hc : ¬ isBlank c) (h : d ∈ lowerChar c) :
    ¬ isBlank d := by
  have hform := lowers_lowerChar c
  generalize lowerChar c = form at h hform
  cases hform with
  | ascii _ => rwa [List.mem_singleton.mp h, isBlank_toLower]
  | dottedI => rcases List.mem_pair.mp h with rfl | rfl <;> decide
  | sigma =>
    rw [List.mem_singleton.mp h]
    decide
  | @letter c run hrun hholds =>
    rw [List.mem_singleton.mp h, isBlank, toNat_lower hrun hholds]
    simp only [inRanges, List.any_eq_true, Bool.and_eq_true, decide_eq_true_eq]
    rintro ⟨range, hrange, hin⟩
    exact not_between_of_lower hrun hholds range (by simp [hrange]) hin
  | same _ => rwa [List.mem_singleton.mp h]

/-! ## A text -/

/-- The character is kept, or it is a sigma that gets its final form. -/
def Marks (c d : Char) : Prop :=
  d = c ∨ c = 'Σ' ∧ d = 'ς'

theorem finalSigmas_marks (before cs : List Char) :
    List.Forall₂ Marks cs (finalSigmas before cs) := by
  induction cs generalizing before with
  | nil => exact .nil
  | cons c cs ih =>
    refine .cons ?_ (ih (c :: before))
    split
    · rename_i hsigma
      simp only [Bool.and_eq_true, decide_eq_true_eq] at hsigma
      exact Or.inr ⟨hsigma.1.1, rfl⟩
    · exact Or.inl rfl

/-- Once the final sigmas are marked, a text is lowered character by
character. -/
theorem exists_lower (cs : List Char) :
    ∃ marked, List.Forall₂ Marks cs marked ∧ lower cs = marked.flatMap lowerChar := by
  unfold lower
  split
  · exact ⟨_, finalSigmas_marks [] cs, rfl⟩
  · exact ⟨cs, List.forall₂_same.mpr fun c _ => Or.inl rfl, rfl⟩

theorem mem_of_marks {cs marked : List Char} (h : List.Forall₂ Marks cs marked) {d : Char}
    (hd : d ∈ marked) (hsigma : d ≠ 'ς') : d ∈ cs := by
  induction h with
  | nil => exact hd
  | cons hmark _ ih =>
    rcases List.mem_cons.mp hd with rfl | hd
    · rcases hmark with rfl | ⟨-, rfl⟩
      · exact List.mem_cons_self
      · exact absurd rfl hsigma
    · exact List.mem_cons_of_mem _ (ih hd)

/-- The characters below `a` in a lower-case text stand in the text. -/
theorem mem_of_mem_lower {cs : List Char} {d : Char} (hd : d ∈ lower cs) (hlt : d.toNat < 0x61) :
    d ∈ cs := by
  obtain ⟨marked, hmarked, hlower⟩ := exists_lower cs
  rw [hlower] at hd
  obtain ⟨c, hc, hd⟩ := List.mem_flatMap.mp hd
  obtain rfl : d = c := (eq_or_le_of_mem_lowerChar hd).resolve_right (by omega)
  refine mem_of_marks hmarked hc ?_
  rintro rfl
  exact absurd hlt (by decide)

/-- The digits and signs in front of a lower-case text are those in front
of the text. -/
theorem isPrefix_lower_iff {cs front : List Char} (hfront : ∀ c ∈ front, c.toNat < 0x41) :
    front <+: lower cs ↔ front <+: cs := by
  obtain ⟨marked, hmarked, hlower⟩ := exists_lower cs
  rw [hlower]
  clear hlower
  induction hmarked generalizing front with
  | nil => rfl
  | @cons c d cs marked hmark hmarked ih =>
    cases front with
    | nil => exact iff_of_true List.nil_prefix List.nil_prefix
    | cons e front =>
      have he := hfront e List.mem_cons_self
      have hothers := ih fun c hc => hfront c (List.mem_cons_of_mem _ hc)
      rw [List.flatMap_cons, List.cons_prefix_cons]
      constructor
      · intro h
        obtain ⟨f, fs, hf⟩ := List.exists_cons_of_ne_nil (lowerChar_ne_nil d)
        rw [hf, List.cons_append, List.cons_prefix_cons] at h
        obtain ⟨rfl, h⟩ := h
        obtain ⟨rfl, rfl⟩ := lowerChar_eq_of_head hf (Nat.lt_trans he (by decide))
        have hkept : d = c := by
          rcases hmark with hkept | ⟨-, rfl⟩
          · exact hkept
          · exact absurd he (by decide)
        exact ⟨hkept, hothers.mp h⟩
      · rintro ⟨rfl, h⟩
        have hkept : d = e := by
          rcases hmark with hkept | ⟨rfl, -⟩
          · exact hkept
          · exact absurd he (by decide)
        rw [hkept, lowerChar_of_lt he, List.singleton_append, List.cons_prefix_cons]
        exact ⟨rfl, hothers.mpr h⟩

/-! ## A text in lower case -/

/-- No character of a lower-case text has another form. -/
theorem lowerChar_of_mem_lower {cs : List Char} {c : Char} (h : c ∈ lower cs) :
    lowerChar c = [c] := by
  obtain ⟨marked, -, hlower⟩ := exists_lower cs
  rw [hlower] at h
  obtain ⟨d, -, hd⟩ := List.mem_flatMap.mp h
  exact lowerChar_of_mem_lowerChar hd

/-- A text none of whose characters has another form is in lower case. -/
theorem lower_of_forall {cs : List Char} (h : ∀ c ∈ cs, lowerChar c = [c]) : lower cs = cs := by
  have hsigma : cs.contains 'Σ' = false := by
    rw [List.contains_eq_mem, decide_eq_false_iff_not]
    intro hmem
    exact absurd (h 'Σ' hmem) (by decide)
  rw [lower, hsigma, if_neg (by decide)]
  exact (List.flatMap_congr h).trans (List.flatMap_singleton' cs)

/-- Lower-casing twice is lower-casing once. -/
theorem lower_lower (cs : List Char) : lower (lower cs) = lower cs :=
  lower_of_forall fun _ hc => lowerChar_of_mem_lower hc

/-- A text in lower case has no capitals of ASCII. -/
theorem not_isUpper_of_mem_lower {cs : List Char} {c : Char} (h : c ∈ lower cs) :
    ¬ c.isUpper := by
  intro hupper
  have hascii : c.toNat < 0x5B := Nat.lt_succ_of_le (toNat_le_of_isUpper hupper)
  have hother : c.isUpper → lowerChar c ≠ [c] :=
    forall_of_toNat_lt (p := fun c => c.isUpper → lowerChar c ≠ [c]) (by decide +kernel) hascii
  exact hother hupper (lowerChar_of_mem_lower h)

/-! ## The case of ASCII -/

theorem casedNext_map_toLower (cs : List Char) :
    casedNext (cs.map Char.toLower) = casedNext cs := by
  have hignored : isCaseIgnorable ∘ Char.toLower = isCaseIgnorable := funext isCaseIgnorable_toLower
  rw [casedNext, casedNext, List.dropWhile_map, hignored]
  cases cs.dropWhile isCaseIgnorable with
  | nil => rfl
  | cons c _ => exact isCased_toLower c

theorem finalSigmas_map_toLower (before cs : List Char) :
    finalSigmas (before.map Char.toLower) (cs.map Char.toLower) =
      (finalSigmas before cs).map Char.toLower := by
  induction cs generalizing before with
  | nil => rfl
  | cons c cs ih =>
    have hsigma : decide (c.toLower = 'Σ') = decide (c = 'Σ') :=
      decide_eq_decide.mpr toLower_eq_sigma_iff
    have hothers := ih (c :: before)
    rw [List.map_cons] at hothers
    rw [List.map_cons, finalSigmas, finalSigmas, List.map_cons, hothers, casedNext_map_toLower,
      casedNext_map_toLower, hsigma]
    congr 1
    split
    · decide
    · rfl

/-- A text whose letters of ASCII are in lower case already has the same
lower-case text. -/
theorem lower_map_toLower (cs : List Char) : lower (cs.map Char.toLower) = lower cs := by
  have hforms (ds : List Char) :
      (ds.map Char.toLower).flatMap lowerChar = ds.flatMap lowerChar := by
    rw [List.flatMap_map]
    exact List.flatMap_congr fun c _ => lowerChar_toLower c
  have hsigma : (cs.map Char.toLower).contains 'Σ' = cs.contains 'Σ' := by
    simp [List.contains_eq_mem, toLower_eq_sigma_iff]
  have hmarked := finalSigmas_map_toLower [] cs
  rw [List.map_nil] at hmarked
  rw [lower, lower, hsigma, hmarked]
  split
  · exact hforms _
  · exact hforms _

end DueTime.Text
