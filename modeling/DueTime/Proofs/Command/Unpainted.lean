/-
DueTime.Proofs.Command.Unpainted — colored text without its colors.

Text is colored by sequences, each an escape character, a bracket, digits and
an `m`. `unpainted` deletes every sequence that it meets from left to right.
`Fades` says of a text that this makes another text of it, whatever follows;
it holds of a whole text when it holds of the pieces (`Fades.append`,
`Fades.paint`, `Fades.unlines`). A piece with no escape character in it
(`Clear`) is left as it is, and no name, number or message that a report
writes has one, unless it quotes a text that has.
-/
import DueTime.Command.Report
import DueTime.Proofs.Calendar.Iso
import DueTime.Proofs.Text.Blank
import DueTime.Proofs.Token.Normal
import DueTime.Zone.Database

namespace DueTime.Command

open Text (expect expect_eq_some_iff takeWhile_dropWhile_eq_iff)

/-! ## Sequences -/

/-- The characters are a sequence that colors what follows. -/
def IsSequence (cs : List Char) : Prop :=
  ∃ digits, digits ≠ [] ∧ (∀ c ∈ digits, c.isDigit) ∧ cs = '\x1b' :: '[' :: digits ++ ['m']

theorem Paint.isSequence (paint : Paint) : IsSequence paint.sequence.toList := by
  cases paint with
  | bold => exact ⟨['1'], by simp, by simp, rfl⟩
  | dim => exact ⟨['2'], by simp, by simp, rfl⟩
  | green => exact ⟨['3', '2'], by simp, by simp, rfl⟩
  | yellow => exact ⟨['3', '3'], by simp, by simp, rfl⟩
  | red => exact ⟨['3', '1'], by simp, by simp, rfl⟩
  | blue => exact ⟨['3', '4'], by simp, by simp, rfl⟩
  | cyan => exact ⟨['3', '6'], by simp, by simp, rfl⟩
  | gray => exact ⟨['9', '0'], by simp, by simp, rfl⟩

theorem isSequence_reset : IsSequence resetSequence.toList :=
  ⟨['0'], by simp, by simp, rfl⟩

/-- What follows a sequence that stands in front. -/
def behindSequence? (cs : List Char) : Option (List Char) := do
  let rest ← expect ['\x1b', '['] cs
  if (rest.takeWhile Char.isDigit).isEmpty then none
  else expect ['m'] (rest.dropWhile Char.isDigit)

theorem behindSequence?_eq_some_iff {cs rest : List Char} :
    behindSequence? cs = some rest ↔ ∃ s, IsSequence s ∧ cs = s ++ rest := by
  simp only [behindSequence?, Option.bind_eq_bind, Option.bind_eq_some_iff,
    Option.ite_none_left_eq_some, expect_eq_some_iff, List.isEmpty_iff]
  constructor
  · rintro ⟨behind, rfl, hdigits, hrest⟩
    obtain ⟨hbehind, hall, -⟩ := takeWhile_dropWhile_eq_iff.mp ⟨rfl, hrest⟩
    refine ⟨_, ⟨_, hdigits, hall, rfl⟩, ?_⟩
    conv_lhs => rw [hbehind]
    simp
  · rintro ⟨s, ⟨digits, hdigits, hall, rfl⟩, rfl⟩
    obtain ⟨htake, hdrop⟩ := takeWhile_dropWhile_eq_iff.mpr
      (⟨rfl, hall, by simp⟩ : digits ++ 'm' :: rest = digits ++ 'm' :: rest ∧ _ ∧ _)
    refine ⟨digits ++ 'm' :: rest, by simp, ?_, ?_⟩
    · rwa [htake]
    · rw [hdrop]
      rfl

theorem length_lt_of_behindSequence? {cs rest : List Char} (h : behindSequence? cs = some rest) :
    rest.length < cs.length := by
  obtain ⟨s, ⟨digits, -, -, rfl⟩, rfl⟩ := behindSequence?_eq_some_iff.mp h
  simp
  omega

/-- The characters without the sequences among them. -/
def unpainted (cs : List Char) : List Char :=
  match _h : behindSequence? cs with
  | some rest => unpainted rest
  | none =>
    match cs with
    | [] => []
    | c :: cs => c :: unpainted cs
termination_by cs.length
decreasing_by
  · exact length_lt_of_behindSequence? _h
  · exact Nat.lt_succ_self _

theorem unpainted_nil : unpainted [] = [] := by
  rw [unpainted]
  rfl

theorem unpainted_sequence {s : List Char} (hs : IsSequence s) (rest : List Char) :
    unpainted (s ++ rest) = unpainted rest := by
  have hbehind : behindSequence? (s ++ rest) = some rest :=
    behindSequence?_eq_some_iff.mpr ⟨s, hs, rfl⟩
  rw [unpainted]
  split
  · rename_i rest' h
    cases hbehind.symm.trans h
    rfl
  · rename_i h
    cases hbehind.symm.trans h

theorem unpainted_cons {c : Char} (hc : c ≠ '\x1b') (cs : List Char) :
    unpainted (c :: cs) = c :: unpainted cs := by
  rw [unpainted]
  split
  · rename_i rest h
    obtain ⟨s, ⟨digits, -, -, rfl⟩, hsplit⟩ := behindSequence?_eq_some_iff.mp h
    exact absurd (List.cons.inj hsplit).1 hc
  · rfl

theorem unpainted_append {cs : List Char} (hcs : '\x1b' ∉ cs) (rest : List Char) :
    unpainted (cs ++ rest) = cs ++ unpainted rest := by
  induction cs with
  | nil => rfl
  | cons c cs ih =>
    obtain ⟨hc, hothers⟩ := not_or.mp (mt List.mem_cons.mpr hcs)
    rw [List.cons_append, unpainted_cons (Ne.symm hc), ih hothers, List.cons_append]

/-- The text without the sequences in it. -/
def withoutSequences (text : String) : String :=
  String.ofList (unpainted text.toList)

/-! ## Texts that fade -/

/-- No escape character stands in the text. -/
def Clear (text : String) : Prop :=
  '\x1b' ∉ text.toList

instance (text : String) : Decidable (Clear text) :=
  inferInstanceAs (Decidable (_ ∉ _))

/-! ### Clear texts -/

theorem Clear.append {text text' : String} (h : Clear text) (h' : Clear text') :
    Clear (text ++ text') := by
  rw [Clear, String.toList_append, List.mem_append]
  exact not_or.mpr ⟨h, h'⟩

theorem clear_ofList {cs : List Char} : Clear (String.ofList cs) ↔ '\x1b' ∉ cs := by
  rw [Clear, String.toList_ofList]

theorem notMem_paddedDigits {width n : Nat} : '\x1b' ∉ Text.paddedDigits width n :=
  fun h => absurd (Text.isDigit_of_mem_paddedDigits h) (by decide)

theorem clear_toString (n : Nat) : Clear (toString n) := by
  rw [Clear, Nat.toString_eq_repr, Nat.toList_repr]
  exact fun h => absurd (Nat.isDigit_of_mem_toDigits (by decide) (by decide) h) (by decide)

theorem Clear.trims {text s : String} (h : Clear text) (hs : Text.Trims text s) : Clear s := by
  obtain ⟨front, back, hsplit, -, -⟩ := hs.between
  rw [Clear, hsplit] at h
  exact fun hmem => h (List.mem_append_right _ (List.mem_append_left _ hmem))

theorem clear_normalize {token : String} (h : Clear token) : Clear (Token.normalize token) := by
  rw [Token.normalize, clear_ofList]
  intro hmem
  exact h (Text.mem_of_mem_unwords_words (Text.mem_of_mem_lower hmem (by decide)) (by decide))

theorem clear_intercalate {separator : String} {texts : List String} (hseparator : Clear separator)
    (h : ∀ text ∈ texts, Clear text) : Clear (separator.intercalate texts) := by
  rw [Clear, String.toList_intercalate]
  induction texts with
  | nil => exact List.not_mem_nil
  | cons text texts ih =>
    obtain ⟨htext, hothers⟩ := List.forall_mem_cons.mp h
    cases texts with
    | nil => simpa [Clear, List.intercalate] using htext
    | cons next texts =>
      have hrest := ih hothers
      simp only [List.map_cons, List.intercalate, List.intersperse_cons_cons, List.flatten_cons,
        List.mem_append, not_or] at hrest ⊢
      exact ⟨htext, hseparator, hrest⟩

/-! ### The texts of a report -/

theorem clear_of_isName {name : String} (h : Zone.isName name) : Clear name := by
  intro hmem
  unfold Zone.isName at h
  split at h
  · rename_i hnil
    rw [hnil] at hmem
    cases hmem
  · rename_i c cs hcons
    obtain ⟨hc, hcs⟩ := (Bool.and_eq_true _ _).mp h
    rw [hcons] at hmem
    rcases List.mem_cons.mp hmem with rfl | hmem
    · exact absurd hc (by decide)
    · exact absurd (List.all_eq_true.mp hcs _ hmem) (by decide)

theorem clear_name_of_find? {zones : Zone.Database} {name : String} {zone : Zone}
    (h : zones.find? name = some zone) : Clear zone.name := by
  rw [zones.name_eq h]
  exact clear_of_isName (zones.isName h)

theorem notMem_year (y : Int) : '\x1b' ∉ Iso.year y := by
  unfold Iso.year
  split
  · exact notMem_paddedDigits
  · split
    · simp [notMem_paddedDigits]
    · simp [notMem_paddedDigits]

theorem notMem_reading (l : Reading) : '\x1b' ∉ Iso.reading l := by
  simp [Iso.reading, Iso.date, Iso.time, notMem_year, notMem_paddedDigits]

theorem notMem_fraction (nanos : Nat) : '\x1b' ∉ Iso.fraction nanos := by
  unfold Iso.fraction
  split
  · exact List.not_mem_nil
  · split
    · simp [notMem_paddedDigits]
    · split
      · simp [notMem_paddedDigits]
      · simp [notMem_paddedDigits]

theorem notMem_offset (seconds : Int) : '\x1b' ∉ Iso.offset seconds := by
  unfold Iso.offset
  split
  · simp [notMem_paddedDigits]
  · simp [notMem_paddedDigits]

theorem clear_due (t : ZonedTime) : Clear t.due := by
  rw [ZonedTime.due, clear_ofList, List.mem_append]
  exact not_or.mpr ⟨notMem_reading _, notMem_offset _⟩

theorem clear_exact (t : ZonedTime) : Clear t.exact := by
  rw [ZonedTime.exact, clear_ofList, List.mem_append, List.mem_append]
  exact not_or.mpr ⟨not_or.mpr ⟨notMem_reading _, notMem_fraction _⟩, notMem_offset _⟩

theorem clear_rule (r : Resolution) : Clear r.rule := by
  rw [Resolution.rule]
  cases r.pattern <;> simp only [TimePattern.name] <;> decide

theorem clear_message {reason : ResolveError}
    (h : ∀ token, reason = .unrecognized token → Clear token) : Clear reason.message := by
  cases reason with
  | unrecognized token => exact (Clear.append (by decide) (h token rfl)).append (by decide)
  | invalidTime hours minutes =>
    have hdigits (n : Nat) : Clear (String.ofList (Text.paddedDigits 2 n)) :=
      clear_ofList.mpr notMem_paddedDigits
    exact ((Clear.append (by decide) (hdigits hours)).append (by decide)).append (hdigits minutes)
  | pastTime => decide

theorem clear_featureText (features : List Token.Feature) :
    Clear (Report.featureText features) := by
  have hlabel (feature : Token.Feature) : Clear feature.label := by cases feature <;> decide
  refine (Clear.append (by decide) ?_).append (by decide)
  split
  · decide
  · refine clear_intercalate (by decide) fun text htext => ?_
    obtain ⟨feature, -, rfl⟩ := List.mem_map.mp htext
    exact hlabel feature

theorem clear_inUnits {nanos perUnit digits : Nat} {unit : String} (hunit : Clear unit) :
    Clear (inUnits nanos perUnit digits unit) := by
  refine ((clear_toString _).append ?_).append hunit
  split
  · decide
  · refine Clear.append (by decide) (clear_ofList.mpr fun hmem => ?_)
    -- The zeros at the end are left out.
    have hmem := (List.dropWhile_suffix _).subset (List.mem_reverse.mp hmem)
    exact notMem_paddedDigits (List.mem_reverse.mp hmem)

theorem clear_elapsedText (nanos : Nat) : Clear (elapsedText nanos) := by
  unfold elapsedText
  split
  · exact clear_inUnits (by decide)
  · split
    · exact clear_inUnits (by decide)
    · split
      · exact clear_inUnits (by decide)
      · exact (clear_toString _).append (by decide)

/-! ### Texts and paint -/

theorem unlines_cons (line : String) (lines : List String) :
    unlines (line :: lines) = line ++ "\n" ++ unlines lines := by
  simp [unlines]

/-- Without its sequences the first text is the second, whatever follows. -/
def Fades (painted plain : String) : Prop :=
  ∀ rest, unpainted (painted.toList ++ rest) = plain.toList ++ unpainted rest

theorem unlines_append (lines lines' : List String) :
    unlines (lines ++ lines') = unlines lines ++ unlines lines' := by
  simp [unlines]

namespace Fades

variable {painted painted' plain plain' : String}

theorem append (h : Fades painted plain) (h' : Fades painted' plain') :
    Fades (painted ++ painted') (plain ++ plain') := by
  intro rest
  rw [String.toList_append, String.toList_append, List.append_assoc, h, h', List.append_assoc]

theorem of_clear {text : String} (h : Clear text) : Fades text text :=
  unpainted_append h

theorem of_sequence {text : String} (h : IsSequence text.toList) : Fades text "" :=
  unpainted_sequence h

/-- Paint fades, and so does no paint. -/
theorem paint (p : Palette) (paint : Paint) (h : Fades painted plain) :
    Fades (p.paint paint painted) plain := by
  unfold Palette.paint
  split
  · have hpainted := ((of_sequence paint.isSequence).append h).append (of_sequence isSequence_reset)
    rwa [String.empty_append, String.append_empty] at hpainted
  · exact h

theorem colored (p : Palette) (paint : Paint) {text : String} (h : Clear text) :
    Fades (p.paint paint text) text :=
  .paint p paint (of_clear h)

theorem indented (h : Fades painted plain) : Fades ("  " ++ painted) ("  " ++ plain) :=
  (of_clear (by decide)).append h

theorem spaced (h : Fades painted plain) (h' : Fades painted' plain') :
    Fades (painted ++ " " ++ painted') (plain ++ " " ++ plain') :=
  (h.append (of_clear (by decide))).append h'

theorem unlines {painted plain : List String} (h : List.Forall₂ Fades painted plain) :
    Fades (unlines painted) (unlines plain) := by
  induction h with
  | nil => exact fun rest => rfl
  | cons hline _ ih =>
    rw [unlines_cons, unlines_cons]
    exact (hline.append (of_clear (by decide))).append ih

theorem withoutSequences_eq (h : Fades painted plain) : withoutSequences painted = plain := by
  have hend := h []
  rw [List.append_nil, unpainted_nil, List.append_nil] at hend
  rw [withoutSequences, hend, String.ofList_toList]

end Fades

end DueTime.Command
