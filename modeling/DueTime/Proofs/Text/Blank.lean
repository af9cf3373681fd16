/-
DueTime.Proofs.Text.Blank — what trimming takes off, and what it leaves.

`Trims text s` says, without the functions that do it, that `s` is `text`
less some blanks in front and some behind, and that no more of them could
be taken off. There is exactly one such text, and `trimmed` gives it
(`trimmed_eq_iff`).
-/
import DueTime.Text.Blank

namespace DueTime.Text

/-- The text is `s` between blanks, and `s` neither begins nor ends with
one. -/
structure Trims (text s : String) : Prop where
  between : ∃ front back, text.toList = front ++ (s.toList ++ back) ∧
    (∀ c ∈ front, isBlank c) ∧ ∀ c ∈ back, isBlank c
  head_not_blank : ∀ c ∈ s.toList.head?, ¬ isBlank c
  last_not_blank : ∀ c ∈ s.toList.getLast?, ¬ isBlank c

theorem not_allBlank_iff {text : String} :
    ¬ allBlank text ↔ ∃ c ∈ text.toList, ¬ isBlank c := by
  simp [allBlank, List.all_eq_true]

/-- Something is left of a text that is not blank. -/
theorem Trims.ne_empty {text s : String} (h : Trims text s) (htext : ¬ allBlank text) :
    s ≠ "" := by
  rintro rfl
  obtain ⟨front, back, hsplit, hfront, hback⟩ := h.between
  refine htext ?_
  rw [allBlank, List.all_eq_true, hsplit]
  exact List.forall_mem_append.mpr ⟨hfront, hback⟩

/-! ## Dropping blanks in front -/

section
variable {cs front : List Char}

theorem dropBlanks_append (h : ∀ c ∈ front, isBlank c) :
    dropBlanks (front ++ cs) = dropBlanks cs :=
  List.dropWhile_append_of_pos h

theorem dropBlanks_of_head (h : ∀ c ∈ cs.head?, ¬ isBlank c) : dropBlanks cs = cs := by
  cases cs with
  | nil => rfl
  | cons c cs => exact List.dropWhile_cons_of_neg (h c rfl)

/-- What is dropped is blank, and what is left does not begin with a
blank. -/
theorem exists_append_dropBlanks (cs : List Char) :
    ∃ front, cs = front ++ dropBlanks cs ∧ (∀ c ∈ front, isBlank c) ∧
      ∀ c ∈ (dropBlanks cs).head?, ¬ isBlank c := by
  induction cs with
  | nil => exact ⟨[], by simp [dropBlanks]⟩
  | cons c cs ih =>
    by_cases hc : isBlank c
    · obtain ⟨front, hsplit, hfront, hhead⟩ := ih
      have hdrop : dropBlanks (c :: cs) = dropBlanks cs := List.dropWhile_cons_of_pos hc
      refine ⟨c :: front, ?_, ?_, ?_⟩
      · rw [hdrop, List.cons_append, ← hsplit]
      · intro d hd
        rcases List.mem_cons.mp hd with rfl | hd
        · exact hc
        · exact hfront d hd
      · rwa [hdrop]
    · have hdrop : dropBlanks (c :: cs) = c :: cs := List.dropWhile_cons_of_neg hc
      refine ⟨[], by simp [hdrop], by simp, ?_⟩
      intro d hd
      rw [hdrop] at hd
      cases hd
      exact hc

end

/-! ## Both ends -/

/-- Trimming leaves a text between blanks. -/
theorem trims_trimmed (text : String) : Trims text (trimmed text) := by
  obtain ⟨front, hfront, hfrontBlank, hhead⟩ := exists_append_dropBlanks text.toList
  obtain ⟨back, hback, hbackBlank, hlast⟩ :=
    exists_append_dropBlanks (dropBlanks text.toList).reverse
  have hleft : dropBlanks text.toList = (trimmed text).toList ++ back.reverse := by
    rw [trimmed, String.toList_ofList, ← List.reverse_append, ← hback, List.reverse_reverse]
  refine ⟨⟨front, back.reverse, ?_, hfrontBlank, ?_⟩, ?_, ?_⟩
  · rw [← hleft]
    exact hfront
  · intro c hc
    exact hbackBlank c (List.mem_reverse.mp hc)
  · intro c hc
    refine hhead c ?_
    rw [hleft, List.head?_append, hc]
    rfl
  · intro c hc
    rw [trimmed, String.toList_ofList, List.getLast?_reverse] at hc
    exact hlast c hc

/-- The text that is left is the only one of its kind. -/
theorem trimmed_eq_iff {text s : String} : trimmed text = s ↔ Trims text s := by
  constructor
  · intro h
    rw [← h]
    exact trims_trimmed text
  · intro h
    obtain ⟨front, back, hsplit, hfront, hback⟩ := h.between
    have hback' : ∀ c ∈ back.reverse, isBlank c := by simpa using hback
    rw [← String.toList_inj, trimmed, String.toList_ofList, hsplit, dropBlanks_append hfront]
    by_cases hs : s.toList = []
    · have hnone : dropBlanks back = [] := by
        rw [← List.append_nil back, dropBlanks_append hback]
        rfl
      rw [hs, List.nil_append, hnone]
      rfl
    · have hleft : dropBlanks (s.toList ++ back) = s.toList ++ back := by
        refine dropBlanks_of_head ?_
        rw [List.head?_append, Option.or_of_isSome (by simpa using hs)]
        exact h.head_not_blank
      have hright : dropBlanks s.toList.reverse = s.toList.reverse := by
        refine dropBlanks_of_head ?_
        rw [List.head?_reverse]
        exact h.last_not_blank
      rw [hleft, List.reverse_append, dropBlanks_append hback', hright, List.reverse_reverse]

end DueTime.Text
