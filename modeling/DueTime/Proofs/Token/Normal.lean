/-
DueTime.Proofs.Token.Normal — the normal form of a token is canonical.

Lower-casing takes words to words, so a normal form consists of words that are
joined by single spaces (`exists_normalChars`). They are its words, and they
are in lower case already: a normal form is its own normal form
(`normalChars_normalChars`).

A text is respelled (`Respells`) by giving letters of ASCII another case, by
blanks at its ends, and by other blanks in place of some. That changes no
normal form, however often it is done (`normalChars_of_respells`), and so no
meaning either (`normalize_canonical`).
-/
import DueTime.Proofs.Text.Lowercase
import DueTime.Proofs.Text.Words
import DueTime.Proofs.Token.Classify
import Mathlib.Logic.Relation

namespace DueTime

namespace Text

/-! ## Words in lower case -/

theorem Marks.not_isBlank {c d : Char} (h : Marks c d) (hc : ¬ isBlank c) : ¬ isBlank d := by
  rcases h with rfl | ⟨-, rfl⟩
  · exact hc
  · decide

theorem Marks.eq_space {d : Char} (h : Marks ' ' d) : d = ' ' :=
  h.resolve_right fun hsigma => absurd hsigma.1 (by decide)

theorem not_isBlank_of_mem_lowered {cs marked : List Char} (hcs : ∀ c ∈ cs, ¬ isBlank c)
    (h : List.Forall₂ Marks cs marked) : ∀ d ∈ marked.flatMap lowerChar, ¬ isBlank d := by
  induction h with
  | nil => simp
  | cons hmark _ ih =>
    obtain ⟨hc, hothers⟩ := List.forall_mem_cons.mp hcs
    intro d hd
    rcases List.mem_append.mp hd with hd | hd
    · exact not_isBlank_of_mem_lowerChar (hmark.not_isBlank hc) hd
    · exact ih hothers d hd

/-- A word is lowered to a word. -/
theorem IsWord.lowered {word marked : List Char} (hword : IsWord word)
    (h : List.Forall₂ Marks word marked) : IsWord (marked.flatMap lowerChar) where
  ne_nil := by
    cases h with
    | nil => exact absurd rfl hword.ne_nil
    | cons => simp [lowerChar_ne_nil]
  not_blank := not_isBlank_of_mem_lowered hword.not_blank h

/-- Joined words are lowered to as many joined words. -/
theorem exists_unwords_of_marks {ws : List (List Char)} (hws : ∀ w ∈ ws, IsWord w)
    {marked : List Char} (h : List.Forall₂ Marks (unwords ws) marked) :
    ∃ vs, (∀ v ∈ vs, IsWord v) ∧ vs.length = ws.length ∧
      marked.flatMap lowerChar = unwords vs := by
  induction ws generalizing marked with
  | nil =>
    cases h
    exact ⟨[], by simp, rfl, rfl⟩
  | cons word others ih =>
    obtain ⟨hword, hothers⟩ := List.forall_mem_cons.mp hws
    cases others with
    | nil =>
      rw [unwords_singleton] at h
      refine ⟨[marked.flatMap lowerChar], ?_, rfl, (unwords_singleton _).symm⟩
      exact List.forall_mem_singleton.mpr (hword.lowered h)
    | cons next others =>
      rw [unwords_cons_cons] at h
      -- The marked text is cut where the first word ends.
      have hfront := (List.forall₂_take_append _ _ _ h.flip).flip
      have hback := (List.forall₂_drop_append _ _ _ h.flip).flip
      rw [← List.take_append_drop word.length marked, List.flatMap_append]
      generalize marked.take word.length = front at hfront ⊢
      generalize marked.drop word.length = back at hback ⊢
      cases hback with
      | @cons _ space _ back hspace hback =>
        obtain rfl : space = ' ' := Marks.eq_space hspace
        obtain ⟨vs, hvs, hlength, hback⟩ := ih hothers hback
        obtain ⟨v, vs, rfl⟩ := List.exists_cons_of_length_eq_add_one hlength
        refine ⟨front.flatMap lowerChar :: v :: vs,
          List.forall_mem_cons.mpr ⟨hword.lowered hfront, hvs⟩, by simpa using hlength, ?_⟩
        rw [List.flatMap_cons, hback, unwords_cons_cons, lowerChar_of_lt (by decide)]
        rfl

end Text

namespace Token

open Text

variable {cs ds : List Char}

/-! ## What a normal form consists of -/

/-- A normal form consists of as many words as the text. -/
theorem exists_normalChars (cs : List Char) :
    ∃ vs, (∀ v ∈ vs, IsWord v) ∧ vs.length = (words cs).length ∧ normalChars cs = unwords vs := by
  obtain ⟨marked, hmarked, hlower⟩ := exists_lower (unwords (words cs))
  rw [normalChars, hlower]
  exact exists_unwords_of_marks (fun w hw => isWord_of_mem_words hw) hmarked

/-- It is its own normal form. -/
theorem normalChars_normalChars (cs : List Char) :
    normalChars (normalChars cs) = normalChars cs := by
  obtain ⟨vs, hvs, -, hnormal⟩ := exists_normalChars cs
  have hwords : unwords (words (normalChars cs)) = normalChars cs := by
    rw [hnormal, words_unwords hvs]
  rw [normalChars, hwords]
  exact lower_lower _

theorem singlySpaced_normalChars (cs : List Char) : SinglySpaced (normalChars cs) := by
  obtain ⟨vs, hvs, -, hnormal⟩ := exists_normalChars cs
  rw [hnormal]
  exact singlySpaced_unwords hvs

/-- It is empty if the text has no words. -/
theorem normalChars_eq_nil_iff : normalChars cs = [] ↔ words cs = [] := by
  obtain ⟨vs, hvs, hlength, hnormal⟩ := exists_normalChars cs
  rw [hnormal, unwords_eq_nil_iff hvs, ← List.length_eq_zero_iff, hlength, List.length_eq_zero_iff]

/-! ## Other spellings -/

/-- The text is spelled another way: letters of ASCII are in another case, or
there are more blanks in front or behind, or others in place of some. -/
inductive Respells : List Char → List Char → Prop
  | recase {cs ds : List Char} (h : cs.map Char.toLower = ds.map Char.toLower) : Respells cs ds
  | before {blanks : List Char} (cs : List Char) (h : ∀ c ∈ blanks, isBlank c) :
    Respells cs (blanks ++ cs)
  | behind {blanks : List Char} (cs : List Char) (h : ∀ c ∈ blanks, isBlank c) :
    Respells cs (cs ++ blanks)
  | between {blanks blanks' : List Char} (front back : List Char) (hne : blanks ≠ [])
    (h : ∀ c ∈ blanks, isBlank c) (hne' : blanks' ≠ []) (h' : ∀ c ∈ blanks', isBlank c) :
    Respells (front ++ (blanks ++ back)) (front ++ (blanks' ++ back))

theorem normalChars_map_toLower (cs : List Char) :
    normalChars (cs.map Char.toLower) = normalChars cs := by
  rw [normalChars, words_map isBlank_toLower, unwords_map (by decide), lower_map_toLower,
    normalChars]

theorem normalChars_of_respells (h : Respells cs ds) : normalChars ds = normalChars cs := by
  cases h with
  | recase h => rw [← normalChars_map_toLower, ← h, normalChars_map_toLower]
  | before cs h => rw [normalChars, words_blanks_append h, normalChars]
  | behind cs h => rw [normalChars, words_append_blanks h, normalChars]
  | between front back hne h hne' h' =>
    rw [normalChars, words_append_blanks_append hne' h', normalChars,
      words_append_blanks_append hne h]

/-- A text may be respelled many times over. -/
theorem normalChars_of_reflTransGen (h : Relation.ReflTransGen Respells cs ds) :
    normalChars ds = normalChars cs := by
  induction h with
  | refl => rfl
  | tail _ hstep ih => rw [normalChars_of_respells hstep, ih]

/-- The normal form is canonical. It is its own normal form, without blanks
but single spaces between words and without capitals of ASCII, and it is
empty for a blank token alone. All spellings of a token have the same normal
form, and so the same meaning. -/
theorem normalize_canonical (token : String) :
    normalize (normalize token) = normalize token ∧
    SinglySpaced (normalize token).toList ∧ (∀ c ∈ (normalize token).toList, ¬ c.isUpper) ∧
    (normalize token = "" ↔ allBlank token) ∧
    ∀ spelling : String, Relation.ReflTransGen Respells token.toList spelling.toList →
      normalize spelling = normalize token ∧ classify spelling = classify token := by
  have hchars (t : String) : (normalize t).toList = normalChars t.toList := String.toList_ofList
  refine ⟨?_, ?_, ?_, ?_, ?_⟩
  · rw [normalize, hchars, normalChars_normalChars, normalize]
  · rw [hchars]
    exact singlySpaced_normalChars _
  · rw [hchars]
    exact fun c hc => not_isUpper_of_mem_lower hc
  · rw [← String.toList_inj, hchars, String.toList_empty, normalChars_eq_nil_iff, allBlank_iff]
  · intro spelling hspelling
    have hsame := normalChars_of_reflTransGen hspelling
    rw [normalize, normalize, classify_eq_findSome?, classify_eq_findSome?, hsame]
    exact ⟨rfl, rfl⟩

/-- Another case, a tab and a line break in place of a no-break space, and
blanks at both ends are still tomorrow. -/
theorem normalize_canonical_tomorrow :
    Relation.ReflTransGen Respells "TOMORROW\u00a09:30".toList " Tomorrow\t\n9:30\u3000".toList ∧
    normalize " Tomorrow\t\n9:30\u3000" = normalize "TOMORROW\u00a09:30" ∧
    classify " Tomorrow\t\n9:30\u3000" = classify "TOMORROW\u00a09:30" := by
  have hcase : Respells "TOMORROW\u00a09:30".toList "Tomorrow\u00a09:30".toList :=
    .recase (by decide)
  have hold : ∀ c ∈ ['\u00a0'], isBlank c := List.all_eq_true.mp (by decide)
  have hnew : ∀ c ∈ ['\t', '\n'], isBlank c := List.all_eq_true.mp (by decide)
  have hbetween : Respells "Tomorrow\u00a09:30".toList "Tomorrow\t\n9:30".toList :=
    .between "Tomorrow".toList "9:30".toList (by simp) hold (by simp) hnew
  have hfront : ∀ c ∈ [' '], isBlank c := List.all_eq_true.mp (by decide)
  have hbefore : Respells "Tomorrow\t\n9:30".toList " Tomorrow\t\n9:30".toList :=
    .before _ hfront
  have hback : ∀ c ∈ ['\u3000'], isBlank c := List.all_eq_true.mp (by decide)
  have hbehind : Respells " Tomorrow\t\n9:30".toList " Tomorrow\t\n9:30\u3000".toList :=
    .behind _ hback
  have hspelling := (((Relation.ReflTransGen.single hcase).tail hbetween).tail hbefore).tail hbehind
  obtain ⟨-, -, -, -, hsame⟩ := normalize_canonical "TOMORROW\u00a09:30"
  exact ⟨hspelling, hsame _ hspelling⟩

end Token

end DueTime
