/-
DueTime.Proofs.Text.Words — how the words of a text go together.

A blank between two texts ends the words of the one before those of the
other begin (`words_append_blank`). So texts joined by spaces have the words
of all of them in order, wherever a text was cut into them
(`words_intercalate`), and words joined by spaces are the words of what they
make (`words_unwords`). It has no blanks but single spaces between words
(`SinglySpaced`).
-/
import DueTime.Text.Blank
import Mathlib.Data.List.Chain
import Mathlib.Data.List.TakeWhile

namespace DueTime.Text

variable {c : Char} {cs word : List Char}

/-! ## One word after another -/

theorem wordsFrom_append_blank (hc : isBlank c) (word cs ds : List Char) :
    wordsFrom word (cs ++ c :: ds) = wordsFrom word cs ++ words ds := by
  induction cs generalizing word with
  | nil =>
    rw [List.nil_append, wordsFrom, wordsFrom, if_pos hc, words]
    split
    · rfl
    · rfl
  | cons d cs ih =>
    rw [List.cons_append, wordsFrom, wordsFrom, ih, ih]
    split
    · split
      · rfl
      · rfl
    · rfl

theorem words_append_blank (hc : isBlank c) (cs ds : List Char) :
    words (cs ++ c :: ds) = words cs ++ words ds :=
  wordsFrom_append_blank hc [] cs ds

/-- Blanks in front of a text are part of no word. -/
theorem words_blanks_append {blanks : List Char} (h : ∀ c ∈ blanks, isBlank c) (cs : List Char) :
    words (blanks ++ cs) = words cs := by
  induction blanks with
  | nil => rfl
  | cons c blanks ih =>
    have hskip : words (c :: (blanks ++ cs)) = words (blanks ++ cs) :=
      words_append_blank (h c List.mem_cons_self) [] (blanks ++ cs)
    rw [List.cons_append, hskip, ih fun d hd => h d (List.mem_cons_of_mem _ hd)]

/-- Neither are blanks between two texts, whichever they are. -/
theorem words_append_blanks_append {blanks : List Char} (hne : blanks ≠ [])
    (h : ∀ c ∈ blanks, isBlank c) (cs ds : List Char) :
    words (cs ++ (blanks ++ ds)) = words cs ++ words ds := by
  obtain ⟨c, others, rfl⟩ := List.exists_cons_of_ne_nil hne
  rw [List.cons_append, words_append_blank (h c List.mem_cons_self),
    words_blanks_append fun d hd => h d (List.mem_cons_of_mem _ hd)]

/-- Neither are blanks behind it. -/
theorem words_append_blanks {blanks : List Char} (h : ∀ c ∈ blanks, isBlank c) (cs : List Char) :
    words (cs ++ blanks) = words cs := by
  cases blanks with
  | nil => rw [List.append_nil]
  | cons c others =>
    have hblanks := words_append_blanks_append (List.cons_ne_nil c others) h cs []
    rwa [List.append_nil, show words [] = [] from rfl, List.append_nil] at hblanks

/-- Texts that are joined by spaces keep their words. -/
theorem words_intercalate (texts : List String) :
    words (" ".intercalate texts).toList = texts.flatMap (words ·.toList) := by
  rw [String.toList_intercalate]
  induction texts with
  | nil => rfl
  | cons text texts ih =>
    cases texts with
    | nil => simp
    | cons next texts =>
      have hspace : isBlank ' ' := by decide
      rw [List.flatMap_cons, ← ih, List.map_cons, List.map_cons, List.intercalate_cons_cons,
        List.append_assoc]
      exact words_append_blank hspace text.toList _

/-! ## The first word -/

/-- A word that has begun goes on to the next blank. -/
theorem wordsFrom_of_ne_nil (hword : word ≠ []) (cs : List Char) :
    wordsFrom word cs =
      (word.reverse ++ cs.takeWhile (!isBlank ·)) :: words (cs.dropWhile (!isBlank ·)) := by
  induction cs generalizing word with
  | nil => simp [wordsFrom, words, hword]
  | cons c cs ih =>
    by_cases hc : isBlank c
    · simp [wordsFrom, words, hc, hword]
    · rw [wordsFrom, if_neg hc, ih (List.cons_ne_nil c word)]
      simp [hc]

/-- A text that does not begin with a blank begins with its first word. -/
theorem words_cons (hc : ¬ isBlank c) (cs : List Char) :
    words (c :: cs) =
      (c :: cs.takeWhile (!isBlank ·)) :: words (cs.dropWhile (!isBlank ·)) := by
  rw [words, wordsFrom, if_neg hc, wordsFrom_of_ne_nil (List.cons_ne_nil c [])]
  rfl

/-! ## Joined words -/

/-- Words that are joined have a space in front of each but the first. -/
theorem unwords_cons (word : List Char) (others : List (List Char)) :
    unwords (word :: others) = word ++ others.flatMap (' ' :: ·) := by
  rw [unwords]
  induction others generalizing word with
  | nil => simp
  | cons next others ih =>
    rw [List.intercalate_cons_cons, ih, List.flatMap_cons]
    simp

theorem unwords_cons_cons (word next : List Char) (others : List (List Char)) :
    unwords (word :: next :: others) = word ++ ' ' :: unwords (next :: others) := by
  rw [unwords, List.intercalate_cons_cons, List.append_assoc]
  rfl

@[simp] theorem unwords_singleton (word : List Char) : unwords [word] = word := by
  rw [unwords_cons]
  simp

/-! ## Words letter by letter -/

section
variable {f : Char → Char}

theorem wordsFrom_map (hf : ∀ c, isBlank (f c) = isBlank c) (word cs : List Char) :
    wordsFrom (word.map f) (cs.map f) = (wordsFrom word cs).map (List.map f) := by
  induction cs generalizing word with
  | nil =>
    simp only [List.map_nil, wordsFrom, List.isEmpty_map]
    split <;> simp
  | cons c cs ih =>
    have hfresh := ih []
    rw [List.map_nil] at hfresh
    simp only [List.map_cons, wordsFrom, List.isEmpty_map, hf, hfresh]
    split
    · split <;> simp
    · exact ih (c :: word)

/-- To change letters, and no blanks, is to change the letters of the words. -/
theorem words_map (hf : ∀ c, isBlank (f c) = isBlank c) (cs : List Char) :
    words (cs.map f) = (words cs).map (List.map f) :=
  wordsFrom_map hf [] cs

theorem unwords_map (hf : f ' ' = ' ') (ws : List (List Char)) :
    unwords (ws.map (List.map f)) = (unwords ws).map f := by
  cases ws with
  | nil => rfl
  | cons word others =>
    rw [List.map_cons, unwords_cons, unwords_cons, List.map_append, List.map_flatMap,
      List.flatMap_map]
    simp [hf]

end

/-! ## No words at all -/

theorem words_eq_nil_iff : words cs = [] ↔ ∀ c ∈ cs, isBlank c := by
  induction cs with
  | nil => simp [words, wordsFrom]
  | cons c cs ih =>
    by_cases hc : isBlank c
    · have hskip : words (c :: cs) = words cs := words_append_blank hc [] cs
      rw [hskip, ih]
      simp [hc]
    · rw [words_cons hc]
      simp [hc]

/-- A text is blank if it has no words. -/
theorem allBlank_iff {text : String} : allBlank text ↔ words text.toList = [] := by
  rw [words_eq_nil_iff, allBlank, List.all_eq_true]

/-! ## Words by themselves -/

/-- A word has characters, and none of them is blank. -/
structure IsWord (word : List Char) : Prop where
  ne_nil : word ≠ []
  not_blank : ∀ c ∈ word, ¬ isBlank c

/-- The characters read of a word make one, if there are any. -/
theorem isWord_reverse (hword : ∀ c ∈ word, ¬ isBlank c) (hne : ¬ word.isEmpty) :
    IsWord word.reverse :=
  ⟨by simpa using hne, fun c hc => hword c (List.mem_reverse.mp hc)⟩

theorem isWord_of_mem_wordsFrom (hword : ∀ c ∈ word, ¬ isBlank c) {w : List Char}
    (hw : w ∈ wordsFrom word cs) : IsWord w := by
  induction cs generalizing word with
  | nil =>
    rw [wordsFrom] at hw
    split at hw
    · cases hw
    · rename_i hne
      rw [List.mem_singleton.mp hw]
      exact isWord_reverse hword hne
  | cons c cs ih =>
    rw [wordsFrom] at hw
    split at hw
    · split at hw
      · exact ih (by simp) hw
      · rename_i hne
        rcases List.mem_cons.mp hw with rfl | hw
        · exact isWord_reverse hword hne
        · exact ih (by simp) hw
    · rename_i hc
      exact ih (List.forall_mem_cons.mpr ⟨hc, hword⟩) hw

theorem isWord_of_mem_words {w : List Char} (hw : w ∈ words cs) : IsWord w :=
  isWord_of_mem_wordsFrom (by simp) hw

theorem mem_of_mem_wordsFrom {w : List Char} (hw : w ∈ wordsFrom word cs) {d : Char} (hd : d ∈ w) :
    d ∈ word ∨ d ∈ cs := by
  induction cs generalizing word with
  | nil =>
    rw [wordsFrom] at hw
    split at hw
    · cases hw
    · rw [List.mem_singleton.mp hw] at hd
      exact Or.inl (List.mem_reverse.mp hd)
  | cons c cs ih =>
    have hothers (hw : w ∈ wordsFrom [] cs) : d ∈ word ∨ d ∈ c :: cs :=
      Or.inr (List.mem_cons_of_mem c ((ih hw).resolve_left List.not_mem_nil))
    rw [wordsFrom] at hw
    split at hw
    · split at hw
      · exact hothers hw
      · rcases List.mem_cons.mp hw with rfl | hw
        · exact Or.inl (List.mem_reverse.mp hd)
        · exact hothers hw
    · simpa [or_assoc, or_left_comm] using ih hw

/-- Nothing but the space between words is new in words that are joined. -/
theorem mem_of_mem_unwords_words {d : Char} (hd : d ∈ unwords (words cs)) (hne : d ≠ ' ') :
    d ∈ cs := by
  have hunwords (ws : List (List Char)) (hd : d ∈ unwords ws) : ∃ w ∈ ws, d ∈ w := by
    induction ws with
    | nil => cases hd
    | cons w ws ih =>
      cases ws with
      | nil =>
        rw [unwords_singleton] at hd
        exact ⟨w, List.mem_cons_self, hd⟩
      | cons next ws =>
        rw [unwords_cons_cons] at hd
        rcases List.mem_append.mp hd with hd | hd
        · exact ⟨w, List.mem_cons_self, hd⟩
        · obtain ⟨v, hv, hd⟩ := ih ((List.mem_cons.mp hd).resolve_left hne)
          exact ⟨v, List.mem_cons_of_mem _ hv, hd⟩
  obtain ⟨w, hw, hd⟩ := hunwords _ hd
  exact (mem_of_mem_wordsFrom hw hd).resolve_left List.not_mem_nil

theorem IsWord.words_eq (h : IsWord word) : words word = [word] := by
  obtain ⟨c, cs, rfl⟩ := List.exists_cons_of_ne_nil h.ne_nil
  have hall : ∀ d ∈ cs, (!isBlank d) = true := fun d hd => by
    simpa using h.not_blank d (List.mem_cons_of_mem _ hd)
  rw [words_cons (h.not_blank c List.mem_cons_self), List.takeWhile_eq_self_iff.mpr hall,
    List.dropWhile_eq_nil_iff.mpr hall]
  rfl

/-- Words that are joined are still the words. -/
theorem words_unwords {ws : List (List Char)} (h : ∀ w ∈ ws, IsWord w) :
    words (unwords ws) = ws := by
  induction ws with
  | nil => rfl
  | cons word others ih =>
    have hword := h word List.mem_cons_self
    cases others with
    | nil => rw [unwords_singleton, hword.words_eq]
    | cons next others =>
      have hspace : isBlank ' ' := by decide
      rw [unwords_cons_cons, words_append_blank hspace, hword.words_eq,
        ih fun w hw => h w (List.mem_cons_of_mem _ hw)]
      rfl

theorem unwords_eq_nil_iff {ws : List (List Char)} (h : ∀ w ∈ ws, IsWord w) :
    unwords ws = [] ↔ ws = [] := by
  constructor
  · intro hempty
    rw [← words_unwords h, hempty]
    rfl
  · rintro rfl
    rfl

/-! ## Spacing -/

/-- The only blanks are single spaces, each between two other characters. -/
structure SinglySpaced (cs : List Char) : Prop where
  eq_space : ∀ c ∈ cs, isBlank c → c = ' '
  head_not_blank : ∀ c ∈ cs.head?, ¬ isBlank c
  last_not_blank : ∀ c ∈ cs.getLast?, ¬ isBlank c
  apart : cs.IsChain fun c d => isBlank c → ¬ isBlank d

theorem IsWord.singlySpaced (h : IsWord word) : SinglySpaced word where
  eq_space c hc hblank := absurd hblank (h.not_blank c hc)
  head_not_blank c hc := h.not_blank c (List.mem_of_mem_head? hc)
  last_not_blank c hc := h.not_blank c (List.mem_of_mem_getLast? hc)
  apart := by
    refine (List.pairwise_of_forall_mem_list ?_).isChain
    intro c hc d hd _
    exact h.not_blank d hd

/-- A space between two texts keeps the spacing. -/
theorem IsWord.singlySpaced_append {ds : List Char} (h : IsWord word) (hds : SinglySpaced ds)
    (hne : ds ≠ []) : SinglySpaced (word ++ ' ' :: ds) where
  eq_space c hc hblank := by
    rcases List.mem_append.mp hc with hc | hc
    · exact absurd hblank (h.not_blank c hc)
    · rcases List.mem_cons.mp hc with rfl | hc
      · rfl
      · exact hds.eq_space c hc hblank
  head_not_blank c hc := by
    obtain ⟨d, others, rfl⟩ := List.exists_cons_of_ne_nil h.ne_nil
    obtain rfl : d = c := by simpa using hc
    exact h.not_blank d List.mem_cons_self
  last_not_blank c hc := by
    obtain ⟨d, others, rfl⟩ := List.exists_cons_of_ne_nil hne
    rw [List.getLast?_append] at hc
    exact hds.last_not_blank c (by simpa using hc)
  apart := by
    refine h.singlySpaced.apart.append (List.isChain_cons.mpr ⟨?_, hds.apart⟩) ?_
    · intro d hd _
      exact hds.head_not_blank d hd
    · intro c hc d _ hblank
      exact absurd hblank (h.singlySpaced.last_not_blank c hc)

theorem singlySpaced_unwords {ws : List (List Char)} (h : ∀ w ∈ ws, IsWord w) :
    SinglySpaced (unwords ws) := by
  induction ws with
  | nil => exact ⟨by simp [unwords], by simp [unwords], by simp [unwords], .nil⟩
  | cons word others ih =>
    have hword := h word List.mem_cons_self
    cases others with
    | nil =>
      rw [unwords_singleton]
      exact hword.singlySpaced
    | cons next others =>
      have hothers : ∀ w ∈ next :: others, IsWord w := fun w hw => h w (List.mem_cons_of_mem _ hw)
      rw [unwords_cons_cons]
      refine hword.singlySpaced_append (ih hothers) ?_
      rw [unwords_cons]
      simp [(hothers next List.mem_cons_self).ne_nil]

end DueTime.Text
