/-
DueTime.Proofs.Json.Written — what is written is read back.

A value without numbers that does not nest too deep is read back from its
rendering as it was, whatever its strings hold (`read_render`). The
rendering is one line: no character of it is below U+0020
(`le_toNat_of_mem_render`).

The reader takes the front of its text and leaves the rest, so each piece
is shown to be read off in front of any rest: an escaped character, a
string, the items of an array, the members of an object, and by induction
on the depth a value (`reads_renderChars`). No piece needs to know what
follows it, since each one has an end of its own.
-/
import DueTime.Json.Reader

namespace DueTime.Json

/-! ## Characters -/

theorem hexValue?_hexDigit {n : Nat} (hn : n < 16) : hexValue? (hexDigit n) = some n := by
  revert n
  decide

theorem utf8Size_hexDigit {n : Nat} (hn : n < 16) : (hexDigit n).utf8Size = 1 := by
  revert n
  decide

theorem le_toNat_hexDigit {n : Nat} (hn : n < 16) : 0x20 ≤ (hexDigit n).toNat := by
  revert n
  decide

/-- Four digits are read as the number that they write. -/
theorem readHex_hexDigit {a b c d : Nat} (ha : a < 16) (hb : b < 16) (hc : c < 16) (hd : d < 16)
    (rest : List Char) :
    readHex (hexDigit a :: hexDigit b :: hexDigit c :: hexDigit d :: rest) =
      .ok (16 * (16 * (16 * a + b) + c) + d, rest) := by
  have hbytes : byteCount [hexDigit a, hexDigit b, hexDigit c, hexDigit d] = 4 := by
    simp only [byteCount, List.foldl_cons, List.foldl_nil, utf8Size_hexDigit ha,
      utf8Size_hexDigit hb, utf8Size_hexDigit hc, utf8Size_hexDigit hd]
  have hvalues : [hexDigit a, hexDigit b, hexDigit c, hexDigit d].mapM hexValue? =
      some [a, b, c, d] := by
    simp [hexValue?_hexDigit, ha, hb, hc, hd]
  simp only [readHex, List.take_succ_cons, List.take_zero, List.drop_succ_cons, List.drop_zero,
    hbytes, hvalues, List.foldl_cons, List.foldl_nil]
  simp

/-- A control character is read back from its code. -/
theorem readCode_control {c : Char} (hc : c.toNat < 0x20) (rest : List Char) :
    readCode ('0' :: '0' :: hexDigit (c.toNat / 16) :: hexDigit (c.toNat % 16) :: rest) =
      .ok (c, rest) := by
  have hread := readHex_hexDigit (a := 0) (b := 0) (c := c.toNat / 16) (d := c.toNat % 16)
    (by omega) (by omega) (by omega) (by omega) rest
  have hcode : 16 * (16 * (16 * 0 + 0) + c.toNat / 16) + c.toNat % 16 = c.toNat := by
    omega
  have htrailing : isTrailingSurrogate c.toNat = false := by
    simp only [isTrailingSurrogate, Bool.and_eq_false_iff, decide_eq_false_iff_not]
    omega
  have hleading : isLeadingSurrogate c.toNat = false := by
    simp only [isLeadingSurrogate, Bool.and_eq_false_iff, decide_eq_false_iff_not]
    omega
  rw [hcode] at hread
  have hzero : hexDigit 0 = '0' := rfl
  rw [hzero] at hread
  simp [readCode, hread, htrailing, hleading, bind, Except.bind]

/-- A character stands for itself or is escaped, and what is escaped is
read back. -/
theorem escape_cases (c : Char) :
    (escape c = [c] ∧ c ≠ '"' ∧ c ≠ '\\' ∧ 0x20 ≤ c.toNat) ∨
      ∃ code, escape c = '\\' :: code ∧ (∀ d ∈ code, 0x20 ≤ d.toNat) ∧
        ∀ rest, readEscape (code ++ rest) = .ok (c, rest) := by
  unfold escape
  split
  case h_8 hquote hbackslash _ _ _ _ _ =>
    split
    · rename_i hc
      refine Or.inr ⟨_, rfl, ?_, fun rest => readCode_control hc rest⟩
      have hhigh := le_toNat_hexDigit (show c.toNat / 16 < 16 by omega)
      have hlow := le_toNat_hexDigit (show c.toNat % 16 < 16 by omega)
      simp [hhigh, hlow]
    · rename_i hc
      exact Or.inl ⟨rfl, hquote, hbackslash, Nat.not_lt.mp hc⟩
  all_goals exact Or.inr ⟨_, rfl, by simp, fun rest => rfl⟩

theorem length_le_length_flatMap_escape (cs : List Char) :
    cs.length ≤ (cs.flatMap escape).length := by
  induction cs with
  | nil => exact Nat.le_refl 0
  | cons c cs ih =>
    rw [List.flatMap_cons, List.length_append, List.length_cons]
    rcases escape_cases c with ⟨hself, -⟩ | ⟨code, hcode, -⟩
    · rw [hself, List.length_singleton]
      omega
    · rw [hcode, List.length_cons]
      omega

/-! ## Strings -/

/-- The characters of a string are read back up to the closing quotation
mark. -/
theorem readCharacters_escape (cs done : List Char) {bound : Nat} (hbound : cs.length < bound)
    (rest : List Char) :
    readCharacters done bound (cs.flatMap escape ++ '"' :: rest) =
      .ok (String.ofList (done.reverse ++ cs), rest) := by
  obtain ⟨bound, rfl⟩ := Nat.exists_eq_succ_of_ne_zero (Nat.ne_zero_of_lt hbound)
  induction cs generalizing done bound with
  | nil => simp [readCharacters]
  | cons c cs ih =>
    rw [List.length_cons] at hbound
    obtain ⟨bound, rfl⟩ := Nat.exists_eq_succ_of_ne_zero (show bound ≠ 0 by omega)
    have hrest := ih (c :: done) bound (by omega)
    rw [List.flatMap_cons, List.append_assoc]
    rcases escape_cases c with ⟨hself, hquote, hbackslash, hspace⟩ | ⟨code, hcode, -, hread⟩
    · rw [hself, List.singleton_append, readCharacters, if_neg hquote, if_neg hbackslash,
        if_neg (Nat.not_lt.mpr hspace), hrest]
      simp
    · rw [hcode, List.cons_append, readCharacters, if_neg (by decide), if_pos rfl, hread]
      simp only [bind, Except.bind, hrest]
      simp

theorem quoted_append (s : String) (rest : List Char) :
    quoted s ++ rest = '"' :: (s.toList.flatMap escape ++ '"' :: rest) := by
  simp [quoted]

/-- A string is read back behind its opening quotation mark. -/
theorem readString_escape (s : String) (rest : List Char) :
    readString (s.toList.flatMap escape ++ '"' :: rest) = .ok (s, rest) := by
  have hlength := length_le_length_flatMap_escape s.toList
  rw [readString, readCharacters_escape]
  · simp
  · rw [List.length_append, List.length_cons]
    omega

/-! ## Items and members -/

/-- The reader reads the value back from what is written for it, whatever
follows. -/
def Reads (readValue : ValueReader) (value : Json) : Prop :=
  ∀ rest, readValue (value.renderChars ++ rest) = .ok (value, rest)

/-- Some character stands in front, and it is neither a blank nor a closing
bracket. -/
def Begins (cs : List Char) : Prop :=
  ∃ c rest, cs = c :: rest ∧ c ∉ [' ', '\n', '\t', '\r', ']']

theorem skipBlanks_cons {c : Char} (hc : c ∉ [' ', '\n', '\t', '\r']) (cs : List Char) :
    skipBlanks (c :: cs) = c :: cs := by
  simp only [List.mem_cons, List.not_mem_nil, or_false, not_or] at hc
  simp [skipBlanks, hc]

theorem renderItems_cons_cons (item next : Json) (items : List Json) :
    renderItems (item :: next :: items) = item.renderChars ++ ',' :: renderItems (next :: items) :=
  rfl

theorem renderMembers_cons_cons (member next : String × Json) (members : List (String × Json)) :
    renderMembers (member :: next :: members) =
      quoted member.1 ++ ':' :: member.2.renderChars ++ ',' :: renderMembers (next :: members) :=
  rfl

section
variable {readValue : ValueReader}

/-- Behind a comma the reader goes on with the next item. -/
theorem readItems_comma {item : Json} {cs next : List Char} (hnext : Begins next)
    (hread : readValue cs = .ok (item, ',' :: next)) (bound : Nat) :
    readItems readValue (bound + 1) cs =
      (readItems readValue bound next).map fun (items, rest) => (item :: items, rest) := by
  obtain ⟨c, rest, rfl, hc⟩ := hnext
  simp only [List.mem_cons, List.not_mem_nil, or_false, not_or] at hc
  have hblank : c ∉ [' ', '\n', '\t', '\r'] := by
    simp [hc]
  simp only [readItems, hread, bind, Except.bind]
  rw [skipBlanks_cons (by decide)]
  simp only
  rw [skipBlanks_cons hblank]
  split
  · rename_i heq
    cases heq
  · rename_i heq
    cases heq
    exact absurd rfl hc.2.2.2.2
  · rfl

theorem begins_renderItems {item : Json} (h : Begins item.renderChars) (items : List Json)
    (rest : List Char) : Begins (renderItems (item :: items) ++ rest) := by
  obtain ⟨c, cs, hcs, hc⟩ := h
  cases items with
  | nil => exact ⟨c, _, by rw [renderItems, hcs, List.cons_append], hc⟩
  | cons next items =>
    exact ⟨c, _, by rw [renderItems_cons_cons, hcs, List.cons_append, List.cons_append], hc⟩

theorem length_le_length_renderItems {items : List Json}
    (h : ∀ item ∈ items, Begins item.renderChars) : items.length ≤ (renderItems items).length := by
  induction items with
  | nil => exact Nat.le_refl 0
  | cons item items ih =>
    obtain ⟨c, cs, hcs, -⟩ := h item List.mem_cons_self
    cases items with
    | nil =>
      simp only [renderItems, hcs, List.length_cons, List.length_nil]
      omega
    | cons next items =>
      have hothers := ih fun item hitem => h item (List.mem_cons_of_mem _ hitem)
      simp only [renderItems_cons_cons, hcs, List.length_cons, List.length_append] at hothers ⊢
      omega

/-- The items of an array are read back up to its closing bracket. -/
theorem readItems_renderItems {item : Json} {items : List Json}
    (hreads : ∀ value ∈ item :: items, Reads readValue value)
    (hbegins : ∀ value ∈ items, Begins value.renderChars) {bound : Nat}
    (hbound : items.length < bound) (rest : List Char) :
    readItems readValue bound (renderItems (item :: items) ++ ']' :: rest) =
      .ok (item :: items, rest) := by
  induction items generalizing item bound with
  | nil =>
    obtain ⟨bound, rfl⟩ := Nat.exists_eq_add_one.mpr hbound
    have hitem := hreads item List.mem_cons_self (']' :: rest)
    simp only [renderItems, readItems, hitem, bind, Except.bind]
    rw [skipBlanks_cons (by decide)]
    rfl
  | cons next items ih =>
    obtain ⟨bound, rfl⟩ := Nat.exists_eq_add_one.mpr (Nat.zero_lt_of_lt hbound)
    have hrest := ih (fun value hvalue => hreads value (List.mem_cons_of_mem _ hvalue))
      (fun value hvalue => hbegins value (List.mem_cons_of_mem _ hvalue))
      (Nat.lt_of_succ_lt_succ hbound)
    have hnext := begins_renderItems (hbegins next List.mem_cons_self) items (']' :: rest)
    have hitem := hreads item List.mem_cons_self
      (',' :: (renderItems (next :: items) ++ ']' :: rest))
    rw [renderItems_cons_cons, List.append_assoc, List.cons_append,
      readItems_comma hnext hitem, hrest]
    rfl

/-- A member is read back up to what follows its value. -/
theorem readMemberValue_colon {value : Json} (h : Reads readValue value) (rest : List Char) :
    readMemberValue readValue (':' :: (value.renderChars ++ rest)) = .ok (value, rest) := by
  rw [readMemberValue, skipBlanks_cons (by decide)]
  exact h rest

/-- Behind a comma and a quotation mark the reader goes on with the next
member. -/
theorem readMembers_comma {name : String} {value : Json} {cs afterName next : List Char}
    (hname : readString cs = .ok (name, afterName))
    (hvalue : readMemberValue readValue afterName = .ok (value, ',' :: '"' :: next))
    (bound : Nat) :
    readMembers readValue (bound + 1) cs =
      (readMembers readValue bound next).map
        fun (members, rest) => ((name, value) :: members, rest) := by
  simp only [readMembers, hname, hvalue, bind, Except.bind]
  rw [skipBlanks_cons (by decide)]
  simp only
  rw [skipBlanks_cons (by decide)]
  rfl

theorem length_le_length_renderMembers (members : List (String × Json)) :
    members.length ≤ (renderMembers members).length := by
  induction members with
  | nil => exact Nat.le_refl 0
  | cons member members ih =>
    cases members with
    | nil =>
      simp only [renderMembers, quoted, List.length_cons, List.length_append, List.length_nil]
      omega
    | cons next members =>
      simp only [renderMembers_cons_cons, quoted, List.length_cons, List.length_append] at ih ⊢
      omega

/-- The members of an object are read back up to its closing brace. -/
theorem readMembers_renderMembers {name : String} {value : Json}
    {members : List (String × Json)}
    (hreads : ∀ member ∈ (name, value) :: members, Reads readValue member.2) {bound : Nat}
    (hbound : members.length < bound) (rest : List Char) :
    ∃ cs, renderMembers ((name, value) :: members) = '"' :: cs ∧
      readMembers readValue bound (cs ++ '}' :: rest) = .ok ((name, value) :: members, rest) := by
  have hvalue : Reads readValue value := hreads (name, value) List.mem_cons_self
  induction members generalizing name value bound with
  | nil =>
    obtain ⟨bound, rfl⟩ := Nat.exists_eq_add_one.mpr hbound
    refine ⟨name.toList.flatMap escape ++ '"' :: ':' :: value.renderChars, ?_, ?_⟩
    · simp [renderMembers, quoted]
    · have hname := readString_escape name (':' :: (value.renderChars ++ '}' :: rest))
      simp only [List.append_assoc, List.cons_append, readMembers, hname, bind, Except.bind,
        readMemberValue_colon hvalue]
      rw [skipBlanks_cons (by decide)]
      rfl
  | cons next members ih =>
    obtain ⟨nextName, nextValue⟩ := next
    obtain ⟨bound, rfl⟩ := Nat.exists_eq_add_one.mpr (Nat.zero_lt_of_lt hbound)
    have hothers : ∀ member ∈ (nextName, nextValue) :: members, Reads readValue member.2 :=
      fun member hmember => hreads member (List.mem_cons_of_mem _ hmember)
    obtain ⟨cs, hcs, hread⟩ := ih hothers (Nat.lt_of_succ_lt_succ hbound)
      (hothers _ List.mem_cons_self)
    refine ⟨name.toList.flatMap escape ++ '"' :: ':' :: (value.renderChars ++ ',' :: '"' :: cs),
      ?_, ?_⟩
    · simp [renderMembers_cons_cons, hcs, quoted]
    · have hname := readString_escape name
        (':' :: (value.renderChars ++ (',' :: '"' :: (cs ++ '}' :: rest))))
      simp only [List.append_assoc, List.cons_append]
      rw [readMembers_comma hname (readMemberValue_colon hvalue _), hread]
      rfl

end

/-! ## Values -/

/-- The value has no numbers in it and nests arrays and objects at most so
deep. -/
def Nests : Nat → Json → Prop
  | _, null | _, bool _ | _, string _ => True
  | _, number _ => False
  | 0, array _ | 0, object _ => False
  | depth + 1, array items => ∀ item ∈ items, item.Nests depth
  | depth + 1, object members => ∀ member ∈ members, member.2.Nests depth

/-- Only numbers begin in other ways. -/
theorem Nests.begins {depth : Nat} {value : Json} (h : value.Nests depth) :
    Begins value.renderChars := by
  cases value with
  | null => exact ⟨'n', _, rfl, by decide⟩
  | bool b =>
    cases b with
    | true => exact ⟨'t', _, rfl, by decide⟩
    | false => exact ⟨'f', _, rfl, by decide⟩
  | number literal => cases depth <;> exact h.elim
  | string s => exact ⟨'"', _, rfl, by decide⟩
  | array items => exact ⟨'[', _, rfl, by decide⟩
  | object members => exact ⟨'{', _, rfl, by decide⟩

section
variable {readValue : ValueReader}

/-- An array is read back behind its opening bracket. -/
theorem readArray_renderItems {items : List Json}
    (hreads : ∀ item ∈ items, Reads readValue item)
    (hbegins : ∀ item ∈ items, Begins item.renderChars) (rest : List Char) :
    readArray readValue (renderItems items ++ ']' :: rest) = .ok (.array items, rest) := by
  cases items with
  | nil =>
    rw [renderItems, List.nil_append, readArray, skipBlanks_cons (by decide)]
    rfl
  | cons item items =>
    have hlength := length_le_length_renderItems hbegins
    have hbound : items.length < (renderItems (item :: items) ++ ']' :: rest).length := by
      simp only [List.length_cons, List.length_append] at hlength ⊢
      omega
    have hitems := readItems_renderItems hreads
      (fun value hvalue => hbegins value (List.mem_cons_of_mem _ hvalue)) hbound rest
    obtain ⟨c, cs, hcs, hc⟩ :=
      begins_renderItems (hbegins item List.mem_cons_self) items (']' :: rest)
    rw [hcs] at hitems ⊢
    simp only [List.mem_cons, List.not_mem_nil, or_false, not_or] at hc
    rw [readArray, skipBlanks_cons (by simp [hc])]
    split
    · rename_i heq
      cases heq
    · rename_i heq
      cases heq
      exact absurd rfl hc.2.2.2.2
    · rw [hitems]
      rfl

/-- An object is read back behind its opening brace. -/
theorem readObject_renderMembers {members : List (String × Json)}
    (hreads : ∀ member ∈ members, Reads readValue member.2) (rest : List Char) :
    readObject readValue (renderMembers members ++ '}' :: rest) = .ok (.object members, rest) := by
  cases members with
  | nil =>
    rw [renderMembers, List.nil_append, readObject, skipBlanks_cons (by decide)]
    rfl
  | cons member members =>
    have hlength := length_le_length_renderMembers (member :: members)
    have hbound : members.length <
        (renderMembers (member :: members) ++ '}' :: rest).length - 1 := by
      simp only [List.length_cons, List.length_append] at hlength ⊢
      omega
    obtain ⟨cs, hcs, hread⟩ := readMembers_renderMembers hreads hbound rest
    rw [hcs, List.cons_append] at hread ⊢
    rw [readObject, skipBlanks_cons (by decide)]
    simp only [bind, Except.bind]
    rw [List.length_cons, Nat.add_sub_cancel] at hread
    rw [hread]

end

theorem renderChars_array_append (items : List Json) (rest : List Char) :
    (array items).renderChars ++ rest = '[' :: (renderItems items ++ ']' :: rest) := by
  simp [renderChars]

theorem renderChars_object_append (members : List (String × Json)) (rest : List Char) :
    (object members).renderChars ++ rest = '{' :: (renderMembers members ++ '}' :: rest) := by
  simp [renderChars]

/-- A value that nests no deeper than the reader goes is read back from
what is written for it, in front of anything. -/
theorem reads_renderChars {depth : Nat} {value : Json} (h : value.Nests depth) :
    Reads (readValueWithin depth) value := by
  intro rest
  induction depth using Nat.strongRecOn generalizing value rest with
  | _ depth ih =>
  cases value with
  | null =>
    rw [readValueWithin]
    rfl
  | bool b =>
    rw [readValueWithin]
    cases b with
    | true => rfl
    | false => rfl
  | number literal => cases depth <;> exact h.elim
  | string s =>
    have hs := readString_escape s rest
    rw [renderChars, quoted_append, readValueWithin, skipBlanks_cons (by decide)]
    simp only [hs, bind, Except.bind]
  | array items =>
    cases depth with
    | zero => exact h.elim
    | succ depth =>
      have hitems := readArray_renderItems (fun item hitem rest =>
        ih depth (Nat.lt_succ_self depth) (h item hitem) rest)
        (fun item hitem => (h item hitem).begins) rest
      rw [renderChars_array_append, readValueWithin, skipBlanks_cons (by decide)]
      exact hitems
  | object members =>
    cases depth with
    | zero => exact h.elim
    | succ depth =>
      have hmembers := readObject_renderMembers (fun member hmember rest =>
        ih depth (Nat.lt_succ_self depth) (h member hmember) rest) rest
      rw [renderChars_object_append, readValueWithin, skipBlanks_cons (by decide)]
      exact hmembers

/-- What is written for a value is a text that holds just that value. -/
theorem read_render {value : Json} (h : value.Nests maxDepth) : read value.render = .ok value := by
  have hread := reads_renderChars h []
  rw [List.append_nil] at hread
  simp only [read, readValue, render, String.toList_ofList, hread, bind, Except.bind]
  rfl

/-! ## One line -/

theorem le_toNat_of_mem_quoted {s : String} {c : Char} (hc : c ∈ quoted s) : 0x20 ≤ c.toNat := by
  simp only [quoted, List.mem_append, List.mem_cons, List.mem_flatMap, List.not_mem_nil,
    or_false] at hc
  rcases hc with (rfl | ⟨d, -, hd⟩) | rfl
  · decide
  · rcases escape_cases d with ⟨hself, -, -, hspace⟩ | ⟨code, hcode, hspace, -⟩
    · rw [hself, List.mem_singleton] at hd
      exact hd ▸ hspace
    · rw [hcode, List.mem_cons] at hd
      rcases hd with rfl | hd
      · decide
      · exact hspace c hd
  · decide

theorem mem_renderItems {items : List Json} {c : Char} (hc : c ∈ renderItems items) :
    c = ',' ∨ ∃ item ∈ items, c ∈ item.renderChars := by
  induction items with
  | nil => cases hc
  | cons item items ih =>
    cases items with
    | nil =>
      rw [renderItems] at hc
      exact Or.inr ⟨item, List.mem_cons_self, hc⟩
    | cons next items =>
      rw [renderItems_cons_cons, List.mem_append, List.mem_cons] at hc
      rcases hc with hc | hc | hc
      · exact Or.inr ⟨item, List.mem_cons_self, hc⟩
      · exact Or.inl hc
      · exact (ih hc).imp_right fun ⟨value, hvalue, hmem⟩ =>
          ⟨value, List.mem_cons_of_mem _ hvalue, hmem⟩

theorem mem_renderMembers {members : List (String × Json)} {c : Char}
    (hc : c ∈ renderMembers members) :
    c = ',' ∨ c = ':' ∨ ∃ member ∈ members, c ∈ quoted member.1 ∨ c ∈ member.2.renderChars := by
  induction members with
  | nil => cases hc
  | cons member members ih =>
    cases members with
    | nil =>
      rw [renderMembers, List.mem_append, List.mem_cons] at hc
      rcases hc with hc | hc | hc
      · exact Or.inr (Or.inr ⟨member, List.mem_cons_self, Or.inl hc⟩)
      · exact Or.inr (Or.inl hc)
      · exact Or.inr (Or.inr ⟨member, List.mem_cons_self, Or.inr hc⟩)
    | cons next members =>
      rw [renderMembers_cons_cons, List.append_assoc, List.mem_append, List.cons_append,
        List.mem_cons, List.mem_append, List.mem_cons] at hc
      rcases hc with hc | hc | hc | hc | hc
      · exact Or.inr (Or.inr ⟨member, List.mem_cons_self, Or.inl hc⟩)
      · exact Or.inr (Or.inl hc)
      · exact Or.inr (Or.inr ⟨member, List.mem_cons_self, Or.inr hc⟩)
      · exact Or.inl hc
      · exact (ih hc).imp_right (Or.imp_right fun ⟨other, hother, hmem⟩ =>
          ⟨other, List.mem_cons_of_mem _ hother, hmem⟩)

/-- No control character stands in what is written for a value. -/
theorem le_toNat_of_mem_renderChars {depth : Nat} {value : Json} (h : value.Nests depth) {c : Char}
    (hc : c ∈ value.renderChars) : 0x20 ≤ c.toNat := by
  induction depth using Nat.strongRecOn generalizing value with
  | _ depth ih =>
  cases value with
  | null =>
    have hnull : ∀ c ∈ null.renderChars, 0x20 ≤ c.toNat := by
      simp [renderChars]
    exact hnull c hc
  | bool b =>
    have hbool : ∀ c ∈ (bool b).renderChars, 0x20 ≤ c.toNat := by
      cases b with
      | true => simp [renderChars]
      | false => simp [renderChars]
    exact hbool c hc
  | number literal => cases depth <;> exact h.elim
  | string s => exact le_toNat_of_mem_quoted hc
  | array items =>
    cases depth with
    | zero => exact h.elim
    | succ depth =>
      rw [renderChars, List.cons_append, List.mem_cons, List.mem_append, List.mem_singleton] at hc
      rcases hc with rfl | hc | rfl
      · decide
      · rcases mem_renderItems hc with rfl | ⟨item, hitem, hmem⟩
        · decide
        · exact ih depth (Nat.lt_succ_self depth) (h item hitem) hmem
      · decide
  | object members =>
    cases depth with
    | zero => exact h.elim
    | succ depth =>
      rw [renderChars, List.cons_append, List.mem_cons, List.mem_append, List.mem_singleton] at hc
      rcases hc with rfl | hc | rfl
      · decide
      · rcases mem_renderMembers hc with rfl | rfl | ⟨member, hmember, hmem | hmem⟩
        · decide
        · decide
        · exact le_toNat_of_mem_quoted hmem
        · exact ih depth (Nat.lt_succ_self depth) (h member hmember) hmem
      · decide

theorem le_toNat_of_mem_render {value : Json} (h : value.Nests maxDepth) {c : Char}
    (hc : c ∈ value.render.toList) : 0x20 ≤ c.toNat := by
  rw [render, String.toList_ofList] at hc
  exact le_toNat_of_mem_renderChars h hc

end DueTime.Json
