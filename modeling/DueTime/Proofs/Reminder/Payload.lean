/-
DueTime.Proofs.Reminder.Payload — which answer a payload gives.

Of a JSON object only three names matter, and each of them must stand in it
exactly once to count (`StandsOnce`). `HoldsExtracted` and `HoldsFailed`
are the two shapes in these words, and `ofJson?_object_eq_some_iff` says
that an object gives the answer of the first shape if it has it, and else
that of the second. So a name that comes twice spoils the shape that it
belongs to and leaves the other alone, and the order of the members, or
what else is among them, decides nothing.

A text that is not JSON has the reader's error, with one exception: the
value in front is fitted to the shapes before the rest of the text is
looked at, and a value without a shape is told first
(`ofText_trailing_unfit`).
-/
import DueTime.Reminder.Extraction
import Mathlib.Data.List.Basic
import Mathlib.Data.Option.Basic

namespace DueTime

/-- A text is read as a code if and only if the code is written so. -/
theorem FailureCode.ofText?_eq_some_iff {text : String} {code : FailureCode} :
    FailureCode.ofText? text = some code ↔ text = code.text := by
  unfold FailureCode.ofText?
  constructor
  · intro h
    have hfound := List.find?_some h
    simp only [beq_iff_eq] at hfound
    exact hfound.symm
  · intro h
    subst h
    cases code with
    | _ => decide

namespace Extraction

/-! ## Members that count -/

/-- One member of the object has that name, and its value is the given one. -/
def StandsOnce (members : List (String × Json)) (name : String) (value : Json) : Prop :=
  (members.map Prod.fst).count name = 1 ∧ (name, value) ∈ members

/-- As many members have a name as are left when the others are dropped. -/
theorem count_names (members : List (String × Json)) (name : String) :
    (members.map Prod.fst).count name = (members.filter (·.1 == name)).length := by
  induction members with
  | nil => rfl
  | cons member members ih =>
    rw [List.map_cons, List.count_cons, List.filter_cons, ih]
    split
    · rfl
    · rfl

theorem theMember?_eq_some_iff {members : List (String × Json)} {name : String} {value : Json} :
    theMember? name members = some value ↔ StandsOnce members name value := by
  have hmem : (name, value) ∈ members ↔ (name, value) ∈ members.filter (·.1 == name) := by
    simp [List.mem_filter]
  have hnames : ∀ member ∈ members.filter (·.1 == name), member.1 = name := by
    intro member hmember
    simpa using (List.mem_filter.mp hmember).2
  rw [StandsOnce, count_names, hmem, theMember?]
  revert hnames
  cases members.filter (·.1 == name) with
  | nil => simp
  | cons member others =>
    intro hnames
    have hname := hnames member List.mem_cons_self
    cases others with
    | nil => simp [Prod.ext_iff, hname, eq_comm]
    | cons second others => simp

/-! ## The two shapes -/

/-- The object has the shape with an activity. -/
def HoldsExtracted (members : List (String × Json)) (activity timePattern : String) : Prop :=
  StandsOnce members "activity" (.string activity) ∧
    StandsOnce members "timePattern" (.string timePattern)

/-- The object has the shape with a failure code. The code stands as a
string, or as the only name of an object whose value is null. -/
def HoldsFailed (members : List (String × Json)) (code : FailureCode) : Prop :=
  StandsOnce members "error" (.string code.text) ∨
    StandsOnce members "error" (.object [(code.text, .null)])

/-- The value is an object of one of the two shapes. -/
inductive Fits : Json → Prop
  | extracted {members : List (String × Json)} {activity timePattern : String} :
    HoldsExtracted members activity timePattern → Fits (.object members)
  | failed {members : List (String × Json)} {code : FailureCode} :
    HoldsFailed members code → Fits (.object members)

theorem fits_object_iff {members : List (String × Json)} :
    Fits (.object members) ↔
      (∃ activity timePattern, HoldsExtracted members activity timePattern) ∨
        ∃ code, HoldsFailed members code := by
  constructor
  · intro h
    cases h with
    | extracted hshape => exact .inl ⟨_, _, hshape⟩
    | failed hshape => exact .inr ⟨_, hshape⟩
  · intro h
    rcases h with ⟨_, _, hshape⟩ | ⟨_, hshape⟩
    · exact .extracted hshape
    · exact .failed hshape

theorem stringOf?_eq_some_iff {value : Json} {text : String} :
    stringOf? value = some text ↔ value = .string text := by
  cases value with
  | string s => simp [stringOf?]
  | _ => simp [stringOf?]

theorem codeOf?_eq_some_iff {value : Json} {code : FailureCode} :
    codeOf? value = some code ↔
      value = .string code.text ∨ value = .object [(code.text, .null)] := by
  constructor
  · intro h
    unfold codeOf? at h
    split at h
    · exact .inl (congrArg Json.string (FailureCode.ofText?_eq_some_iff.mp h))
    · rw [FailureCode.ofText?_eq_some_iff.mp h]
      exact .inr rfl
    · cases h
  · intro h
    have hcode := FailureCode.ofText?_eq_some_iff.mpr (rfl : code.text = code.text)
    rcases h with h | h
    · rw [h]
      exact hcode
    · rw [h]
      exact hcode

section
variable {members : List (String × Json)} {answer : Extraction}

theorem extractedOf?_eq_some_iff :
    extractedOf? members = some answer ↔
      ∃ activity timePattern, HoldsExtracted members activity timePattern ∧
        answer = .extracted activity timePattern := by
  simp only [extractedOf?, bind, Option.bind_eq_some_iff, theMember?_eq_some_iff,
    stringOf?_eq_some_iff, pure, Option.some.injEq, HoldsExtracted, and_assoc]
  simp [eq_comm]

theorem failedOf?_eq_some_iff :
    failedOf? members = some answer ↔
      ∃ code, HoldsFailed members code ∧ answer = .failed code := by
  simp only [failedOf?, bind, Option.bind_eq_some_iff, theMember?_eq_some_iff,
    codeOf?_eq_some_iff, pure, Option.some.injEq, HoldsFailed, eq_comm (a := answer)]
  constructor
  · intro h
    obtain ⟨code, ⟨value, hvalue, hcode⟩, hanswer⟩ := h
    rcases hcode with rfl | rfl
    · exact ⟨code, .inl hvalue, hanswer⟩
    · exact ⟨code, .inr hvalue, hanswer⟩
  · intro h
    obtain ⟨code, hvalue | hvalue, hanswer⟩ := h
    · exact ⟨code, ⟨_, hvalue, .inl rfl⟩, hanswer⟩
    · exact ⟨code, ⟨_, hvalue, .inr rfl⟩, hanswer⟩

theorem extractedOf?_eq_none_iff :
    extractedOf? members = none ↔
      ¬ ∃ activity timePattern, HoldsExtracted members activity timePattern := by
  rw [← Option.not_isSome_iff_eq_none, Option.isSome_iff_exists]
  simp only [extractedOf?_eq_some_iff]
  refine not_congr ⟨?_, ?_⟩
  · intro h
    obtain ⟨_, activity, timePattern, hshape, -⟩ := h
    exact ⟨activity, timePattern, hshape⟩
  · intro h
    obtain ⟨activity, timePattern, hshape⟩ := h
    exact ⟨_, activity, timePattern, hshape, rfl⟩

theorem failedOf?_eq_none_iff :
    failedOf? members = none ↔ ¬ ∃ code, HoldsFailed members code := by
  rw [← Option.not_isSome_iff_eq_none, Option.isSome_iff_exists]
  simp only [failedOf?_eq_some_iff]
  simp

/-- The first shape wins; the second counts only without it. -/
theorem ofJson?_object_eq_some_iff :
    ofJson? (.object members) = some answer ↔
      (∃ activity timePattern, HoldsExtracted members activity timePattern ∧
        answer = .extracted activity timePattern) ∨
      (¬ ∃ activity timePattern, HoldsExtracted members activity timePattern) ∧
        ∃ code, HoldsFailed members code ∧ answer = .failed code := by
  rw [ofJson?, Option.orElse_eq_some, extractedOf?_eq_some_iff, extractedOf?_eq_none_iff,
    failedOf?_eq_some_iff]

theorem ofJson?_eq_none_iff {value : Json} : ofJson? value = none ↔ ¬ Fits value := by
  cases value with
  | object members =>
    rw [ofJson?, Option.orElse_eq_none, extractedOf?_eq_none_iff, failedOf?_eq_none_iff,
      fits_object_iff, not_or]
  | _ =>
    refine iff_of_true rfl ?_
    intro h
    cases h

end

/-! ## What the shapes look at -/

/-- The names that belong to a shape. -/
def shapeNames : List String :=
  ["activity", "timePattern", "error"]

/-- A member of that name is found among those that belong to a shape, and
their order does not matter. -/
theorem StandsOnce.of_perm {members members' : List (String × Json)} {name : String} {value : Json}
    (hname : name ∈ shapeNames)
    (hperm : (members.filter (·.1 ∈ shapeNames)).Perm (members'.filter (·.1 ∈ shapeNames)))
    (h : StandsOnce members name value) : StandsOnce members' name value := by
  have hsame (list : List (String × Json)) :
      (list.filter (·.1 ∈ shapeNames)).filter (·.1 == name) = list.filter (·.1 == name) := by
    rw [List.filter_filter]
    refine List.filter_congr fun member _ => ?_
    by_cases heq : member.1 = name
    · simp [heq, hname]
    · simp [heq]
  have hfilter : (members.filter (·.1 == name)).Perm (members'.filter (·.1 == name)) := by
    rw [← hsame members, ← hsame members']
    exact hperm.filter _
  obtain ⟨hcount, hmem⟩ := h
  refine ⟨?_, ?_⟩
  · rw [count_names] at hcount ⊢
    rw [← hfilter.length_eq, hcount]
  · have hfound : (name, value) ∈ members'.filter (·.1 == name) :=
      hfilter.subset (List.mem_filter.mpr ⟨hmem, by simp⟩)
    exact (List.mem_filter.mp hfound).1

/-- Two objects with the same members of those names, in whatever order,
give the same answer. -/
theorem ofJson?_object_of_perm {members members' : List (String × Json)}
    (hperm : (members.filter (·.1 ∈ shapeNames)).Perm (members'.filter (·.1 ∈ shapeNames))) :
    ofJson? (.object members) = ofJson? (.object members') := by
  have hmember (name : String) (hname : name ∈ shapeNames) :
      theMember? name members = theMember? name members' := by
    ext value
    rw [theMember?_eq_some_iff, theMember?_eq_some_iff]
    exact ⟨.of_perm hname hperm, .of_perm hname hperm.symm⟩
  simp only [ofJson?, extractedOf?, failedOf?, hmember "activity" (by decide),
    hmember "timePattern" (by decide), hmember "error" (by decide)]

end Extraction

/-! ## Texts -/

/-- A text holds a value when the value stands in front and nothing but
blanks after it. -/
theorem Json.read_eq_ok_iff {text : String} {value : Json} :
    Json.read text = .ok value ↔
      ∃ rest, Json.readValue text = .ok (value, rest) ∧ Json.readEnd rest = .ok () := by
  unfold Json.read
  cases Json.readValue text with
  | error e => simp [bind, Except.bind]
  | ok found =>
    obtain ⟨value', rest⟩ := found
    cases hend : Json.readEnd rest with
    | error e => simp [bind, Except.bind, hend]
    | ok => simp [bind, Except.bind, pure, Except.pure, hend]

/-- A text is not JSON when no value stands in front, or more than blanks
after it. -/
theorem Json.read_eq_error_iff {text : String} {e : Json.Error} :
    Json.read text = .error e ↔
      Json.readValue text = .error e ∨
        ∃ value rest, Json.readValue text = .ok (value, rest) ∧
          Json.readEnd rest = .error e := by
  unfold Json.read
  cases Json.readValue text with
  | error e' => simp [bind, Except.bind]
  | ok found =>
    obtain ⟨value, rest⟩ := found
    cases hend : Json.readEnd rest with
    | error e' => simp [bind, Except.bind, hend]
    | ok => simp [bind, Except.bind, pure, Except.pure, hend]

namespace Extraction

section
variable {text : String} {value : Json} {rest : List Char}

theorem ofText_of_readValue_error {e : Json.Error} (h : Json.readValue text = .error e) :
    ofText text = .error (.malformed e) := by
  simp [ofText, h, bind, Except.bind, Except.mapError]

/-- A value without a shape is told before the rest of the text is looked
at. -/
theorem ofText_of_not_fits (h : Json.readValue text = .ok (value, rest)) (hfits : ¬ Fits value) :
    ofText text = .error .unfit := by
  simp [ofText, h, bind, Except.bind, Except.mapError, ofJson?_eq_none_iff.mpr hfits]

/-- What follows a value that has a shape decides whether the text is
JSON. -/
theorem ofText_of_fits (h : Json.readValue text = .ok (value, rest)) (hfits : Fits value) :
    ∃ answer, ofJson? value = some answer ∧
      (Json.readEnd rest = .ok () → ofText text = .ok answer) ∧
      ∀ e, Json.readEnd rest = .error e → ofText text = .error (.malformed e) := by
  cases hanswer : ofJson? value with
  | none => exact absurd hfits (ofJson?_eq_none_iff.mp hanswer)
  | some answer =>
    refine ⟨answer, rfl, ?_, ?_⟩
    · intro hend
      simp [ofText, h, bind, Except.bind, Except.mapError, hanswer, hend, pure, Except.pure]
    · intro e hend
      simp [ofText, h, bind, Except.bind, Except.mapError, hanswer, hend]

/-- The answer of a text that holds a value is the value's. -/
theorem ofText_of_read (h : Json.read text = .ok value) :
    ofText text = (ofJson? value).elim (.error .unfit) .ok := by
  obtain ⟨rest, hvalue, hend⟩ := Json.read_eq_ok_iff.mp h
  by_cases hfits : Fits value
  · obtain ⟨answer, hanswer, hok, -⟩ := ofText_of_fits hvalue hfits
    rw [hok hend, hanswer, Option.elim_some]
  · rw [ofText_of_not_fits hvalue hfits, ofJson?_eq_none_iff.mpr hfits, Option.elim_none]

theorem ofText_eq_ok_iff_of_read {answer : Extraction} (h : Json.read text = .ok value) :
    ofText text = .ok answer ↔ ofJson? value = some answer := by
  rw [ofText_of_read h]
  cases ofJson? value with
  | none => simp
  | some found => simp

theorem ofText_eq_unfit_iff_of_read (h : Json.read text = .ok value) :
    ofText text = .error .unfit ↔ ¬ Fits value := by
  rw [ofText_of_read h, ← ofJson?_eq_none_iff]
  cases ofJson? value with
  | none => simp
  | some found => simp

/-- A text that is not JSON has the reader's error, unless a value without
a shape stands in front. -/
theorem ofText_of_read_error {e : Json.Error} (h : Json.read text = .error e) :
    ((∃ value rest, Json.readValue text = .ok (value, rest) ∧ ¬ Fits value) →
      ofText text = .error .unfit) ∧
    ((¬ ∃ value rest, Json.readValue text = .ok (value, rest) ∧ ¬ Fits value) →
      ofText text = .error (.malformed e)) := by
  refine ⟨?_, ?_⟩
  · intro hfront
    obtain ⟨value, rest, hvalue, hfits⟩ := hfront
    exact ofText_of_not_fits hvalue hfits
  · intro hfront
    rcases Json.read_eq_error_iff.mp h with hvalue | ⟨value, rest, hvalue, hend⟩
    · exact ofText_of_readValue_error hvalue
    · by_cases hfits : Fits value
      · obtain ⟨answer, -, -, herror⟩ := ofText_of_fits hvalue hfits
        exact herror e hend
      · exact absurd ⟨value, rest, hvalue, hfits⟩ hfront

end

/-! ## The law -/

/-- The answer that a payload gives. An object gives what was extracted if
it holds, once each, an activity and a time pattern that are strings; else
a failure if it holds one member for it that writes a code; else it has no
shape. Nothing else about its members counts. Any other JSON value has no
shape. A text that is not JSON has the reader's error, unless it is what
follows a value without a shape that makes it none. -/
theorem ofText_law :
    (∀ text members, Json.read text = .ok (.object members) →
      (∀ activity timePattern, ofText text = .ok (.extracted activity timePattern) ↔
        HoldsExtracted members activity timePattern) ∧
      (∀ code, ofText text = .ok (.failed code) ↔
        (¬ ∃ activity timePattern, HoldsExtracted members activity timePattern) ∧
          HoldsFailed members code) ∧
      (ofText text = .error .unfit ↔
        (¬ ∃ activity timePattern, HoldsExtracted members activity timePattern) ∧
          ¬ ∃ code, HoldsFailed members code)) ∧
    (∀ text text' members members', Json.read text = .ok (.object members) →
      Json.read text' = .ok (.object members') →
      (members.filter (·.1 ∈ shapeNames)).Perm (members'.filter (·.1 ∈ shapeNames)) →
      ofText text = ofText text') ∧
    (∀ text value, Json.read text = .ok value → (∀ members, value ≠ .object members) →
      ofText text = .error .unfit) ∧
    ∀ text e, Json.read text = .error e →
      ((∃ value rest, Json.readValue text = .ok (value, rest) ∧ ¬ Fits value) →
        ofText text = .error .unfit) ∧
      ((¬ ∃ value rest, Json.readValue text = .ok (value, rest) ∧ ¬ Fits value) →
        ofText text = .error (.malformed e)) := by
  refine ⟨?_, ?_, ?_, fun text e h => ofText_of_read_error h⟩
  · intro text members h
    refine ⟨?_, ?_, ?_⟩
    · intro activity timePattern
      rw [ofText_eq_ok_iff_of_read h, ofJson?_object_eq_some_iff]
      simp
    · intro code
      rw [ofText_eq_ok_iff_of_read h, ofJson?_object_eq_some_iff]
      simp
    · rw [ofText_eq_unfit_iff_of_read h, fits_object_iff, not_or]
  · intro text text' members members' h h' hperm
    rw [ofText_of_read h, ofText_of_read h', ofJson?_object_of_perm hperm]
  · intro text value h hvalue
    rw [ofText_eq_unfit_iff_of_read h]
    intro hfits
    cases hfits with
    | extracted => exact hvalue _ rfl
    | failed => exact hvalue _ rfl

/-- An object of both shapes, with an error that comes twice. -/
def bothShapes : List (String × Json) :=
  [("x", .null), ("timePattern", .string "9"), ("error", .string "NO_TIME"), ("error", .null),
   ("activity", .string "call mom")]

/-- The second error spoils the shape of a failure alone. Read from behind,
the object gives the same; an array gives nothing, whether or not more
stands after it, and half an array is the reader's error. -/
theorem ofText_law_bothShapes :
    Json.read (Json.object bothShapes).render = .ok (.object bothShapes) ∧
      ofText (Json.object bothShapes).render = .ok (.extracted "call mom" "9") ∧
      ofText (Json.object bothShapes.reverse).render =
        ofText (Json.object bothShapes).render ∧
      ofText "[]" = .error .unfit ∧ ofText "[] x" = .error .unfit ∧
      ofText "[" = .error (.malformed ⟨.endInArray, 0⟩) := by
  obtain ⟨hobject, hperm, hother, hmalformed⟩ := ofText_law
  have hread : Json.read (Json.object bothShapes).render = .ok (.object bothShapes) := rfl
  have hreverse : Json.read (Json.object bothShapes.reverse).render =
      .ok (.object bothShapes.reverse) := rfl
  refine ⟨hread, ?_, ?_, ?_, ?_, ?_⟩
  · rw [(hobject _ _ hread).1]
    refine ⟨⟨by decide, ?_⟩, by decide, ?_⟩
    · simp [bothShapes]
    · simp [bothShapes]
  · exact hperm _ _ _ _ hreverse hread ((List.reverse_perm _).filter _)
  · exact hother "[]" (.array []) rfl nofun
  · exact (hmalformed "[] x" ⟨.trailingCharacters, 0⟩ rfl).1 ⟨.array [], _, rfl, nofun⟩
  · refine (hmalformed "[" ⟨.endInArray, 0⟩ rfl).2 ?_
    intro hfront
    obtain ⟨value, rest, hvalue, -⟩ := hfront
    have herror : Json.readValue "[" = .error ⟨.endInArray, 0⟩ := rfl
    rw [herror] at hvalue
    cases hvalue

/-- The text is not JSON, and all the same the error is not the reader's. -/
theorem ofText_trailing_unfit :
    Json.read "[] x" = .error ⟨.trailingCharacters, 0⟩ ∧ ofText "[] x" = .error .unfit ∧
      ¬ ∀ text e, Json.read text = .error e → ofText text = .error (.malformed e) := by
  have hread : Json.read "[] x" = .error ⟨.trailingCharacters, 0⟩ := rfl
  have hunfit : ofText "[] x" = .error .unfit := rfl
  refine ⟨hread, hunfit, ?_⟩
  intro hall
  have hmalformed := hall _ _ hread
  rw [hunfit] at hmalformed
  cases hmalformed

end Extraction

end DueTime
