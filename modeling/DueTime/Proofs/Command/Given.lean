/-
DueTime.Proofs.Command.Given — options as they are given.

`Given` is one option with its value, if it takes one, whichever way it is
written. Reading the arguments of options is taking note of them one after
the other (`Options.scan_given`), and when every reference among them can be
read, what remains of them all is the last value of each
(`Options.foldlM_note`).

An argument means one of the flags, or carries a value, or is a word of the
token. `Argument.ofText_eq_word_iff` tells the words: only a dash in front
makes an argument an option, and not even that if a digit comes next.
-/
import DueTime.Command.Options
import DueTime.Proofs.Token.Reader
import Mathlib.Data.Option.Basic

namespace DueTime.Command

/-! ## Single arguments -/

namespace Argument

/-- The arguments that mean something as a whole. -/
def flags : List String :=
  ["-h", "--help", "-V", "--version", "--color", "--no-color", "--json", "--reference", "--tz",
   "--oracle", "--"]

theorem ofText_of_notMem_flags {argument : String} (h : argument ∉ flags) :
    ofText argument = ofOther argument.toList := by
  unfold ofText
  split
  case h_12 => rfl
  all_goals simp [flags] at h

/-- An option's name, an equals sign and the value. -/
def joined (option : ValueOption) (text : String) : String :=
  option.flag ++ "=" ++ text

/-- The value that is taken from an argument that carries one: the name and
the equals sign may be repeated in front of it. -/
def joinedValue (option : ValueOption) (text : String) : String :=
  String.ofList (Text.expectAll (option.flag.toList ++ ['=']) text.toList)

theorem ofText_joined (option : ValueOption) (text : String) :
    ofText (joined option text) = .value option (joinedValue option text) := by
  have hflag : joined option text ∉ flags := by
    intro hmem
    have hequals : ∀ flag ∈ flags, '=' ∉ flag.toList := by decide
    refine hequals _ hmem ?_
    simp [joined]
  rw [ofText_of_notMem_flags hflag, joined]
  cases option with
  | reference => simp [ofOther, carried?, ValueOption.flag, Text.expect, joinedValue]
  | zone => simp [ofOther, carried?, ValueOption.flag, Text.expect, joinedValue]
  | payload => simp [ofOther, carried?, ValueOption.flag, Text.expect, joinedValue]

/-- The argument does not begin with a dash, or a digit comes after the
dash. -/
def wordlike : List Char → Bool
  | ['-'] => false
  | '-' :: c :: _ => c.isDigit
  | _ => true

/-- An argument that carries a value begins with two dashes. -/
theorem not_wordlike_of_carried? {option : ValueOption} {cs : List Char} {a : Argument}
    (h : carried? option cs = some a) : a ≠ .word ∧ wordlike cs = false := by
  obtain ⟨rest, hrest, rfl⟩ := Option.map_eq_some_iff.mp h
  rw [Text.expect_eq_some_iff] at hrest
  subst hrest
  refine ⟨nofun, ?_⟩
  cases option with
  | reference => rfl
  | zone => rfl
  | payload => rfl

/-- An argument that is no flag carries a value, or else only its front
counts. -/
theorem ofOther_cases (cs : List Char) :
    (∃ option, carried? option cs = some (ofOther cs)) ∨
      ofOther cs = if wordlike cs then .word else .unknown := by
  unfold ofOther
  split
  · rename_i a ha
    left
    rcases (Option.orElse_eq_some _ _ _).mp ha with ha | ⟨-, ha⟩
    · exact ⟨_, ha⟩
    · rcases (Option.orElse_eq_some _ _ _).mp ha with ha | ⟨-, ha⟩
      · exact ⟨_, ha⟩
      · exact ⟨_, ha⟩
  · right
    unfold wordlike
    split
    · simp
    · split
      · simp_all
      · simp_all
    · simp_all

theorem ofOther_eq_word_iff {cs : List Char} : ofOther cs = .word ↔ wordlike cs := by
  rcases ofOther_cases cs with ⟨option, hcarried⟩ | hfront
  · obtain ⟨hword, hlike⟩ := not_wordlike_of_carried? hcarried
    simp [hword, hlike]
  · rw [hfront]
    split
    · simp_all
    · simp_all

theorem ofText_eq_word_iff {argument : String} :
    ofText argument = .word ↔ wordlike argument.toList := by
  by_cases hflag : argument ∈ flags
  · have hflags : ∀ flag ∈ flags, ofText flag ≠ .word ∧ wordlike flag.toList = false := by decide
    obtain ⟨hword, hlike⟩ := hflags argument hflag
    simp [hword, hlike]
  · rw [ofText_of_notMem_flags hflag, ofOther_eq_word_iff]

end Argument

/-! ## Options one after the other -/

/-- An option as it is given. -/
inductive Given
  | json
  | color (on : Bool)
  /-- The value is the next argument. -/
  | apart (option : ValueOption) (text : String)
  /-- The value stands behind an equals sign. -/
  | joined (option : ValueOption) (text : String)

namespace Given

/-- The arguments that give the option. -/
def arguments : Given → List String
  | json => ["--json"]
  | color true => ["--color"]
  | color false => ["--no-color"]
  | apart option text => [option.flag, text]
  | joined option text => [Argument.joined option text]

theorem length_arguments_pos (g : Given) : 0 < g.arguments.length := by
  cases g with
  | json => exact Nat.one_pos
  | color on =>
    cases on with
    | true => exact Nat.one_pos
    | false => exact Nat.one_pos
  | apart option text => exact Nat.two_pos
  | joined option text => exact Nat.one_pos

/-- The value that it gives to an option. -/
@[simp] def value? (option : ValueOption) : Given → Option String
  | json | color _ => none
  | apart option' text => if option' = option then some text else none
  | joined option' text =>
    if option' = option then some (Argument.joinedValue option text) else none

/-- What it says about color. -/
@[simp] def color? : Given → Option Bool
  | color on => some on
  | _ => none

/-- It asks for output to other programs. -/
@[simp] def isJson : Given → Bool
  | json => true
  | _ => false

end Given

namespace Options

/-- Takes note of an option. -/
def note (o : Options) : Given → Except Stop Options
  | .json => .ok { o with json := true }
  | .color on => .ok { o with color := on }
  | .apart option text => o.setValue option text
  | .joined option text => o.setValue option (Argument.joinedValue option text)

/-- To read the arguments of an option is to take note of it. -/
theorem scan_arguments (o : Options) (g : Given) (rest : List String) :
    o.scan (g.arguments ++ rest) = o.note g >>= (scan · rest) := by
  cases g with
  | json => rfl
  | color on =>
    cases on with
    | true => rfl
    | false => rfl
  | apart option text =>
    have hflag : Argument.ofText option.flag = .valueFollows option := by
      cases option with
      | reference => rfl
      | zone => rfl
      | payload => rfl
    simp only [Given.arguments, List.cons_append, List.nil_append, scan, hflag, note]
    cases o.setValue option text with
    | ok o => rfl
    | error stop => rfl
  | joined option text =>
    simp only [Given.arguments, List.cons_append, List.nil_append, scan, Argument.ofText_joined,
      note]
    cases o.setValue option (Argument.joinedValue option text) with
    | ok o => rfl
    | error stop => rfl

theorem scan_given (o : Options) (given : List Given) (rest : List String) :
    o.scan (given.flatMap Given.arguments ++ rest) = given.foldlM note o >>= (scan · rest) := by
  induction given generalizing o with
  | nil => rfl
  | cons g given ih =>
    rw [List.flatMap_cons, List.append_assoc, scan_arguments, List.foldlM_cons, bind_assoc]
    exact bind_congr fun o' => ih o'

end Options

/-! ## The last word counts -/

/-- The option can be taken note of: a reference can be read. -/
def Given.WellFormed (g : Given) : Prop :=
  ∀ text ∈ g.value? .reference, (Timestamp.read? text).isSome

instance (g : Given) : Decidable g.WellFormed :=
  inferInstanceAs (Decidable (∀ _ ∈ _, _))

theorem Given.wellFormed_of_valueless {g : Given} (hg : ∀ option, g.value? option = none) :
    g.WellFormed :=
  fun _ htext => nomatch (hg .reference).symm.trans htext

/-- The values that are given to an option. -/
def givenValues (option : ValueOption) (given : List Given) : List String :=
  given.filterMap (Given.value? option)

/-- The references among them that can be read. -/
def givenReferences (given : List Given) : List Reading :=
  (givenValues .reference given).filterMap Timestamp.read?

namespace Options

/-- The options when all that is given has been heeded: of each, what is
given last. -/
def heeding (o : Options) (given : List Given) : Options where
  reference := (givenReferences given).getLast?.or o.reference
  zone := (givenValues .zone given).getLast?.or o.zone
  payload := (givenValues .payload given).getLast?.or o.payload
  token := o.token
  color := ((given.filterMap Given.color?).getLast?.or (some o.color)).getD o.color
  json := o.json || given.any Given.isJson

theorem heeding_nil (o : Options) : o.heeding [] = o := by
  simp [heeding, givenValues, givenReferences]

theorem heeding_append (o : Options) (given more : List Given) :
    (o.heeding given).heeding more = o.heeding (given ++ more) := by
  simp [heeding, givenValues, givenReferences, Option.or_assoc, Bool.or_assoc]

/-- An option without a value changes only how the output is written. -/
theorem heeding_cons_of_valueless (o : Options) {g : Given}
    (hg : ∀ option, g.value? option = none) (given : List Given) :
    o.heeding (g :: given) =
      { o.heeding given with
        color := (o.heeding (g :: given)).color
        json := (o.heeding (g :: given)).json } := by
  simp only [heeding, givenReferences, givenValues, List.filterMap_cons, hg]

theorem heeding_singleton (o : Options) (g : Given) :
    o.heeding [g] =
      { reference := ((g.value? .reference).bind Timestamp.read?).or o.reference
        zone := (g.value? .zone).or o.zone
        payload := (g.value? .payload).or o.payload
        token := o.token
        color := g.color?.getD o.color
        json := o.json || g.isJson } := by
  have hlast {α β : Type} (f : α → Option β) (a : α) : ([a].filterMap f).getLast? = f a := by
    cases h : f a <;> simp [h]
  have hreference : (givenReferences [g]).getLast? =
      (g.value? .reference).bind Timestamp.read? := by
    rw [givenReferences, givenValues, List.filterMap_filterMap, hlast]
  simp only [heeding, hreference, givenValues, hlast, List.any_cons, List.any_nil, Bool.or_false]
  cases g.color? <;> rfl

/-- To take note of an option is to heed it. -/
theorem note_eq (o : Options) {g : Given} (h : g.WellFormed) : o.note g = .ok (o.heeding [g]) := by
  rw [heeding_singleton]
  cases g with
  | json => simp [note]
  | color on => simp [note]
  | apart option text =>
    cases option with
    | reference =>
      obtain ⟨l, hl⟩ := Option.isSome_iff_exists.mp (h text rfl)
      simp [note, setValue, hl]
    | zone => simp [note, setValue]
    | payload => simp [note, setValue]
  | joined option text =>
    cases option with
    | reference =>
      obtain ⟨l, hl⟩ := Option.isSome_iff_exists.mp (h _ rfl)
      simp [note, setValue, hl]
    | zone => simp [note, setValue]
    | payload => simp [note, setValue]

/-- A reference that cannot be read is refused. -/
theorem note_eq_error (o : Options) {g : Given} {text : String}
    (h : g.value? .reference = some text) (hread : Timestamp.read? text = none) :
    o.note g = .error (.refused (.malformedReference text)) := by
  cases g with
  | json => cases h
  | color on => cases h
  | apart option text =>
    cases option with
    | reference =>
      cases h
      simp [note, setValue, hread]
    | zone => cases h
    | payload => cases h
  | joined option text =>
    cases option with
    | reference =>
      cases h
      simp [note, setValue, hread]
    | zone => cases h
    | payload => cases h

/-- Options that are well formed are all heeded. -/
theorem foldlM_note (o : Options) {given : List Given} (h : ∀ g ∈ given, g.WellFormed) :
    given.foldlM note o = .ok (o.heeding given) := by
  induction given generalizing o with
  | nil =>
    rw [heeding_nil]
    rfl
  | cons g given ih =>
    rw [List.foldlM_cons, note_eq o (h g List.mem_cons_self)]
    show given.foldlM note (o.heeding [g]) = _
    rw [ih _ fun g hg => h g (List.mem_cons_of_mem _ hg), heeding_append]
    rfl

/-- After options that are well formed the reader goes on with what they
leave. -/
theorem scan_heeding (o : Options) {given : List Given} (h : ∀ g ∈ given, g.WellFormed)
    (rest : List String) :
    o.scan (given.flatMap Given.arguments ++ rest) = (o.heeding given).scan rest := by
  rw [scan_given, foldlM_note o h]
  rfl

end Options

end DueTime.Command
