/-
DueTime.Proofs.Command.Scan — how the reading of arguments ends.

A list of arguments begins with options that are heeded, and goes on with
something that ends the reading: the token, the end of the options or of
the list, a call for help or for the version, or something that cannot be
read. `Reads` says so without a word about how it is found out. Every list
can be read in this way (`exists_reads`), and what the reader makes of it is
told by the options that were heeded and by how it ends (`Reads.scan_eq`).
-/
import DueTime.Proofs.Command.Given

namespace DueTime.Command

/-! ## How arguments are written -/

namespace Argument

/-- The argument is written in a way that has the meaning. -/
def WrittenAs (argument : String) : Argument → Prop
  | help => argument ∈ ["-h", "--help"]
  | version => argument ∈ ["-V", "--version"]
  | color true => argument = "--color"
  | color false => argument = "--no-color"
  | json => argument = "--json"
  | valueFollows option => argument = option.flag
  | value option text =>
    ∃ carried, argument = joined option carried ∧ text = joinedValue option carried
  | endOfOptions => argument = "--"
  | unknown =>
    argument ∉ flags ∧ (∀ option text, argument ≠ joined option text) ∧
      wordlike argument.toList = false
  | word => wordlike argument.toList

theorem exists_joined_of_carried? {option : ValueOption} {argument : String} {a : Argument}
    (h : carried? option argument.toList = some a) :
    ∃ carried, argument = joined option carried ∧
      a = .value option (joinedValue option carried) := by
  obtain ⟨rest, hrest, rfl⟩ := Option.map_eq_some_iff.mp h
  rw [Text.expect_eq_some_iff] at hrest
  refine ⟨String.ofList rest, ?_, by rw [joinedValue, String.toList_ofList]⟩
  apply String.toList_injective
  simp [joined, hrest]

theorem writtenAs_ofOther {argument : String} (hflag : argument ∉ flags) :
    WrittenAs argument (ofOther argument.toList) := by
  rcases ofOther_cases argument.toList with ⟨option, hcarried⟩ | hfront
  · obtain ⟨carried, hargument, hmeaning⟩ := exists_joined_of_carried? hcarried
    rw [hmeaning]
    exact ⟨carried, hargument, rfl⟩
  · cases hlike : wordlike argument.toList with
    | true =>
      rw [hfront, hlike]
      exact hlike
    | false =>
      have hmeaning : ofOther argument.toList = .unknown := by simp [hfront, hlike]
      rw [hmeaning]
      refine ⟨hflag, ?_, hlike⟩
      rintro option text rfl
      rw [← ofText_of_notMem_flags hflag, ofText_joined] at hmeaning
      cases hmeaning

/-- Every argument is written in a way that has its meaning. -/
theorem writtenAs_ofText (argument : String) : WrittenAs argument (ofText argument) := by
  by_cases hflag : argument ∈ flags
  · simp only [flags, List.mem_cons, List.not_mem_nil, or_false] at hflag
    rcases hflag with rfl | rfl | rfl | rfl | rfl | rfl | rfl | rfl | rfl | rfl | rfl
    all_goals simp [ofText, WrittenAs, ValueOption.flag]
  · rw [ofText_of_notMem_flags hflag]
    exact writtenAs_ofOther hflag

/-- An argument that cannot be read is written in none of the other ways. -/
theorem ofText_of_unknown {argument : String} (h : WrittenAs argument unknown) :
    ofText argument = .unknown := by
  obtain ⟨hflag, hjoined, hlike⟩ := h
  rw [ofText_of_notMem_flags hflag]
  rcases ofOther_cases argument.toList with ⟨option, hcarried⟩ | hfront
  · obtain ⟨carried, hargument, -⟩ := exists_joined_of_carried? hcarried
    exact absurd hargument (hjoined option carried)
  · simp [hfront, hlike]

end Argument

/-! ## The end of the reading -/

/-- The arguments that end the reading, and with what: with a token or with
none, or with the reason why it stops. -/
inductive Closes : List String → Except Stop (Option String) → Prop
  /-- There are no more arguments. -/
  | nothing : Closes [] (.ok none)
  /-- The token begins. -/
  | word {argument : String} {rest : List String} (h : Argument.WrittenAs argument .word) :
    Closes (argument :: rest) (.ok (some (" ".intercalate (argument :: rest))))
  /-- The options end, and the token follows. -/
  | endOfOptions {rest : List String} (h : Text.allBlank (" ".intercalate rest) = false) :
    Closes ("--" :: rest) (.ok (some (" ".intercalate rest)))
  /-- The options end, and only blanks follow. -/
  | blank {rest : List String} (h : Text.allBlank (" ".intercalate rest)) :
    Closes ("--" :: rest) (.ok none)
  | help {argument : String} {rest : List String} (h : Argument.WrittenAs argument .help) :
    Closes (argument :: rest) (.error .help)
  | version {argument : String} {rest : List String} (h : Argument.WrittenAs argument .version) :
    Closes (argument :: rest) (.error .version)
  | unknownOption {argument : String} {rest : List String}
    (h : Argument.WrittenAs argument .unknown) :
    Closes (argument :: rest) (.error (.refused (.unknownOption argument)))
  /-- The last argument is an option that lacks its value. -/
  | missingValue (option : ValueOption) :
    Closes [option.flag] (.error (.refused (.missingValue option.flag)))
  /-- The value given for the reference cannot be read. -/
  | malformedReference {g : Given} {text : String} {rest : List String}
    (h : g.value? .reference = some text) (hread : Timestamp.read? text = none) :
    Closes (g.arguments ++ rest) (.error (.refused (.malformedReference text)))

/-- An option in front is heeded, or its value cannot be read. -/
theorem closes_or_wellFormed (g : Given) (rest : List String) :
    (∃ result, Closes (g.arguments ++ rest) result) ∨ g.WellFormed := by
  cases hvalue : g.value? .reference with
  | none => exact Or.inr fun text htext => nomatch hvalue.symm.trans htext
  | some text =>
    cases hread : Timestamp.read? text with
    | none => exact Or.inl ⟨_, .malformedReference hvalue hread⟩
    | some l =>
      refine Or.inr fun text' htext' => ?_
      cases hvalue.symm.trans htext'
      rw [hread]
      rfl

/-- Every list of arguments ends the reading or begins with an option that
is heeded. -/
theorem closes_or_given (arguments : List String) :
    (∃ result, Closes arguments result) ∨
      ∃ (g : Given) (rest : List String), arguments = g.arguments ++ rest ∧ g.WellFormed := by
  -- An option may stand in front, and its value may still be malformed.
  have hgiven (g : Given) (rest : List String) (harguments : arguments = g.arguments ++ rest) :
      (∃ result, Closes arguments result) ∨
        ∃ (g : Given) (rest : List String), arguments = g.arguments ++ rest ∧ g.WellFormed := by
    subst harguments
    exact (closes_or_wellFormed g rest).imp_right fun hg => ⟨g, rest, rfl, hg⟩
  cases arguments with
  | nil => exact Or.inl ⟨_, .nothing⟩
  | cons argument rest =>
    have hwritten := Argument.writtenAs_ofText argument
    cases hmeaning : Argument.ofText argument with
    | help => exact Or.inl ⟨_, .help (hmeaning ▸ hwritten)⟩
    | version => exact Or.inl ⟨_, .version (hmeaning ▸ hwritten)⟩
    | unknown => exact Or.inl ⟨_, .unknownOption (hmeaning ▸ hwritten)⟩
    | word => exact Or.inl ⟨_, .word (hmeaning ▸ hwritten)⟩
    | endOfOptions =>
      rw [hmeaning] at hwritten
      cases hwritten
      cases hblank : Text.allBlank (" ".intercalate rest) with
      | true => exact Or.inl ⟨_, .blank hblank⟩
      | false => exact Or.inl ⟨_, .endOfOptions hblank⟩
    | json =>
      rw [hmeaning] at hwritten
      cases hwritten
      exact hgiven .json rest rfl
    | color on =>
      rw [hmeaning] at hwritten
      cases on with
      | true =>
        cases hwritten
        exact hgiven (.color true) rest rfl
      | false =>
        cases hwritten
        exact hgiven (.color false) rest rfl
    | value option text =>
      rw [hmeaning] at hwritten
      obtain ⟨carried, rfl, -⟩ := hwritten
      exact hgiven (.joined option carried) rest rfl
    | valueFollows option =>
      rw [hmeaning] at hwritten
      cases hwritten
      cases rest with
      | nil => exact Or.inl ⟨_, .missingValue option⟩
      | cons text rest => exact hgiven (.apart option text) rest rfl

/-- The reader ends with what the arguments end the reading with. -/
theorem Closes.scan_eq {arguments : List String} {result : Except Stop (Option String)}
    (h : Closes arguments result) (o : Options) :
    o.scan arguments = result.map fun token => { o with token := token.or o.token } := by
  have hoptions (option : ValueOption) : Argument.ofText option.flag = .valueFollows option := by
    cases option with
    | reference => rfl
    | zone => rfl
    | payload => rfl
  cases h with
  | nothing => rfl
  | word h =>
    rw [Options.scan, Argument.ofText_eq_word_iff.mpr h]
    rfl
  | endOfOptions h =>
    have hmeaning : Argument.ofText "--" = .endOfOptions := rfl
    rw [Options.scan, hmeaning, Options.setRest, h]
    rfl
  | blank h =>
    have hmeaning : Argument.ofText "--" = .endOfOptions := rfl
    rw [Options.scan, hmeaning, Options.setRest, h]
    rfl
  | help h =>
    simp only [Argument.WrittenAs, List.mem_cons, List.not_mem_nil, or_false] at h
    rcases h with rfl | rfl
    · rfl
    · rfl
  | version h =>
    simp only [Argument.WrittenAs, List.mem_cons, List.not_mem_nil, or_false] at h
    rcases h with rfl | rfl
    · rfl
    · rfl
  | unknownOption h =>
    rw [Options.scan, Argument.ofText_of_unknown h]
    rfl
  | missingValue option =>
    rw [Options.scan, hoptions]
    rfl
  | malformedReference h hread =>
    rw [Options.scan_arguments, Options.note_eq_error o h hread]
    rfl

/-! ## Options in front -/

/-- Options with their values, and calls for help and for the version among
them. -/
inductive OnlyOptions : List String → Prop
  | nil : OnlyOptions []
  | given (g : Given) {front : List String} (h : OnlyOptions front) :
    OnlyOptions (g.arguments ++ front)
  | help {argument : String} {front : List String} (hhelp : Argument.WrittenAs argument .help)
    (h : OnlyOptions front) : OnlyOptions (argument :: front)
  | version {argument : String} {front : List String}
    (hversion : Argument.WrittenAs argument .version) (h : OnlyOptions front) :
    OnlyOptions (argument :: front)

/-- The reading stops at one of the options, or goes on behind them all. -/
theorem OnlyOptions.scan_eq {front : List String} (h : OnlyOptions front) (o : Options) :
    (∃ stop, ∀ rest, o.scan (front ++ rest) = .error stop) ∨
      ∃ o' : Options, ∀ rest, o.scan (front ++ rest) = o'.scan rest := by
  induction h generalizing o with
  | nil => exact Or.inr ⟨o, fun _ => rfl⟩
  | @given g front _ ih =>
    have hscan (rest : List String) :
        o.scan (g.arguments ++ front ++ rest) = o.note g >>= (Options.scan · (front ++ rest)) := by
      rw [List.append_assoc, Options.scan_arguments]
    cases hnote : o.note g with
    | error stop => exact Or.inl ⟨stop, fun rest => by rw [hscan, hnote]; rfl⟩
    | ok o' =>
      rcases ih o' with ⟨stop, hstop⟩ | ⟨o'', hgoes⟩
      · exact Or.inl ⟨stop, fun rest => by rw [hscan, hnote]; exact hstop rest⟩
      · exact Or.inr ⟨o'', fun rest => by rw [hscan, hnote]; exact hgoes rest⟩
  | help hhelp => exact Or.inl ⟨.help, fun rest => (Closes.help hhelp).scan_eq o⟩
  | version hversion => exact Or.inl ⟨.version, fun rest => (Closes.version hversion).scan_eq o⟩

/-! ## Whole lists -/

/-- What arguments are read as: options that are heeded, and how the reading
ends behind them. -/
def Reads (arguments : List String) (given : List Given) (result : Except Stop (Option String)) :
    Prop :=
  ∃ tail, (∀ g ∈ given, g.WellFormed) ∧ arguments = given.flatMap Given.arguments ++ tail ∧
    Closes tail result

theorem Closes.reads {arguments : List String} {result : Except Stop (Option String)}
    (h : Closes arguments result) : Reads arguments [] result :=
  ⟨arguments, nofun, rfl, h⟩

theorem Reads.cons {rest : List String} {given : List Given}
    {result : Except Stop (Option String)} (h : Reads rest given result) {g : Given}
    (hg : g.WellFormed) : Reads (g.arguments ++ rest) (g :: given) result := by
  obtain ⟨tail, hgiven, rfl, hclose⟩ := h
  refine ⟨tail, List.forall_mem_cons.mpr ⟨hg, hgiven⟩, ?_, hclose⟩
  rw [List.flatMap_cons, List.append_assoc]

/-- Every list of arguments can be read. -/
theorem exists_reads (arguments : List String) : ∃ given result, Reads arguments given result := by
  -- By the length, since an option takes one argument or two.
  induction harguments : arguments.length using Nat.strongRecOn generalizing arguments with
  | _ n ih =>
    rcases closes_or_given arguments with ⟨result, hclose⟩ | ⟨g, rest, rfl, hg⟩
    · exact ⟨[], result, hclose.reads⟩
    · have hshorter : rest.length < n := by
        have hpos := g.length_arguments_pos
        rw [List.length_append] at harguments
        omega
      obtain ⟨given, result, h⟩ := ih rest.length hshorter rest rfl
      exact ⟨g :: given, result, h.cons hg⟩

/-- The reader heeds the options, and ends as the reading does. -/
theorem Reads.scan_eq {arguments : List String} {given : List Given}
    {result : Except Stop (Option String)} (h : Reads arguments given result) (o : Options) :
    o.scan arguments =
      result.map fun token => { o.heeding given with token := token.or o.token } := by
  obtain ⟨tail, hgiven, rfl, hclose⟩ := h
  rw [Options.scan_heeding o hgiven, hclose.scan_eq]
  rfl

end DueTime.Command
