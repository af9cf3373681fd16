/-
DueTime.Proofs.Command.LastOccurrence — of each option the last occurrence
counts.

An option sets one field of what the arguments say (`Given.field`), and a
field is as the last option says that sets it. `Options.Says` tells this
field by field, so it looks at the options of one field at a time. Options of
different fields may therefore change places (`Reordered`), and the run is the same
(`scan_lastOccurrence`).
-/
import DueTime.Proofs.Command.MachineLine
import DueTime.Proofs.Command.Scan

namespace DueTime.Command

/-! ## Options of one field -/

/-- What an option can set. -/
inductive Field
  | json
  | color
  | value (option : ValueOption)
  deriving Repr, DecidableEq

/-- What the option sets. -/
def Given.field : Given → Field
  | json => .json
  | color _ => .color
  | apart option _ | joined option _ => .value option

theorem Given.field_of_color? {g : Given} (h : (g.color?).isSome) : g.field = .color := by
  cases g with
  | color on => rfl
  | json | apart option text | joined option text => cases h

theorem Given.field_of_value? {option : ValueOption} {g : Given} (h : (g.value? option).isSome) :
    g.field = .value option := by
  cases g with
  | json => cases h
  | color on => cases h
  | apart option' text | joined option' text =>
    by_cases hoption : option' = option
    · rw [← hoption]
      rfl
    · simp [hoption] at h

/-- The options stand in another order, but those that set the same field are
the same, in the same order. -/
def Reordered (given other : List Given) : Prop :=
  ∀ field, given.filter (·.field = field) = other.filter (·.field = field)

section
variable {given other : List Given} (h : Reordered given other)
include h

/-- Then the one list is a permutation of the other. -/
theorem Reordered.perm : given.Perm other := by
  classical
  refine List.perm_iff_count.mpr fun g => ?_
  have hcount (given : List Given) :
      (given.filter (·.field = g.field)).count g = given.count g :=
    List.count_filter (decide_eq_true rfl)
  rw [← hcount given, h g.field, hcount other]

/-- What is asked of the options of one field has the same answers. -/
theorem Reordered.filterMap_eq {α : Type} {f : Given → Option α} {field : Field}
    (hfield : ∀ g, (f g).isSome → g.field = field) : given.filterMap f = other.filterMap f := by
  have honly : f = fun g => if g.field = field then f g else none := by
    funext g
    split
    · rfl
    · rename_i hne
      exact Option.not_isSome_iff_eq_none.mp (mt (hfield g) hne)
  have hfilter (given : List Given) :
      given.filterMap f = (given.filter (·.field = field)).filterMap f := by
    rw [List.filterMap_filter]
    conv_lhs => rw [honly]
    simp
  rw [hfilter given, hfilter other, h field]

theorem Reordered.givenValues_eq (option : ValueOption) :
    givenValues option given = givenValues option other :=
  h.filterMap_eq fun _ => Given.field_of_value?

end

/-! ## What options say -/

/-- What options and the token behind them say: of each option the last
occurrence, and of `--color` and `--no-color` the last of the two. -/
structure Options.Says (o : Options) (given : List Given) (token : Option String)
    (terminal : Bool) : Prop where
  json_iff : o.json ↔ .json ∈ given
  color : o.color = (given.filterMap Given.color?).getLast?.getD terminal
  zone : o.zone = (givenValues .zone given).getLast?
  payload : o.payload = (givenValues .payload given).getLast?
  reference : o.reference = (givenValues .reference given).getLast?.bind Timestamp.read?
  token : o.token = token

namespace Options.Says

variable {o o' : Options} {given other : List Given} {token : Option String} {terminal : Bool}

theorem unique (h : o.Says given token terminal) (h' : o'.Says given token terminal) : o = o' := by
  have hjson : o.json = o'.json := Bool.eq_iff_iff.mpr (h.json_iff.trans h'.json_iff.symm)
  obtain ⟨reference, zone, payload, token, color, json⟩ := o
  obtain ⟨reference', zone', payload', token', color', json'⟩ := o'
  rw [Options.mk.injEq]
  exact ⟨h.reference.trans h'.reference.symm, h.zone.trans h'.zone.symm,
    h.payload.trans h'.payload.symm, h.token.trans h'.token.symm, h.color.trans h'.color.symm,
    hjson⟩

theorem reordered (h : o.Says given token terminal) (hother : Reordered given other) :
    o.Says other token terminal where
  json_iff := h.json_iff.trans hother.perm.mem_iff
  color := by rw [h.color, hother.filterMap_eq fun _ => Given.field_of_color?]
  zone := by rw [h.zone, hother.givenValues_eq]
  payload := by rw [h.payload, hother.givenValues_eq]
  reference := by rw [h.reference, hother.givenValues_eq]
  token := h.token

end Options.Says

/-! ## What is read -/

/-- Of references that can all be read the last one is read last. -/
theorem getLast?_givenReferences {given : List Given} (h : ∀ g ∈ given, g.WellFormed) :
    (givenReferences given).getLast? =
      (givenValues .reference given).getLast?.bind Timestamp.read? := by
  have hread : ∀ text ∈ givenValues .reference given, (Timestamp.read? text).isSome := by
    intro text htext
    obtain ⟨g, hg, hvalue⟩ := List.mem_filterMap.mp htext
    exact h g hg text hvalue
  rw [givenReferences]
  rcases List.eq_nil_or_concat (givenValues .reference given) with hnil | ⟨front, last, hlast⟩
  · rw [hnil]
    rfl
  · rw [hlast] at hread ⊢
    obtain ⟨l, hl⟩ := Option.isSome_iff_exists.mp (hread last (by simp))
    simp [hl]

theorem says_heeding {given : List Given} (h : ∀ g ∈ given, g.WellFormed) (token : Option String)
    (terminal : Bool) :
    Options.Says { ({ color := terminal } : Options).heeding given with token } given token
      terminal where
  json_iff := by
    have hjson (g : Given) : g.isJson ↔ g = .json := by cases g <;> simp
    simp only [Options.heeding, Bool.false_or, List.any_eq_true, hjson, exists_eq_right]
  color := by
    simp only [Options.heeding]
    cases (given.filterMap Given.color?).getLast? <;> rfl
  zone := Option.or_none
  payload := Option.or_none
  reference := Option.or_none.trans (getLast?_givenReferences h)
  token := rfl

/-! ## The law -/

section
variable {given : List Given} (hgiven : ∀ g ∈ given, g.WellFormed) {tail : List String}
  {token : Option String} (htail : Closes tail (.ok token)) {around : Surroundings} {o : Options}
  (ho : o.Says given token around.terminal)
include hgiven htail ho

theorem scan_said :
    Options.scan { color := around.terminal } (given.flatMap Given.arguments ++ tail) = .ok o := by
  have hreads : Reads (given.flatMap Given.arguments ++ tail) given (.ok token) :=
    ⟨tail, hgiven, rfl, htail⟩
  rw [hreads.scan_eq, Except.map, Option.or_none, (says_heeding hgiven token _).unique ho]

theorem settings_said :
    settings (given.flatMap Given.arguments ++ tail) around =
      (o.settle around.zones around.zoneVariable).mapError .refused := by
  rw [settings, scan_said hgiven htail ho]
  rfl

end

/-- Options, whatever their values look like, and then nothing more, or a
token with or without `--` in front: of each option the last occurrence
counts, and the order of options that set different fields does not matter,
neither for what the run is to do nor for why it is refused. -/
theorem scan_lastOccurrence {given : List Given} (hgiven : ∀ g ∈ given, g.WellFormed)
    {tail : List String} {token : Option String} (htail : Closes tail (.ok token))
    (around : Surroundings) :
    (∃ o : Options, o.Says given token around.terminal ∧
      Options.scan { color := around.terminal } (given.flatMap Given.arguments ++ tail) = .ok o ∧
      settings (given.flatMap Given.arguments ++ tail) around =
        (o.settle around.zones around.zoneVariable).mapError .refused) ∧
    ∀ other, Reordered given other →
      settings (other.flatMap Given.arguments ++ tail) around =
        settings (given.flatMap Given.arguments ++ tail) around ∧
      ∀ elapsed, run (other.flatMap Given.arguments ++ tail) around elapsed =
        run (given.flatMap Given.arguments ++ tail) around elapsed := by
  have ho := says_heeding hgiven token around.terminal
  refine ⟨⟨_, ho, scan_said hgiven htail ho, settings_said hgiven htail ho⟩, ?_⟩
  intro other hother
  have hwellFormed : ∀ g ∈ other, g.WellFormed :=
    fun g hg => hgiven g (hother.perm.mem_iff.mpr hg)
  have hsettings : settings (other.flatMap Given.arguments ++ tail) around =
      settings (given.flatMap Given.arguments ++ tail) around := by
    rw [settings_said hgiven htail ho,
      settings_said hwellFormed htail (ho.reordered hother)]
  exact ⟨hsettings, fun _ => run_congr hsettings⟩

/-- Two zones, of which the first looks like an option, and two colors. -/
def zonesAndColors : List Given :=
  [.apart .zone "--json", .color true, .json, .apart .reference "2024-01-15T12:30:00",
   .color false, .apart .zone "Europe/Berlin"]

/-- The same with the colors at the end. -/
def zonesThenColors : List Given :=
  [.json, .apart .zone "--json", .apart .reference "2024-01-15T12:30:00",
   .apart .zone "Europe/Berlin", .color true, .color false]

/-- The second zone and the second color count, in either order, and what
follows the first word of the token belongs to it. -/
theorem scan_lastOccurrence_berlin :
    (∀ g ∈ zonesAndColors, g.WellFormed) ∧
      Closes ["-01:00", "--tz"] (.ok (some "-01:00 --tz")) ∧
      Reordered zonesAndColors zonesThenColors ∧
      (∃ o, Options.scan { color := bareSurroundings.terminal }
          (zonesAndColors.flatMap Given.arguments ++ ["-01:00", "--tz"]) = .ok o ∧
        o.zone = some "Europe/Berlin" ∧ o.color = false ∧ o.token = some "-01:00 --tz") ∧
      run (zonesThenColors.flatMap Given.arguments ++ ["-01:00", "--tz"]) bareSurroundings 0 =
        run (zonesAndColors.flatMap Given.arguments ++ ["-01:00", "--tz"]) bareSurroundings 0 := by
  have hgiven : ∀ g ∈ zonesAndColors, g.WellFormed := by decide +kernel
  have htail : Closes ["-01:00", "--tz"] (.ok (some "-01:00 --tz")) := .word rfl
  have hother : Reordered zonesAndColors zonesThenColors := by
    intro field
    cases field with
    | json | color => rfl
    | value option =>
      cases option with
      | reference | zone | payload => rfl
  obtain ⟨⟨o, ho, hscan, -⟩, hreordered⟩ := scan_lastOccurrence hgiven htail bareSurroundings
  exact ⟨hgiven, htail, hother, ⟨o, hscan, ho.zone, ho.color, ho.token⟩,
    (hreordered _ hother).2 0⟩

end DueTime.Command
