import Afterveda.Rail.Equiv.Arguments

/-!
# The order of the options

A command line of rail-media is a list of option groups: an option with its value, or a flag.  Two
groups of different options write different variables of `parse_args`, so they can be read in either
order; only `--osd-text` and `--no-osd` write the same one.  `parseArgs_perm` says that the order of
the groups does not matter where no option is given twice, and that what is given explicitly is in
the configuration wherever it stands.
-/

namespace Afterveda.Rail

open CText CNumber

/-! ### Groups -/

/-- The name of an option. -/
def ValueOption.name : ValueOption → Bytes
  | .profile => bytes "--profile"
  | .port => bytes "--port"
  | .controlHost => bytes "--control-host"
  | .controlPort => bytes "--control-port"
  | .mount => bytes "--mount"
  | .encoder => bytes "--encoder"
  | .rtspUser => bytes "--rtsp-user"
  | .rtspPassword => bytes "--rtsp-password"
  | .rtspRealm => bytes "--rtsp-realm"
  | .width => bytes "--width"
  | .height => bytes "--height"
  | .fps => bytes "--fps"
  | .bitrateKbps => bytes "--bitrate-kbps"
  | .osdText => bytes "--osd-text"

theorem ValueOption.name_spec (option : ValueOption) :
    valueOption option.name = some option ∧ option.name ≠ bytes "--help" ∧ 0 ∉ option.name := by
  cases option <;> decide

/-- What stands on a command line: an option with its value, or a flag. -/
inductive OptionGroup
  | valued (option : ValueOption) (value : CStr)
  | noOsd
  | help
  deriving DecidableEq

def OptionGroup.name : OptionGroup → Bytes
  | valued option _ => option.name
  | noOsd => bytes "--no-osd"
  | help => bytes "--help"

def OptionGroup.args : OptionGroup → List CStr
  | valued option value => [⟨option.name, option.name_spec.2.2⟩, value]
  | noOsd => [⟨bytes "--no-osd", by decide⟩]
  | help => [⟨bytes "--help", by decide⟩]

/-- The arguments of some groups, in order. -/
def commandLine (groups : List OptionGroup) : List CStr := groups.flatMap OptionGroup.args

/-- No option is given twice, the help is not asked for, and the OSD is not both given a text and
switched off. -/
structure Unambiguous (groups : List OptionGroup) : Prop where
  nodup : (groups.map OptionGroup.name).Nodup
  noHelp : .help ∉ groups
  osd : ¬(bytes "--osd-text" ∈ groups.map OptionGroup.name ∧ .noOsd ∈ groups)

/-! ### What a group does -/

/-- What a group changes of the variables, where `n` is the number that its value is read for. -/
def OptionGroup.write : OptionGroup → ℤ → Options → Options
  | valued .profile value, _, o => { o with profileName := value }
  | valued .port value, _, o => { o with config := { o.config with port := value } }
  | valued .controlHost value, _, o => { o with config := { o.config with controlHost := value } }
  | valued .controlPort value, _, o => { o with config := { o.config with controlPort := value } }
  | valued .mount value, _, o => { o with config := { o.config with mount := value } }
  | valued .encoder value, _, o => { o with encoder := some value.val }
  | valued .rtspUser value, _, o => { o with rtspUser := some value.val }
  | valued .rtspPassword value, _, o => { o with rtspPassword := some value.val }
  | valued .rtspRealm value, _, o => { o with config := { o.config with rtspRealm := value } }
  | valued .width _, n, o => { o with width := some n }
  | valued .height _, n, o => { o with height := some n }
  | valued .fps _, n, o => { o with fps := some n }
  | valued .bitrateKbps _, n, o => { o with bitrateKbps := some n }
  | valued .osdText value, _, o =>
    { o with config := { o.config with osdText := value, osdEnabled := true } }
  | noOsd, _, o => { o with config := { o.config with osdEnabled := false } }
  | help, _, o => o

/-- The number that the value of a group is read for, where it takes one; none where the group ends
the loop. -/
def OptionGroup.number : OptionGroup → Option ℤ
  | valued .width value | valued .height value | valued .fps value | valued .bitrateKbps value =>
    (parseInt value []).toOption
  | help => none
  | _ => some 0

/-- The name of the option is in the message only. -/
theorem parseInt_toOption (value name : Bytes) :
    (parseInt value name).toOption = (parseInt value []).toOption := by
  unfold parseInt
  split
  · split_ifs <;> rfl
  · rfl

theorem set_toOption (option : ValueOption) (value : CStr) (o : Options) :
    (option.set option.name value o).toOption =
      (OptionGroup.valued option value).number.map
        fun n => (OptionGroup.valued option value).write n o := by
  cases option with
  | width | height | fps | bitrateKbps =>
    rw [OptionGroup.number, ← parseInt_toOption value (ValueOption.name _), ValueOption.set]
    cases parseInt value _ <;> rfl
  | _ => rfl

/-- One group read, or the error of an earlier one. -/
def readGroup (o : Option Options) (group : OptionGroup) : Option Options :=
  o.bind fun o => group.number.map (group.write · o)

/-- One group read, after which the loop goes on with the others. -/
theorem readOptions_args (group : OptionGroup) (rest : List Bytes) (o : Options) :
    (readOptions (group.args.map Subtype.val ++ rest) o).toOption =
      (group.number.map (group.write · o)).bind fun o => (readOptions rest o).toOption := by
  cases group with
  | valued option value =>
    obtain ⟨hoption, hhelp, -⟩ := option.name_spec
    have hset := set_toOption option value o
    simp only [OptionGroup.args, List.map_cons, List.map_nil, List.cons_append, List.nil_append]
    rw [readOptions, if_neg hhelp, hoption, ← hset]
    dsimp only
    cases option.set option.name value o <;> rfl
  | noOsd => rfl
  | help => rfl

theorem readOptions_commandLine (groups : List OptionGroup) (o : Options) :
    (readOptions ((commandLine groups).map Subtype.val) o).toOption =
      groups.foldl readGroup (some o) := by
  induction groups generalizing o with
  | nil => rfl
  | cons group groups ih =>
    have hcons : (commandLine (group :: groups)).map Subtype.val =
        group.args.map Subtype.val ++ (commandLine groups).map Subtype.val := by
      rw [commandLine, List.flatMap_cons, List.map_append]
      rfl
    rw [hcons, readOptions_args, List.foldl_cons, readGroup, Option.bind_some]
    cases group.number with
    | none =>
      -- after an error the rest is not read
      rw [Option.map_none, Option.bind_none]
      exact (List.foldl_fixed' (fun _ => rfl) groups).symm
    | some n => exact ih (group.write n o)

/-- Groups of different options change different variables. -/
theorem write_comm {group group' : OptionGroup} (hname : group.name ≠ group'.name)
    (hosd : ¬(group.name = bytes "--osd-text" ∧ group' = .noOsd))
    (hosd' : ¬(group'.name = bytes "--osd-text" ∧ group = .noOsd)) (n n' : ℤ) (o : Options) :
    group'.write n' (group.write n o) = group.write n (group'.write n' o) := by
  cases group with
  | help => rfl
  | noOsd =>
    cases group' with
    | valued option value =>
      cases option with
      | osdText => exact absurd ⟨rfl, rfl⟩ hosd'
      | _ => rfl
    | _ => rfl
  | valued option value =>
    cases group' with
    | help => rfl
    | noOsd =>
      cases option with
      | osdText => exact absurd ⟨rfl, rfl⟩ hosd
      | _ => rfl
    | valued option' value' =>
      have hne : option ≠ option' := fun heq => hname (congrArg ValueOption.name heq)
      cases option <;> cases option' <;> first | rfl | exact absurd rfl hne

/-! ### Permutations -/

theorem readGroup_comm {groups : List OptionGroup} (h : Unambiguous groups)
    {group group' : OptionGroup}
    (hgroup : group ∈ groups) (hgroup' : group' ∈ groups) (o : Option Options) :
    readGroup (readGroup o group) group' = readGroup (readGroup o group') group := by
  by_cases heq : group = group'
  · rw [heq]
  have hname : group.name ≠ group'.name := fun hname =>
    heq (List.inj_on_of_nodup_map h.nodup hgroup hgroup' hname)
  have hosd : ∀ g ∈ groups, ¬(g.name = bytes "--osd-text" ∧ OptionGroup.noOsd ∈ groups) :=
    fun g hg hboth => h.osd ⟨hboth.1 ▸ List.mem_map_of_mem hg, hboth.2⟩
  have hcomm := write_comm hname (fun hboth => hosd group hgroup ⟨hboth.1, hboth.2 ▸ hgroup'⟩)
    (fun hboth => hosd group' hgroup' ⟨hboth.1, hboth.2 ▸ hgroup⟩)
  unfold readGroup
  cases o with
  | none => rfl
  | some o => cases hn : group.number <;> cases hn' : group'.number <;> simp [hcomm]

theorem Unambiguous.perm {groups groups' : List OptionGroup} (h : Unambiguous groups)
    (hperm : groups.Perm groups') : Unambiguous groups' where
  nodup := (hperm.map _).nodup_iff.mp h.nodup
  noHelp := fun hmem => h.noHelp (hperm.mem_iff.mpr hmem)
  osd := fun hboth => h.osd
    ⟨(hperm.map _).mem_iff.mpr hboth.1, hperm.mem_iff.mpr hboth.2⟩

theorem readOptions_perm {groups groups' : List OptionGroup} (h : Unambiguous groups)
    (hperm : groups.Perm groups') (o : Options) :
    (readOptions ((commandLine groups).map Subtype.val) o).toOption =
      (readOptions ((commandLine groups').map Subtype.val) o).toOption := by
  rw [readOptions_commandLine, readOptions_commandLine]
  exact hperm.foldl_eq' (fun x hx y hy z => readGroup_comm h hx hy z) (some o)

/-! ### Errors -/

theorem parseInt_ne_help (value name : Bytes) : parseInt value name ≠ .error .help := by
  unfold parseInt
  split
  · split_ifs <;> simp
  · simp

theorem set_ne_help (option : ValueOption) (arg value : Bytes) (o : Options) :
    option.set arg value o ≠ .error .help := by
  cases option with
  | width | height | fps | bitrateKbps =>
    intro h
    rw [ValueOption.set] at h
    cases hparse : parseInt value arg with
    | ok n => rw [hparse] at h; cases h
    | error stop =>
      rw [hparse] at h
      obtain rfl := Except.error.inj h
      exact parseInt_ne_help value arg hparse
  | _ => exact fun h => by cases h

/-- Only the help ends the program with no error. -/
theorem readOptions_ne_help {groups : List OptionGroup} (h : .help ∉ groups) (o : Options) :
    readOptions ((commandLine groups).map Subtype.val) o ≠ .error .help := by
  induction groups generalizing o with
  | nil => exact fun h => by cases h
  | cons group groups ih =>
    have hrest := ih fun hmem => h (List.mem_cons_of_mem _ hmem)
    rw [commandLine, List.flatMap_cons, List.map_append, ← commandLine]
    cases group with
    | help => exact absurd (List.mem_cons_self ..) h
    | noOsd => exact hrest _
    | valued option value =>
      obtain ⟨hoption, hhelp, -⟩ := option.name_spec
      simp only [OptionGroup.args, List.map_cons, List.map_nil, List.cons_append, List.nil_append]
      rw [readOptions, if_neg hhelp, hoption]
      dsimp only
      cases hset : option.set option.name value o with
      | error stop =>
        dsimp only
        rintro ⟨⟩
        exact set_ne_help option _ _ _ hset
      | ok o' => exact hrest o'

theorem finish_ne_help (o : Options) : o.finish ≠ .error .help := by
  unfold Options.finish
  cases findProfile o.profileName with
  | none => simp
  | some profile =>
    dsimp only
    cases o.complaint _ <;> simp

theorem parseArgs_ne_help {groups : List OptionGroup} (h : .help ∉ groups) :
    parseArgs (commandLine groups) ≠ .error .help := by
  intro hhelp
  unfold parseArgs at hhelp
  cases hread : readOptions ((commandLine groups).map Subtype.val) {} with
  | error stop =>
    rw [hread] at hhelp
    obtain rfl := Except.error.inj hhelp
    exact readOptions_ne_help h _ hread
  | ok o =>
    rw [hread] at hhelp
    exact finish_ne_help o hhelp

/-! ### Command lines -/

theorem parseArgs_toOption (argv : List CStr) : (parseArgs argv).toOption =
    (readOptions (argv.map Subtype.val) {}).toOption.bind fun o => o.finish.toOption := by
  unfold parseArgs
  cases readOptions (argv.map Subtype.val) {} <;> rfl

/-- What a group of an accepted command line gives is written last in some order. -/
theorem exists_write {groups : List OptionGroup} (h : Unambiguous groups) {group : OptionGroup}
    (hgroup : group ∈ groups) {o : Options}
    (hread : readOptions ((commandLine groups).map Subtype.val) {} = .ok o) :
    ∃ n o', group.number = some n ∧ o = group.write n o' := by
  have hperm : groups.Perm (groups.erase group ++ [group]) :=
    (List.perm_cons_erase hgroup).trans (List.perm_append_singleton _ _).symm
  have hlast := readOptions_perm h hperm {}
  rw [hread, readOptions_commandLine, List.foldl_append] at hlast
  obtain ⟨o', -, ho⟩ := Option.bind_eq_some_iff.mp (hlast.symm : readGroup _ group = some o)
  obtain ⟨n, hn, rfl⟩ := Option.map_eq_some_iff.mp ho
  exact ⟨n, o', hn, rfl⟩

/-- **The order of the options**: where no option is given twice, the help is not asked for and the
OSD is not both given a text and switched off, `parse_args` throws for every order of the groups, or
it returns the same configuration for every order; and an encoder or a number that is given is in
the configuration wherever it stands. -/
theorem parseArgs_perm {groups groups' : List OptionGroup} (h : Unambiguous groups)
    (hperm : groups.Perm groups') :
    ((∃ config, parseArgs (commandLine groups) = .ok config ∧
        parseArgs (commandLine groups') = .ok config) ∨
      ∃ message message', parseArgs (commandLine groups) = .error (.error message) ∧
        parseArgs (commandLine groups') = .error (.error message')) ∧
    ∀ config, parseArgs (commandLine groups) = .ok config →
      (∀ value, .valued .encoder value ∈ groups → config.encoder = value.val) ∧
      ∀ (x : NumberOption) (value : CStr), .valued x.option value ∈ groups →
        parseInt value x.option.name = .ok (x.field config) := by
  have hsame : (parseArgs (commandLine groups)).toOption =
      (parseArgs (commandLine groups')).toOption := by
    rw [parseArgs_toOption, parseArgs_toOption, readOptions_perm h hperm]
  refine ⟨?_, fun config hconfig => ?_⟩
  · -- one order cannot throw where the other returns, and neither stops for the help
    have hhelp := parseArgs_ne_help h.noHelp
    have hhelp' := parseArgs_ne_help (h.perm hperm).noHelp
    cases hfirst : parseArgs (commandLine groups) with
    | ok config =>
      cases hsecond : parseArgs (commandLine groups') with
      | ok config' =>
        rw [hfirst, hsecond] at hsame
        obtain rfl := Option.some.inj hsame
        exact Or.inl ⟨config, rfl, rfl⟩
      | error stop => rw [hfirst, hsecond] at hsame; cases hsame
    | error stop =>
      cases hsecond : parseArgs (commandLine groups') with
      | ok config' => rw [hfirst, hsecond] at hsame; cases hsame
      | error stop' =>
        cases stop with
        | help => exact absurd hfirst hhelp
        | error message =>
          cases stop' with
          | help => exact absurd hsecond hhelp'
          | error message' => exact Or.inr ⟨message, message', rfl, rfl⟩
  · obtain ⟨o, profile, hread, -, -, rfl⟩ := exists_of_parseArgs hconfig
    -- the loop leaves what it would if the group stood last
    refine ⟨fun value hvalue => ?_, fun x value hvalue => ?_⟩
    · obtain ⟨n, o', -, rfl⟩ := exists_write h hvalue hread
      rfl
    · obtain ⟨n, o', hn, rfl⟩ := exists_write h hvalue hread
      have hnumber : (parseInt value x.option.name).toOption = some n := by
        rw [parseInt_toOption]
        cases x <;> exact hn
      cases hparse : parseInt value x.option.name with
      | error stop => rw [hparse] at hnumber; cases hnumber
      | ok m =>
        rw [hparse] at hnumber
        obtain rfl := Option.some.inj hnumber
        cases x <;> rfl

/-- A frame rate before a profile, and a realm that looks like an option. -/
def rateGroups : List OptionGroup :=
  [.valued .fps ⟨bytes "25", by decide⟩, .valued .profile ⟨bytes "high", by decide⟩,
    .valued .rtspRealm ⟨bytes "--no-osd", by decide⟩]

theorem unambiguous_rateGroups : Unambiguous rateGroups where
  nodup := by decide
  noHelp := by decide
  osd := by decide

/-- The rate is not that of the profile, in either order. -/
theorem parseArgs_perm_rate :
    ∃ config, parseArgs (commandLine rateGroups) = .ok config ∧
      parseArgs (commandLine rateGroups.reverse) = .ok config ∧ config.fps = 25 := by
  have hargs : parseArgs (commandLine rateGroups) = .ok
      { width := 1920, height := 1080, fps := 25, bitrateKbps := 5000, profile := bytes "high",
        rtspRealm := bytes "--no-osd" } := by
    decide
  obtain ⟨hsame, hexplicit⟩ :=
    parseArgs_perm unambiguous_rateGroups (List.reverse_perm rateGroups).symm
  obtain ⟨config, hconfig, hreverse⟩ | ⟨message, -, herror, -⟩ := hsame
  · have hfps := (hexplicit config hconfig).2 .fps ⟨bytes "25", by decide⟩ (by decide)
    have htwentyFive : parseInt (bytes "25") (NumberOption.fps.option.name) = .ok 25 := by decide
    exact ⟨config, hconfig, hreverse, Except.ok.inj (hfps.symm.trans htwentyFive)⟩
  · rw [hargs] at herror
    cases herror

end Afterveda.Rail
