import Afterveda.Rail.ControlServer
import Afterveda.Rail.Equiv.Mounts

/-!
# Numbers on the command line

`parse_int` checks the `long` that `strtol` gives and narrows it to an `int` afterwards.
`numbers_iff` says for which numerals a configuration holds the numbers that were given, and for
which control ports `run_server` listens on no other port.
-/

namespace Afterveda.Rail

open CText CNumber

/-! ### Numerals -/

/-- What `parse_int` makes of an integer: a `long` cast to `int`. -/
def narrow (n : ℤ) : ℤ := wrap32 (clampLong n)

theorem isInt32_narrow (n : ℤ) : IsInt32 (narrow n) := isInt32_wrap32 _

theorem narrow_eq_self_iff {n : ℤ} (h : 0 < n) : narrow n = n ↔ n < 2 ^ 31 := by
  constructor
  · intro heq
    rw [← heq]
    exact (isInt32_narrow n).2
  · intro hlt
    have hclamp : clampLong n = n := clampLong_of_mem ⟨by omega, by omega⟩
    rw [narrow, hclamp, wrap32_of_isInt32 ⟨by omega, hlt⟩]

theorem parseInt_eq_ok_iff {text name : Bytes} {v : ℤ} :
    parseInt text name = .ok v ↔ ∃ n, Denotes text n ∧ 0 < n ∧ v = narrow n := by
  -- saturation keeps the sign, so the check is one on the integer
  have hpos : ∀ n : ℤ, clampLong n ≤ 0 ↔ n ≤ 0 := by
    intro n
    unfold clampLong
    omega
  unfold parseInt
  constructor
  · intro h
    split at h
    · next parsed hread =>
      obtain ⟨n, hn, rfl⟩ := strtol_eq_some_iff.mp hread
      split_ifs at h with hle
      exact ⟨n, hn, not_le.mp (mt (hpos n).mpr hle), (Except.ok.inj h).symm⟩
    · cases h
  · rintro ⟨n, hn, hlt, rfl⟩
    rw [strtol_eq_some_iff.mpr ⟨n, hn, rfl⟩]
    dsimp only
    rw [if_neg (mt (hpos n).mp (not_le.mpr hlt))]
    rfl

/-! ### Options with a value -/

/-- The options that are given with a value, in order. -/
def optionValues : List Bytes → List (ValueOption × Bytes)
  | [] => []
  | arg :: rest =>
    match valueOption arg with
    | some option =>
      match rest with
      | [] => []
      | value :: rest => (option, value) :: optionValues rest
    | none => optionValues rest

/-- The value of the last occurrence of an option. -/
def lastValue (option : ValueOption) (args : List Bytes) : Option Bytes :=
  (optionValues args).reverse.lookup option

theorem lastValue_cons {option option' : ValueOption} {arg value : Bytes} {rest : List Bytes}
    (h : valueOption arg = some option') : lastValue option (arg :: value :: rest) =
      (lastValue option rest).or (if option = option' then some value else none) := by
  have hvalues : optionValues (arg :: value :: rest) = (option', value) :: optionValues rest := by
    rw [optionValues.eq_def]
    simp only [h]
  have hone : [(option', value)].lookup option =
      if option = option' then some value else none := by
    by_cases heq : option = option'
    · rw [heq, List.lookup_cons_self, if_pos rfl]
    · rw [List.lookup_cons, beq_eq_false_iff_ne.mpr heq, if_neg heq]
      rfl
  rw [lastValue, hvalues, List.reverse_cons, List.lookup_append, hone, lastValue]

theorem lastValue_skip {option : ValueOption} {arg : Bytes} {rest : List Bytes}
    (h : valueOption arg = none) : lastValue option (arg :: rest) = lastValue option rest := by
  have hvalues : optionValues (arg :: rest) = optionValues rest := by
    rw [optionValues.eq_def]
    simp only [h]
  rw [lastValue, hvalues, lastValue]

/-- The options that take a number. -/
inductive NumberOption
  | width
  | height
  | fps
  | bitrateKbps
  deriving DecidableEq

def NumberOption.option : NumberOption → ValueOption
  | width => .width
  | height => .height
  | fps => .fps
  | bitrateKbps => .bitrateKbps

/-- The variable of `parse_args`. -/
def NumberOption.variable (x : NumberOption) (o : Options) : Option ℤ :=
  match x with
  | width => o.width
  | height => o.height
  | fps => o.fps
  | bitrateKbps => o.bitrateKbps

/-- The field of the configuration. -/
def NumberOption.field (x : NumberOption) (config : Config) : ℤ :=
  match x with
  | width => config.width
  | height => config.height
  | fps => config.fps
  | bitrateKbps => config.bitrateKbps

/-- An option changes the variable of its own number only. -/
theorem ValueOption.set_number {option : ValueOption} {arg value : Bytes} {o o' : Options}
    (h : option.set arg value o = .ok o') (x : NumberOption) :
    (x.option = option → ∃ v, parseInt value arg = .ok v ∧ x.variable o' = some v) ∧
      (x.option ≠ option → x.variable o' = x.variable o) := by
  cases option with
  | width | height | fps | bitrateKbps =>
    obtain ⟨v, hv, rfl⟩ := Except.exists_of_map_eq_ok h
    cases x <;> simp [NumberOption.option, NumberOption.variable, hv]
  | _ =>
    obtain rfl := Except.ok.inj h
    cases x <;> simp [NumberOption.option, NumberOption.variable]

theorem ValueOption.set_controlPort {option : ValueOption} {arg value : Bytes} {o o' : Options}
    (h : option.set arg value o = .ok o') :
    o'.config.controlPort = if .controlPort = option then value else o.config.controlPort := by
  cases option with
  | width | height | fps | bitrateKbps =>
    obtain ⟨v, -, rfl⟩ := Except.exists_of_map_eq_ok h
    rfl
  | _ =>
    obtain rfl := Except.ok.inj h
    rfl

/-- The loop leaves in each variable what the last value of its option gives. -/
theorem readOptions_number {args : List Bytes} {o o' : Options} (h : readOptions args o = .ok o')
    (x : NumberOption) :
    (∀ text, lastValue x.option args = some text → ∃ arg v, parseInt text arg = .ok v ∧
      x.variable o' = some v) ∧
    (lastValue x.option args = none → x.variable o' = x.variable o) := by
  fun_induction readOptions args o with
  | case1 o =>
    -- the end of the arguments
    obtain rfl := Except.ok.inj h
    refine ⟨fun text htext => ?_, fun _ => rfl⟩
    cases htext
  | case5 arg o _ option hoption value rest o₁ hset ih =>
    -- an option with a value it takes: a later one of the same name decides
    obtain ⟨hsome, hnone⟩ := ih h
    obtain ⟨hthis, hother⟩ := option.set_number hset x
    rw [lastValue_cons hoption]
    cases hlast : lastValue x.option rest with
    | some text =>
      rw [Option.some_or, ← hlast]
      refine ⟨hsome, fun hnil => ?_⟩
      rw [hlast] at hnil
      cases hnil
    | none =>
      rw [Option.none_or]
      split_ifs with heq
      · obtain ⟨v, hv, hvariable⟩ := hthis heq
        refine ⟨fun text htext => ?_, fun hnil => ?_⟩
        · obtain rfl := Option.some.inj htext
          exact ⟨arg, v, hv, (hnone hlast).trans hvariable⟩
        · cases hnil
      · refine ⟨fun text htext => ?_, fun _ => (hnone hlast).trans (hother heq)⟩
        cases htext
  | case6 o rest hnotHelp hoption ih =>
    -- `--no-osd`
    rw [lastValue_skip hoption]
    exact ih h
  | _ => cases h

/-- The loop over two lists of arguments, of which the first holds whole options. -/
theorem readOptions_append {args : List Bytes} {o o' : Options} (h : readOptions args o = .ok o')
    (rest : List Bytes) : readOptions (args ++ rest) o = readOptions rest o' := by
  fun_induction readOptions args o with
  | case1 o =>
    obtain rfl := Except.ok.inj h
    rfl
  | case5 arg o hhelp option hoption value args o₁ hset ih =>
    rw [List.cons_append, List.cons_append, readOptions, if_neg hhelp, hoption]
    dsimp only
    rw [hset]
    exact ih h
  | case6 o args hhelp hoption ih =>
    rw [List.cons_append, readOptions, if_neg hhelp, hoption]
    dsimp only
    rw [if_pos rfl]
    exact ih h
  | _ => cases h

theorem readOptions_controlPort {args : List Bytes} {o o' : Options}
    (h : readOptions args o = .ok o') :
    o'.config.controlPort = (lastValue .controlPort args).getD o.config.controlPort := by
  fun_induction readOptions args o with
  | case1 o =>
    obtain rfl := Except.ok.inj h
    rfl
  | case5 arg o _ option hoption value rest o₁ hset ih =>
    rw [ih h, lastValue_cons hoption, option.set_controlPort hset]
    cases lastValue .controlPort rest with
    | some text => rfl
    | none =>
      rw [Option.none_or]
      split_ifs <;> rfl
  | case6 o rest hnotHelp hoption ih =>
    rw [lastValue_skip hoption]
    exact ih h
  | _ => cases h

/-! ### Configurations -/

/-- What an accepted command line makes of the numbers given in it. -/
theorem field_of_parseArgs {argv : List CStr} {config : Config} (h : parseArgs argv = .ok config)
    {x : NumberOption} {text : Bytes} (htext : text ∈ lastValue x.option (argv.map Subtype.val)) :
    ∃ n, Denotes text n ∧ 0 < n ∧ x.field config = narrow n := by
  obtain ⟨o, profile, hread, -, -, rfl⟩ := exists_of_parseArgs h
  obtain ⟨arg, v, hv, hvariable⟩ := (readOptions_number hread x).1 text htext
  obtain ⟨n, hn, hpos, rfl⟩ := parseInt_eq_ok_iff.mp hv
  have hfield : x.field (o.override (applyProfile o.config profile)) =
      (x.variable o).getD (x.field (applyProfile o.config profile)) := by
    cases x <;> rfl
  rw [hfield, hvariable]
  exact ⟨n, hn, hpos, rfl⟩

theorem controlPort_of_parseArgs {argv : List CStr} {config : Config}
    (h : parseArgs argv = .ok config) :
    config.controlPort = (lastValue .controlPort (argv.map Subtype.val)).getD (bytes "8081") := by
  obtain ⟨o, profile, hread, -, -, rfl⟩ := exists_of_parseArgs h
  exact readOptions_controlPort hread

/-- When `run_server` listens, and on which port. -/
theorem runServer_eq_ok_iff {net : Network} {host text : Bytes} {port : UInt16} :
    runServer net host text = .ok port ↔
      net.newServer = true ∧ net.inetAddress (cString host) = true ∧
      net.listen (cString host) port = .ok () ∧
      ∃ n, Denotes text n ∧ 0 < n ∧ narrow n ≤ 65535 ∧ port = UInt16.ofInt (narrow n) := by
  unfold runServer
  constructor
  · intro h
    cases hserver : net.newServer with
    | false => rw [hserver] at h; cases h
    | true =>
      rw [hserver, if_neg (by decide)] at h
      cases hparse : parseInt text (bytes "--control-port") with
      | error stop => rw [hparse] at h; cases h
      | ok v =>
        obtain ⟨n, hn, hpos, rfl⟩ := parseInt_eq_ok_iff.mp hparse
        rw [hparse] at h
        dsimp only at h
        -- past the two checks only the library may refuse
        split_ifs at h with hrange haddress
        cases hlisten : net.listen (cString host) (UInt16.ofInt (narrow n)) with
        | error message => rw [hlisten] at h; cases h
        | ok u =>
          rw [hlisten] at h
          obtain rfl := Except.ok.inj h
          exact ⟨rfl, by simpa using haddress, hlisten, n, hn, hpos, not_lt.mp hrange, rfl⟩
  · rintro ⟨hserver, haddress, hlisten, n, hn, hpos, hrange, rfl⟩
    rw [parseInt_eq_ok_iff.mpr ⟨n, hn, hpos, rfl⟩, hserver]
    dsimp only
    rw [if_neg (by decide), if_neg (not_lt.mpr hrange), haddress, if_neg (by decide), hlisten]

/-- A network where everything works. -/
def openNetwork : Network := ⟨true, fun _ => true, fun _ _ => .ok ()⟩

/-- **Numbers on the command line**: the configuration holds the positive integers that its
arguments denote exactly when all of them are below `2^31`.  `run_server` listens on no port but the
one that `--control-port` denotes exactly when that is at most 65535 or its low bits, as an `int`,
are above. -/
theorem numbers_iff {argv : List CStr} {config : Config} (h : parseArgs argv = .ok config) :
    ((∀ x : NumberOption, ∀ text ∈ lastValue x.option (argv.map Subtype.val),
        ∃ n, Denotes text n ∧ x.field config = n ∧ 0 < n) ↔
      ∀ x : NumberOption, ∀ text ∈ lastValue x.option (argv.map Subtype.val),
        ∀ n, Denotes text n → n < 2 ^ 31) ∧
    config.controlPort = (lastValue .controlPort (argv.map Subtype.val)).getD (bytes "8081") ∧
    ((∀ net port, runServer net config.controlHost config.controlPort = .ok port →
        ∃ n, Denotes config.controlPort n ∧ port.toNat = n ∧ 1 ≤ n ∧ n ≤ 65535) ↔
      ∀ n, Denotes config.controlPort n → n ≤ 65535 ∨ 65535 < narrow n) := by
  refine ⟨?_, controlPort_of_parseArgs h, ?_⟩
  · refine forall₃_congr fun x text htext => ?_
    -- the field holds the narrowed number
    obtain ⟨n, hn, hpos, hfield⟩ := field_of_parseArgs h htext
    rw [hfield]
    constructor
    · rintro ⟨m, hm, heq, -⟩ k hk
      obtain rfl := hm.unique hn
      obtain rfl := hk.unique hn
      exact (narrow_eq_self_iff hpos).mp heq
    · intro hlt
      exact ⟨n, hn, (narrow_eq_self_iff hpos).mpr (hlt n hn), hpos⟩
  · constructor
    · intro hport n hn
      rw [or_iff_not_imp_right, not_lt]
      intro hrange
      by_contra hlarge
      -- the port would be taken for another one
      have hlisten : runServer openNetwork config.controlHost config.controlPort =
          .ok (UInt16.ofInt (narrow n)) :=
        runServer_eq_ok_iff.mpr ⟨rfl, rfl, rfl, n, hn, by omega, hrange, rfl⟩
      obtain ⟨m, hm, -, -, hsmall⟩ := hport openNetwork _ hlisten
      obtain rfl := hm.unique hn
      exact hlarge hsmall
    · intro hcondition net port hlisten
      obtain ⟨-, -, -, n, hn, hpos, hrange, rfl⟩ := runServer_eq_ok_iff.mp hlisten
      have hsmall : n ≤ 65535 := (hcondition n hn).resolve_right (not_lt.mpr hrange)
      have hnarrow : narrow n = n := (narrow_eq_self_iff hpos).mpr (by omega)
      refine ⟨n, hn, ?_, hpos, hsmall⟩
      rw [hnarrow, UInt16.ofInt, UInt16.toNat_ofNat', Nat.mod_eq_of_lt (by omega)]
      omega

/-- The arguments `--width 640 --control-port 9000`. -/
def sizeArgs : List CStr :=
  [⟨bytes "--width", by decide⟩, ⟨bytes "640", by decide⟩, ⟨bytes "--control-port", by decide⟩,
    ⟨bytes "9000", by decide⟩]

theorem parseArgs_sizeArgs :
    parseArgs sizeArgs = .ok { width := 640, controlPort := bytes "9000" } := by decide

/-- A width and a port that are taken as they are. -/
theorem numbers_iff_small :
    (∃ n, Denotes (bytes "640") n ∧ 640 = n ∧ 0 < n) ∧
      ∀ net port, runServer net (bytes "127.0.0.1") (bytes "9000") = .ok port →
        port.toNat = 9000 := by
  obtain ⟨hnumbers, -, hport⟩ := numbers_iff parseArgs_sizeArgs
  have hwidth : Denotes (bytes "640") 640 := readInteger_eq_some_iff.mp (by decide)
  have hcontrol : Denotes (bytes "9000") 9000 := readInteger_eq_some_iff.mp (by decide)
  constructor
  · refine hnumbers.mpr ?_ .width (bytes "640") (by decide)
    intro x text htext n hn
    cases x with
    | width =>
      obtain rfl := Option.some.inj htext
      obtain rfl := hn.unique hwidth
      decide
    | height => cases htext
    | fps => cases htext
    | bitrateKbps => cases htext
  · intro net port hlisten
    obtain ⟨n, hn, heq, -⟩ := hport.mpr
      (fun n hn => Or.inl (by obtain rfl := hn.unique hcontrol; decide)) net port hlisten
    obtain rfl := hn.unique hcontrol
    exact_mod_cast heq

/-- The same options with numbers past 32 bits. -/
def longArgs : List CStr :=
  [⟨bytes "--width", by decide⟩, ⟨bytes "4294967936", by decide⟩,
    ⟨bytes "--control-port", by decide⟩, ⟨bytes "4294967295", by decide⟩]

/-- They are accepted for a width of 640 and the port 65535. -/
theorem longArgs_narrowed :
    parseArgs longArgs = .ok { width := 640, controlPort := bytes "4294967295" } ∧
    lastValue .width (longArgs.map Subtype.val) = some (bytes "4294967936") ∧
    Denotes (bytes "4294967936") 4294967936 ∧
    Denotes (bytes "4294967295") 4294967295 ∧
    runServer openNetwork (bytes "127.0.0.1") (bytes "4294967295") = .ok 65535 := by
  refine ⟨?_, ?_, readInteger_eq_some_iff.mp ?_, readInteger_eq_some_iff.mp ?_, ?_⟩
  · decide
  · decide
  · decide
  · decide
  · decide

end Afterveda.Rail
