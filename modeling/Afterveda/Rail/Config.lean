import Afterveda.Lib.CNumber
import Afterveda.Lib.Text

/-!
# The configuration of rail-media

The record `config.h` declares, the quality presets of `profiles.cpp`, and `parse_args`, which makes
a configuration of the command line or stops with a message.
-/

namespace Afterveda.Rail

open CText CNumber

/-- `rail_media::Config`. -/
structure Config where
  profile : Bytes := bytes "main"
  port : Bytes := bytes "8554"
  controlHost : Bytes := bytes "127.0.0.1"
  controlPort : Bytes := bytes "8081"
  mount : Bytes := bytes "/live"
  encoder : Bytes := bytes "v4l2"
  rtspUser : Bytes := []
  rtspPassword : Bytes := []
  rtspRealm : Bytes := bytes "rail-media"
  width : ℤ := 1280
  height : ℤ := 720
  fps : ℤ := 30
  bitrateKbps : ℤ := 2500
  brightness : Double := .finite 50
  contrast : Double := .finite 50
  colorSaturation : Double := .finite 50
  osdEnabled : Bool := true
  osdText : Bytes := bytes "Afterveda"
  deriving DecidableEq

/-! ### Quality presets -/

structure Profile where
  name : Bytes
  quality : Bytes
  width : ℤ
  height : ℤ
  fps : ℤ
  bitrateKbps : ℤ
  encoder : Bytes
  deriving DecidableEq

def kProfiles : List Profile :=
  [⟨bytes "low", bytes "360p", 640, 360, 30, 800, bytes "v4l2"⟩,
    ⟨bytes "main", bytes "720p", 1280, 720, 30, 2500, bytes "v4l2"⟩,
    ⟨bytes "high", bytes "1080p", 1920, 1080, 30, 5000, bytes "v4l2"⟩]

def findProfile (name : Bytes) : Option Profile :=
  kProfiles.find? fun profile => name = profile.name

def applyProfile (config : Config) (profile : Profile) : Config :=
  { config with
    profile := profile.name
    encoder := profile.encoder
    width := profile.width
    height := profile.height
    fps := profile.fps
    bitrateKbps := profile.bitrateKbps }

/-! ### The command line -/

/-- Why `parse_args` gives no configuration: it threw an error, or it printed the help and left. -/
inductive Stop
  | error (message : Bytes)
  | help
  deriving DecidableEq

def parseInt (value name : Bytes) : Except Stop ℤ :=
  match strtol value with
  | some (parsed, []) =>
    -- the check is on the `long`, the cast to `int` comes after it
    if parsed ≤ 0 then .error (.error (bytes "invalid " ++ name ++ bytes ": " ++ value))
    else .ok (wrap32 parsed)
  | _ => .error (.error (bytes "invalid " ++ name ++ bytes ": " ++ value))

/-- The variables of `parse_args` while it walks over the arguments. -/
structure Options where
  config : Config := {}
  profileName : Bytes := bytes "main"
  encoder : Option Bytes := none
  width : Option ℤ := none
  height : Option ℤ := none
  fps : Option ℤ := none
  bitrateKbps : Option ℤ := none
  rtspUser : Option Bytes := none
  rtspPassword : Option Bytes := none
  deriving DecidableEq

/-- The options that take a value. -/
inductive ValueOption
  | profile
  | port
  | controlHost
  | controlPort
  | mount
  | encoder
  | rtspUser
  | rtspPassword
  | rtspRealm
  | width
  | height
  | fps
  | bitrateKbps
  | osdText
  deriving DecidableEq

/-- The option an argument names. -/
def valueOption (arg : Bytes) : Option ValueOption :=
  [(bytes "--profile", ValueOption.profile), (bytes "--port", .port),
    (bytes "--control-host", .controlHost), (bytes "--control-port", .controlPort),
    (bytes "--mount", .mount), (bytes "--encoder", .encoder), (bytes "--rtsp-user", .rtspUser),
    (bytes "--rtsp-password", .rtspPassword), (bytes "--rtsp-realm", .rtspRealm),
    (bytes "--width", .width), (bytes "--height", .height), (bytes "--fps", .fps),
    (bytes "--bitrate-kbps", .bitrateKbps), (bytes "--osd-text", .osdText)].lookup arg

/-- What an option does with its value; `arg` is its name. -/
def ValueOption.set (option : ValueOption) (arg value : Bytes) (o : Options) :
    Except Stop Options :=
  match option with
  | .profile => .ok { o with profileName := value }
  | .port => .ok { o with config := { o.config with port := value } }
  | .controlHost => .ok { o with config := { o.config with controlHost := value } }
  | .controlPort => .ok { o with config := { o.config with controlPort := value } }
  | .mount => .ok { o with config := { o.config with mount := value } }
  | .encoder => .ok { o with encoder := some value }
  | .rtspUser => .ok { o with rtspUser := some value }
  | .rtspPassword => .ok { o with rtspPassword := some value }
  | .rtspRealm => .ok { o with config := { o.config with rtspRealm := value } }
  | .width => (parseInt value arg).map fun n => { o with width := some n }
  | .height => (parseInt value arg).map fun n => { o with height := some n }
  | .fps => (parseInt value arg).map fun n => { o with fps := some n }
  | .bitrateKbps => (parseInt value arg).map fun n => { o with bitrateKbps := some n }
  | .osdText => .ok { o with config := { o.config with osdText := value, osdEnabled := true } }

/-- The loop over the arguments. -/
def readOptions : List Bytes → Options → Except Stop Options
  | [], o => .ok o
  | arg :: rest, o =>
    if arg = bytes "--help" then .error .help
    else
      match valueOption arg with
      | some option =>
        match rest with
        | [] => .error (.error (bytes "missing value for " ++ arg))
        | value :: rest =>
          match option.set arg value o with
          | .error stop => .error stop
          | .ok o => readOptions rest o
      | none =>
        if arg = bytes "--no-osd" then
          readOptions rest { o with config := { o.config with osdEnabled := false } }
        else .error (.error (bytes "unknown option: " ++ arg))

/-- The explicit options over the values of the profile. -/
def Options.override (o : Options) (config : Config) : Config :=
  { config with
    encoder := o.encoder.getD config.encoder
    width := o.width.getD config.width
    height := o.height.getD config.height
    fps := o.fps.getD config.fps
    bitrateKbps := o.bitrateKbps.getD config.bitrateKbps
    rtspUser := o.rtspUser.getD config.rtspUser
    rtspPassword := o.rtspPassword.getD config.rtspPassword }

/-- The first of the final checks that fails, as its message. -/
def Options.complaint (o : Options) (config : Config) : Option Bytes :=
  if config.mount.head? ≠ some 47 then some (bytes "--mount must start with /")
  else if config.controlHost = [] then some (bytes "--control-host must not be empty")
  else if config.encoder ≠ bytes "v4l2" ∧ config.encoder ≠ bytes "x264" then
    some (bytes "--encoder must be v4l2 or x264")
  else if config.rtspRealm = [] then some (bytes "--rtsp-realm must not be empty")
  else if o.rtspUser.isSome ≠ o.rtspPassword.isSome then
    some (bytes "--rtsp-user and --rtsp-password must be provided together")
  else if o.rtspUser.isSome ∧ (config.rtspUser = [] ∨ config.rtspPassword = []) then
    some (bytes "--rtsp-user and --rtsp-password must not be empty")
  else if 128 < config.osdText.length then
    some (bytes "--osd-text must be 128 characters or fewer")
  else none

/-- The end of `parse_args`: the profile, the explicit options and the checks. -/
def Options.finish (o : Options) : Except Stop Config :=
  match findProfile o.profileName with
  | none => .error (.error (bytes "--profile must be low, main, or high"))
  | some profile =>
    let config := o.override (applyProfile o.config profile)
    match o.complaint config with
    | some message => .error (.error message)
    | none => .ok config

/-- The configuration of a command line; `argv` is without the program's name. -/
def parseArgs (argv : List CStr) : Except Stop Config := do
  (← readOptions (argv.map Subtype.val) {}).finish

end Afterveda.Rail
