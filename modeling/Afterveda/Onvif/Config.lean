import Afterveda.Lib.Text

/-!
# The configuration of the ONVIF server

The record `core/config.h` declares, with the defaults it gives, and `parse_args`, which makes a
configuration of the command line or stops with a message.
-/

namespace Afterveda.Onvif

open CText

/-- `afterveda_onvif::Config`. -/
structure Config where
  deviceName : Bytes := bytes "afterveda-camera"
  manufacturer : Bytes := bytes "Afterveda"
  model : Bytes := bytes "Rail CCTV"
  firmware : Bytes := bytes "0.1.0"
  serial : Bytes := bytes "afterveda-001"
  hardwareId : Bytes := bytes "afterveda-picam"
  xaddrHost : Bytes := bytes "127.0.0.1"
  rtspUri : Bytes := bytes "rtsp://127.0.0.1:8554/live"
  railControlUrl : Bytes := bytes "http://127.0.0.1:8081"
  ptzDevice : Bytes := bytes "/dev/afterveda_ptz"
  username : Bytes := []
  password : Bytes := []
  onvifPort : ℤ := 8000
  ptzStep : ℤ := 5
  ptzSpeed : ℤ := 30
  ptzDryRun : Bool := false
  deriving DecidableEq

/-! ### The command line -/

namespace CommandLine

/-- Why `parse_args` gives no configuration: it threw an error, or it printed the help and left. -/
inductive Stop
  | error (message : Bytes)
  | help
  deriving DecidableEq

def parseInt (value option : Bytes) : Except Stop ℤ :=
  match strtol value with
  | some (parsed, []) =>
    if parsed ≤ 0 ∨ 65535 < parsed then
      .error (.error (bytes "invalid " ++ option ++ bytes ": " ++ value))
    else .ok parsed
  | _ => .error (.error (bytes "invalid " ++ option ++ bytes ": " ++ value))

/-- The options that take a value. -/
inductive ValueOption
  | deviceName
  | manufacturer
  | model
  | firmware
  | serial
  | hardwareId
  | xaddrHost
  | onvifPort
  | rtspUri
  | railControlUrl
  | ptzDevice
  | ptzStep
  | ptzSpeed
  | username
  | password
  deriving DecidableEq

/-- The option an argument names. -/
def valueOption (arg : Bytes) : Option ValueOption :=
  [(bytes "--device-name", ValueOption.deviceName), (bytes "--manufacturer", .manufacturer),
    (bytes "--model", .model), (bytes "--firmware", .firmware), (bytes "--serial", .serial),
    (bytes "--hardware-id", .hardwareId), (bytes "--xaddr-host", .xaddrHost),
    (bytes "--onvif-port", .onvifPort), (bytes "--rtsp-uri", .rtspUri),
    (bytes "--rail-control-url", .railControlUrl), (bytes "--ptz-device", .ptzDevice),
    (bytes "--ptz-step", .ptzStep), (bytes "--ptz-speed", .ptzSpeed),
    (bytes "--username", .username), (bytes "--password", .password)].lookup arg

/-- What an option does with its value; `arg` is its name. -/
def ValueOption.set (option : ValueOption) (arg value : Bytes) (config : Config) :
    Except Stop Config :=
  match option with
  | .deviceName => .ok { config with deviceName := value }
  | .manufacturer => .ok { config with manufacturer := value }
  | .model => .ok { config with model := value }
  | .firmware => .ok { config with firmware := value }
  | .serial => .ok { config with serial := value }
  | .hardwareId => .ok { config with hardwareId := value }
  | .xaddrHost => .ok { config with xaddrHost := value }
  | .onvifPort => (parseInt value arg).map fun n => { config with onvifPort := n }
  | .rtspUri => .ok { config with rtspUri := value }
  | .railControlUrl => .ok { config with railControlUrl := value }
  | .ptzDevice => .ok { config with ptzDevice := value }
  | .ptzStep => (parseInt value arg).map fun n => { config with ptzStep := n }
  | .ptzSpeed => (parseInt value arg).map fun n => { config with ptzSpeed := n }
  | .username => .ok { config with username := value }
  | .password => .ok { config with password := value }

/-- The loop over the arguments. -/
def readOptions : List Bytes → Config → Except Stop Config
  | [], config => .ok config
  | arg :: rest, config =>
    if arg = bytes "--help" then .error .help
    else
      match valueOption arg with
      | some option =>
        match rest with
        | [] => .error (.error (bytes "missing value for " ++ arg))
        | value :: rest =>
          match option.set arg value config with
          | .error stop => .error stop
          | .ok config => readOptions rest config
      | none =>
        if arg = bytes "--ptz-dry-run" then readOptions rest { config with ptzDryRun := true }
        else .error (.error (bytes "unknown option: " ++ arg))

/-- The first of the final checks that fails, as its message. -/
def complaint (config : Config) : Option Bytes :=
  if config.xaddrHost = [] ∨ config.rtspUri = [] ∨ config.ptzDevice = [] then
    some (bytes "--xaddr-host, --rtsp-uri, and --ptz-device must not be empty")
  else if ¬(config.username = [] ↔ config.password = []) then
    some (bytes "--username and --password must be provided together")
  else none

/-- The configuration of a command line; `argv` is without the program's name. -/
def parseArgs (argv : List CStr) : Except Stop Config := do
  let config ← readOptions (argv.map Subtype.val) {}
  match complaint config with
  | some message => .error (.error message)
  | none => return config

end CommandLine

end Afterveda.Onvif
