import Afterveda.Rail.ControlServer

/-!
# Settings and the requests that name them

What the control API is for, said without its code: a request may name some of the settings
(`Request.update`), and a setting has the value the last successful request that named it gave it
(`lastUpdate`).  `Rail.Equiv.Settings` proves that rail-media's configuration is that store.
-/

namespace Afterveda.Rail

open CText CNumber JsonGlib

/-- New values for some of the settings. -/
structure Update where
  width : Option ℤ := none
  height : Option ℤ := none
  fps : Option ℤ := none
  bitrateKbps : Option ℤ := none
  encoder : Option Bytes := none
  brightness : Option Double := none
  contrast : Option Double := none
  colorSaturation : Option Double := none
  osdEnabled : Option Bool := none
  osdText : Option Bytes := none
  deriving DecidableEq

/-- The configuration with the named settings changed and the others as they were. -/
def Update.apply (u : Update) (config : Config) : Config :=
  { config with
    width := u.width.getD config.width
    height := u.height.getD config.height
    fps := u.fps.getD config.fps
    bitrateKbps := u.bitrateKbps.getD config.bitrateKbps
    encoder := u.encoder.getD config.encoder
    brightness := u.brightness.getD config.brightness
    contrast := u.contrast.getD config.contrast
    colorSaturation := u.colorSaturation.getD config.colorSaturation
    osdEnabled := u.osdEnabled.getD config.osdEnabled
    osdText := u.osdText.getD config.osdText }

/-! ### One setting -/

/-- The settings by name. -/
inductive Setting
  | width
  | height
  | fps
  | bitrateKbps
  | encoder
  | brightness
  | contrast
  | colorSaturation
  | osdEnabled
  | osdText
  deriving DecidableEq

def Setting.all : List Setting :=
  [.width, .height, .fps, .bitrateKbps, .encoder, .brightness, .contrast, .colorSaturation,
    .osdEnabled, .osdText]

theorem Setting.mem_all (x : Setting) : x ∈ Setting.all := by
  cases x <;> decide

instance {P : Setting → Prop} [DecidablePred P] : Decidable (∀ x, P x) :=
  decidable_of_iff (∀ x ∈ Setting.all, P x) ⟨fun h x => h x x.mem_all, fun h x _ => h x⟩

/-- The type of a setting's values. -/
abbrev Setting.Value : Setting → Type
  | .width | .height | .fps | .bitrateKbps => ℤ
  | .encoder | .osdText => Bytes
  | .brightness | .contrast | .colorSaturation => Double
  | .osdEnabled => Bool

instance (x : Setting) : DecidableEq x.Value :=
  match x with
  | .width | .height | .fps | .bitrateKbps => inferInstanceAs (DecidableEq ℤ)
  | .encoder | .osdText => inferInstanceAs (DecidableEq Bytes)
  | .brightness | .contrast | .colorSaturation => inferInstanceAs (DecidableEq Double)
  | .osdEnabled => inferInstanceAs (DecidableEq Bool)

/-- The value of a setting. -/
def Setting.get : (x : Setting) → Config → x.Value
  | .width => Config.width
  | .height => Config.height
  | .fps => Config.fps
  | .bitrateKbps => Config.bitrateKbps
  | .encoder => Config.encoder
  | .brightness => Config.brightness
  | .contrast => Config.contrast
  | .colorSaturation => Config.colorSaturation
  | .osdEnabled => Config.osdEnabled
  | .osdText => Config.osdText

/-- The value an update gives to a setting. -/
def Setting.given : (x : Setting) → Update → Option x.Value
  | .width => Update.width
  | .height => Update.height
  | .fps => Update.fps
  | .bitrateKbps => Update.bitrateKbps
  | .encoder => Update.encoder
  | .brightness => Update.brightness
  | .contrast => Update.contrast
  | .colorSaturation => Update.colorSaturation
  | .osdEnabled => Update.osdEnabled
  | .osdText => Update.osdText

/-- The value that exactly one of the updates gave to a setting. -/
def Setting.onlyGiven (x : Setting) (us : List Update) : Option x.Value :=
  match us.filterMap x.given with
  | [v] => some v
  | _ => none

theorem Setting.get_apply (x : Setting) (u : Update) (config : Config) :
    x.get (u.apply config) = (x.given u).getD (x.get config) := by
  cases x <;> rfl

/-! ### What a request names -/

/-- The integer a number node stands for. -/
def integerOf : JsonNode → Option ℤ
  | .int n => some n
  | .double (.finite q) => if (⌊q⌋ : ℚ) = q then some ⌊q⌋ else none
  | _ => none

def booleanOf : JsonNode → Option Bool
  | .boolean b => some b
  | _ => none

/-- The text of a string node, a C string. -/
def textOf : JsonNode → Option Bytes
  | .string s => some (cString s)
  | _ => none

/-- The value a member gives to the setting of its name. -/
def given {α : Type} (value : JsonNode → Option α) (members : List (Bytes × JsonNode))
    (name : String) : Option α :=
  (getMember members (bytes name)).bind value

def videoUpdate (members : List (Bytes × JsonNode)) : Update where
  width := given integerOf members "width"
  height := given integerOf members "height"
  fps := given integerOf members "fps"
  bitrateKbps := given integerOf members "bitrate_kbps"

def imagingUpdate (members : List (Bytes × JsonNode)) : Update where
  brightness := given JsonNode.getDouble members "brightness"
  contrast := given JsonNode.getDouble members "contrast"
  colorSaturation := given JsonNode.getDouble members "color_saturation"

def osdUpdate (members : List (Bytes × JsonNode)) : Update where
  osdEnabled := given booleanOf members "enabled"
  osdText := given textOf members "text"

/-- The members an on-screen display is written with, as any kind of JSON value. -/
def osdMembers {V : Type} (boolean : Bool → V) (string : Bytes → V) (enabled : Bool)
    (text : Bytes) : List (Bytes × V) :=
  [(bytes "enabled", boolean enabled), (bytes "text", string text)]

/-- A preset names the resolution, the rates and the encoder. -/
def presetUpdate (profile : Profile) : Update where
  width := some profile.width
  height := some profile.height
  fps := some profile.fps
  bitrateKbps := some profile.bitrateKbps
  encoder := some profile.encoder

/-- The settings a request names and the values it gives them. -/
def Request.update (parse : Parser) (request : Request) : Update :=
  match request.route with
  | .postConfig => ((parseJsonObject parse request.body).map videoUpdate).getD {}
  | .postImaging => ((parseJsonObject parse request.body).map imagingUpdate).getD {}
  | .postOsd => ((parseJsonObject parse request.body).map osdUpdate).getD {}
  | .postPreset name => ((findProfile name).map presetUpdate).getD {}
  | _ => {}

/-! ### The last value given -/

/-- The value a successful request gave to a setting. -/
def Event.gives {α : Type} (parse : Parser) (setting : Update → Option α) : Event → Option α
  | .exchange _ request response =>
    if response.status = 200 then setting (request.update parse) else none
  | .callback _ => none

/-- The value the last successful request that named a setting gave it. -/
def lastGiven {α : Type} (parse : Parser) (setting : Update → Option α) (es : List Event) :
    Option α :=
  (es.filterMap (Event.gives parse setting)).getLast?

/-- The last value given to each setting. -/
def lastUpdate (parse : Parser) (es : List Event) : Update where
  width := lastGiven parse Update.width es
  height := lastGiven parse Update.height es
  fps := lastGiven parse Update.fps es
  bitrateKbps := lastGiven parse Update.bitrateKbps es
  encoder := lastGiven parse Update.encoder es
  brightness := lastGiven parse Update.brightness es
  contrast := lastGiven parse Update.contrast es
  colorSaturation := lastGiven parse Update.colorSaturation es
  osdEnabled := lastGiven parse Update.osdEnabled es
  osdText := lastGiven parse Update.osdText es

end Afterveda.Rail
