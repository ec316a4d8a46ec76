import Afterveda.Onvif.RailClient

/-!
# The media model

The tokens and the profiles of `media/media_model.cpp`.
-/

namespace Afterveda.Onvif

open CText

structure MediaModel where
  profiles : List VideoProfile
  rtspUri : Bytes
  deriving DecidableEq

def kVideoSourceToken : Bytes := bytes "picam-source"
def kVideoSourceConfigToken : Bytes := bytes "video-source"
def kPtzConfigToken : Bytes := bytes "ptz"
def kMediaSessionTimeout : Bytes := bytes "PT60S"

def mediaModelFromConfig (config : Config) : Service MediaModel := do
  return ⟨← profilesFromRail, config.rtspUri⟩

def encoderTokenForProfile (profile : VideoProfile) : Bytes := bytes "encoder-" ++ profile.token

def profileTokenFromEncoderToken (token : Bytes) : Bytes :=
  if bytes "encoder-" <+: token then token.drop (bytes "encoder-").length else token

/-- The profile has the token or the name. -/
def VideoProfile.named (profile : VideoProfile) (normalized : Bytes) : Bool :=
  profile.token = normalized || profile.name = normalized

def hasProfileToken (model : MediaModel) (token : Bytes) : Bool :=
  model.profiles.any (·.named (profileTokenFromEncoderToken token))

def profileForToken (model : MediaModel) (token : Bytes) : VideoProfile :=
  match model.profiles.find? (·.named (profileTokenFromEncoderToken token)) with
  | some profile => profile
  | none =>
    match model.profiles.find? (·.token = bytes "main") with
    | some profile => profile
    | none => model.profiles.head?.getD {}

end Afterveda.Onvif
