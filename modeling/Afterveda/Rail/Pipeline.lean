import Afterveda.Lib.RealText
import Afterveda.Rail.Config

/-!
# The launch pipeline

`pipeline.cpp`: the gst-launch text of a configuration.
-/

namespace Afterveda.Rail

open CText CNumber

def balanceBrightness : Double → Double
  | .finite value => .finite ((value - 50) / 50)
  | value => value

def balanceMultiplier : Double → Double
  | .finite value => .finite (value / 50)
  | value => value

def videoBalancePipeline (config : Config) : Bytes :=
  bytes "videobalance brightness=" ++ formatDouble (balanceBrightness config.brightness) ++
    bytes " contrast=" ++ formatDouble (balanceMultiplier config.contrast) ++
    bytes " saturation=" ++ formatDouble (balanceMultiplier config.colorSaturation)

def gstString (value : Bytes) : Bytes := bytes "\"" ++ backslashEscape value ++ bytes "\""

def osdPipeline (config : Config) : Bytes :=
  if config.osdEnabled = false ∨ config.osdText = [] then []
  else
    bytes "! videoconvert ! textoverlay text=" ++ gstString config.osdText ++
      bytes " valignment=top halignment=left shaded-background=true font-desc=" ++
      gstString (bytes "Sans, 24") ++ bytes " ! videoconvert ! video/x-raw,format=NV12 "

/-- The encoder stage; the products are 32-bit. -/
def encoderPipeline (config : Config) : Bytes :=
  if config.encoder = bytes "v4l2" then
    bytes "v4l2h264enc extra-controls=\"controls,repeat_sequence_header=1,video_bitrate=" ++
      toDecimal (wrap32 (config.bitrateKbps * 1000)) ++
      bytes "\" ! video/x-h264,level=(string)4 ! h264parse"
  else
    bytes "x264enc bitrate=" ++ toDecimal config.bitrateKbps ++
      bytes " speed-preset=ultrafast tune=zerolatency key-int-max=" ++
      toDecimal (wrap32 (config.fps * 2)) ++ bytes " threads=1 ! h264parse config-interval=1"

def buildLaunchPipeline (config : Config) : Bytes :=
  bytes "( libcamerasrc ! video/x-raw,width=" ++ toDecimal config.width ++
    bytes ",height=" ++ toDecimal config.height ++
    bytes ",framerate=" ++ toDecimal config.fps ++
    bytes "/1,format=NV12,interlace-mode=progressive ! " ++ videoBalancePipeline config ++
    bytes " " ++ osdPipeline config ++ bytes "! queue ! " ++ encoderPipeline config ++
    bytes " ! rtph264pay config-interval=1 name=pay0 pt=96 )"

end Afterveda.Rail
