import Afterveda.Lib.GstLaunch
import Afterveda.Rail.Pipeline

/-!
# The OSD text in the launch text

`buildLaunchPipeline` writes the OSD text as a quoted value, escaped by `gstString`, and another
quoted value follows it.  `lexesOsdText_iff` says which OSD texts the lexer reads back: those that
do not end with a backslash.  Any other runs on to the quote of `font-desc=` (`lexes_launchedText`).
-/

namespace Afterveda.Rail

open CText CNumber GstLaunch

/-- What follows the first `text=` of a launch text. -/
def launchedText (launch : Bytes) : Option Bytes :=
  (find launch (bytes "text=")).map fun start => launch.drop (start + (bytes "text=").length)

/-- The lexer takes the value after `text=` for the configured text, and for no more. -/
structure LexesOsdText (config : Config) : Prop where
  lexes : ∃ text, launchedText (buildLaunchPipeline config) = some text ∧
    Lexes text (gstString config.osdText)
  denotes : unquote (gstString config.osdText) = config.osdText

theorem gstString_eq (value : Bytes) : gstString value = quoted (backslashEscape value) := by
  rw [gstString, quoted, List.append_assoc]
  rfl

/-- A quoted OSD text denotes itself. -/
theorem unquote_gstString (value : Bytes) : unquote (gstString value) = value := by
  rw [gstString_eq, unquote_quoted, unescape_backslashEscape]

/-! ### Where the text stands -/

theorem apart_text_toDecimal (n : ℤ) : Apart (bytes "text=") (toDecimal n) := by
  show Apart (116 :: bytes "ext=") (toDecimal n)
  apply apart_of_forall_ne
  rintro c hc rfl
  rcases mem_toDecimal hc with h | h <;> exact absurd h (by decide)

theorem apart_text_formatDouble (x : Double) : Apart (bytes "text=") (formatDouble x) := by
  show Apart (116 :: bytes "ext=") (formatDouble x)
  apply apart_of_forall_ne
  rintro c hc rfl
  rcases mem_formatDouble hc with h | h <;> exact absurd h (by decide)

theorem apart_text_videoBalancePipeline (config : Config) :
    Apart (bytes "text=") (videoBalancePipeline config) := by
  unfold videoBalancePipeline
  refine Apart.append (Apart.append (Apart.append (Apart.append (Apart.append ?_ ?_) ?_) ?_) ?_) ?_
  · decide
  · exact apart_text_formatDouble _
  · decide
  · exact apart_text_formatDouble _
  · decide
  · exact apart_text_formatDouble _

/-- The launch text up to the OSD. -/
def launchHead (config : Config) : Bytes :=
  bytes "( libcamerasrc ! video/x-raw,width=" ++ toDecimal config.width ++
    bytes ",height=" ++ toDecimal config.height ++
    bytes ",framerate=" ++ toDecimal config.fps ++
    bytes "/1,format=NV12,interlace-mode=progressive ! " ++ videoBalancePipeline config ++ bytes " "

theorem apart_text_launchHead (config : Config) : Apart (bytes "text=") (launchHead config) := by
  unfold launchHead
  refine Apart.append (Apart.append (Apart.append (Apart.append (Apart.append (Apart.append
    (Apart.append (Apart.append ?_ ?_) ?_) ?_) ?_) ?_) ?_) ?_) ?_
  · decide
  · exact apart_text_toDecimal _
  · decide
  · exact apart_text_toDecimal _
  · decide
  · exact apart_text_toDecimal _
  · decide
  · exact apart_text_videoBalancePipeline config
  · decide

/-- What stands between the OSD text and the next quoted value. -/
def overlayOptions : Bytes :=
  bytes " valignment=top halignment=left shaded-background=true font-desc="

/-- The launch text from inside the font's quotes on. -/
def launchTail (config : Config) : Bytes :=
  bytes "Sans, 24\" ! videoconvert ! video/x-raw,format=NV12 " ++ (bytes "! queue ! " ++
    (encoderPipeline config ++ bytes " ! rtph264pay config-interval=1 name=pay0 pt=96 )"))

/-- After `text=` stand the quoted OSD text, the options of the overlay and another quoted value. -/
theorem launchedText_buildLaunchPipeline {config : Config} (henabled : config.osdEnabled = true)
    (htext : config.osdText ≠ []) :
    launchedText (buildLaunchPipeline config) =
      some (gstString config.osdText ++ (overlayOptions ++ 34 :: launchTail config)) := by
  have hosd : osdPipeline config = bytes "! videoconvert ! textoverlay text=" ++
      gstString config.osdText ++ overlayOptions ++ gstString (bytes "Sans, 24") ++
      bytes " ! videoconvert ! video/x-raw,format=NV12 " := by
    rw [osdPipeline, if_neg (by simp [henabled, htext])]
    rfl
  have hfont : gstString (bytes "Sans, 24") = 34 :: bytes "Sans, 24\"" := by decide
  have hlaunch : buildLaunchPipeline config =
      (launchHead config ++ bytes "! videoconvert ! textoverlay ") ++ (bytes "text=" ++
        (gstString config.osdText ++ (overlayOptions ++ 34 :: launchTail config))) := by
    have hmarker : bytes "! videoconvert ! textoverlay text=" =
        bytes "! videoconvert ! textoverlay " ++ bytes "text=" := by decide
    have htail : bytes "Sans, 24\" ! videoconvert ! video/x-raw,format=NV12 " =
        bytes "Sans, 24\"" ++ bytes " ! videoconvert ! video/x-raw,format=NV12 " := by decide
    rw [buildLaunchPipeline, hosd, hfont, hmarker, launchHead, launchTail, htail]
    simp only [List.append_assoc, List.cons_append]
  have hapart :
      Apart (bytes "text=") (launchHead config ++ bytes "! videoconvert ! textoverlay ") :=
    (apart_text_launchHead config).append (by decide)
  rw [launchedText, hlaunch, find_at hapart, Option.map_some, ← List.drop_drop, List.drop_left,
    List.drop_left]

/-! ### Which texts are read back -/

/-- What the lexer takes for an OSD text that ends with a backslash. -/
theorem lexes_launchedText {config : Config} (hlast : config.osdText.getLast? = some 92) :
    Lexes (gstString config.osdText ++ (overlayOptions ++ 34 :: launchTail config))
      (quoted (backslashEscape config.osdText ++ 34 :: overlayOptions)) := by
  rw [gstString_eq, quoted_append]
  exact lexes_past (quotedBody_backslashEscape _) ((getLast?_backslashEscape _).trans hlast)
    (by decide) (by decide) (launchTail config)

/-- The OSD text is read back exactly when it does not end with a backslash. -/
theorem lexesOsdText_iff {config : Config} (henabled : config.osdEnabled = true)
    (htext : config.osdText ≠ []) :
    LexesOsdText config ↔ config.osdText.getLast? ≠ some 92 := by
  have hlaunched := launchedText_buildLaunchPipeline henabled htext
  have hquote : 34 ∉ overlayOptions := by decide
  have hiff := lexes_escaped_iff config.osdText hquote (by decide) (launchTail config)
  rw [← gstString_eq] at hiff
  constructor
  · rintro ⟨⟨text, hfollows, hlexes⟩, -⟩
    obtain rfl := Option.some.inj (hlaunched.symm.trans hfollows)
    exact hiff.mp hlexes
  · intro hlast
    exact ⟨⟨_, hlaunched, hiff.mpr hlast⟩, unquote_gstString _⟩

/-- A text with quotes and backslashes inside is read back. -/
theorem lexesOsdText_iff_quotes :
    LexesOsdText { osdEnabled := true, osdText := bytes "a \\\" ! fakesink \\\\\"" } :=
  (lexesOsdText_iff rfl (by decide)).mpr (by decide)

/-- The lexer takes the text `C:\` together with what follows, up to the font's quote. -/
theorem not_lexesOsdText_drive :
    ∃ config : Config, config.osdEnabled = true ∧ config.osdText = bytes "C:\\" ∧
      config.osdText.length ≤ 128 ∧ ¬LexesOsdText config ∧
      ∃ text, launchedText (buildLaunchPipeline config) = some text ∧
        Lexes text (bytes "\"C:\\\\\"" ++ overlayOptions ++ bytes "\"") := by
  let config : Config := { osdEnabled := true, osdText := bytes "C:\\" }
  have henabled : config.osdEnabled = true := rfl
  have hlast : config.osdText.getLast? = some 92 := by decide
  have hlaunched := launchedText_buildLaunchPipeline henabled (by decide)
  have hpast := lexes_launchedText hlast
  refine ⟨config, henabled, rfl, by decide, ?_, _, hlaunched, hpast⟩
  rintro ⟨⟨text, hfollows, hlexes⟩, -⟩
  obtain rfl := Option.some.inj (hlaunched.symm.trans hfollows)
  exact absurd (hlexes.unique hpast) (by decide)

end Afterveda.Rail
