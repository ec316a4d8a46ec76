import Afterveda.Onvif.RailClient
import Afterveda.Rail.Equiv.Json

/-!
# Strings in JSON

Both copies of `json_escape` put a backslash before quotes and backslashes and leave everything else
as it stands.  `carriesJson_iff` says for which strings that makes JSON: those without a character
below U+0020.  It covers the string literals of both copies, the body that the client posts to
`/osd` and the documents of rail-media (`Rail.Document`).
-/

namespace Afterveda.Onvif

open CText CNumber Json
open JsonGlib (Parser)
open Rail (MountPoints Document errorMembers osdMembers)

/-- The layout of the bodies the client posts. -/
def bodyLayout : Layout where
  margin := []
  gap := []
  last := []
  after := []
  margin_space := space_nil
  gap_space := space_nil
  last_space := space_nil
  after_space := space_nil

/-- What the body posted to `/osd` is to denote. -/
def osdValue (settings : OsdSettings) : Value :=
  objectOf (osdMembers .boolean .string settings.enabled settings.text)

theorem osdBody_print (settings : OsdSettings) :
    osdBody settings =
      bodyLayout.print (osdMembers .boolean .string settings.enabled settings.text) := by
  simp only [osdBody, Layout.print, Layout.members, Layout.member, osdMembers, Scalar.text_string,
    Scalar.text_boolean, quoted, List.append_assoc, List.cons_append]
  rfl

/-- The body posted to `/osd` denotes the settings exactly when the text has no control character.
-/
theorem isText_osdBody_iff {settings : OsdSettings} (hutf8 : Utf8 settings.text) :
    IsText (osdBody settings) (osdValue settings) ↔ NoControl settings.text := by
  have hnames : PlainNames (osdMembers .boolean .string settings.enabled settings.text) := by
    show ∀ name ∈ [bytes "enabled", bytes "text"], Printable name
    decide
  have hstrings : stringsOf (osdMembers .boolean .string settings.enabled settings.text) =
      [settings.text] := rfl
  have hne : osdMembers Scalar.boolean Scalar.string settings.enabled settings.text ≠ [] :=
    List.cons_ne_nil _ _
  have hiff := bodyLayout.isText_print_iff hne hnames
  rw [hstrings, List.forall_mem_singleton, List.forall_mem_singleton] at hiff
  rw [osdBody_print]
  exact hiff hutf8

variable {T : Type} {points : MountPoints T} {parse : Parser}

/-- **The documents carry their strings**: an escaped string in quotes is a literal that denotes it,
and each document denotes what it is given, exactly when there is no character below U+0020. -/
theorem carriesJson_iff :
    (∀ s, Utf8 s → (IsString (34 :: (Rail.jsonEscape s ++ [34])) s ↔ NoControl s)) ∧
    (∀ s, Utf8 s → (IsString (34 :: (jsonEscape s ++ [34])) s ↔ NoControl s)) ∧
    (∀ settings : OsdSettings, Utf8 settings.text →
      (IsText (osdBody settings) (osdValue settings) ↔ NoControl settings.text)) ∧
    ∀ d : Document points parse, (∀ s ∈ d.strings, Utf8 s) →
      (IsText d.text d.value ↔ ∀ s ∈ d.strings, NoControl s) :=
  ⟨fun _ hs => isString_quoted_iff hs, fun _ hs => isString_quoted_iff hs,
    fun _ hs => isText_osdBody_iff hs, fun d hs => d.isText_iff hs⟩

/-- A text with quotes, a backslash and characters of two and three bytes. -/
theorem carriesJson_iff_gate :
    IsText (osdBody ⟨true, bytes "é \"정문\" \\ 1"⟩) (osdValue ⟨true, bytes "é \"정문\" \\ 1"⟩) ∧
    IsText (Rail.osdJson { osdText := bytes "\"정문\"" })
      (objectOf (osdMembers .boolean .string true (bytes "\"정문\""))) := by
  obtain ⟨-, -, hbody, hdocument⟩ := @carriesJson_iff _ Rail.mountTable JsonGlib.flatParser
  refine ⟨(hbody _ (utf8_bytes _)).mpr (by decide), ?_⟩
  refine (hdocument (.osd { osdText := bytes "\"정문\"" }) ?_).mpr ?_
  · exact List.forall_mem_singleton.mpr (utf8_bytes _)
  · exact List.forall_mem_singleton.mpr (by decide)

/-- A line feed makes no literal, and the body posted for a text of two lines is no JSON text. -/
theorem not_carriesJson_lines :
    Utf8 (bytes "gate\n1") ∧
      ¬IsString (34 :: (jsonEscape (bytes "gate\n1") ++ [34])) (bytes "gate\n1") ∧
      ¬IsString (34 :: (Rail.jsonEscape (bytes "gate\n1") ++ [34])) (bytes "gate\n1") ∧
      ∀ value, ¬IsText (osdBody ⟨true, bytes "gate\n1"⟩) value := by
  have hutf8 := utf8_bytes "gate\n1"
  have hcontrol : ¬NoControl (bytes "gate\n1") := by decide
  have hliteral : ¬IsString (quoted (bytes "gate\n1")) (bytes "gate\n1") :=
    fun h => hcontrol ((isString_quoted_iff hutf8).mp h)
  refine ⟨hutf8, hliteral, hliteral, fun value h => ?_⟩
  have hrun : Place.outside.run (osdBody ⟨true, bytes "gate\n1"⟩) = none := by decide
  rw [h.run] at hrun
  cases hrun

end Afterveda.Onvif
