import Afterveda.Lib.RealText
import Afterveda.Lib.Xml
import Afterveda.Onvif.Discovery

/-!
# The answer to a probe

The answer is written out as text, with the message id of the probe and the configuration between
the tags.  `read_discoveryProbeMatchesXml` reads it as XML: it is always the same elements, with the
texts that were meant.
-/

namespace Afterveda.Onvif

open CText Xml

/-- `xml_escape` writes text. -/
theorem xmlEscape_eq (s : Bytes) : xmlEscape s = escape s := by
  induction s with
  | nil => rfl
  | cons c s ih =>
    rw [escape_cons, xmlEscape, ih]
    congr 1
    by_cases hamp : c = 38
    · rw [hamp]; decide
    by_cases hlt : c = 60
    · rw [hlt]; decide
    by_cases hgt : c = 62
    · rw [hgt]; decide
    by_cases hquot : c = 34
    · rw [hquot]; decide
    by_cases hapos : c = 39
    · rw [hapos]; decide
    rcases escapeByte_cases c with ⟨name, hmem, -⟩ | ⟨hself, -⟩
    · have hchar := List.mem_map_of_mem (f := Prod.snd) hmem
      simp [entities, hamp, hlt, hgt, hquot, hapos] at hchar
    · simp [hamp, hlt, hgt, hquot, hapos, hself]

/-! ### The document -/

/-- An element without attributes, with nothing before it. -/
def element (name : String) (children after : Content) : Content :=
  .element [] (bytes name) [] children after

/-- The prefixes of the answer. -/
def envelopeAttributes : List (Bytes × Bytes) :=
  [(bytes "xmlns:s", bytes "http://www.w3.org/2003/05/soap-envelope"),
    (bytes "xmlns:a", bytes "http://schemas.xmlsoap.org/ws/2004/08/addressing"),
    (bytes "xmlns:d", bytes "http://schemas.xmlsoap.org/ws/2005/04/discovery"),
    (bytes "xmlns:dn", bytes "http://www.onvif.org/ver10/network/wsdl"),
    (bytes "xmlns:tds", bytes "http://www.onvif.org/ver10/device/wsdl")]

/-- The answer with its texts. -/
def probeMatches (messageId relatesTo address scopes xaddrs : Bytes) : Document where
  declaration := [(bytes "version", bytes "1.0"), (bytes "encoding", bytes "UTF-8")]
  name := bytes "s:Envelope"
  attributes := envelopeAttributes
  children :=
    element "s:Header"
      (element "a:Action"
        (.text (bytes "http://schemas.xmlsoap.org/ws/2005/04/discovery/ProbeMatches")) <|
      element "a:MessageID" (.text messageId) <|
      element "a:RelatesTo" (.text relatesTo) <|
      element "a:To"
        (.text (bytes "http://schemas.xmlsoap.org/ws/2004/08/addressing/role/anonymous")) <|
      .text []) <|
    element "s:Body"
      (element "d:ProbeMatches"
        (element "d:ProbeMatch"
          (element "a:EndpointReference" (element "a:Address" (.text address) (.text [])) <|
          element "d:Types" (.text kDiscoveryTypes) <|
          element "d:Scopes" (.text scopes) <|
          element "d:XAddrs" (.text xaddrs) <|
          element "d:MetadataVersion" (.text (bytes "1")) <|
          .text []) <|
        .text []) <|
      .text []) <|
    .text []

theorem wellNamed_probeMatches (messageId relatesTo address scopes xaddrs : Bytes) :
    (probeMatches messageId relatesTo address scopes xaddrs).WellNamed :=
  of_decide_eq_true rfl

theorem render_element (name : String) (children after : Content) :
    (element name children after).render = bytes ("<" ++ name ++ ">") ++
      (children.render ++ (bytes ("</" ++ name ++ ">") ++ after.render)) := by
  rw [element, Content.render]
  simp [renderAttributes, escape, bytes_append]

/-- The declaration and the tag of the root, which is written over several lines. -/
theorem render_open :
    bytes "<?xml" ++ (renderAttributes [(bytes "version", bytes "1.0"),
        (bytes "encoding", bytes "UTF-8")] ++ (bytes "?>" ++ (bytes "<" ++ (bytes "s:Envelope" ++
        (renderAttributes envelopeAttributes ++ bytes ">"))))) =
      bytes "<?xml version=\"1.0\" encoding=\"UTF-8\"?>" ++
        (bytes "<s:Envelope xmlns:s=\"http://www.w3.org/2003/05/soap-envelope\" " ++
        (bytes "xmlns:a=\"http://schemas.xmlsoap.org/ws/2004/08/addressing\" " ++
        (bytes "xmlns:d=\"http://schemas.xmlsoap.org/ws/2005/04/discovery\" " ++
        (bytes "xmlns:dn=\"http://www.onvif.org/ver10/network/wsdl\" " ++
          bytes "xmlns:tds=\"http://www.onvif.org/ver10/device/wsdl\">")))) := by
  decide +kernel

theorem render_root (messageId relatesTo address scopes xaddrs : Bytes) :
    (probeMatches messageId relatesTo address scopes xaddrs).render =
      bytes "<?xml" ++ (renderAttributes [(bytes "version", bytes "1.0"),
          (bytes "encoding", bytes "UTF-8")] ++ (bytes "?>" ++ (bytes "<" ++ (bytes "s:Envelope" ++
          (renderAttributes envelopeAttributes ++ bytes ">"))))) ++
        ((probeMatches messageId relatesTo address scopes xaddrs).children.render ++
          bytes "</s:Envelope>") := by
  have hclose : bytes "</s:Envelope>" = bytes "</" ++ (bytes "s:Envelope" ++ bytes ">") := by decide
  have hempty : escape [] = [] := rfl
  simp only [Document.render, Document.root, Content.render, hclose, hempty, List.nil_append,
    List.append_nil, List.append_assoc]
  rfl

theorem render_probeMatches {messageId : Option CStr} {config : Config} {relatesTo : Option CStr}
    {id : Bytes} (hid : (messageId.map Subtype.val).getD (bytes "uuid:afterveda-probematch") = id)
    (hplain : escape id = id) :
    (probeMatches id ((relatesTo.map Subtype.val).getD []) (discoveryEndpoint config)
        (discoveryScopes config) (discoveryXaddrs config)).render =
      discoveryProbeMatchesXml messageId config relatesTo := by
  have hempty : (Content.text []).render = [] := rfl
  have haction : bytes
      "<a:Action>http://schemas.xmlsoap.org/ws/2005/04/discovery/ProbeMatches</a:Action>" =
      bytes "<a:Action>" ++ ((Content.text
        (bytes "http://schemas.xmlsoap.org/ws/2005/04/discovery/ProbeMatches")).render ++
        bytes "</a:Action>") := by decide
  have hto : bytes
      "<a:To>http://schemas.xmlsoap.org/ws/2004/08/addressing/role/anonymous</a:To>" =
      bytes "<a:To>" ++ ((Content.text
        (bytes "http://schemas.xmlsoap.org/ws/2004/08/addressing/role/anonymous")).render ++
        bytes "</a:To>") := by decide
  have haddress : bytes "<a:EndpointReference><a:Address>" =
      bytes "<a:EndpointReference>" ++ bytes "<a:Address>" := by decide
  have hendpoint : bytes "</a:Address></a:EndpointReference>" =
      bytes "</a:Address>" ++ bytes "</a:EndpointReference>" := by decide
  have htypes : (Content.text kDiscoveryTypes).render = kDiscoveryTypes := by decide
  have hversion : bytes "<d:MetadataVersion>1</d:MetadataVersion>" = bytes "<d:MetadataVersion>" ++
      ((Content.text (bytes "1")).render ++ bytes "</d:MetadataVersion>") := by decide
  rw [render_root, render_open]
  unfold discoveryProbeMatchesXml
  simp only [hid, xmlEscape_eq, haction, hto, haddress, hendpoint, hversion, List.append_assoc]
  simp only [probeMatches, render_element, String.reduceAppend, hempty, htypes, List.append_nil,
    List.append_assoc]
  simp only [Content.render, hplain]

/-! ### What it says -/

/-- What `soap_wsa_rand_uuid` returns: a UUID as a URN. -/
def IsUuidUrn (messageId : Bytes) : Prop :=
  ∃ uuid : Bytes, messageId = bytes "urn:uuid:" ++ uuid ∧ ∀ c ∈ uuid, isHexDigit c = true ∨ c = 45

theorem plain_of_isUuidUrn {messageId : Bytes} (h : IsUuidUrn messageId) : Plain messageId := by
  obtain ⟨uuid, rfl, huuid⟩ := h
  have hstart : Plain (bytes "urn:uuid:") := by decide
  have hrest : Plain uuid := by
    rw [Plain, List.all_eq_true]
    intro c hc
    have hnot : (entities.map Prod.snd).all fun d => ¬(isHexDigit d = true ∨ d = 45) := by
      decide
    exact decide_eq_true fun hmem =>
      of_decide_eq_true (List.all_eq_true.mp hnot c hmem) (huuid c hc)
  rw [Plain, List.all_append, hstart, hrest]
  rfl

/-- The message id of the answer. -/
def ownMessageId (messageId : Option CStr) : Bytes :=
  (messageId.map Subtype.val).getD (bytes "uuid:afterveda-probematch")

theorem plain_ownMessageId {messageId : Option CStr} (h : ∀ id ∈ messageId, IsUuidUrn id.val) :
    Plain (ownMessageId messageId) := by
  cases messageId with
  | none => decide
  | some id => exact plain_of_isUuidUrn (h id rfl)

/-- Escaped text has no markup, its entities are the predefined ones and it stands for the text; so
the answer to a probe is always the same elements around the message id of the probe and the texts
of the configuration. -/
theorem read_discoveryProbeMatchesXml (s : Bytes) (messageId : Option CStr)
    (h : ∀ id ∈ messageId, IsUuidUrn id.val) (config : Config) (relatesTo : Option CStr) :
    ((∀ c ∈ xmlEscape s, c ≠ 60 ∧ c ≠ 62 ∧ c ≠ 34 ∧ c ≠ 39) ∧
      (∀ t, 38 :: t <:+ xmlEscape s → ∃ e ∈ entities, e.1 <+: 38 :: t) ∧
      unescape (xmlEscape s) = some s) ∧
    read (discoveryProbeMatchesXml messageId config relatesTo) =
      some (probeMatches (ownMessageId messageId) ((relatesTo.map Subtype.val).getD [])
        (discoveryEndpoint config) (discoveryScopes config) (discoveryXaddrs config)) := by
  rw [xmlEscape_eq]
  refine ⟨⟨fun c hc => notMem_escape hc, fun t ht => entity_of_suffix ht, unescape_escape s⟩, ?_⟩
  rw [← render_probeMatches rfl (escape_of_plain (plain_ownMessageId h))]
  exact read_render (wellNamed_probeMatches ..)

/-- A probe whose message id looks like markup, to a camera whose name does. -/
theorem read_discoveryProbeMatchesXml_markup :
    read (discoveryProbeMatchesXml
        (some ⟨bytes "urn:uuid:0d6bfa63-1a2b-4c3d-8e4f-001122334455", by decide⟩)
        { deviceName := bytes "R&D <yard>" } (some ⟨bytes "</a:RelatesTo>&amp;", by decide⟩)) =
      some (probeMatches (bytes "urn:uuid:0d6bfa63-1a2b-4c3d-8e4f-001122334455")
        (bytes "</a:RelatesTo>&amp;") (discoveryEndpoint { deviceName := bytes "R&D <yard>" })
        (discoveryScopes { deviceName := bytes "R&D <yard>" })
        (discoveryXaddrs { deviceName := bytes "R&D <yard>" })) :=
  (read_discoveryProbeMatchesXml [] _ (by
    intro id hid
    obtain rfl := Option.some.inj hid
    have hdigits : (bytes "0d6bfa63-1a2b-4c3d-8e4f-001122334455").all fun c =>
        isHexDigit c = true ∨ c = 45 := by
      decide
    exact ⟨bytes "0d6bfa63-1a2b-4c3d-8e4f-001122334455", by decide, fun c hc =>
      of_decide_eq_true (List.all_eq_true.mp hdigits c hc)⟩) _ _).2

end Afterveda.Onvif
