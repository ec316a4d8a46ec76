import Afterveda.Onvif.App
import Afterveda.Onvif.Equiv.Discovery
import Afterveda.Onvif.Equiv.Scopes

/-!
# The identity of the camera

`uuid_from_serial` hashes the serial number to 32 bits.  Each round of the hash is one-to-one in the
hash and in the byte, so two serial numbers that differ in one byte give two UUIDs
(`uuidFromSerial_ne`).

* `messages_identify`: all that a camera says in WS-Discovery names one endpoint and leads to the
  device service it lists, and a camera with such another serial number never says the same.
-/

namespace Afterveda.Onvif

open CText Soap Xml

/-! ### The hash -/

/-- A round of the hash in `uuidFromSerial`. -/
def hashRound (hash : BitVec 32) (c : UInt8) : BitVec 32 :=
  (hash ^^^ BitVec.ofNat 32 c.toNat) * 16777619

theorem uuidFromSerial_eq (serial : Bytes) :
    uuidFromSerial serial = bytes "00000000-0000-4000-8000-" ++
      (toHex 8 (serial.foldl hashRound 2166136261).toNat ++ bytes "0000") := by
  rw [uuidFromSerial, ← List.append_assoc]
  rfl

/-- The multiplier is odd, so it can be divided out. -/
theorem mul_prime_inj {a b : BitVec 32} (h : a * 16777619 = b * 16777619) : a = b := by
  have hinverse : (16777619 : BitVec 32) * 899433627 = 1 := by decide
  have hback : ∀ x : BitVec 32, x * 16777619 * 899433627 = x := by
    intro x
    rw [BitVec.mul_assoc, hinverse]
    exact BitVec.mul_one x
  rw [← hback a, h, hback b]

theorem hashRound_left_inj {a b : BitVec 32} {c : UInt8} (h : hashRound a c = hashRound b c) :
    a = b := by
  have hxor := mul_prime_inj h
  exact (BitVec.xor_left_inj _).mp hxor

theorem hashRound_right_inj {a : BitVec 32} {c d : UInt8} (h : hashRound a c = hashRound a d) :
    c = d := by
  have hbyte : BitVec.ofNat 32 c.toNat = BitVec.ofNat 32 d.toNat :=
    (BitVec.xor_right_inj _).mp (mul_prime_inj h)
  have hvalue := congrArg BitVec.toNat hbyte
  rw [BitVec.toNat_ofNat, BitVec.toNat_ofNat] at hvalue
  have hc := c.toNat_lt
  have hd := d.toNat_lt
  apply UInt8.toNat_inj.mp
  omega

/-- What follows does not bring two hashes together. -/
theorem foldl_hashRound_inj {s : Bytes} {a b : BitVec 32}
    (h : s.foldl hashRound a = s.foldl hashRound b) : a = b := by
  induction s generalizing a b with
  | nil => exact h
  | cons c s ih =>
    have hround : hashRound a c = hashRound b c := ih h
    exact hashRound_left_inj hround

/-! ### The digits -/

theorem toHex_inj {n v w : ℕ} (h : toHex n v = toHex n w) : v % 16 ^ n = w % 16 ^ n := by
  induction n generalizing v w with
  | zero => simp [Nat.mod_one]
  | succ n ih =>
    have hdigit : ∀ d < 16, ∀ e < 16,
        (if d < 10 then UInt8.ofNat (48 + d) else UInt8.ofNat (87 + d)) =
          (if e < 10 then UInt8.ofNat (48 + e) else UInt8.ofNat (87 + e)) → d = e := by
      decide
    rw [toHex, toHex] at h
    obtain ⟨hfront, hlast⟩ := List.append_inj' h rfl
    have hrest := ih hfront
    have hlow := hdigit _ (Nat.mod_lt v (by omega)) _ (Nat.mod_lt w (by omega))
      (List.singleton_inj.mp hlast)
    rw [pow_succ', Nat.mod_mul, Nat.mod_mul, hlow, hrest]

/-- Digits hold no NUL. -/
theorem notMem_toHex (n v : ℕ) : 0 ∉ toHex n v := by
  induction n generalizing v with
  | zero => exact List.not_mem_nil
  | succ n ih =>
    have hdigit : ∀ d < 16,
        (0 : UInt8) ≠ if d < 10 then UInt8.ofNat (48 + d) else UInt8.ofNat (87 + d) := by
      decide
    rw [toHex]
    intro hmem
    rcases List.mem_append.mp hmem with h | h
    · exact ih _ h
    · exact hdigit _ (Nat.mod_lt v (by omega)) (List.mem_singleton.mp h)

/-! ### Serial numbers -/

/-- The texts differ in one byte, and in no other. -/
def OneByteApart (a b : Bytes) : Prop :=
  ∃ pre c d post, c ≠ d ∧ a = pre ++ c :: post ∧ b = pre ++ d :: post

/-- Serial numbers that differ in one byte have two UUIDs. -/
theorem uuidFromSerial_ne {a b : Bytes} (h : OneByteApart a b) :
    uuidFromSerial a ≠ uuidFromSerial b := by
  obtain ⟨pre, c, d, post, hne, rfl, rfl⟩ := h
  rw [uuidFromSerial_eq, uuidFromSerial_eq]
  intro huuid
  have hdigits := toHex_inj (List.append_cancel_right (List.append_cancel_left huuid))
  -- eight digits hold all of the hash
  have hsmall : ∀ x : BitVec 32, x.toNat % 16 ^ 8 = x.toNat := by
    intro x
    have hlt := x.isLt
    omega
  rw [hsmall, hsmall] at hdigits
  have hhash := BitVec.eq_of_toNat_eq hdigits
  rw [List.foldl_append, List.foldl_append, List.foldl_cons, List.foldl_cons] at hhash
  exact hne (hashRound_right_inj (foldl_hashRound_inj hhash))

theorem discoveryEndpoint_ne {config config' : Config}
    (h : OneByteApart config.serial config'.serial) :
    discoveryEndpoint config ≠ discoveryEndpoint config' := by
  intro heq
  exact uuidFromSerial_ne h (List.append_cancel_left heq)

/-! ### Messages -/

/-- What a message says of the camera it comes from. -/
def Message.Says (endpoint scopes xaddrs : Bytes) : Message → Prop
  | .hello a | .resolveMatches a | .bye a => a = ⟨endpoint, kDiscoveryTypes, scopes, xaddrs, 1⟩
  | .probeMatches xml => ∃ messageId relatesTo,
      read xml = some (Afterveda.Onvif.probeMatches messageId relatesTo endpoint scopes xaddrs)

/-- The ids of the answers to probes are those of gSOAP. -/
def App.Event.NamedByUuid : App.Event → Prop
  | .probe messageId _ _ => ∀ id ∈ messageId, IsUuidUrn id.val
  | _ => True

theorem notMem_discoveryEndpoint (config : Config) : 0 ∉ discoveryEndpoint config := by
  have hstart : 0 ∉ bytes "urn:uuid:" := by decide
  have hfront : 0 ∉ bytes "00000000-0000-4000-8000-" := by decide
  have hback : 0 ∉ bytes "0000" := by decide
  rw [discoveryEndpoint, uuidFromSerial_eq]
  simp only [List.mem_append, not_or]
  exact ⟨hstart, hfront, notMem_toHex _ _, hback⟩

theorem notMem_discoveryXaddrs {config : Config} (h : CommandLine.Sound config) :
    0 ∉ discoveryXaddrs config := by
  have hhost : 0 ∉ config.xaddrHost := h.texts _ (by simp [Config.texts])
  have hport : 0 ∉ toDecimal config.onvifPort := by
    intro hmem
    rcases mem_toDecimal hmem with hc | hc <;> exact absurd hc (by decide)
  have hscheme : 0 ∉ bytes "http://" := by decide
  have hcolon : 0 ∉ bytes ":" := by decide
  have hbase : 0 ∉ bytes "/onvif" := by decide
  have hpath : 0 ∉ bytes "/device_service" := by decide
  rw [discoveryXaddrs, xaddrBase]
  simp only [List.mem_append, not_or]
  exact ⟨⟨⟨⟨⟨hscheme, hhost⟩, hcolon⟩, hport⟩, hbase⟩, hpath⟩

theorem notMem_discoveryScopes {config : Config} (h : CommandLine.Sound config) :
    0 ∉ discoveryScopes config := by
  have hname : 0 ∉ config.deviceName := h.texts _ (by simp [Config.texts])
  have hhardware : 0 ∉ config.hardwareId := h.texts _ (by simp [Config.texts])
  have hone : 0 ∉ bytes "onvif://www.onvif.org/name/" := by decide
  have htwo : 0 ∉ bytes " onvif://www.onvif.org/hardware/" := by decide
  have hthree : 0 ∉ bytes " onvif://www.onvif.org/type/video_encoder" := by decide
  have hfour : 0 ∉ bytes " onvif://www.onvif.org/type/NetworkVideoTransmitter" := by decide
  have hfive : 0 ∉ bytes " onvif://www.onvif.org/location/country/Korea" := by decide
  rw [discoveryScopes]
  simp only [List.mem_append, not_or]
  exact ⟨⟨⟨⟨⟨⟨hone, hname⟩, htwo⟩, hhardware⟩, hthree⟩, hfour⟩, hfive⟩

/-- No text of an announcement is cut. -/
theorem announcement_eq {config : Config} (h : CommandLine.Sound config) :
    announcement config = ⟨discoveryEndpoint config, kDiscoveryTypes, discoveryScopes config,
      discoveryXaddrs config, 1⟩ := by
  rw [announcement, cString_of_notMem (notMem_discoveryEndpoint config),
    cString_of_notMem (notMem_discoveryScopes h), cString_of_notMem (notMem_discoveryXaddrs h)]

theorem probeMatches_inj {i i' r r' a a' s s' x x' : Bytes}
    (h : probeMatches i r a s x = probeMatches i' r' a' s' x') : a = a' ∧ s = s' ∧ x = x' := by
  have hchildren := congrArg Document.children h
  simp only [probeMatches, element, Content.element.injEq, Content.text.injEq] at hchildren
  tauto

theorem says_announcement {config : Config} (h : CommandLine.Sound config)
    {endpoint scopes xaddrs : Bytes} :
    announcement config = ⟨endpoint, kDiscoveryTypes, scopes, xaddrs, 1⟩ ↔
      endpoint = discoveryEndpoint config ∧ scopes = discoveryScopes config ∧
        xaddrs = discoveryXaddrs config := by
  rw [announcement_eq h]
  constructor
  · intro heq
    rw [Announcement.mk.injEq] at heq
    exact ⟨heq.1.symm, heq.2.2.1.symm, heq.2.2.2.1.symm⟩
  · rintro ⟨rfl, rfl, rfl⟩
    rfl

/-- The answer to a probe is read as the texts of the configuration. -/
theorem says_probeMatches {config : Config} {messageId : Option CStr}
    (h : ∀ id ∈ messageId, IsUuidUrn id.val) (relatesTo : Option CStr)
    {endpoint scopes xaddrs : Bytes} :
    (Message.probeMatches (discoveryProbeMatchesXml messageId config relatesTo)).Says
        endpoint scopes xaddrs ↔
      endpoint = discoveryEndpoint config ∧ scopes = discoveryScopes config ∧
        xaddrs = discoveryXaddrs config := by
  have hread : read (discoveryProbeMatchesXml messageId config relatesTo) =
      some (probeMatches (ownMessageId messageId) ((relatesTo.map Subtype.val).getD [])
        (discoveryEndpoint config) (discoveryScopes config) (discoveryXaddrs config)) := by
    rw [← render_probeMatches rfl (escape_of_plain (plain_ownMessageId h))]
    exact read_render (wellNamed_probeMatches ..)
  constructor
  · rintro ⟨id, relates, hsaid⟩
    rw [hread] at hsaid
    obtain ⟨hendpoint, hscopes, hxaddrs⟩ := probeMatches_inj (Option.some.inj hsaid)
    exact ⟨hendpoint.symm, hscopes.symm, hxaddrs.symm⟩
  · rintro ⟨rfl, rfl, rfl⟩
    exact ⟨_, _, hread⟩

/-- Every message of a camera says the same of it. -/
theorem says_iff {config : Config} (h : CommandLine.Sound config) {e : App.Event}
    (he : e.NamedByUuid) {m : Message} (hm : e.sent config = some m)
    {endpoint scopes xaddrs : Bytes} :
    m.Says endpoint scopes xaddrs ↔ endpoint = discoveryEndpoint config ∧
      scopes = discoveryScopes config ∧ xaddrs = discoveryXaddrs config := by
  cases e with
  | hello ctx =>
    rw [App.Event.sent, announceDiscoveryHello] at hm
    split_ifs at hm
    obtain rfl := Option.some.inj hm
    exact says_announcement h
  | bye ctx =>
    rw [App.Event.sent, announceDiscoveryBye] at hm
    split_ifs at hm
    obtain rfl := Option.some.inj hm
    exact says_announcement h
  | resolve =>
    obtain rfl := Option.some.inj hm
    exact says_announcement h
  | probe messageId relatesTo peer =>
    rw [App.Event.sent, wsddEventProbe] at hm
    split_ifs at hm
    obtain rfl := Option.some.inj hm
    exact says_probeMatches he relatesTo
  | _ => cases hm

/-! ### Cameras -/

/-- The device service is listed under the address that discovery announces. -/
theorem run_tdsGetServices {σ : Type} {ctx : Context} {host : (c : Call) → σ → c.Answer × σ} {s : σ}
    {response : List ServiceEntry} (hsound : CommandLine.Sound ctx.config)
    (h : ((tdsGetServices ctx).run host s).1 = .ok response) :
    ∃ entry ∈ response, entry.ns = bytes "http://www.onvif.org/ver10/device/wsdl" ∧
      entry.xaddr = discoveryXaddrs ctx.config := by
  unfold tdsGetServices authenticate at h
  cases hauth : requireAuth ctx with
  | error fault =>
    rw [hauth] at h
    cases h
  | ok =>
    rw [hauth] at h
    obtain rfl := Except.ok.inj h
    have hxaddr : cString (xaddrBase ctx.config ++ bytes "/device_service") =
        discoveryXaddrs ctx.config :=
      cString_of_notMem (notMem_discoveryXaddrs hsound)
    exact ⟨_, List.mem_cons_self .., rfl, hxaddr⟩

/-- **One camera, one identity**: in every order of its threads, whatever a camera sends in
WS-Discovery (the hello, the bye, and the answers to probes and resolves) names one endpoint, the
same scopes, and the address under which `GetServices` lists the device service.  Nothing that a
camera sends names the endpoint of a camera whose serial number differs in one byte. -/
theorem messages_identify {argv : List CStr} {config : Config}
    (hargs : CommandLine.parseArgs argv = .ok config) {maxKeepAlive : ℕ} {es : List App.Event}
    {s : App} (h : (App.machine maxKeepAlive).Reaches (fun _ e => e.NamedByUuid) es s) :
    (∀ m ∈ es.filterMap (App.Event.sent config), ∀ endpoint scopes xaddrs,
      m.Says endpoint scopes xaddrs ↔ endpoint = discoveryEndpoint config ∧
        scopes = discoveryScopes config ∧ xaddrs = discoveryXaddrs config) ∧
    (∀ (σ : Type) (host : (c : Call) → σ → c.Answer × σ) (ctx : Context) (u : σ) response,
      ctx.config = config → ((tdsGetServices ctx).run host u).1 = .ok response →
        ∃ entry ∈ response, entry.ns = bytes "http://www.onvif.org/ver10/device/wsdl" ∧
          entry.xaddr = discoveryXaddrs config) ∧
    ∀ argv' config' maxKeepAlive' es' s', CommandLine.parseArgs argv' = .ok config' →
      OneByteApart config.serial config'.serial →
        (App.machine maxKeepAlive').Reaches (fun _ e => e.NamedByUuid) es' s' →
          ∀ m ∈ es.filterMap (App.Event.sent config), ∀ m' ∈ es'.filterMap (App.Event.sent config'),
            ∀ endpoint scopes xaddrs scopes' xaddrs', m.Says endpoint scopes xaddrs →
              ¬m'.Says endpoint scopes' xaddrs' := by
  have hsound := CommandLine.sound_of_parseArgs hargs
  have hnamed := h.forall_mem
  have hsaid : ∀ m ∈ es.filterMap (App.Event.sent config), ∀ endpoint scopes xaddrs,
      m.Says endpoint scopes xaddrs ↔ endpoint = discoveryEndpoint config ∧
        scopes = discoveryScopes config ∧ xaddrs = discoveryXaddrs config := by
    intro m hm endpoint scopes xaddrs
    obtain ⟨e, he, hsent⟩ := List.mem_filterMap.mp hm
    exact says_iff hsound (hnamed e he) hsent
  refine ⟨hsaid, ?_, ?_⟩
  · rintro σ host ctx u response rfl hresponse
    exact run_tdsGetServices hsound hresponse
  · intro argv' config' maxKeepAlive' es' s' hargs' hserial h' m hm m' hm' endpoint scopes xaddrs
      scopes' xaddrs' hfirst hsecond
    obtain ⟨e', he', hsent'⟩ := List.mem_filterMap.mp hm'
    have hours := ((hsaid m hm _ _ _).mp hfirst).1
    have htheirs := ((says_iff (CommandLine.sound_of_parseArgs hargs') (h'.forall_mem e' he')
      hsent').mp hsecond).1
    exact discoveryEndpoint_ne hserial (hours.symm.trans htheirs)

/-- A camera says hello. -/
def greetingRun : List App.Event :=
  [.launch, .discoveryContext true, .discoveryBind true, .hello true]

theorem reaches_greetingRun :
    ∃ s, (App.machine 100).Reaches (fun _ e => e.NamedByUuid) greetingRun s := by
  have hrun : (App.machine 100).run {} greetingRun =
      some { discovery := .checking, http := .opening } := by
    decide
  have hnamed : (App.machine 100).Allows (fun _ e => e.NamedByUuid) {} greetingRun :=
    ⟨trivial, fun _ _ => ⟨trivial, fun _ _ => ⟨trivial, fun _ _ => ⟨trivial, fun _ _ => trivial⟩⟩⟩⟩
  exact ⟨_, (Machine.Reaches.start rfl).append_run hnamed hrun⟩

/-- Two cameras with consecutive serial numbers say hello under two names. -/
theorem messages_identify_neighbour :
    ¬(Message.hello (announcement { serial := bytes "AVR-0002" })).Says
      (discoveryEndpoint { serial := bytes "AVR-0001" })
      (discoveryScopes { serial := bytes "AVR-0001" })
      (discoveryXaddrs { serial := bytes "AVR-0001" }) := by
  have hargs : CommandLine.parseArgs
      [⟨bytes "--serial", by decide⟩, ⟨bytes "AVR-0001", by decide⟩] =
      .ok { serial := bytes "AVR-0001" } := by
    decide
  have hargs' : CommandLine.parseArgs
      [⟨bytes "--serial", by decide⟩, ⟨bytes "AVR-0002", by decide⟩] =
      .ok { serial := bytes "AVR-0002" } := by
    decide
  have hserial : OneByteApart (bytes "AVR-0001") (bytes "AVR-0002") :=
    ⟨bytes "AVR-000", 49, 50, [], by decide, by decide, by decide⟩
  obtain ⟨s, hreaches⟩ := reaches_greetingRun
  have hcamera := messages_identify hargs hreaches
  have hhello : ∀ config : Config, Message.hello (announcement config) ∈
      greetingRun.filterMap (App.Event.sent config) := fun config => List.mem_singleton_self _
  exact hcamera.2.2 _ _ _ _ _ hargs' hserial hreaches _ (hhello _) _ (hhello _) _ _ _ _ _
    ((hcamera.1 _ (hhello _) _ _ _).mpr ⟨rfl, rfl, rfl⟩)

end Afterveda.Onvif
