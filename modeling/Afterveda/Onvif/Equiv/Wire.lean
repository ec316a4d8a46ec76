import Afterveda.Onvif.Equiv.HttpClient
import Afterveda.Onvif.Equiv.Session
import Afterveda.Onvif.Wire

/-!
# The services over HTTP

Each request the client writes is the text of a request of HTTP/1.1 (`exists_wire`), so rail-media
gets what the service asked for, and the client reads rail-media's own answer.

* `serveAll_wire`: a session over connections to rail-media's port is the session of direct calls,
  in its results and in what it makes of rail-media.
-/

namespace Afterveda.Onvif.HttpClient

open CText CNumber Http JsonGlib Soap

/-! ### Requests -/

theorem word_of_plainPath {path : Bytes} (h : PlainPath path) : Word path := by
  obtain ⟨hhead, htail⟩ := h
  have hletter : ∀ c : UInt8, isSmallLetter c = true → (c ≠ 13 ∧ c ≠ 10) ∧ c ≠ 32 := by
    intro c hc
    refine ⟨⟨?_, ?_⟩, ?_⟩ <;> rintro rfl <;> exact absurd hc (by decide)
  rw [List.all_eq_true] at htail
  cases path with
  | nil => cases hhead
  | cons c tail =>
    obtain rfl : c = 47 := Option.some.inj hhead
    refine ⟨Response.inLine_cons (by decide) fun c hc => (hletter c (htail c hc)).1, ?_⟩
    intro hmem
    rcases List.mem_cons.mp hmem with h | h
    · exact absurd h (by decide)
    · exact (hletter 32 (htail 32 h)).2 rfl

theorem mem_wireFields {authority body : Bytes} {f : Field} (h : f ∈ wireFields authority body) :
    f = ⟨bytes "Host", bytes " " ++ authority⟩ ∨ f = ⟨bytes "Connection", bytes " close"⟩ ∨
      f = ⟨bytes "Content-Length", 32 :: toDecimal body.length⟩ ∨
      f = ⟨bytes "Content-Type", bytes " application/json"⟩ := by
  unfold wireFields at h
  rcases List.mem_append.mp h with h | h
  · simp only [List.mem_cons, List.not_mem_nil, or_false] at h
    rcases h with h | h | h
    · exact Or.inl h
    · exact Or.inr (Or.inl h)
    · exact Or.inr (Or.inr (Or.inl h))
  · split_ifs at h with hbody
    · cases h
    · exact Or.inr (Or.inr (Or.inr (List.mem_singleton.mp h)))

theorem wireFields_inLine {authority : Bytes} (h : InLine authority) (body : Bytes) :
    ∀ f ∈ wireFields authority body, f.name ≠ [] ∧ InLine f.name ∧ InLine f.value := by
  have hhost : bytes "Host" ≠ [] ∧ InLine (bytes "Host") := by decide
  have hlength : bytes "Content-Length" ≠ [] ∧ InLine (bytes "Content-Length") := by decide
  intro f hf
  rcases mem_wireFields hf with rfl | rfl | rfl | rfl
  · exact ⟨hhost.1, hhost.2, Response.inLine_append (by decide) h⟩
  · exact ⟨by decide, by decide, by decide⟩
  · exact ⟨hlength.1, hlength.2, inLine_toDecimal body.length⟩
  · exact ⟨by decide, by decide, by decide⟩

theorem colon_wireFields {authority body : Bytes} :
    ∀ f ∈ wireFields authority body, 58 ∉ f.name := by
  have hnames : ∀ name ∈ [bytes "Host", bytes "Connection", bytes "Content-Length",
      bytes "Content-Type"], 58 ∉ name := by
    decide
  intro f hf
  rcases mem_wireFields hf with rfl | rfl | rfl | rfl <;> exact hnames _ (by simp)

/-- The one field with the name of a length is the length of the body. -/
theorem wireFields_framed {authority body : Bytes} :
    ∀ f ∈ wireFields authority body, f.isLength = true → f.IsContentLength body.length := by
  intro f hf hlength
  have hother : ∀ name : Bytes, decide (name.map toLower = bytes "content-length") = false →
      ∀ value, Field.isLength ⟨name, value⟩ ≠ true := by
    intro name hname value
    rw [Field.isLength, hname]
    exact Bool.false_ne_true
  rcases mem_wireFields hf with rfl | rfl | rfl | rfl
  · exact absurd hlength (hother _ (by decide) _)
  · exact absurd hlength (hother _ (by decide) _)
  · exact isContentLength_toDecimal _
  · exact absurd hlength (hother _ (by decide) _)

/-- The text of a request line by line. -/
theorem wire_eq (authority method path body : Bytes) :
    wire authority method path body =
      (method ++ 32 :: (path ++ 32 :: bytes "HTTP/1.1") ++
        (wireFields authority body).flatMap fun f => crlf ++ f.line) ++ (separator ++ body) := by
  have hblank : bytes " " = [32] := by decide
  have hend : bytes "\r\n" = crlf := by decide
  have hversion : bytes " HTTP/1.1\r\n" = 32 :: bytes "HTTP/1.1" ++ crlf := by decide
  have hhost : bytes "Host: " = bytes "Host" ++ [58, 32] := by decide
  have hclose : bytes "Connection: close\r\n" =
      bytes "Connection" ++ 58 :: bytes " close" ++ crlf := by decide
  have hlength : bytes "Content-Length: " = bytes "Content-Length" ++ [58, 32] := by decide
  have htype : bytes "Content-Type: application/json\r\n" =
      bytes "Content-Type" ++ 58 :: bytes " application/json" ++ crlf := by decide
  unfold wire wireFields
  rw [hblank, hend, hversion, hhost, hclose, hlength, htype]
  by_cases hbody : body = []
  · simp [hbody, Field.line, separator]
  · simp [hbody, Field.line, separator]

/-- What the client sends is a request, and it says what the call said. -/
theorem exists_wire {authority method path : Bytes} (hauthority : InLine authority)
    {body : Bytes} (hmethod : method = bytes "GET" ∧ body = [] ∨ method = bytes "POST")
    (hpath : PlainPath path) :
    ∃ R : Http.Request, PlainRequest authority R ∧ R.text = wire authority method path body ∧
      R.method = method ∧ R.target = path ∧ R.body = body := by
  have hword : Word method := by
    rcases hmethod with ⟨rfl, -⟩ | rfl <;> decide
  have hlength : ⟨bytes "Content-Length", 32 :: toDecimal body.length⟩ ∈
      wireFields authority body := by
    simp [wireFields]
  have hname : Field.isLength ⟨bytes "Content-Length", 32 :: toDecimal body.length⟩ = true :=
    decide_eq_true (isContentLength_toDecimal body.length).1
  let R : Http.Request := {
    method, body
    target := path
    version := bytes "HTTP/1.1"
    fields := wireFields authority body
    word_method := hword
    word_target := word_of_plainPath hpath
    inLine_version := by decide
    inLine_fields := wireFields_inLine hauthority body
    colon_fields := colon_wireFields
    contentLength := ⟨_, hlength, hname⟩
    framed := wireFields_framed }
  exact ⟨R, ⟨hmethod, hpath, rfl, rfl⟩, (wire_eq ..).symm, rfl, rfl, rfl⟩

/-! ### Calls -/

variable {T : Type} {points : Rail.MountPoints T} {parse : Parser} {uptime : ℤ} {front : Front}
  {other : (c : Call) → c.Answer} {libm : Libm} {ctx : Context} {url authority method path : Bytes}

/-- A URL without a path leads to the authority in it. -/
theorem parseHttpUrl_authority (hslash : 47 ∉ authority) :
    parseHttpUrl (bytes "http://" ++ authority) = some (authority, []) := by
  have hnone : find authority (bytes "/") = none := by
    have hapart : Apart [47] authority := apart_of_forall_ne fun c hc heq => hslash (heq ▸ hc)
    have hfind := find_append hapart []
    rw [List.append_nil] at hfind
    rw [show bytes "/" = [47] by decide, hfind]
    rfl
  rw [parseHttpUrl, if_pos (List.prefix_append _ _), List.drop_left]
  dsimp only
  rw [hnone]

/-- A call to rail-media over its port is a call to rail-media. -/
theorem wireHost_http (hfront : front.Conforms authority) (hreached : front.Reached url authority)
    {body : Bytes} (hmethod : method = bytes "GET" ∧ body = [] ∨ method = bytes "POST")
    (hpath : PlainPath path) (s : Rail.MediaServer T) :
    wireHost points parse uptime front url other (.http method path body) s =
      railHost points parse uptime other (.http method path body) s := by
  obtain ⟨host, port, hhost, haddress, hport⟩ := hreached.port
  have hurl : parseHttpUrl url = some (authority, []) := by
    rw [hreached.url]
    exact parseHttpUrl_authority hreached.slash
  have hdial : (front.sockets points parse uptime s).dial host port =
      some fun sent => (front.serve points parse uptime sent s).1 := by
    show ((front.inetPton (cString host)).bind _) = _
    rw [haddress, Option.bind_some]
    exact if_pos ⟨rfl, hport⟩
  -- rail-media reads the request of the call
  obtain ⟨R, hplain, htext, rfl, rfl, rfl⟩ :=
    exists_wire hreached.inLine hmethod hpath
  have hread := hfront.read R hplain
  rw [htext] at hread
  set answer := Rail.handleRequest points parse uptime ⟨R.method, R.target, R.body⟩ s with hanswer
  have hserve : front.serve points parse uptime (wire authority R.method R.target R.body) s =
      (front.write answer.1, answer.2) := by
    rw [Front.serve, hread]
  -- and the client its answer
  obtain ⟨response, hstatus, hbody, hreceived⟩ :=
    hfront.write answer.1 (Rail.handleRequest_status points parse uptime _ s)
  have hexchange : exchange (front.sockets points parse uptime s) url R.method R.target R.body =
      some (front.write answer.1) := by
    simp only [exchange, hurl, hhost, hdial, Option.bind_eq_bind, Option.bind_some, List.nil_append]
    rw [hserve]
    rfl
  have hsent : sent (front.sockets points parse uptime s) url R.method R.target R.body =
      some (wire authority R.method R.target R.body) := by
    simp only [sent, hurl, hhost, hdial, Option.bind_eq_bind, Option.bind_some, List.nil_append]
    rfl
  have hresult : httpRequestWithStatus (front.sockets points parse uptime s) url R.method R.target
      R.body = some ⟨answer.1.status, answer.1.body⟩ := by
    have hwhole : (front.write answer.1).received <+: response.text := by
      rw [hreceived]
    have hlong : ¬response.text.length < response.headLength := by
      rw [response.length_text]
      omega
    have hreply := httpRequestWithStatus_of_prefix hexchange hwhole
    rw [hreply, hreceived, if_neg hlong, response.drop_headLength, hstatus, hbody]
  have hrail : railHost points parse uptime other (.http R.method R.target R.body) s =
      (some ⟨answer.1.status, answer.1.body⟩, answer.2) := rfl
  simp only [wireHost, hresult, hsent, hserve, hrail]

/-! ### Sessions -/

/-- An HTTP call is a GET without a body or a POST, with a plain path. -/
def Wired : Call → Prop
  | .http method path body =>
    (method = bytes "GET" ∧ body = [] ∨ method = bytes "POST") ∧ PlainPath path
  | _ => True

theorem wired_of_isPost {path : Bytes} (hpath : PlainPath path) {c : Call} (h : IsPost path c) :
    Wired c := by
  cases c with
  | http method p body =>
    obtain ⟨hmethod, rfl⟩ := h
    exact ⟨Or.inr hmethod, hpath⟩
  | _ => trivial

theorem wired_of_makes {op : Operation} {c : Call} (h : op.Makes libm c) : Wired c := by
  cases op with
  | trtSetVideoEncoderConfiguration request | trtSetOsd request | trtCreateOsd request
  | trtDeleteOsd request | timgSetImagingSettings request => exact wired_of_isPost (by decide) h
  | tptzContinuousMove request =>
    obtain ⟨velocity, timeoutMs, -, -, rfl⟩ := h
    trivial
  | tptzRelativeMove request =>
    obtain ⟨translation, -, rfl⟩ := h
    trivial
  | tptzSetPreset request | tptzSetHomePosition request | tptzGotoPreset request
  | tptzGotoHomePosition request | tptzStop request =>
    obtain rfl := h
    trivial
  | _ => cases h

theorem wired_of_readsOnly {c : Call} (h : ReadsOnly c) : Wired c := by
  cases c with
  | http method path body =>
    have hplain : ∀ p ∈ kReadPaths, PlainPath p := by decide
    exact ⟨Or.inl ⟨h.1, h.2.2⟩, hplain path h.2.1⟩
  | _ => trivial

theorem wireHost_eq (hfront : front.Conforms authority) (hreached : front.Reached url authority)
    {c : Call} (hc : Wired c) (s : Rail.MediaServer T) :
    wireHost points parse uptime front url other c s = railHost points parse uptime other c s := by
  cases c with
  | http method path body => exact wireHost_http hfront hreached hc.1 hc.2 s
  | _ => rfl

/-- **The services over HTTP**: every session over connections to rail-media's port has the results
of the session of direct calls to `handle_request`, and leaves rail-media in the same state. -/
theorem serveAll_wire (hfront : front.Conforms authority) (hreached : front.Reached url authority)
    (calls : List (Context × Operation)) (s : Rail.MediaServer T) :
    serveAll libm (wireHost points parse uptime front url other) calls s =
      serveAll libm (railHost points parse uptime other) calls s := by
  induction calls generalizing s with
  | nil => rfl
  | cons call calls ih =>
    obtain ⟨ctx, op⟩ := call
    have hserve : (serve libm ctx op).run (wireHost points parse uptime front url other) s =
        (serve libm ctx op).run (railHost points parse uptime other) s := by
      refine (serve_commits op).run_congr (fun c s hc => ?_) s
      rcases hc with hc | hc
      · exact wireHost_eq hfront hreached (wired_of_readsOnly hc) s
      · exact wireHost_eq hfront hreached (wired_of_makes hc) s
    rw [serveAll, serveAll, hserve]
    dsimp only
    rw [ih]

/-! ### A port -/

/-- A response as a server writes it. -/
def responseText (response : Rail.Response) : Bytes :=
  bytes "HTTP/1.1 " ++ toDecimal response.status ++ bytes " rail-media\r\nContent-Length: " ++
    toDecimal response.body.length ++ bytes "\r\n\r\n" ++ response.body

/-- A library that reads and writes HTTP/1.1. -/
def plainFront : Front where
  inetPton _ := some 0
  address := 0
  port := 8081
  read sent := (readRequest sent).map fun (method, target, body) => ⟨method, target, body⟩
  refuse := byteByByte []
  write response := byteByByte (responseText response)

theorem plainFront_conforms (authority : Bytes) : plainFront.Conforms authority where
  read := by
    intro R _
    have hread := R.readRequest_text []
    rw [List.append_nil] at hread
    show (readRequest R.text).map _ = _
    rw [hread]
    rfl
  write := by
    intro response hstatus
    have hcode : (toDecimal response.status).length = 3 ∧
        (toDecimal response.status).all isDigit = true ∧
        (digitsValue (toDecimal response.status) : ℤ) = response.status := by
      revert hstatus
      generalize response.status = status
      revert status
      decide
    have hname : bytes "Content-Length" ≠ [] ∧ InLine (bytes "Content-Length") := by decide
    let R : Http.Response := {
      version := bytes "HTTP/1.1"
      statusCode := toDecimal response.status
      reason := bytes "rail-media"
      fields := [⟨bytes "Content-Length", 32 :: toDecimal response.body.length⟩]
      body := response.body
      inLine_version := by decide
      isDigit_statusCode := ⟨hcode.1, List.all_eq_true.mp hcode.2.1⟩
      inLine_reason := by decide
      inLine_fields := by
        intro f hf
        obtain rfl := List.mem_singleton.mp hf
        exact ⟨hname.1, hname.2, inLine_toDecimal response.body.length⟩
      contentLength := ⟨_, List.mem_singleton_self _, isContentLength_toDecimal _⟩ }
    refine ⟨R, hcode.2.2, rfl, ?_⟩
    have htext : responseText response = R.text := by
      have hversion : bytes "HTTP/1.1 " = bytes "HTTP/1.1" ++ [32] := by decide
      have hfield : bytes " rail-media\r\nContent-Length: " =
          32 :: bytes "rail-media" ++ crlf ++ bytes "Content-Length" ++ [58, 32] := by
        decide
      have hend : bytes "\r\n\r\n" = separator := by decide
      simp only [responseText, hversion, hfield, hend, R, Response.text, Response.head,
        Response.statusLine, Field.line, List.flatMap_cons, List.flatMap_nil, List.append_assoc,
        List.cons_append, List.nil_append, List.append_nil]
    rw [← htext]
    exact received_byteByByte _

/-- Where rail-media listens. -/
theorem plainFront_reached :
    plainFront.Reached (bytes "http://127.0.0.1:8081") (bytes "127.0.0.1:8081") where
  url := by decide
  slash := by decide
  inLine := by decide
  port := ⟨bytes "127.0.0.1", 8081, by decide, rfl, by decide⟩

/-- A size set over HTTP is the size of the camera. -/
theorem serveAll_wire_size :
    (serveAll ⟨fun _ => 0, .binary64⟩
      (wireHost Rail.mountTable flatParser 0 plainFront (bytes "http://127.0.0.1:8081")
        fun _ => default)
      [(openContext, .trtSetVideoEncoderConfiguration (some sizeRequest))]
      plainServer).2.current.width = 640 := by
  rw [serveAll_wire (plainFront_conforms _) plainFront_reached]
  decide +kernel

end Afterveda.Onvif.HttpClient
