import Afterveda.Lib.Http
import Afterveda.Onvif.Equiv.Changes
import Afterveda.Onvif.HttpClient

/-!
# Truncated responses

The client takes every ending of a connection for the end of the response and looks for the empty
line only, not for a `Content-Length`.  `httpRequestWithStatus_of_prefix` says what it makes of a
response of which a part has arrived, and `truncated_iff` for which parts that is right: for all of
it, and for a part that ends before the body.
-/

namespace Afterveda.Onvif.HttpClient

open CText CNumber Http

/-! ### What is received -/

/-- The loop keeps what it has and adds the chunks in their order. -/
theorem receive_eq (chunks : List Bytes) (response : Bytes) :
    receive chunks response = response ++ chunks.flatten := by
  induction chunks generalizing response with
  | nil => simp [receive]
  | cons chunk chunks ih => rw [receive, ih, List.flatten_cons, List.append_assoc]

/-- What is made of a piece of a response that reaches into the body. -/
theorem parseResponse_head (R : Http.Response) (body : Bytes) :
    parseResponse (R.head ++ (separator ++ body)) = some ⟨R.status, body⟩ := by
  have hseparator : bytes "\r\n\r\n" = separator := by decide
  have hdrop : (R.head ++ (separator ++ body)).drop (R.head.length + 4) = body := by
    rw [← List.append_assoc]
    exact List.drop_left' (by simp [separator, crlf])
  rw [parseResponse, hseparator, R.find_separator]
  dsimp only
  rw [show bytes " " = [32] by decide, R.find_statusCode]
  dsimp only
  rw [R.statusCode_of_drop, R.stoi_statusCode, Option.map_some, hdrop]

/-- What is made of a piece of a response. -/
theorem parseResponse_of_prefix {R : Http.Response} {p : Bytes} (hp : p <+: R.text) :
    parseResponse p =
      if p.length < R.headLength then none else some ⟨R.status, p.drop R.headLength⟩ := by
  split_ifs with hlen
  · have hseparator : bytes "\r\n\r\n" = separator := by decide
    -- cut before the body: no empty line is found
    rw [parseResponse, hseparator, Response.find_separator_of_prefix hp hlen]
  · obtain ⟨body, -, rfl⟩ := Response.exists_of_prefix hp (not_lt.mp hlen)
    rw [parseResponse_head, ← List.append_assoc, List.drop_left' (by simp [Response.headLength])]

variable {net : Sockets} {baseUrl method path body : Bytes} {incoming : Incoming}

/-- However the bytes arrive and the connection ends, the result depends on how many of them there
are. -/
theorem httpRequestWithStatus_of_prefix
    (hexchange : exchange net baseUrl method path body = some incoming) {R : Http.Response}
    (hreceived : incoming.received <+: R.text) :
    httpRequestWithStatus net baseUrl method path body =
      if incoming.received.length < R.headLength then none
      else some ⟨R.status, incoming.received.drop R.headLength⟩ := by
  rw [httpRequestWithStatus, hexchange, Option.bind_some, receive_eq, List.nil_append]
  exact parseResponse_of_prefix hreceived

/-- The settings that the services show are read from what the client makes of a response. -/
theorem run_mediaModelFromConfig (config : Config) (net : Sockets) (baseUrl : Bytes)
    (other : (c : Call) → c.Answer) :
    (mediaModelFromConfig config).run (socketHost net baseUrl other) () =
      (.ok ⟨[videoRead (httpRequestWithStatus net baseUrl (bytes "GET") (bytes "/profile") [])],
        config.rtspUri⟩, ()) := by
  rw [mediaModelFromConfig_eq]
  rfl

/-! ### All or nothing -/

/-- The response is one of success. -/
def Success (R : Http.Response) : Prop := 200 ≤ R.status ∧ R.status < 300

instance (R : Http.Response) : Decidable (Success R) := inferInstanceAs (Decidable (_ ∧ _))

theorem bodyOf_response (R : Http.Response) (body : Bytes) :
    bodyOf (some ⟨R.status, body⟩) = some body ∧ Success R ∨
      bodyOf (some ⟨R.status, body⟩) = none ∧ ¬Success R := by
  have hok : RailHttpResponse.ok ⟨R.status, body⟩ = decide (Success R) :=
    (Bool.decide_and (200 ≤ R.status) (R.status < 300)).symm
  by_cases h : Success R
  · refine Or.inl ⟨?_, h⟩
    rw [bodyOf, Option.filter_some, hok, decide_eq_true h]
    rfl
  · refine Or.inr ⟨?_, h⟩
    rw [bodyOf, Option.filter_some, hok, decide_eq_false h]
    rfl

/-- A piece with the whole body is the whole response. -/
theorem eq_text_of_drop {R : Http.Response} {p : Bytes} (hp : p <+: R.text)
    (h : p.drop R.headLength = R.body) (hlen : R.headLength ≤ p.length) : p = R.text := by
  refine hp.eq_of_length ?_
  rw [R.length_text, ← h, List.length_drop]
  omega

/-- **Truncated responses**: whatever prefix of a response arrives, in whatever chunks and however
the connection ends, the client gives the response when it is all and nothing otherwise exactly if
it is all or ends before the body.  No part of a body is read exactly if it is so or the response is
a failure. -/
theorem truncated_iff
    (hexchange : exchange net baseUrl method path body = some incoming) {R : Http.Response}
    (hreceived : incoming.received <+: R.text) :
    (httpRequestWithStatus net baseUrl method path body =
        (if incoming.received = R.text then some ⟨R.status, R.body⟩ else none) ↔
      incoming.received = R.text ∨ incoming.received.length < R.headLength) ∧
    ((∀ read ∈ bodyOf (httpRequestWithStatus net baseUrl method path body), read = R.body) ↔
      incoming.received = R.text ∨ incoming.received.length < R.headLength ∨ ¬Success R) := by
  have hresult := httpRequestWithStatus_of_prefix hexchange hreceived
  by_cases hall : incoming.received = R.text
  · -- all of it: the body is what follows the head
    have hlong : ¬R.text.length < R.headLength := by
      rw [R.length_text]
      omega
    rw [hall, if_neg hlong, R.drop_headLength] at hresult
    rw [hresult, if_pos hall]
    refine ⟨iff_of_true rfl (Or.inl hall), iff_of_true (fun read hread => ?_) (Or.inl hall)⟩
    rcases bodyOf_response R R.body with ⟨hbody, -⟩ | ⟨hbody, -⟩
    · rw [hbody] at hread
      exact (Option.some.inj hread).symm
    · rw [hbody] at hread
      cases hread
  · rw [if_neg hall, hresult, or_iff_right hall, or_iff_right hall]
    -- a part: nothing is read before the body, and a piece of the body after that
    by_cases hshort : incoming.received.length < R.headLength
    · rw [if_pos hshort]
      exact ⟨iff_of_true rfl hshort, iff_of_true nofun (Or.inl hshort)⟩
    · rw [if_neg hshort, or_iff_right hshort]
      refine ⟨iff_of_false nofun hshort, ?_⟩
      -- the body is cut, and it is read unless the response is a failure
      rcases bodyOf_response R (incoming.received.drop R.headLength) with
        ⟨hbody, hsuccess⟩ | ⟨hbody, hfailure⟩
      · rw [hbody]
        refine iff_of_false (fun hread => ?_) (not_not.mpr hsuccess)
        exact hall (eq_text_of_drop hreceived (hread _ rfl) (not_lt.mp hshort))
      · rw [hbody]
        exact iff_of_true nofun hfailure

/-! ### A cut number -/

/-- A document of settings as a response. -/
def sizeResponse : Http.Response where
  version := bytes "HTTP/1.1"
  statusCode := bytes "200"
  reason := bytes "OK"
  fields := [⟨bytes "Content-Length", bytes " 26"⟩]
  body := bytes "\x7b\"width\":640,\"height\":360\x7d"
  inLine_version := by decide
  isDigit_statusCode := ⟨rfl, List.all_eq_true.mp (by decide)⟩
  inLine_reason := by decide
  inLine_fields := by decide
  contentLength := ⟨⟨bytes "Content-Length", bytes " 26"⟩, List.mem_singleton_self _, by decide,
    by decide, List.all_eq_true.mp (by decide), by decide⟩

/-- Bytes that arrive one at a time before the receive timeout. -/
def byteByByte (s : Bytes) : Incoming where
  chunks := s.map fun c => [c]
  ending := .timeout
  chunks_size := by
    intro chunk h
    obtain ⟨c, -, rfl⟩ := List.mem_map.mp h
    simp

theorem received_byteByByte (s : Bytes) : (byteByByte s).received = s :=
  (List.flatMap_def ..).symm.trans (List.flatMap_singleton' s)

/-- A peer that sends so many bytes of the response and no more. -/
def cutSockets (n : ℕ) : Sockets where
  socket := true
  inetPton _ := some 0
  connect _ _ := some fun _ => byteByByte (sizeResponse.text.take n)

theorem exchange_cutSockets (n : ℕ) : ∃ incoming,
    exchange (cutSockets n) (bytes "http://127.0.0.1:8081") (bytes "GET") (bytes "/profile") [] =
      some incoming ∧ incoming.received = sizeResponse.text.take n := by
  have hurl : parseHttpUrl (bytes "http://127.0.0.1:8081") =
      some (bytes "127.0.0.1:8081", []) := by decide
  have hhost : hostPort (bytes "127.0.0.1:8081") = some (bytes "127.0.0.1", 8081) := by decide
  refine ⟨_, ?_, received_byteByByte _⟩
  simp only [exchange, Option.bind_eq_bind, hurl, Option.bind_some, hhost]
  rfl

/-- The whole response is read. -/
theorem truncated_iff_whole :
    httpRequestWithStatus (cutSockets sizeResponse.text.length) (bytes "http://127.0.0.1:8081")
      (bytes "GET") (bytes "/profile") [] = some ⟨sizeResponse.status, sizeResponse.body⟩ := by
  obtain ⟨incoming, hexchange, hreceived⟩ := exchange_cutSockets sizeResponse.text.length
  rw [List.take_length] at hreceived
  have h := (truncated_iff hexchange (R := sizeResponse) (hreceived ▸ List.prefix_rfl)).1.mpr
    (Or.inl hreceived)
  rwa [if_pos hreceived] at h

/-- Cut inside the width, the response gives another width. -/
theorem cut_width_read :
    (∃ incoming, exchange (cutSockets 50) (bytes "http://127.0.0.1:8081") (bytes "GET")
        (bytes "/profile") [] = some incoming ∧
      incoming.received <+: sizeResponse.text ∧ incoming.received ≠ sizeResponse.text) ∧
    httpRequestWithStatus (cutSockets 50) (bytes "http://127.0.0.1:8081") (bytes "GET")
      (bytes "/profile") [] = some ⟨200, bytes "\x7b\"width\":64"⟩ ∧
    (mediaModelFromConfig {}).run
      (socketHost (cutSockets 50) (bytes "http://127.0.0.1:8081") fun _ => default) () =
        (.ok ⟨[{ token := bytes "main", name := bytes "main", width := 64 }],
          ({} : Config).rtspUri⟩, ()) := by
  obtain ⟨incoming, hexchange, hreceived⟩ := exchange_cutSockets 50
  have hresult : httpRequestWithStatus (cutSockets 50) (bytes "http://127.0.0.1:8081")
      (bytes "GET") (bytes "/profile") [] = some ⟨200, bytes "\x7b\"width\":64"⟩ := by
    decide +kernel
  have hread : videoRead (some ⟨200, bytes "\x7b\"width\":64"⟩) =
      { token := bytes "main", name := bytes "main", width := 64 } := by decide
  refine ⟨⟨incoming, hexchange, ?_, ?_⟩, hresult, ?_⟩
  · rw [hreceived]
    exact List.take_prefix _ _
  · rw [hreceived]
    decide
  · rw [run_mediaModelFromConfig, hresult, hread]

end Afterveda.Onvif.HttpClient
