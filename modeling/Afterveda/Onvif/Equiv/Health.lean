import Afterveda.Onvif.Equiv.Json
import Afterveda.Onvif.HttpServer
import Afterveda.Onvif.Link
import Afterveda.Rail.Equiv.Mounts

/-!
# The health of both servers

`healthCheck_reports`: the ONVIF server reports health exactly when rail-media answers and reports
it, and the document it sends is JSON around what has arrived of rail-media's, where that is JSON.
-/

namespace Afterveda.Onvif

open CText CNumber Json Rail
open JsonGlib (Parser)

variable {T : Type} {points : MountPoints T} {parse : Parser}

/-! ### The document -/

theorem notMem_healthDocument {rail : Option RailHttpResponse} (h : ∀ r ∈ rail, 0 ∉ r.body) :
    0 ∉ healthDocument rail := by
  cases rail with
  | none => decide
  | some rail =>
    have hbody : 0 ∉ (if rail.body = [] then bytes "\x7b\x7d" else rail.body) := by
      split_ifs
      · decide
      · exact h rail rfl
    have hstatus : 0 ∉ (if rail.ok then bytes "ok" else bytes "degraded") := by
      split_ifs <;> decide
    have hnumber := notMem_toDecimal rail.status
    simp only [healthDocument, List.mem_append, hbody, hstatus, hnumber, or_false]
    decide

theorem space_line : Space (bytes "\n  ") := by decide

theorem printable_names :
    ∀ name ∈ ["status", "service", "rail_media"], Printable (bytes name) := by decide

theorem printable_health (ok : Bool) :
    ∀ s ∈ (Scalar.string (if ok then bytes "ok" else bytes "degraded")).strings, Printable s := by
  cases ok <;> decide

theorem printable_service :
    ∀ s ∈ (Scalar.string (bytes "afterveda-onvif")).strings, Printable s := by decide

theorem isText_railMedia {inner : List Member} (hne : inner ≠ []) :
    IsText (bytes " " ++ 123 :: (writeMembers inner ++ 125 :: bytes "\n"))
      (.object (inner.map fun m => (m.name, m.value))) :=
  isText_writeMembers hne (by decide) (by decide)

/-- The members of a document; `inner` are those about rail-media. -/
def healthMembersAround (ok : Bool) (inner : List Member) (hne : inner ≠ []) : List Member :=
  [.scalar (bytes "\n  ") (bytes "status")
      (.string (if ok then bytes "ok" else bytes "degraded")) []
      space_line (printable_names _ (.head _)) (printable_health ok) space_nil,
    .scalar (bytes "\n  ") (bytes "service") (.string (bytes "afterveda-onvif")) []
      space_line (printable_names _ (.tail _ (.head _))) printable_service space_nil,
    { margin := bytes "\n  "
      name := bytes "rail_media"
      text := bytes " " ++ 123 :: (writeMembers inner ++ 125 :: bytes "\n")
      value := .object (inner.map fun m => (m.name, m.value))
      margin_space := space_line
      name_printable := printable_names _ (.tail _ (.tail _ (.head _)))
      isText := isText_railMedia hne }]

/-- What a document denotes. -/
def healthValue (ok : Bool) (inner : List (Bytes × Value)) : Value :=
  .object [(bytes "status", .string (if ok then bytes "ok" else bytes "degraded")),
    (bytes "service", .string (bytes "afterveda-onvif")), (bytes "rail_media", .object inner)]

theorem isText_healthMembersAround (ok : Bool) {inner : List Member} (hne : inner ≠ []) :
    IsText (123 :: (writeMembers (healthMembersAround ok inner hne) ++ 125 :: bytes "\n"))
      (healthValue ok (inner.map fun m => (m.name, m.value))) :=
  isText_writeMembers (List.cons_ne_nil _ _) space_nil (by decide)

/-- What is said of a rail-media that has answered. -/
def answeredValue (status : ℤ) (health : Value) : Value :=
  healthValue (200 ≤ status && status < 300) [(bytes "reachable", .boolean true),
    (bytes "http_status", .number status), (bytes "health", health)]

/-- A document around JSON is JSON. -/
theorem isText_answered {rail : RailHttpResponse} {health : Value}
    (hhealth : IsText (if rail.body = [] then bytes "\x7b\x7d" else rail.body) health)
    (hnul : 0 ∉ rail.body) :
    IsText (healthReply (some rail)).body (answeredValue rail.status health) := by
  let inner : List Member :=
    [.scalar (bytes "\n    ") (bytes "reachable") (.boolean true) [] (by decide) (by decide)
        (List.forall_mem_nil _) space_nil,
      .scalar (bytes "\n    ") (bytes "http_status") (.int rail.status) [] (by decide) (by decide)
        (List.forall_mem_nil _) space_nil,
      { margin := bytes "\n    "
        name := bytes "health"
        text := bytes " " ++
          ((if rail.body = [] then bytes "\x7b\x7d" else rail.body) ++ bytes "  ")
        value := health
        margin_space := by decide
        name_printable := by decide
        isText := IsText.between (by decide) hhealth (by decide) }]
  have hne : inner ≠ [] := List.cons_ne_nil _ _
  have hdocument : healthDocument (some rail) =
      123 :: (writeMembers (healthMembersAround rail.ok inner hne) ++ 125 :: bytes "\n") := by
    cases hok : rail.ok <;>
      simp only [healthDocument, hok, if_true, Bool.false_eq_true, if_false, healthMembersAround,
        inner, writeMembers, Member.scalar, Scalar.text_int, Scalar.text_boolean,
        Scalar.text_string, List.append_assoc, List.nil_append, List.cons_append] <;>
      rfl
  have hcstring : (healthReply (some rail)).body = healthDocument (some rail) :=
    cString_of_notMem (notMem_healthDocument (by rintro r ⟨⟩; exact hnul))
  rw [hcstring, hdocument]
  exact isText_healthMembersAround rail.ok hne

/-- What is said of a rail-media that has not. -/
def unansweredValue : Value :=
  healthValue false [(bytes "reachable", .boolean false),
    (bytes "error", .string (bytes "rail-media health endpoint is unavailable"))]

theorem isText_unanswered : IsText (healthReply none).body unansweredValue := by
  let inner : List Member :=
    [.scalar (bytes "\n    ") (bytes "reachable") (.boolean false) [] (by decide) (by decide)
        (List.forall_mem_nil _) space_nil,
      .scalar (bytes "\n    ") (bytes "error")
        (.string (bytes "rail-media health endpoint is unavailable")) (bytes "\n  ")
        (by decide) (by decide) (by decide) (by decide)]
  have hne : inner ≠ [] := List.cons_ne_nil _ _
  have hdocument : healthDocument none =
      123 :: (writeMembers (healthMembersAround false inner hne) ++ 125 :: bytes "\n") := rfl
  have hcstring : (healthReply none).body = healthDocument none :=
    cString_of_notMem (notMem_healthDocument (by rintro r ⟨⟩))
  rw [hcstring, hdocument]
  exact isText_healthMembersAround false hne

/-! ### Both servers -/

theorem plainNames_healthMembers (health : HealthStatus) (config : Rail.Config) :
    PlainNames (healthMembers health config) := by
  show ∀ name ∈ [bytes "status", bytes "rtsp_server", bytes "pipeline", bytes "camera",
    bytes "profile", bytes "resolution", bytes "fps", bytes "bitrate_kbps", bytes "rtsp_clients",
    bytes "uptime_seconds", bytes "started_at", bytes "last_pipeline_ready_at",
    bytes "last_error"], Printable name
  decide

/-- The document of rail-media, where its last error can be written, is one that can be wrapped. -/
theorem isText_railHealth {config : Rail.Config} {es : List Rail.Event} {s : MediaServer T}
    (h : (machine points parse config).Reaches Machine.anyStep es s) (uptime : ℤ)
    (hutf8 : Utf8 s.lastError) (hcontrol : NoControl s.lastError) (document : Bytes)
    (hdocument : document = (healthResponse (s.healthStatus uptime) s.current).body) :
    IsText (if document = [] then bytes "\x7b\x7d" else document)
        (objectOf (healthMembers (s.healthStatus uptime) s.current)) ∧
      0 ∉ document := by
  have htext := (isText_healthResponse_iff h uptime hutf8).mpr hcontrol
  rw [healthResponse_body ((shown_of_reaches h).overall uptime)] at hdocument htext
  rw [hdocument]
  refine ⟨htext, linesLayout.notMem_print (plainNames_healthMembers _ _) fun v hv => ?_⟩
  rcases printable_or_lastError h uptime v hv with hprintable | rfl
  · exact hprintable.noControl
  · exact hcontrol

theorem healthResponse_status (s : MediaServer T) (uptime : ℤ) :
    (healthResponse (s.healthStatus uptime) s.current).status =
      if s.pipelineStatus = bytes "error" then 503 else 200 := by
  by_cases hstatus : s.pipelineStatus = bytes "error" <;>
    simp [healthResponse, MediaServer.healthStatus, hstatus]

/-- A document around what has arrived is JSON when that is JSON; around nothing there is an empty
object. -/
theorem isText_arrived {rail : RailHttpResponse} {health : Value} (hnul : 0 ∉ rail.body)
    (h : IsText (if rail.body = [] then bytes "\x7b\x7d" else rail.body) health) (status : ℤ)
    (hstatus : status = rail.status) :
    IsText (healthReply (some rail)).body (answeredValue status health) := by
  rw [hstatus]
  exact isText_answered h hnul

/-- The status of the reply to an answer of rail-media. -/
theorem healthReply_status {s : MediaServer T} {uptime : ℤ} {rail : RailHttpResponse}
    (h : rail.status = (healthResponse (s.healthStatus uptime) s.current).status) :
    (healthReply (some rail)).status = rail.status ∧
      rail.status = if s.pipelineStatus = bytes "error" then 503 else 200 := by
  have hrail : rail.status = if s.pipelineStatus = bytes "error" then 503 else 200 :=
    h.trans (healthResponse_status s uptime)
  refine ⟨?_, hrail⟩
  show (if rail.ok then 200 else 503) = rail.status
  rw [RailHttpResponse.ok, hrail]
  by_cases hstatus : s.pipelineStatus = bytes "error"
  · rw [if_pos hstatus]
    rfl
  · rw [if_neg hstatus]
    rfl

/-- **The health of both servers**: the ONVIF server asks rail-media once and changes nothing there.
It reports 200 exactly when an answer of rail-media, whole or cut short, says that there is no
error.  The document is JSON around what has arrived, where that is JSON (rail-media's whole
document is), and where no answer arrives it is JSON that says so. -/
theorem healthCheck_reports {config : Rail.Config} {es : List Rail.Event} {s : MediaServer T}
    (h : (machine points parse config).Reaches Machine.anyStep es s) (uptime : ℤ)
    (other : (c : Call) → c.Answer) (outcomes : ℕ → GetOutcome) (delivered : Bool) :
    ∃ reply,
      healthCheck.run (lossyHost points parse uptime other outcomes delivered) { server := s } =
        (.ok reply, { server := s, gets := 1 }) ∧
      match outcomes 0 with
      | .answered =>
        reply.status = (if s.pipelineStatus = bytes "error" then 503 else 200) ∧
          (Utf8 s.lastError → NoControl s.lastError →
            IsText reply.body (answeredValue reply.status
              (objectOf (healthMembers (s.healthStatus uptime) s.current))))
      | .cut length =>
        let arrived := (healthResponse (s.healthStatus uptime) s.current).body.take length
        reply.status = (if s.pipelineStatus = bytes "error" then 503 else 200) ∧
          ∀ health, 0 ∉ arrived →
            IsText (if arrived = [] then bytes "\x7b\x7d" else arrived) health →
              IsText reply.body (answeredValue reply.status health)
      | .refused response =>
        reply.status = 503 ∧
          ∀ health, 0 ∉ response.1.body →
            IsText (if response.1.body = [] then bytes "\x7b\x7d" else response.1.body) health →
              IsText reply.body (answeredValue response.1.status health)
      | .lost => reply.status = 503 ∧ IsText reply.body unansweredValue := by
  let rail : RailHttpResponse :=
    ⟨(healthResponse (s.healthStatus uptime) s.current).status,
      (healthResponse (s.healthStatus uptime) s.current).body⟩
  refine ⟨healthReply ((outcomes 0).deliver (some rail)), rfl, ?_⟩
  cases houtcome : outcomes 0 with
  | answered =>
    obtain ⟨hreply, hrail⟩ := @healthReply_status _ s uptime rail rfl
    refine ⟨hreply.trans hrail, fun hutf8 hcontrol => ?_⟩
    obtain ⟨htext, hnul⟩ := isText_railHealth h uptime hutf8 hcontrol rail.body rfl
    exact isText_arrived hnul htext _ hreply
  | cut length =>
    obtain ⟨hreply, hrail⟩ :=
      @healthReply_status _ s uptime ⟨rail.status, rail.body.take length⟩ rfl
    exact ⟨hreply.trans hrail, fun health hnul htext => isText_arrived hnul htext _ hreply⟩
  | refused response =>
    refine ⟨?_, fun health hnul htext => isText_arrived hnul htext _ rfl⟩
    show (if response.1.ok then 200 else 503) = 503
    rw [response.2]
    rfl
  | lost => exact ⟨rfl, isText_unanswered⟩

/-- A message of the camera. -/
def cameraError : BusMessage := .error (some (bytes "camera0")) (some (bytes "no \"device\""))

/-- A server whose pipeline has failed. -/
def failedServer : MediaServer (List (Bytes × Factory)) :=
  onBusMessage cameraError (MediaServer.start mountTable {} 1000)

/-- The health check of the failed server over a connection that treats every GET alike. -/
def failedRun (outcome : GetOutcome) :
    Except Fault HealthReply × Link (List (Bytes × Factory)) :=
  healthCheck.run (lossyHost mountTable JsonGlib.flatParser 5 (fun _ => default) (fun _ => outcome)
    true) { server := failedServer }

/-- The error is passed on, quotes and all, and a lost answer is reported as one. -/
theorem healthCheck_reports_failed :
    (∃ reply, failedRun .answered = (.ok reply, { server := failedServer, gets := 1 }) ∧
      reply.status = 503 ∧ IsText reply.body (answeredValue 503
        (objectOf (healthMembers (failedServer.healthStatus 5) failedServer.current)))) ∧
    ∃ reply, failedRun .lost = (.ok reply, { server := failedServer, gets := 1 }) ∧
      reply.status = 503 ∧ IsText reply.body unansweredValue := by
  have hstart : (machine mountTable JsonGlib.flatParser {}).Reaches Machine.anyStep []
      (MediaServer.start mountTable {} 1000) := .start ⟨1000, rfl⟩
  have hreaches : (machine mountTable JsonGlib.flatParser {}).Reaches Machine.anyStep
      [.callback (.busMessage cameraError)] failedServer := hstart.next trivial rfl
  have hreports := fun outcome =>
    healthCheck_reports hreaches 5 (fun _ => default) (fun _ => outcome) true
  constructor
  · obtain ⟨reply, hrun, hstatus, hbody⟩ := hreports .answered
    have hfailed : reply.status = 503 := hstatus.trans (if_pos rfl)
    have htext := hbody (utf8_bytes "camera0: no \"device\"") (by decide)
    rw [hfailed] at htext
    exact ⟨reply, hrun, hfailed, htext⟩
  · obtain ⟨reply, hrun, hstatus, hbody⟩ := hreports .lost
    exact ⟨reply, hrun, hstatus, hbody⟩

end Afterveda.Onvif
