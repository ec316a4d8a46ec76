import Afterveda.Ptz.Equiv.Limits

/-!
# Reading the status

The device answers a read with the line `pan=P tilt=T pan_speed=U tilt_speed=V`.  `read_ptz_status`
collects chunks until one holds a newline, and finds each field by its name in everything
collected.  `readPtzStatus_line`: however the answer is cut into chunks and whatever follows the
line, the status is that of the line.
-/

namespace Afterveda.Ptz

open CText CNumber Onvif

/-! ### The line -/

/-- The line for four numerals, without its newline. -/
def statusLine (pan tilt panSpeed tiltSpeed : Bytes) : Bytes :=
  bytes "pan=" ++ pan ++ bytes " tilt=" ++ tilt ++ bytes " pan_speed=" ++ panSpeed ++
    bytes " tilt_speed=" ++ tiltSpeed

/-- A field is read behind text that does not hold its name. -/
theorem parseIntAfter_at {marker pre text rest : Bytes} {n : ℤ} (hpre : Apart marker pre)
    (htext : IsDecimal text n) (hn : IsInt32 n) (hrest : NoDigitHead rest) :
    parseIntAfter (pre ++ (marker ++ (text ++ rest))) marker = some n := by
  have hdrop : (pre ++ (marker ++ (text ++ rest))).drop (pre.length + marker.length) =
      text ++ rest := by
    rw [← List.append_assoc, ← List.length_append, List.drop_left]
  have hlong : clampLong n = n := by
    unfold IsInt32 at hn
    exact clampLong_of_mem (by omega)
  rw [parseIntAfter, find_at hpre]
  dsimp only
  rw [hdrop, htext.strtol hrest]
  dsimp only
  rw [hlong, wrap32_of_isInt32 hn]

/-- A field with the blank after it. -/
theorem apart_field {needle name text : Bytes} {n : ℤ} (hname : Apart needle name)
    (htext : IsDecimal text n) (hneedle : needle.head?.any (fun c => c ≠ 45 && !isDigit c) = true)
    (hblank : Apart needle (bytes " ")) : Apart needle (name ++ (text ++ bytes " ")) :=
  hname.append ((htext.apart hneedle).append hblank)

/-- The status of the line, whatever follows. -/
theorem parseStatusText_line {pan tilt panSpeed tiltSpeed : Bytes} {P T U V : ℤ}
    (hpan : IsDecimal pan P) (htilt : IsDecimal tilt T) (hpanSpeed : IsDecimal panSpeed U)
    (htiltSpeed : IsDecimal tiltSpeed V) (hP : IsInt32 P) (hT : IsInt32 T) (hU : IsInt32 U)
    (hV : IsInt32 V) (rest : Bytes) :
    parseStatusText (statusLine pan tilt panSpeed tiltSpeed ++ 10 :: rest) =
      some ⟨clampPtzPosition ⟨P, T⟩, U, V⟩ := by
  have hnewline : NoDigitHead (10 :: rest) := by
    rintro c ⟨⟩
    rfl
  have hspace : ∀ s, NoDigitHead (bytes " " ++ s) := NoDigitHead.append (by decide) (by decide)
  have htext : statusLine pan tilt panSpeed tiltSpeed ++ 10 :: rest =
      bytes "pan=" ++ (pan ++ (bytes " " ++ (bytes "tilt=" ++ (tilt ++ (bytes " " ++
        (bytes "pan_speed=" ++ (panSpeed ++ (bytes " " ++ (bytes "tilt_speed=" ++
          (tiltSpeed ++ 10 :: rest)))))))))) := by
    have htilt' : bytes " tilt=" = bytes " " ++ bytes "tilt=" := by decide
    have hpan' : bytes " pan_speed=" = bytes " " ++ bytes "pan_speed=" := by decide
    have hspeed' : bytes " tilt_speed=" = bytes " " ++ bytes "tilt_speed=" := by decide
    simp only [statusLine, htilt', hpan', hspeed', List.append_assoc]
  -- each marker is found at its own field: the fields before it are apart from it
  have hpanField := parseIntAfter_at (show Apart (bytes "pan=") [] by decide) hpan hP
    (hspace (bytes "tilt=" ++ (tilt ++ (bytes " " ++ (bytes "pan_speed=" ++ (panSpeed ++
      (bytes " " ++ (bytes "tilt_speed=" ++ (tiltSpeed ++ 10 :: rest)))))))))
  have htiltField := parseIntAfter_at
    (apart_field (show Apart (bytes "tilt=") (bytes "pan=") by decide) hpan (by decide) (by decide))
    htilt hT (hspace (bytes "pan_speed=" ++ (panSpeed ++ (bytes " " ++ (bytes "tilt_speed=" ++
      (tiltSpeed ++ 10 :: rest))))))
  have hpanSpeedField := parseIntAfter_at
    ((apart_field (show Apart (bytes "pan_speed=") (bytes "pan=") by decide) hpan (by decide)
        (by decide)).append
      (apart_field (show Apart _ (bytes "tilt=") by decide) htilt (by decide) (by decide)))
    hpanSpeed hU (hspace (bytes "tilt_speed=" ++ (tiltSpeed ++ 10 :: rest)))
  have htiltSpeedField := parseIntAfter_at
    ((apart_field (show Apart (bytes "tilt_speed=") (bytes "pan=") by decide) hpan (by decide)
        (by decide)).append
      ((apart_field (show Apart _ (bytes "tilt=") by decide) htilt (by decide) (by decide)).append
        (apart_field (show Apart _ (bytes "pan_speed=") by decide) hpanSpeed (by decide)
          (by decide))))
    htiltSpeed hV hnewline
  simp only [List.append_assoc, List.nil_append] at hpanField htiltField hpanSpeedField
  simp only [List.append_assoc] at htiltSpeedField
  rw [htext, parseStatusText, hpanField, htiltField, hpanSpeedField, htiltSpeedField]
  rfl

/-! ### The chunks -/

/-- The loop ends with the chunk that completes the line, whatever else that chunk holds. -/
theorem readLoop_line {line rest : Bytes} (hline : 10 ∉ line) (later : List ReadCall)
    {chunks : List Bytes} (hchunks : ∀ c ∈ chunks, c ≠ []) {response : Bytes}
    (hresponse : 10 ∉ response) (houtput : response ++ chunks.flatten = line ++ 10 :: rest) :
    ∃ more, readLoop (chunks.map ReadCall.data ++ later) response = .ok (line ++ 10 :: more) := by
  induction chunks generalizing response with
  | nil =>
    rw [List.flatten_nil, List.append_nil] at houtput
    rw [houtput] at hresponse
    simp at hresponse
  | cons c chunks ih =>
    have hc : c ≠ [] := hchunks c (List.mem_cons_self ..)
    rw [List.flatten_cons, ← List.append_assoc] at houtput
    rw [List.map_cons, List.cons_append, readLoop, if_neg hc]
    split_ifs with hnewline
    · -- what was collected goes beyond the line
      rcases List.append_eq_append_iff.mp houtput with ⟨tail, hend, -⟩ | ⟨tail, hend, htail⟩
      · rw [hend] at hline
        exact absurd (List.mem_append_left tail hnewline) hline
      · cases tail with
        | nil =>
          rw [List.append_nil] at hend
          rw [hend] at hnewline
          exact absurd hnewline hline
        | cons d more =>
          obtain ⟨rfl, -⟩ := List.cons.inj htail
          exact ⟨more, congrArg Except.ok hend⟩
    · exact ih (fun d hd => hchunks d (List.mem_cons_of_mem c hd)) hnewline houtput

theorem newline_notMem_statusLine {pan tilt panSpeed tiltSpeed : Bytes} {P T U V : ℤ}
    (hpan : IsDecimal pan P) (htilt : IsDecimal tilt T) (hpanSpeed : IsDecimal panSpeed U)
    (htiltSpeed : IsDecimal tiltSpeed V) : 10 ∉ statusLine pan tilt panSpeed tiltSpeed := by
  have hnumeral : ∀ {text : Bytes} {n : ℤ}, IsDecimal text n → 10 ∉ text := by
    intro text n h hmem
    rcases h.mem hmem with h | h
    · cases h
    · cases h
  simp only [statusLine, List.mem_append, not_or]
  exact ⟨⟨⟨⟨⟨⟨⟨by decide, hnumeral hpan⟩, by decide⟩, hnumeral htilt⟩, by decide⟩,
    hnumeral hpanSpeed⟩, by decide⟩, hnumeral htiltSpeed⟩

/-- **The status**: the device's answer starts with the line of four decimal integers, and arrives
in chunks that are not empty.  Then the status is that of the line: the position within the limits
and the speeds. -/
theorem readPtzStatus_line {config : Config} (hdry : config.ptzDryRun = false) {reply : ReadReply}
    (hopen : reply.openFailure = none) (hclose : reply.closeFailure = none) {chunks : List Bytes}
    {later : List ReadCall} (hreads : reply.reads = chunks.map ReadCall.data ++ later)
    (hchunks : ∀ c ∈ chunks, c ≠ []) {pan tilt panSpeed tiltSpeed rest : Bytes} {P T U V : ℤ}
    (hpan : IsDecimal pan P) (htilt : IsDecimal tilt T) (hpanSpeed : IsDecimal panSpeed U)
    (htiltSpeed : IsDecimal tiltSpeed V) (hP : IsInt32 P) (hT : IsInt32 T) (hU : IsInt32 U)
    (hV : IsInt32 V)
    (houtput : chunks.flatten = statusLine pan tilt panSpeed tiltSpeed ++ 10 :: rest)
    (s : PtzState) :
    readPtzStatus config reply s = .ok ⟨clampPtzPosition ⟨P, T⟩, U, V⟩ := by
  have hline := newline_notMem_statusLine hpan htilt hpanSpeed htiltSpeed
  obtain ⟨more, hloop⟩ := readLoop_line hline later hchunks List.not_mem_nil houtput
  have hparse := parseStatusText_line hpan htilt hpanSpeed htiltSpeed hP hT hU hV more
  rw [readPtzStatus, if_neg (by simp [hdry]), hopen, hreads, hloop, hclose]
  dsimp only
  rw [hparse]

/-- The answer for a camera that turns out of its range, cut inside a name and behind the newline.
-/
def cutReply : ReadReply :=
  { reads := [.data (bytes "pan=-12 ti"), .data (bytes "lt=45 pan_speed=-30 tilt_speed=0\npan"),
      .data (bytes "=7\n")] }

/-- It reads as one status. -/
theorem readPtzStatus_line_cut : readPtzStatus {} cutReply {} = .ok ⟨⟨30, 45⟩, -30, 0⟩ := by
  have hdecimal := isDecimal_toDecimal
  exact readPtzStatus_line rfl rfl rfl (List.append_nil _).symm (by decide) (hdecimal (-12))
    (hdecimal 45) (hdecimal (-30)) (hdecimal 0) (by decide) (by decide) (by decide) (by decide)
    (show List.flatten [bytes "pan=-12 ti", bytes "lt=45 pan_speed=-30 tilt_speed=0\npan",
      bytes "=7\n"] = _ ++ 10 :: bytes "pan=7\n" by decide +kernel) {}

end Afterveda.Ptz
