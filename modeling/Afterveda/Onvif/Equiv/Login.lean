import Afterveda.Lib.Clock
import Afterveda.Onvif.Equiv.Auth
import Afterveda.Onvif.Equiv.Timestamp
import Afterveda.Onvif.Soap.Device

/-!
# Signing in

A client signs in with a digest of the time on its clock.  `digestLogin_iff` says when
`require_auth` takes the header: for five minutes around that time, again and again, and never
outside, nor with another password unless the digests collide.
-/

namespace Afterveda.Onvif

open CText Calendar DateTime

variable {getTime : Bytes → Option Tm}

/-! ### The client -/

/-- The time on a clock, as a token carries it. -/
def createdText (t : ℤ) : CStr := ⟨formatUtc (gmtime t), notMem_formatUtc _⟩

/-- The header of a client with the nonce `n`, signed at the time `t`. -/
def digestHeader (user password : CStr) (n : Bytes) (t : ℤ) : Header :=
  let token : UsernameToken :=
    { username := some user
      password := some
        { item := some ⟨passwordDigest n (createdText t) password, Base64.notMem_encode _⟩
          type := some ⟨bytes "PasswordDigest", by decide⟩ }
      nonce := some ⟨some ⟨Base64.encode n, Base64.notMem_encode _⟩⟩
      created := some (createdText t) }
  ⟨some ⟨some token⟩⟩

/-! ### The digest -/

theorem decode_encode (octets : Bytes) : Base64.decode (Base64.encode octets) = some octets := by
  refine Base64.decode_of_filter_eq_encode (List.filter_eq_self.mpr fun c hc => ?_)
  simp [Base64.isSpace_of_mem_encode hc]

theorem encode_inj {a b : Bytes} : Base64.encode a = Base64.encode b ↔ a = b := by
  constructor
  · intro h
    have hdecoded := congrArg Base64.decode h
    rw [decode_encode, decode_encode] at hdecoded
    exact Option.some.inj hdecoded
  · rintro rfl
    rfl

/-- A text with the time of a clock is within the tolerance exactly when the clock is, but for the
second before the epoch. -/
theorem within_createdText (h : ReadsWhole getTime) {t : ℤ}
    (hyear : 1000 ≤ (gmtime t).year ∧ (gmtime t).year ≤ 9999) (now tolerance : ℤ) :
    utcTimestampWithin getTime now (createdText t) tolerance = true ↔
      t ≠ -1 ∧ |now - t| ≤ tolerance := by
  obtain ⟨d, htext, hplain, hsecond⟩ := exists_utcDateTime hyear
  have hread : getTime (createdText t) = some d.fields.tm := by
    show getTime (formatUtc (gmtime t)) = _
    rw [← htext]
    exact read_of_plain h hplain
  rw [hplain.epochSecond_eq] at hsecond
  rw [utcTimestampWithin_eq_true_iff]
  constructor
  · rintro ⟨tm, htm, hne, hnear⟩
    rw [hread] at htm
    obtain rfl := Option.some.inj htm
    rw [hsecond] at hne hnear
    exact ⟨hne, hnear⟩
  · rintro ⟨hne, hnear⟩
    exact ⟨d.fields.tm, hread, by rwa [hsecond], by rwa [hsecond]⟩

theorem checkDigest_digestHeader (h : ReadsWhole getTime) {config : Config}
    {token : UsernameToken} {n : Bytes} {t : ℤ}
    (hyear : 1000 ≤ (gmtime t).year ∧ (gmtime t).year ≤ 9999)
    (hnonce : token.nonce = some ⟨some ⟨Base64.encode n, Base64.notMem_encode _⟩⟩)
    (hcreated : token.created = some (createdText t)) (header : Option Header) (now : ℤ)
    (password : Bytes) :
    checkDigest ⟨config, header, now, getTime⟩ token (passwordDigest n (createdText t) password) =
        .ok () ↔
      n ≠ [] ∧ Sha1.digest (n ++ createdText t ++ password) =
        Sha1.digest (n ++ createdText t ++ config.password) ∧ t ≠ -1 ∧ |now - t| ≤ 300 := by
  have hwithin := within_createdText h hyear now 300
  by_cases hfresh : utcTimestampWithin getTime now (createdText t) 300 = true
  · have hnear := hwithin.mp hfresh
    rw [checkDigest_eq_ok hcreated hfresh]
    constructor
    · rintro ⟨nonce, m, hm, hdecode, hne, hdigest⟩
      obtain rfl : nonce = ⟨Base64.encode n, Base64.notMem_encode _⟩ := by
        rw [hnonce] at hm
        simpa using hm.symm
      have hdecode : Base64.decode (Base64.encode n) = some m := hdecode
      rw [decode_encode] at hdecode
      obtain rfl := Option.some.inj hdecode
      exact ⟨hne, encode_inj.mp hdigest, hnear⟩
    · rintro ⟨hne, hdigest, -⟩
      exact ⟨_, n, hnonce, decode_encode n, hne, encode_inj.mpr hdigest⟩
  · have hstale : utcTimestampWithin getTime now (createdText t) 300 = false :=
      Bool.of_not_eq_true hfresh
    have hfails : checkDigest ⟨config, header, now, getTime⟩ token
        (passwordDigest n (createdText t) password) = .error authFailed := by
      unfold checkDigest
      rw [hnonce, hcreated]
      simp only [Option.bind_some, hstale, if_true]
    rw [hfails]
    constructor
    · intro hok
      cases hok
    · rintro ⟨-, -, hnear⟩
      exact absurd (hwithin.mpr hnear) hfresh

theorem requireAuth_digestHeader (h : ReadsWhole getTime) {config : Config}
    (husername : config.username ≠ []) (user password : CStr) (n : Bytes) {t : ℤ}
    (hyear : 1000 ≤ (gmtime t).year ∧ (gmtime t).year ≤ 9999) (now : ℤ) :
    requireAuth ⟨config, some (digestHeader user password n t), now, getTime⟩ = .ok () ↔
      user.val = config.username ∧ n ≠ [] ∧
        Sha1.digest (n ++ createdText t ++ password) =
          Sha1.digest (n ++ createdText t ++ config.password) ∧ t ≠ -1 ∧ |now - t| ≤ 300 := by
  have hsecured : ¬(config.username = [] ∧ config.password = []) := fun hopen => husername hopen.1
  have hdigest : contains (bytes "PasswordDigest") (bytes "PasswordDigest") = true := by decide
  rw [requireAuth, if_neg hsecured]
  simp only [Context.usernameToken, digestHeader, Option.bind_some, Option.map_some,
    Option.getD_some, hdigest, if_true]
  by_cases huser : config.username = user.val
  · rw [if_neg (not_not.mpr huser), checkDigest_digestHeader h hyear rfl rfl]
    simp [huser]
  · rw [if_pos huser]
    constructor
    · intro hok
      cases hok
    · rintro ⟨hsame, -⟩
      exact absurd hsame.symm huser

/-! ### The camera's clock -/

/-- The time a response tells. -/
def Soap.SystemDateTime.tm (response : Soap.SystemDateTime) : Tm :=
  ⟨response.year, response.month, response.day, response.hour, response.minute, response.second⟩

theorem Soap.run_tdsGetSystemDateAndTime {σ : Type} {ctx : Context}
    {host : (c : Call) → σ → c.Answer × σ} {s : σ} {response : Soap.SystemDateTime}
    (h : ((Soap.tdsGetSystemDateAndTime ctx).run host s).1 = .ok response) :
    response.tm = gmtime (host .time s).1 := by
  unfold Soap.tdsGetSystemDateAndTime authenticate at h
  cases hauth : requireAuth ctx with
  | error fault =>
    rw [hauth] at h
    cases h
  | ok =>
    rw [hauth] at h
    obtain rfl := Except.ok.inj h
    rfl

/-- **Signing in with a digest**: the header is taken, on the first and on every later call, exactly
while the camera's clock is at most 300 seconds from the time in it, and only with the user and with
a password whose digest is that of the configured one.  A client can read that clock: the date and
the time that `GetSystemDateAndTime` tells are those of the second at which it asked. -/
theorem digestLogin_iff (h : ReadsWhole getTime) {config : Config}
    (husername : config.username ≠ []) (user password : CStr) (n : Bytes) {t : ℤ}
    (hyear : 1000 ≤ (gmtime t).year ∧ (gmtime t).year ≤ 9999) :
    (∀ now, requireAuth ⟨config, some (digestHeader user password n t), now, getTime⟩ = .ok () ↔
      user.val = config.username ∧ n ≠ [] ∧
        Sha1.digest (n ++ createdText t ++ password) =
          Sha1.digest (n ++ createdText t ++ config.password) ∧ t ≠ -1 ∧ |now - t| ≤ 300) ∧
    ∀ (σ : Type) (host : (c : Call) → σ → c.Answer × σ) (ctx : Context) (s : σ) response,
      ((Soap.tdsGetSystemDateAndTime ctx).run host s).1 = .ok response →
        timegm response.tm = (host .time s).1 ∧
          response.day ≤ daysInMonth response.year response.month := by
  refine ⟨requireAuth_digestHeader h husername user password n hyear, ?_⟩
  intro σ host ctx s response hresponse
  have htm := Soap.run_tdsGetSystemDateAndTime hresponse
  refine ⟨by rw [htm, timegm_gmtime], ?_⟩
  have hdate := gmtime_date (host .time s).1
  rw [← htm] at hdate
  exact hdate.2.2.2

/-- A client whose clock is five minutes behind. -/
theorem digestLogin_iff_admin : ∃ header : Header,
    requireAuth ⟨{ username := bytes "admin", password := bytes "secret" }, some header,
      1709210396, Calendar.getTime⟩ = .ok () := by
  have hname :
      ({ username := bytes "admin", password := bytes "secret" } : Config).username ≠ [] := by
    decide
  have hyear : 1000 ≤ (gmtime 1709210096).year ∧ (gmtime 1709210096).year ≤ 9999 := by decide
  have hlogin := (digestLogin_iff readsFormat_getTime.toReadsWhole hname ⟨bytes "admin", by decide⟩
    ⟨bytes "secret", by decide⟩ [1] hyear).1 1709210396
  exact ⟨_, hlogin.mpr ⟨rfl, by decide, rfl, by decide, by decide⟩⟩

end Afterveda.Onvif
