import Afterveda.Onvif.Auth
import Afterveda.Onvif.Equiv.Base64
import Afterveda.Onvif.Equiv.Sha1

/-!
# Digest authentication

`require_auth` accepts a fresh digest token exactly when it names the configured user and its
password text is the digest the web service security profile defines, over the standards' base64 and
SHA-1: `requireAuth_digest_iff`.
-/

namespace Afterveda.Onvif

open CText

/-- The password text of a token with the nonce `n` and the creation time `created`. -/
def passwordDigest (n created password : Bytes) : Bytes :=
  Base64.encode (Sha1.digest (n ++ created ++ password))

/-- The digest check over the standards' functions. -/
theorem checkDigest_eq_ok {ctx : Context} {token : UsernameToken} {created : CStr}
    (hcreated : token.created = some created)
    (hfresh : utcTimestampWithin ctx.getTime ctx.now created 300 = true) (password : Bytes) :
    checkDigest ctx token password = .ok () ↔
      ∃ nonce n, token.nonce = some ⟨some nonce⟩ ∧ Base64.decode nonce = some n ∧ n ≠ [] ∧
        password = passwordDigest n created ctx.config.password := by
  unfold checkDigest
  cases hnonce : token.nonce.bind WsseEncodedString.item with
  | none =>
    simp only [reduceCtorEq, false_iff, not_exists]
    rintro nonce n ⟨hitem, -⟩
    rw [hitem] at hnonce
    cases hnonce
  | some nonce =>
    have hitem : token.nonce = some ⟨some nonce⟩ := by
      obtain ⟨⟨item⟩, htoken, hitem⟩ := Option.bind_eq_some_iff.mp hnonce
      rw [htoken, ← hitem]
    -- the nonce on the right side is the one of the token
    have hsame : ∀ text, token.nonce = some ⟨some text⟩ → text = nonce := by
      intro text htext
      rw [hitem] at htext
      simpa using htext.symm
    rw [hcreated]
    simp only [hfresh, Bool.true_eq_false, if_false, base64Decode_eq, base64Encode_eq, sha1_eq]
    cases hdecode : Base64.decode nonce with
    | none =>
      -- no base64: the decoder gives the empty text, which is refused
      simp only [Option.getD_none, if_true, reduceCtorEq, false_iff, not_exists]
      rintro text n ⟨htext, hn, -⟩
      rw [hsame text htext, hdecode] at hn
      cases hn
    | some n =>
      rw [Option.getD_some]
      constructor
      · intro h
        split_ifs at h with hempty hdigest
        exact ⟨nonce, n, hitem, hdecode, hempty, (not_not.mp hdigest).symm⟩
      · rintro ⟨text, m, htext, hm, hne, hpassword⟩
        rw [hsame text htext, hdecode] at hm
        obtain rfl := Option.some.inj hm
        have hsent :
            ¬ Base64.encode (Sha1.digest (n ++ created ++ ctx.config.password)) ≠ password :=
          not_not.mpr hpassword.symm
        rw [if_neg hne, if_neg hsent]

/-- A fresh digest token is accepted exactly when its user is the configured one, its nonce is the
base64 of some octets and its password text is their digest; so a token made with the right
credentials and any nonce that is not empty is accepted, however its base64 is broken up. -/
theorem requireAuth_digest_iff {ctx : Context} {token : UsernameToken} {password : WssePassword}
    {type created : CStr} (husername : ctx.config.username ≠ [])
    (htoken : ctx.usernameToken = some token)
    (hgiven : token.password = some password) (htype : password.type = some type)
    (hdigest : contains type (bytes "PasswordDigest") = true)
    (hcreated : token.created = some created)
    (hfresh : utcTimestampWithin ctx.getTime ctx.now created 300 = true) :
    (requireAuth ctx = .ok () ↔
      token.username.map Subtype.val = some ctx.config.username ∧
        ∃ nonce n, token.nonce = some ⟨some nonce⟩ ∧ Base64.decode nonce = some n ∧ n ≠ [] ∧
          password.item.map Subtype.val = some (passwordDigest n created ctx.config.password)) ∧
    ∀ (n : Bytes) (nonce : CStr), n ≠ [] → nonce.val.filter (!isSpace ·) = Base64.encode n →
      token.nonce = some ⟨some nonce⟩ →
      token.username.map Subtype.val = some ctx.config.username →
      password.item.map Subtype.val = some (passwordDigest n created ctx.config.password) →
      requireAuth ctx = .ok () := by
  have hiff : requireAuth ctx = .ok () ↔
      token.username.map Subtype.val = some ctx.config.username ∧
        ∃ nonce n, token.nonce = some ⟨some nonce⟩ ∧ Base64.decode nonce = some n ∧ n ≠ [] ∧
          password.item.map Subtype.val = some (passwordDigest n created ctx.config.password) := by
    obtain ⟨item, _⟩ := password
    cases htype
    have hsecured : ¬ (ctx.config.username = [] ∧ ctx.config.password = []) :=
      fun h => husername h.1
    -- the user is compared before the type of the password is looked at
    rw [requireAuth, if_neg hsecured, htoken]
    dsimp only
    rw [hgiven]
    cases huser : token.username with
    | none => simp
    | some user =>
      cases item with
      | none => simp
      | some text =>
        dsimp only [Option.map_some, Option.getD_some]
        by_cases hmatch : ctx.config.username = user.val
        · rw [if_neg (not_not.mpr hmatch), if_pos hdigest, checkDigest_eq_ok hcreated hfresh]
          simp only [hmatch, true_and, Option.some.injEq]
        · rw [if_pos hmatch]
          simp only [reduceCtorEq, false_iff, Option.some.injEq, not_and]
          exact fun h => absurd h.symm hmatch
  refine ⟨hiff, fun n nonce hn htext hnonce huser hitem =>
    hiff.mpr ⟨huser, nonce, n, hnonce, ?_, hn, hitem⟩⟩
  exact Base64.decode_of_filter_eq_encode htext

/-- A token of the user `admin` with a one-octet nonce, its base64 broken by a space. -/
theorem requireAuth_digest_iff_admin : ∃ ctx : Context, ctx.config.username = bytes "admin" ∧
    ctx.config.password = bytes "secret" ∧ requireAuth ctx = .ok () := by
  let nonce : CStr := ⟨bytes "AQ ==", by decide⟩
  let created : CStr := ⟨bytes "2024-02-29T12:34:56Z", by decide⟩
  let item : CStr := ⟨passwordDigest [1] created (bytes "secret"), Base64.notMem_encode _⟩
  let type : CStr := ⟨bytes "wsse:PasswordDigest", by decide⟩
  let token : UsernameToken :=
    ⟨some ⟨bytes "admin", by decide⟩, some ⟨some item, some type⟩, some ⟨some nonce⟩, some created⟩
  let ctx : Context :=
    ⟨{ username := bytes "admin", password := bytes "secret" }, some ⟨some ⟨some token⟩⟩,
      1709210000, Calendar.getTime⟩
  have hfresh : utcTimestampWithin ctx.getTime ctx.now created 300 = true := by decide +kernel
  refine ⟨ctx, rfl, rfl, ?_⟩
  exact (requireAuth_digest_iff (by decide) (show ctx.usernameToken = some token from rfl) rfl rfl
    (by decide) rfl hfresh).2 [1] nonce (by decide) (by decide) rfl rfl rfl

end Afterveda.Onvif
