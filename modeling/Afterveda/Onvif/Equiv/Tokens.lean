import Afterveda.Onvif.Equiv.Video

/-!
# Tokens of the video encoder

A profile is named by its token or its name, with or without the prefix `encoder-`.
`GetVideoEncoderConfiguration` takes the prefix off once; `SetVideoEncoderConfiguration` takes it
off before its checks, and the checks take it off again.  `tokens_iff` says for which tokens the two
agree all the same: with the names that the server gives its profiles, for all but a name with the
prefix twice.
-/

namespace Afterveda.Onvif

open CText JsonGlib Rail Soap

variable {model : MediaModel} {t : Bytes}

/-! ### Profiles by name -/

/-- The first profile that has the token or the name. -/
def profileNamed (model : MediaModel) (name : Bytes) : Option VideoProfile :=
  model.profiles.find? (·.named name)

theorem hasProfileToken_iff : hasProfileToken model t = true ↔
    (profileNamed model (profileTokenFromEncoderToken t)).isSome := by
  rw [hasProfileToken, profileNamed, List.find?_isSome, List.any_eq_true]

theorem profileForToken_of_named {p : VideoProfile}
    (h : profileNamed model (profileTokenFromEncoderToken t) = some p) :
    profileForToken model t = p := by
  unfold profileNamed at h
  rw [profileForToken, h]

theorem profileTokenFromEncoderToken_append (name : Bytes) :
    profileTokenFromEncoderToken (bytes "encoder-" ++ name) = name := by
  rw [profileTokenFromEncoderToken, if_pos (List.prefix_append _ _), List.drop_left]

theorem profileTokenFromEncoderToken_of_not {name : Bytes} (h : ¬bytes "encoder-" <+: name) :
    profileTokenFromEncoderToken name = name := if_neg h

/-- A profile of the model is found under its own token. -/
theorem profileNamed_isSome {p : VideoProfile} (h : p ∈ model.profiles) {name : Bytes}
    (hname : p.named name = true) : (profileNamed model name).isSome :=
  List.find?_isSome.mpr ⟨p, h, hname⟩

theorem mem_of_profileNamed {p : VideoProfile} {name : Bytes}
    (h : profileNamed model name = some p) :
    p ∈ model.profiles ∧ p.named name = true := by
  unfold profileNamed at h
  exact ⟨List.mem_of_find?_eq_some h, by simpa using List.find?_some h⟩

/-! ### The checks -/

/-- The checks of `GetVideoEncoderConfiguration` let the token through. -/
def GetPasses (model : MediaModel) (t : Bytes) : Prop :=
  requireProfileToken model t (bytes "Missing ConfigurationToken") = pure ()

/-- The checks of `SetVideoEncoderConfiguration` let the token through. -/
def SetPasses (model : MediaModel) (t : Bytes) : Prop :=
  requireProfileToken model (profileTokenFromEncoderToken t)
    (bytes "Missing video encoder configuration token") = pure ()

theorem requireProfileToken_iff (missing : Bytes) : requireProfileToken model t missing = pure () ↔
    t ≠ [] ∧ (profileNamed model (profileTokenFromEncoderToken t)).isSome := by
  rw [← hasProfileToken_iff, requireProfileToken]
  split_ifs with hempty hnot
  · refine iff_of_false (fun h => ?_) fun h => h.1 hempty
    cases h
  · refine iff_of_false (fun h => ?_) fun h => ?_
    · cases h
    · rw [h.2] at hnot
      cases hnot
  · refine iff_of_true rfl ⟨hempty, ?_⟩
    simpa using hnot

/-- The two operations agree on a token: both let it through or neither, and then they mean the same
profile, under whose own encoder token both let it through again. -/
def Agree (model : MediaModel) (t : Bytes) : Prop :=
  (SetPasses model t ↔ GetPasses model t) ∧
    (SetPasses model t →
      profileForToken model (profileTokenFromEncoderToken t) = profileForToken model t ∧
      GetPasses model (encoderTokenForProfile (profileForToken model t)) ∧
      SetPasses model (encoderTokenForProfile (profileForToken model t)))

/-- The names that a token may stand for agree: no profile has an empty name if the token is nothing
but the prefix, a second prefix makes no difference, and the profile it names has a token of its own
that may stand for it. -/
structure NamesAgree (model : MediaModel) (t : Bytes) : Prop where
  empty : profileTokenFromEncoderToken t = [] → t = [] ∨ profileNamed model [] = none
  twice : profileTokenFromEncoderToken t ≠ [] →
    profileNamed model (profileTokenFromEncoderToken t) =
      profileNamed model (profileTokenFromEncoderToken (profileTokenFromEncoderToken t))
  own : profileTokenFromEncoderToken t ≠ [] →
    ∀ p ∈ profileNamed model (profileTokenFromEncoderToken t),
      p.token ≠ [] ∧ (profileNamed model (profileTokenFromEncoderToken p.token)).isSome

theorem passes_encoderToken {p : VideoProfile} (hp : p ∈ model.profiles) :
    GetPasses model (encoderTokenForProfile p) ∧
      (SetPasses model (encoderTokenForProfile p) ↔
        p.token ≠ [] ∧ (profileNamed model (profileTokenFromEncoderToken p.token)).isSome) := by
  have hstrip : profileTokenFromEncoderToken (encoderTokenForProfile p) = p.token :=
    profileTokenFromEncoderToken_append p.token
  constructor
  · rw [GetPasses, requireProfileToken_iff, hstrip]
    refine ⟨?_, profileNamed_isSome hp (by simp [VideoProfile.named])⟩
    rw [encoderTokenForProfile, ne_eq, List.append_eq_nil_iff]
    exact fun h => absurd h.1 (by decide)
  · rw [SetPasses, requireProfileToken_iff, hstrip]

theorem getPasses_iff : GetPasses model t ↔
    t ≠ [] ∧ (profileNamed model (profileTokenFromEncoderToken t)).isSome :=
  requireProfileToken_iff _

theorem setPasses_iff : SetPasses model t ↔ profileTokenFromEncoderToken t ≠ [] ∧
    (profileNamed model
      (profileTokenFromEncoderToken (profileTokenFromEncoderToken t))).isSome :=
  requireProfileToken_iff _

/-- When nothing is left of a token, only `GetVideoEncoderConfiguration` may let it through. -/
theorem agree_iff_of_nil (h : profileTokenFromEncoderToken t = []) :
    Agree model t ↔ NamesAgree model t := by
  -- an empty rest counts as a missing token
  have hset : ¬SetPasses model t := fun hset => (setPasses_iff.mp hset).1 h
  have hget : GetPasses model t ↔ ¬(t = [] ∨ profileNamed model [] = none) := by
    rw [getPasses_iff, h, not_or, Option.isSome_iff_ne_none]
  constructor
  · rintro ⟨hiff, -⟩
    refine ⟨fun _ => ?_, fun hne => absurd h hne, fun hne => absurd h hne⟩
    rw [hget] at hiff
    exact not_not.mp fun hnot => hset (hiff.mpr hnot)
  · rintro ⟨hempty, -, -⟩
    refine ⟨iff_of_false hset fun hpass => hget.mp hpass (hempty h), fun hpass => absurd hpass hset⟩

section Named

variable (h : profileTokenFromEncoderToken t ≠ [])
include h

theorem getPasses_iff_isSome :
    GetPasses model t ↔ (profileNamed model (profileTokenFromEncoderToken t)).isSome := by
  have hne : t ≠ [] := by
    rintro rfl
    exact h rfl
  exact getPasses_iff.trans (and_iff_right hne)

theorem setPasses_iff_isSome : SetPasses model t ↔ (profileNamed model
    (profileTokenFromEncoderToken (profileTokenFromEncoderToken t))).isSome :=
  setPasses_iff.trans (and_iff_right h)

/-- Where the operations agree, the second prefix makes no difference. -/
theorem profileNamed_of_agree (hagree : Agree model t) :
    profileNamed model (profileTokenFromEncoderToken t) =
      profileNamed model (profileTokenFromEncoderToken (profileTokenFromEncoderToken t)) := by
  obtain ⟨hiff, hsame⟩ := hagree
  rw [setPasses_iff_isSome h, getPasses_iff_isSome h] at hiff
  cases honce : profileNamed model (profileTokenFromEncoderToken t) with
  | none =>
    rw [honce] at hiff
    exact (Option.not_isSome_iff_eq_none.mp (mt hiff.mp (by simp))).symm
  | some p =>
    rw [honce] at hiff
    -- both names stand for a profile, and the operations resolve them to one
    obtain ⟨q, hq⟩ := Option.isSome_iff_exists.mp (hiff.mpr rfl)
    have hpass : SetPasses model t := (setPasses_iff_isSome h).mpr (hiff.mpr rfl)
    have heq := (hsame hpass).1
    rw [profileForToken_of_named hq, profileForToken_of_named honce] at heq
    rw [hq, heq]

/-- Otherwise both look a name up, the one once and the other twice without the prefix. -/
theorem agree_iff_of_ne_nil : Agree model t ↔ NamesAgree model t := by
  constructor
  · intro hagree
    have htwice := profileNamed_of_agree h hagree
    refine ⟨fun hnil => absurd hnil h, fun _ => htwice, fun _ p hp => ?_⟩
    have hpass : SetPasses model t := by
      rw [setPasses_iff_isSome h, ← htwice, hp]
      rfl
    have hown := (hagree.2 hpass).2.2
    rw [profileForToken_of_named hp] at hown
    exact (passes_encoderToken (mem_of_profileNamed hp).1).2.mp hown
  · rintro ⟨-, htwice, hown⟩
    refine ⟨by rw [setPasses_iff_isSome h, getPasses_iff_isSome h, htwice h], fun hpass => ?_⟩
    obtain ⟨p, hp⟩ := Option.isSome_iff_exists.mp ((setPasses_iff_isSome h).mp hpass)
    have honce := (htwice h).trans hp
    obtain ⟨hget, hset⟩ := passes_encoderToken (mem_of_profileNamed honce).1
    rw [profileForToken_of_named hp, profileForToken_of_named honce]
    exact ⟨rfl, hget, hset.mpr (hown h p honce)⟩

end Named

theorem agree_iff : Agree model t ↔ NamesAgree model t := by
  by_cases h : profileTokenFromEncoderToken t = []
  · exact agree_iff_of_nil h
  · exact agree_iff_of_ne_nil h

/-! ### Plain names -/

/-- A name that is given and does not start with the prefix. -/
def PlainName (name : Bytes) : Prop := name ≠ [] ∧ ¬bytes "encoder-" <+: name

/-- The profiles have plain names only. -/
def PlainModel (model : MediaModel) : Prop :=
  ∀ p ∈ model.profiles, PlainName p.token ∧ PlainName p.name

theorem PlainModel.plainName (h : PlainModel model) {name : Bytes}
    (hfound : (profileNamed model name).isSome) : PlainName name := by
  obtain ⟨p, hp⟩ := Option.isSome_iff_exists.mp hfound
  obtain ⟨hmem, hnamed⟩ := mem_of_profileNamed hp
  obtain ⟨htoken, hname⟩ := h p hmem
  rw [VideoProfile.named, Bool.or_eq_true, decide_eq_true_eq, decide_eq_true_eq] at hnamed
  rcases hnamed with rfl | rfl
  · exact htoken
  · exact hname

theorem PlainModel.profileNamed_eq_none (h : PlainModel model) {name : Bytes}
    (hname : ¬PlainName name) : profileNamed model name = none :=
  Option.not_isSome_iff_eq_none.mp (mt h.plainName hname)

/-- With plain names the operations agree on all tokens but those that are the name of a profile
after two prefixes. -/
theorem PlainModel.agree_iff (h : PlainModel model) : Agree model t ↔
    ∀ name, t = bytes "encoder-" ++ (bytes "encoder-" ++ name) →
      profileNamed model name = none := by
  rw [Onvif.agree_iff]
  constructor
  · rintro ⟨-, htwice, -⟩ name rfl
    have hprefix : ¬PlainName (bytes "encoder-" ++ name) := fun hplain =>
      hplain.2 (List.prefix_append _ _)
    simp only [profileTokenFromEncoderToken_append] at htwice
    have hne : bytes "encoder-" ++ name ≠ [] := fun hnil =>
      absurd (List.append_eq_nil_iff.mp hnil).1 (by decide)
    rw [← htwice hne, h.profileNamed_eq_none hprefix]
  · intro hnone
    refine ⟨fun _ => Or.inr (h.profileNamed_eq_none fun hplain => hplain.1 rfl), fun _ => ?_,
      fun _ p hp => ?_⟩
    · by_cases hprefix : bytes "encoder-" <+: profileTokenFromEncoderToken t
      · -- what is left has a prefix again, so the token had two
        obtain ⟨name, hname⟩ := hprefix
        have ht : t = bytes "encoder-" ++ (bytes "encoder-" ++ name) := by
          by_cases hfirst : bytes "encoder-" <+: t
          · obtain ⟨rest, rfl⟩ := hfirst
            rw [profileTokenFromEncoderToken_append] at hname
            rw [hname]
          · rw [profileTokenFromEncoderToken_of_not hfirst] at hname
            exact absurd ⟨name, hname⟩ hfirst
        rw [← hname, profileTokenFromEncoderToken_append, hnone name ht]
        exact h.profileNamed_eq_none fun hplain => hplain.2 (List.prefix_append _ _)
      · rw [profileTokenFromEncoderToken_of_not hprefix]
    · have hmem := (mem_of_profileNamed hp).1
      obtain ⟨hne, hplain⟩ := (h p hmem).1
      rw [profileTokenFromEncoderToken_of_not hplain]
      exact ⟨hne, profileNamed_isSome hmem (by simp [VideoProfile.named])⟩

theorem names_videoRead (answer : Option RailHttpResponse) :
    (videoRead answer).token = bytes "main" ∧ (videoRead answer).name = bytes "main" := by
  unfold videoRead
  cases bodyOf answer with
  | none => exact ⟨rfl, rfl⟩
  | some current => exact ⟨rfl, rfl⟩

/-- The models that the server makes of the answers of rail-media are plain. -/
theorem plainModel_videoRead (answer : Option RailHttpResponse) (uri : Bytes) :
    PlainModel ⟨[videoRead answer], uri⟩ := by
  intro p hp
  obtain rfl := List.mem_singleton.mp hp
  have hmain : PlainName (bytes "main") := by
    constructor
    · decide
    · decide
  rw [(names_videoRead answer).1, (names_videoRead answer).2]
  exact ⟨hmain, hmain⟩

theorem profileNamed_videoRead (answer : Option RailHttpResponse) (uri name : Bytes) :
    profileNamed ⟨[videoRead answer], uri⟩ name = none ↔ name ≠ bytes "main" := by
  have hnamed : (videoRead answer).named name = decide (bytes "main" = name) := by
    rw [VideoProfile.named, (names_videoRead answer).1, (names_videoRead answer).2, Bool.or_self]
  rw [profileNamed, List.find?_eq_none]
  constructor
  · rintro h rfl
    exact h _ (List.mem_singleton_self _) (by rw [hnamed, decide_eq_true_eq])
  · intro hne p hp
    obtain rfl := List.mem_singleton.mp hp
    rw [hnamed, decide_eq_true_eq]
    exact hne.symm

/-! ### The two operations -/

/-- The request to set the encoder that a token names. -/
def encoderRequest (token : CStr) (config : EncoderConfigurationRequest) :
    TrtSetVideoEncoderConfiguration :=
  ⟨some { config with token := some token }⟩

/-- `SetVideoEncoderConfiguration` after its checks, with the profile it has resolved the token to.
-/
def configureEncoder (profile : VideoProfile) (config : EncoderConfigurationRequest) :
    Service Unit :=
  match videoConfigFromEncoderRequest ⟨[profile], []⟩ (some ⟨some config⟩) (bytes "main") with
  | none =>
    Prog.fail (soapSenderFault (bytes
      "Unsupported video encoder configuration; use H264, 640x360/1280x720/1920x1080, and 30 fps"))
  | some next =>
    setVideoConfig next >>= checkError

/-- The candidate depends on the token only through the profile it is resolved to. -/
theorem videoConfigFromEncoderRequest_profile {token : Bytes} (h : token ≠ []) (t : CStr)
    (config : EncoderConfigurationRequest) :
    videoConfigFromEncoderRequest model (some (encoderRequest t config)) token =
      videoConfigFromEncoderRequest ⟨[profileForToken model token], []⟩ (some ⟨some config⟩)
        (bytes "main") := by
  have hmain : bytes "main" ≠ [] := by decide
  unfold videoConfigFromEncoderRequest
  simp only [profileForToken_single, h, hmain, false_and, if_false]
  rfl

theorem requireProfileToken_bind {α : Type} {missing : Bytes} {p q : Service α}
    (h : t ≠ [] → p = q) :
    (requireProfileToken model t missing >>= fun _ => p) =
      (requireProfileToken model t missing >>= fun _ => q) := by
  by_cases ht : t = []
  · rw [requireProfileToken, if_pos ht]
    rfl
  · rw [h ht]

theorem trtSetVideoEncoderConfiguration_eq (ctx : Context) (token : CStr)
    (config : EncoderConfigurationRequest) :
    trtSetVideoEncoderConfiguration ctx (some (encoderRequest token config)) = (do
      authenticate ctx
      let model ← mediaModelFromConfig ctx.config
      let t := profileTokenFromEncoderToken token.val
      requireProfileToken model t (bytes "Missing video encoder configuration token")
      configureEncoder (profileForToken model t) config) := by
  unfold trtSetVideoEncoderConfiguration
  congr 1
  funext _
  congr 1
  funext model
  refine requireProfileToken_bind fun (hne : profileTokenFromEncoderToken token.val ≠ []) => ?_
  have htoken : encoderRequestProfileToken (some (encoderRequest token config)) =
      profileTokenFromEncoderToken token.val := rfl
  rw [htoken, videoConfigFromEncoderRequest_profile hne token config]
  rfl

/-- **Encoder tokens**: the two operations check a token as `GetPasses` and `SetPasses` say and go
on with the profile it is resolved to, and they agree on it exactly when the names that it may stand
for agree.  On the models of the server they agree on every token but `encoder-encoder-main`. -/
theorem tokens_iff (model : MediaModel) (token : CStr) :
    (∀ ctx : Context, trtGetVideoEncoderConfiguration ctx (some ⟨some token⟩) = (do
      authenticate ctx
      let model ← mediaModelFromConfig ctx.config
      requireProfileToken model token.val (bytes "Missing ConfigurationToken")
      return makeVideoEncoderConfiguration (profileForToken model token.val))) ∧
    (∀ (ctx : Context) (config : EncoderConfigurationRequest),
      trtSetVideoEncoderConfiguration ctx (some (encoderRequest token config)) = (do
        authenticate ctx
        let model ← mediaModelFromConfig ctx.config
        let t := profileTokenFromEncoderToken token.val
        requireProfileToken model t (bytes "Missing video encoder configuration token")
        configureEncoder (profileForToken model t) config)) ∧
    (Agree model token.val ↔ NamesAgree model token.val) ∧
    ∀ answer uri,
      Agree ⟨[videoRead answer], uri⟩ token.val ↔ token.val ≠ bytes "encoder-encoder-main" := by
  refine ⟨fun _ => rfl, fun ctx config => trtSetVideoEncoderConfiguration_eq ctx token config,
    agree_iff, fun answer uri => ?_⟩
  have htwice : bytes "encoder-encoder-main" =
      bytes "encoder-" ++ (bytes "encoder-" ++ bytes "main") := by decide
  rw [(plainModel_videoRead answer uri).agree_iff, htwice]
  constructor
  · intro h heq
    exact (profileNamed_videoRead answer uri _).mp (h _ heq) rfl
  · rintro hne name heq
    refine (profileNamed_videoRead answer uri name).mpr ?_
    rintro rfl
    exact hne heq

/-- A token with the prefix twice. -/
def twiceToken : CStr := ⟨bytes "encoder-encoder-main", by decide⟩

/-- The size of the video is set under a token that `GetVideoEncoderConfiguration` does not know. -/
theorem twiceToken_unknown :
    ((trtSetVideoEncoderConfiguration openContext
        (some (encoderRequest twiceToken { resolution := some ⟨640, 360⟩ }))).run
      (railHost mountTable flatParser 0 fun _ => default) plainServer).1 = .ok () ∧
    ((trtGetVideoEncoderConfiguration openContext (some ⟨some twiceToken⟩)).run
      (railHost mountTable flatParser 0 fun _ => default) plainServer).1 =
        .error (invalidTokenFault twiceToken.val) := by
  constructor
  · decide +kernel
  · decide +kernel

end Afterveda.Onvif
