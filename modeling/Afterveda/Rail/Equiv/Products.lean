import Afterveda.Rail.Equiv.Encoder
import Afterveda.Rail.Equiv.Range

/-!
# The products of the pipeline

`encoder_pipeline` multiplies the bitrate of the hardware encoder and the frame rate of the software
encoder, as `int`s.  Requests only let through values whose products are small; the command line
lets through every positive number, and what it gave stays until a request sets the video.
`productsFit_iff` says for which start-up values no product overflows, at the start or in any run.
-/

namespace Afterveda.Rail

open CText CNumber JsonGlib

variable {T : Type} {points : MountPoints T} {parse : Parser}

/-- The products that `encoder_pipeline` computes, as integers. -/
def encoderProducts (config : Config) : List ℤ :=
  if config.encoder = bytes "v4l2" then [config.bitrateKbps * 1000] else [config.fps * 2]

/-- They are the ones in the text, reduced to 32 bits. -/
theorem encoderPipeline_eq (config : Config) :
    ∃ pre post, encoderPipeline config =
      pre ++ (encoderProducts config).flatMap (fun p => toDecimal (wrap32 p)) ++ post := by
  unfold encoderPipeline encoderProducts
  split_ifs with hv4l2
  · rw [List.flatMap_singleton]
    exact ⟨_, _, rfl⟩
  · rw [List.flatMap_singleton]
    exact ⟨_, _, rfl⟩

/-- No product overflows. -/
def ProductsFit (config : Config) : Prop := ∀ p ∈ encoderProducts config, IsInt32 p

/-- The bounds on the factors. -/
theorem productsFit_iff_bounds {config : Config}
    (hencoder : config.encoder = bytes "v4l2" ∨ config.encoder = bytes "x264") :
    ProductsFit config ↔
      (config.encoder = bytes "v4l2" →
        -2147483 ≤ config.bitrateKbps ∧ config.bitrateKbps ≤ 2147483) ∧
      (config.encoder = bytes "x264" → -2 ^ 30 ≤ config.fps ∧ config.fps < 2 ^ 30) := by
  have hne : bytes "v4l2" ≠ bytes "x264" := by decide
  unfold ProductsFit encoderProducts IsInt32
  rcases hencoder with h | h
  · rw [h, if_pos rfl]
    simp only [List.forall_mem_singleton, forall_const, hne, IsEmpty.forall_iff, and_true]
    omega
  · rw [h, if_neg hne.symm]
    simp only [List.forall_mem_singleton, forall_const, hne.symm, IsEmpty.forall_iff, true_and]
    omega

/-! ### Runs -/

/-- Values that the dynamic check lets through are small, whatever the encoder. -/
theorem Supported.productsFit {config : Config} (h : Supported config) : ProductsFit config := by
  obtain ⟨-, hfps, hlow, hhigh⟩ := supportedDynamicVideoConfig_iff.mp h
  unfold ProductsFit encoderProducts IsInt32
  split_ifs
  · rw [List.forall_mem_singleton]
    omega
  · rw [List.forall_mem_singleton]
    omega

/-- A request sets the factors to supported values, or leaves them and the encoder as they are. -/
theorem ProductsFit.commits {current next : Config} (h : ProductsFit current)
    (hnext : Commits current next) : ProductsFit next := by
  cases hnext with
  | kept => exact h
  | video hsupported => exact Supported.productsFit hsupported
  | preset hfind => exact (findProfile_supported hfind current).productsFit
  | imaging _ _ _ => exact h
  | osd _ _ => exact h

theorem productsFit_of_reaches {config : Config} (hconfig : ProductsFit config) {es : List Event}
    {s : MediaServer T} (h : (machine points parse config).Reaches Machine.anyStep es s) :
    ProductsFit s.current := by
  refine h.invariant (I := fun s => ProductsFit s.current) ?_ ?_
  · rintro _ ⟨now, rfl⟩
    exact hconfig
  · intro s e t hs _ hstep
    exact hs.commits (commits_step hstep)

variable (points parse) in
/-- **The products of the pipeline**: from an accepted command line no product overflows, in the
first pipeline and in every run, exactly when the start-up bitrate of the hardware encoder is at
most 2147483 in absolute value, or the start-up frame rate of the software encoder is from `-2^30`
to `2^30 - 1`. -/
theorem productsFit_iff {argv : List CStr} {config : Config} (h : parseArgs argv = .ok config) :
    (ProductsFit config ∧
      ∀ es s, (machine points parse config).Reaches Machine.anyStep es s →
        ProductsFit s.current) ↔
      (config.encoder = bytes "v4l2" →
        -2147483 ≤ config.bitrateKbps ∧ config.bitrateKbps ≤ 2147483) ∧
      (config.encoder = bytes "x264" → -2 ^ 30 ≤ config.fps ∧ config.fps < 2 ^ 30) := by
  rw [← productsFit_iff_bounds (accepted_of_parseArgs h).encoder]
  constructor
  · exact fun hfit => hfit.1
  · exact fun hfit => ⟨hfit, fun es s hreaches => productsFit_of_reaches hfit hreaches⟩

/-- The arguments `--encoder x264`. -/
theorem productsFit_iff_software :
    ProductsFit softwareConfig ∧
      ∀ es s, (machine mountTable flatParser softwareConfig).Reaches Machine.anyStep es s →
        ProductsFit s.current :=
  (productsFit_iff mountTable flatParser parseArgs_softwareArgs).mpr (by decide)

/-- The arguments `--bitrate-kbps 2147484` are accepted, the product is past 32 bits, and the
pipeline is built with what is left of it. -/
theorem not_productsFit_fast :
    (¬∀ (argv : List CStr) (config : Config), parseArgs argv = .ok config → ProductsFit config) ∧
      ∃ pre post, encoderPipeline { bitrateKbps := 2147484 } =
        pre ++ bytes "-2147483296" ++ post := by
  constructor
  · intro hall
    have hargs : parseArgs [⟨bytes "--bitrate-kbps", by decide⟩, ⟨bytes "2147484", by decide⟩] =
        .ok { bitrateKbps := 2147484 } := by
      decide
    have hfit := hall _ _ hargs (2147484 * 1000) (by decide)
    exact absurd hfit (by decide)
  · obtain ⟨pre, post, hpipeline⟩ := encoderPipeline_eq { bitrateKbps := 2147484 }
    have hproducts : (encoderProducts { bitrateKbps := 2147484 }).flatMap
        (fun p => toDecimal (wrap32 p)) = bytes "-2147483296" := by
      decide
    rw [hproducts] at hpipeline
    exact ⟨pre, post, hpipeline⟩

end Afterveda.Rail
