import Mathlib.Algebra.Order.Floor.Ring
import Mathlib.Data.List.Sort
import Mathlib.Data.Rat.Floor
import AutomatedTradingBot.Source.StatisticalAssurance

/-!
# The moving-block bootstrap

`moving_block_bootstrap_mean` of `research/statistical_assurance.py`, with exact
rationals for the decimals that the context rounds. The generator is a parameter: what
`random.Random(seed).randrange` returns is one stream of numbers for each seed, taken
modulo the bound of the call. An interval method has one member.
-/

namespace ATB.StatisticalAssurance

inductive AssuranceOutcome where
  | testPass
  | testFail
  | insufficientEvidence
  | invalid
deriving DecidableEq

structure SampleAdequacy where
  established : Bool
  effectiveSampleSize : ℚ
  ruleIdentity : String
  reasons : List String
  nonnegative : 0 ≤ effectiveSampleSize
  ruleIdentity_text : text ruleIdentity "rule_identity" = .ok ()
  reasons_text : textTuple reasons "reasons" = .ok ()
  explained : established = true ↔ reasons = []
deriving DecidableEq

structure StatisticalSample where
  sampleId : String
  researchRunId : String
  datasetId : String
  datasetVersion : String
  partitionId : String
  observations : List ℚ
  observationIds : List String
  overlapping : Bool
  adequacy : SampleAdequacy
  identities_text : textTuple [sampleId, researchRunId, datasetId, datasetVersion, partitionId] "identity" = .ok ()
  nonempty : observations ≠ []
  complete : observationIds.length = observations.length ∧ observationIds.Nodup
  observationIds_text : textTuple observationIds "observation_ids" = .ok ()
deriving DecidableEq

structure ResamplingConfig where
  seed : Nat
  blockLength : Nat
  resamples : Nat
  confidenceLevel : ℚ
  blockLength_pos : 0 < blockLength
  resamples_pos : 0 < resamples
  confidence : 0 < confidenceLevel ∧ confidenceLevel < 1
deriving DecidableEq

structure BootstrapResult where
  outcome : AssuranceOutcome
  sampleId : String
  mean : Option ℚ
  lower : Option ℚ
  upper : Option ℚ
  config : ResamplingConfig
  reasons : List String
  evidenceDigest : String
deriving DecidableEq

/-- `value.to_integral_value()`: half to even. -/
def toIntegralValue (value : ℚ) : Int :=
  let rest := value - ⌊value⌋
  if 1 / 2 < rest ∨ (rest = 1 / 2 ∧ ⌊value⌋ % 2 = 1) then ⌊value⌋ + 1 else ⌊value⌋

/-- `_quantile_index`. -/
def quantileIndex (probability : ℚ) (count : Nat) : Nat :=
  (max 0 (min ((count : Int) - 1) (toIntegralValue (probability * ((count : Int) - 1 : Int))))).toNat

/-- `sum(values, Decimal("0")) / Decimal(len(values))`. -/
def meanOf (values : List ℚ) : ℚ := values.sum / values.length

namespace StatisticalSample

variable (s : StatisticalSample)

/-- The block of observations from a start on, around the end of the sample. -/
def block (length start : Nat) : List ℚ :=
  (List.range length).map fun offset => s.observations.getD ((start + offset) % s.observations.length) 0

/-- `block_count`. -/
def blockCount (config : ResamplingConfig) : Nat :=
  (s.observations.length + config.blockLength - 1) / config.blockLength

/-- The `i`-th resample, of the numbers that the generator returns. -/
def resample (config : ResamplingConfig) (random : Nat → Nat) (i : Nat) : List ℚ :=
  ((List.range (s.blockCount config)).flatMap fun b =>
    s.block config.blockLength (random (i * s.blockCount config + b) % s.observations.length)).take s.observations.length

/-- `means`, sorted. -/
def means (config : ResamplingConfig) (random : Nat → Nat) : List ℚ :=
  ((List.range config.resamples).map fun i => meanOf (s.resample config random i)).insertionSort (· ≤ ·)

/-- `reasons`. -/
def shortcomings (config : ResamplingConfig) : List String :=
  (if s.adequacy.established then [] else s.adequacy.reasons) ++
    (if s.observations.length < config.blockLength then ["block length exceeds sample"] else []) ++
    (if s.overlapping = true ∧ config.blockLength = 1 then
      ["overlapping returns require dependence-aware block length"] else []) ++
    if s.observations.dedup.length = 1 then ["zero variance cannot support significance"] else []

/-- `_sample_body`. -/
def body (env : Environment) : Json := .obj
  [("sample_id", .str s.sampleId), ("research_run_id", .str s.researchRunId), ("dataset_id", .str s.datasetId),
    ("dataset_version", .str s.datasetVersion), ("partition_id", .str s.partitionId),
    ("observations", .arr (s.observations.map fun v => .str (env.decimalText v))),
    ("observation_ids", .arr (s.observationIds.map .str)), ("overlapping", .bool s.overlapping),
    ("adequacy", .obj [("established", .bool s.adequacy.established),
      ("effective_sample_size", .str (env.decimalText s.adequacy.effectiveSampleSize)),
      ("rule_identity", .str s.adequacy.ruleIdentity), ("reasons", .arr (s.adequacy.reasons.map .str))])]

end StatisticalSample

/-- `_optional_decimal`. -/
def optionalDecimal (env : Environment) (value : Option ℚ) : Json := value.elim .null fun v => .str (env.decimalText v)

/-- `_bootstrap_body`. -/
def bootstrapBody (env : Environment) (s : StatisticalSample) (config : ResamplingConfig) (mean lower upper : Option ℚ)
    (reasons : List String) : Json := .obj
  [("sample", s.body env),
    ("config", .obj [("method", .str "PERCENTILE_MOVING_BLOCK"), ("seed", .int config.seed),
      ("block_length", .int config.blockLength), ("resamples", .int config.resamples),
      ("confidence_level", .str (env.decimalText config.confidenceLevel))]),
    ("mean", optionalDecimal env mean), ("lower", optionalDecimal env lower), ("upper", optionalDecimal env upper),
    ("reasons", .arr (reasons.map .str))]

/-- `moving_block_bootstrap_mean`, with the numbers that a generator returns for a seed. -/
def movingBlockBootstrapMean (env : Environment) (random : Nat → Nat → Nat) (s : StatisticalSample)
    (config : ResamplingConfig) : BootstrapResult :=
  let reasons := s.shortcomings config
  if reasons ≠ [] then
    ⟨.insufficientEvidence, s.sampleId, none, none, none, config, reasons,
      env.digest "BOOTSTRAP-V1" (bootstrapBody env s config none none none reasons)⟩
  else
    let means := s.means config (random config.seed)
    let tail := (1 - config.confidenceLevel) / 2
    let mean := meanOf s.observations
    let lower := means.getD (quantileIndex tail means.length) 0
    let upper := means.getD (quantileIndex (1 - tail) means.length) 0
    ⟨.testPass, s.sampleId, some mean, some lower, some upper, config, [],
      env.digest "BOOTSTRAP-V1" (bootstrapBody env s config (some mean) (some lower) (some upper) [])⟩

end ATB.StatisticalAssurance
