import CipherPost.Live.Analyze

/-!
# 採点と rolling baseline

`app/ml/ml_engine.py` の `SessionScorer` と、`app/live/baseline.py` の `RollingBaseline`。
`RollingBaseline` の `score` として書かれた関数は、`drift_from_db` の `return` の後に、その局所の関数として
置かれている。class の属性にはなっておらず、呼ばれることもない。

* `SessionScorer.score` — 特徴量から risk と anomaly を出す
* `RollingBaseline.refit`・`RollingBaseline.refitIfNeeded` — baseline の学び直し
* `RollingBaseline.nestedScore` — 局所の関数になっている `score`
* `RollingBaseline.attributes`・`SessionScorer.attributes` — `hasattr` が見る属性
* `RollingBaseline.nestedScore_gains` — `nestedScore` は baseline に vector を一つ加える

学習と推論そのものは引数 `MlLibrary` とする。
-/

namespace CipherPost.Live

/-! ## 採点の結果 -/

variable {R Model Forest : Type}

structure RiskScore (R : Type) where
  probability : R
  postureScore : Int
  classLabel : String
  modelVersion : String

structure AnomalyResult (R : Type) where
  isAnomaly : Bool
  anomalyScore : R
  method : String

structure FeatureContribution (R : Type) where
  feature : String
  value : R
  impact : R

structure ScoringResult (R : Type) where
  risk : RiskScore R
  anomaly : AnomalyResult R
  shapContributions : List (FeatureContribution R)
  ruleMlAgreement : String

/-- numpy と scikit-learn と SHAP。数値の型は `R` とし、`none` は例外である。 -/
structure MlLibrary (R Model Forest : Type) where
  /-- `extract_features` の dict の `get(n, 0)`。 -/
  features : Analysis → Option (String → R)
  /-- `RiskGradientBoost()`。 -/
  newModel : Model
  /-- `RiskGradientBoost.predict`。 -/
  predict : Model → List R → Option (R × String)
  /-- `int(round(prob * 100))`。 -/
  percent : R → Int
  /-- `compute_shap`。例外は飲み込まれる。 -/
  shap : Model → List R → List String → List (FeatureContribution R)
  /-- `IsolationForest(contamination).fit`。失敗しても object は残る。 -/
  fit : Rat → List (List R) → Forest × Bool
  /-- `predict` が -1 であることと、`score_samples`。 -/
  isolate : Forest → List R → Option (Bool × R)
  /-- `-1.0`。 -/
  minusOne : R

variable (lib : MlLibrary R Model Forest)

/-- `FEATURE_NAMES`。 -/
def FEATURE_NAMES : List String :=
  ["any_expired", "any_self_signed", "any_short_key", "any_weak_signature", "cert_count",
   "cert_max_key_bits", "cert_min_days_remaining", "chain_valid", "cipher_category_aead",
   "cipher_category_cbc", "cipher_category_stream", "cipher_strength", "finding_count",
   "has_starttls_offer", "is_export", "is_null", "is_rc4", "is_starttls", "key_length",
   "max_severity", "pfs", "plaintext_bytes", "rule_3des", "rule_expired", "rule_export",
   "rule_no-pfs-suites", "rule_no-tls-on-implicit", "rule_non-aead", "rule_non-pfs",
   "rule_plaintext-mail", "rule_rc4", "rule_self-signed", "rule_short-key", "rule_starttls-strip",
   "rule_tls-version", "rule_unknown-cipher", "rule_untrusted", "rule_weak-cipher",
   "rule_weak-signature", "started_tls", "tls_bytes", "tls_version_rank"]

/-! ## 異常の検出 -/

/-- `FleetAnomalyDetector`。 -/
structure FleetAnomalyDetector (Forest : Type) where
  contamination : Rat
  iso : Option Forest := none
  trained : Bool := false

namespace FleetAnomalyDetector

/-- `train`。例外が起きなければ `true` を添える。 -/
def train (d : FleetAnomalyDetector Forest) (x : List (List R)) :
    FleetAnomalyDetector Forest × Bool :=
  if x.length < 5 then (d, true)
  else
    let (forest, fitted) := lib.fit d.contamination x
    ({ d with iso := some forest, trained := d.trained || fitted }, fitted)

/-- `predict`。 -/
def predict (d : FleetAnomalyDetector Forest) (x : List R) : Option (AnomalyResult R) :=
  match d.iso with
  | some forest =>
    if d.trained then (lib.isolate forest x).map fun r => ⟨r.1, r.2, "isolation-forest"⟩
    else some ⟨false, lib.minusOne, "fallback-no-op"⟩
  | none => some ⟨false, lib.minusOne, "fallback-no-op"⟩

end FleetAnomalyDetector

/-! ## `SessionScorer` -/

structure SessionScorer (Model Forest : Type) where
  riskModel : Model
  anomalyModel : FleetAnomalyDetector Forest
  featureNames : List String
  trained : Bool := false
  /-- `train` だけが置く `_model_version`。 -/
  modelVersion : Option String := none

namespace SessionScorer

/-- `SessionScorer()`。 -/
def new : SessionScorer Model Forest where
  riskModel := lib.newModel
  anomalyModel := { contamination := 1 / 5 }
  featureNames := FEATURE_NAMES

/-- `max_severity(sa.findings) in ("medium", "high", "critical")`。 -/
def ruleAtRisk (a : Analysis) : Bool :=
  a.findings.any fun f => decide (Severity.medium.rank ≤ f.severity.rank)

/-- `rule_ml_agreement`。 -/
def agreement (ruleAtRisk mlAtRisk : Bool) : String :=
  if ruleAtRisk = mlAtRisk then "agrees"
  else if mlAtRisk then "disagrees-ml-more-severe"
  else "disagrees-rules-more-severe"

/-- `score`。`currentVersion` は `registry.current_version()` である。 -/
def score (currentVersion : Option String) (s : SessionScorer Model Forest) (a : Analysis) :
    Option (ScoringResult R) := do
  let feats ← lib.features a
  let x := s.featureNames.map feats
  let (prob, label) ← lib.predict s.riskModel x
  let anomaly ← s.anomalyModel.predict lib x
  some {
    risk := ⟨prob, lib.percent prob, label,
      ((truthy s.modelVersion).or currentVersion).getD "0.1.0"⟩
    anomaly
    shapContributions := lib.shap s.riskModel x s.featureNames
    ruleMlAgreement := agreement (ruleAtRisk a) (decide (label = "at-risk")) }

/-- `SessionScorer` の object の属性。 -/
def attributes : List String :=
  ["__init__", "train", "score", "score_batch", "trust_store", "risk_model", "anomaly_model",
   "_feature_names", "_trained"]

end SessionScorer

/-! ## `RollingBaseline` -/

/-- baseline の設定。 -/
structure BaselineSettings where
  /-- `FLEET_ANOMALY_CONTAMINATION`。 -/
  contamination : Rat := 1 / 10
  /-- `FLEET_BASELINE_MIN_SAMPLES`。 -/
  minSamples : Nat := 20
  /-- `FLEET_BASELINE_REFIT_EVERY`。 -/
  refitEvery : Nat := 200

/-- 一回の採点の環境。 -/
structure ScoreEnv (R : Type) where
  now : Rat
  /-- `registry.current_version()`。 -/
  currentVersion : Option String
  /-- `baseline_features` から読んだ vector。読めなければ無い。 -/
  window : Option (List (List R))

structure RollingBaseline (R Model Forest : Type) where
  scorer : SessionScorer Model Forest
  anomaly : FleetAnomalyDetector Forest
  lastRefit : Rat := 0
  seen : Nat := 0
  /-- `_buffer`。 -/
  buffer : List (List R) := []

/-- `l[-n:]`。 -/
def lastVectors {β : Type} (n : Nat) (l : List β) : List β := l.drop (l.length - n)

namespace RollingBaseline

variable (settings : BaselineSettings) (env : ScoreEnv R)

/-- `RollingBaseline()`。 -/
def new : RollingBaseline R Model Forest where
  scorer := SessionScorer.new lib
  anomaly := { contamination := settings.contamination }

/-- `anomaly.train` と `_last_refit`。例外は飲み込まれる。 -/
def fitted (b : RollingBaseline R Model Forest) (x : List (List R)) :
    RollingBaseline R Model Forest :=
  let (anomaly, trained) := b.anomaly.train lib x
  { b with anomaly, lastRefit := if trained then env.now else b.lastRefit }

/-- `_refit`。DB の vector が足りなければ `_buffer` を使う。`np.stack` は空の list で例外になる。 -/
def refit (b : RollingBaseline R Model Forest) : Option (RollingBaseline R Model Forest) :=
  match env.window.filter fun x => !x.isEmpty && decide (settings.minSamples ≤ x.length) with
  | some x => some (b.fitted lib env x)
  | none =>
    if b.buffer.length < settings.minSamples then some b
    else if b.buffer.isEmpty then none
    else some (b.fitted lib env (lastVectors 5000 b.buffer))

/-- `_refit_if_needed`。`none` は 0 での剰余などの例外である。 -/
def refitIfNeeded (b : RollingBaseline R Model Forest) : Option (RollingBaseline R Model Forest) :=
  if settings.refitEvery = 0 then none
  else if b.seen % settings.refitEvery = 0 ∨ 3600 < env.now - b.lastRefit then
    b.refit lib settings env
  else some b

/-- `_buffer` に加える。6000 を超えたら、最後の 5000 個にする。 -/
def remember (b : RollingBaseline R Model Forest) (v : List R) : RollingBaseline R Model Forest :=
  let buffer := b.buffer ++ [v]
  { b with buffer := if 6000 < buffer.length then lastVectors 5000 buffer else buffer }

/-- 特徴量の vector。 -/
def vector (a : Analysis) : Option (List R) := (lib.features a).map (FEATURE_NAMES.map ·)

/-- 学んだ baseline があれば、anomaly をその判定にする。 -/
def override (b : RollingBaseline R Model Forest) (a : Analysis) (r : ScoringResult R) :
    ScoringResult R :=
  if b.anomaly.trained then
    match (vector lib a).bind (b.anomaly.predict lib) with
    | some anomaly => { r with anomaly }
    | none => r
  else r

/--
`drift_from_db` の局所の関数 `score`。`baseline_features` への追記は成否を問わず、結果に関わらない。
-/
def nestedScore (b : RollingBaseline R Model Forest) (a : Analysis) :
    Option (ScoringResult R) × RollingBaseline R Model Forest :=
  let b := ((vector lib a).map b.remember).getD b
  let b := { b with seen := b.seen + 1 }
  match b.refitIfNeeded lib settings env with
  | none => (none, b)
  | some b => ((b.scorer.score lib env.currentVersion a).map (b.override lib a), b)

/-- `RollingBaseline` の object の属性。 -/
def attributes : List String :=
  ["__init__", "_refit_if_needed", "_refit", "train", "scorer", "anomaly", "_trained",
   "_last_refit", "_seen", "_buffer"]

end RollingBaseline

/-! ## baseline の増え方 -/

/-- `v` を一つ加えた後の baseline。6000 個を超えず、最後の 5000 個は残る。 -/
structure GainsOne {β : Type} (before after : List β) (v : β) : Prop where
  suffix : after <:+ before ++ [v]
  le : after.length ≤ 6000
  keeps : min 5000 (before.length + 1) ≤ after.length

namespace RollingBaseline

variable {settings : BaselineSettings} {env : ScoreEnv R} {lib}
  {b b' : RollingBaseline R Model Forest}

theorem remember_gains (b : RollingBaseline R Model Forest) (v : List R) :
    GainsOne b.buffer (b.remember v).buffer v := by
  simp only [remember]
  by_cases hlong : 6000 < (b.buffer ++ [v]).length
  · rw [if_pos hlong]
    simp only [List.length_append, List.length_singleton] at hlong
    refine ⟨List.drop_suffix _ _, ?_, ?_⟩ <;> simp [lastVectors] <;> omega
  · rw [if_neg hlong]
    refine ⟨List.suffix_rfl, Nat.not_lt.mp hlong, ?_⟩
    rw [List.length_append]
    exact Nat.min_le_right _ _

@[simp] theorem buffer_fitted (x : List (List R)) : (b.fitted lib env x).buffer = b.buffer := rfl

/-- 学び直しは baseline の vector を変えない。 -/
theorem buffer_refit (h : b.refit lib settings env = some b') : b'.buffer = b.buffer := by
  unfold refit at h
  split at h
  · rw [← Option.some.inj h, buffer_fitted]
  · split at h
    · rw [← Option.some.inj h]
    · split at h
      · cases h
      · rw [← Option.some.inj h, buffer_fitted]

theorem buffer_refitIfNeeded (h : b.refitIfNeeded lib settings env = some b') :
    b'.buffer = b.buffer := by
  unfold refitIfNeeded at h
  split at h
  · cases h
  · split at h
    · exact buffer_refit h
    · cases h
      rfl

/-- **特徴量が得られれば、`nestedScore` は baseline に vector を一つ加える。** -/
theorem nestedScore_gains {a : Analysis} {v : List R} (hv : vector lib a = some v) :
    GainsOne b.buffer (b.nestedScore lib settings env a).2.buffer v := by
  have hone := b.remember_gains v
  simp only [nestedScore, hv, Option.map_some, Option.getD_some]
  split
  · exact hone
  · next b' hrefit =>
    rw [buffer_refitIfNeeded hrefit]
    exact hone

/-- 採点できたなら、特徴量は得られている。 -/
theorem vector_of_nestedScore {a : Analysis} {r : ScoringResult R}
    (h : (b.nestedScore lib settings env a).1 = some r) : ∃ v, vector lib a = some v := by
  simp only [nestedScore] at h
  split at h
  · cases h
  · obtain ⟨r', hscore, -⟩ := Option.map_eq_some_iff.mp h
    cases hf : lib.features a with
    | none => simp [SessionScorer.score, hf] at hscore
    | some feats => exact ⟨FEATURE_NAMES.map feats, by rw [vector, hf, Option.map_some]⟩

end RollingBaseline

end CipherPost.Live
