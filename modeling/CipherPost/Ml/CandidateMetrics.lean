import Mathlib.Data.Rat.Floor
import Mathlib.Tactic.Linarith
import Mathlib.Tactic.FieldSimp
import CipherPost.Ml.Retraining

/-!
# candidate の指標

`app/ml/retraining.py` の `_metrics_dict` と、それを読む `promotion_gate`。確率は 0 から 1 の間にあるが、
`_metrics_dict` の既定の閾値は 50 なので、どの session も at risk と判定されない。

scikit-learn の三つの指標は、文書の言う比を値とする `Sklearn` として受け取る。小数は有理数とする。

* `round4` — `round(x, 4)`
* `metricsDict` — `_metrics_dict`
* `HalfRule` — 記録した指標は「確率が 1/2 以上」という判定のもので、gate はそれに従う
* `halfRule_iff` — そうなのは、1/2 以上の確率がほとんど無いときである
-/

namespace CipherPost.Ml

/-! ## 四桁への丸め -/

/-- 一番近い整数。真ん中なら偶数の方である。 -/
def roundEven (x : ℚ) : ℤ :=
  if x - ⌊x⌋ < 1 / 2 then ⌊x⌋
  else if 1 / 2 < x - ⌊x⌋ then ⌊x⌋ + 1
  else if ⌊x⌋ % 2 = 0 then ⌊x⌋ else ⌊x⌋ + 1

/-- `round(x, 4)`。浮動小数点数を経ずに、有理数のまま丸める。 -/
def round4 (x : ℚ) : ℚ := roundEven (x * 10000) / 10000

theorem roundEven_eq_zero_iff {x : ℚ} (hx : 0 ≤ x) : roundEven x = 0 ↔ x ≤ 1 / 2 := by
  have hfloor : 0 ≤ ⌊x⌋ := Int.floor_nonneg.mpr hx
  constructor
  · intro h
    unfold roundEven at h
    split at h
    · next hlt =>
      rw [h, Int.cast_zero, sub_zero] at hlt
      exact hlt.le
    · split at h
      · omega
      · next hge hle =>
        split at h
        · rw [h, Int.cast_zero, sub_zero] at hle
          exact not_lt.mp hle
        · omega
  · intro h
    have hzero : ⌊x⌋ = 0 := Int.floor_eq_zero_iff.mpr ⟨hx, by linarith⟩
    unfold roundEven
    rw [hzero, Int.cast_zero, sub_zero]
    split
    · rfl
    · rw [if_neg (not_lt.mpr h)]
      rfl

theorem round4_eq_zero_iff {x : ℚ} (hx : 0 ≤ x) : round4 x = 0 ↔ x ≤ 1 / 20000 := by
  unfold round4
  rw [div_eq_zero_iff, or_iff_left (by norm_num), Int.cast_eq_zero,
    roundEven_eq_zero_iff (by positivity)]
  constructor <;> intro h <;> linarith

@[simp] theorem round4_zero : round4 0 = 0 := (round4_eq_zero_iff le_rfl).mpr (by norm_num)

/-- 丸めて 0 になる割合。 -/
theorem round4_ratio {a b : ℕ} (hab : a ≤ b) : round4 ((a : ℚ) / b) = 0 ↔ 20000 * a ≤ b := by
  rw [round4_eq_zero_iff (by positivity)]
  rcases Nat.eq_zero_or_pos b with rfl | hb
  · obtain rfl := Nat.le_zero.mp hab
    simp
  · have hb' : (0 : ℚ) < b := Nat.cast_pos.mpr hb
    rw [div_le_iff₀ hb', ← Nat.cast_le (α := ℚ)]
    push_cast
    constructor <;> intro h <;> linarith

/-! ## 指標 -/

/-- 両方とも真である位置の数。 -/
def hits (yTrue yPred : List Bool) : ℕ := (yTrue.zip yPred).countP fun t => t.1 && t.2

/-- 実際には偽で、真と判定された位置の数。 -/
def falseAlarms (yTrue yPred : List Bool) : ℕ := (yTrue.zip yPred).countP fun t => !t.1 && t.2

/-- scikit-learn の指標。`zero_division=0` なので、分母が 0 の比は 0 である。 -/
structure Sklearn where
  precisionScore : List Bool → List Bool → ℚ
  recallScore : List Bool → List Bool → ℚ
  f1Score : List Bool → List Bool → ℚ
  /-- `none` は例外。 -/
  rocAucScore : List Bool → List ℚ → Option ℚ
  precision_eq : ∀ yTrue yPred,
    precisionScore yTrue yPred = (hits yTrue yPred : ℚ) / (yPred.count true : ℕ)
  recall_eq : ∀ yTrue yPred,
    recallScore yTrue yPred = (hits yTrue yPred : ℚ) / (yTrue.count true : ℕ)
  f1_eq : ∀ yTrue yPred, f1Score yTrue yPred =
    ((2 * hits yTrue yPred : ℕ) : ℚ) / (yTrue.count true + yPred.count true : ℕ)

/-- `_metrics_dict` の結果。 -/
structure CandidateMetrics where
  n : ℕ
  positives : ℕ
  precision : ℚ
  «recall» : ℚ
  f1 : ℚ
  auc : Option ℚ
  fpRate : Option ℚ
  deriving DecidableEq

/-- 判定 `yPred` の指標。 -/
def metricsOf (sk : Sklearn) (yTrue yPred : List Bool) (yScore : List ℚ) : CandidateMetrics where
  n := yTrue.length
  positives := yTrue.count true
  precision := round4 (sk.precisionScore yTrue yPred)
  «recall» := round4 (sk.recallScore yTrue yPred)
  f1 := round4 (sk.f1Score yTrue yPred)
  auc := if true ∈ yTrue ∧ false ∈ yTrue then (sk.rocAucScore yTrue yScore).map round4 else none
  fpRate :=
    if 0 < yTrue.count false then
      some (round4 ((falseAlarms yTrue yPred : ℚ) / (yTrue.count false : ℕ)))
    else none

/-- 確率が閾値以上の session を at risk とする判定。 -/
def atRisk (threshold : ℚ) (yScore : List ℚ) : List Bool :=
  yScore.map fun p => decide (threshold ≤ p)

/-- `_metrics_dict`。`train_candidate` は、空の test では呼ばない。 -/
def metricsDict (sk : Sklearn) (yTrue : List Bool) (yScore : List ℚ) (threshold : ℚ := 50) :
    CandidateMetrics :=
  metricsOf sk yTrue (atRisk threshold yScore) yScore

/-- gate の読む項目。 -/
def CandidateMetrics.gate (m : CandidateMetrics) : Metrics ℚ := { f1 := some m.f1, fpRate := m.fpRate }

/-- `train_candidate` の学習と評価。`_fit_predict` は外から受け取る。 -/
def evaluate (sk : Sklearn) (fitPredict : List Row → List Row → Option (List ℚ))
    (train test : List Row) : Option (Metrics ℚ) :=
  (fitPredict train test).map fun scores =>
    (metricsDict sk (test.map fun e => decide (e.y = 1)) scores).gate

/-- candidate になった学習は、評価の結果を運ぶ record を一つ記録する。 -/
theorem recordCandidate_of_candidate {cfg : Config ℚ} {doc : Doc ℚ} {orgId : Option String}
    {scope : Scope} {tr : Training ℚ} {version : String}
    (h : (trainCandidate cfg doc orgId scope tr).1 = .candidate version) :
    ∃ train test metrics size, tr.fit train test = some metrics ∧
      (trainCandidate cfg doc orgId scope tr).2 = doc.recordCandidate (some (orgKey orgId)) version
        (trainedEntry .candidate size (some metrics) none) := by
  unfold trainCandidate at h ⊢
  cases hentries : trainingEntries cfg tr orgId scope with
  | none =>
    rw [hentries] at h
    cases h
  | some entries =>
    rw [hentries] at h
    simp only at h ⊢
    cases hthreshold : checkThreshold cfg.minPerClass entries with
    | some reason =>
      rw [hthreshold] at h
      cases h
    | none =>
      rw [hthreshold] at h
      simp only at h ⊢
      cases hsplit : groupedEntries entries with
      | none =>
        rw [hsplit] at h
        cases h
      | some sides =>
        rw [hsplit] at h
        simp only at h ⊢
        split at h
        · cases h
        · next hsides =>
          cases hfit : tr.fit sides.1 sides.2.1 with
          | none =>
            rw [hfit] at h
            cases h
          | some metrics =>
            rw [hfit] at h
            cases h
            exact ⟨_, _, metrics, entries.length, hfit, by rw [if_neg hsides]⟩

/-- 学習のできた candidate の record は、test の側の `_metrics_dict` を運ぶ。 -/
theorem trainCandidate_metrics {sk : Sklearn} {cfg : Config ℚ} {doc : Doc ℚ}
    {orgId : Option String} {scope : Scope} {tr : Training ℚ} {version : String}
    {fitPredict : List Row → List Row → Option (List ℚ)} (hfit : tr.fit = evaluate sk fitPredict)
    (h : (trainCandidate cfg doc orgId scope tr).1 = .candidate version) :
    ∃ train test scores, fitPredict train test = some scores ∧
      ∃ e ∈ ((trainCandidate cfg doc orgId scope tr).2.slot (orgKey orgId)).history,
        e.version = version ∧
        e.metrics = some (metricsDict sk (test.map fun e => decide (e.y = 1)) scores).gate := by
  obtain ⟨train, test, metrics, size, hmetrics, hdoc⟩ := recordCandidate_of_candidate h
  rw [hfit] at hmetrics
  obtain ⟨scores, hscores, rfl⟩ := Option.map_eq_some_iff.mp hmetrics
  have hkey : orgKey (some (orgKey orgId)) = orgKey orgId := orgKey_some (orgKey_ne_nil orgId)
  refine ⟨train, test, scores, hscores, ?_⟩
  rw [hdoc]
  unfold Doc.recordCandidate
  rw [hkey, Doc.slot_setSlot_self]
  exact ⟨_, mem_lastN_concat _ _, rfl, rfl⟩

/-! ## 判定 -/

/-- test の側の label と確率。 -/
structure Evaluation where
  labels : List Bool
  scores : List ℚ
  probability : ∀ p ∈ scores, 0 ≤ p ∧ p ≤ 1

namespace Evaluation

variable (sk : Sklearn) (e : Evaluation)

/-- `train_candidate` の記録する指標。 -/
def recorded : CandidateMetrics := metricsDict sk e.labels e.scores

/-- 「確率が 1/2 以上」という判定。 -/
def halfDecisions : List Bool := atRisk (1 / 2) e.scores

/-- その判定の指標。 -/
def halfMetrics : CandidateMetrics := metricsOf sk e.labels e.halfDecisions e.scores

/-- 1/2 以上の確率はほとんど無い。正しく at risk と判定される session は、そう判定される session の中でも
at risk の session の中でも二万に一つ以下で、誤って判定される session は残りの中の二万に一つ以下である。 -/
def Negligible : Prop :=
  20000 * hits e.labels e.halfDecisions ≤ e.halfDecisions.count true ∧
    20000 * hits e.labels e.halfDecisions ≤ e.labels.count true ∧
    20000 * falseAlarms e.labels e.halfDecisions ≤ e.labels.count false

end Evaluation

/-- 対の列で数えたものは、左の列で数えたものより多くない。 -/
theorem countP_zip_le_left {p : Bool × Bool → Bool} {b : Bool} (h : ∀ t, p t = true → t.1 = b)
    (yTrue yPred : List Bool) : (yTrue.zip yPred).countP p ≤ yTrue.count b := by
  have hmap : (yTrue.zip yPred).countP p ≤ ((yTrue.zip yPred).map Prod.fst).count b := by
    rw [List.count, List.countP_map]
    exact List.countP_mono_left fun t _ ht => by simpa using h t ht
  rw [List.zip_eq_zip_take_min, List.map_fst_zip (by simp)] at hmap
  rw [List.zip_eq_zip_take_min]
  exact hmap.trans ((List.take_sublist _ _).count_le b)

theorem countP_zip_le_right {p : Bool × Bool → Bool} {b : Bool} (h : ∀ t, p t = true → t.2 = b)
    (yTrue yPred : List Bool) : (yTrue.zip yPred).countP p ≤ yPred.count b := by
  have hmap : (yTrue.zip yPred).countP p ≤ ((yTrue.zip yPred).map Prod.snd).count b := by
    rw [List.count, List.countP_map]
    exact List.countP_mono_left fun t _ ht => by simpa using h t ht
  rw [List.zip_eq_zip_take_min, List.map_snd_zip (by simp)] at hmap
  rw [List.zip_eq_zip_take_min]
  exact hmap.trans ((List.take_sublist _ _).count_le b)

theorem hits_le (yTrue yPred : List Bool) :
    hits yTrue yPred ≤ yTrue.count true ∧ hits yTrue yPred ≤ yPred.count true :=
  ⟨countP_zip_le_left (fun t h => by simp_all) yTrue yPred,
    countP_zip_le_right (fun t h => by simp_all) yTrue yPred⟩

theorem falseAlarms_le (yTrue yPred : List Bool) : falseAlarms yTrue yPred ≤ yTrue.count false :=
  countP_zip_le_left (fun t h => by simp_all) yTrue yPred

/-- 何も at risk としない判定。 -/
theorem atRisk_of_lt {threshold : ℚ} {yScore : List ℚ} (h : ∀ p ∈ yScore, p < threshold) :
    atRisk threshold yScore = List.replicate yScore.length false := by
  refine List.eq_replicate_iff.mpr ⟨List.length_map _, fun b hb => ?_⟩
  obtain ⟨p, hp, rfl⟩ := List.mem_map.mp hb
  exact decide_eq_false (not_le.mpr (h p hp))

theorem count_replicate_false (n : ℕ) : (List.replicate n false).count true = 0 := by
  simp [List.count_replicate]

theorem falseAlarms_replicate_false : ∀ (yTrue : List Bool) (n : ℕ),
    falseAlarms yTrue (List.replicate n false) = 0 := by
  intro yTrue n
  refine List.countP_eq_zero.mpr fun t ht => ?_
  have hfalse := List.eq_of_mem_replicate (List.of_mem_zip ht).2
  simp [hfalse]

/-- 確率は 50 に届かないので、記録される指標は何も at risk としない判定のものである。 -/
theorem recorded_eq (sk : Sklearn) (e : Evaluation) : e.recorded sk =
    { e.halfMetrics sk with
      precision := 0, «recall» := 0, f1 := 0
      fpRate := if 0 < e.labels.count false then some 0 else none } := by
  have hnone : atRisk 50 e.scores = List.replicate e.scores.length false :=
    atRisk_of_lt fun p hp => (e.probability p hp).2.trans_lt (by norm_num)
  have hcount := count_replicate_false e.scores.length
  have hhits : hits e.labels (List.replicate e.scores.length false) = 0 :=
    Nat.le_zero.mp (hcount ▸ (hits_le _ _).2)
  have halarms := falseAlarms_replicate_false e.labels e.scores.length
  unfold Evaluation.recorded metricsDict Evaluation.halfMetrics
  rw [hnone]
  simp only [metricsOf, sk.precision_eq, sk.recall_eq, sk.f1_eq, hhits, halarms]
  simp

/-- **記録される指標が「確率が 1/2 以上」という判定のものであるのは、1/2 以上の確率がほとんど無いとき
である。** -/
theorem recorded_iff (sk : Sklearn) (e : Evaluation) :
    e.recorded sk = e.halfMetrics sk ↔ e.Negligible := by
  obtain ⟨hleft, hright⟩ := hits_le e.labels e.halfDecisions
  have halarms := falseAlarms_le e.labels e.halfDecisions
  have hprecision : (e.halfMetrics sk).precision = 0 ↔
      20000 * hits e.labels e.halfDecisions ≤ e.halfDecisions.count true := by
    show round4 (sk.precisionScore e.labels e.halfDecisions) = 0 ↔ _
    rw [sk.precision_eq, round4_ratio hright]
  have hrecall : (e.halfMetrics sk).«recall» = 0 ↔
      20000 * hits e.labels e.halfDecisions ≤ e.labels.count true := by
    show round4 (sk.recallScore e.labels e.halfDecisions) = 0 ↔ _
    rw [sk.recall_eq, round4_ratio hleft]
  have hf1 : (e.halfMetrics sk).f1 = 0 ↔ 20000 * (2 * hits e.labels e.halfDecisions) ≤
      e.labels.count true + e.halfDecisions.count true := by
    show round4 (sk.f1Score e.labels e.halfDecisions) = 0 ↔ _
    rw [sk.f1_eq, round4_ratio (by omega)]
  have hfpRate : (e.halfMetrics sk).fpRate =
        (if 0 < e.labels.count false then some 0 else none) ↔
      20000 * falseAlarms e.labels e.halfDecisions ≤ e.labels.count false := by
    show (if 0 < e.labels.count false then
      some (round4 ((falseAlarms e.labels e.halfDecisions : ℚ) / (e.labels.count false : ℕ)))
      else none) = _ ↔ _
    by_cases hneg : 0 < e.labels.count false
    · rw [if_pos hneg, if_pos hneg, Option.some.injEq, round4_ratio halarms]
    · rw [if_neg hneg, if_neg hneg]
      exact iff_of_true rfl (by omega)
  rw [recorded_eq]
  constructor
  · intro h
    exact ⟨hprecision.mp (congrArg CandidateMetrics.precision h).symm,
      hrecall.mp (congrArg CandidateMetrics.«recall» h).symm,
      hfpRate.mp (congrArg CandidateMetrics.fpRate h).symm⟩
  · rintro ⟨h₁, h₂, h₃⟩
    have hzero := hprecision.mpr h₁
    have hzero' := hrecall.mpr h₂
    have hzero₁ := hf1.mpr (by omega)
    have hnone := hfpRate.mpr h₃
    generalize e.halfMetrics sk = m at hzero hzero' hzero₁ hnone ⊢
    obtain ⟨n, positives, precision, recalled, f1, auc, fpRate⟩ := m
    simp only at hzero hzero' hzero₁ hnone
    rw [hzero, hzero', hzero₁, hnone]

/-! ## gate -/

/-- 記録された指標は「確率が 1/2 以上」という判定のもので、その F1 が margin だけ上回り、誤検知の割合が
高くならない candidate を、gate は受け入れる。 -/
structure HalfRule (sk : Sklearn) (cfg : Config ℚ) (candidate current : Evaluation) : Prop where
  candidateRecorded : candidate.recorded sk = candidate.halfMetrics sk
  currentRecorded : current.recorded sk = current.halfMetrics sk
  accepts : ∀ entry : Entry ℚ, entry.metrics = some (candidate.recorded sk).gate →
    (current.halfMetrics sk).f1 + cfg.margin ≤ (candidate.halfMetrics sk).f1 →
    (∀ a b, (candidate.halfMetrics sk).fpRate = some a → (current.halfMetrics sk).fpRate = some b →
      a ≤ b) →
    (promotionGate cfg entry (some (current.recorded sk).gate)).1 = true

/-- gate は、記録された F1 と誤検知の割合に従う。 -/
theorem promotionGate_accepts (cfg : Config ℚ) {entry : Entry ℚ} {m cur : CandidateMetrics}
    (hentry : entry.metrics = some m.gate) (hf1 : cur.f1 + cfg.margin ≤ m.f1)
    (hfp : ∀ a b, m.fpRate = some a → cur.fpRate = some b → a ≤ b) :
    (promotionGate cfg entry (some cur.gate)).1 = true := by
  have hlift : ¬(f1Of (some m.gate) < f1Of (some cur.gate) + cfg.margin) := not_lt.mpr hf1
  unfold promotionGate
  rw [hentry]
  simp only
  rw [if_neg hlift]
  split
  · next a b ha hb =>
    rw [if_neg (not_lt.mpr (hfp a b ha hb))]
  · rfl

/--
**記録された指標と gate が「確率が 1/2 以上」という判定に従うのは、candidate でも現在の model でも、1/2
以上の確率がほとんど無いときである。**
-/
theorem halfRule_iff (sk : Sklearn) (cfg : Config ℚ) (candidate current : Evaluation) :
    HalfRule sk cfg candidate current ↔ candidate.Negligible ∧ current.Negligible := by
  constructor
  · intro h
    exact ⟨(recorded_iff sk candidate).mp h.candidateRecorded,
      (recorded_iff sk current).mp h.currentRecorded⟩
  · rintro ⟨hcandidate, hcurrent⟩
    have hcandidate := (recorded_iff sk candidate).mpr hcandidate
    have hcurrent := (recorded_iff sk current).mpr hcurrent
    refine ⟨hcandidate, hcurrent, fun entry hentry hf1 hfp => ?_⟩
    refine promotionGate_accepts cfg hentry ?_ ?_
    · rwa [hcandidate, hcurrent]
    · rwa [hcandidate, hcurrent]

/-- 文書の言う比をそのまま値とする scikit-learn。 -/
def plainSklearn : Sklearn where
  precisionScore yTrue yPred := (hits yTrue yPred : ℚ) / (yPred.count true : ℕ)
  recallScore yTrue yPred := (hits yTrue yPred : ℚ) / (yTrue.count true : ℕ)
  f1Score yTrue yPred :=
    ((2 * hits yTrue yPred : ℕ) : ℚ) / (yTrue.count true + yPred.count true : ℕ)
  rocAucScore _ _ := none
  precision_eq _ _ := rfl
  recall_eq _ _ := rfl
  f1_eq _ _ := rfl

/-- 二つの session を正しく分ける candidate と、逆に分ける現在の model。 -/
def perfectCandidate : Evaluation := ⟨[true, false], [9 / 10, 1 / 10], by norm_num⟩

def invertedModel : Evaluation := ⟨[true, false], [1 / 10, 9 / 10], by norm_num⟩

/-- 既定の設定。 -/
def defaultConfig : Config ℚ :=
  { margin := 1 / 50, minAnalystLabels := 50, optInOrgs := [], fmt := fun _ => "" }

/-- 正しく分ける candidate の F1 も 0 と記録され、gate はそれを退ける。 -/
theorem not_halfRule_perfectCandidate :
    ¬HalfRule plainSklearn defaultConfig perfectCandidate invertedModel ∧
      (promotionGate defaultConfig
        (trainedEntry .candidate 2 (some (perfectCandidate.recorded plainSklearn).gate) none)
        (some (invertedModel.recorded plainSklearn).gate)).1 = false := by
  constructor
  · intro h
    exact absurd h.candidateRecorded (by decide +kernel)
  · decide +kernel

end CipherPost.Ml
