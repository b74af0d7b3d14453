import CipherPost.Live.Baseline
import CipherPost.Ml.Registry

/-!
# live の session の採点

`AnalysisWorker._scorer_for` は org ごとの scorer を選び、昇格した model を読み込む。`_process_one` は
`hasattr(scorer, "score")` のときだけ採点し、例外を飲み込んで、結果を row の列に書く。

* `scorerFor` — `_scorer_for`
* `scoreSession` — `_process_one` の採点の部分。`attributes` は `RollingBaseline` の属性とする
* `LiveWorker.step` — 採点を添えた worker の一歩
* `SessionScored` — 採点され、row に載り、baseline が一つ増え、他の org の scorer は変わらない
* `not_sessionScored` — そうなる session は無い
* `sessionScored_of_attribute` — `score` が属性であったなら、採点できた session はそうなる
* `unscored_exec` — どの run でも、採点された row は無い
-/

namespace CipherPost.Live

variable {R Model Forest : Type}

/-! ## scorer を選ぶ -/

/-- cache に置く scorer。 -/
inductive Scorer (R Model Forest : Type) where
  | rolling (b : RollingBaseline R Model Forest)
  | session (s : SessionScorer Model Forest)

/-- registry の record のうち、ここで読むもの。 -/
structure Promoted where
  version : Option String
  artifact : String

/-- `joblib.load` の結果。無い key を引くと例外になる。 -/
structure Bundle (Model : Type) where
  model : Option Model
  featureNames : Option (List String)

/-- 一回の `_process_one` の採点の環境。 -/
structure ScorerEnv (R Model : Type) extends ScoreEnv R where
  /-- `org_current`。例外なら無い。 -/
  orgCurrent : Option String → Option Promoted := fun _ => none
  /-- `joblib.load`。 -/
  load : String → Option (Bundle Model) := fun _ => none
  /-- `RollingBaseline()` が例外にならない。 -/
  rolling : Bool := true
  /-- 代わりの `SessionScorer()` が例外にならない。 -/
  session : Bool := true

/-- org ごとの scorer と、読み込んだ model の版。 -/
structure Scorers (R Model Forest : Type) where
  /-- `_org_scorers`。 -/
  orgScorers : Dict String (Scorer R Model Forest) := Dict.empty
  /-- `_org_model_versions`。 -/
  orgVersions : Dict String (Option String) := Dict.empty

/-- `getattr(cached, "scorer", cached)` への代入。 -/
def Scorer.mapTarget (f : SessionScorer Model Forest → SessionScorer Model Forest) :
    Scorer R Model Forest → Scorer R Model Forest
  | rolling b => rolling { b with scorer := f b.scorer }
  | session s => session (f s)

/-- in-memory の baseline。`SessionScorer` には無い。 -/
def Scorer.baseline : Scorer R Model Forest → Option (List (List R))
  | rolling b => some b.buffer
  | session _ => none

/-- org の in-memory の baseline。 -/
def Scorers.baseline (s : Scorers R Model Forest) (key : String) : Option (List (List R)) :=
  (s.orgScorers.get? key).bind Scorer.baseline

/-- 昇格した model の読み込み。例外は飲み込まれ、それまでの代入は残る。 -/
def loadPromoted (env : ScorerEnv R Model) (cur : Option Promoted) (c : Scorer R Model Forest) :
    Scorer R Model Forest :=
  let artifact := (cur.map Promoted.artifact).getD ""
  if artifact ≠ "" ∧ ¬"unavailable".toList.isPrefixOf artifact.toList then
    match env.load artifact with
    | none => c
    | some bundle =>
      match bundle.model, bundle.featureNames with
      | some model, some names =>
        c.mapTarget fun s => { s with riskModel := model, featureNames := names, trained := true }
      | some model, none => c.mapTarget fun s => { s with riskModel := model }
      | none, _ => c
  else c

variable (lib : MlLibrary R Model Forest) (settings : BaselineSettings)

/-- 新しい scorer。 -/
def newScorer (env : ScorerEnv R Model) : Option (Scorer R Model Forest) :=
  if env.rolling then some (.rolling (RollingBaseline.new lib settings))
  else if env.session then some (.session (SessionScorer.new lib))
  else none

/-- `org_current` に渡す org。 -/
def registryOrg (key : String) : Option String := if key ≠ "global" then some key else none

/-- `_scorer_for`。`none` は例外である。 -/
def scorerFor (env : ScorerEnv R Model) (s : Scorers R Model Forest) (org : Option String) :
    Option (Scorer R Model Forest) × Scorers R Model Forest :=
  let key := Ml.orgKey org
  let cur := env.orgCurrent (registryOrg key)
  let version := cur.bind Promoted.version
  let known := (s.orgVersions.get? key).join
  let cached := s.orgScorers.get? key
  if cached.isSome ∧ known = version then (cached, s)
  else
    match cached.or (newScorer lib settings env) with
    | none => (none, s)
    | some c =>
      let c := if (truthy version).isSome ∧ known ≠ version then loadPromoted env cur c else c
      (some c, { orgScorers := s.orgScorers.set key c, orgVersions := s.orgVersions.set key version })

/-! ## 採点 -/

variable (attributes : List String)

/-- `hasattr(scorer, name)`。 -/
def Scorer.hasAttribute (name : String) : Scorer R Model Forest → Bool
  | rolling _ => attributes.contains name
  | session _ => SessionScorer.attributes.contains name

/-- `scorer.score(sa)`。scorer の状態も進む。 -/
def Scorer.score (env : ScoreEnv R) (a : Analysis) :
    Scorer R Model Forest → Option (ScoringResult R) × Scorer R Model Forest
  | rolling b =>
    let r := b.nestedScore lib settings env a
    (r.1, rolling r.2)
  | session s => (s.score lib env.currentVersion a, session s)

/-- `_process_one` の採点の部分。 -/
def scoreSession (env : ScorerEnv R Model) (s : Scorers R Model Forest) (org : Option String)
    (a : Analysis) : Option (ScoringResult R) × Scorers R Model Forest :=
  match scorerFor lib settings env s org with
  | (none, s) => (none, s)
  | (some c, s) =>
    if c.hasAttribute attributes "score" then
      let r := c.score lib settings env.toScoreEnv a
      (r.1, { s with orgScorers := s.orgScorers.set (Ml.orgKey org) r.2 })
    else (none, s)

/-- row の列のうち、採点の結果を持つもの。 -/
structure ScoreColumns (R : Type) where
  isAnomaly : Bool
  riskScore : Option Int
  modelVersion : Option String
  /-- `ShaPRow`。 -/
  shap : List (FeatureContribution R)

/-- `_persist` が書く列。 -/
def ScoreColumns.ofScoring (r : Option (ScoringResult R)) : ScoreColumns R where
  isAnomaly := (r.map (·.anomaly.isAnomaly)).getD false
  riskScore := r.map (·.risk.postureScore)
  modelVersion := r.map (·.risk.modelVersion)
  shap := (r.map (·.shapContributions)).getD []

/-- 採点の結果を渡した、残りの処理の環境。 -/
def WorkEnv.scored (env : WorkEnv) (r : Option (ScoringResult R)) : WorkEnv :=
  { env with
    risk := r.map (·.risk.postureScore)
    isAnomaly := (r.map (·.anomaly.isAnomaly)).getD false }

/-! ## 採点を添えた worker -/

/-- worker と、その process の scorer、DB の row の採点の列。 -/
structure LiveWorker (R Model Forest : Type) where
  worker : AnalysisWorker := {}
  scorers : Scorers R Model Forest := {}
  columns : Dict String (ScoreColumns R) := Dict.empty

/-- 事象。 -/
inductive LiveEvent (R Model : Type) where
  | entry (e : EntryId) (env : WorkEnv) (fault : Fault) (ml : ScorerEnv R Model)
  | restart

namespace LiveWorker

variable (eng : Engine) (cfg : WorkConfig) (content : EntryId → WorkEntry)

/-- 解析まで進む session の payload と解析の結果。 -/
def analyzed (e : EntryId) : Option (SessionPayload × Analysis) :=
  (content e).payload.bind fun p => (eng.analyze p).map (p, ·)

/-- 新しい row の列を書く。 -/
def writeColumns (w : LiveWorker R Model Forest) (worker : AnalysisWorker) (id : String)
    (r : Option (ScoringResult R)) : Dict String (ScoreColumns R) :=
  if w.worker.rows.get? id = none ∧ (worker.rows.get? id).isSome then
    w.columns.set id (.ofScoring r)
  else w.columns

/-- 事象一つ。process の停止で scorer は失われる。 -/
def step (w : LiveWorker R Model Forest) : LiveEvent R Model → LiveWorker R Model Forest
  | .entry e env fault ml =>
    match analyzed eng content e with
    | none => { w with worker := w.worker.step eng cfg content (.entry e env fault) }
    | some (p, a) =>
      let r := scoreSession lib settings attributes ml w.scorers p.orgId.get a
      let worker := w.worker.step eng cfg content (.entry e (env.scored r.1) fault)
      { worker
        scorers := r.2
        columns := w.writeColumns worker (deterministicSessionId eng env.uuid p) r.1 }
  | .restart => { w with worker := w.worker.step eng cfg content .restart, scorers := {} }

end LiveWorker

/-! ## scorer の選び方 -/

section

variable {lib settings attributes} {env : ScorerEnv R Model} {s s' : Scorers R Model Forest}
  {org : Option String} {c : Scorer R Model Forest}

@[simp] theorem baseline_mapTarget (f : SessionScorer Model Forest → SessionScorer Model Forest)
    (c : Scorer R Model Forest) : (c.mapTarget f).baseline = c.baseline := by
  cases c <;> rfl

/-- model の読み込みは baseline を変えない。 -/
@[simp] theorem baseline_loadPromoted (env : ScorerEnv R Model) (cur : Option Promoted)
    (c : Scorer R Model Forest) : (loadPromoted env cur c).baseline = c.baseline := by
  simp only [loadPromoted]
  split
  · split
    · rfl
    · split <;> simp
  · rfl

/-- 新しい `RollingBaseline` の baseline は空である。 -/
theorem baseline_newScorer {buffer : List (List R)} (h : newScorer lib settings env = some c)
    (hb : c.baseline = some buffer) : buffer = [] := by
  unfold newScorer at h
  split at h
  · cases h
    exact (Option.some.inj hb).symm
  · split at h
    · cases h
      cases hb
    · cases h

/-- 選ばれた scorer は cache に置かれ、baseline は元の scorer のもので、他の org の scorer は変わらない。 -/
theorem scorerFor_spec (h : scorerFor lib settings env s org = (some c, s')) :
    s'.orgScorers.get? (Ml.orgKey org) = some c ∧
      (∀ key, key ≠ Ml.orgKey org → s'.orgScorers.get? key = s.orgScorers.get? key) ∧
      ∃ c₀, (s.orgScorers.get? (Ml.orgKey org)).or (newScorer lib settings env) = some c₀ ∧
        c.baseline = c₀.baseline := by
  simp only [scorerFor] at h
  split at h
  · next hcached =>
    obtain ⟨hget, rfl⟩ := Prod.mk.inj h
    exact ⟨hget, fun _ _ => rfl, c, by rw [hget, Option.some_or], rfl⟩
  · split at h
    · cases h
    · next c₀ hc₀ =>
      obtain ⟨hc, rfl⟩ := Prod.mk.inj h
      refine ⟨?_, fun key hkey => Dict.get?_set_of_ne _ _ (Ne.symm hkey), c₀, hc₀, ?_⟩
      · rw [← hc]
        exact Dict.get?_set_self ..
      · rw [← Option.some.inj hc]
        split <;> simp

/-- 例外になれば、cache は変わらない。 -/
theorem scorerFor_none (h : scorerFor lib settings env s org = (none, s')) : s' = s := by
  simp only [scorerFor] at h
  split at h
  · next hcached =>
    rw [(Prod.mk.inj h).1] at hcached
    cases hcached.1
  · split at h <;> cases h
    rfl

/-- 選ばれた scorer の baseline は、その org の前からのものか、空である。 -/
theorem baseline_scorerFor {buffer : List (List R)}
    (h : scorerFor lib settings env s org = (some c, s')) (hb : c.baseline = some buffer) :
    buffer = (s.baseline (Ml.orgKey org)).getD [] := by
  obtain ⟨-, -, c₀, hc₀, hbase⟩ := scorerFor_spec h
  rw [hbase] at hb
  cases hget : s.orgScorers.get? (Ml.orgKey org) with
  | some c₁ =>
    rw [hget, Option.some_or] at hc₀
    cases hc₀
    simp [Scorers.baseline, hget, hb]
  | none =>
    rw [hget, Option.none_or] at hc₀
    simp [Scorers.baseline, hget, baseline_newScorer hc₀ hb]

/-- `RollingBaseline` には `score` が無いので、採点は行われない。 -/
theorem scoreSession_rolling {b : RollingBaseline R Model Forest} {a : Analysis}
    (h : scorerFor lib settings env s org = (some (.rolling b), s')) :
    scoreSession lib settings RollingBaseline.attributes env s org a = (none, s') := by
  simp only [scoreSession, h]
  rfl

/-- 採点されたなら、その scorer は `SessionScorer` で、baseline は無い。 -/
theorem baseline_of_scoreSession {a : Analysis} {r : ScoringResult R}
    (h : scoreSession lib settings RollingBaseline.attributes env s org a = (some r, s')) :
    s'.baseline (Ml.orgKey org) = none := by
  cases hc : scorerFor lib settings env s org with
  | mk c s₁ =>
    cases c with
    | none => simp [scoreSession, hc] at h
    | some c =>
      cases c with
      | rolling b =>
        rw [scoreSession_rolling hc] at h
        cases h
      | session sc =>
        simp only [scoreSession, hc, Scorer.score] at h
        split at h
        · obtain ⟨-, rfl⟩ := Prod.mk.inj h
          simp [Scorers.baseline, Scorer.baseline]
        · cases h

end

/-! ## session ごとの結果 -/

section

variable (eng : Engine) (cfg : WorkConfig) (content : EntryId → WorkEntry)

/-- session は採点され、新しい row に載り、baseline が一つ増え、他の org の scorer は変わらない。 -/
structure SessionScored (w : LiveWorker R Model Forest) (e : EntryId) (env : WorkEnv) (fault : Fault)
    (ml : ScorerEnv R Model) (p : SessionPayload) (a : Analysis) : Prop where
  persisted : ∃ r, (scoreSession lib settings attributes ml w.scorers p.orgId.get a).1 = some r ∧
    (w.worker.rows.get? (deterministicSessionId eng env.uuid p) = none →
      ((w.step lib settings attributes eng cfg content (.entry e env fault ml)).worker.rows.get?
        (deterministicSessionId eng env.uuid p)).isSome →
      ∃ c, (w.step lib settings attributes eng cfg content (.entry e env fault ml)).columns.get?
          (deterministicSessionId eng env.uuid p) = some c ∧
        c.riskScore = some r.risk.postureScore ∧ c.isAnomaly = r.anomaly.isAnomaly)
  baseline : ∃ v after, RollingBaseline.vector lib a = some v ∧
    (w.step lib settings attributes eng cfg content (.entry e env fault ml)).scorers.baseline
      (Ml.orgKey p.orgId.get) = some after ∧
    GainsOne ((w.scorers.baseline (Ml.orgKey p.orgId.get)).getD []) after v
  others : ∀ key, key ≠ Ml.orgKey p.orgId.get →
    (w.step lib settings attributes eng cfg content
      (.entry e env fault ml)).scorers.orgScorers.get? key = w.scorers.orgScorers.get? key

variable {lib settings attributes eng cfg content} {w : LiveWorker R Model Forest} {e : EntryId}
  {env : WorkEnv} {fault : Fault} {ml : ScorerEnv R Model} {p : SessionPayload} {a : Analysis}

/-- 新しい row には、採点の列が書かれる。 -/
theorem writeColumns_of_new {worker : AnalysisWorker} {id : String} (hnew : w.worker.rows.get? id = none)
    (hrow : (worker.rows.get? id).isSome) (r : Option (ScoringResult R)) :
    (w.writeColumns worker id r).get? id = some (.ofScoring r) := by
  rw [LiveWorker.writeColumns, if_pos ⟨hnew, hrow⟩, Dict.get?_set_self]

/-- 解析まで進んだ session の一歩。 -/
theorem step_analyzed (h : LiveWorker.analyzed eng content e = some (p, a)) :
    w.step lib settings attributes eng cfg content (.entry e env fault ml) =
      { worker := w.worker.step eng cfg content (.entry e
          (env.scored (scoreSession lib settings attributes ml w.scorers p.orgId.get a).1) fault)
        scorers := (scoreSession lib settings attributes ml w.scorers p.orgId.get a).2
        columns := w.writeColumns (w.worker.step eng cfg content (.entry e
          (env.scored (scoreSession lib settings attributes ml w.scorers p.orgId.get a).1) fault))
          (deterministicSessionId eng env.uuid p)
          (scoreSession lib settings attributes ml w.scorers p.orgId.get a).1 } := by
  simp only [LiveWorker.step, h]

/-- 採点できた session では、どの属性の下でも、他の org の scorer は変わらない。 -/
theorem others_scoreSession (s : Scorers R Model Forest) (org : Option String) {key : String}
    (hkey : key ≠ Ml.orgKey org) :
    (scoreSession lib settings attributes ml s org a).2.orgScorers.get? key =
      s.orgScorers.get? key := by
  cases hc : scorerFor lib settings ml s org with
  | mk c s₁ =>
    cases c with
    | none =>
      simp only [scoreSession, hc, scorerFor_none hc]
    | some c =>
      have hothers := (scorerFor_spec hc).2.1 key hkey
      simp only [scoreSession, hc]
      split
      · simp [Dict.get?_set_of_ne _ _ (Ne.symm hkey), hothers]
      · exact hothers

/--
worker がどの状態にあっても、処理されるどの session についても、採点され、row に載り、baseline が一つ増える
ということは無い。
-/
theorem not_sessionScored (h : LiveWorker.analyzed eng content e = some (p, a)) :
    ¬SessionScored lib settings RollingBaseline.attributes eng cfg content w e env fault ml p a := by
  rintro ⟨⟨r, hr, -⟩, ⟨v, after, -, hafter, -⟩, -⟩
  rw [step_analyzed h] at hafter
  rw [baseline_of_scoreSession (Prod.ext hr rfl)] at hafter
  cases hafter

/-- **`score` が `RollingBaseline` の属性であれば、採点できた session は row に載り、baseline が一つ増える。** -/
theorem sessionScored_of_attribute {s : Scorers R Model Forest} {b : RollingBaseline R Model Forest}
    {r : ScoringResult R} (hattr : attributes.contains "score" = true)
    (h : LiveWorker.analyzed eng content e = some (p, a))
    (hc : scorerFor lib settings ml w.scorers p.orgId.get = (some (.rolling b), s))
    (hr : (b.nestedScore lib settings ml.toScoreEnv a).1 = some r) :
    SessionScored lib settings attributes eng cfg content w e env fault ml p a := by
  have hscore : scoreSession lib settings attributes ml w.scorers p.orgId.get a =
      (some r, { s with
        orgScorers := s.orgScorers.set (Ml.orgKey p.orgId.get)
          (.rolling (b.nestedScore lib settings ml.toScoreEnv a).2) }) := by
    simp only [scoreSession, hc, Scorer.hasAttribute, hattr, if_true, Scorer.score, hr]
  obtain ⟨v, hv⟩ := RollingBaseline.vector_of_nestedScore hr
  refine ⟨⟨r, by rw [hscore], fun hnew hrow => ?_⟩,
    ⟨v, (b.nestedScore lib settings ml.toScoreEnv a).2.buffer, hv, ?_, ?_⟩, fun key hkey => ?_⟩
  · rw [step_analyzed h] at hrow ⊢
    rw [hscore] at hrow ⊢
    exact ⟨.ofScoring (some r), writeColumns_of_new hnew hrow _, rfl, rfl⟩
  · rw [step_analyzed h, hscore]
    simp [Scorers.baseline, Scorer.baseline]
  · have hbuffer : (Scorer.rolling b).baseline = some b.buffer := rfl
    rw [← baseline_scorerFor hc hbuffer]
    exact RollingBaseline.nestedScore_gains hv
  · rw [step_analyzed h]
    exact others_scoreSession _ _ hkey

/-! ## run -/

/-- cache の scorer はどれも `RollingBaseline` である。 -/
def AllRolling (s : Scorers R Model Forest) : Prop :=
  ∀ key c, s.orgScorers.get? key = some c → ∃ b, c = .rolling b

/-- `RollingBaseline()` が例外にならなければ、採点は行われず、cache は `RollingBaseline` だけのままである。 -/
theorem scoreSession_allRolling (lib : MlLibrary R Model Forest) (settings : BaselineSettings)
    {s : Scorers R Model Forest} (hs : AllRolling s) (hrolling : ml.rolling = true)
    (org : Option String) (a : Analysis) :
    (scoreSession lib settings RollingBaseline.attributes ml s org a).1 = none ∧
      AllRolling (scoreSession lib settings RollingBaseline.attributes ml s org a).2 := by
  cases hc : scorerFor lib settings ml s org with
  | mk c s₁ =>
    cases c with
    | none =>
      rw [scoreSession, hc, scorerFor_none hc]
      exact ⟨rfl, hs⟩
    | some c =>
      obtain ⟨hget, hothers, c₀, hc₀, hbase⟩ := scorerFor_spec hc
      have hb₀ : ∃ b, c₀ = .rolling b := by
        cases hget₀ : s.orgScorers.get? (Ml.orgKey org) with
        | some c₁ =>
          rw [hget₀, Option.some_or] at hc₀
          cases hc₀
          exact hs _ _ hget₀
        | none =>
          rw [hget₀, Option.none_or, newScorer, if_pos hrolling] at hc₀
          exact ⟨_, (Option.some.inj hc₀).symm⟩
      obtain ⟨b, rfl⟩ : ∃ b, c = .rolling b := by
        obtain ⟨b₀, rfl⟩ := hb₀
        cases c with
        | rolling b => exact ⟨b, rfl⟩
        | session => cases hbase
      rw [scoreSession_rolling hc]
      refine ⟨rfl, fun key c' hget' => ?_⟩
      by_cases hkey : key = Ml.orgKey org
      · subst hkey
        cases hget.symm.trans hget'
        exact ⟨b, rfl⟩
      · exact hs key c' ((hothers key hkey) ▸ hget')

/-- 採点された row は無い。 -/
structure Unscored (w : LiveWorker R Model Forest) : Prop where
  rolling : AllRolling w.scorers
  columns : ∀ id c, w.columns.get? id = some c → c = .ofScoring none

theorem unscored_empty : Unscored ({} : LiveWorker R Model Forest) := by
  refine ⟨fun key c hget => ?_, fun id c hget => ?_⟩
  · cases hget
  · cases hget

theorem Unscored.step (h : Unscored w) (lib : MlLibrary R Model Forest) (settings : BaselineSettings)
    (eng : Engine) (cfg : WorkConfig) (content : EntryId → WorkEntry) (ev : LiveEvent R Model)
    (hrolling : ∀ e env fault ml, ev = .entry e env fault ml → ml.rolling = true) :
    Unscored (w.step lib settings RollingBaseline.attributes eng cfg content ev) := by
  cases ev with
  | restart => exact ⟨unscored_empty.rolling, h.columns⟩
  | entry e env fault ml =>
    cases ha : LiveWorker.analyzed eng content e with
    | none =>
      simp only [LiveWorker.step, ha]
      exact ⟨h.rolling, h.columns⟩
    | some pa =>
      obtain ⟨p, a⟩ := pa
      obtain ⟨hnone, hall⟩ := scoreSession_allRolling lib settings h.rolling
        (hrolling e env fault ml rfl) p.orgId.get a
      rw [step_analyzed ha]
      refine ⟨hall, fun id c hget => ?_⟩
      simp only [hnone, LiveWorker.writeColumns] at hget
      split at hget
      · rw [Dict.get?_set] at hget
        split at hget
        · exact (Option.some.inj hget).symm
        · exact h.columns id c hget
      · exact h.columns id c hget

/-- **`RollingBaseline()` が例外にならないどの run でも、採点された row は無い。** -/
theorem unscored_exec (lib : MlLibrary R Model Forest) (settings : BaselineSettings) (eng : Engine)
    (cfg : WorkConfig) (content : EntryId → WorkEntry) (es : List (LiveEvent R Model))
    (hrolling : ∀ e env fault ml, .entry e env fault ml ∈ es → ml.rolling = true) :
    ∀ id c, (Run.exec (LiveWorker.step lib settings RollingBaseline.attributes eng cfg content) {}
      es).columns.get? id = some c → c.riskScore = none ∧ c.isAnomaly = false := by
  have hevents : ∀ ev ∈ es, ∀ e env fault ml, ev = .entry e env fault ml → ml.rolling = true :=
    fun ev hev e env fault ml heq => hrolling e env fault ml (heq ▸ hev)
  have hrun := Run.Along.invariant (I := Unscored)
    (fun _ ev h hc => h.step lib settings eng cfg content ev hc)
    (Run.along_of_mem hevents) unscored_empty
  intro id c hget
  rw [hrun.columns id c hget]
  exact ⟨rfl, rfl⟩

/-! ## 一つめと二つめの session -/

/-- いつも健全と答える library。 -/
def healthyLibrary : MlLibrary Rat Unit Unit where
  features _ := some fun _ => 0
  newModel := ()
  predict _ _ := some (0, "healthy")
  percent _ := 0
  shap _ _ _ := []
  fit _ _ := ((), true)
  isolate _ _ := some (false, 0)
  minusOne := -1

def sampleAnalysis : Analysis := ⟨"10.0.0.1:40000->10.0.0.2:25", "SMTP", []⟩

/-- 読める session を、どれも同じに解析する。 -/
def sampleEngine : Engine where
  analyze p := if p.decodable then some sampleAnalysis else none
  sha256 s := s

/-- model は昇格しておらず、`baseline_features` は空である。 -/
def quietEnv : ScorerEnv Rat Unit := { now := 1000, currentVersion := none, window := some [] }

/-- worker の始めの session は採点されない。 -/
theorem not_sessionScored_first :
    LiveWorker.analyzed sampleEngine (fun _ => .object smtpSession) 1 =
        some (smtpSession, sampleAnalysis) ∧
      ¬SessionScored healthyLibrary {} RollingBaseline.attributes sampleEngine {}
        (fun _ => .object smtpSession) {} 1 { now := 1000 } {} quietEnv smtpSession sampleAnalysis := by
  refine ⟨rfl, ?_⟩
  rintro ⟨⟨r, hr, -⟩, -, -⟩
  have hnone : (scoreSession healthyLibrary {} RollingBaseline.attributes quietEnv {} none
      sampleAnalysis).1 = none := rfl
  cases hnone.symm.trans hr

/-- 一つめを処理した worker も、二つめの session を採点しない。 -/
theorem not_sessionScored_second :
    ¬SessionScored healthyLibrary {} RollingBaseline.attributes sampleEngine {}
      (fun _ => .object smtpSession)
      (LiveWorker.step healthyLibrary {} RollingBaseline.attributes sampleEngine {}
        (fun _ => .object smtpSession) {} (.entry 1 { now := 1000 } {} quietEnv))
      2 { now := 1001 } {} quietEnv smtpSession sampleAnalysis :=
  not_sessionScored rfl

end

end CipherPost.Live
