import Mathlib.Algebra.GroupWithZero.Nat
import Mathlib.Data.String.Basic
import CipherPost.Infra.Run
import CipherPost.Core.Mfa
import CipherPost.Ml.Registry
import CipherPost.Ml.Splits

/-!
# 再学習・昇格・rollback

`app/ml/retraining.py` と、`app/api/main.py` の三つの endpoint。学習そのもの
（numpy・scikit-learn・joblib）と DB の問い合わせは `Training` に受け取る。

* `checkThreshold`・`groupedEntries` — `check_threshold`・`grouped_entries`
* `trainCandidate` — `train_candidate`
* `promotionGate` — `promotion_gate`
* `mlPromote`・`mlRollback` — `/ml/promote`・`/ml/rollback`
* `current_promoted_iff` — 使われる model が昇格した版であるための条件
-/

namespace CipherPost.Ml

open Parsing

variable {R : Type}

/-! ## dataset -/

/-- `build_analyst_dataset` の返す要素。 -/
structure Row where
  sessionId : String
  y : Nat
  source : String := "analyst"
  fiveTuple : String
  createdAt : Option Nat
  deriving Repr, DecidableEq

/-- 設定。 -/
structure Config (R : Type) where
  /-- `promote_margin()`。 -/
  margin : R
  /-- `MIN_ANALYST_LABELS_PER_CLASS`。 -/
  minAnalystLabels : Nat
  /-- `sorted(opt_in_orgs())`。 -/
  optInOrgs : List String
  /-- 数値の `str`。 -/
  fmt : R → String

/-- `min_per_class`。 -/
def Config.minPerClass (cfg : Config R) : Nat := max 1 cfg.minAnalystLabels

/-- `check_threshold`。`none` は合格。 -/
def checkThreshold (need : Nat) (entries : List Row) : Option String :=
  let pos := entries.countP fun e => decide (e.y = 1)
  let neg := entries.countP fun e => decide (e.y = 0)
  if pos < need ∨ neg < need then
    some s!"below threshold: need >={need}/class, have pos={pos} neg={neg} (ranking-only mode)"
  else none

/-! ## 分割 -/

/-- `"%s:%s" % split_five_tuple(five_tuple)[2:]`。 -/
def serverKey (e : Row) : String :=
  let ft := splitFiveTuple e.fiveTuple.toList
  String.ofList ft.server ++ ":" ++ toString ft.serverPort

/-- `grouped_entries`。`created_at` は `datetime` なので、整数の 0 とは比べられない。例外は `none` である。 -/
def groupedEntries (entries : List Row) :
    Option (List Row × List Row × Splits.LeakageReport String) :=
  (Splits.groupedTimeSplit serverKey Row.createdAt none entries).map fun sides =>
    (sides.1, sides.2, Splits.leakageReport serverKey sides.1 sides.2)

/-- 例外にならない分割では、同じ server は両側に現れず、test の server は train の server より古くない。 -/
theorem groupedEntries_sound {entries train test : List Row} {report : Splits.LeakageReport String}
    (h : groupedEntries entries = some (train, test, report)) :
    Splits.SoundSplit serverKey Row.createdAt entries train test ∧ report.clean = true := by
  obtain ⟨⟨train', test'⟩, hsplit, heq⟩ := Option.map_eq_some_iff.mp h
  cases heq
  have hsound := Splits.soundSplit_of_some hsplit
  exact ⟨hsound, (Splits.leakageReport_clean_iff _ _ _).mpr hsound.apart⟩

/-! ## 学習 -/

/-- 学習の対象。 -/
inductive Scope where
  | org | global
  deriving Repr, DecidableEq

/-- 一度の学習が外から受け取るもの。 -/
structure Training (R : Type) where
  /-- `build_analyst_dataset`。 -/
  dataset : Option String → List Row
  /-- `int(time.time())`。 -/
  now : Nat
  /-- `dataset_hash`。 -/
  datasetHash : List Row → String
  /-- `_fit_predict` と `_metrics_dict`。`none` は例外。 -/
  fit : List Row → List Row → Option (Metrics R)

/-- `train_candidate` の結果。 -/
inductive TrainResult where
  | rejected (reason : String)
  | candidate (version : String)
  | raised
  deriving Repr, DecidableEq

/-- `not org_id or org_id not in allowed`。 -/
def Config.optedIn (cfg : Config R) (orgId : Option String) : Bool :=
  match orgId with
  | none => false
  | some s => decide (s ≠ "") && decide (s ∈ cfg.optInOrgs)

/-- `train_candidate` の dataset。`none` は opt-in の無い global の学習。 -/
def trainingEntries (cfg : Config R) (tr : Training R) (orgId : Option String) :
    Scope → Option (List Row)
  | .org => some (tr.dataset orgId)
  | .global =>
    if cfg.optedIn orgId then some (cfg.optInOrgs.map fun oid => tr.dataset (some oid)).flatten
    else none

/-- registry に渡す record。`version` と `org_id` は `record_candidate` が決める。 -/
def trainedEntry (status : Status) (size : Nat) (metrics : Option (Metrics R))
    (reason : Option String) : Entry R where
  version := ""
  orgId := ""
  status := status
  metrics := metrics
  datasetSize := size
  reason := reason
  promotedReason := none

/-- `train_candidate`。 -/
def trainCandidate (cfg : Config R) (doc : Doc R) (orgId : Option String) (scope : Scope)
    (tr : Training R) : TrainResult × Doc R :=
  match trainingEntries cfg tr orgId scope with
  | none => (.rejected "global training requires explicit org opt-in", doc)
  | some entries =>
    match checkThreshold cfg.minPerClass entries with
    | some reason =>
      let entry := trainedEntry .rejected entries.length none (some reason)
      (.rejected reason,
        doc.recordCandidate (some (orgKey orgId)) ("rejected-" ++ toString tr.now) entry)
    | none =>
      match groupedEntries entries with
      | none => (.raised, doc)
      | some (train, test, _) =>
        if train.isEmpty || test.isEmpty then (.rejected "split produced an empty side", doc)
        else
          match tr.fit train test with
          | none => (.raised, doc)
          | some metrics =>
            let version := "analyst-" ++ toString entries.length ++ "-" ++ tr.datasetHash entries
            let entry := trainedEntry .candidate entries.length (some metrics) none
            (.candidate version, doc.recordCandidate (some (orgKey orgId)) version entry)

/-! ## 昇格の gate -/

section Gate

variable [Zero R] [Add R] [LT R] [DecidableLT R]

/-- `(candidate.get("metrics") or {}).get("f1") or 0.0`。 -/
def f1Of (m : Option (Metrics R)) : R := (m.bind (·.f1)).getD 0

/-- `promotion_gate`。 -/
def promotionGate (cfg : Config R) (candidate : Entry R) (currentMetrics : Option (Metrics R)) :
    Bool × String :=
  let candF1 := f1Of candidate.metrics
  match currentMetrics with
  | none => (true, "no current model: candidate accepted as first")
  | some cur =>
    let curF1 := f1Of (some cur)
    if candF1 < curF1 + cfg.margin then
      (false, "rejected: candidate f1=" ++ cfg.fmt candF1 ++ " does not beat current f1=" ++
        cfg.fmt curF1 ++ " by margin " ++ cfg.fmt cfg.margin)
    else
      let promoted := "promoted: f1 " ++ cfg.fmt curF1 ++ " -> " ++ cfg.fmt candF1
      match candidate.metrics.bind (·.fpRate), cur.fpRate with
      | some candFp, some curFp =>
        if curFp < candFp then
          (false, "rejected: false-positive rate regressed " ++ cfg.fmt curFp ++ " -> " ++
            cfg.fmt candFp)
        else (true, promoted)
      | _, _ => (true, promoted)

/-- `current_metrics_for`。 -/
def currentMetricsFor (doc : Doc R) (orgId : Option String) : Option (Metrics R) :=
  (doc.orgCurrent (some (orgKey orgId))).bind (·.metrics)

/-! ## endpoint -/

/-- `/ml/promote` の応答。 -/
inductive PromoteResponse (R : Type) where
  | badRequest (detail : String)
  | notFound (detail : String)
  | rejected (reason : String)
  | promoted (entry : Option (Entry R))
  deriving Repr, DecidableEq

/-- `{e.get("version"): e for e in hist}.get(version)`。同じ版では後の record が残る。 -/
def lookupVersion (hist : List (Entry R)) (version : String) : Option (Entry R) :=
  hist.reverse.find? fun e => decide (e.version = version)

/-- `ml_promote`。 -/
def mlPromote (cfg : Config R) (doc : Doc R) (orgId : Option String) (bodyVersion : Option String) :
    PromoteResponse R × Doc R :=
  let version := Core.strip (bodyVersion.getD "")
  if version = "" then (.badRequest "version is required", doc)
  else
    match lookupVersion (doc.orgHistory orgId 20) version with
    | none => (.notFound "Candidate not found", doc)
    | some cand =>
      if cand.status ≠ .candidate then (.notFound "Candidate not found", doc)
      else
        match promotionGate cfg cand (currentMetricsFor doc orgId) with
        | (false, reason) => (.rejected reason, doc)
        | (true, reason) =>
          let (e, doc') := doc.promoteCandidate orgId version reason
          (.promoted e, doc')

/-- `ml_rollback`。`none` は 404 `"No prior version to restore"`。 -/
def mlRollback (doc : Doc R) (orgId : Option String) : Option (Entry R) × Doc R :=
  doc.rollbackOrg orgId

/-! ## 呼び出しの列 -/

/-- 三つの操作の呼び出し。 -/
inductive Call (R : Type) where
  | train (orgId : Option String) (scope : Scope) (tr : Training R)
  | promote (orgId : Option String) (bodyVersion : Option String)
  | rollback (orgId : Option String)

/-- registry と、gate が受け入れて `promote_candidate` が active にした (organisation, 版)。 -/
structure World (R : Type) where
  doc : Doc R := {}
  promoted : List (String × String) := []

/-- 昇格の応答が表す (organisation, 版)。 -/
def PromoteResponse.accepted (orgId : Option String) : PromoteResponse R → List (String × String)
  | .promoted (some e) => [(orgKey orgId, e.version)]
  | _ => []

/-- 呼び出し一つ。 -/
def step (cfg : Config R) (w : World R) : Call R → World R
  | .train orgId scope tr => { w with doc := (trainCandidate cfg w.doc orgId scope tr).2 }
  | .promote orgId body =>
    let (resp, doc) := mlPromote cfg w.doc orgId body
    { doc := doc, promoted := w.promoted ++ resp.accepted orgId }
  | .rollback orgId => { w with doc := (mlRollback w.doc orgId).2 }

/-- 版が以前に昇格したこと。 -/
def World.WasPromoted (w : World R) (key version : String) : Prop := (key, version) ∈ w.promoted

/--
rollback の条件。現在の版と異なる版の一番新しい record が candidate のまま（学習しただけ、または却下された
学習の記録）なら、その版は以前に昇格している。
-/
def RollbackKnown (key : String) (w : World R) : Call R → Prop
  | .rollback orgId => orgKey orgId = key → ∀ e, (w.doc.slot key).newestOther = some e →
      e.status = .candidate → w.WasPromoted key e.version
  | _ => True

/-! ## slot への作用 -/

omit [Zero R] [Add R] [LT R] [DecidableLT R] in
/-- 学習は registry を変えないか、candidate の record を一つ加える。 -/
theorem trainCandidate_cases (cfg : Config R) (doc : Doc R) (orgId : Option String) (scope : Scope)
    (tr : Training R) :
    (trainCandidate cfg doc orgId scope tr).2 = doc ∨
      ∃ version entry, (trainCandidate cfg doc orgId scope tr).2
        = doc.recordCandidate (some (orgKey orgId)) version entry := by
  unfold trainCandidate
  cases trainingEntries cfg tr orgId scope with
  | none => exact .inl rfl
  | some entries =>
    simp only
    cases checkThreshold cfg.minPerClass entries with
    | some reason => exact .inr ⟨_, _, rfl⟩
    | none =>
      simp only
      cases groupedEntries entries with
      | none => exact .inl rfl
      | some sides =>
        simp only
        split
        · exact .inl rfl
        · cases tr.fit sides.1 sides.2.1 with
          | none => exact .inl rfl
          | some metrics => exact .inr ⟨_, _, rfl⟩

/-- 昇格の endpoint は registry を変えないか、gate の受け入れた版を `promote_candidate` に渡す。 -/
theorem mlPromote_cases (cfg : Config R) (doc : Doc R) (orgId body : Option String) :
    ((mlPromote cfg doc orgId body).2 = doc ∧ (mlPromote cfg doc orgId body).1.accepted orgId = []) ∨
      ∃ version reason cand, lookupVersion (doc.orgHistory orgId 20) version = some cand ∧
        promotionGate cfg cand (currentMetricsFor doc orgId) = (true, reason) ∧
        mlPromote cfg doc orgId body =
          (.promoted (doc.promoteCandidate orgId version reason).1,
            (doc.promoteCandidate orgId version reason).2) := by
  unfold mlPromote
  simp only
  split
  · exact .inl ⟨rfl, rfl⟩
  · cases hl : lookupVersion (doc.orgHistory orgId 20) (Core.strip (body.getD "")) with
    | none => exact .inl ⟨rfl, rfl⟩
    | some cand =>
      simp only
      split
      · exact .inl ⟨rfl, rfl⟩
      · cases hg : promotionGate cfg cand (currentMetricsFor doc orgId) with
        | mk ok reason =>
          cases ok with
          | false => exact .inl ⟨rfl, rfl⟩
          | true => exact .inr ⟨_, reason, cand, hl, hg, rfl⟩

/-! ## 不変量 -/

/-- 使われる model の版は昇格している。 -/
def CurrentPromoted (key : String) (w : World R) : Prop :=
  ∀ e, (w.doc.slot key).current = some e → w.WasPromoted key e.version

/-- active の record と使われる model の版は、どちらも昇格している。 -/
structure Inv (key : String) (w : World R) : Prop where
  sound : (w.doc.slot key).Sound (w.WasPromoted key)
  current : CurrentPromoted key w

omit [Zero R] [Add R] [LT R] [DecidableLT R] in
theorem Inv.init (key : String) : Inv key ({} : World R) :=
  ⟨.empty _, fun e h => by cases h⟩

omit [Zero R] [Add R] [LT R] [DecidableLT R] in
/-- slot を変えず、昇格の記録を消さない一歩は不変量を保つ。 -/
theorem Inv.of_slot_eq {key : String} {w w' : World R} (h : Inv key w)
    (hs : w'.doc.slot key = w.doc.slot key) (hp : ∀ v, w.WasPromoted key v → w'.WasPromoted key v) :
    Inv key w' := by
  refine ⟨?_, ?_⟩
  · rw [hs]
    exact h.sound.mono hp
  · intro e he
    rw [hs] at he
    exact hp _ (h.current e he)

omit [Zero R] [Add R] [LT R] [DecidableLT R] in
theorem Inv.recordCandidate {key : String} {w : World R} (h : Inv key w) (orgId : Option String)
    (version : String) (entry : Entry R) :
    Inv key { w with doc := w.doc.recordCandidate orgId version entry } := by
  by_cases hk : orgKey orgId = key
  · subst hk
    refine ⟨?_, ?_⟩
    · show ((w.doc.recordCandidate orgId version entry).slot _).Sound _
      unfold Doc.recordCandidate
      rw [Doc.slot_setSlot_self]
      exact h.sound.append rfl 20
    · intro e he
      unfold Doc.recordCandidate at he
      rw [Doc.slot_setSlot_self] at he
      exact h.current e he
  · refine h.of_slot_eq ?_ fun _ hv => hv
    exact Doc.slot_setSlot_of_ne _ _ hk

omit [Zero R] [Add R] [LT R] [DecidableLT R] in
/-- slot の書き戻しで得られる状態の不変量。 -/
theorem Inv.setSlot {w : World R} {key : String} {s : Slot R} {e : Entry R}
    {promoted : List (String × String)} (hs : s.Sound fun v => (key, v) ∈ promoted)
    (hc : s.current = some e) (hv : (key, e.version) ∈ promoted) :
    Inv key { doc := w.doc.setSlot key s, promoted := promoted } := by
  refine ⟨?_, ?_⟩
  · show ((w.doc.setSlot key s).slot key).Sound _
    rw [Doc.slot_setSlot_self]
    exact hs
  · intro x hx
    rw [Doc.slot_setSlot_self, hc, Option.some.injEq] at hx
    rw [← hx]
    exact hv

/-- 昇格は、gate の受け入れた版を記録に残すので不変量を保つ。 -/
theorem Inv.promote {cfg : Config R} {key : String} {w : World R} (h : Inv key w)
    (orgId body : Option String) : Inv key (step cfg w (.promote orgId body)) := by
  unfold step
  simp only
  rcases mlPromote_cases cfg w.doc orgId body with ⟨hd, ha⟩ | ⟨version, reason, _, _, _, heq⟩
  · rw [hd, ha, List.append_nil]
    exact h
  · rw [heq]
    unfold Doc.promoteCandidate
    cases hp : (w.doc.slot (orgKey orgId)).promote version reason with
    | none => exact h.of_slot_eq rfl fun v hv => List.mem_append_left _ hv
    | some r =>
      obtain ⟨e, s⟩ := r
      obtain ⟨hver, hcur⟩ := Slot.version_of_promote hp
      by_cases hk : orgKey orgId = key
      · subst hk
        have hnew : (orgKey orgId, e.version) ∈
            w.promoted ++ (PromoteResponse.promoted (some e)).accepted orgId :=
          List.mem_append_right _ (List.mem_singleton.mpr rfl)
        refine Inv.setSlot ?_ hcur hnew
        refine (h.sound.mono fun v hv => List.mem_append_left _ hv).promote ?_ hp
        rw [← hver]
        exact hnew
      · exact h.of_slot_eq (Doc.slot_setSlot_of_ne _ _ hk) fun v hv => List.mem_append_left _ hv

omit [Zero R] [Add R] [LT R] [DecidableLT R] in
/-- rollback の条件は、選ばれる record の版が昇格していることである。 -/
theorem promoted_of_rollbackKnown {key : String} {w : World R} {orgId : Option String} (h : Inv key w)
    (hk : orgKey orgId = key) (hc : RollbackKnown key w (.rollback orgId)) :
    ∀ e, (w.doc.slot key).newestOther = some e → w.WasPromoted key e.version := by
  intro e he
  have hm : e ∈ (w.doc.slot key).history := List.mem_reverse.mp (List.mem_of_find?_eq_some he)
  rcases h.sound.stored e hm with hs | hs
  · exact hc hk e he hs
  · exact h.sound.active e hm hs

omit [Zero R] [Add R] [LT R] [DecidableLT R] in
/-- 一つの rollback は、選ばれる record の版が昇格していれば不変量を保つ。 -/
theorem Inv.rollback {key : String} {w : World R} {orgId : Option String} (h : Inv key w)
    (hc : RollbackKnown key w (.rollback orgId)) :
    Inv key { w with doc := (mlRollback w.doc orgId).2 } := by
  unfold mlRollback Doc.rollbackOrg
  cases hr : (w.doc.slot (orgKey orgId)).rollback with
  | none => exact h
  | some r =>
    obtain ⟨e, s⟩ := r
    by_cases hk : orgKey orgId = key
    · have hknown := promoted_of_rollbackKnown h hk hc
      subst hk
      obtain ⟨hcur, x, hx, hver⟩ := Slot.version_of_rollback h.sound hr
      refine Inv.setSlot (h.sound.rollback hknown hr) hcur ?_
      rw [hver]
      exact hknown x hx
    · exact h.of_slot_eq (Doc.slot_setSlot_of_ne _ _ hk) fun _ hv => hv

/-- **一歩の補題。** 条件を満たす呼び出しは不変量を保つ。 -/
theorem inv_step {cfg : Config R} {key : String} {w : World R} {c : Call R} (h : Inv key w)
    (hc : RollbackKnown key w c) : Inv key (step cfg w c) := by
  cases c with
  | train orgId scope tr =>
    unfold step
    simp only
    rcases trainCandidate_cases cfg w.doc orgId scope tr with heq | ⟨version, entry, heq⟩
    · rw [heq]
      exact h
    · rw [heq]
      exact h.recordCandidate _ version entry
  | promote orgId body => exact h.promote orgId body
  | rollback orgId => exact h.rollback hc

/-- 条件を破る rollback は、昇格していない版を使われる model にする。 -/
theorem rollbackKnown_of_currentPromoted {cfg : Config R} {key : String} {w : World R} {c : Call R}
    (h : Inv key w) (hp : CurrentPromoted key (step cfg w c)) : RollbackKnown key w c := by
  cases c with
  | train orgId scope tr => trivial
  | promote orgId body => trivial
  | rollback orgId =>
    intro hk e he _
    subst hk
    have hr : (w.doc.slot (orgKey orgId)).rollback = _ := Slot.rollback_eq h.sound
    rw [he, Option.map_some] at hr
    refine hp (Slot.activate "rollback" e) ?_
    unfold step mlRollback Doc.rollbackOrg
    simp only [hr]
    rw [Doc.slot_setSlot_self]

/-! ## どの呼び出しの列でも -/

/--
**使われる model。** どの時点でも `org_current` の版が以前に gate を通って昇格しており、rollback が昇格していない
版を戻さないのは、どの rollback でも、現在の版と異なる版の一番新しい record が、昇格していない版の candidate
（却下された学習の記録を含む）でないときである。
-/
theorem current_promoted_iff (cfg : Config R) (orgId : Option String) (calls : List (Call R)) :
    ((∀ pre, pre <+: calls → ∀ e, (Run.exec (step cfg) {} pre).doc.orgCurrent orgId = some e →
        (Run.exec (step cfg) {} pre).WasPromoted (orgKey orgId) e.version) ∧
      ∀ pre o, pre ++ [.rollback o] <+: calls → orgKey o = orgKey orgId →
        ∀ e, (mlRollback (Run.exec (step cfg) {} pre).doc o).1 = some e →
          (Run.exec (step cfg) {} pre).WasPromoted (orgKey orgId) e.version) ↔
      Run.Along (step cfg) (RollbackKnown (orgKey orgId)) {} calls := by
  have hiff : (∀ pre, pre <+: calls →
      CurrentPromoted (orgKey orgId) (Run.exec (step cfg) {} pre)) ↔
      Run.Along (step cfg) (RollbackKnown (orgKey orgId)) {} calls :=
    Run.property_iff (I := Inv (orgKey orgId)) (fun _ h => h.current)
      (fun _ _ h hc => inv_step h hc) (fun _ _ h hp => rollbackKnown_of_currentPromoted h hp)
      (Inv.init (orgKey orgId))
  constructor
  · intro h
    exact hiff.mp h.1
  · intro hc
    refine ⟨hiff.mpr hc, ?_⟩
    intro pre o hp hk e he
    have halong := Run.along_append.mp (hc.isPrefix hp)
    have hinv : Inv (orgKey orgId) (Run.exec (step cfg) {} pre) :=
      Run.Along.invariant (fun _ _ h hc => inv_step h hc) halong.1 (Inv.init _)
    have hknown := promoted_of_rollbackKnown hinv hk halong.2.1
    unfold mlRollback Doc.rollbackOrg at he
    cases hr : ((Run.exec (step cfg) {} pre).doc.slot (orgKey o)).rollback with
    | none =>
      rw [hr] at he
      cases he
    | some r =>
      obtain ⟨x, s⟩ := r
      rw [hr] at he
      have hxe : x = e := Option.some.inj he
      rw [hk] at hr
      obtain ⟨_, y, hy, hver⟩ := Slot.version_of_rollback hinv.sound hr
      rw [← hxe, hver]
      exact hknown y hy

end Gate

/-- `decide` で辿れる数値の設定。 -/
def sampleConfig : Config Nat where
  margin := 200
  minAnalystLabels := 1
  optInOrgs := []
  fmt := toString

/-- label の無い organisation の学習が却下され、そのあとで rollback する。 -/
def sampleCalls : List (Call Nat) :=
  [.train (some "o") .org
      { dataset := fun _ => [], now := 1000, datasetHash := fun _ => "", fit := fun _ _ => none },
    .rollback (some "o")]

/-- rollback は、一度も昇格していない却下の記録を使われる model にする。 -/
theorem rejected_becomes_current :
    ¬ ∀ pre, pre <+: sampleCalls → ∀ e,
      (Run.exec (step sampleConfig) {} pre).doc.orgCurrent (some "o") = some e →
      (Run.exec (step sampleConfig) {} pre).WasPromoted "o" e.version := by
  intro h
  have hcur : ((Run.exec (step sampleConfig) {} sampleCalls).doc.orgCurrent (some "o")).map
      (·.version) = some "rejected-1000" := by decide +kernel
  obtain ⟨e, he, _⟩ := Option.map_eq_some_iff.mp hcur
  have hp := h sampleCalls List.prefix_rfl e he
  have hnil : (Run.exec (step sampleConfig) {} sampleCalls).promoted = [] := by decide +kernel
  unfold World.WasPromoted at hp
  rw [hnil] at hp
  cases hp

end CipherPost.Ml
