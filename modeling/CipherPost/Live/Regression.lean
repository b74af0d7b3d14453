import CipherPost.Infra.Run
import CipherPost.Live.Flows
import CipherPost.Parsing.SessionAnalysis

/-!
# 版の後退

`detect_regression` は版を `version_rank` で比べる。`_VERSION_RANK` の名前は `"TLS 1.2"` のように空白を
持つが、session の版の名前を作る `version_name` は `"TLS1.2"` のように書く。版の名前が `version_name` から来る
flow の履歴で、後退が見つかるかを調べる。

* `WireSession` — 交渉された版の番号を持つ session。番号の名前は `name` で与える
* `Tracks` — flow の row は、session の数と、順位の一番高い版を持つ
* `regression_cases` — どの `name` についても、後退が見つかるのはいつか
* `versionRank_versionName` — `version_name` の名前は、どれも順位を持たない
* `detects_iff` — 後退が正しく見つかるのは、見つけるべき後退が無いとき
* `detects_of_ranked` — 順位が番号の順である名前なら、後退は正しく見つかる
-/

namespace CipherPost.Live

open Parsing

/-! ## flow の履歴 -/

/-- session のうち flow に関わる部分。版は、名前にする前の番号である。 -/
structure WireSession where
  orgId : Option String
  now : Nat
  fiveTuple : String
  protocol : String
  version : Option Nat
  cipher : Option String
  fingerprints : List (Option String)

namespace WireSession

/-- 番号に名前をつけた session。 -/
def session (name : Nat → String) (e : WireSession) : FlowSession :=
  ⟨e.fiveTuple, e.protocol, e.version.map name, e.cipher, e.fingerprints⟩

/-- 属する flow の id。 -/
def flow (sha256 : String → String) (e : WireSession) : String :=
  let (client, server, port) := parseFiveTuple e.fiveTuple
  flowId sha256 e.orgId client server e.protocol port

end WireSession

variable (sha256 : String → String) (name : Nat → String)

/-- session 一つの後の table。 -/
def flowsStep (flows : FlowTable) (e : WireSession) : FlowTable :=
  (updateFlow sha256 e.orgId e.now (e.session name) flows).1

/-- 履歴 `es` の後の session に `update_flow` が返す finding。 -/
def regression (es : List WireSession) (e : WireSession) : Option RuleFinding :=
  (updateFlow sha256 e.orgId e.now (e.session name)
    (Run.exec (flowsStep sha256 name) Dict.empty es)).2

/-- 同じ flow のこれまでの session。 -/
def earlier (es : List WireSession) (id : String) : List WireSession :=
  es.filter fun x => decide (x.flow sha256 = id)

/-- 版 `v` は、flow のこれまでの最良の版より低い。 -/
def Lower (es : List WireSession) (id : String) (v : Nat) : Prop :=
  ∃ x ∈ earlier sha256 es id, ∃ u, x.version = some u ∧ v < u

/-- 三つ以上の session のある flow では版の後退が見つかり、後退でなければ見つからない。 -/
structure Detects (es : List WireSession) (e : WireSession) (v : Nat) : Prop where
  reports : 3 ≤ (earlier sha256 es (e.flow sha256)).length → Lower sha256 es (e.flow sha256) v →
    ∃ f, regression sha256 name es { e with version := some v } = some f ∧
      f.ruleId = "transport-regression"
  silent : ¬Lower sha256 es (e.flow sha256) v →
    regression sha256 name es { e with version := some v } = none

/-! ## 順位 -/

theorem rank_of_lookup {s : String} : ∀ {l : List (String × Int)}, (∀ e ∈ l, -1 ≤ e.2) →
    -1 ≤ (l.lookup s).getD (-1)
  | [], _ => by simp
  | (k, r) :: l, h => by
    rw [List.lookup_cons]
    split
    · exact h _ List.mem_cons_self
    · exact rank_of_lookup fun e he => h e (List.mem_cons_of_mem _ he)

theorem neg_one_le_versionRank (v : Option String) : -1 ≤ versionRank v :=
  rank_of_lookup (by decide)

/-- 真でない版は順位を持たない。 -/
theorem versionRank_of_truthy_none {v : Option String} (h : truthy v = none) :
    versionRank v = -1 := by
  cases v with
  | none => decide
  | some s =>
    have hs : s = "" := by simpa [truthy, Option.filter] using h
    subst hs
    decide

/-! ## flow の row -/

/-- row は、session の数と、順位の一番高い版を持つ。 -/
structure TracksFlow (flow : MailFlow) (l : List WireSession) : Prop where
  total : flow.totalSessions = l.length
  le : ∀ e ∈ l, versionRank (e.version.map name) ≤ versionRank flow.bestVersion
  seen : ∃ e ∈ l, flow.bestVersion = e.version.map name

variable {sha256 name}

/-- 数えた後の最良の版は、前の最良の版か、いまの版である。 -/
theorem bestVersion_observe (flow : MailFlow) (tlsVersion cipher : Option String) (encrypted : Bool)
    (now : Nat) (fingerprints : List (Option String)) :
    ((flow.observe tlsVersion cipher encrypted now fingerprints).bestVersion = tlsVersion ∧
        versionRank flow.bestVersion < versionRank tlsVersion) ∨
      ((flow.observe tlsVersion cipher encrypted now fingerprints).bestVersion = flow.bestVersion ∧
        versionRank tlsVersion ≤ versionRank flow.bestVersion) := by
  simp only [MailFlow.observe]
  cases h : truthy tlsVersion with
  | none =>
    rw [versionRank_of_truthy_none h]
    exact .inr ⟨rfl, neg_one_le_versionRank _⟩
  | some version =>
    obtain ⟨rfl, -⟩ := truthy_eq_some.mp h
    by_cases hlt : versionRank flow.bestVersion < versionRank (some version)
    · exact .inl ⟨if_pos hlt, hlt⟩
    · exact .inr ⟨if_neg hlt, Int.not_lt.mp hlt⟩

theorem TracksFlow.observe {flow : MailFlow} {l : List WireSession} (h : TracksFlow name flow l)
    (e : WireSession) (encrypted : Bool) :
    TracksFlow name (flow.observe (e.version.map name) e.cipher encrypted e.now e.fingerprints)
      (l ++ [e]) := by
  obtain ⟨x, hx, hbest⟩ := h.seen
  rcases bestVersion_observe flow (e.version.map name) e.cipher encrypted e.now e.fingerprints with
    ⟨hnew, hlt⟩ | ⟨hold, hle⟩
  · refine ⟨by simp [MailFlow.observe, h.total], fun y hy => ?_, e, by simp, hnew⟩
    rw [hnew]
    rcases List.mem_append.mp hy with hy | hy
    · exact Int.le_trans (h.le y hy) (Int.le_of_lt hlt)
    · exact Int.le_of_eq (by rw [List.mem_singleton.mp hy])
  · refine ⟨by simp [MailFlow.observe, h.total], fun y hy => ?_, x, by simp [hx], hold.trans hbest⟩
    rw [hold]
    rcases List.mem_append.mp hy with hy | hy
    · exact h.le y hy
    · rw [List.mem_singleton.mp hy]
      exact hle

/-- 開いた flow は、始めの session を持つ。 -/
theorem tracksFlow_opened (e : WireSession) (client server : String) (port : Int)
    (encrypted : Bool) :
    TracksFlow name ((MailFlow.opened e.orgId client server e.protocol port (e.version.map name)
      e.now).observe (e.version.map name) e.cipher encrypted e.now e.fingerprints) [e] := by
  have hbest : ((MailFlow.opened e.orgId client server e.protocol port (e.version.map name)
      e.now).observe (e.version.map name) e.cipher encrypted e.now e.fingerprints).bestVersion =
        e.version.map name := by
    rcases bestVersion_observe (MailFlow.opened e.orgId client server e.protocol port
      (e.version.map name) e.now) (e.version.map name) e.cipher encrypted e.now e.fingerprints with
      ⟨hnew, -⟩ | ⟨hold, -⟩
    · exact hnew
    · exact hold
  refine ⟨rfl, fun y hy => ?_, e, by simp, hbest⟩
  exact Int.le_of_eq (by rw [List.mem_singleton.mp hy, hbest])

/-- table の row は、それぞれの flow の session を追う。 -/
structure Tracks (sha256 : String → String) (name : Nat → String) (es : List WireSession)
    (flows : FlowTable) : Prop where
  absent : ∀ id, flows.get? id = none → earlier sha256 es id = []
  present : ∀ id flow, flows.get? id = some flow → TracksFlow name flow (earlier sha256 es id)

theorem earlier_concat (es : List WireSession) (e : WireSession) (id : String) :
    earlier sha256 (es ++ [e]) id =
      if e.flow sha256 = id then earlier sha256 es id ++ [e] else earlier sha256 es id := by
  unfold earlier
  rw [List.filter_append]
  split
  · next h => simp [h]
  · next h => simp [h]

/-- 書かれる row は、これまでの session にいまの session を加えたものを追う。 -/
theorem flowsStep_spec {es : List WireSession} {flows : FlowTable} (h : Tracks sha256 name es flows)
    (e : WireSession) :
    ∃ flow, flowsStep sha256 name flows e = flows.set (e.flow sha256) flow ∧
      TracksFlow name flow (earlier sha256 es (e.flow sha256) ++ [e]) := by
  have hflow : (e.session name).flow sha256 e.orgId = e.flow sha256 := rfl
  simp only [flowsStep, updateFlow, hflow]
  cases hget : flows.get? (e.flow sha256) with
  | none =>
    rw [h.absent _ hget]
    exact ⟨_, rfl, tracksFlow_opened ..⟩
  | some flow => exact ⟨_, rfl, (h.present _ flow hget).observe ..⟩

/-- **session 一つは、`Tracks` を保つ。** -/
theorem Tracks.step {es : List WireSession} {flows : FlowTable} (h : Tracks sha256 name es flows)
    (e : WireSession) : Tracks sha256 name (es ++ [e]) (flowsStep sha256 name flows e) := by
  obtain ⟨flow, hstep, htracks⟩ := flowsStep_spec h e
  refine ⟨fun id hget => ?_, fun id flow' hget => ?_⟩
  · rw [hstep, Dict.get?_set] at hget
    rw [earlier_concat]
    split at hget
    · cases hget
    · next hid => rw [if_neg hid, h.absent id hget]
  · rw [hstep, Dict.get?_set] at hget
    rw [earlier_concat]
    split at hget
    · next hid =>
      cases hget
      rw [if_pos hid, ← hid]
      exact htracks
    · next hid =>
      rw [if_neg hid]
      exact h.present id flow' hget

theorem tracks_exec (sha256 : String → String) (name : Nat → String) (es : List WireSession) :
    Tracks sha256 name es (Run.exec (flowsStep sha256 name) Dict.empty es) := by
  refine Run.history (I := Tracks sha256 name) ⟨fun _ _ => rfl, fun id flow hget => ?_⟩
    (fun pre e h => h.step e) es
  cases hget

/-! ## 後退 -/

/-- 版のある session に足される finding。 -/
theorem detectRegression_version (flow : MailFlow) (version : String) :
    (∃ f, detectRegression flow (some version) true = some f ∧ f.ruleId = "transport-regression" ∧
        3 ≤ flow.totalSessions ∧ versionRank (some version) < versionRank flow.bestVersion) ∨
      (detectRegression flow (some version) true = none ∧ (flow.totalSessions < 3 ∨ version = "" ∨
        versionRank flow.bestVersion ≤ versionRank (some version))) := by
  unfold detectRegression
  by_cases hshort : flow.totalSessions < 3
  · exact .inr ⟨if_pos hshort, .inl hshort⟩
  · simp only [hshort, if_false, Bool.not_true, Bool.false_and, Bool.false_eq_true]
    cases hversion : truthy (some version) with
    | none =>
      have hempty : version = "" := by simpa [truthy, Option.filter] using hversion
      exact .inr ⟨rfl, .inr (.inl hempty)⟩
    | some version' =>
      obtain ⟨heq, -⟩ := truthy_eq_some.mp hversion
      obtain rfl := Option.some.inj heq
      cases hbest : truthy flow.bestVersion with
      | none =>
        refine .inr ⟨rfl, .inr (.inr ?_)⟩
        rw [versionRank_of_truthy_none hbest]
        exact neg_one_le_versionRank _
      | some best =>
        obtain ⟨hsome, -⟩ := truthy_eq_some.mp hbest
        rw [hsome]
        by_cases hlt : versionRank (some version) < versionRank (some best)
        · exact .inl ⟨_, if_pos hlt, rfl, Nat.not_lt.mp hshort, hlt⟩
        · exact .inr ⟨if_neg hlt, .inr (.inr (Int.not_lt.mp hlt))⟩

/--
**どの名前の付け方でも、後退が見つかるのは、flow に三つ以上の session があり、その中に順位のより高い版のものが
あるときである。**
-/
theorem regression_cases (es : List WireSession) (e : WireSession) (v : Nat) (hne : name v ≠ "") :
    (∃ f, regression sha256 name es { e with version := some v } = some f ∧
        f.ruleId = "transport-regression" ∧ 3 ≤ (earlier sha256 es (e.flow sha256)).length ∧
        ∃ x ∈ earlier sha256 es (e.flow sha256),
          versionRank (some (name v)) < versionRank (x.version.map name)) ∨
      (regression sha256 name es { e with version := some v } = none ∧
        ((earlier sha256 es (e.flow sha256)).length < 3 ∨
          ∀ x ∈ earlier sha256 es (e.flow sha256),
            versionRank (x.version.map name) ≤ versionRank (some (name v)))) := by
  have htracks := tracks_exec sha256 name es
  have hflow : ({ e with version := some v }.session name).flow sha256 e.orgId = e.flow sha256 := rfl
  simp only [regression, updateFlow, hflow]
  cases hget : (Run.exec (flowsStep sha256 name) Dict.empty es).get? (e.flow sha256) with
  | none =>
    rw [htracks.absent _ hget]
    exact .inr ⟨rfl, .inl (by simp)⟩
  | some flow =>
    have h := htracks.present _ flow hget
    obtain ⟨x, hx, hbest⟩ := h.seen
    rcases detectRegression_version flow (name v) with
      ⟨f, hf, hrule, hthree, hlt⟩ | ⟨hnone, hshort | hempty | hle⟩
    · exact .inl ⟨f, hf, hrule, h.total ▸ hthree, x, hx, hbest ▸ hlt⟩
    · exact .inr ⟨hnone, .inl (h.total ▸ hshort)⟩
    · exact absurd hempty hne
    · exact .inr ⟨hnone, .inr fun y hy => Int.le_trans (h.le y hy) hle⟩

/-! ## `version_name` の名前 -/

/-- 空白でない文字で始まる文字列は、`strip` しても同じ文字で始まる。 -/
theorem head?_strip {s : String} {c : Char} {l : List Char} (hs : s.toList = c :: l)
    (hc : isSpace c = false) : (strip s).toList.head? = some c := by
  have hfront : (c :: l).dropWhile isSpace = c :: l := by simp [hc]
  have hback : ∃ m, (l.reverse ++ [c]).dropWhile isSpace = m ++ [c] := by
    rw [List.dropWhile_append]
    split
    · exact ⟨[], by simp [hc]⟩
    · exact ⟨_, rfl⟩
  obtain ⟨m, hm⟩ := hback
  simp [strip, hs, hfront, hm]

/-- 書く名前は、順位の表に無い。 -/
theorem versionRank_table : ∀ e ∈ TLS_VERSION_NAMES, versionRank (some e.2) = -1 := by decide

/-- 順位の表の名前は、十六進の表記ではない。 -/
theorem versionRank_digits : ∀ e ∈ VERSION_RANK, e.1.toList.head? ≠ some '0' := by decide

/-- **`version_name` の名前は、どれも順位を持たない。** -/
theorem versionRank_versionName (v : Nat) : versionRank (some (versionName v)) = -1 := by
  rcases versionName_cases v with ⟨e, he, hname⟩ | ⟨l, hl⟩
  · rw [hname]
    exact versionRank_table e he
  · have hhead : (strip (versionName v)).toList.head? = some '0' := head?_strip hl (by decide)
    have hlookup : VERSION_RANK.lookup (strip (versionName v)) = none := by
      refine List.lookup_eq_none_iff.mpr fun e he => bne_iff_ne.mpr fun heq => ?_
      refine versionRank_digits e he ?_
      rw [← heq]
      exact hhead
    simp only [versionRank, Option.getD_some, hlookup, Option.getD_none]

theorem versionName_ne_empty (v : Nat) : versionName v ≠ "" := by
  rcases versionName_cases v with ⟨e, he, hname⟩ | ⟨l, hl⟩
  · have hall : ∀ e ∈ TLS_VERSION_NAMES, e.2 ≠ "" := by decide
    rw [hname]
    exact hall e he
  · intro h
    rw [h] at hl
    cases hl

/-- `version_name` の名前の履歴では、版の後退は見つからない。 -/
theorem regression_versionName (sha256 : String → String) (es : List WireSession) (e : WireSession)
    (v : Nat) : regression sha256 versionName es { e with version := some v } = none := by
  rcases regression_cases es e v (versionName_ne_empty v) with ⟨f, -, -, -, x, -, hlt⟩ | ⟨hnone, -⟩
  · rw [versionRank_versionName] at hlt
    have hx : versionRank (x.version.map versionName) = -1 := by
      cases x.version with
      | none => decide
      | some u => exact versionRank_versionName u
    rw [hx] at hlt
    exact absurd hlt (Int.lt_irrefl _)
  · exact hnone

/--
版の名前が `version_name` から来るどの履歴でも、新しい session について後退が正しく見つかるのは、flow の session が
三つに満たないか、その版がこれまでの最良の版より低くないとき、かつそのときに限る。
-/
theorem detects_iff (sha256 : String → String) (es : List WireSession) (e : WireSession) (v : Nat) :
    Detects sha256 versionName es e v ↔
      (earlier sha256 es (e.flow sha256)).length < 3 ∨ ¬Lower sha256 es (e.flow sha256) v := by
  have hnone := regression_versionName sha256 es e v
  constructor
  · intro h
    by_contra hno
    rw [not_or, not_not, Nat.not_lt] at hno
    obtain ⟨f, hf, -⟩ := h.reports hno.1 hno.2
    cases hnone.symm.trans hf
  · intro h
    refine ⟨fun hthree hlower => ?_, fun _ => hnone⟩
    rcases h with hshort | hno
    · exact absurd hthree (Nat.not_le.mpr hshort)
    · exact absurd hlower hno

/-- TLS 1.3 の session が三つ続いた後の TLS 1.0 の session。 -/
def tls13Session : WireSession where
  orgId := some "org-a"
  now := 0
  fiveTuple := "10.0.0.1:40000-10.0.0.2:25"
  protocol := "smtp"
  version := some 0x0304
  cipher := none
  fingerprints := []

/-- TLS 1.3 から TLS 1.0 への後退が見つからない。 -/
theorem not_detects_tls10 :
    ¬Detects id versionName [tls13Session, tls13Session, tls13Session] tls13Session 0x0301 := by
  intro h
  have hlower : Lower id [tls13Session, tls13Session, tls13Session] (tls13Session.flow id) 0x0301 :=
    ⟨tls13Session, by simp [earlier], 0x0304, rfl, by decide⟩
  obtain ⟨f, hf, -⟩ := h.reports (by simp [earlier]) hlower
  cases (regression_versionName id _ _ _).symm.trans hf

/-! ## 順位のある名前 -/

/-- **順位が番号の順である名前なら、後退は正しく見つかる。** -/
theorem detects_of_ranked {P : Nat → Prop} (hne : ∀ u, P u → name u ≠ "")
    (hrank : ∀ u v, P u → P v →
      (versionRank (some (name v)) < versionRank (some (name u)) ↔ v < u))
    {es : List WireSession} (hes : ∀ x ∈ es, ∀ u, x.version = some u → P u) (e : WireSession)
    {v : Nat} (hv : P v) : Detects sha256 name es e v := by
  have hmem : ∀ {x}, x ∈ earlier sha256 es (e.flow sha256) → x ∈ es :=
    fun hx => List.mem_of_mem_filter hx
  rcases regression_cases es e v (hne v hv) with ⟨f, hf, hrule, -, x, hx, hlt⟩ | ⟨hnone, hcause⟩
  · refine ⟨fun _ _ => ⟨f, hf, hrule⟩, fun hno => ?_⟩
    cases hversion : x.version with
    | none =>
      rw [hversion] at hlt
      exact absurd (neg_one_le_versionRank (some (name v))) (Int.not_le.mpr hlt)
    | some u =>
      rw [hversion] at hlt
      exact absurd ⟨x, hx, u, hversion, (hrank u v (hes x (hmem hx) u hversion) hv).mp hlt⟩ hno
  · refine ⟨fun hthree hlower => ?_, fun _ => hnone⟩
    rcases hcause with hshort | hle
    · exact absurd hthree (Nat.not_le.mpr hshort)
    · obtain ⟨x, hx, u, hversion, hlt⟩ := hlower
      have hless := (hrank u v (hes x (hmem hx) u hversion) hv).mpr hlt
      have hle' := hle x hx
      rw [hversion] at hle'
      exact absurd hless (Int.not_lt.mpr hle')

/-- `_VERSION_RANK` の綴りの名前。 -/
def rankedName (v : Nat) : String :=
  match v with
  | 0x0300 => "SSLv3"
  | 0x0301 => "TLS 1.0"
  | 0x0302 => "TLS 1.1"
  | 0x0303 => "TLS 1.2"
  | _ => "TLS 1.3"

/-- 番号に `_VERSION_RANK` の綴りの名前がついていれば、後退は正しく見つかる。 -/
theorem detects_rankedName {es : List WireSession}
    (hes : ∀ x ∈ es, ∀ u, x.version = some u → u ∈ TLS_VERSION_NAMES.map Prod.fst) (e : WireSession)
    {v : Nat} (hv : v ∈ TLS_VERSION_NAMES.map Prod.fst) : Detects sha256 rankedName es e v := by
  have hne : ∀ u ∈ TLS_VERSION_NAMES.map Prod.fst, rankedName u ≠ "" := by decide
  have hrank : ∀ u ∈ TLS_VERSION_NAMES.map Prod.fst, ∀ v ∈ TLS_VERSION_NAMES.map Prod.fst,
      (versionRank (some (rankedName v)) < versionRank (some (rankedName u)) ↔ v < u) := by decide
  exact detects_of_ranked hne (fun u v hu hv => hrank u hu v hv) hes e hv

end CipherPost.Live
