import CipherPost.Live.Regression
import Mathlib.Order.Bounds.Basic

/-!
# flow の数え

`update_flow` は flow の row の数をいくつも一緒に進める。始めの session と後の session で道筋は異なるが、どの順に session が来ても、row は
その flow の session の列だけで決まる値を持つ。

* `FlowCall`・`updateFlowAs` — 暗号化の有無も引数として受け取る `update_flow`
* `Tallied` — row が、flow の呼び出しの列を数えている
* `Tallied.observe`・`tallied_opened` — 呼び出し一つ
* `flow_totals` — どの呼び出しの列でも、row は数えている
-/

namespace CipherPost.Live

open Parsing

/-! ## 呼び出し -/

/-- `update_flow` の引数。時刻の無い呼び出しは、その時の時計を渡したものとする。 -/
structure FlowCall where
  orgId : Option String
  session : FlowSession
  encrypted : Bool
  now : Nat
  deriving DecidableEq

/-- 呼び出しの属する flow の id。 -/
def FlowCall.flow (sha256 : String → String) (c : FlowCall) : String :=
  c.session.flow sha256 c.orgId

/-- `update_flow`。 -/
def updateFlowAs (sha256 : String → String) (c : FlowCall) (flows : FlowTable) :
    FlowTable × Option RuleFinding :=
  let (client, server, port) := parseFiveTuple c.session.fiveTuple
  let id := c.flow sha256
  match flows.get? id with
  | none =>
    let flow := MailFlow.opened c.orgId client server c.session.protocol port c.session.tlsVersion c.now
    (flows.set id (flow.observe c.session.tlsVersion c.session.cipher c.encrypted c.now
      c.session.fingerprints), none)
  | some flow =>
    (flows.set id (flow.observe c.session.tlsVersion c.session.cipher c.encrypted c.now
      c.session.fingerprints), detectRegression flow c.session.tlsVersion c.encrypted)

/-- worker の呼び出しは、版の名前の有無を暗号化の有無として渡す。 -/
theorem updateFlow_eq (sha256 : String → String) (orgId : Option String) (now : Nat)
    (s : FlowSession) (flows : FlowTable) : updateFlow sha256 orgId now s flows =
      updateFlowAs sha256 ⟨orgId, s, s.tlsVersion.isSome, now⟩ flows := rfl

/-! ## 数え -/

/-- 版または cipher の名前を持つ呼び出しの数。 -/
def named (pick : FlowSession → Option String) (calls : List FlowCall) : Nat :=
  calls.countP fun c => (truthy (pick c.session)).isSome

/-- row は、呼び出しの列を数えている。 -/
structure Tallied (calls : List FlowCall) (flow : MailFlow) : Prop where
  total : flow.totalSessions = calls.length
  encrypted : flow.encryptedSessions = calls.countP fun c => c.encrypted
  plaintext : flow.plaintextSessions = calls.countP fun c => !c.encrypted
  versions : flow.versions.values.sum = named FlowSession.tlsVersion calls
  ciphers : flow.ciphers.values.sum = named FlowSession.cipher calls
  best : IsGreatest (insert (-1) {r | ∃ c ∈ calls, versionRank c.session.tlsVersion = r})
    (versionRank flow.bestVersion)
  first : IsLeast {t | ∃ c ∈ calls, c.now = t} flow.firstSeen

/-- どの呼び出しも、暗号化されているか平文である。 -/
theorem length_eq_encrypted_add_plaintext (calls : List FlowCall) : calls.length =
    (calls.countP fun c => c.encrypted) + calls.countP fun c => !c.encrypted := by
  have h := List.length_eq_countP_add_countP (fun c : FlowCall => c.encrypted) (l := calls)
  simpa using h

/-- 真の名前を数えれば、和が一つ増える。 -/
theorem sum_bumpIf (d : Dict String Nat) (k : Option String) :
    (bumpIf d k).values.sum = d.values.sum + if (truthy k).isSome then 1 else 0 := by
  unfold bumpIf
  cases truthy k with
  | none => rfl
  | some k => exact Dict.sum_values_bump d k

theorem named_concat (pick : FlowSession → Option String) (calls : List FlowCall) (c : FlowCall) :
    named pick (calls ++ [c]) =
      named pick calls + if (truthy (pick c.session)).isSome then 1 else 0 := by
  unfold named
  rw [List.countP_append, List.countP_singleton]

/-- 一つ増えた列の最大。 -/
theorem isGreatest_concat {calls : List FlowCall} {c : FlowCall} {r r' : Int}
    (h : IsGreatest (insert (-1) {r | ∃ c ∈ calls, versionRank c.session.tlsVersion = r}) r)
    (hr : (r' = versionRank c.session.tlsVersion ∧ r < r') ∨
      (r' = r ∧ versionRank c.session.tlsVersion ≤ r)) :
    IsGreatest (insert (-1) {r | ∃ c' ∈ calls ++ [c], versionRank c'.session.tlsVersion = r}) r' := by
  have hle : r ≤ r' ∧ versionRank c.session.tlsVersion ≤ r' := by
    rcases hr with ⟨rfl, hlt⟩ | ⟨rfl, hle⟩
    · exact ⟨le_of_lt hlt, le_refl _⟩
    · exact ⟨le_refl _, hle⟩
  constructor
  · rcases hr with ⟨rfl, -⟩ | ⟨rfl, -⟩
    · exact .inr ⟨c, List.mem_append_right _ (List.mem_singleton_self c), rfl⟩
    · rcases h.1 with heq | ⟨x, hx, hrank⟩
      · exact .inl heq
      · exact .inr ⟨x, List.mem_append_left _ hx, hrank⟩
  · rintro x (rfl | ⟨y, hy, rfl⟩)
    · exact (h.2 (Set.mem_insert _ _)).trans hle.1
    · rcases List.mem_append.mp hy with hy | hy
      · exact (h.2 (.inr ⟨y, hy, rfl⟩)).trans hle.1
      · rw [List.mem_singleton.mp hy]
        exact hle.2

/-- 一つ増えた列の最小。 -/
theorem isLeast_concat {calls : List FlowCall} {t : Nat}
    (h : IsLeast {t | ∃ c ∈ calls, c.now = t} t) (c : FlowCall) :
    IsLeast {t | ∃ c' ∈ calls ++ [c], c'.now = t} (min c.now t) := by
  constructor
  · rcases le_total c.now t with hle | hle
    · rw [min_eq_left hle]
      exact ⟨c, List.mem_append_right _ (List.mem_singleton_self c), rfl⟩
    · rw [min_eq_right hle]
      obtain ⟨x, hx, hnow⟩ := h.1
      exact ⟨x, List.mem_append_left _ hx, hnow⟩
  · rintro x ⟨y, hy, rfl⟩
    rcases List.mem_append.mp hy with hy | hy
    · exact (min_le_right _ _).trans (h.2 ⟨y, hy, rfl⟩)
    · rw [List.mem_singleton.mp hy]
      exact min_le_left _ _

/-- **呼び出し一つを数える。** -/
theorem Tallied.observe {calls : List FlowCall} {flow : MailFlow} (h : Tallied calls flow)
    (c : FlowCall) : Tallied (calls ++ [c]) (flow.observe c.session.tlsVersion c.session.cipher
      c.encrypted c.now c.session.fingerprints) where
  total := by
    rw [List.length_append, ← h.total]
    rfl
  encrypted := by
    rw [List.countP_append, List.countP_singleton, ← h.encrypted]
    rfl
  plaintext := by
    rw [List.countP_append, List.countP_singleton, ← h.plaintext]
    show flow.plaintextSessions + (if c.encrypted then 0 else 1) = _
    cases c.encrypted <;> rfl
  versions := by
    rw [named_concat, ← h.versions]
    exact sum_bumpIf _ _
  ciphers := by
    rw [named_concat, ← h.ciphers]
    exact sum_bumpIf _ _
  best := by
    refine isGreatest_concat h.best ?_
    rcases bestVersion_observe flow c.session.tlsVersion c.session.cipher c.encrypted c.now
      c.session.fingerprints with ⟨hbest, hlt⟩ | ⟨hbest, hle⟩
    · rw [hbest]
      exact .inl ⟨rfl, hlt⟩
    · rw [hbest]
      exact .inr ⟨rfl, hle⟩
  first := isLeast_concat h.first c

/-- **始めの呼び出しは、開いたばかりの row を数える。** -/
theorem tallied_opened (c : FlowCall) (client server : String) (port : Int) :
    Tallied [c] ((MailFlow.opened c.orgId client server c.session.protocol port c.session.tlsVersion
      c.now).observe c.session.tlsVersion c.session.cipher c.encrypted c.now
        c.session.fingerprints) where
  total := rfl
  encrypted := by
    rw [List.countP_singleton]
    exact Nat.zero_add _
  plaintext := by
    rw [List.countP_singleton]
    show 0 + (if c.encrypted then 0 else 1) = _
    cases c.encrypted <;> rfl
  versions := (sum_bumpIf Dict.empty c.session.tlsVersion).trans
    (named_concat FlowSession.tlsVersion [] c).symm
  ciphers := (sum_bumpIf Dict.empty c.session.cipher).trans
    (named_concat FlowSession.cipher [] c).symm
  best := by
    have hbest : ((MailFlow.opened c.orgId client server c.session.protocol port c.session.tlsVersion
        c.now).observe c.session.tlsVersion c.session.cipher c.encrypted c.now
          c.session.fingerprints).bestVersion = c.session.tlsVersion := by
      rcases bestVersion_observe (MailFlow.opened c.orgId client server c.session.protocol port
        c.session.tlsVersion c.now) c.session.tlsVersion c.session.cipher c.encrypted c.now
          c.session.fingerprints with ⟨hnew, -⟩ | ⟨hold, -⟩
      · exact hnew
      · exact hold
    rw [hbest]
    refine ⟨.inr ⟨c, List.mem_singleton_self c, rfl⟩, ?_⟩
    rintro x (rfl | ⟨y, hy, rfl⟩)
    · exact neg_one_le_versionRank _
    · rw [List.mem_singleton.mp hy]
  first := by
    show IsLeast _ (min c.now c.now)
    rw [min_self]
    refine ⟨⟨c, List.mem_singleton_self c, rfl⟩, ?_⟩
    rintro x ⟨y, hy, rfl⟩
    rw [List.mem_singleton.mp hy]

/-! ## 呼び出しの列 -/

section

variable (sha256 : String → String)

/-- 呼び出しの列の後の table。 -/
def flowsAfter (calls : List FlowCall) : FlowTable :=
  Run.exec (fun flows c => (updateFlowAs sha256 c flows).1) Dict.empty calls

/-- その flow の呼び出し。 -/
def callsOn (id : String) (calls : List FlowCall) : List FlowCall :=
  calls.filter fun c => decide (c.flow sha256 = id)

variable {sha256}

theorem callsOn_concat (id : String) (calls : List FlowCall) (c : FlowCall) :
    callsOn sha256 id (calls ++ [c]) =
      if c.flow sha256 = id then callsOn sha256 id calls ++ [c] else callsOn sha256 id calls := by
  unfold callsOn
  rw [List.filter_append, List.filter_singleton]
  by_cases h : c.flow sha256 = id
  · rw [if_pos h, decide_eq_true h]
    rfl
  · rw [if_neg h, decide_eq_false h]
    exact List.append_nil _

/-- どの row も、その flow の呼び出しを数えている。 -/
structure FlowsTallied (sha256 : String → String) (calls : List FlowCall) (flows : FlowTable) :
    Prop where
  absent : ∀ id, flows.get? id = none → callsOn sha256 id calls = []
  present : ∀ id flow, flows.get? id = some flow → Tallied (callsOn sha256 id calls) flow

/-- 呼び出しは、その flow の row だけを書き換える。 -/
theorem FlowsTallied.exists_row {calls : List FlowCall} {flows : FlowTable}
    (h : FlowsTallied sha256 calls flows) (c : FlowCall) :
    ∃ flow, (updateFlowAs sha256 c flows).1 = flows.set (c.flow sha256) flow ∧
      Tallied (callsOn sha256 (c.flow sha256) calls ++ [c]) flow := by
  unfold updateFlowAs
  simp only
  cases hget : flows.get? (c.flow sha256) with
  | none =>
    rw [h.absent _ hget]
    exact ⟨_, rfl, tallied_opened ..⟩
  | some flow => exact ⟨_, rfl, (h.present _ flow hget).observe c⟩

theorem FlowsTallied.step {calls : List FlowCall} {flows : FlowTable}
    (h : FlowsTallied sha256 calls flows) (c : FlowCall) :
    FlowsTallied sha256 (calls ++ [c]) (updateFlowAs sha256 c flows).1 := by
  obtain ⟨row, hset, hrow⟩ := h.exists_row c
  rw [hset]
  refine ⟨fun id hnone => ?_, fun id flow hget => ?_⟩
  · rw [Dict.get?_set] at hnone
    rw [callsOn_concat]
    split at hnone
    · cases hnone
    · next hid => rw [if_neg hid, h.absent id hnone]
  · rw [Dict.get?_set] at hget
    rw [callsOn_concat]
    split at hget
    · next hid =>
      obtain rfl := Option.some.inj hget
      rw [if_pos hid, ← hid]
      exact hrow
    · next hid =>
      rw [if_neg hid]
      exact h.present id flow hget

theorem flowsTallied_after (sha256 : String → String) (calls : List FlowCall) :
    FlowsTallied sha256 calls (flowsAfter sha256 calls) :=
  Run.history (I := FlowsTallied sha256) ⟨fun _ _ => rfl, fun _ _ h => (by cases h)⟩
    (fun _ c h => h.step c) calls

end

/--
**どの呼び出しの列でも、flow の row は、その flow の呼び出しの数を数え、最良の版はその版の最も高い順位を持ち、始めの時刻はその最小である。**
一度も呼ばれていない flow には row が無い。
-/
theorem flow_totals (sha256 : String → String) (calls : List FlowCall) (id : String) :
    ((flowsAfter sha256 calls).get? id = none → callsOn sha256 id calls = []) ∧
    ∀ flow, (flowsAfter sha256 calls).get? id = some flow →
      flow.totalSessions = (callsOn sha256 id calls).length ∧
      flow.totalSessions = flow.encryptedSessions + flow.plaintextSessions ∧
      flow.versions.values.sum = named FlowSession.tlsVersion (callsOn sha256 id calls) ∧
      flow.ciphers.values.sum = named FlowSession.cipher (callsOn sha256 id calls) ∧
      IsGreatest (insert (-1)
          {r | ∃ c ∈ callsOn sha256 id calls, versionRank c.session.tlsVersion = r})
        (versionRank flow.bestVersion) ∧
      IsLeast {t | ∃ c ∈ callsOn sha256 id calls, c.now = t} flow.firstSeen := by
  have h := flowsTallied_after sha256 calls
  refine ⟨h.absent id, fun flow hget => ?_⟩
  obtain ⟨htotal, hencrypted, hplaintext, hversions, hciphers, hbest, hfirst⟩ :=
    h.present id flow hget
  refine ⟨htotal, ?_, hversions, hciphers, hbest, hfirst⟩
  rw [htotal, hencrypted, hplaintext]
  exact length_eq_encrypted_add_plaintext _

/-- 平文の session の後に、TLS 1.2 の session が、前の時刻で来る。 -/
def plainThenTls : List FlowCall :=
  [⟨none, ⟨"10.0.0.1:40000->10.0.0.2:25", "smtp", none, none, []⟩, false, 20⟩,
    ⟨none, ⟨"10.0.0.1:40001->10.0.0.2:25", "smtp", some "TLS 1.2", none, []⟩, true, 10⟩]

/-- 二つの session の flow の key の、SHA-256 の hex。 -/
def relayDigest : String → String := fun _ =>
  "a67fb57ac14ea7e1b87da8759cdb86726b37a6f5e7e5f10c782fa0981a5ed195"

/-- 二つの session は、同じ row に数えられる。 -/
theorem flow_totals_plainThenTls :
    ∃ flow, (flowsAfter relayDigest plainThenTls).get? "flow-a67fb57ac14ea7e1b87da8759cdb8672"
        = some flow ∧
      flow.totalSessions = 2 ∧ flow.totalSessions = flow.encryptedSessions + flow.plaintextSessions ∧
      flow.versions.values.sum = 1 := by
  have hsome : ((flowsAfter relayDigest plainThenTls).get?
      "flow-a67fb57ac14ea7e1b87da8759cdb8672").isSome = true := by decide +kernel
  obtain ⟨flow, hflow⟩ := Option.isSome_iff_exists.mp hsome
  obtain ⟨htotal, hsum, hversions, -⟩ :=
    (flow_totals relayDigest plainThenTls "flow-a67fb57ac14ea7e1b87da8759cdb8672").2 flow hflow
  have hcalls : (callsOn relayDigest "flow-a67fb57ac14ea7e1b87da8759cdb8672" plainThenTls).length = 2 ∧
      named FlowSession.tlsVersion
        (callsOn relayDigest "flow-a67fb57ac14ea7e1b87da8759cdb8672" plainThenTls) = 1 := by
    decide +kernel
  exact ⟨flow, hflow, htotal.trans hcalls.1, hsum, hversions.trans hcalls.2⟩

end CipherPost.Live
