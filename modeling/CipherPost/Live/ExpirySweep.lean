import CipherPost.Live.AlertInvariants
import CipherPost.Proactive.Certs

/-!
# 証明書の期限の sweep

`AlertDispatcher._expiry_sweep`。期限の近い証明書ごとに pseudo-finding を `_dispatch` し、最後に
`mark_alerted` で印を付ける。pseudo-finding の `five_tuple` は空なので、dedup の key はどの証明書でも同じになる。

* `expiryFinding` — 証明書一つの pseudo-finding
* `announce` — その `_dispatch`
* `openTurns` — 始めの dedup の印と時計と Redis だけで決まる、key の空いている順番
* `expirySweep` — `_expiry_sweep`
* `expirySweep_announces_iff` — 印の付いた証明書が alert で知らされるための条件
-/

namespace CipherPost.Live

open Proactive

/-! ## pseudo-finding -/

section Finding

variable (strDate : Int → String)

/-- `(_na - _now).days`。期限が無ければ -1 になる。 -/
def daysLeft (r : TrackedCert) (now : Nat) : Int :=
  match r.notAfter with
  | some t => (t - now) / 86400
  | none => -1

/-- `f"{d}"`。 -/
def dateText : Option Int → String
  | some t => strDate t
  | none => "None"

/-- alert の本文。証明書を名指しする。 -/
def expiryDescription (r : TrackedCert) : String :=
  r.subjectCn ++ " (issuer " ++ r.issuerCn ++ ") expires " ++ dateText strDate r.notAfter ++
    "; seen " ++ toString r.seenCount ++ "x since " ++ strDate r.firstSeen ++
    ". Rotate before expiry."

/-- `_expiry_sweep` が `_dispatch` に渡す dict。 -/
def expiryFinding (r : TrackedCert) (now : Nat) : Finding :=
  let days := daysLeft r now
  { ruleId := .value "cert-expiry-forecast"
    severity := .value (if days < 0 then "high" else if 7 < days then "medium" else "high")
    title := .value (if days < 0 then "Certificate already expired"
      else "Certificate expires in " ++ toString days ++ " days")
    description := .value (expiryDescription strDate r)
    fiveTuple := .value ""
    protocol := .value ""
    orgId := .ofOption r.orgId
    riskScore := .null
    findings := .value [] }

/-- どの証明書も同じ dedup の key を使う。 -/
def expiryKey : String := "cert-expiry-forecast:unknown"

theorem groupKeyOf_expiryFinding (r : TrackedCert) (now : Nat) :
    groupKeyOf (expiryFinding strDate r now) = expiryKey := by
  have hhost : serverHostOf (expiryFinding strDate r now) = "unknown" := rfl
  unfold groupKeyOf
  rw [hhost]
  rfl

/-- 名指し。本文と organisation が証明書のものである。 -/
def Alert.Names (a : Alert) (r : TrackedCert) : Prop :=
  a.description = expiryDescription strDate r ∧ a.orgId = r.orgId

instance (a : Alert) (r : TrackedCert) : Decidable (a.Names strDate r) :=
  inferInstanceAs (Decidable (_ ∧ _))

theorem orText_self (s : String) : orText (some s) "" = s := by
  unfold orText
  cases h : truthy (some s) with
  | none =>
    by_cases hs : s = ""
    · rw [hs]
      rfl
    · rw [truthy_eq_some.mpr ⟨rfl, hs⟩] at h
      cases h
  | some t => exact (Option.some.inj (truthy_eq_some.mp h).1).symm

/-- 出した alert が名指すのは、本文と organisation の同じ証明書である。 -/
theorem names_of_expiryFinding (r r' : TrackedCert) (now : Nat) :
    (Alert.of (expiryFinding strDate r now) now).Names strDate r' ↔
      expiryDescription strDate r = expiryDescription strDate r' ∧ r.orgId = r'.orgId := by
  have hdesc : (Alert.of (expiryFinding strDate r now) now).description
      = expiryDescription strDate r := orText_self _
  have horg : (Alert.of (expiryFinding strDate r now) now).orgId = r.orgId :=
    Field.get_ofOption r.orgId
  unfold Alert.Names
  rw [hdesc, horg]

end Finding

/-! ## 証明書一つの `_dispatch` -/

/-- 知らせる証明書と、その `_dispatch` の環境。 -/
structure Forecast where
  env : Env
  cert : TrackedCert

/-- いま dedup の key が空いている。 -/
def AlertState.keyFree (a : AlertState) (cfg : Config) (env : Env) : Bool :=
  (a.checkAndSetDedup cfg.dedupWindow env.now env.link.up expiryKey ⟨none, []⟩).1

section Announce

variable (cfg : Config) (strDate : Int → String)

def Forecast.finding (s : Forecast) : Finding := expiryFinding strDate s.cert s.env.now

/-- 証明書一つを知らせる `_dispatch`。 -/
def announce (d : AlertDispatcher) (s : Forecast) : AlertDispatcher :=
  Run.exec (Instr.run cfg s.env) d (dispatch (s.finding strDate) [])

/-- 深刻度が閾値に届く。 -/
def Forecast.Severe (s : Forecast) : Prop := s.env.shouldAlert cfg (s.finding strDate) = true

/-- rate の予算が残っている。 -/
def WithinRate (d : AlertDispatcher) (s : Forecast) : Prop :=
  (d.state.checkRate cfg.ratePerMinute s.env.rateClock s.env.pid s.env.link.up).1 = true

instance (s : Forecast) : Decidable (s.Severe cfg strDate) := inferInstanceAs (Decidable (_ = _))

instance (d : AlertDispatcher) (s : Forecast) : Decidable (WithinRate cfg d s) :=
  inferInstanceAs (Decidable (_ = _))

/-- `_dispatch` の出す alert。 -/
def Forecast.sentAlert (s : Forecast) : Sent := ⟨Alert.of (s.finding strDate) s.env.now, []⟩

/-- dedup の結果は、印に書き添える記録によらない。 -/
theorem keyFree_eq (a : AlertState) (env : Env) (mark : Mark) :
    (a.checkAndSetDedup cfg.dedupWindow env.now env.link.up expiryKey mark).1
      = a.keyFree cfg env := by
  unfold AlertState.keyFree AlertState.checkAndSetDedup
  cases env.link.up with
  | true =>
    simp only [if_true]
    cases a.redisDedup.get? expiryKey with
    | none => rfl
    | some p =>
      simp only
      split <;> rfl
  | false =>
    simp only [Bool.false_eq_true, if_false]
    split <;> split <;> rfl

/-- dedup は rate の予算を変えない。 -/
theorem checkRate_checkAndSetDedup (a : AlertState) (window now : Nat) (up : Bool) (key : String)
    (mark : Mark) (perMinute pid : Nat) (clock : Nat → Nat) :
    ((a.checkAndSetDedup window now up key mark).2.checkRate perMinute clock pid up).1
      = (a.checkRate perMinute clock pid up).1 := by
  rcases a.checkAndSetDedup_cases window now up key mark with he | ⟨hup, he⟩ | ⟨hup, he⟩
  · rw [he]
  · rw [he, hup]
    rfl
  · rw [he, hup]
    unfold AlertState.checkRate
    simp only [Bool.false_eq_true, if_false]
    split <;> rfl

/-- **`_dispatch` の結果。** key が空いていれば alert を一つ出し、そうでなければ何も出さない。 -/
theorem sent_announce {d : AlertDispatcher} {s : Forecast} (hsev : s.Severe cfg strDate)
    (hrate : WithinRate cfg d s) : (announce cfg strDate d s).sent =
      d.sent ++ if d.state.keyFree cfg s.env then [s.sentAlert strDate] else [] := by
  show (((d.gate cfg s.env (s.finding strDate) []).rate cfg s.env []).send s.env
    (s.finding strDate) []).sent = _
  have hkey : groupKeyOf (s.finding strDate) = expiryKey := groupKeyOf_expiryFinding _ _ _
  unfold Forecast.Severe at hsev
  unfold AlertDispatcher.gate
  rw [hsev, hkey, if_neg (by simp)]
  simp only [keyFree_eq]
  by_cases hfree : d.state.keyFree cfg s.env = true
  · unfold WithinRate at hrate
    simp only [hfree, if_true, AlertDispatcher.rate, checkRate_checkAndSetDedup, hrate,
      AlertDispatcher.send]
    rfl
  · simp [hfree, AlertDispatcher.conclude, AlertDispatcher.rate, AlertDispatcher.send]

/-! ## key の空いている順番 -/

/-- 順番の来た時計と Redis で、key に印を付けてみた dedup。 -/
def AlertState.takeTurn (a : AlertState) (s : Forecast) : AlertState :=
  (a.checkAndSetDedup cfg.dedupWindow s.env.now s.env.link.up expiryKey ⟨s.cert.orgId, []⟩).2

/-- key の空いているときに順番の来る証明書。始めの dedup と、順番ごとの時計と Redis だけで決まる。 -/
def openTurns (a : AlertState) : List Forecast → List Forecast
  | [] => []
  | s :: l => (if a.keyFree cfg s.env then [s] else []) ++ openTurns (a.takeTurn cfg s) l

/-- 空いていない key に、印は付かない。 -/
theorem takeTurn_of_closed {a : AlertState} {s : Forecast} (h : a.keyFree cfg s.env = false) :
    a.takeTurn cfg s = a := by
  have hmark := keyFree_eq cfg a s.env ⟨s.cert.orgId, []⟩
  rw [h] at hmark
  unfold AlertState.takeTurn
  rcases a.checkAndSetDedup_cases cfg.dedupWindow s.env.now s.env.link.up expiryKey
    ⟨s.cert.orgId, []⟩ with he | ⟨-, he⟩ | ⟨-, he⟩
  · rw [he]
  · rw [he] at hmark
    cases hmark
  · rw [he] at hmark
    cases hmark

/-- dedup の結果と新しい印は、dedup の印だけで決まる。 -/
theorem checkAndSetDedup_congr {a a' : AlertState} (h : ∀ up, a.marks up = a'.marks up)
    (window now : Nat) (up : Bool) (key : String) (mark : Mark) :
    (a.checkAndSetDedup window now up key mark).1 = (a'.checkAndSetDedup window now up key mark).1 ∧
      ∀ up', (a.checkAndSetDedup window now up key mark).2.marks up' =
        (a'.checkAndSetDedup window now up key mark).2.marks up' := by
  obtain ⟨redis, rate, mem, memRate, calls⟩ := a
  obtain ⟨redis', rate', mem', memRate', calls'⟩ := a'
  obtain rfl : redis = redis' := h true
  obtain rfl : mem = mem' := h false
  unfold AlertState.checkAndSetDedup
  cases up with
  | true =>
    simp only [if_true]
    cases redis.get? key with
    | none => exact ⟨rfl, fun up' => by cases up' <;> rfl⟩
    | some p =>
      simp only
      split <;> exact ⟨rfl, fun up' => by cases up' <;> rfl⟩
  | false =>
    simp only [Bool.false_eq_true, if_false]
    cases mem.get? key with
    | none =>
      dsimp only
      split <;> exact ⟨rfl, fun up' => by cases up' <;> rfl⟩
    | some p =>
      dsimp only
      split <;> exact ⟨rfl, fun up' => by cases up' <;> rfl⟩

theorem openTurns_congr : ∀ {steps : List Forecast} {a a' : AlertState},
    (∀ up, a.marks up = a'.marks up) → openTurns cfg a steps = openTurns cfg a' steps
  | [], _, _, _ => rfl
  | s :: steps, a, a', h => by
    have hfree : a.keyFree cfg s.env = a'.keyFree cfg s.env := (checkAndSetDedup_congr h _ _ _ _ _).1
    have hturn : ∀ up, (a.takeTurn cfg s).marks up = (a'.takeTurn cfg s).marks up :=
      (checkAndSetDedup_congr h _ _ _ _ _).2
    rw [openTurns, openTurns, hfree, openTurns_congr hturn]

/-- `_dispatch` の付ける印は、dedup だけに付けてみた印である。 -/
theorem marks_announce {d : AlertDispatcher} {s : Forecast} (hsev : s.Severe cfg strDate)
    (up : Bool) : (announce cfg strDate d s).state.marks up = (d.state.takeTurn cfg s).marks up := by
  have hkey : groupKeyOf (s.finding strDate) = expiryKey := groupKeyOf_expiryFinding _ _ _
  have horg : (s.finding strDate).orgId.get = s.cert.orgId := Field.get_ofOption _
  have hrate := AlertDispatcher.marks_rate cfg s.env (d.gate cfg s.env (s.finding strDate) []) [] up
  have hgate : (announce cfg strDate d s).state.marks up =
      (d.gate cfg s.env (s.finding strDate) []).state.marks up := by
    show (AlertDispatcher.send _ s.env (s.finding strDate) []).state.marks up = _
    rw [AlertDispatcher.state_send]
    exact hrate
  unfold Forecast.Severe at hsev
  rw [hgate]
  unfold AlertDispatcher.gate AlertState.takeTurn
  rw [hsev, hkey, horg, if_neg (by simp)]
  dsimp only
  rcases d.state.checkAndSetDedup_cases cfg.dedupWindow s.env.now s.env.link.up expiryKey
    ⟨s.cert.orgId, []⟩ with he | ⟨-, he⟩ | ⟨-, he⟩
  · rw [he]
    rfl
  · rw [he]
    rfl
  · rw [he]
    rfl

/-- **出る alert は、key の空いているときに順番の来た証明書のものである。** -/
theorem sent_exec_announce : ∀ {steps : List Forecast} {d : AlertDispatcher},
    (∀ s ∈ steps, s.Severe cfg strDate) →
    Run.Along (announce cfg strDate) (WithinRate cfg) d steps →
    (Run.exec (announce cfg strDate) d steps).sent =
      d.sent ++ (openTurns cfg d.state steps).map (Forecast.sentAlert strDate)
  | [], d, _, _ => by simp [openTurns]
  | s :: steps, d, hsev, hrate => by
    have hs := hsev s List.mem_cons_self
    rw [Run.exec_cons, sent_exec_announce (fun x hx => hsev x (List.mem_cons_of_mem _ hx)) hrate.2,
      sent_announce cfg strDate hs hrate.1, openTurns, List.map_append, List.append_assoc,
      openTurns_congr cfg fun up => marks_announce cfg strDate (d := d) hs up]
    split <;> rfl

/-! ## 一つの窓 -/

/-- Redis の印が生きている間、key は空かない。 -/
theorem keyFree_of_redisMark {a : AlertState} {env : Env} {p : Nat × Mark}
    (hup : env.link.up = true) (hm : a.redisDedup.get? expiryKey = some p) (hlt : env.now < p.1) :
    a.keyFree cfg env = false := by
  unfold AlertState.keyFree AlertState.checkAndSetDedup
  simp only [hup, if_true, hm, if_pos hlt]

/-- 空いている key には、窓の終わりまでの印が付く。 -/
theorem redisMark_takeTurn {a : AlertState} {s : Forecast} (hup : s.env.link.up = true)
    (hfree : a.keyFree cfg s.env = true) : (a.takeTurn cfg s).redisDedup.get? expiryKey =
      some (s.env.now + cfg.dedupWindow, ⟨s.cert.orgId, []⟩) := by
  have hmark := keyFree_eq cfg a s.env ⟨s.cert.orgId, []⟩
  rw [hfree] at hmark
  unfold AlertState.takeTurn
  rcases a.checkAndSetDedup_cases cfg.dedupWindow s.env.now s.env.link.up expiryKey
    ⟨s.cert.orgId, []⟩ with he | ⟨-, he⟩ | ⟨hdown, -⟩
  · rw [he] at hmark
    cases hmark
  · rw [he]
    exact Dict.get?_set_self _ _ _
  · rw [hup] at hdown
    cases hdown

/-- 印が生きている間は、どの順番でも key は空かない。 -/
theorem openTurns_eq_nil {p : Nat × Mark} {a : AlertState}
    (hm : a.redisDedup.get? expiryKey = some p) : ∀ {steps : List Forecast},
    (∀ s ∈ steps, s.env.link.up = true ∧ s.env.now < p.1) → openTurns cfg a steps = []
  | [], _ => rfl
  | s :: steps, hs => by
    obtain ⟨hup, hlt⟩ := hs s List.mem_cons_self
    have hclosed := keyFree_of_redisMark cfg hup hm hlt
    rw [openTurns, hclosed, takeTurn_of_closed cfg hclosed,
      openTurns_eq_nil hm fun x hx => hs x (List.mem_cons_of_mem _ hx)]
    rfl

/-- Redis が応答し続けて一つの窓の中で終わる sweep。 -/
def InOneWindow (steps : List Forecast) : Prop :=
  ∃ start, ∀ s ∈ steps, s.env.link.up = true ∧ start ≤ s.env.now ∧ s.env.now < start + cfg.dedupWindow

/-- **一つの窓の中で key が空くのは、始めの印が切れてから最初の順番だけである。** -/
theorem openTurns_window {a : AlertState} : ∀ {steps : List Forecast}, InOneWindow cfg steps →
    openTurns cfg a steps = (steps.find? fun s => a.keyFree cfg s.env).toList
  | [], _ => rfl
  | s :: steps, ⟨start, hs⟩ => by
    obtain ⟨hup, hge, -⟩ := hs s List.mem_cons_self
    rw [openTurns]
    cases hfree : a.keyFree cfg s.env with
    | false =>
      rw [takeTurn_of_closed cfg hfree, List.find?_cons_of_neg (by simp [hfree]),
        openTurns_window ⟨start, fun x hx => hs x (List.mem_cons_of_mem _ hx)⟩]
      rfl
    | true =>
      rw [List.find?_cons_of_pos (p := fun s : Forecast => a.keyFree cfg s.env) hfree,
        openTurns_eq_nil cfg (redisMark_takeTurn cfg hup hfree) fun x hx => ?_]
      · rfl
      · obtain ⟨hxup, -, hxlt⟩ := hs x (List.mem_cons_of_mem _ hx)
        exact ⟨hxup, hxlt.trans_le (Nat.add_le_add_right hge _)⟩

end Announce

/-! ## sweep -/

/-- 一回の sweep の時計と失敗。 -/
structure Sweep where
  /-- `find_expiring` と、前回の alert からの時間を測る時計。 -/
  now : Nat
  /-- 証明書ごとの `_dispatch` の環境。 -/
  env : Nat → Env
  markNow : Int
  /-- 例外までに行った命令の数。 -/
  raiseAt : Option Nat := none
  /-- `mark_alerted` の commit が成功する。 -/
  commits : Bool := true

namespace Sweep

/-- `fresh`。 -/
def fresh (sw : Sweep) (certs : CertTable) (warnDays : Nat) : List (String × TrackedCert) :=
  (findExpiring certs warnDays sw.now).filter fun r => r.2.stale sw.now

/-- 順に知らせる証明書。 -/
def forecasts (sw : Sweep) (certs : CertTable) (warnDays : Nat) : List Forecast :=
  (sw.fresh certs warnDays).zipIdx.map fun p => ⟨sw.env p.2, p.1.2⟩

/-- 行う命令と、その環境。 -/
def instrs (sw : Sweep) (certs : CertTable) (warnDays : Nat) (strDate : Int → String) :
    List (Env × Instr) :=
  (sw.forecasts certs warnDays).flatMap fun s =>
    (dispatch (s.finding strDate) []).map fun i => (s.env, i)

end Sweep

/-- sweep の後の dispatcher と台帳、および `mark_alerted` が印を付けた row。 -/
structure SweepResult where
  dispatcher : AlertDispatcher
  certs : CertTable
  stamped : List (String × TrackedCert)

section Sweep

variable (cfg : Config) (strDate : Int → String)

/-- 環境のついた命令の列の実行。 -/
def runInstrs (d : AlertDispatcher) (is : List (Env × Instr)) : AlertDispatcher :=
  Run.exec (fun d i => Instr.run cfg i.1 d i.2) d is

/-- `_expiry_sweep`。例外が起きれば印を付けない。 -/
def expirySweep (warnDays : Nat) (d : AlertDispatcher) (certs : CertTable) (sw : Sweep) :
    SweepResult :=
  let fresh := sw.fresh certs warnDays
  let instrs := sw.instrs certs warnDays strDate
  match sw.raiseAt with
  | some k => ⟨runInstrs cfg d (instrs.take k), certs, []⟩
  | none =>
    let d := runInstrs cfg d instrs
    if !fresh.isEmpty && sw.commits then
      ⟨d, markAlerted certs (fresh.map Prod.fst) sw.markNow, fresh⟩
    else ⟨d, certs, []⟩

theorem runInstrs_forecasts (steps : List Forecast) (d : AlertDispatcher) :
    runInstrs cfg d (steps.flatMap fun s =>
      (dispatch (s.finding strDate) []).map fun i => (s.env, i)) =
      Run.exec (announce cfg strDate) d steps := by
  induction steps generalizing d with
  | nil => rfl
  | cons s steps ih =>
    unfold runInstrs at ih ⊢
    rw [List.flatMap_cons, Run.exec_append, ih, Run.exec_cons]
    rfl

/-- 印を付けた証明書は、例外も commit の失敗も無い sweep の `fresh` である。 -/
theorem mem_stamped {warnDays : Nat} {d : AlertDispatcher} {certs : CertTable} {sw : Sweep}
    {r : String × TrackedCert} :
    r ∈ (expirySweep cfg strDate warnDays d certs sw).stamped ↔
      sw.raiseAt = none ∧ sw.commits = true ∧ r ∈ sw.fresh certs warnDays := by
  unfold expirySweep
  simp only
  cases sw.raiseAt with
  | some k => simp
  | none =>
    simp only
    split
    · next h =>
      rw [Bool.and_eq_true] at h
      simp [h.2]
    · next h =>
      constructor
      · intro hr
        cases hr
      · rintro ⟨_, hc, hr⟩
        refine absurd ?_ h
        rw [hc, Bool.and_true]
        cases hf : sw.fresh certs warnDays with
        | nil =>
          rw [hf] at hr
          cases hr
        | cons x l => rfl

/-- 終わりまで行った sweep の alert。 -/
theorem sent_expirySweep {warnDays : Nat} {d : AlertDispatcher} {certs : CertTable} {sw : Sweep}
    (hraise : sw.raiseAt = none)
    (hsev : ∀ s ∈ sw.forecasts certs warnDays, s.Severe cfg strDate)
    (hrate : Run.Along (announce cfg strDate) (WithinRate cfg) d (sw.forecasts certs warnDays)) :
    (expirySweep cfg strDate warnDays d certs sw).dispatcher.sent =
      d.sent ++ (openTurns cfg d.state (sw.forecasts certs warnDays)).map
        (Forecast.sentAlert strDate) := by
  have hrun : (expirySweep cfg strDate warnDays d certs sw).dispatcher =
      Run.exec (announce cfg strDate) d (sw.forecasts certs warnDays) := by
    rw [← runInstrs_forecasts]
    unfold expirySweep
    simp only [hraise]
    split <;> rfl
  rw [hrun, sent_exec_announce cfg strDate hsev hrate]

/-- 知らせる証明書が、本文と organisation の同じ証明書でもある。 -/
def Forecast.Tells (s : Forecast) (r : TrackedCert) : Prop :=
  expiryDescription strDate s.cert = expiryDescription strDate r ∧ s.cert.orgId = r.orgId

instance (s : Forecast) (r : TrackedCert) : Decidable (s.Tells strDate r) :=
  inferInstanceAs (Decidable (_ ∧ _))

/-- 知らせる証明書は、`fresh` のものである。 -/
theorem Sweep.exists_fresh {sw : Sweep} {certs : CertTable} {warnDays : Nat} {s : Forecast}
    (h : s ∈ sw.forecasts certs warnDays) : ∃ r ∈ sw.fresh certs warnDays, r.2 = s.cert := by
  obtain ⟨⟨r, i⟩, hr, rfl⟩ := List.mem_map.mp h
  exact ⟨r, List.fst_mem_of_mem_zipIdx hr, rfl⟩

/-- 印の付いた証明書がすべて、その sweep の alert に名指されている。 -/
def StampedTold (warnDays : Nat) (d : AlertDispatcher) (certs : CertTable) (sw : Sweep) : Prop :=
  ∀ r ∈ (expirySweep cfg strDate warnDays d certs sw).stamped,
    ∃ x ∈ (expirySweep cfg strDate warnDays d certs sw).dispatcher.sent.drop d.sent.length,
      x.alert.Names strDate r.2

instance (warnDays : Nat) (d : AlertDispatcher) (certs : CertTable) (sw : Sweep) :
    Decidable (StampedTold cfg strDate warnDays d certs sw) := inferInstanceAs (Decidable (∀ _ ∈ _, _))

theorem stampedTold_iff {warnDays : Nat} {d : AlertDispatcher} {certs : CertTable} {sw : Sweep}
    (hsev : ∀ s ∈ sw.forecasts certs warnDays, s.Severe cfg strDate)
    (hrate : Run.Along (announce cfg strDate) (WithinRate cfg) d (sw.forecasts certs warnDays)) :
    StampedTold cfg strDate warnDays d certs sw ↔
      (sw.raiseAt = none → sw.commits = true → ∀ r ∈ sw.fresh certs warnDays,
        ∃ s ∈ openTurns cfg d.state (sw.forecasts certs warnDays), s.Tells strDate r.2) := by
  have hnew : sw.raiseAt = none → ∀ r : TrackedCert,
      ((∃ x ∈ (expirySweep cfg strDate warnDays d certs sw).dispatcher.sent.drop d.sent.length,
        x.alert.Names strDate r) ↔
        ∃ s ∈ openTurns cfg d.state (sw.forecasts certs warnDays), s.Tells strDate r) := by
    intro hraise r
    rw [sent_expirySweep cfg strDate hraise hsev hrate, List.drop_left]
    simp only [List.mem_map, exists_exists_and_eq_and]
    exact exists_congr fun s => and_congr_right fun _ =>
      names_of_expiryFinding strDate s.cert r s.env.now
  constructor
  · intro h hraise hcommit r hr
    exact (hnew hraise r.2).mp (h r ((mem_stamped cfg strDate).mpr ⟨hraise, hcommit, hr⟩))
  · intro h r hr
    obtain ⟨hraise, hcommit, hm⟩ := (mem_stamped cfg strDate).mp hr
    exact (hnew hraise r.2).mpr (h hraise hcommit r hm)

/-- **一つの窓の中で終わる sweep。** どの証明書も知らされるのは、本文も organisation も同じときだけである。 -/
theorem toldAll_window_iff {warnDays : Nat} {a : AlertState} {certs : CertTable} {sw : Sweep}
    (hwindow : InOneWindow cfg (sw.forecasts certs warnDays)) :
    (∀ r ∈ sw.fresh certs warnDays, ∃ s ∈ openTurns cfg a (sw.forecasts certs warnDays),
      s.Tells strDate r.2) ↔
      (sw.fresh certs warnDays ≠ [] → ∃ s ∈ sw.forecasts certs warnDays,
        a.keyFree cfg s.env = true ∧ ∀ r ∈ sw.fresh certs warnDays, s.Tells strDate r.2) := by
  rw [openTurns_window cfg hwindow]
  constructor
  · intro h hne
    obtain ⟨r₀, hr₀⟩ := List.exists_mem_of_ne_nil _ hne
    obtain ⟨s, hs, -⟩ := h r₀ hr₀
    have hfind := Option.mem_toList.mp hs
    have hfree : a.keyFree cfg s.env = true :=
      List.find?_some (p := fun s : Forecast => a.keyFree cfg s.env) hfind
    refine ⟨s, List.mem_of_find?_eq_some hfind, hfree, fun r hr => ?_⟩
    obtain ⟨s', hs', htells⟩ := h r hr
    obtain rfl : s = s' := Option.some.inj (hfind.symm.trans (Option.mem_toList.mp hs'))
    exact htells
  · intro h r hr
    obtain ⟨s, hs, hfree, hall⟩ := h (List.ne_nil_of_mem hr)
    have hsome : (List.find? (fun s => a.keyFree cfg s.env) (sw.forecasts certs warnDays)).isSome :=
      List.find?_isSome.mpr ⟨s, hs, hfree⟩
    obtain ⟨s', hs'⟩ := Option.isSome_iff_exists.mp hsome
    refine ⟨s', Option.mem_toList.mpr hs', ?_⟩
    -- 先に順番の来た証明書も、同じ本文と organisation を持つ
    obtain ⟨r', hr', hcert⟩ := Sweep.exists_fresh (List.mem_of_find?_eq_some hs')
    have hfirst := hall r' hr'
    rw [hcert] at hfirst
    exact ⟨hfirst.1.symm.trans (hall r hr).1, hfirst.2.symm.trans (hall r hr).2⟩

/--
**期限の sweep。** 例外と commit の失敗の無い sweep で、印の付いた証明書がすべてその sweep の alert に名指されているのは、
`fresh` のどの証明書も、全証明書に共通の dedup の key の空いている順番の証明書と、同じ本文と organisation を持つときで
ある。Redis が応答し続けて一つの窓の中で終わる sweep では、始めの印の切れてから順番の来る証明書があり、`fresh` がどれも
それと同じ本文と organisation を持つときである。
-/
theorem expirySweep_announces_iff (warnDays : Nat) (d : AlertDispatcher) (certs : CertTable)
    (sw : Sweep) (hsev : ∀ s ∈ sw.forecasts certs warnDays, s.Severe cfg strDate)
    (hrate : Run.Along (announce cfg strDate) (WithinRate cfg) d (sw.forecasts certs warnDays)) :
    (StampedTold cfg strDate warnDays d certs sw ↔
      (sw.raiseAt = none → sw.commits = true → ∀ r ∈ sw.fresh certs warnDays,
        ∃ s ∈ openTurns cfg d.state (sw.forecasts certs warnDays), s.Tells strDate r.2)) ∧
    (InOneWindow cfg (sw.forecasts certs warnDays) →
      (StampedTold cfg strDate warnDays d certs sw ↔
        (sw.raiseAt = none → sw.commits = true → sw.fresh certs warnDays ≠ [] →
          ∃ s ∈ sw.forecasts certs warnDays, d.state.keyFree cfg s.env = true ∧
            ∀ r ∈ sw.fresh certs warnDays, s.Tells strDate r.2))) := by
  have htold := stampedTold_iff cfg strDate hsev hrate
  refine ⟨htold, fun hwindow => htold.trans ?_⟩
  exact imp_congr_right fun _ => imp_congr_right fun _ => toldAll_window_iff cfg strDate hwindow

end Sweep

/-- 期限の切れた証明書。 -/
def sampleCert (cn : String) : TrackedCert where
  orgId := none
  subjectCn := cn
  issuerCn := "ca"
  notAfter := some 0
  firstSeen := 0
  lastSeen := 0
  seenCount := 1
  expiryAlertedAt := none

/-- 一つの時刻の sweep。 -/
def sampleSweep : Sweep := { now := 100000, env := fun _ => { now := 100000 }, markNow := 100000 }

/-- 二つの台帳の row が、同じ本文の証明書である。 -/
def twinCerts : CertTable :=
  (Dict.empty.set "fp1" (sampleCert "mx")).set "fp2" (sampleCert "mx")

/-- 本文と organisation の同じ証明書は、一つの alert で知らされ、どちらにも印が付く。 -/
theorem expirySweep_announces_twins :
    (expirySweep {} toString 30 {} twinCerts sampleSweep).stamped.length = 2 ∧
      (expirySweep {} toString 30 {} twinCerts sampleSweep).dispatcher.sent.length = 1 ∧
      StampedTold {} toString 30 {} twinCerts sampleSweep := by
  refine ⟨by decide +kernel, by decide +kernel, ?_⟩
  have hwindow : InOneWindow {} (sampleSweep.forecasts twinCerts 30) := ⟨100000, by decide +kernel⟩
  refine ((expirySweep_announces_iff {} toString 30 {} twinCerts sampleSweep (by decide +kernel)
    (by decide +kernel)).2 hwindow).mpr fun _ _ _ => ?_
  exact ⟨⟨sampleSweep.env 0, sampleCert "mx"⟩, List.mem_cons_self, by decide +kernel,
    by decide +kernel⟩

/-- 同じ sweep の二つ目の証明書は、知らされないまま印が付く。 -/
theorem expirySweep_stamps_silently :
    ¬StampedTold {} toString 30 {}
      ((Dict.empty.set "fp1" (sampleCert "mx1")).set "fp2" (sampleCert "mx2")) sampleSweep := by
  decide +kernel

end CipherPost.Live
