import CipherPost.Live.AlertInvariants

/-!
# 記録を添えた dispatcher

dispatcher の run に、code の判断には使わない記録を添える。記録は命令一つごとに進み、process が
止まっても消えない。

* `Unsent` — dedup と rate の状態も、出した alert も変えない命令
* `Watched.step` — 記録を添えた一歩。記録を忘れれば `AlertDispatcher.step` である
* `Calls` — 呼び出しが実際に行う命令の列についての条件
* `Watched.invariant_isPrefix` — 呼び出しごとに保つ不変量は、run のどこでも成り立つ
-/

namespace CipherPost.Live

/-! ## `_dispatch` の外の命令 -/

/-- dedup と rate の状態も、出した alert も変えない。 -/
structure Unsent (d d' : AlertDispatcher) : Prop where
  state : d'.state = d.state
  live : d'.live = d.live
  sent : d'.sent = d.sent

/-- `_dispatch` の命令である。 -/
def Instr.dispatches : Instr → Bool
  | .gate _ _ | .rate _ | .send _ _ => true
  | _ => false

namespace AlertDispatcher

variable (cfg : Config) (env : Env)

theorem unsent_run (d : AlertDispatcher) {i : Instr} (h : i.dispatches = false) :
    Unsent d (i.run cfg env d) := by
  cases i with
  | stash e key org item =>
    show Unsent d (d.stash env e key org item)
    unfold stash
    split
    · simp only
      split <;> exact ⟨rfl, rfl, rfl⟩
    · exact ⟨rfl, rfl, rfl⟩
  | takeStash key =>
    show Unsent d (d.takeStash env key)
    unfold takeStash
    split <;> exact ⟨rfl, rfl, rfl⟩
  | gate f ms => cases h
  | rate ms => cases h
  | send f ms => cases h
  | _ => exact ⟨rfl, rfl, rfl⟩

variable {cfg env} {d : AlertDispatcher} {f : Finding} {ms : List Member}

/-- `_dispatch` の途中でなければ、rate は何もしない。 -/
theorem rate_of_not_live (h : d.live = false) : d.rate cfg env ms = d := by
  unfold rate
  simp [h]

/-- `_dispatch` の途中でなければ、何も出さない。 -/
theorem send_of_not_live (h : d.live = false) : d.send env f ms = d := by
  unfold send
  simp [h]

theorem send_of_live (h : d.live = true) : d.send env f ms =
    { d with sent := d.sent ++ [⟨Alert.of f env.now, ms⟩], live := false } := by
  unfold send
  rw [if_pos h]

variable (cfg env) in
/-- `check_and_set_dedup` の、`f` についての答えと後の状態。 -/
def dedup (d : AlertDispatcher) (f : Finding) (ms : List Member) : Bool × AlertState :=
  d.state.checkAndSetDedup cfg.dedupWindow env.now env.link.up (groupKeyOf f) ⟨f.orgId.get, ms⟩

/-- 閾値を越えない finding と重複は、`_dispatch` をそこで終える。 -/
theorem unsent_gate (hl : d.live = false)
    (h : env.shouldAlert cfg f = false ∨ (d.dedup cfg env f ms).1 = false) :
    Unsent d (d.gate cfg env f ms) := by
  unfold gate
  split
  · exact ⟨rfl, hl.symm, rfl⟩
  · next hs =>
    have hdup := h.resolve_left hs
    unfold dedup at hdup
    simp only [hdup, Bool.false_eq_true, if_false]
    exact ⟨rfl, hl.symm, rfl⟩

/-- 新しい key なら、印を付けて先へ進む。 -/
theorem gate_of_fresh (hs : env.shouldAlert cfg f = true) (h : (d.dedup cfg env f ms).1 = true) :
    d.gate cfg env f ms = { d with state := (d.dedup cfg env f ms).2, live := true } := by
  unfold dedup at h ⊢
  unfold gate
  simp only [hs, Bool.true_eq_false, if_false, h, if_true]

/-- 予算の内なら、rate は先へ進ませる。 -/
theorem rate_of_admitted (hl : d.live = true)
    (h : (d.state.checkRate cfg.ratePerMinute env.rateClock env.pid env.link.up).1 = true) :
    d.rate cfg env ms = { d with
      state := (d.state.checkRate cfg.ratePerMinute env.rateClock env.pid env.link.up).2 } := by
  unfold rate
  simp only [hl, h, if_true]

variable (cfg env) in
/-- `f` の `_dispatch` は alert を出す。 -/
def Passes (d : AlertDispatcher) (f : Finding) (ms : List Member) : Prop :=
  env.shouldAlert cfg f = true ∧ (d.dedup cfg env f ms).1 = true ∧
    ((d.dedup cfg env f ms).2.checkRate cfg.ratePerMinute env.rateClock env.pid env.link.up).1 = true

instance (d : AlertDispatcher) (f : Finding) (ms : List Member) :
    Decidable (d.Passes cfg env f ms) := inferInstanceAs (Decidable (_ ∧ _ ∧ _))

/-- 三つの検査を通った finding は、予算を使って `send` まで届く。 -/
theorem rate_gate_of_passes (h : d.Passes cfg env f ms) :
    (d.gate cfg env f ms).rate cfg env ms =
      { d with
        state := ((d.dedup cfg env f ms).2.checkRate cfg.ratePerMinute env.rateClock env.pid
          env.link.up).2
        live := true } := by
  have hgate := gate_of_fresh h.1 h.2.1
  have hrate : rate { d with state := (d.dedup cfg env f ms).2, live := true } cfg env ms = _ :=
    rate_of_admitted rfl h.2.2
  rw [hgate, hrate]

theorem live_of_passes (h : d.Passes cfg env f ms) :
    ((d.gate cfg env f ms).rate cfg env ms).live = true := by
  rw [rate_gate_of_passes h]

/-- 三つの検査を通った finding は、alert になる。 -/
theorem exec_dispatch (h : d.Passes cfg env f ms) :
    Run.exec (Instr.run cfg env) d (dispatch f ms) =
      { d with
        state := ((d.dedup cfg env f ms).2.checkRate cfg.ratePerMinute env.rateClock env.pid
          env.link.up).2
        sent := d.sent ++ [⟨Alert.of f env.now, ms⟩]
        live := false } := by
  show ((d.gate cfg env f ms).rate cfg env ms).send env f ms = _
  rw [send_of_live (live_of_passes h), rate_gate_of_passes h]

end AlertDispatcher

namespace AlertDispatcher

theorem sent_gate (cfg : Config) (env : Env) (d : AlertDispatcher) (f : Finding)
    (ms : List Member) : (d.gate cfg env f ms).sent = d.sent := by
  unfold gate
  split
  · rfl
  · simp only
    split <;> rfl

theorem sent_rate (cfg : Config) (env : Env) (d : AlertDispatcher) (ms : List Member) :
    (d.rate cfg env ms).sent = d.sent := by
  unfold rate
  split
  · simp only
    split <;> rfl
  · rfl

end AlertDispatcher

/-! ## 記録 -/

/-- dispatcher と、添えた記録。 -/
structure Watched (γ : Type) where
  dispatcher : AlertDispatcher := {}
  record : γ

namespace Watched

variable {γ : Type} (note : Config → Env → AlertDispatcher → Instr → γ → γ)
variable (cfg : Config) (content : EntryId → Payload)

/-- 命令一つの実行。 -/
def run (env : Env) (w : Watched γ) (i : Instr) : Watched γ :=
  ⟨i.run cfg env w.dispatcher, note cfg env w.dispatcher i w.record⟩

/-- 再起動。記録は残る。 -/
def restart (w : Watched γ) : Watched γ := { w with dispatcher := w.dispatcher.restart }

/-- 命令の列を行い、process が止まればメモリを消す。 -/
def perform (w : Watched γ) (env : Env) (fault : Fault) (is : List Instr) : Watched γ :=
  let w := Run.exec (run note cfg env) w is
  if fault.crashes then w.restart else w

/-- 事象一つ。 -/
def step (w : Watched γ) : Event → Watched γ
  | .entry e env fault =>
    w.perform note cfg env fault (w.dispatcher.handleEntry cfg e (content e) env fault)
  | .idle env fault =>
    w.perform note cfg env fault (fault.cut (w.dispatcher.idleFlush env) [] [])
  | .digest org env fault =>
    w.perform note cfg env fault (fault.cut (w.dispatcher.flushDigests org env) [] [])
  | .direct f env fault => w.perform note cfg env fault (fault.cut (dispatch f []) [] [])
  | .restart => w.restart

/-- dispatcher も記録も変えない命令。 -/
theorem run_eq_self {env : Env} {w : Watched γ} {i : Instr}
    (hd : i.run cfg env w.dispatcher = w.dispatcher)
    (hr : note cfg env w.dispatcher i w.record = w.record) : w.run note cfg env i = w := by
  unfold run
  rw [hd, hr]

/-! ## 記録を忘れた run -/

theorem dispatcher_exec_run (env : Env) (w : Watched γ) (is : List Instr) :
    (Run.exec (run note cfg env) w is).dispatcher
      = Run.exec (Instr.run cfg env) w.dispatcher is :=
  (List.foldl_hom dispatcher (fun _ _ => rfl)).symm

theorem dispatcher_perform (w : Watched γ) (env : Env) (fault : Fault) (is : List Instr) :
    (w.perform note cfg env fault is).dispatcher = w.dispatcher.perform cfg env fault is := by
  unfold perform AlertDispatcher.perform
  rw [← dispatcher_exec_run note]
  simp only
  split <;> rfl

/-- 記録を忘れれば、dispatcher の一歩である。 -/
theorem dispatcher_step (w : Watched γ) (ev : Event) :
    (w.step note cfg content ev).dispatcher = w.dispatcher.step cfg content ev := by
  cases ev with
  | restart => rfl
  | _ => exact dispatcher_perform note cfg w _ _ _

/-- 記録を忘れれば、dispatcher の run である。 -/
theorem dispatcher_exec (w : Watched γ) (es : List Event) :
    (Run.exec (step note cfg content) w es).dispatcher
      = Run.exec (AlertDispatcher.step cfg content) w.dispatcher es :=
  (List.foldl_hom dispatcher fun w ev => (dispatcher_step note cfg content w ev).symm).symm

end Watched

/-! ## 呼び出しごとの不変量 -/

/-- 事象の呼び出しが実際に行う命令の列は、条件 `C` を満たす。 -/
def Calls (cfg : Config) (content : EntryId → Payload)
    (C : Env → AlertDispatcher → List Instr → Prop) (d : AlertDispatcher) : Event → Prop
  | .entry e env fault => C env d (d.handleEntry cfg e (content e) env fault)
  | .idle env fault => C env d (fault.cut (d.idleFlush env) [] [])
  | .digest org env fault => C env d (fault.cut (d.flushDigests org env) [] [])
  | .direct f env fault => C env d (fault.cut (dispatch f []) [] [])
  | .restart => True

namespace Watched

variable {γ : Type} {note : Config → Env → AlertDispatcher → Instr → γ → γ}
variable {cfg : Config} {content : EntryId → Payload}
variable {C : Env → AlertDispatcher → List Instr → Prop} {I : Watched γ → Prop}

/-- 条件を満たす命令の列と再起動が保つ不変量は、事象一つが保つ。 -/
theorem invariant_step
    (hcall : ∀ env w is, I w → C env w.dispatcher is → I (Run.exec (run note cfg env) w is))
    (hrestart : ∀ w, I w → I w.restart) {w : Watched γ} {ev : Event} (hi : I w)
    (hc : Calls cfg content C w.dispatcher ev) : I (w.step note cfg content ev) := by
  have hperform : ∀ env fault is, C env w.dispatcher is → I (w.perform note cfg env fault is) := by
    intro env fault is h
    have hexec := hcall env w is hi h
    unfold perform
    simp only
    split
    · exact hrestart _ hexec
    · exact hexec
  cases ev with
  | restart => exact hrestart w hi
  | entry e env fault => exact hperform env fault _ hc
  | idle env fault => exact hperform env fault _ hc
  | digest org env fault => exact hperform env fault _ hc
  | direct f env fault => exact hperform env fault _ hc

/-- **呼び出しごとに保つ不変量は、run のどこでも成り立つ。** -/
theorem invariant_isPrefix
    (hcall : ∀ env w is, I w → C env w.dispatcher is → I (Run.exec (run note cfg env) w is))
    (hrestart : ∀ w, I w → I w.restart) {w : Watched γ} {es pre : List Event} (hi : I w)
    (hc : Run.Along (AlertDispatcher.step cfg content) (Calls cfg content C) w.dispatcher es)
    (hp : pre <+: es) : I (Run.exec (step note cfg content) w pre) := by
  have hmap : Run.Along (step note cfg content)
      (fun w => Calls cfg content C w.dispatcher) w es :=
    Run.Along.map Watched.dispatcher (dispatcher_step note cfg content) hc
  exact hmap.invariant_isPrefix (fun _ _ h hc => invariant_step hcall hrestart h hc) hi hp

/-- 命令一つが保つ不変量は、run のどこでも成り立つ。 -/
theorem invariant_exec (hrun : ∀ env w i, I w → I (run note cfg env w i))
    (hrestart : ∀ w, I w → I w.restart) {w : Watched γ} (hi : I w) (es : List Event) :
    I (Run.exec (step note cfg content) w es) :=
  invariant_isPrefix (C := fun _ _ _ => True)
    (fun env _ is h _ => Run.invariant (hrun env) is h) hrestart hi
    (Run.along_of_forall (fun _ ev => by cases ev <;> trivial) es _) (List.prefix_refl es)

end Watched

end CipherPost.Live
