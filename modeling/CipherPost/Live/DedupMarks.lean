import CipherPost.Live.Watched

/-!
# dedup の印と、出た alert

`_dispatch` は、dedup の印を付けてから rate の予算を調べる。予算が尽きていれば alert は出ないが、
印は残り、窓の間に来た同じ key の finding は重複として落ちる。

* `Entry` — key ごとの、出た alert と落ちた finding の記録
* `sentAt_record` — 記録にある alert は、run で出た alert である
* `Justified` — 重複として落ちるのは、窓の内に同じ key の alert が出ているときだけである
* `Honoured` — 新しい key の alert が、どれも予算の内で、途切れずに出る呼び出し
* `dropped_justified` — どの呼び出しもそうである run では、落ちた finding に先立つ alert がある
-/

namespace CipherPost.Live

/-! ## 記録 -/

/-- dispatcher がしたこと。 -/
inductive Entry where
  /-- `key` の alert を、時刻 `now` に channel へ出した。 -/
  | dispatched (key : String) (now : Nat)
  /-- `key` の finding を、時刻 `now` に重複として落とした。 -/
  | dropped (key : String) (now : Nat)
  deriving DecidableEq

namespace AlertDispatcher

variable (cfg : Config) (env : Env)

/-- 命令 `i` のすることを書き足した記録。 -/
def note (d : AlertDispatcher) (i : Instr) (l : List Entry) : List Entry :=
  match i with
  | .gate f ms =>
    if env.shouldAlert cfg f = true ∧ (d.dedup cfg env f ms).1 = false then
      l ++ [.dropped (groupKeyOf f) env.now]
    else l
  | .send f _ => if d.live then l ++ [.dispatched (groupKeyOf f) env.now] else l
  | _ => l

end AlertDispatcher

/-- alert を出した時刻。 -/
def Entry.sentAt : Entry → Option Nat
  | dispatched _ now => some now
  | dropped _ _ => none

/-- **記録にある alert は、run で出た alert である。** -/
theorem sentAt_record (cfg : Config) (content : EntryId → Payload) (es : List Event) :
    (Run.exec (Watched.step AlertDispatcher.note cfg content) ⟨{}, []⟩ es).record.filterMap
        Entry.sentAt
      = (Run.exec (AlertDispatcher.step cfg content) {} es).sent.map fun s => s.alert.ts := by
  rw [← Watched.dispatcher_exec AlertDispatcher.note cfg content ⟨{}, []⟩ es]
  refine Watched.invariant_exec
    (I := fun w : Watched (List Entry) =>
      w.record.filterMap Entry.sentAt = w.dispatcher.sent.map fun s => s.alert.ts)
    (fun env w i hw => ?_) (fun _ h => h) rfl es
  show (AlertDispatcher.note cfg env w.dispatcher i w.record).filterMap Entry.sentAt
    = (i.run cfg env w.dispatcher).sent.map fun s => s.alert.ts
  cases i with
  | gate f ms =>
    show _ = (w.dispatcher.gate cfg env f ms).sent.map _
    rw [AlertDispatcher.sent_gate, ← hw]
    unfold AlertDispatcher.note
    simp only
    split <;> simp [Entry.sentAt]
  | rate ms =>
    show _ = (w.dispatcher.rate cfg env ms).sent.map _
    rw [AlertDispatcher.sent_rate]
    exact hw
  | send f ms =>
    show _ = (w.dispatcher.send env f ms).sent.map _
    unfold AlertDispatcher.note AlertDispatcher.send
    simp only
    split <;> simp [Entry.sentAt, hw, Alert.of]
  | _ =>
    rw [(w.dispatcher.unsent_run cfg env rfl).sent]
    exact hw

/-- 重複として落とした記録の前に、窓の内に同じ key の alert を出した記録がある。 -/
def Justified (cfg : Config) (l : List Entry) : Prop :=
  ∀ pre key t, pre ++ [.dropped key t] <+: l →
    ∃ t', .dispatched key t' ∈ pre ∧ t < t' + cfg.dedupWindow

theorem justified_nil (cfg : Config) : Justified cfg [] := by
  intro pre key t h
  simp at h

theorem Justified.concat {cfg : Config} {l : List Entry} {x : Entry} (h : Justified cfg l)
    (hx : ∀ key t, x = .dropped key t →
      ∃ t', .dispatched key t' ∈ l ∧ t < t' + cfg.dedupWindow) : Justified cfg (l ++ [x]) := by
  intro pre key t hpre
  rcases List.prefix_concat_iff.mp hpre with heq | hpre
  · obtain ⟨rfl, hlast⟩ := List.append_inj' heq rfl
    exact hx key t (List.singleton_inj.mp hlast).symm
  · exact h pre key t hpre

/-! ## 条件 -/

namespace AlertDispatcher

variable (cfg : Config) (env : Env)

/--
`_dispatch` が閾値を越えた finding について満たすこと。Redis が落ちていてメモリに印の無い key なら、
時計は窓より先にある（印の無い key は、時刻 0 の印と同じに扱われる）。新しい key の alert は予算の内で、
例外にも停止にも遭わずに出る。
-/
def Admits (d : AlertDispatcher) (i : Instr) (rest : List Instr) : Prop :=
  match i with
  | .gate f ms => env.shouldAlert cfg f = true →
    (env.link.up = true ∨ (d.state.memDedup.get? (groupKeyOf f)).isSome ∨
      cfg.dedupWindow ≤ env.now) ∧
    ((d.dedup cfg env f ms).1 = true →
      ((d.dedup cfg env f ms).2.checkRate cfg.ratePerMinute env.rateClock env.pid env.link.up).1 = true ∧
      [.rate ms, .send f ms] <+: rest)
  | _ => True

instance decidableAdmits (d : AlertDispatcher) (i : Instr) (rest : List Instr) :
    Decidable (d.Admits cfg env i rest) :=
  match i with
  | .gate _ _ => inferInstanceAs (Decidable (_ → _))
  | .consumer _ | .outcome _ _ | .stash _ _ _ _ | .takeStash _ | .add _ | .flush | .rate _
  | .send _ _ => .isTrue trivial

/-- 命令の列の、どの `_dispatch` も `Admits` を満たす。 -/
def Honoured (d : AlertDispatcher) (is : List Instr) : Prop :=
  Run.Ahead (Instr.run cfg env) (Admits cfg env) d is

/-! ## 印の裏付け -/

/-- どの印にも、同じ key の alert を出した記録があり、印の期限はその窓の終わりを越えない。 -/
def Backed (d : AlertDispatcher) (l : List Entry) : Prop :=
  ∀ up key p, (d.state.marks up).get? key = some p →
    ∃ t, .dispatched key t ∈ l ∧
      (if up then p.1 else p.1 + cfg.dedupWindow) ≤ t + cfg.dedupWindow

variable {cfg env} {d : AlertDispatcher} {l : List Entry} {f : Finding} {ms : List Member}

/-- 重複とされた key には、窓の内に出した alert の記録がある。 -/
theorem Backed.of_dup (h : d.Backed cfg l) (hdup : (d.dedup cfg env f ms).1 = false)
    (hclock : env.link.up = true ∨ (d.state.memDedup.get? (groupKeyOf f)).isSome ∨
      cfg.dedupWindow ≤ env.now) :
    ∃ t, .dispatched (groupKeyOf f) t ∈ l ∧ env.now < t + cfg.dedupWindow := by
  unfold dedup AlertState.checkAndSetDedup at hdup
  cases hup : env.link.up with
  | true =>
    simp only [hup, if_true] at hdup
    cases hget : d.state.redisDedup.get? (groupKeyOf f) with
    | none => simp [hget] at hdup
    | some p =>
      obtain ⟨t, ht, hle⟩ := h true _ p hget
      have hlt : env.now < p.1 := by
        by_contra hn
        simp [hget, hn] at hdup
      exact ⟨t, ht, Nat.lt_of_lt_of_le hlt hle⟩
  | false =>
    simp only [hup, Bool.false_eq_true, if_false] at hdup
    cases hget : d.state.memDedup.get? (groupKeyOf f) with
    | none =>
      simp only [hup, hget, Option.isSome_none, Bool.false_eq_true, false_or] at hclock
      simp only [hget, Nat.zero_add, Nat.not_lt.mpr hclock, if_false] at hdup
      cases hdup
    | some p =>
      obtain ⟨t, ht, hle⟩ := h false _ p hget
      have hlt : env.now < p.1 + cfg.dedupWindow := by
        by_contra hn
        simp [hget, hn] at hdup
      exact ⟨t, ht, Nat.lt_of_lt_of_le hlt hle⟩

theorem Backed.append (h : d.Backed cfg l) (l' : List Entry) : d.Backed cfg (l ++ l') := by
  intro up key p hp
  obtain ⟨t, ht, hle⟩ := h up key p hp
  exact ⟨t, List.mem_append_left _ ht, hle⟩

theorem Backed.congr {d' : AlertDispatcher} (h : d.Backed cfg l) (hd : d'.state = d.state) :
    d'.Backed cfg l := by
  intro up key p hp
  rw [hd] at hp
  exact h up key p hp

/-- 印を付けた alert を出せば、印はどれも裏付けられたままである。 -/
theorem Backed.dispatched {d' : AlertDispatcher} (h : d.Backed cfg l) (ms : List Member)
    (hd : ∀ up, d'.state.marks up = (d.dedup cfg env f ms).2.marks up) :
    d'.Backed cfg (l ++ [.dispatched (groupKeyOf f) env.now]) := by
  have hset : ∀ (up : Bool) (x : Nat) (mark : Mark) (key : String) (p : Nat × Mark),
      (if up then x else x + cfg.dedupWindow) ≤ env.now + cfg.dedupWindow →
      ((d.state.marks up).set (groupKeyOf f) (x, mark)).get? key = some p →
      ∃ t, .dispatched key t ∈ l ++ [.dispatched (groupKeyOf f) env.now] ∧
        (if up then p.1 else p.1 + cfg.dedupWindow) ≤ t + cfg.dedupWindow := by
    intro up x mark key p hx hp
    rw [Dict.get?_set] at hp
    split at hp
    · next hk =>
      obtain rfl := Option.some.inj hp
      exact ⟨env.now, List.mem_append_right _ (by rw [hk]; exact List.mem_singleton_self _), hx⟩
    · exact h.append _ up key p hp
  have hold := h.append [.dispatched (groupKeyOf f) env.now]
  intro up key p hp
  rw [hd up] at hp
  unfold dedup at hp
  rcases AlertState.checkAndSetDedup_cases d.state cfg.dedupWindow env.now env.link.up
    (groupKeyOf f) ⟨f.orgId.get, ms⟩ with he | ⟨-, he⟩ | ⟨-, he⟩
  · rw [he] at hp
    exact hold up key p hp
  · rw [he] at hp
    cases up with
    | true => exact hset true _ _ key p (Nat.le_refl _) hp
    | false => exact hold false key p hp
  · rw [he] at hp
    cases up with
    | true => exact hold true key p hp
    | false => exact hset false _ _ key p (Nat.le_refl _) (AlertState.get?_of_get?_evict hp)

end AlertDispatcher

/-! ## run の不変量 -/

/-- `_dispatch` の途中でないときの不変量。 -/
structure Sound (cfg : Config) (w : Watched (List Entry)) : Prop where
  backed : w.dispatcher.Backed cfg w.record
  justified : Justified cfg w.record
  idle : w.dispatcher.live = false

theorem sound_init (cfg : Config) : Sound cfg ⟨{}, []⟩ where
  backed := by
    intro up key p hp
    cases up <;> cases hp
  justified := justified_nil cfg
  idle := rfl

/-- 再起動は、メモリの印を消すだけである。 -/
theorem Sound.restart {cfg : Config} {w : Watched (List Entry)} (h : Sound cfg w) :
    Sound cfg w.restart where
  backed := by
    intro up key p hp
    cases up with
    | true => exact h.backed true key p hp
    | false => cases hp
  justified := h.justified
  idle := rfl

section Block

variable {cfg : Config} {env : Env} {w : Watched (List Entry)}

/-- dedup の状態も記録も変えない命令。 -/
theorem Sound.quiet (h : Sound cfg w) {i : Instr}
    (hd : Unsent w.dispatcher (i.run cfg env w.dispatcher))
    (hnote : AlertDispatcher.note cfg env w.dispatcher i w.record = w.record) :
    Sound cfg (w.run AlertDispatcher.note cfg env i) where
  backed := by
    show AlertDispatcher.Backed cfg _ (AlertDispatcher.note cfg env w.dispatcher i w.record)
    rw [hnote]
    exact h.backed.congr hd.state
  justified := by
    show Justified cfg (AlertDispatcher.note cfg env w.dispatcher i w.record)
    rw [hnote]
    exact h.justified
  idle := hd.live.trans h.idle

/-- 重複は、裏付けのある印のために落ちる。 -/
theorem Sound.dropped (h : Sound cfg w) {f : Finding} {ms : List Member}
    (hs : env.shouldAlert cfg f = true)
    (hdup : (w.dispatcher.dedup cfg env f ms).1 = false)
    (hclock : env.link.up = true ∨ (w.dispatcher.state.memDedup.get? (groupKeyOf f)).isSome ∨
      cfg.dedupWindow ≤ env.now) :
    Sound cfg (w.run AlertDispatcher.note cfg env (.gate f ms)) := by
  have hd := AlertDispatcher.unsent_gate h.idle (Or.inr hdup)
  have hnote : AlertDispatcher.note cfg env w.dispatcher (.gate f ms) w.record
      = w.record ++ [.dropped (groupKeyOf f) env.now] := if_pos ⟨hs, hdup⟩
  refine ⟨?_, ?_, hd.live.trans h.idle⟩
  · show AlertDispatcher.Backed cfg _
      (AlertDispatcher.note cfg env w.dispatcher (.gate f ms) w.record)
    rw [hnote]
    exact (h.backed.append _).congr hd.state
  · show Justified cfg (AlertDispatcher.note cfg env w.dispatcher (.gate f ms) w.record)
    rw [hnote]
    refine h.justified.concat fun key t he => ?_
    obtain ⟨rfl, rfl⟩ := Entry.dropped.inj he
    exact h.backed.of_dup hdup hclock

/-- 新しい key の alert が予算の内で途切れずに出れば、付けた印は裏付けられる。 -/
theorem Sound.dispatched (h : Sound cfg w) {f : Finding} {ms : List Member}
    (hpass : w.dispatcher.Passes cfg env f ms) :
    Sound cfg (Run.exec (Watched.run AlertDispatcher.note cfg env) w (dispatch f ms)) := by
  have hdisp := AlertDispatcher.exec_dispatch hpass
  rw [← Watched.dispatcher_exec_run AlertDispatcher.note] at hdisp
  have hrecord : (Run.exec (Watched.run AlertDispatcher.note cfg env) w (dispatch f ms)).record =
      w.record ++ [.dispatched (groupKeyOf f) env.now] := by
    have hgate : AlertDispatcher.note cfg env w.dispatcher (.gate f ms) w.record = w.record :=
      if_neg fun hn => by simp [hpass.2.1] at hn
    show AlertDispatcher.note cfg env ((w.dispatcher.gate cfg env f ms).rate cfg env ms) (.send f ms)
      (AlertDispatcher.note cfg env w.dispatcher (.gate f ms) w.record) = _
    rw [hgate]
    exact if_pos (AlertDispatcher.live_of_passes hpass)
  refine ⟨?_, ?_, ?_⟩
  · rw [hdisp, hrecord]
    exact h.backed.dispatched ms fun up => AlertState.marks_checkRate _ _ _ _ _ up
  · rw [hrecord]
    exact h.justified.concat fun key t he => by cases he
  · rw [hdisp]

/-- **まとまり一つ。** 条件を満たす命令から始めて、`_dispatch` の終わりまで進めば、不変量に戻る。 -/
theorem Sound.block (h : Sound cfg w) (i : Instr) (rest : List Instr)
    (ha : w.dispatcher.Admits cfg env i rest) : ∃ block rest', rest = block ++ rest' ∧
      Sound cfg (Run.exec (Watched.run AlertDispatcher.note cfg env) w (i :: block)) := by
  have hquiet : Unsent w.dispatcher (i.run cfg env w.dispatcher) →
      AlertDispatcher.note cfg env w.dispatcher i w.record = w.record →
      ∃ block rest', rest = block ++ rest' ∧
        Sound cfg (Run.exec (Watched.run AlertDispatcher.note cfg env) w (i :: block)) :=
    fun hd hn => ⟨[], rest, rfl, h.quiet hd hn⟩
  have hsame : ∀ d', d' = w.dispatcher → Unsent w.dispatcher d' := by
    rintro _ rfl
    exact ⟨rfl, rfl, rfl⟩
  cases i with
  | rate ms => exact hquiet (hsame _ (AlertDispatcher.rate_of_not_live h.idle)) rfl
  | send f ms =>
    refine hquiet (hsame _ (AlertDispatcher.send_of_not_live h.idle)) ?_
    simp [AlertDispatcher.note, h.idle]
  | gate f ms =>
    cases hs : env.shouldAlert cfg f with
    | false =>
      refine hquiet (AlertDispatcher.unsent_gate h.idle (Or.inl hs)) ?_
      simp [AlertDispatcher.note, hs]
    | true =>
      obtain ⟨hclock, hfresh⟩ := ha hs
      cases hdup : (w.dispatcher.dedup cfg env f ms).1 with
      | false => exact ⟨[], rest, rfl, h.dropped hs hdup hclock⟩
      | true =>
        obtain ⟨hrate, rest', hrest⟩ := hfresh hdup
        exact ⟨_, rest', hrest.symm, h.dispatched ⟨hs, hdup, hrate⟩⟩
  | _ => exact hquiet (w.dispatcher.unsent_run cfg env rfl) rfl

theorem Sound.call (h : Sound cfg w) {is : List Instr} (hc : w.dispatcher.Honoured cfg env is) :
    Sound cfg (Run.exec (Watched.run AlertDispatcher.note cfg env) w is) :=
  Run.Ahead.blocks (fun _ i rest h ha => h.block i rest ha)
    (Run.Ahead.map Watched.dispatcher (fun _ _ => rfl) hc) h

end Block

/--
どの run でも、新しい key の alert がどれも rate の予算の内で途切れずに出るなら、重複として落ちた
finding に先立って、窓の内に同じ key の alert が出ている。
-/
theorem dropped_justified (cfg : Config) (content : EntryId → Payload) (es pre : List Event)
    (hc : Run.Along (AlertDispatcher.step cfg content)
      (Calls cfg content fun env d is => d.Honoured cfg env is) {} es) (hp : pre <+: es) :
    Justified cfg (Run.exec (Watched.step AlertDispatcher.note cfg content) ⟨{}, []⟩ pre).record :=
  (Watched.invariant_isPrefix (fun _ _ _ h hc => Sound.call h hc) (fun _ h => h.restart)
    (sound_init cfg) hc hp).justified

/-! ## 予算の尽きた alert の印 -/

/-- server `host` の finding。 -/
def onHost (host : String) : Finding :=
  { ruleId := .value "weak-cipher", server := .value host, severity := .value "high" }

/-- 窓の内に繰り返す finding。 -/
def repeated : List Event :=
  [.direct (onHost "mx1") { now := 1000 } {}, .direct (onHost "mx1") { now := 1100 } {}]

/-- 窓の内に繰り返した finding は、先に出た alert のために落ちる。 -/
theorem dropped_justified_repeated :
    Justified {} (Run.exec (Watched.step AlertDispatcher.note {} fun _ => .garbage) ⟨{}, []⟩
      repeated).record ∧
    (Run.exec (Watched.step AlertDispatcher.note {} fun _ => .garbage) ⟨{}, []⟩ repeated).record
      = [.dispatched "weak-cipher:mx1" 1000, .dropped "weak-cipher:mx1" 1100] := by
  refine ⟨dropped_justified {} _ repeated _ ⟨?_, ?_, trivial⟩ (List.prefix_refl _), by decide⟩
  · show Run.Ahead _ _ _ (dispatch (onHost "mx1") [])
    decide
  · show Run.Ahead _ _ _ (dispatch (onHost "mx1") [])
    decide

/-- 一分に一つの予算では、`mx2` の alert は予算に阻まれる。その後に同じ finding が続く。 -/
def burst (redisUp : Bool) : List Event :=
  [.direct (onHost "mx1") { now := 1000, link := { up := redisUp } } {},
    .direct (onHost "mx2") { now := 1010, link := { up := redisUp } } {},
    .direct (onHost "mx2") { now := 1100, link := { up := redisUp } } {}]

/-- 予算を一分に一つとした run の記録。 -/
def burstRecord (redisUp : Bool) : List Entry :=
  (Run.exec (Watched.step AlertDispatcher.note { ratePerMinute := 1 } fun _ => .garbage) ⟨{}, []⟩
    (burst redisUp)).record

/-- Redis でもメモリでも、予算に阻まれた alert の印が、次の finding を落とす。 -/
theorem limited_mark_drops :
    ¬Justified { ratePerMinute := 1 } (burstRecord true) ∧
      ¬Justified { ratePerMinute := 1 } (burstRecord false) := by
  have hrecord : ∀ up, burstRecord up =
      [.dispatched "weak-cipher:mx1" 1000] ++ [.dropped "weak-cipher:mx2" 1100] := by decide
  have hnot : ¬Justified { ratePerMinute := 1 }
      ([.dispatched "weak-cipher:mx1" 1000] ++ [.dropped "weak-cipher:mx2" 1100]) := by
    intro h
    obtain ⟨t, ht, -⟩ := h _ _ _ (List.prefix_refl _)
    simp at ht
  rw [hrecord, hrecord]
  exact ⟨hnot, hnot⟩

end CipherPost.Live
