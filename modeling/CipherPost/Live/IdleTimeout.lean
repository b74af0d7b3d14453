import CipherPost.Live.Sweep

/-!
# 途絶えた stream

sweep は最後の payload の時刻から途絶を測る。payload を一度も運ばない stream には測る時刻が無く、いつまでも残る。

* `Activity` — 再構成と、stream が開いてから届いた packet の時刻
* `Recent` — timeout の内に packet を受け取っている接続
* `Heard` — 不変量。最後の payload の時刻は、届いた packet のものである
* `SilentRecent` — 残る stream のうち、payload の時刻の無いものも timeout の内にある
* `recent_iff` — sweep の後に残る stream がどれも `Recent` であるための条件
-/

namespace CipherPost.Live

open Parsing

/-- 再構成と、stream が開いてから届いた packet の時刻。 -/
structure Activity where
  live : LiveReassembler := {}
  heard : Dict Key (List Nat) := Dict.empty

namespace Activity

/-- 今の stream に届いた packet の時刻。新しい stream は数え直す。 -/
def heardOn (a : Activity) (k : Key) : List Nat :=
  if (a.live.streams.get? k).isSome then (a.heard.get? k).getD [] else []

/-- packet の届いた時刻を記す。 -/
def hear (a : Activity) (p : LivePacket) : Dict Key (List Nat) :=
  match key p.src p.sport p.dst p.dport with
  | none => a.heard
  | some k => a.heard.set k (p.ts :: a.heardOn k)

/-- packet と sweep の一歩。 -/
def step (limits : Limits) (a : Activity) : ParityEvent → Activity
  | .packet p => ⟨a.live.feedPacket p, a.hear p⟩
  | .sweep now => ⟨(a.live.sweep limits now).1, a.heard⟩

/-- 時刻の記録は、再構成の動きに触れない。 -/
theorem live_exec (limits : Limits) : ∀ (es : List ParityEvent) (a : Activity),
    (Run.exec (step limits) a es).live = Run.exec (LiveReassembler.step limits) a.live es := by
  intro es
  induction es with
  | nil => exact fun a => rfl
  | cons e es ih =>
    intro a
    rw [Run.exec_cons, Run.exec_cons, ih]
    cases e <;> rfl

/-- 接続 `k` の stream は、`now` から timeout の内に packet を受け取っている。 -/
def Recent (limits : Limits) (now : Nat) (a : Activity) (k : Key) : Prop :=
  ∃ t ∈ a.heardOn k, now ≤ t + limits.idleTimeout

/-- 残る stream のうち、payload の時刻の無いものは、timeout の内に packet を受け取っている。 -/
def SilentRecent (limits : Limits) (a : Activity) : ParityEvent → Prop
  | .packet _ => True
  | .sweep now => ∀ k st, a.live.streams.get? k = some st → lastTs st = 0 →
    LiveReassembler.stays limits now st = true → k ∉ a.live.evicted limits now →
      Recent limits now a k

/-- 最後の payload の時刻は、その stream に届いた packet のものである。 -/
def Heard (a : Activity) : Prop :=
  ∀ k st, a.live.streams.get? k = some st → ∀ d, (st.half d).lastTs ≠ 0 →
    (st.half d).lastTs ∈ a.heardOn k

theorem heard_init : Heard {} := fun _ _ h => by cases h

theorem heardOn_of_get? {a : Activity} {k : Key} {st : Stream}
    (h : a.live.streams.get? k = some st) : a.heardOn k = (a.heard.get? k).getD [] := by
  unfold heardOn
  rw [h]
  rfl

/-- 途絶の判定は、payload の時刻のある stream では timeout の内を意味する。 -/
theorem Heard.recent {limits : Limits} {a : Activity} (h : a.Heard) {now : Nat} {k : Key}
    {st : Stream} (hst : a.live.streams.get? k = some st) (hlast : lastTs st ≠ 0)
    (hstay : LiveReassembler.stays limits now st = true) : Recent limits now a k := by
  have hidle := of_decide_eq_false (LiveReassembler.stays_iff.mp hstay).2.1
  have hnow : now ≤ lastTs st + limits.idleTimeout := by
    by_contra hlate
    exact hidle ⟨hlast, Nat.lt_of_not_le hlate⟩
  have hmem : lastTs st ∈ a.heardOn k := by
    unfold lastTs at hlast ⊢
    rcases Nat.le_total st.hb.lastTs st.ha.lastTs with hle | hle
    · rw [Nat.max_eq_left hle] at hlast ⊢
      exact h k st hst true hlast
    · rw [Nat.max_eq_right hle] at hlast ⊢
      exact h k st hst false hlast
  exact ⟨lastTs st, hmem, hnow⟩

/-- `feed` の後の最後の時刻は、前からある時刻か、この packet の時刻である。 -/
theorem lastTs_feed (st : Stream) (k : Key) (p : Packet) (d : Bool) :
    ((st.feed k p).half d).lastTs = (st.half d).lastTs ∨ ((st.feed k p).half d).lastTs = p.ts := by
  by_cases hd : d = p.dirA k
  · subst hd
    rw [Stream.half_feed, HalfStream.receive_lastTs]
    split
    · exact .inl rfl
    · exact .inr rfl
  · rw [Stream.half_feed_of_ne _ _ _ hd]
    exact .inl rfl

/-- まだ無い stream には、時刻も無い。 -/
theorem Heard.streamAt {a : Activity} (h : a.Heard) (k : Key) (ts : Nat) {d : Bool}
    (hd : ((ParityState.streamAt a.live.streams k ts).half d).lastTs ≠ 0) :
    ((ParityState.streamAt a.live.streams k ts).half d).lastTs ∈ a.heardOn k := by
  unfold ParityState.streamAt at hd ⊢
  cases hg : a.live.streams.get? k with
  | none =>
    rw [hg] at hd
    cases d <;> exact absurd rfl hd
  | some st =>
    rw [hg] at hd
    exact h k st hg d hd

/-- **packet の一歩。** -/
theorem Heard.packet {limits : Limits} {a : Activity} (h : a.Heard) (p : LivePacket) :
    Heard (step limits a (.packet p)) := by
  intro k st hst d hne
  rw [heardOn_of_get? hst]
  show (st.half d).lastTs ∈ ((a.hear p).get? k).getD []
  have hst' : (a.live.feedPacket p).streams.get? k = some st := hst
  unfold hear
  cases hk : key p.src p.sport p.dst p.dport with
  | none =>
    rw [ParityState.streams_feedPacket_none _ hk] at hst'
    have hmem := h k st hst' d hne
    rwa [heardOn_of_get? hst'] at hmem
  | some k' =>
    rw [ParityState.streams_feedPacket _ hk, Dict.get?_set] at hst'
    dsimp only
    rw [Dict.get?_set]
    split at hst'
    · next heq =>
      subst heq
      rw [if_pos rfl, Option.getD_some, List.mem_cons]
      obtain rfl := Option.some.inj hst'
      have htime := lastTs_feed (ParityState.streamAt a.live.streams k' p.ts) k' p.toPacket d
      rcases htime with hold | hnew
      · rw [hold] at hne ⊢
        exact .inr (h.streamAt k' p.ts hne)
      · exact .inl hnew
    · next hother =>
      rw [if_neg hother]
      have hmem := h k st hst' d hne
      rwa [heardOn_of_get? hst'] at hmem

/-- **sweep の一歩。** -/
theorem Heard.sweep {limits : Limits} {a : Activity} (h : a.Heard) (now : Nat) :
    Heard (step limits a (.sweep now)) := by
  intro k st hst d hne
  rw [heardOn_of_get? hst]
  have hold := ((LiveReassembler.get?_sweep limits now a.live k st).mp hst).1
  have hmem := h k st hold d hne
  rwa [heardOn_of_get? hold] at hmem

theorem heard_exec (limits : Limits) (es : List ParityEvent) :
    Heard (Run.exec (step limits) {} es) := by
  refine Run.invariant (fun a e h => ?_) es heard_init
  cases e with
  | packet p => exact h.packet p
  | sweep now => exact h.sweep now

/-- sweep の後に残る stream は、どれも timeout の内に packet を受け取っている。 -/
def AllRecent (limits : Limits) (now : Nat) (a : Activity) : Prop :=
  ∀ k st, a.live.streams.get? k = some st → Recent limits now a k

theorem recent_sweep_iff {limits : Limits} {a : Activity} (h : a.Heard) (now : Nat) :
    AllRecent limits now (step limits a (.sweep now)) ↔ SilentRecent limits a (.sweep now) := by
  have hget := LiveReassembler.get?_sweep limits now a.live
  have hsame : ∀ {k st}, (a.live.sweep limits now).1.streams.get? k = some st →
      (Recent limits now (step limits a (.sweep now)) k ↔ Recent limits now a k) := by
    intro k st hst
    have hold := ((hget k st).mp hst).1
    unfold Recent
    rw [heardOn_of_get? hold, heardOn_of_get? (a := step limits a (.sweep now)) hst]
    exact Iff.rfl
  constructor
  · intro hall k st hst _ hstay hkeep
    have hnew := (hget k st).mpr ⟨hst, hstay, hkeep⟩
    exact (hsame hnew).mp (hall k st hnew)
  · intro hsilent k st hst
    obtain ⟨hold, hstay, hkeep⟩ := (hget k st).mp hst
    refine (hsame hst).mpr ?_
    by_cases hlast : lastTs st = 0
    · exact hsilent k st hold hlast hstay hkeep
    · exact h.recent hold hlast hstay

/--
**途絶の検出。** packet と sweep のどの列でも、どの sweep の後にも残る stream が timeout の内に packet を
受け取っているのは、payload の時刻の無い stream がどの sweep でもそうであるとき、かつそのときに限る。
-/
theorem recent_iff (limits : Limits) (es : List ParityEvent) :
    (∀ pre now, pre ++ [.sweep now] <+: es →
      AllRecent limits now (Run.exec (step limits) {} (pre ++ [.sweep now]))) ↔
    Run.Along (step limits) (SilentRecent limits) {} es := by
  rw [Run.along_iff]
  constructor
  · intro h pre e hpre
    cases e with
    | packet p => trivial
    | sweep now =>
      have hall := h pre now hpre
      rw [Run.exec_append] at hall
      exact (recent_sweep_iff (heard_exec limits pre) now).mp hall
  · intro h pre now hpre
    rw [Run.exec_append]
    exact (recent_sweep_iff (heard_exec limits pre) now).mpr (h pre (.sweep now) hpre)

/-- SYN だけの接続は、二時間の後の sweep にも残る。 -/
theorem silent_syn_kept :
    ¬ ∀ (limits : Limits) (es : List ParityEvent) (pre : List ParityEvent) (now : Nat),
      pre ++ [.sweep now] <+: es →
        AllRecent limits now (Run.exec (step limits) {} (pre ++ [.sweep now])) := by
  intro h
  have hsyn := h {} [.packet (ParityState.fromClient 100 0x02 1000000 []), .sweep 7200000000]
    [.packet (ParityState.fromClient 100 0x02 1000000 [])] 7200000000 (List.prefix_refl _)
    ParityState.clientKey
  revert hsyn
  unfold Recent
  decide +kernel

end Activity

end CipherPost.Live
