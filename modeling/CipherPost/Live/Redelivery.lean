import CipherPost.Live.Delivery

/-!
# 配られた entry の行き先

`Delivery.lean` の系の不変量と、どの実行でも成り立つこと。

配達は、終えた handler・遅れた handler・止まった worker・手元のどれか一つに対応する（`Ledger`）。
取り直しの漏れは、その間に前の entry が配られたことを示す（`Waits`）。

* `Inv` — 不変量。一歩ごとに `inv_poll`・`inv_reclaim`・`inv_turn` などが保つ
* `served_run` — 読めない entry が配られず、試行の数が失われなければ、`Served` がどの状態でも成り立つ
* `not_served_of_unreadable` — 読めない entry は、どの実行でも pending list を離れない
-/

namespace CipherPost.Live

namespace DeliveryState

variable (cfg : DeliveryConfig) (loads : String → Option Json) (content : EntryId → Option String)

/-! ## 不変量 -/

/-- pending list と id の形。 -/
structure Shape (s : DeliveryState) : Prop where
  sorted : s.ids.Pairwise (· < ·)
  ids_lt : ∀ e ∈ s.ids, e < s.delivered
  untrimmed : ∀ e ∈ s.ids, s.trimmed ≤ e
  unacked : ∀ e ∈ s.ids, e ∉ s.consumer.acked
  acked_lt : ∀ e ∈ s.consumer.acked, e < s.delivered
  log_lt : ∀ d ∈ s.log, d.1 < s.delivered
  log_le : ∀ d ∈ s.log, d.2 ≤ s.clock
  since_log : ∀ p ∈ s.pending, (p.id, p.since) ∈ s.log
  readable : ∀ d ∈ s.log, processable loads (content d.1) = true

/-- 配達と handler の数の対応。 -/
structure Ledger (s : DeliveryState) : Prop where
  perm : (s.log.map Prod.fst).Perm (s.turned ++ (s.late ++ s.abandoned ++ s.inHand))
  not_late : ∀ e ∈ s.ids, e ∉ s.late
  tries_ge : ∀ e ∈ s.ids, s.turned.count e ≤ tries s.consumer e
  turned_lt : ∀ e ∈ s.ids, s.turned.count e < cfg.maxAttempts
  turned_le : ∀ e, s.turned.count e ≤ cfg.maxAttempts
  done : ∀ d ∈ s.log, d.1 ∈ s.ids ∨ s.Done d.1

/-- 漏れの一つごとに、前の entry への新しい配達がある。 -/
def Waits (s : DeliveryState) : Prop :=
  ∀ e, (s.lastMiss e = none ∧ s.misses e = 0) ∨
    ∃ t, s.lastMiss e = some t ∧ t ≤ s.clock ∧
      s.misses e ≤ s.log.countP fun d => decide (d.1 < e ∧ d.2 ≤ t)

/-- 不変量。 -/
structure Inv (s : DeliveryState) : Prop where
  shape : s.Shape loads content
  ledger : s.Ledger cfg
  waits : s.Waits

theorem inv_init : Inv cfg loads content {} where
  shape :=
    { sorted := List.Pairwise.nil
      ids_lt := fun _ h => absurd h List.not_mem_nil
      untrimmed := fun _ h => absurd h List.not_mem_nil
      unacked := fun _ h => absurd h List.not_mem_nil
      acked_lt := fun _ h => absurd h List.not_mem_nil
      log_lt := fun _ h => absurd h List.not_mem_nil
      log_le := fun _ h => absurd h List.not_mem_nil
      since_log := fun _ h => absurd h List.not_mem_nil
      readable := fun _ h => absurd h List.not_mem_nil }
  ledger :=
    { perm := List.Perm.refl _
      not_late := fun _ h => absurd h List.not_mem_nil
      tries_ge := fun _ h => absurd h List.not_mem_nil
      turned_lt := fun _ h => absurd h List.not_mem_nil
      turned_le := fun _ => Nat.zero_le _
      done := fun _ h => absurd h List.not_mem_nil }
  waits := fun _ => .inl ⟨rfl, rfl⟩

/-! ### 不変量から性質へ -/

theorem countP_succ (l : List EntryId) (e : EntryId) :
    (l.countP fun x => decide (x < e + 1)) = (l.countP fun x => decide (x < e)) + l.count e := by
  induction l with
  | nil => rfl
  | cons x l ih =>
    rw [List.countP_cons, List.countP_cons, List.count_cons, ih]
    rcases Nat.lt_trichotomy x e with h | h | h
    · simp [h, Nat.lt_succ_of_lt h, Nat.ne_of_lt h]
      omega
    · simp [h]
      omega
    · have h1 : ¬ x < e := Nat.lt_asymm h
      have h2 : ¬ x < e + 1 := Nat.not_lt.mpr h
      simp [h1, h2, Nat.ne_of_gt h]

/-- どの id も高々 `n` 回なら、`e` より前の id は高々 `n * e` 回である。 -/
theorem countP_lt_le {l : List EntryId} {n : Nat} (h : ∀ x, l.count x ≤ n) (e : EntryId) :
    (l.countP fun x => decide (x < e)) ≤ n * e := by
  induction e with
  | zero => simp
  | succ e ih =>
    rw [countP_succ, Nat.mul_succ]
    exact Nat.add_le_add ih (h e)

variable {cfg loads content}

theorem Inv.served {s : DeliveryState} (h : s.Inv cfg loads content) : s.Served cfg where
  leaves := by
    intro e he
    have hcount := h.ledger.perm.count_eq e
    have hlate : s.late.count e = 0 := List.count_eq_zero.mpr (h.ledger.not_late e he)
    have hlt := h.ledger.turned_lt e he
    rw [List.count_append, List.count_append, List.count_append, hlate] at hcount
    rw [deliveries]
    omega
  done := h.ledger.done
  returned := by
    intro e
    rcases h.waits e with ⟨-, hm⟩ | ⟨t, -, -, hm⟩
    · rw [hm]
      exact Nat.zero_le _
    · -- 前の entry への配達は、終えた handler か、終わらなかった配達である
      have hle : (s.log.countP fun d => decide (d.1 < e ∧ d.2 ≤ t))
          ≤ (s.log.map Prod.fst).countP fun x => decide (x < e) := by
        rw [List.countP_map]
        refine List.countP_mono_left fun d _ hd => ?_
        exact decide_eq_true (of_decide_eq_true hd).1
      have hperm := h.ledger.perm.countP_eq fun x => decide (x < e)
      rw [List.countP_append] at hperm
      have hturned := countP_lt_le h.ledger.turned_le e
      omega

/-! ### 時刻・publish・trim・停止 -/

theorem Waits.mono {s t : DeliveryState} (h : s.Waits) (hm : t.misses = s.misses)
    (hl : t.lastMiss = s.lastMiss) (hc : s.clock ≤ t.clock) {ds : List (EntryId × Nat)}
    (hlog : t.log = s.log ++ ds) : t.Waits := by
  intro e
  rw [hm, hl]
  rcases h e with h | ⟨x, hx, hle, hcount⟩
  · exact .inl h
  · refine .inr ⟨x, hx, Nat.le_trans hle hc, ?_⟩
    rw [hlog, List.countP_append]
    exact Nat.le_add_right_of_le hcount

theorem inv_tick {s : DeliveryState} (h : s.Inv cfg loads content) (d : Nat) :
    Inv cfg loads content { s with clock := s.clock + d } where
  shape := { h.shape with log_le := fun x hx => Nat.le_add_right_of_le (h.shape.log_le x hx) }
  ledger := { h.ledger with }
  waits := h.waits.mono rfl rfl (Nat.le_add_right _ _) (List.append_nil _).symm

theorem inv_publish {s : DeliveryState} (h : s.Inv cfg loads content) :
    Inv cfg loads content { s with published := s.published + 1 } where
  shape := { h.shape with }
  ledger := { h.ledger with }
  waits := h.waits

theorem inv_trim {s : DeliveryState} (h : s.Inv cfg loads content) {n : Nat}
    (hn : ∀ e ∈ s.ids, n ≤ e) : Inv cfg loads content { s with trimmed := max s.trimmed n } where
  shape :=
    { h.shape with untrimmed := fun e he => Nat.max_le.mpr ⟨h.shape.untrimmed e he, hn e he⟩ }
  ledger := { h.ledger with }
  waits := h.waits

/-- 手元の一つを別の列に移す。 -/
theorem perm_move {l front hand : List EntryId} {e : EntryId} (he : e ∈ hand)
    (h : l.Perm (front ++ hand)) : l.Perm (front ++ [e] ++ hand.erase e) := by
  refine h.trans ?_
  rw [List.append_assoc]
  exact (List.perm_cons_erase he).append_left front

theorem inv_abandon {s : DeliveryState} (h : s.Inv cfg loads content) {e : EntryId}
    (he : e ∈ s.inHand) : Inv cfg loads content
      { s with inHand := s.inHand.erase e, abandoned := s.abandoned ++ [e] } where
  shape := { h.shape with }
  ledger :=
    { h.ledger with
      perm := by
        have hp := h.ledger.perm
        rw [← List.append_assoc] at hp
        have hm := perm_move he hp
        simpa only [List.append_assoc] using hm }
  waits := h.waits

/-! ### poll -/

theorem filter_decodable {ids : List EntryId}
    (h : ∀ e ∈ ids, processable loads (content e) = true) :
    ids.filter (decodable loads content) = ids :=
  List.filter_eq_self.mpr fun e he => decodes_of_processable loads (h e he)

/-- 読める entry の配達は、記録と手元に同じ id を加える。 -/
theorem perm_deliver {s : DeliveryState} (h : s.Inv cfg loads content) {ids : List EntryId}
    (hs : ∀ e ∈ ids, processable loads (content e) = true) :
    ((s.deliver loads content ids).log.map Prod.fst).Perm
      (s.turned ++ (s.late ++ s.abandoned ++ (s.deliver loads content ids).inHand)) := by
  have hid : ids.map (Prod.fst ∘ fun e => (e, s.clock)) = ids := List.map_id _
  have hp := h.ledger.perm.append_right ids
  show ((s.log ++ ids.map fun e => (e, s.clock)).map Prod.fst).Perm
    (s.turned ++ (s.late ++ s.abandoned ++ (s.inHand ++ ids.filter (decodable loads content))))
  rw [filter_decodable hs, List.map_append, List.map_map, hid]
  simpa only [List.append_assoc] using hp

/-- 今までの記録と今の配達について成り立つことは、配達の後の記録について成り立つ。 -/
theorem forall_log_append {P : EntryId × Nat → Prop} {log : List (EntryId × Nat)}
    {ids : List EntryId} {now : Nat} (hold : ∀ d ∈ log, P d) (hnew : ∀ e ∈ ids, P (e, now)) :
    ∀ d ∈ log ++ ids.map (fun e => (e, now)), P d := by
  intro d hd
  rcases List.mem_append.mp hd with hd | hd
  · exact hold d hd
  · obtain ⟨e, he, rfl⟩ := List.mem_map.mp hd
    exact hnew e he

/-- 終わった handler と手元の entry は、配られたものである。 -/
theorem Inv.lt_delivered {s : DeliveryState} (h : s.Inv cfg loads content) {e : EntryId}
    (he : e ∈ s.turned ++ (s.late ++ s.abandoned ++ s.inHand)) :
    e < s.delivered ∧ processable loads (content e) = true := by
  obtain ⟨d, hd, rfl⟩ := List.mem_map.mp (h.ledger.perm.mem_iff.mpr he)
  exact ⟨h.shape.log_lt d hd, h.shape.readable d hd⟩

theorem fresh_spec (s : DeliveryState) {e : EntryId} (he : e ∈ s.fresh cfg) :
    max s.delivered s.trimmed ≤ e ∧ e < max s.delivered s.trimmed + (s.fresh cfg).length := by
  rw [fresh] at he ⊢
  simpa only [List.mem_range'_1, List.length_range'] using he

theorem ids_poll (cfg : DeliveryConfig) (loads : String → Option Json)
    (content : EntryId → Option String) (s : DeliveryState) :
    (s.poll cfg loads content).ids = s.ids ++ s.fresh cfg := by
  show (s.pending ++ (s.fresh cfg).map fun e => (⟨e, s.clock⟩ : Pending)).map Pending.id = _
  rw [List.map_append, List.map_map]
  exact congrArg (s.ids ++ ·) (List.map_id _)

theorem mem_ids_poll {s : DeliveryState} {e : EntryId} (he : e ∈ (s.poll cfg loads content).ids) :
    e ∈ s.ids ∨ e ∈ s.fresh cfg :=
  List.mem_append.mp (ids_poll cfg loads content s ▸ he)

/-- 新しい id は、まだ配られたことがない。 -/
theorem fresh_new (s : DeliveryState) {e : EntryId} (he : e ∈ s.fresh cfg) :
    s.delivered ≤ e ∧ s.trimmed ≤ e := by
  have hle := (fresh_spec s he).1
  exact ⟨Nat.le_trans (Nat.le_max_left _ _) hle, Nat.le_trans (Nat.le_max_right _ _) hle⟩

theorem lt_delivered_fresh {s : DeliveryState} {e : EntryId} (he : e ∈ s.fresh cfg) :
    e < (s.poll cfg loads content).delivered := (fresh_spec s he).2

theorem lt_delivered_poll {s : DeliveryState} {e : EntryId} (he : e < s.delivered) :
    e < (s.poll cfg loads content).delivered :=
  Nat.lt_of_lt_of_le he (Nat.le_trans (Nat.le_max_left _ _) (Nat.le_add_right _ _))

theorem Inv.not_fresh {s : DeliveryState} (h : s.Inv cfg loads content) {e : EntryId}
    (he : e ∈ s.fresh cfg) : e ∉ s.turned ++ (s.late ++ s.abandoned ++ s.inHand) := by
  intro hm
  exact Nat.not_lt.mpr (fresh_new s he).1 (h.lt_delivered hm).1

theorem shape_poll {s : DeliveryState} (h : s.Inv cfg loads content)
    (hs : ∀ e ∈ s.fresh cfg, processable loads (content e) = true) :
    (s.poll cfg loads content).Shape loads content where
  sorted := by
    rw [ids_poll, List.pairwise_append]
    refine ⟨h.shape.sorted, List.pairwise_lt_range', fun a ha b hb => ?_⟩
    exact Nat.lt_of_lt_of_le (h.shape.ids_lt a ha) (fresh_new s hb).1
  ids_lt := by
    intro e he
    rcases mem_ids_poll he with he | he
    · exact lt_delivered_poll (h.shape.ids_lt e he)
    · exact lt_delivered_fresh he
  untrimmed := by
    intro e he
    rcases mem_ids_poll he with he | he
    · exact h.shape.untrimmed e he
    · exact (fresh_new s he).2
  unacked := by
    intro e he hacked
    rcases mem_ids_poll he with he | he
    · exact h.shape.unacked e he hacked
    · exact Nat.not_lt.mpr (fresh_new s he).1 (h.shape.acked_lt e hacked)
  acked_lt := fun e he => lt_delivered_poll (h.shape.acked_lt e he)
  log_lt := forall_log_append (fun d hd => lt_delivered_poll (h.shape.log_lt d hd))
    fun _ he => lt_delivered_fresh he
  log_le := forall_log_append h.shape.log_le fun _ _ => Nat.le_refl _
  since_log := by
    intro p hp
    rcases List.mem_append.mp hp with hp | hp
    · exact List.mem_append_left _ (h.shape.since_log p hp)
    · obtain ⟨e, he, rfl⟩ := List.mem_map.mp hp
      exact List.mem_append_right _ (List.mem_map_of_mem he)
  readable := forall_log_append h.shape.readable hs

theorem ledger_poll {s : DeliveryState} (h : s.Inv cfg loads content)
    (hs : ∀ e ∈ s.fresh cfg, processable loads (content e) = true) :
    (s.poll cfg loads content).Ledger cfg where
  perm := perm_deliver h hs
  not_late := by
    intro e he hlate
    rcases mem_ids_poll he with he | he
    · exact h.ledger.not_late e he hlate
    · refine h.not_fresh he (List.mem_append_right _ ?_)
      exact List.mem_append_left _ (List.mem_append_left _ hlate)
  tries_ge := by
    intro e he
    rcases mem_ids_poll he with he | he
    · exact h.ledger.tries_ge e he
    · have hzero : s.turned.count e = 0 :=
        List.count_eq_zero.mpr fun hm => h.not_fresh he (List.mem_append_left _ hm)
      exact hzero.symm ▸ Nat.zero_le _
  turned_lt := by
    intro e he
    rcases mem_ids_poll he with he | he
    · exact h.ledger.turned_lt e he
    · have hzero : s.turned.count e = 0 :=
        List.count_eq_zero.mpr fun hm => h.not_fresh he (List.mem_append_left _ hm)
      exact hzero.symm ▸ cfg.maxAttempts_pos
  turned_le := h.ledger.turned_le
  done := by
    rw [ids_poll]
    exact forall_log_append
      (fun d hd => (h.ledger.done d hd).imp_left (List.mem_append_left _))
      fun e he => .inl (List.mem_append_right _ he)

theorem inv_poll {s : DeliveryState} (h : s.Inv cfg loads content)
    (hs : ∀ e ∈ s.fresh cfg, processable loads (content e) = true) :
    Inv cfg loads content (s.poll cfg loads content) :=
  ⟨shape_poll h hs, ledger_poll h hs, h.waits.mono rfl rfl (Nat.le_refl _) rfl⟩

/-! ### reclaim -/

theorem ids_claim {s : DeliveryState} (h : s.Inv cfg loads content) :
    (s.claim cfg).2.map Pending.id = s.ids := by
  refine ids_autoclaim s.pending _ _ fun p hp => ?_
  exact h.shape.untrimmed p.id (List.mem_map_of_mem hp)

/-- 取り直されるのは pending list の entry である。 -/
theorem mem_ids_of_claimed {s : DeliveryState} {e : EntryId} (he : e ∈ (s.claim cfg).1) :
    e ∈ s.ids := (claimed_sublist s.pending _ _).subset he

theorem missed_iff {s : DeliveryState} {e : EntryId} : s.missed cfg e = true ↔
    (∃ p ∈ s.pending, p.id = e ∧ p.stale cfg.idle s.clock = true) ∧ e ∉ (s.claim cfg).1 ∧
      ∀ t, s.lastMiss e = some t → t + cfg.idle ≤ s.clock := by
  rw [missed, Bool.and_eq_true, Bool.and_eq_true, List.any_eq_true, Option.all_eq_true]
  simp [and_assoc]

/-- 古い先頭は必ず取り直されるので、取り直されない古い entry の前には別の先頭がある。 -/
theorem exists_head {s : DeliveryState} (h : s.Inv cfg loads content) {p : Pending}
    (hp : p ∈ s.pending) (hstale : p.stale cfg.idle s.clock = true)
    (hnot : p.id ∉ (s.claim cfg).1) : ∃ p₀ ∈ s.pending, p₀.id < p.id ∧
      (p₀.stale cfg.idle s.clock = true → p₀.id ∈ (s.claim cfg).1) := by
  cases hpend : s.pending with
  | nil =>
    rw [hpend] at hp
    exact absurd hp List.not_mem_nil
  | cons p₀ ps =>
    have hun := h.shape.untrimmed p₀.id (List.mem_map_of_mem (hpend ▸ List.mem_cons_self))
    have hhead : p₀.stale cfg.idle s.clock = true → p₀.id ∈ (s.claim cfg).1 := by
      intro hs₀
      have hpos := cfg.reclaimBatch_pos
      rw [claim, hpend]
      exact head_claimed (by omega) hpos hun hs₀
    refine ⟨p₀, List.mem_cons_self, ?_, hhead⟩
    rw [hpend] at hp
    rcases List.mem_cons.mp hp with rfl | hp
    · exact absurd (hhead hstale) hnot
    · have hsorted := h.shape.sorted
      rw [ids, hpend, List.map_cons, List.pairwise_cons] at hsorted
      exact hsorted.1 p.id (List.mem_map_of_mem hp)

/-- 古い entry が取り直されなければ、前に数えた時より後に、前の entry への配達がある。 -/
theorem exists_delivery {s : DeliveryState} (h : s.Inv cfg loads content) {e : EntryId}
    (hm : s.missed cfg e = true) : ∃ d ∈ (s.reclaim cfg loads content).log,
      d.1 < e ∧ d.2 ≤ s.clock ∧ ∀ t, s.lastMiss e = some t → t < d.2 := by
  obtain ⟨⟨p, hp, rfl, hstale⟩, hnot, hafter⟩ := missed_iff.mp hm
  obtain ⟨p₀, hmem₀, hlt, hhead⟩ := exists_head h hp hstale hnot
  have hidle := cfg.idle_pos
  by_cases hs₀ : p₀.stale cfg.idle s.clock = true
  · -- 先頭は今配られた
    refine ⟨(p₀.id, s.clock), List.mem_append_right _ (List.mem_map_of_mem (hhead hs₀)), hlt,
      Nat.le_refl _, fun t ht => ?_⟩
    exact Nat.lt_of_lt_of_le (Nat.lt_add_of_pos_right hidle) (hafter t ht)
  · -- 先頭は `idle` 以内に配られている
    have hfresh : ¬ cfg.idle ≤ s.clock - p₀.since := fun hle => hs₀ (decide_eq_true hle)
    have hlog := h.shape.since_log p₀ hmem₀
    refine ⟨(p₀.id, p₀.since), List.mem_append_left _ hlog, hlt, h.shape.log_le _ hlog,
      fun t ht => ?_⟩
    have := hafter t ht
    show t < p₀.since
    omega

/-- 弱い条件だけを満たす要素があれば、数は一つ以上増える。 -/
theorem countP_succ_le {ι : Type} {p q : ι → Bool} (hpq : ∀ x, p x = true → q x = true) {l : List ι}
    {x : ι} (hx : x ∈ l) (hp : p x = false) (hq : q x = true) : l.countP p + 1 ≤ l.countP q := by
  obtain ⟨l₁, l₂, rfl⟩ := List.append_of_mem hx
  have h₁ : l₁.countP p ≤ l₁.countP q := List.countP_mono_left fun y _ => hpq y
  have h₂ : l₂.countP p ≤ l₂.countP q := List.countP_mono_left fun y _ => hpq y
  rw [List.countP_append, List.countP_append, List.countP_cons_of_neg (by simp [hp]),
    List.countP_cons_of_pos hq]
  omega

theorem waits_reclaim {s : DeliveryState} (h : s.Inv cfg loads content) :
    (s.reclaim cfg loads content).Waits := by
  intro e
  show ((if s.missed cfg e then some s.clock else s.lastMiss e) = none ∧
      (if s.missed cfg e then s.misses e + 1 else s.misses e) = 0) ∨
    ∃ t, (if s.missed cfg e then some s.clock else s.lastMiss e) = some t ∧ t ≤ s.clock ∧
      (if s.missed cfg e then s.misses e + 1 else s.misses e) ≤
        (s.reclaim cfg loads content).log.countP fun d => decide (d.1 < e ∧ d.2 ≤ t)
  have hlog : (s.reclaim cfg loads content).log
      = s.log ++ (s.claim cfg).1.map fun e => (e, s.clock) := rfl
  cases hm : s.missed cfg e with
  | false =>
    rcases h.waits e with hw | ⟨t, ht, hle, hc⟩
    · exact .inl hw
    · refine .inr ⟨t, ht, hle, ?_⟩
      rw [hlog, List.countP_append]
      exact Nat.le_add_right_of_le hc
  | true =>
    -- 今の漏れは、前に数えた時より後の配達 `d` で埋め合わせる
    obtain ⟨d, hd, hlt, hnow, hafter⟩ := exists_delivery h hm
    refine .inr ⟨s.clock, rfl, Nat.le_refl _, ?_⟩
    have hq : decide (d.1 < e ∧ d.2 ≤ s.clock) = true := decide_eq_true ⟨hlt, hnow⟩
    rcases h.waits e with ⟨-, hzero⟩ | ⟨t, ht, hle, hc⟩
    · rw [if_pos rfl, hzero]
      exact List.countP_pos_iff.mpr ⟨d, hd, hq⟩
    · have hp : decide (d.1 < e ∧ d.2 ≤ t) = false :=
        decide_eq_false fun hdt => Nat.not_lt.mpr hdt.2 (hafter t ht)
      have hgrow := countP_succ_le (p := fun d => decide (d.1 < e ∧ d.2 ≤ t))
        (q := fun d => decide (d.1 < e ∧ d.2 ≤ s.clock))
        (fun x hx => decide_eq_true
          ⟨(of_decide_eq_true hx).1, Nat.le_trans (of_decide_eq_true hx).2 hle⟩) hd hp hq
      refine Nat.le_trans (Nat.succ_le_succ ?_) hgrow
      rw [hlog, List.countP_append]
      exact Nat.le_add_right_of_le hc

theorem ids_reclaim {s : DeliveryState} (h : s.Inv cfg loads content) :
    (s.reclaim cfg loads content).ids = s.ids := ids_claim h

theorem readable_claim {s : DeliveryState} (h : s.Inv cfg loads content) {e : EntryId}
    (he : e ∈ (s.claim cfg).1) : processable loads (content e) = true := by
  obtain ⟨p, hp, rfl⟩ := List.mem_map.mp (mem_ids_of_claimed he)
  exact h.shape.readable _ (h.shape.since_log p hp)

theorem shape_reclaim {s : DeliveryState} (h : s.Inv cfg loads content) :
    (s.reclaim cfg loads content).Shape loads content where
  sorted := (ids_reclaim h).symm ▸ h.shape.sorted
  ids_lt := fun e he => h.shape.ids_lt e (ids_reclaim h ▸ he)
  untrimmed := fun e he => h.shape.untrimmed e (ids_reclaim h ▸ he)
  unacked := fun e he => h.shape.unacked e (ids_reclaim h ▸ he)
  acked_lt := h.shape.acked_lt
  log_lt := forall_log_append h.shape.log_lt fun e he => h.shape.ids_lt e (mem_ids_of_claimed he)
  log_le := forall_log_append h.shape.log_le fun _ _ => Nat.le_refl _
  since_log := by
    intro p hp
    rcases mem_autoclaim s.pending _ _ hp with hp | ⟨hp, hnow⟩
    · exact List.mem_append_left _ (h.shape.since_log p hp)
    · refine List.mem_append_right _ (List.mem_map.mpr ⟨p.id, hp, ?_⟩)
      rw [hnow]
  readable := forall_log_append h.shape.readable fun _ he => readable_claim h he

theorem ledger_reclaim {s : DeliveryState} (h : s.Inv cfg loads content) :
    (s.reclaim cfg loads content).Ledger cfg where
  perm := perm_deliver h fun _ he => readable_claim h he
  not_late := fun e he => h.ledger.not_late e (ids_reclaim h ▸ he)
  tries_ge := fun e he => h.ledger.tries_ge e (ids_reclaim h ▸ he)
  turned_lt := fun e he => h.ledger.turned_lt e (ids_reclaim h ▸ he)
  turned_le := h.ledger.turned_le
  done := by
    rw [ids_reclaim h]
    exact forall_log_append h.ledger.done fun _ he => .inl (mem_ids_of_claimed he)

theorem inv_reclaim {s : DeliveryState} (h : s.Inv cfg loads content) :
    Inv cfg loads content (s.reclaim cfg loads content) :=
  ⟨shape_reclaim h, ledger_reclaim h, waits_reclaim h⟩

/-! ### handler -/

theorem live_acked (s : DeliveryState) : s.live.acked = s.consumer.acked := by
  rw [live]
  split <;> rfl

theorem settled_live {s : DeliveryState} {e : EntryId} :
    s.live.Settled (fun e rec => rec.entryId = e) e ↔ s.Done e := by
  rw [live]
  split <;> exact Iff.rfl

/-- 命令は、済んだ entry を済んだままにする。 -/
theorem done_afterOps {s : DeliveryState} {e : EntryId} (h : s.Done e) (ops : List (GroupOp Json)) :
    (s.afterOps ops).Settled (fun e rec => rec.entryId = e) e :=
  Run.invariant (I := fun (g : Group Json) => g.Settled (fun e rec => rec.entryId = e) e)
    (fun _ op hg => hg.apply {} op) ops (settled_live.mpr h)

/-- handler の命令の後、entry は残るか外れる。 -/
theorem turn_cases (cfg : DeliveryConfig) (s : DeliveryState) {e : EntryId} {ok : Bool}
    {stop : Option Nat} (hr : processable loads (content e) = true) (hs : ok = true → stop ≠ some 1) :
    let g := s.afterOps (s.turnOps cfg loads content e ok stop)
    Kept cfg stop e s.live g ∨ Left e s.live g := by
  obtain ⟨payload, hp⟩ := Option.isSome_iff_exists.mp hr
  have hops : s.turnOps cfg loads content e ok stop
      = stopAt stop (handlerOps cfg s.live e payload ok) := by
    rw [turnOps, hp]
  rw [hops]
  exact handler_cases cfg s.live e payload hs

/-- 期限で消えた数は、pending list の entry のものではない。 -/
theorem tries_live {s : DeliveryState} (h : s.Inv cfg loads content)
    (hs : s.expireAt ≤ s.clock → ∀ i ∈ s.ids, s.consumer.attempts.get? i = none) {i : EntryId}
    (hi : i ∈ s.ids) : s.turned.count i ≤ tries s.live i := by
  have hge := h.ledger.tries_ge i hi
  rw [live]
  split
  · exact hge
  · rename_i hexp
    have hzero : tries s.consumer i = 0 := by
      rw [tries, hs (Nat.le_of_not_lt hexp) i hi]
      rfl
    rw [hzero] at hge
    exact Nat.le_trans hge (Nat.zero_le _)

theorem ids_turn (cfg : DeliveryConfig) (loads : String → Option Json)
    (content : EntryId → Option String) (s : DeliveryState) (e : EntryId) (ok : Bool)
    (stop : Option Nat) : (s.turn cfg loads content e ok stop).ids = s.ids.filter fun i =>
      !(s.afterOps (s.turnOps cfg loads content e ok stop)).acked.contains i := by
  rw [ids, ids, List.filter_map]
  rfl

/-- pending list にあった entry の終えた handler だけが数えられる。 -/
theorem count_turn (cfg : DeliveryConfig) (loads : String → Option Json)
    (content : EntryId → Option String) (s : DeliveryState) (e : EntryId) (ok : Bool)
    (stop : Option Nat) (i : EntryId) : (s.turn cfg loads content e ok stop).turned.count i =
      s.turned.count i + if stop = none ∧ e ∈ s.ids ∧ i = e then 1 else 0 := by
  show (if stop = none ∧ e ∈ s.ids then s.turned ++ [e] else s.turned).count i = _
  by_cases hc : stop = none ∧ e ∈ s.ids
  · have hiff : (stop = none ∧ e ∈ s.ids ∧ i = e) ↔ (e == i) = true := by
      rw [beq_iff_eq]
      exact ⟨fun h => h.2.2.symm, fun h => ⟨hc.1, hc.2, h.symm⟩⟩
    rw [if_pos hc, List.count_append, List.count_singleton, if_congr hiff rfl rfl]
  · have hc' : ¬ (stop = none ∧ e ∈ s.ids ∧ i = e) := fun h => hc ⟨h.1, h.2.1⟩
    rw [if_neg hc, if_neg hc', Nat.add_zero]

/-- 終えた handler は `turned` か `late` に、止まった handler は `abandoned` に移る。 -/
theorem perm_turn {s : DeliveryState} (h : s.Inv cfg loads content) {e : EntryId} {ok : Bool}
    {stop : Option Nat} (he : e ∈ s.inHand) :
    (s.log.map Prod.fst).Perm ((s.turn cfg loads content e ok stop).turned ++
      ((s.turn cfg loads content e ok stop).late ++ (s.turn cfg loads content e ok stop).abandoned
        ++ s.inHand.erase e)) := by
  have hp := h.ledger.perm.trans (List.Perm.append_left s.turned
    (List.Perm.append_left (s.late ++ s.abandoned) (List.perm_cons_erase he)))
  rw [turn]
  -- 手元の `e` は、終えたか（pending list にあったかどうかで）、止まったかで移る先が決まる
  by_cases hstop : stop = none
  · by_cases hids : e ∈ s.ids
    · simp only [hstop, hids, not_true_eq_false, and_true, and_false, if_true, if_false]
      refine hp.trans ?_
      rw [List.append_assoc s.turned]
      refine List.Perm.append_left s.turned ?_
      exact List.perm_middle
    · simp only [hstop, hids, not_false_eq_true, and_true, and_false, if_true, if_false]
      refine hp.trans (List.Perm.append_left s.turned ?_)
      rw [List.append_assoc s.late, List.append_assoc s.late, List.append_assoc s.late]
      refine List.Perm.append_left s.late ?_
      exact List.perm_middle
  · simp only [hstop, false_and, if_false]
    refine hp.trans (List.Perm.append_left s.turned ?_)
    rw [List.append_assoc s.late, List.append_assoc s.late, List.append_assoc s.abandoned]
    exact List.Perm.refl _

section Turn

variable {s : DeliveryState} {e : EntryId} {ok : Bool} {stop : Option Nat}

theorem mem_ids_turn {i : EntryId} : i ∈ (s.turn cfg loads content e ok stop).ids ↔
    i ∈ s.ids ∧ i ∉ (s.turn cfg loads content e ok stop).consumer.acked := by
  rw [ids_turn, List.mem_filter, Bool.not_eq_true', List.contains_eq_mem, decide_eq_false_iff_not]
  exact Iff.rfl

variable (h : s.Inv cfg loads content) (he : e ∈ s.inHand)
  (hs : s.Safe cfg loads content (.turn e ok stop))
include h he hs

theorem kept_or_left : Kept cfg stop e s.live (s.turn cfg loads content e ok stop).consumer ∨
    Left e s.live (s.turn cfg loads content e ok stop).consumer :=
  turn_cases cfg s (h.lt_delivered (List.mem_append_right _ (List.mem_append_right _ he))).2 (hs he).2

/-- 外れるのは、済んだ `e` だけである。 -/
theorem acked_turn {i : EntryId} (hi : i ∈ (s.turn cfg loads content e ok stop).consumer.acked) :
    i ∈ s.consumer.acked ∨ (i = e ∧ (s.turn cfg loads content e ok stop).Done e) := by
  rcases kept_or_left h he hs with ⟨heq, -⟩ | ⟨heq, hdone⟩
  · rw [heq, live_acked] at hi
    exact .inl hi
  · rw [heq, live_acked] at hi
    rcases List.mem_cons.mp hi with rfl | hi
    · exact .inr ⟨rfl, hdone⟩
    · exact .inl hi

/-- 残る entry の handler は、試行を一つ数えて、まだ尽きていない。 -/
theorem counted_turn {i : EntryId} (hi : i ∈ (s.turn cfg loads content e ok stop).ids) :
    (s.turn cfg loads content e ok stop).turned.count i
        ≤ tries (s.turn cfg loads content e ok stop).consumer i ∧
      (s.turn cfg loads content e ok stop).turned.count i < cfg.maxAttempts := by
  obtain ⟨hin, hnot⟩ := mem_ids_turn.mp hi
  have hge : s.turned.count i ≤ tries s.live i := tries_live h (hs he).1 hin
  have hlt := h.ledger.turned_lt i hin
  rw [count_turn]
  -- 数が動きうるのは handler の entry だけで、残っていれば外れてはいない
  by_cases hie : i = e
  · subst hie
    obtain ⟨-, hup, hend⟩ := (kept_or_left h he hs).resolve_right
      fun hleft => hnot (hleft.1 ▸ List.mem_cons_self)
    by_cases hnone : stop = none
    · obtain ⟨hsucc, hmax⟩ := hend hnone
      rw [if_pos ⟨hnone, hin, rfl⟩]
      omega
    · rw [if_neg fun hc => hnone hc.1]
      omega
  · have hother : tries (s.turn cfg loads content e ok stop).consumer i = tries s.live i :=
      (turn_other cfg loads content s hie).1
    rw [if_neg fun hc => hie hc.2.2, hother]
    exact ⟨hge, hlt⟩

theorem shape_turn : (s.turn cfg loads content e ok stop).Shape loads content where
  sorted := by
    rw [ids_turn]
    exact h.shape.sorted.filter _
  ids_lt := fun i hi => h.shape.ids_lt i (mem_ids_turn.mp hi).1
  untrimmed := fun i hi => h.shape.untrimmed i (mem_ids_turn.mp hi).1
  unacked := fun _ hi => (mem_ids_turn.mp hi).2
  acked_lt := by
    intro i hi
    rcases acked_turn h he hs hi with hi | ⟨rfl, -⟩
    · exact h.shape.acked_lt i hi
    · exact (h.lt_delivered (List.mem_append_right _ (List.mem_append_right _ he))).1
  log_lt := h.shape.log_lt
  log_le := h.shape.log_le
  since_log := fun p hp => h.shape.since_log p (List.mem_of_mem_filter hp)
  readable := h.shape.readable

theorem ledger_turn : (s.turn cfg loads content e ok stop).Ledger cfg where
  perm := perm_turn h he
  not_late := by
    intro i hi hlate
    obtain ⟨hi, -⟩ := mem_ids_turn.mp hi
    have hlate : i ∈ if stop = none ∧ e ∉ s.ids then s.late ++ [e] else s.late := hlate
    split at hlate
    · rename_i hgone
      rcases List.mem_append.mp hlate with hlate | hlate
      · exact h.ledger.not_late i hi hlate
      · exact hgone.2 (List.mem_singleton.mp hlate ▸ hi)
    · exact h.ledger.not_late i hi hlate
  tries_ge := fun _ hi => (counted_turn h he hs hi).1
  turned_lt := fun _ hi => (counted_turn h he hs hi).2
  turned_le := by
    intro i
    rw [count_turn]
    split
    · rename_i hc
      exact h.ledger.turned_lt i (hc.2.2 ▸ hc.2.1)
    · exact h.ledger.turned_le i
  done := by
    intro d hd
    rcases h.ledger.done d hd with hin | hdone
    · by_cases hack : d.1 ∈ (s.turn cfg loads content e ok stop).consumer.acked
      · rcases acked_turn h he hs hack with hold | ⟨hde, hdone⟩
        · exact absurd hold (h.shape.unacked d.1 hin)
        · exact .inr (hde.symm ▸ hdone)
      · exact .inl (mem_ids_turn.mpr ⟨hin, hack⟩)
    · exact .inr (done_afterOps hdone _)

theorem inv_turn : Inv cfg loads content (s.turn cfg loads content e ok stop) :=
  ⟨shape_turn h he hs, ledger_turn h he hs, h.waits⟩

end Turn

/-! ## 実行 -/

theorem inv_step {s : DeliveryState} (h : s.Inv cfg loads content) {e : DeliveryEvent}
    (hs : s.Safe cfg loads content e) : Inv cfg loads content (s.step cfg loads content e) := by
  cases e with
  | tick d => exact inv_tick h d
  | publish => exact inv_publish h
  | trim n => exact inv_trim h hs
  | poll => exact inv_poll h hs
  | reclaim => exact inv_reclaim h
  | turn e ok stop =>
    rw [step]
    split
    · rename_i he
      exact inv_turn h he hs
    · exact h
  | abandon e =>
    rw [step]
    split
    · rename_i he
      exact inv_abandon h he
    · exact h

/--
**読めない entry が配られず、試行の数が失われなければ、配られた entry は決まった回数のうちに pending list を
離れ、取り直しは先頭の entry に妨げられない。**
-/
theorem served_run (cfg : DeliveryConfig) (loads : String → Option Json)
    (content : EntryId → Option String) (es : List DeliveryEvent)
    (hc : Run.Along (step cfg loads content) (Safe cfg loads content) {} es) :
    ∀ pre, pre <+: es → (Run.exec (step cfg loads content) {} pre).Served cfg := by
  intro pre hpre
  exact (Run.Along.invariant_isPrefix (I := Inv cfg loads content)
    (fun _ _ h hs => inv_step h hs) hc (inv_init cfg loads content) hpre).served

/-- 一度失敗し、取り直されて成功するまで。 -/
theorem served_run_retried :
    (Run.exec (step {} (fun _ => some (.obj [])) fun _ => some "\x7b\x7d") {}
      [.publish, .poll, .turn 0 false none, .tick 60000, .reclaim, .turn 0 true none]).Served {} := by
  refine served_run {} (fun _ => some (.obj [])) (fun _ => some "\x7b\x7d")
    [.publish, .poll, .turn 0 false none, .tick 60000, .reclaim, .turn 0 true none]
    ⟨trivial, fun _ _ => rfl, fun _ => ⟨fun _ _ _ => rfl, fun h => ?_⟩, trivial, trivial,
      fun _ => ⟨fun h => ?_, fun _ hstop => ?_⟩, trivial⟩ _ (List.prefix_refl _)
  · cases h
  · exact absurd h (by decide)
  · cases hstop

/-! ## 読めない entry -/

/-- 読めない entry は worker に渡らず、済むこともない。 -/
def Unhandled (e : EntryId) (s : DeliveryState) : Prop :=
  e ∉ s.inHand ∧ e ∉ s.abandoned ∧ ¬ s.Done e

theorem unhandled_deliver {s : DeliveryState} {e : EntryId} (he : decodable loads content e = false)
    (h : e ∉ s.inHand) (ids : List EntryId) : e ∉ (s.deliver loads content ids).inHand := by
  intro hm
  rcases List.mem_append.mp hm with hm | hm
  · exact h hm
  · have hd := (List.mem_filter.mp hm).2
    rw [he] at hd
    cases hd

theorem unhandled_step (cfg : DeliveryConfig) {s : DeliveryState} {e : EntryId}
    (he : decodable loads content e = false) (ev : DeliveryEvent) (h : Unhandled e s) :
    Unhandled e (s.step cfg loads content ev) := by
  obtain ⟨hhand, habandoned, hdone⟩ := h
  cases ev with
  | tick d => exact ⟨hhand, habandoned, hdone⟩
  | publish => exact ⟨hhand, habandoned, hdone⟩
  | trim n => exact ⟨hhand, habandoned, hdone⟩
  | poll => exact ⟨unhandled_deliver he hhand _, habandoned, hdone⟩
  | reclaim => exact ⟨unhandled_deliver he hhand _, habandoned, hdone⟩
  | turn x ok stop =>
    rw [step]
    split
    · rename_i hx
      -- 手元にあるのは読める entry だけなので、`e` の handler ではない
      have hne : e ≠ x := fun hex => hhand (hex ▸ hx)
      refine ⟨fun hm => hhand (List.mem_of_mem_erase hm), fun hm => ?_, fun hd => ?_⟩
      · have hm : e ∈ if stop = none then s.abandoned else s.abandoned ++ [x] := hm
        split at hm
        · exact habandoned hm
        · rcases List.mem_append.mp hm with hm | hm
          · exact habandoned hm
          · exact hne (List.mem_singleton.mp hm)
      · exact hdone (settled_live.mp ((turn_other cfg loads content s hne).2 hd))
    · exact ⟨hhand, habandoned, hdone⟩
  | abandon x =>
    rw [step]
    split
    · rename_i hx
      refine ⟨fun hm => hhand (List.mem_of_mem_erase hm), fun hm => ?_, hdone⟩
      rcases List.mem_append.mp hm with hm | hm
      · exact habandoned hm
      · exact hhand (List.mem_singleton.mp hm ▸ hx)
    · exact ⟨hhand, habandoned, hdone⟩

/-- 読めない entry は、何度配られても pending list を離れない。 -/
theorem not_served_of_unreadable (cfg : DeliveryConfig) {e : EntryId}
    (he : decodable loads content e = false) (es : List DeliveryEvent)
    (hd : cfg.maxAttempts ≤ (Run.exec (step cfg loads content) {} es).deliveries e) :
    ¬ (Run.exec (step cfg loads content) {} es).Served cfg := by
  intro hserved
  obtain ⟨hhand, habandoned, hdone⟩ := Run.invariant (I := Unhandled e)
    (fun _ ev h => unhandled_step cfg he ev h) es (s := ({} : DeliveryState))
    ⟨List.not_mem_nil, List.not_mem_nil,
      fun h => h.elim List.not_mem_nil fun ⟨_, hr, _⟩ => List.not_mem_nil hr⟩
  generalize Run.exec (step cfg loads content) {} es = s at hd hserved hhand habandoned hdone
  have hpos : 0 < s.deliveries e := Nat.lt_of_lt_of_le cfg.maxAttempts_pos hd
  obtain ⟨d, hlog, rfl⟩ := List.mem_map.mp (List.count_pos_iff.mp hpos)
  -- 済まないのだから残っていて、配達はみな上限に数えられる
  have hin := (hserved.done d hlog).resolve_right hdone
  have hlt := hserved.leaves d.1 hin
  rw [List.count_eq_zero.mpr habandoned, List.count_eq_zero.mpr hhand] at hlt
  omega

/-- 読めない entry は 5 回配られても試行が数えられず、dead-letter へ移らない。 -/
theorem unreadable_redelivered :
    ¬ (Run.exec (step {} (fun _ => none) fun _ => some "x") {}
      [.publish, .poll, .tick 60000, .reclaim, .tick 60000, .reclaim, .tick 60000, .reclaim,
        .tick 60000, .reclaim]).Served {} := by
  refine not_served_of_unreadable (e := 0) {} rfl _ ?_
  decide

end DeliveryState

end CipherPost.Live
