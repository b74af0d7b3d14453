import CipherPost.Infra.Run
import CipherPost.Live.Publisher

/-!
# publisher の操作の列

`publish` と `flush` を好きな順に並べ、XADD の成否も好きに決めて、最初から通して見る。渡したものは、stream に足されたか、
buffer にあるか、捨てて数えられたかのちょうど一つであり、buffer を通ったものは入れた順に stream に届く。

渡したものには操作の番号を付ける。これは証明のための記録で、code は使わない。

* `Publisher.attempt`・`Publisher.sent` — `flush` の loop
* `PublishOp`・`Publisher.runOps` — 操作の列
* `Publisher.Delivered` — 渡したものの勘定と順序
* `publisher_runs_delivered` — どの操作の列の後でも成り立つ
-/

namespace CipherPost.Live

/-- 操作。XADD の成否は、`publish` では一つ、`flush` では試みの順の列である。 -/
inductive PublishOp (P : Type) where
  | publish (payload : P) (ok : Bool)
  | flush (outcomes : List Bool)
  deriving DecidableEq

namespace Publisher

variable {P : Type}

/-- 一つを、成功するまで `retries` 回まで試みる。残りの成否も返す。 -/
def attempt : Nat → List Bool → Bool × List Bool
  | 0, outcomes => (false, outcomes)
  | _ + 1, [] => (false, [])
  | _ + 1, true :: outcomes => (true, outcomes)
  | retries + 1, false :: outcomes => attempt retries outcomes

/-- `flush` の loop。先頭が送れる間だけ進み、送った数を返す。 -/
def sent (retries : Nat) : List P → List Bool → Nat
  | [], _ => 0
  | _ :: buf, outcomes =>
    match attempt (max 1 retries) outcomes with
    | (true, outcomes) => sent retries buf outcomes + 1
    | (false, _) => 0

/-- `i` 番目の操作。 -/
def runOp (maxBuffer retries : Nat) (pub : Publisher (Nat × P)) :
    PublishOp P × Nat → Option (Publisher (Nat × P))
  | (.publish payload ok, i) => pub.publish maxBuffer (i, payload) ok
  | (.flush outcomes, _) => some (pub.flush (sent retries pub.buf outcomes))

/-- 操作の列。`none` は例外である。 -/
def runOps (maxBuffer retries : Nat) (ops : List (PublishOp P)) : Option (Publisher (Nat × P)) :=
  ops.zipIdx.foldlM (runOp maxBuffer retries) {}

theorem runOps_concat (maxBuffer retries : Nat) (ops : List (PublishOp P)) (op : PublishOp P) :
    runOps maxBuffer retries (ops ++ [op]) =
      (runOps maxBuffer retries ops).bind fun pub => runOp maxBuffer retries pub (op, ops.length) := by
  unfold runOps
  rw [List.zipIdx_append, List.foldlM_append, List.zipIdx_singleton, Nat.zero_add]
  simp only [List.foldlM_cons, List.foldlM_nil, bind_pure]
  rfl

end Publisher

/-! ## 渡したもの -/

section
variable {P : Type}

/-- `i` 番目の操作で渡したもの。 -/
def PublishOp.offeredAt (i : Nat) : PublishOp P → Option (Nat × P)
  | .publish payload _ => some (i, payload)
  | .flush _ => none

/-- `i` 番目の操作で buffer に入れたもの。 -/
def PublishOp.queuedAt (i : Nat) : PublishOp P → Option (Nat × P)
  | .publish payload ok => if ok then none else some (i, payload)
  | .flush _ => none

/-- 渡したもの。 -/
def offered (ops : List (PublishOp P)) : List (Nat × P) := Run.numbered PublishOp.offeredAt ops

/-- buffer に入れたもの。 -/
def queued (ops : List (PublishOp P)) : List (Nat × P) := Run.numbered PublishOp.queuedAt ops

theorem offered_concat (ops : List (PublishOp P)) (op : PublishOp P) :
    offered (ops ++ [op]) = offered ops ++ (op.offeredAt ops.length).toList :=
  Run.numbered_concat ops op

theorem queued_concat (ops : List (PublishOp P)) (op : PublishOp P) :
    queued (ops ++ [op]) = queued ops ++ (op.queuedAt ops.length).toList :=
  Run.numbered_concat ops op

theorem offeredAt_number (i : Nat) (op : PublishOp P) (e : Nat × P) (h : op.offeredAt i = some e) :
    e.1 = i := by
  cases op with
  | publish payload ok =>
    obtain rfl := Option.some.inj h
    rfl
  | flush outcomes => cases h

theorem queuedAt_number (i : Nat) (op : PublishOp P) (e : Nat × P) (h : op.queuedAt i = some e) :
    e.1 = i := by
  cases op with
  | publish payload ok =>
    cases ok with
    | true => cases h
    | false =>
      obtain rfl := Option.some.inj h
      rfl
  | flush outcomes => cases h

end

/-! ## 勘定と順序 -/

namespace Publisher

variable {P : Type}

/-- stream に足したもののうち、buffer を通ったもの。 -/
def throughBuffer (ops : List (PublishOp P)) (pub : Publisher (Nat × P)) : List (Nat × P) :=
  pub.published.filter fun e => decide (e.1 ∈ (queued ops).map Prod.fst)

/--
操作の列の後の publisher。渡したものは、stream、buffer、捨てたもののちょうど一つにあり、buffer は上限の内にあり、捨てたものは
数えられている。buffer を通ったものは、buffer に残るものより前に、入れた順に並ぶ。
-/
structure Delivered (maxBuffer : Nat) (ops : List (PublishOp P)) (pub : Publisher (Nat × P)) :
    Prop where
  sound : Sound maxBuffer pub
  split : pub.held = (offered ops : Multiset (Nat × P))
  fifo : (pub.throughBuffer ops ++ pub.buf).Sublist (queued ops)

namespace Delivered

variable {maxBuffer : Nat} {ops : List (PublishOp P)} {pub pub' : Publisher (Nat × P)}

theorem empty (maxBuffer : Nat) : Delivered maxBuffer [] ({} : Publisher (Nat × P)) where
  sound := sound_empty maxBuffer
  split := rfl
  fifo := List.Sublist.refl _

/-- stream に足したものの番号は、まだ使われていない番号より小さい。 -/
theorem number_lt (h : Delivered maxBuffer ops pub) : ∀ e ∈ pub.published, e.1 < ops.length := by
  intro e he
  have hmem : e ∈ pub.held := by
    unfold held
    exact Multiset.mem_add.mpr (.inl (Multiset.mem_add.mpr (.inl he)))
  rw [h.split] at hmem
  exact Run.lt_of_mem_numbered offeredAt_number hmem

/-- 次の操作で buffer に入れても、stream に足したもののうち buffer を通ったものは変わらない。 -/
theorem throughBuffer_concat (h : Delivered maxBuffer ops pub) (op : PublishOp P) :
    pub.throughBuffer (ops ++ [op]) = pub.throughBuffer ops := by
  unfold throughBuffer
  refine List.filter_congr fun e he => ?_
  have hlt := h.number_lt e he
  rw [queued_concat, List.map_append, decide_eq_decide, List.mem_append]
  refine or_iff_left fun hmem => ?_
  obtain ⟨e', he', heq⟩ := List.mem_map.mp hmem
  have hnew := queuedAt_number _ op e' (Option.mem_toList.mp he')
  omega

/-- 送れたものは、buffer を通らない。 -/
theorem throughBuffer_published (ops : List (PublishOp P)) (pub : Publisher (Nat × P))
    (payload : P) :
    ({ pub with published := pub.published ++ [(ops.length, payload)] } :
      Publisher (Nat × P)).throughBuffer (ops ++ [.publish payload true]) =
      pub.throughBuffer ops := by
  have hqueued : queued (ops ++ [.publish payload true]) = queued ops := by
    rw [queued_concat]
    exact List.append_nil _
  have hnew : ops.length ∉ (queued ops).map Prod.fst := by
    intro hmem
    obtain ⟨e, he, heq⟩ := List.mem_map.mp hmem
    exact Nat.ne_of_lt (Run.lt_of_mem_numbered queuedAt_number he) heq
  unfold throughBuffer
  rw [hqueued, List.filter_append, List.filter_cons_of_neg (by simpa using hnew), List.filter_nil,
    List.append_nil]

/-- **`publish` は勘定と順序を保つ。** -/
theorem publish (h : Delivered maxBuffer ops pub) {payload : P} {ok : Bool}
    (hpub : pub.publish maxBuffer (ops.length, payload) ok = some pub') :
    Delivered maxBuffer (ops ++ [.publish payload ok]) pub' where
  sound := h.sound.publish hpub
  split := by
    rw [held_publish hpub, h.split, offered_concat, ← Multiset.coe_add]
    rfl
  fifo := by
    have hold := h.throughBuffer_concat (.publish payload ok)
    rcases publish_cases hpub with ⟨rfl, rfl⟩ | ⟨rfl, -, oldest, rest, hbuf, rfl⟩ | ⟨rfl, -, rfl⟩
    · rw [throughBuffer_published, queued_concat]
      exact (List.append_nil (queued ops)).symm ▸ h.fifo
    · -- 最も古いものが抜け、新しいものが末尾に並ぶ
      have hrest : (pub.throughBuffer ops ++ rest).Sublist (queued ops) := by
        refine List.Sublist.trans ?_ h.fifo
        rw [hbuf]
        exact List.Sublist.append_left (List.sublist_cons_self oldest rest) _
      rw [queued_concat, ← List.append_assoc]
      exact List.Sublist.append (hold ▸ hrest) (List.Sublist.refl _)
    · rw [queued_concat, ← List.append_assoc]
      exact List.Sublist.append (hold ▸ h.fifo) (List.Sublist.refl _)

/-- **`flush` は勘定と順序を保つ。** -/
theorem flush (h : Delivered maxBuffer ops pub) (outcomes : List Bool) (n : Nat) :
    Delivered maxBuffer (ops ++ [.flush outcomes]) (pub.flush n) where
  sound := h.sound.flush n
  split := by
    rw [held_flush, h.split, offered_concat]
    exact congrArg _ (List.append_nil _).symm
  fifo := by
    have hqueued : queued (ops ++ [.flush outcomes]) = queued ops := by
      rw [queued_concat]
      exact List.append_nil _
    -- buffer にあるものは、みな buffer に入れたものである
    have hall : (pub.buf.take n).filter (fun e => decide (e.1 ∈ (queued ops).map Prod.fst)) =
        pub.buf.take n := List.filter_eq_self.mpr fun e he => decide_eq_true
      (List.mem_map_of_mem (h.fifo.subset (List.mem_append_right _ (List.mem_of_mem_take he))))
    have hmoved : (pub.flush n).throughBuffer (ops ++ [.flush outcomes]) ++ (pub.flush n).buf =
        pub.throughBuffer ops ++ pub.buf := by
      unfold throughBuffer Publisher.flush
      rw [hqueued, List.filter_append, hall, List.append_assoc, List.take_append_drop]
    rw [hmoved, hqueued]
    exact h.fifo

/-- 渡したものの数の勘定。 -/
theorem count (h : Delivered maxBuffer ops pub) :
    (offered ops).length = pub.published.length + pub.buf.length + pub.dropped := by
  have hcard := congrArg Multiset.card h.split
  unfold held at hcard
  rw [Multiset.card_add, Multiset.card_add, Multiset.coe_card, Multiset.coe_card,
    Multiset.coe_card, Multiset.coe_card, h.sound.counted] at hcard
  exact hcard.symm

/-- 同じものが二度 stream に足されることは無い。 -/
theorem once (h : Delivered maxBuffer ops pub) : (pub.published.map Prod.fst).Nodup := by
  have hnodup : ((offered ops).map Prod.fst).Nodup :=
    List.pairwise_map.mpr ((Run.pairwise_numbered offeredAt_number ops).imp Nat.ne_of_lt)
  have hperm : (pub.published ++ pub.buf ++ pub.discarded).Perm (offered ops) := by
    rw [← Multiset.coe_eq_coe, ← h.split, held, Multiset.coe_add, Multiset.coe_add]
  have hall := (hperm.map Prod.fst).nodup_iff.mpr hnodup
  rw [List.map_append, List.map_append] at hall
  exact (List.nodup_append.mp (List.nodup_append.mp hall).1).1

end Delivered

/--
**どの操作と成否の列の後でも、渡したものの数は、足したものと `depth` と `dropped` の和で、`depth` は上限を超えず、buffer を通った
ものは入れた順に stream に届き、同じものが二度足されることは無い。**
-/
theorem publisher_runs_delivered {maxBuffer : Nat} (hmax : 1 ≤ maxBuffer) (retries : Nat)
    (ops : List (PublishOp P)) : ∃ pub, runOps maxBuffer retries ops = some pub ∧
      pub.held = (offered ops : Multiset (Nat × P)) ∧
      (offered ops).length = pub.published.length + pub.buf.length + pub.dropped ∧
      pub.buf.length ≤ maxBuffer ∧
      (pub.throughBuffer ops ++ pub.buf).Sublist (queued ops) ∧
      (pub.published.map Prod.fst).Nodup := by
  have hrun : ∃ pub, runOps maxBuffer retries ops = some pub ∧ Delivered maxBuffer ops pub := by
    induction ops using List.reverseRecOn with
    | nil => exact ⟨{}, rfl, Delivered.empty maxBuffer⟩
    | append_singleton ops op ih =>
      obtain ⟨pub, hpub, h⟩ := ih
      rw [runOps_concat, hpub, Option.bind_some]
      cases op with
      | publish payload ok =>
        cases hnext : pub.publish maxBuffer (ops.length, payload) ok with
        | none =>
          have hzero := (publish_eq_none_iff.mp hnext).2.1
          omega
        | some pub' => exact ⟨pub', hnext, h.publish hnext⟩
      | flush outcomes => exact ⟨_, rfl, h.flush outcomes _⟩
  obtain ⟨pub, hpub, h⟩ := hrun
  exact ⟨pub, hpub, h.split, h.count, h.sound.fits, h.fifo, h.once⟩

/-- 一つを捨て、二つを送り直し、一つを残す。 -/
theorem publisher_runs_retry :
    runOps 2 3 [.publish "a" false, .publish "b" false, .publish "c" false, .publish "d" true,
        .flush [false, true, true], .publish "e" false] =
      some { buf := [(5, "e")], published := [(3, "d"), (1, "b"), (2, "c")]
             discarded := [(0, "a")], dropped := 1 } ∧
    ∃ pub, runOps 2 3 [.publish "a" false, .publish "b" false, .publish "c" false,
        .publish "d" true, .flush [false, true, true], .publish "e" false] = some pub ∧
      5 = pub.published.length + pub.buf.length + pub.dropped := by
  refine ⟨by decide, ?_⟩
  obtain ⟨pub, hpub, -, hcount, -⟩ := publisher_runs_delivered (by decide : 1 ≤ 2) 3
    [.publish "a" false, .publish "b" false, .publish "c" false, .publish "d" true,
      .flush [false, true, true], .publish "e" false]
  exact ⟨pub, hpub, hcount⟩

end Publisher

end CipherPost.Live
