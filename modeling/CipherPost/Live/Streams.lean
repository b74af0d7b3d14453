import CipherPost.Infra.Run
import CipherPost.Live.AlertState

/-!
# stream の consumer group

`app/live/streams.py` の `StreamConsumer` のうち、handler が呼ぶ操作。Redis の一つ一つの命令は
失敗することがあり、code は `ack`・`dead_letter`・`clear_attempts` の失敗を飲み込む。

* `GroupOp` — `note_attempt`・`clear_attempts`・`ack` と、`dead_letter` の二つの命令
* `Fault` — handler の途中の例外と、process の停止
* `Fault.cut` — 実際に行われる命令の列

配達の順や回数は問わない。ack 済みの entry の再配達も含めるので、実際の run はすべて含まれる。
-/

namespace CipherPost.Live

/-! ## Redis の命令の成否 -/

/-- 一回の handler の間の Redis の様子。 -/
structure Link where
  /-- Redis が応答する。 -/
  up : Bool := true
  /-- XACK が成功する。 -/
  xackOk : Bool := true
  /-- dead-letter stream への XADD が成功する。 -/
  dlqOk : Bool := true
  /-- findings stream への XADD が成功する。 -/
  xaddOk : Bool := true
  /-- digest を貯める前の GET が成功する。 -/
  getOk : Bool := true
  /-- digest を貯める SETEX が成功する。 -/
  setexOk : Bool := true
  /-- 組織を登録する SADD が成功する。 -/
  saddOk : Bool := true
  deriving DecidableEq

namespace Link

/-- XACK が届く。 -/
def acks (io : Link) : Bool := io.up && io.xackOk

/-- dead-letter の XADD が届く。 -/
def deadLetters (io : Link) : Bool := io.up && io.dlqOk

/-- findings stream への XADD が届く。 -/
def publishes (io : Link) : Bool := io.up && io.xaddOk

/-- digest を貯める SETEX が届く。 -/
def setexes (io : Link) : Bool := io.up && io.setexOk

/-- digest を貯める SETEX と、組織を登録する SADD が届く。 -/
def stashes (io : Link) : Bool := io.setexes && io.saddOk

end Link

/-! ## group の操作 -/

/-- dead-letter stream の record。decode できない payload は `{}` になる（`none`）。 -/
structure DeadLetter (P : Type) where
  entryId : EntryId
  payload : Option P
  attempts : Nat
  deriving DecidableEq

/-- consumer group の状態。 -/
structure Group (P : Type) where
  /-- `{stream}:attempts`。 -/
  attempts : Dict EntryId Nat := Dict.empty
  /-- dead-letter stream に書かれた record。 -/
  dlq : List (DeadLetter P) := []
  /-- pending list から外れた entry。 -/
  acked : List EntryId := []
  /-- handler が成功して ack まで進んだ entry（記録のみ）。 -/
  completed : List EntryId := []
  deriving DecidableEq

/-- handler が group に対して行う命令。 -/
inductive GroupOp (P : Type) where
  | noteAttempt (e : EntryId)
  | clearAttempts (e : EntryId)
  | ack (e : EntryId)
  | deadLetter (rec : DeadLetter P)
  | deadAck (e : EntryId)
  deriving DecidableEq

namespace Group

variable {P : Type}

/-- 命令一つの実行。 -/
def apply (io : Link) (g : Group P) : GroupOp P → Group P
  | .noteAttempt e =>
    if io.up then { g with attempts := g.attempts.set e ((g.attempts.get? e).getD 0 + 1) } else g
  | .clearAttempts e => if io.up then { g with attempts := g.attempts.erase e } else g
  | .ack e =>
    { g with
      completed := e :: g.completed
      acked := if io.acks then e :: g.acked else g.acked }
  | .deadLetter rec => if io.deadLetters then { g with dlq := g.dlq ++ [rec] } else g
  | .deadAck e => if io.acks then { g with acked := e :: g.acked } else g

/-- `note_attempt` が返す値。Redis が応答しなければ 1 である。 -/
def attemptsOf (io : Link) (g : Group P) (e : EntryId) : Nat :=
  if io.up then (g.attempts.get? e).getD 0 + 1 else 1

/-- handler の `except` の部分。試行が尽きていれば dead-letter へ移す。 -/
def failed (io : Link) (g : Group P) (maxAttempts : Nat) (e : EntryId) (payload : Option P) :
    List (GroupOp P) :=
  let attempts := attemptsOf io g e
  .noteAttempt e ::
    if maxAttempts ≤ attempts then [.deadLetter ⟨e, payload, attempts⟩, .deadAck e] else []

/-- `x` は dead-letter stream に写しのある entry、または handler が成功した entry である。 -/
def Settled (Copied : EntryId → DeadLetter P → Prop) (g : Group P) (e : EntryId) : Prop :=
  e ∈ g.completed ∨ ∃ rec ∈ g.dlq, Copied e rec

/-- handler の成功を記録するのは `ack` だけである。 -/
theorem completed_apply (io : Link) (g : Group P) (op : GroupOp P) :
    (g.apply io op).completed = match op with
      | .ack e => e :: g.completed
      | _ => g.completed := by
  cases op <;> simp only [apply] <;> split <;> rfl

/-- dead-letter stream に書くのは `deadLetter` だけである。 -/
theorem dlq_apply (io : Link) (g : Group P) (op : GroupOp P) :
    (g.apply io op).dlq = match op with
      | .deadLetter rec => if io.deadLetters then g.dlq ++ [rec] else g.dlq
      | _ => g.dlq := by
  cases op <;> simp only [apply] <;> split <;> rfl

/-- pending list から外すのは、XACK の二つだけである。 -/
theorem acked_apply (io : Link) (g : Group P) (op : GroupOp P) :
    (g.apply io op).acked = match op with
      | .ack e => if io.acks then e :: g.acked else g.acked
      | .deadAck e => if io.acks then e :: g.acked else g.acked
      | _ => g.acked := by
  cases op <;> simp only [apply] <;> split <;> rfl

theorem completed_subset_apply (io : Link) (g : Group P) (op : GroupOp P) :
    g.completed ⊆ (g.apply io op).completed := by
  intro e h
  rw [completed_apply]
  cases op with
  | ack e' => exact List.mem_cons_of_mem _ h
  | _ => exact h

theorem dlq_subset_apply (io : Link) (g : Group P) (op : GroupOp P) :
    g.dlq ⊆ (g.apply io op).dlq := by
  intro rec h
  rw [dlq_apply]
  cases op with
  | deadLetter rec' =>
    simp only
    split
    · exact List.mem_append_left _ h
    · exact h
  | _ => exact h

/-- 命令は、済んだ entry を済んだままにする。 -/
theorem Settled.apply {Copied : EntryId → DeadLetter P → Prop} {g : Group P} {e : EntryId}
    (h : g.Settled Copied e) (io : Link) (op : GroupOp P) : (g.apply io op).Settled Copied e := by
  rcases h with h | ⟨rec, hr, hc⟩
  · exact Or.inl (completed_subset_apply io g op h)
  · exact Or.inr ⟨rec, dlq_subset_apply io g op hr, hc⟩

theorem mem_completed_apply {g : Group P} {io : Link} {op : GroupOp P} {e : EntryId}
    (h : e ∈ (g.apply io op).completed) : e ∈ g.completed ∨ op = .ack e := by
  rw [completed_apply] at h
  cases op with
  | ack e' =>
    rcases List.mem_cons.mp h with rfl | h
    · exact Or.inr rfl
    · exact Or.inl h
  | _ => exact Or.inl h

/-- pending list から外れるのは、XACK が届いた命令だけである。 -/
theorem mem_acked_apply {g : Group P} {io : Link} {op : GroupOp P} {e : EntryId}
    (h : e ∈ (g.apply io op).acked) :
    e ∈ g.acked ∨ io.acks = true ∧ (op = .ack e ∨ op = .deadAck e) := by
  rw [acked_apply] at h
  have hcons : ∀ {e'}, e ∈ (if io.acks then e' :: g.acked else g.acked) →
      e ∈ g.acked ∨ io.acks = true ∧ e = e' := by
    intro e' h
    split at h
    · next hio => exact (List.mem_cons.mp h).symm.imp_right fun he => ⟨hio, he⟩
    · exact Or.inl h
  cases op with
  | ack e' =>
    rcases hcons h with h | ⟨hio, rfl⟩
    · exact Or.inl h
    · exact Or.inr ⟨hio, Or.inl rfl⟩
  | deadAck e' =>
    rcases hcons h with h | ⟨hio, rfl⟩
    · exact Or.inl h
    · exact Or.inr ⟨hio, Or.inr rfl⟩
  | _ => exact Or.inl h

end Group

/-! ## 途中の失敗 -/

/-- handler の途中で起きること。 -/
structure Fault where
  /-- この個数の命令の後で例外が起きる。 -/
  raiseAt : Option Nat := none
  /-- この個数の命令の後で process が止まる。 -/
  crashAt : Option Nat := none
  deriving DecidableEq

namespace Fault

variable {ι : Type}

/-- `try` の中の `body` で例外が起きると `except` の部分へ移り、起きなければ `tail` が続く。 -/
def raised (fault : Fault) (body tail except : List ι) : List ι :=
  match fault.raiseAt with
  | none => body ++ tail
  | some k => body.take k ++ except

/-- 実際に行われる命令の列。process の停止は、最後の命令の前までのどこでも起こる。 -/
def cut (fault : Fault) (body tail except : List ι) : List ι :=
  match fault.crashAt with
  | none => fault.raised body tail except
  | some k => (fault.raised body tail except).dropLast.take k

/-- `crashAt` があれば、process は止まる。 -/
def crashes (fault : Fault) : Bool := fault.crashAt.isSome

/-- 先頭の `n` 個の命令は、例外にも停止にも遭わずに行われる。 -/
def reaches (fault : Fault) (n : Nat) : Bool :=
  fault.raiseAt.all (fun k => decide (n ≤ k)) && fault.crashAt.all (fun k => decide (n ≤ k))

/-- `body` の終わりまで届けば、`body` の後には `tail` か `except` の命令だけが続く。 -/
theorem exists_cut_eq {fault : Fault} {body tail except : List ι}
    (h : fault.reaches body.length = true) (htail : tail ≠ []) (hexcept : except ≠ []) :
    ∃ rest, fault.cut body tail except = body ++ rest ∧ ∀ i ∈ rest, i ∈ tail ++ except := by
  simp only [reaches, Bool.and_eq_true] at h
  have hraised : ∃ rest, fault.raised body tail except = body ++ rest ∧ rest ≠ [] ∧
      ∀ i ∈ rest, i ∈ tail ++ except := by
    unfold raised
    split
    · exact ⟨tail, rfl, htail, fun i hi => List.mem_append_left _ hi⟩
    · next k hk =>
      rw [hk, Option.all_some, decide_eq_true_eq] at h
      rw [List.take_of_length_le h.1]
      exact ⟨except, rfl, hexcept, fun i hi => List.mem_append_right _ hi⟩
  obtain ⟨rest, heq, hne, hrest⟩ := hraised
  unfold cut
  split
  · exact ⟨rest, heq, hrest⟩
  · next k hk =>
    rw [hk, Option.all_some, decide_eq_true_eq] at h
    rw [heq, List.dropLast_append_of_ne_nil hne, List.take_append, List.take_of_length_le h.2]
    exact ⟨_, rfl, fun i hi =>
      hrest i (List.dropLast_subset _ (List.mem_of_mem_take hi))⟩

/-- 例外の無い呼び出しが途中で止まれば、最後の命令は行われない。 -/
theorem cut_of_crash {fault : Fault} {body tail except : List ι} {k : Nat}
    (hr : fault.raiseAt = none) (hk : fault.crashAt = some k) :
    fault.cut body tail except = (body ++ tail).dropLast.take k := by
  unfold cut raised
  rw [hk, hr]

theorem mem_raised_of_mem_cut {fault : Fault} {body tail except : List ι} {i : ι}
    (hi : i ∈ fault.cut body tail except) : i ∈ fault.raised body tail except := by
  unfold cut at hi
  split at hi
  · exact hi
  · exact List.dropLast_subset _ (List.mem_of_mem_take hi)

/-- 停止は、その個数より後の命令を行わせない。 -/
theorem mem_take_of_mem_cut {fault : Fault} {body tail except : List ι} {k : Nat}
    (hk : fault.crashAt = some k) {i : ι} (hi : i ∈ fault.cut body tail except) :
    i ∈ (fault.raised body tail except).take k := by
  unfold cut at hi
  rw [hk] at hi
  simp only [List.dropLast_eq_take, List.take_take] at hi
  exact List.take_subset_take_left _ (Nat.min_le_left _ _) hi

/-- 例外の前に行われる `body` の命令は、`k` 個までである。 -/
theorem mem_raised {fault : Fault} {body tail except : List ι} {k : Nat}
    (hk : fault.raiseAt = some k) {i : ι} (hi : i ∈ fault.raised body tail except) :
    i ∈ body.take k ∨ i ∈ except := by
  unfold raised at hi
  rw [hk] at hi
  exact List.mem_append.mp hi

theorem mem_take_raised {fault : Fault} {body tail except : List ι} {k : Nat} {i : ι}
    (hi : i ∈ (fault.raised body tail except).take k) : i ∈ body.take k ∨ i ∈ tail ++ except := by
  unfold raised at hi
  split at hi
  · rw [List.take_append] at hi
    rcases List.mem_append.mp hi with hi | hi
    · exact .inl hi
    · exact .inr (List.mem_append_left _ (List.mem_of_mem_take hi))
  · next j _ =>
    rw [List.take_append, List.take_take] at hi
    rcases List.mem_append.mp hi with hi | hi
    · exact .inl (List.take_subset_take_left body (Nat.min_le_left _ _) hi)
    · exact .inr (List.mem_append_right _ (List.mem_of_mem_take hi))

/-- `n + 1` 個目に届かないのは、例外か停止がその前にあるときである。 -/
theorem exists_of_not_reaches {fault : Fault} {n : Nat} (h : fault.reaches (n + 1) = false) :
    (∃ k, fault.raiseAt = some k ∧ k ≤ n) ∨ ∃ k, fault.crashAt = some k ∧ k ≤ n := by
  have hall : ∀ o : Option Nat, (o.all fun k => decide (n + 1 ≤ k)) = false →
      ∃ k, o = some k ∧ k ≤ n := by
    intro o ho
    cases o with
    | none => cases ho
    | some k =>
      rw [Option.all_some, decide_eq_false_iff_not] at ho
      exact ⟨k, rfl, Nat.le_of_lt_succ (Nat.lt_of_not_le ho)⟩
  rw [reaches, Bool.and_eq_false_iff] at h
  exact h.imp (hall _) (hall _)

/-- `n + 1` 個目に届かなければ、行われる `body` の命令は先頭の `n` 個だけである。 -/
theorem mem_cut {fault : Fault} {body tail except : List ι} {n : Nat}
    (h : fault.reaches (n + 1) = false) {i : ι} (hi : i ∈ fault.cut body tail except) :
    i ∈ body.take n ∨ i ∈ tail ++ except := by
  rcases exists_of_not_reaches h with ⟨k, hk, hkn⟩ | ⟨k, hk, hkn⟩
  · rcases mem_raised hk (mem_raised_of_mem_cut hi) with hm | hm
    · exact .inl (List.take_subset_take_left body hkn hm)
    · exact .inr (List.mem_append_right _ hm)
  · rcases mem_take_raised (mem_take_of_mem_cut hk hi) with hm | hm
    · exact .inl (List.take_subset_take_left body hkn hm)
    · exact .inr hm

/-- 行われるのは、`body` か、その後に続くはずだった命令である。 -/
theorem mem_or_of_mem_cut {fault : Fault} {body tail except : List ι} {i : ι}
    (hi : i ∈ fault.cut body tail except) : i ∈ body ∨ i ∈ tail ++ except := by
  have hm := mem_raised_of_mem_cut hi
  rw [← List.take_length (l := fault.raised body tail except)] at hm
  exact (mem_take_raised hm).imp_left List.mem_of_mem_take

/-- `except` の無い呼び出しで行われるのは、`body` の命令だけである。 -/
theorem mem_of_mem_cut {fault : Fault} {body : List ι} {i : ι} (hi : i ∈ fault.cut body [] []) :
    i ∈ body :=
  (mem_or_of_mem_cut hi).resolve_right List.not_mem_nil

/-- 最後の命令まで行われたなら、例外も停止も無かった。 -/
theorem cut_eq_of_getLast_mem {fault : Fault} {body except : List ι} (tail : List ι) {i : ι}
    (hbody : i ∉ body) (htail : i ∉ tail) (hexcept : i ∉ except)
    (hi : i ∈ fault.cut body (tail ++ [i]) except) :
    fault.cut body (tail ++ [i]) except = body ++ (tail ++ [i]) := by
  cases hr : fault.raiseAt with
  | some k =>
    rcases mem_raised hr (mem_raised_of_mem_cut hi) with hm | hm
    · exact absurd (List.mem_of_mem_take hm) hbody
    · exact absurd hm hexcept
  | none =>
    cases hc : fault.crashAt with
    | none =>
      unfold cut raised
      rw [hc, hr]
    | some k =>
      -- 停止は最後の命令を必ず失う
      rw [cut_of_crash hr hc, ← List.append_assoc, List.dropLast_concat] at hi
      rcases List.mem_append.mp (List.mem_of_mem_take hi) with hm | hm
      · exact absurd hm hbody
      · exact absurd hm htail

variable {σ : Type} {run : σ → ι → σ} {C : σ → ι → Prop}

/-- 命令の列に沿って成り立つ条件は、停止で途切れた列に沿っても成り立つ。 -/
theorem along_cut {fault : Fault} {body tail except : List ι} {s : σ}
    (hbody : fault.raiseAt = none → Run.Along run C s (body ++ tail))
    (hexcept : ∀ k, fault.raiseAt = some k → Run.Along run C s (body.take k ++ except)) :
    Run.Along run C s (fault.cut body tail except) := by
  have hfull : Run.Along run C s (fault.raised body tail except) := by
    unfold raised
    split
    · next h => exact hbody h
    · next k h => exact hexcept k h
  unfold cut
  split
  · exact hfull
  · exact hfull.isPrefix ((List.take_prefix _ _).trans (List.dropLast_prefix _))

end Fault

end CipherPost.Live
