import CipherPost.Agent.ShipLoop
import CipherPost.Api.Ingest

/-!
# sensor と受け口の間

`app/agent/shipper.py` の `Shipper.send_batch` を `_ship_loop` に入れた sensor と、その要求を受ける
`ingest_sessions`。server は entry ごとに stream へ出し、出せなかった entry も `rejected` に数えて 200 を
返す。sensor は 200 なら batch の全体を ack する。

* `Attempt` — 一回の POST と、その間の server と network の様子
* `SensorState.step` — sensor と server の一歩
* `Settled` — queue を離れた item は、stream に出たか、形の誤りで拒まれたか、捨てた数に入っている
* `settled_run` — 出せなかった item を含む応答の後に ack しなければ、それが保たれる
-/

namespace CipherPost.Agent

open Api

/-! ## 受け口 -/

section Server

variable (content : Nat → Json)

/-- batch の JSON。 -/
def sessionsBody (batch : List Nat) : Json := .obj [("sessions", .arr (batch.map content))]

/-- batch のうち stream に出る item。`k` は先頭の番号である。 -/
def publishedItems (publishOk : Nat → Bool) : Nat → List Nat → List Nat
  | _, [] => []
  | k, i :: rest =>
    let published := publishedItems publishOk (k + 1) rest
    if entryOk (content i) && publishOk k then i :: published else published

/-- batch のうち、形は正しいが XADD に失敗する item。 -/
def failedItems (publishOk : Nat → Bool) : Nat → List Nat → List Nat
  | _, [] => []
  | k, i :: rest =>
    let failed := failedItems publishOk (k + 1) rest
    if entryOk (content i) && !publishOk k then i :: failed else failed

/-- batch のうち、形の誤りで拒まれる item。 -/
def refusedItems (batch : List Nat) : List Nat := batch.filter fun i => !entryOk (content i)

/-- batch の item は、この三つのどれかに入る。 -/
theorem mem_served (publishOk : Nat → Bool) {i : Nat} : ∀ (batch : List Nat) (k : Nat), i ∈ batch →
    i ∈ publishedItems content publishOk k batch ∨ i ∈ refusedItems content batch ∨
      i ∈ failedItems content publishOk k batch := by
  intro batch
  induction batch with
  | nil => exact fun _ h => absurd h List.not_mem_nil
  | cons j rest ih =>
    intro k h
    rcases List.mem_cons.mp h with rfl | h
    · cases he : entryOk (content i) <;> cases hp : publishOk k <;>
        simp [publishedItems, refusedItems, failedItems, he, hp]
    · rcases ih (k + 1) h with h | h | h
      · refine .inl ?_
        rw [publishedItems]
        split
        · exact List.mem_cons_of_mem _ h
        · exact h
      · refine .inr (.inl ?_)
        rw [refusedItems, List.filter_cons]
        split
        · exact List.mem_cons_of_mem _ h
        · exact h
      · refine .inr (.inr ?_)
        rw [failedItems]
        split
        · exact List.mem_cons_of_mem _ h
        · exact h

/-- 受け口が stream に出すのは、`publishedItems` の stamp された内容である。 -/
theorem publishEntries_map (token : AgentToken) (now : Nat) (publishOk : Nat → Bool) :
    ∀ (batch : List Nat) (k : Nat), publishEntries token now publishOk k (batch.map content)
      = (publishedItems content publishOk k batch).map fun i => stamp token now (content i) := by
  intro batch
  induction batch with
  | nil => exact fun _ => rfl
  | cons i rest ih =>
    intro k
    rw [List.map_cons, publishEntries, publishedItems, ih]
    cases entryOk (content i) && publishOk k with
    | true => rfl
    | false => rfl

end Server

/-! ## 一回の POST -/

/-- 一回の POST。 -/
structure Attempt where
  /-- 要求が server に届く。 -/
  reached : Bool := true
  /-- その時の DB と Redis。body は batch から決まる。 -/
  request : IngestRequest
  /-- 応答が sensor に届く。 -/
  answered : Bool := true
  /-- 200 の応答の pin が合い、body が JSON として読める。 -/
  readable : Bool := true

/-- `send_batch` にとっての一回の結果。 -/
inductive Outcome where
  | accepted
  | retry
  /-- ValueError。 -/
  | refused
  /-- 401。 -/
  | revoked
  deriving DecidableEq

section Client

variable (cfg : IngestConfig) (content : Nat → Json)

/-- server の応答と、stream に出た payload。 -/
def Attempt.serve (a : Attempt) (batch : List Nat) : IngestResponse × List Json :=
  ingestSessions cfg { a.request with body := some (sessionsBody content batch) }

/-- server が entry ごとの処理に入って 200 を返す。 -/
def Attempt.handled (a : Attempt) (batch : List Nat) : Bool :=
  a.reached && match (a.serve cfg content batch).1 with
    | .ok _ _ _ => true
    | _ => false

/-- `send_batch` の一回の分岐。 -/
def Attempt.outcome (a : Attempt) (batch : List Nat) : Outcome :=
  if !a.reached || !a.answered then .retry
  else
    match (a.serve cfg content batch).1 with
    | .ok _ _ _ => if a.readable then .accepted else .refused
    | .refused .backedUp => .retry
    | .refused (.error code _) =>
      if code = 401 then .revoked
      else if 400 ≤ code ∧ code < 500 then .refused
      else .retry

/-- 処理された要求の stream は、`publishedItems` の内容である。 -/
theorem Attempt.serve_snd {a : Attempt} {batch : List Nat} (h : a.handled cfg content batch = true) :
    ∃ token, a.request.token = some token ∧ (a.serve cfg content batch).2
      = (publishedItems content a.request.publishOk 0 batch).map
          fun i => stamp token a.request.now (content i) := by
  rw [handled, Bool.and_eq_true] at h
  cases hr : (a.serve cfg content batch).1 with
  | refused r => simp [hr] at h
  | ok accepted rejected orgId =>
    obtain ⟨token, sessions, ht, hs, hp⟩ := ingestSessions_ok hr
    have hl : sessions = batch.map content :=
      readSessions_eq_ok (d := [("sessions", .arr (batch.map content))]) rfl rfl hs
    refine ⟨token, ht, ?_⟩
    rw [← publishEntries_map, ← hl]
    exact hp

/-- 受け取られた要求は、server が処理している。 -/
theorem Attempt.handled_of_accepted {a : Attempt} {batch : List Nat}
    (h : a.outcome cfg content batch = .accepted) : a.handled cfg content batch = true := by
  rw [outcome] at h
  cases hreach : a.reached with
  | false => simp [hreach] at h
  | true =>
    cases hr : (a.serve cfg content batch).1 with
    | ok accepted rejected orgId => simp [handled, hreach, hr]
    | refused r =>
      cases r with
      | backedUp =>
        simp only [hr] at h
        split at h <;> cases h
      | error code detail =>
        simp only [hr] at h
        split at h
        · cases h
        · split at h
          · cases h
          · split at h <;> cases h

end Client

/-! ## sensor -/

/-- sensor の状態と、server が扱った item の記録。 -/
structure SensorState where
  ship : ShipState := {}
  /-- 今の batch について済んだ POST の数。 -/
  tries : Nat := 0
  /-- 受け取られて ack を待つ要求で、XADD に失敗した item。 -/
  accepted : Option (List Nat) := none
  /-- `Shipper.revoked`。 -/
  revoked : Bool := false
  published : List Nat := []
  refused : List Nat := []

/-- 事象。 -/
inductive SensorEvent where
  | append
  | readLines
  | slice
  | attempt (a : Attempt)
  | ack

namespace SensorState

section Step

variable (cfg : IngestConfig) (content : Nat → Json) (size : Nat → Nat) (maxBytes maxRetries : Nat)

/-- server の側。 -/
def handle (s : SensorState) (a : Attempt) (batch : List Nat) : SensorState :=
  if a.handled cfg content batch then
    { s with
      published := s.published ++ publishedItems content a.request.publishOk 0 batch
      refused := s.refused ++ refusedItems content batch }
  else s

/-- `send_batch` が例外で終わる。 -/
def fail (s : SensorState) : SensorState :=
  { s with ship := s.ship.step size maxBytes .sendFailed, tries := 0 }

/-- sensor の側。 -/
def receive (s : SensorState) (a : Attempt) (batch : List Nat) : SensorState :=
  match a.outcome cfg content batch with
  | .accepted => { s with accepted := some (failedItems content a.request.publishOk 0 batch) }
  | .refused => s.fail size maxBytes
  | .revoked => { s.fail size maxBytes with revoked := true }
  | .retry =>
    if s.tries + 1 < max 1 maxRetries then { s with tries := s.tries + 1 }
    else s.fail size maxBytes

/-- 一歩。 -/
def step (s : SensorState) : SensorEvent → SensorState
  | .append => { s with ship := s.ship.step size maxBytes .append }
  | .readLines =>
    if s.revoked then s else { s with ship := s.ship.step size maxBytes .readLines }
  | .slice => { s with ship := s.ship.step size maxBytes .slice }
  | .attempt a =>
    match s.ship.phase, s.accepted with
    | .sending _ batch _, none =>
      (s.handle cfg content a batch).receive cfg content size maxBytes maxRetries a batch
    | _, _ => s
  | .ack =>
    match s.accepted with
    | some _ => { s with ship := s.ship.step size maxBytes .ack, accepted := none, tries := 0 }
    | none => s

end Step

/-- 出せなかった item を残して ack しない。 -/
def AckSafe (s : SensorState) : SensorEvent → Prop
  | .ack => ∀ failed, s.accepted = some failed → s.ship.Clean ∧ ∀ i ∈ failed, i ∈ s.published
  | _ => True

/-- queue を離れた item の行き先。 -/
structure Settled (content : Nat → Json) (s : SensorState) : Prop where
  left : ∀ i, i < s.ship.appended → i ∉ s.ship.queue.unread →
    i ∈ s.published ∨ i ∈ s.refused ∨ i ∈ s.ship.droppedItems
  malformed : ∀ i ∈ s.refused, entryOk (content i) = false
  counted : s.ship.queue.dropped = s.ship.droppedItems.length

/-! ## 不変量 -/

/-- 不変量。 -/
structure Inv (content : Nat → Json) (s : SensorState) : Prop where
  ship : s.ship.Inv
  acked : ∀ a ∈ s.ship.acks, ∀ i ∈ a.batch, i ∈ s.published ∨ i ∈ s.refused
  malformed : ∀ i ∈ s.refused, entryOk (content i) = false
  accepted : ∀ failed, s.accepted = some failed →
    ∃ start batch mark, s.ship.phase = .sending start batch mark ∧
      ∀ i ∈ batch, i ∈ s.published ∨ i ∈ s.refused ∨ i ∈ failed

variable {content : Nat → Json}

theorem inv_init : Inv content {} where
  ship := ShipState.inv_init
  acked := fun _ h => absurd h List.not_mem_nil
  malformed := fun _ h => absurd h List.not_mem_nil
  accepted := fun _ h => by cases h

theorem Inv.settled {s : SensorState} (h : s.Inv content) : s.Settled content where
  left := by
    intro i hi hu
    rcases h.ship.accounted.items i hi with ⟨a, ha, -, hb⟩ | hm | hd
    · exact (h.acked a ha i hb).imp_right .inl
    · exact absurd hm hu
    · exact .inr (.inr hd)
  malformed := h.malformed
  counted := h.ship.accounted.counted

/-- queue の側だけの一歩。応答を待つ間の loop は動かない。 -/
theorem Inv.setShip {s : SensorState} (h : s.Inv content) {ship : ShipState} (hs : ship.Inv)
    (hacks : ship.acks = s.ship.acks) (hphase : s.accepted ≠ none → ship.phase = s.ship.phase) :
    Inv content { s with ship := ship } where
  ship := hs
  acked := fun a ha => h.acked a (hacks ▸ ha)
  malformed := h.malformed
  accepted := by
    intro failed hf
    obtain ⟨start, batch, mark, hp, hb⟩ := h.accepted failed hf
    have hne : s.accepted ≠ none := fun hn => by rw [hn] at hf; cases hf
    exact ⟨start, batch, mark, (hphase hne).trans hp, hb⟩

theorem Inv.sending {s : SensorState} (h : s.Inv content) (hne : s.accepted ≠ none) :
    ∃ start batch mark, s.ship.phase = .sending start batch mark := by
  obtain ⟨failed, hf⟩ := Option.ne_none_iff_exists'.mp hne
  obtain ⟨start, batch, mark, hp, -⟩ := h.accepted failed hf
  exact ⟨start, batch, mark, hp⟩

section Steps

variable (cfg : IngestConfig) (size : Nat → Nat) (maxBytes maxRetries : Nat) {s : SensorState}
  (h : s.Inv content)
include h

theorem inv_append : (s.step cfg content size maxBytes maxRetries .append).Inv content :=
  h.setShip (ShipState.inv_append size maxBytes h.ship) rfl fun _ => rfl

theorem inv_readLines : (s.step cfg content size maxBytes maxRetries .readLines).Inv content := by
  rw [step]
  split
  · exact h
  · refine h.setShip (ShipState.inv_readLines size maxBytes h.ship) ?_ fun hne => ?_
    · rw [ShipState.step]
      cases s.ship.phase <;> rfl
    · obtain ⟨start, batch, mark, hp⟩ := h.sending hne
      rw [ShipState.step, hp, hp]

theorem inv_slice : (s.step cfg content size maxBytes maxRetries .slice).Inv content := by
  refine h.setShip (ShipState.inv_slice size maxBytes h.ship) ?_ fun hne => ?_
  · cases hp : s.ship.phase with
    | idle => simp only [ShipState.step, hp]
    | read lines mark =>
      simp only [ShipState.step, hp]
      split <;> rfl
    | sending start batch mark => simp only [ShipState.step, hp]
  · obtain ⟨start, batch, mark, hp⟩ := h.sending hne
    simp only [ShipState.step, hp]

/-- server の記録は増えるだけである。 -/
theorem inv_handle (a : Attempt) (batch : List Nat) :
    (s.handle cfg content a batch).Inv content := by
  rw [handle]
  split
  · have hgrow : ∀ {i}, i ∈ s.published ∨ i ∈ s.refused →
        i ∈ s.published ++ publishedItems content a.request.publishOk 0 batch ∨
          i ∈ s.refused ++ refusedItems content batch :=
      fun hi => hi.imp (List.mem_append_left _) (List.mem_append_left _)
    refine ⟨h.ship, fun b hb i hi => hgrow (h.acked b hb i hi), ?_, ?_⟩
    · intro i hi
      rcases List.mem_append.mp hi with hi | hi
      · exact h.malformed i hi
      · have := (List.mem_filter.mp hi).2
        simpa using this
    · intro failed hf
      obtain ⟨start, b, mark, hp, hb⟩ := h.accepted failed hf
      refine ⟨start, b, mark, hp, fun i hi => ?_⟩
      rcases hb i hi with hi | hi | hi
      · exact .inl (List.mem_append_left _ hi)
      · exact .inr (.inl (List.mem_append_left _ hi))
      · exact .inr (.inr hi)
  · exact h

/-- 応答を待っていない時の失敗。 -/
theorem inv_fail (hn : s.accepted = none) : (s.fail size maxBytes).Inv content := by
  have hs := h.setShip (ShipState.inv_sendFailed size maxBytes h.ship)
    (by rw [ShipState.step]; cases s.ship.phase <;> rfl) (fun hne => absurd hn hne)
  exact ⟨hs.ship, hs.acked, hs.malformed, hs.accepted⟩

omit h in
/-- 200 の要求の item は、三つのどれかに記録される。 -/
theorem mem_handle {a : Attempt} {batch : List Nat} (hh : a.handled cfg content batch = true) {i : Nat}
    (hi : i ∈ batch) : i ∈ (s.handle cfg content a batch).published ∨
      i ∈ (s.handle cfg content a batch).refused ∨
      i ∈ failedItems content a.request.publishOk 0 batch := by
  rw [handle, if_pos hh]
  rcases mem_served content a.request.publishOk batch 0 hi with hp | hr | hf
  · exact .inl (List.mem_append_right _ hp)
  · exact .inr (.inl (List.mem_append_right _ hr))
  · exact .inr (.inr hf)

omit h in
@[simp] theorem handle_ship (a : Attempt) (batch : List Nat) :
    (s.handle cfg content a batch).ship = s.ship := by
  rw [handle]
  split <;> rfl

omit h in
@[simp] theorem handle_accepted (a : Attempt) (batch : List Nat) :
    (s.handle cfg content a batch).accepted = s.accepted := by
  rw [handle]
  split <;> rfl

theorem inv_attempt (a : Attempt) :
    (s.step cfg content size maxBytes maxRetries (.attempt a)).Inv content := by
  rw [step]
  split
  · rename_i start batch mark hp hacc
    have ht := inv_handle cfg h a batch
    have hn : (s.handle cfg content a batch).accepted = none := by rw [handle_accepted, hacc]
    have hfail := inv_fail size maxBytes ht hn
    rw [receive]
    split
    · rename_i ho
      -- 受け取られた要求は server が処理しているので、batch の item はどれかに記録されている
      refine ⟨ht.ship, ht.acked, ht.malformed, ?_⟩
      intro failed hf
      rw [← Option.some.inj hf]
      refine ⟨start, batch, mark, ?_, fun i hi => ?_⟩
      · show (s.handle cfg content a batch).ship.phase = _
        rw [handle_ship, hp]
      · exact mem_handle cfg (Attempt.handled_of_accepted cfg content ho) hi
    · exact hfail
    · exact ⟨hfail.ship, hfail.acked, hfail.malformed, hfail.accepted⟩
    · split
      · exact ⟨ht.ship, ht.acked, ht.malformed, ht.accepted⟩
      · exact hfail
  · exact h

theorem inv_ack (hc : s.AckSafe .ack) :
    (s.step cfg content size maxBytes maxRetries .ack).Inv content := by
  cases hacc : s.accepted with
  | none => simpa only [step, hacc] using h
  | some failed =>
    obtain ⟨hclean, hfailed⟩ := hc failed hacc
    obtain ⟨start, batch, mark, hp, hb⟩ := h.accepted failed hacc
    have hacks : (s.ship.step size maxBytes .ack).acks
        = s.ship.acks ++ [⟨s.ship.covers (start + batch.length), batch⟩] := by
      simp only [ShipState.step, hp]
    simp only [step, hacc]
    refine ⟨ShipState.inv_ack size maxBytes h.ship hclean, ?_, h.malformed, ?_⟩
    · intro r hr i hi
      rw [hacks] at hr
      rcases List.mem_append.mp hr with hr | hr
      · exact h.acked r hr i hi
      · rw [List.mem_singleton.mp hr] at hi
        -- 出せなかった item も、条件により後の要求で出ている
        rcases hb i hi with hi | hi | hi
        · exact .inl hi
        · exact .inr hi
        · exact .inl (hfailed i hi)
    · exact fun _ hf => by cases hf

end Steps

/-- 一歩は不変量を保つ。 -/
theorem inv_step (cfg : IngestConfig) (size : Nat → Nat) (maxBytes maxRetries : Nat)
    {s : SensorState} (h : s.Inv content) {e : SensorEvent} (hc : s.AckSafe e) :
    (s.step cfg content size maxBytes maxRetries e).Inv content := by
  cases e with
  | append => exact inv_append cfg size maxBytes maxRetries h
  | readLines => exact inv_readLines cfg size maxBytes maxRetries h
  | slice => exact inv_slice cfg size maxBytes maxRetries h
  | attempt a => exact inv_attempt cfg size maxBytes maxRetries h a
  | ack => exact inv_ack cfg size maxBytes maxRetries h hc

/-! ## queue を離れる item -/

/-- **出せなかった item を残す ack と、溢れを跨ぐ ack が無ければ、queue を離れた item は失われない。** -/
theorem settled_run (cfg : IngestConfig) (content : Nat → Json) (size : Nat → Nat)
    (maxBytes maxRetries : Nat) (es : List SensorEvent)
    (hc : Run.Along (step cfg content size maxBytes maxRetries) AckSafe {} es) :
    ∀ pre, pre <+: es →
      (Run.exec (step cfg content size maxBytes maxRetries) {} pre).Settled content := by
  intro pre hpre
  exact (Run.Along.invariant_isPrefix (I := Inv content)
    (fun _ _ h hc => inv_step cfg size maxBytes maxRetries h hc) hc inv_init hpre).settled

/-- metadata の要る key を持つ entry。 -/
def sampleEntry : Json := .obj [("five_tuple", .str "a:1-b:2"), ("protocol", .str "SMTP")]

/-- Redis が応じるかどうかだけの違う POST。 -/
def samplePost (publishOk : Nat → Bool) : Attempt :=
  { request := { token := some { name := "edge", orgId := "acme" }, body := none, now := 0
                 publishOk := publishOk } }

/-- 一つの item を送って ack するまで。 -/
def sampleRun (publishOk : Nat → Bool) : List SensorEvent :=
  [.append, .readLines, .slice, .attempt (samplePost publishOk), .ack]

/-- 二つ目だけが、要る key の無い entry である。 -/
def mixedEntries (i : Nat) : Json := if i = 1 then .obj [("protocol", .str "SMTP")] else sampleEntry

/-- 三つの item を、一度 server に届かなかった後に送って ack し、その間にもう一つ貯める。 -/
def resentRun : List SensorEvent :=
  [.append, .append, .append, .readLines, .slice,
    .attempt { samplePost (fun _ => true) with reached := false },
    .attempt (samplePost fun _ => true), .append, .ack]

/-- Redis が応じれば、形の正しい item は stream に出て、正しくない item は拒まれて、queue を離れる。 -/
theorem settled_run_published :
    (∀ pre, pre <+: resentRun →
      (Run.exec (step {} mixedEntries (fun _ => 1) 100 6) {} pre).Settled mixedEntries) ∧
    (Run.exec (step {} mixedEntries (fun _ => 1) 100 6) {} resentRun).published = [0, 2] ∧
    (Run.exec (step {} mixedEntries (fun _ => 1) 100 6) {} resentRun).refused = [1] ∧
    (Run.exec (step {} mixedEntries (fun _ => 1) 100 6) {} resentRun).ship.queue.unread = [3] := by
  refine ⟨settled_run {} mixedEntries (fun _ => 1) 100 6 resentRun ?_, by decide, by decide, by decide⟩
  refine ⟨trivial, trivial, trivial, trivial, trivial, trivial, trivial, trivial, ?_, trivial⟩
  intro failed hf
  rw [← Option.some.inj hf]
  exact ⟨rfl, fun i hi => absurd hi List.not_mem_nil⟩

/-- XADD の失敗は 200 で返り、item は出ないまま ack される。 -/
theorem rejected_item_lost :
    ¬ (Run.exec (step {} (fun _ => sampleEntry) (fun _ => 1) 100 6) {}
      (sampleRun fun _ => false)).Settled (fun _ => sampleEntry) := by
  intro h
  rcases h.left 0 (by decide) (by decide) with hp | hr | hd
  · exact absurd hp (by decide)
  · exact absurd hr (by decide)
  · exact absurd hd (by decide)

end SensorState

end CipherPost.Agent
