import CipherPost.Live.RawStore

/-!
# frame の場所

`write` の返す場所から読み戻すと、後に何を書いても、書いた記録がそのまま戻る。記録は frame の前に header と magic を付けたもので、
`read_frames` はそれを外さない。

* `RawLog.Placed` — 返した場所に記録があること
* `placed_exec` — 消さない操作の列の後では、返した場所に記録がある
* `raw_refs_exact_iff` — frame だけが戻るのは、何も書けなかったときだけである
-/

namespace CipherPost.Live

open Parsing (Bytes)

/-- 何も消さない操作。 -/
def RawOp.Keeps : RawOp → Prop
  | .purge _ _ => False
  | _ => True

/-- 空きのある間の操作。測れないときは空きがあるものとされる。 -/
def RawOp.Roomy (cfg : RawConfig) : RawOp → Prop
  | .write free _ _ => ∀ n, free = some n → cfg.diskMinFreeBytes ≤ n
  | _ => True

/-- 書ける frame の `write`。 -/
def RawOp.Packable (stamp : Stamp) (cfg : RawConfig) : RawOp → Prop
  | .write _ ts frame =>
    cfg.segmentSeconds ≠ 0 ∧ frame.length < 2 ^ 32 ∧ (stamp ts).isSome
  | _ => False

namespace RawLog

variable {stamp : Stamp} {cfg : RawConfig}

theorem step_write (s : RawLog) (free : Option Int) (ts : ℚ) (frame : Bytes) :
    s.step stamp cfg (.write free ts frame) =
      { store := (s.store.write stamp cfg free ts frame).2
        entries := s.entries ++ (s.store.write stamp cfg free ts frame).1.entries ts frame } := rfl

/-- 返した場所に、その frame の記録がある。 -/
structure Written (stamp : Stamp) (s : RawStore) (e : RawEntry) (record : Bytes) : Prop where
  made : frameRecord stamp e.ts e.frame = some record
  length : e.ref.length = record.length
  placed : ∃ before after, s.files.get? e.ref.segment = some (before ++ record ++ after) ∧
    e.ref.offset = before.length

theorem Written.extend {s s' : RawStore} {e : RawEntry} {record : Bytes}
    (h : Written stamp s e record) (hext : s.Extends s') : Written stamp s' e record where
  made := h.made
  length := h.length
  placed := by
    obtain ⟨before, after, hget, hoffset⟩ := h.placed
    obtain ⟨more, hmore⟩ := hext _ _ hget
    exact ⟨before, after ++ more, by rw [hmore, List.append_assoc], hoffset⟩

/-- 場所から読むと、記録が戻る。 -/
theorem Written.readFrames {s : RawStore} {e : RawEntry} {record : Bytes}
    (h : Written stamp s e record) : s.readFrames [e.ref] = [record] := by
  obtain ⟨before, after, hget, hoffset⟩ := h.placed
  have hslice : ((before ++ record ++ after).drop e.ref.offset).take e.ref.length = record := by
    rw [hoffset, h.length, List.append_assoc, List.drop_left, List.take_left]
  unfold RawStore.readFrames
  rw [List.filterMap_cons, hget, Option.map_some, hslice]
  rfl

/-- どの返した場所にも記録があり、同じ file の場所は順に重ならない。 -/
structure Placed (stamp : Stamp) (s : RawLog) : Prop where
  written : ∀ e ∈ s.entries, ∃ record, Written stamp s.store e record
  apart : s.entries.Pairwise fun e e' =>
    e.ref.segment = e'.ref.segment → e.ref.offset + e.ref.length ≤ e'.ref.offset

/-- 記録を足さずに store が延びる。 -/
theorem Placed.extend {s : RawLog} {store : RawStore} (h : s.Placed stamp)
    (hext : s.store.Extends store) : ({ s with store := store } : RawLog).Placed stamp where
  written := by
    intro e he
    obtain ⟨record, hrecord⟩ := h.written e he
    exact ⟨record, hrecord.extend hext⟩
  apart := h.apart

/-- 書いた場所は、前の場所の後にある。 -/
theorem Placed.write {s : RawLog} (h : s.Placed stamp) {free : Option Int} {ts : ℚ} {frame : Bytes}
    {r : RawRef} {store : RawStore}
    (hwrite : s.store.write stamp cfg free ts frame = (.ref r, store)) :
    ({ store := store, entries := s.entries ++ [⟨ts, frame, r⟩] } : RawLog).Placed stamp := by
  have hext : s.store.Extends store := by
    have hall := s.store.extends_write stamp cfg free ts frame
    rwa [hwrite] at hall
  obtain ⟨seg, record, -, -, hrecord, hoffset, hlength, hget⟩ :=
    s.store.write_ref stamp cfg hwrite
  refine ⟨fun e he => ?_, List.pairwise_append.mpr ⟨h.apart, List.pairwise_singleton _ _, ?_⟩⟩
  · rcases List.mem_append.mp he with he | he
    · obtain ⟨record, hold⟩ := h.written e he
      exact ⟨record, hold.extend hext⟩
    · rw [List.mem_singleton.mp he]
      refine ⟨record, hrecord, hlength, s.store.content r.segment, [], ?_, hoffset⟩
      rw [List.append_nil]
      exact hget
  · intro e he e' he' hsegment
    rw [List.mem_singleton.mp he'] at hsegment ⊢
    have hsegment : e.ref.segment = r.segment := hsegment
    show e.ref.offset + e.ref.length ≤ r.offset
    -- 前の記録は、いまの file の中に収まっている
    obtain ⟨record, hold⟩ := h.written e he
    obtain ⟨before, after, hfile, hbefore⟩ := hold.placed
    rw [hsegment] at hfile
    rw [hoffset, RawStore.content, hfile, Option.getD_some, hbefore, hold.length,
      List.length_append, List.length_append]
    omega

theorem Placed.step {s : RawLog} (h : s.Placed stamp) {op : RawOp} (hop : op.Keeps) :
    (s.step stamp cfg op).Placed stamp := by
  cases op with
  | write free ts frame =>
    have hext := s.store.extends_write stamp cfg free ts frame
    rw [step_write]
    rcases hwrite : s.store.write stamp cfg free ts frame with ⟨result, store⟩
    rw [hwrite] at hext
    have hsame := h.extend hext
    cases result with
    | ref r => exact h.write hwrite
    | dropped => rwa [← List.append_nil s.entries] at hsame
    | raised => rwa [← List.append_nil s.entries] at hsame
  | close => exact h.extend (RawStore.extends_of_files rfl)
  | restart => exact h.extend (RawStore.extends_of_files rfl)
  | purge now clock => exact hop.elim

theorem placed_exec {ops : List RawOp} (hops : ∀ op ∈ ops, op.Keeps) :
    (Run.exec (RawLog.step stamp cfg) {} ops).Placed stamp :=
  Run.Along.invariant (fun _ _ h hop => h.step hop) (Run.along_of_mem hops)
    ⟨fun _ he => (List.not_mem_nil he).elim, List.Pairwise.nil⟩

/-! ## 書けた frame -/

/-- 空きのある間は、書くのを止めない。 -/
theorem diskGuardActive_write (s : RawStore) {free : Option Int}
    (hactive : s.diskGuardActive = false) (hfree : ∀ n, free = some n → cfg.diskMinFreeBytes ≤ n)
    (ts : ℚ) (frame : Bytes) : (s.write stamp cfg free ts frame).2.diskGuardActive = false := by
  have hcheck := s.diskGuardActive_check cfg free hactive hfree
  rcases s.write_cases stamp cfg free ts frame with
    ⟨-, h⟩ | ⟨-, -, h⟩ | ⟨seg, -, -, ⟨-, h⟩ | ⟨record, -, h⟩⟩
  · rw [h]
    exact hcheck
  · rw [h]
    exact hcheck
  · rw [h]
    exact (RawStore.diskGuardActive_openSegment _ _).trans hcheck
  · rw [h]
    exact (RawStore.diskGuardActive_openSegment _ _).trans hcheck

theorem diskGuardActive_step {s : RawLog} (hactive : s.store.diskGuardActive = false) {op : RawOp}
    (hkeeps : op.Keeps) (hroomy : op.Roomy cfg) :
    (s.step stamp cfg op).store.diskGuardActive = false := by
  cases op with
  | write free ts frame => exact diskGuardActive_write s.store hactive hroomy ts frame
  | close => exact hactive
  | restart => rfl
  | purge now clock => exact hkeeps.elim

/-- 返した場所は、後の操作で忘れられない。 -/
theorem mem_entries_step {s : RawLog} {e : RawEntry} (he : e ∈ s.entries) (op : RawOp) :
    e ∈ (s.step stamp cfg op).entries := by
  cases op with
  | write free ts frame => exact List.mem_append_left _ he
  | close => exact he
  | restart => exact he
  | purge now clock => exact he

/-- 新しい場所は、`write` の返したものである。 -/
theorem entries_step {s : RawLog} {op : RawOp} {e : RawEntry}
    (he : e ∈ (s.step stamp cfg op).entries) : e ∈ s.entries ∨
      ∃ free ts frame store, op = .write free ts frame ∧
        s.store.write stamp cfg free ts frame = (.ref e.ref, store) ∧ e = ⟨ts, frame, e.ref⟩ := by
  cases op with
  | write free ts frame =>
    rw [step_write] at he
    rcases hwrite : s.store.write stamp cfg free ts frame with ⟨result, store⟩
    rw [hwrite] at he
    rcases List.mem_append.mp he with he | he
    · exact .inl he
    · cases result with
      | ref r =>
        obtain rfl := List.mem_singleton.mp he
        exact .inr ⟨free, ts, frame, store, rfl, hwrite, rfl⟩
      | dropped => cases he
      | raised => cases he
  | close => exact .inl he
  | restart => exact .inl he
  | purge now clock => exact .inl he

/-- 場所が返るのは、書ける frame の `write` である。 -/
theorem packable_of_entry {s : RawLog} {op : RawOp} {e : RawEntry}
    (he : e ∈ (s.step stamp cfg op).entries) : e ∈ s.entries ∨ op.Packable stamp cfg := by
  rcases entries_step he with he | ⟨free, ts, frame, store, rfl, hwrite, -⟩
  · exact .inl he
  · obtain ⟨seg, record, hseg, -, hrecord, -, -, -⟩ := s.store.write_ref stamp cfg hwrite
    have hsome : (frameRecord stamp ts frame).isSome := by rw [hrecord]; rfl
    refine .inr ⟨fun hzero => ?_, isSome_frameRecord.mp hsome⟩
    rw [RawStore.segmentOf, if_pos hzero] at hseg
    cases hseg

/-- 空きがあれば、書ける frame の場所が返る。 -/
theorem exists_entry {s : RawLog} (hactive : s.store.diskGuardActive = false) {op : RawOp}
    (hroomy : op.Roomy cfg) (hpack : op.Packable stamp cfg) :
    ∃ e, e ∈ (s.step stamp cfg op).entries := by
  cases op with
  | write free ts frame =>
    obtain ⟨hseconds, hframe⟩ := hpack
    obtain ⟨record, hrecord⟩ := Option.isSome_iff_exists.mp (isSome_frameRecord.mpr hframe)
    have hcheck := s.store.diskGuardActive_check cfg free hactive hroomy
    rcases s.store.write_cases stamp cfg free ts frame with ⟨h, -⟩ | ⟨-, h, -⟩ |
      ⟨seg, -, -, ⟨h, -⟩ | ⟨record', -, h⟩⟩
    · exact absurd (hcheck.symm.trans h) Bool.false_ne_true
    · rw [RawStore.segmentOf, if_neg hseconds] at h
      cases h
    · rw [hrecord] at h
      cases h
    · have hentry : ∃ e, e ∈ (s.store.write stamp cfg free ts frame).1.entries ts frame := by
        rw [h]
        exact ⟨_, List.mem_singleton_self _⟩
      obtain ⟨e, he⟩ := hentry
      exact ⟨e, List.mem_append_right _ he⟩
  | close => exact hpack.elim
  | restart => exact hpack.elim
  | purge now clock => exact hpack.elim

/-- 書ける frame を渡せば、場所が一つは返る。 -/
theorem exists_entry_exec {ops : List RawOp} (hkeeps : ∀ op ∈ ops, op.Keeps)
    (hroomy : ∀ op ∈ ops, op.Roomy cfg) {op : RawOp} (hop : op ∈ ops)
    (hpack : op.Packable stamp cfg) : ∃ e, e ∈ (Run.exec (RawLog.step stamp cfg) {} ops).entries := by
  obtain ⟨pre, post, rfl⟩ := List.append_of_mem hop
  have hactive : (Run.exec (RawLog.step stamp cfg) {} pre).store.diskGuardActive = false :=
    Run.Along.invariant (I := fun s : RawLog => s.store.diskGuardActive = false)
      (fun _ _ h hc => diskGuardActive_step h hc.1 hc.2)
      (Run.along_of_mem (P := fun op => op.Keeps ∧ op.Roomy cfg) fun op hop =>
        ⟨hkeeps op (List.mem_append_left _ hop), hroomy op (List.mem_append_left _ hop)⟩) rfl
  obtain ⟨e, he⟩ := exists_entry hactive (hroomy op hop) hpack
  refine ⟨e, ?_⟩
  rw [Run.exec_append, Run.exec_cons]
  exact Run.invariant (I := fun s : RawLog => e ∈ s.entries)
    (fun _ op h => mem_entries_step h op) post he

end RawLog

/--
**消さずに空きのある間のどの操作の列でも、返したどの場所からも書いた frame がそのまま戻るのは、ちょうど一つも書けなかったときである。**
書けた frame の場所からは、header と magic の付いた記録が戻る。
-/
theorem raw_refs_exact_iff (stamp : Stamp) (cfg : RawConfig) {ops : List RawOp}
    (hkeeps : ∀ op ∈ ops, op.Keeps) (hroomy : ∀ op ∈ ops, op.Roomy cfg) :
    let s := Run.exec (RawLog.step stamp cfg) {} ops
    ((∀ e ∈ s.entries, s.store.readFrames [e.ref] = [e.frame]) ↔
      ∀ op ∈ ops, ¬op.Packable stamp cfg) ∧
    ∀ e ∈ s.entries, ∃ record, frameRecord stamp e.ts e.frame = some record ∧
      s.store.readFrames [e.ref] = [record] := by
  intro s
  have hplaced : s.Placed stamp := RawLog.placed_exec hkeeps
  refine ⟨⟨fun hexact op hop hpack => ?_, fun hnone e he => ?_⟩, fun e he => ?_⟩
  · obtain ⟨e, he⟩ := RawLog.exists_entry_exec hkeeps hroomy hop hpack
    obtain ⟨record, hwritten⟩ := hplaced.written e he
    -- 戻る記録は、frame より 24 byte 長い
    have hframe : [record] = [e.frame] := hwritten.readFrames.symm.trans (hexact e he)
    have hlength := length_frameRecord hwritten.made
    rw [List.singleton_inj.mp hframe] at hlength
    omega
  · rcases Run.exists_of_exec (P := fun s : RawLog => e ∈ s.entries)
      (fun _ _ h => RawLog.packable_of_entry h) he with he | ⟨op, hop, hpack⟩
    · cases he
    · exact absurd hpack (hnone op hop)
  · obtain ⟨record, hwritten⟩ := hplaced.written e he
    exact ⟨record, hwritten.made, hwritten.readFrames⟩

/-- 1 秒の時刻の `d` の 8 byte。 -/
def secondStamp : Stamp := fun ts =>
  if ts = 1 then some ⟨#[0, 0, 0, 0, 128, 132, 46, 65], rfl⟩ else none

/-- 一つの frame を書く。 -/
def oneWrite : List RawOp := [.write none 1 [0xff, 0xff]]

theorem raw_refs_one : ¬∀ e ∈ (Run.exec (RawLog.step secondStamp {}) {} oneWrite).entries,
    (Run.exec (RawLog.step secondStamp {}) {} oneWrite).store.readFrames [e.ref] = [e.frame] := by
  have hops : ∀ op ∈ oneWrite, op = .write none 1 [0xff, 0xff] := by simp [oneWrite]
  intro h
  refine (raw_refs_exact_iff secondStamp {} (fun op hop => ?_) (fun op hop => ?_)).1.mp h _
    List.mem_cons_self ⟨by decide, by decide, by decide⟩
  · rw [hops op hop]
    exact trivial
  · rw [hops op hop]
    exact fun n hn => by cases hn

/-- `read_frames` は、書いた 2 byte ではなく、前に 24 byte の付いたものを返す。 -/
theorem read_frames_returns_header :
    (Run.exec (RawLog.step secondStamp {}) {} oneWrite).entries =
      [⟨1, [0xff, 0xff], ⟨"cap-0.seg", 0, 26⟩⟩] ∧
    (Run.exec (RawLog.step secondStamp {}) {} oneWrite).store.readFrames [⟨"cap-0.seg", 0, 26⟩] =
      [[0, 0, 0, 0, 0, 0, 0, 0, 0, 0, 0, 0, 128, 132, 46, 65, 2, 0, 0, 0, 0x20, 0x57, 0x50, 0x43,
        0xff, 0xff]] ∧
    (Run.exec (RawLog.step secondStamp {}) {} oneWrite).store.readFrames [⟨"cap-0.seg", 0, 26⟩] ≠
      [[0xff, 0xff]] := by
  decide +kernel

end CipherPost.Live
