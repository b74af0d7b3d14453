import CipherPost.Agent.DiskQueue
import CipherPost.Infra.Run
import Mathlib.Data.List.Range

/-!
# sensor の送信の loop

`app/agent/agent.py` の `_ship_loop` と、並行して走る `DiskQueue.append`。`read_batch` は lock の中で行を
読み、外で `offset` から切り出す。`ack` の番号は切り出したときのものだから、その間に queue が溢れて先頭が
捨てられると、番号は別の行を指す。

item は加えられた順の番号で表し、行の長さは番号ごとに任意である。

* `ShipState.step` — append と、read・切り出し・送信・ack の一歩
* `Accounted` — どの item も、読まれて ack されたか、まだ読まれていないか、捨てた数に入っている
* `accounted_iff` — それが崩れないのは、溢れを跨ぐ ack の無い実行である
-/

namespace CipherPost.Agent

/-! ## 状態 -/

/-- loop のいる所。`mark` は行を読んだときの `dropped` である。 -/
inductive ShipPhase where
  | idle
  /-- `read_batch` が行を読み終えた。 -/
  | read (lines : List Nat) (mark : Nat)
  /-- `send_batch` の中か、その直後。 -/
  | sending (start : Nat) (batch : List Nat) (mark : Nat)
  deriving DecidableEq

/-- 一回の ack。 -/
structure AckRecord where
  /-- ack が新たに済ませた番号。まだ加えられていない item の位置も含む。 -/
  covered : List Nat
  batch : List Nat
  deriving DecidableEq

/-- queue と loop の状態、および済んだ ack と捨てた item の記録。 -/
structure ShipState where
  queue : DiskQueue Nat := {}
  /-- これまでに加えた item の数。 -/
  appended : Nat := 0
  phase : ShipPhase := .idle
  acks : List AckRecord := []
  droppedItems : List Nat := []
  deriving DecidableEq

/-- 事象。 -/
inductive ShipEvent where
  | append
  | readLines
  | slice
  | sendFailed
  | ack
  deriving DecidableEq

namespace ShipState

section Step

variable (size : Nat → Nat) (maxBytes : Nat)

/-- `ack(through)` が新たに済ませる番号。 -/
def covers (s : ShipState) (through : Nat) : List Nat :=
  ((s.queue.lines ++ List.range' s.appended through).take through).drop s.queue.offset

/-- `append`。 -/
def append (s : ShipState) : ShipState :=
  let queue := s.queue.append size maxBytes s.appended
  { s with
    queue := queue, appended := s.appended + 1
    droppedItems := s.droppedItems
      ++ (s.queue.lines ++ [s.appended]).take (queue.dropped - s.queue.dropped) }

/-- 一歩。loop はその段にない事象を行わない。 -/
def step (s : ShipState) : ShipEvent → ShipState
  | .append => s.append size maxBytes
  | .readLines =>
    match s.phase with
    | .idle => { s with phase := .read s.queue.lines s.queue.dropped }
    | _ => s
  | .slice =>
    match s.phase with
    | .read lines mark =>
      let r := DiskQueue.sliceBatch some 100 s.queue.offset lines
      if r.2 = [] then { s with phase := .idle } else { s with phase := .sending r.1 r.2 mark }
    | _ => s
  | .sendFailed =>
    match s.phase with
    | .sending _ _ _ => { s with phase := .idle }
    | _ => s
  | .ack =>
    match s.phase with
    | .sending start batch _ =>
      let through := start + batch.length
      { s with
        queue := s.queue.ack through, phase := .idle
        acks := s.acks ++ [⟨s.covers through, batch⟩] }
    | _ => s

end Step

/-- 送っている batch の行を読んでから、queue は溢れていない。 -/
def Clean (s : ShipState) : Prop :=
  match s.phase with
  | .sending _ _ mark => mark = s.queue.dropped
  | _ => True

/-- `read_batch` が返した後に ack された。 -/
def Acked (s : ShipState) (i : Nat) : Prop := ∃ a ∈ s.acks, i ∈ a.covered ∧ i ∈ a.batch

/-- どの item も行き先がある。 -/
structure Accounted (s : ShipState) : Prop where
  items : ∀ i, i < s.appended → s.Acked i ∨ i ∈ s.queue.unread ∨ i ∈ s.droppedItems
  acks : ∀ a ∈ s.acks, ∀ i ∈ a.covered, i ∈ a.batch
  counted : s.queue.dropped = s.droppedItems.length

/-! ## 不変量 -/

/-- `origin` から始まる file を読んだ後の、`first` から始まる今の file。 -/
structure Since (q : DiskQueue Nat) (first origin mark : Nat) : Prop where
  mark_le : mark ≤ q.dropped
  clean : mark = q.dropped → origin = first
  dirty : mark < q.dropped → origin < first ∧ q.offset = 0

/-- loop の手元の行と、今の file の関係。 -/
def PhaseOk (s : ShipState) (first : Nat) : Prop :=
  match s.phase with
  | .idle => True
  | .read lines mark =>
    ∃ origin, Since s.queue first origin mark ∧ lines = List.range' origin lines.length ∧
      (mark = s.queue.dropped →
        s.queue.offset ≤ lines.length ∧ lines.length ≤ s.queue.lines.length)
  | .sending start batch mark =>
    ∃ origin, Since s.queue first origin mark ∧ batch = List.range' (origin + start) batch.length ∧
      batch ≠ [] ∧
      (mark = s.queue.dropped →
        start = s.queue.offset ∧ start + batch.length ≤ s.queue.lines.length)

/-- file の行は `first` から続く番号である。 -/
structure Shape (s : ShipState) (first : Nat) : Prop where
  lines : s.queue.lines = List.range' first s.queue.lines.length
  appended : first + s.queue.lines.length = s.appended
  offset_le : s.queue.offset ≤ s.queue.lines.length
  phase : s.PhaseOk first

/-- 不変量。 -/
structure Inv (s : ShipState) : Prop where
  shape : ∃ first, s.Shape first
  accounted : s.Accounted

theorem inv_init : Inv {} where
  shape := ⟨0, rfl, rfl, Nat.le_refl 0, trivial⟩
  accounted :=
    { items := fun _ h => absurd h (Nat.not_lt_zero _)
      acks := fun _ h => absurd h List.not_mem_nil
      counted := rfl }

/-! ### append -/

/-- append は一つ加えるだけか、加えた列の先頭 `d` 個を捨てる。 -/
theorem append_cases (size : Nat → Nat) (maxBytes : Nat) (s : ShipState) :
    s.append size maxBytes = { s with
        queue := { s.queue with lines := s.queue.lines ++ [s.appended] }
        appended := s.appended + 1 } ∨
      ∃ d, 1 ≤ d ∧ d ≤ s.queue.lines.length + 1 ∧ s.append size maxBytes = { s with
        queue := { lines := (s.queue.lines ++ [s.appended]).drop d, offset := 0
                   dropped := s.queue.dropped + d }
        appended := s.appended + 1
        droppedItems := s.droppedItems ++ (s.queue.lines ++ [s.appended]).take d } := by
  rcases DiskQueue.append_cases size maxBytes s.queue s.appended with h | ⟨d, h1, hd, h⟩
  · refine .inl ?_
    rw [append, h]
    simp
  · refine .inr ⟨d, h1, hd, ?_⟩
    rw [append, h]
    simp

theorem Shape.lines_append {s : ShipState} {first : Nat} (h : s.Shape first) :
    s.queue.lines ++ [s.appended] = List.range' first (s.queue.lines.length + 1) := by
  rw [List.range'_1_concat, ← h.lines, h.appended]

/-- 手元の行と file の関係は、file が同じ位置で伸びるか、溢れて古くなるかすれば保たれる。 -/
theorem PhaseOk.transport {s t : ShipState} {first first' : Nat} (h : s.PhaseOk first)
    (hphase : t.phase = s.phase)
    (hsince : ∀ origin mark, Since s.queue first origin mark →
      Since t.queue first' origin mark ∧ (mark = t.queue.dropped → mark = s.queue.dropped ∧
        t.queue.offset = s.queue.offset ∧ s.queue.lines.length ≤ t.queue.lines.length)) :
    t.PhaseOk first' := by
  unfold PhaseOk at h ⊢
  rw [hphase]
  cases hph : s.phase with
  | idle => trivial
  | read lines mark =>
    rw [hph] at h
    obtain ⟨origin, hs, hl, hc⟩ := h
    -- まだ溢れを跨いでいなければ、offset も行の位置も前と同じである
    obtain ⟨hs', hkeep⟩ := hsince origin mark hs
    refine ⟨origin, hs', hl, fun hm => ?_⟩
    obtain ⟨hold, hoff, hlen⟩ := hkeep hm
    obtain ⟨h1, h2⟩ := hc hold
    exact ⟨hoff.symm ▸ h1, Nat.le_trans h2 hlen⟩
  | sending start batch mark =>
    rw [hph] at h
    obtain ⟨origin, hs, hb, hne, hc⟩ := h
    obtain ⟨hs', hkeep⟩ := hsince origin mark hs
    refine ⟨origin, hs', hb, hne, fun hm => ?_⟩
    obtain ⟨hold, hoff, hlen⟩ := hkeep hm
    obtain ⟨h1, h2⟩ := hc hold
    exact ⟨h1.trans hoff.symm, Nat.le_trans h2 hlen⟩

/-- 一つ加えた列。 -/
theorem Shape.grow {s : ShipState} {first : Nat} (h : s.Shape first) :
    Shape { s with queue := { s.queue with lines := s.queue.lines ++ [s.appended] }
                   appended := s.appended + 1 } first where
  lines := by
    show s.queue.lines ++ [s.appended] = List.range' first (s.queue.lines ++ [s.appended]).length
    rw [h.lines_append, List.length_range']
  appended := by
    show first + (s.queue.lines ++ [s.appended]).length = s.appended + 1
    rw [List.length_append, List.length_singleton, ← h.appended, Nat.add_assoc]
  offset_le := by
    show s.queue.offset ≤ (s.queue.lines ++ [s.appended]).length
    rw [List.length_append]
    exact Nat.le_add_right_of_le h.offset_le
  phase := by
    refine h.phase.transport rfl fun origin mark hs => ?_
    refine ⟨⟨hs.mark_le, hs.clean, hs.dirty⟩, fun hm => ⟨hm, rfl, ?_⟩⟩
    show s.queue.lines.length ≤ (s.queue.lines ++ [s.appended]).length
    rw [List.length_append]
    exact Nat.le_add_right _ _

/-- 溢れの後は、それより前に読んだ行はすべて古い。 -/
theorem Since.overflow {q : DiskQueue Nat} {first origin mark d : Nat}
    (h : Since q first origin mark) (hd : 1 ≤ d) (lines : List Nat) :
    Since { lines := lines, offset := 0, dropped := q.dropped + d } (first + d) origin mark ∧
      mark ≠ q.dropped + d := by
  have hle := h.mark_le
  refine ⟨⟨Nat.le_add_right_of_le hle, fun hm => ?_, fun _ => ⟨?_, rfl⟩⟩, by omega⟩
  · have : mark = q.dropped + d := hm
    omega
  · rcases Nat.eq_or_lt_of_le hle with heq | hlt
    · have := h.clean heq
      omega
    · have := (h.dirty hlt).1
      omega

/-- 一つ加えた列の先頭 `d` 個を捨てた列。 -/
theorem Shape.overflow {s : ShipState} {first d : Nat} (h : s.Shape first) (h1 : 1 ≤ d)
    (hd : d ≤ s.queue.lines.length + 1) (items : List Nat) :
    Shape { s with
      queue := { lines := (s.queue.lines ++ [s.appended]).drop d, offset := 0
                 dropped := s.queue.dropped + d }
      appended := s.appended + 1, droppedItems := items } (first + d) where
  lines := by
    show (s.queue.lines ++ [s.appended]).drop d = List.range' (first + d)
      ((s.queue.lines ++ [s.appended]).drop d).length
    rw [h.lines_append, List.drop_range', List.length_range', Nat.mul_one]
  appended := by
    show first + d + ((s.queue.lines ++ [s.appended]).drop d).length = s.appended + 1
    have := h.appended
    rw [List.length_drop, List.length_append, List.length_singleton]
    omega
  offset_le := Nat.zero_le _
  phase := by
    refine h.phase.transport rfl fun origin mark hs => ?_
    -- 溢れより前に読んだ行は、もう今の file の行ではない
    obtain ⟨hs', hne⟩ := hs.overflow h1 ((s.queue.lines ++ [s.appended]).drop d)
    exact ⟨hs', fun hm => absurd hm hne⟩

theorem mem_unread_grow {q : DiskQueue Nat} {n i : Nat} (h : i ∈ q.unread) :
    i ∈ DiskQueue.unread { q with lines := q.lines ++ [n] } := by
  show i ∈ (q.lines ++ [n]).drop q.offset
  rw [List.drop_append]
  exact List.mem_append_left _ h

theorem Accounted.grow {s : ShipState} (h : s.Accounted)
    (hoff : s.queue.offset ≤ s.queue.lines.length) :
    Accounted { s with queue := { s.queue with lines := s.queue.lines ++ [s.appended] }
                       appended := s.appended + 1 } where
  items := by
    intro i hi
    rcases Nat.lt_succ_iff_lt_or_eq.mp hi with hi | hi
    · rcases h.items i hi with ha | hu | hd
      · exact .inl ha
      · exact .inr (.inl (mem_unread_grow hu))
      · exact .inr (.inr hd)
    · -- 新しい行は、まだ読まれていない
      refine .inr (.inl ?_)
      show i ∈ (s.queue.lines ++ [s.appended]).drop s.queue.offset
      rw [hi, List.drop_append_of_le_length hoff]
      exact List.mem_append_right _ (List.mem_singleton_self _)
  acks := h.acks
  counted := h.counted

theorem Accounted.overflow {s : ShipState} (h : s.Accounted) {d : Nat}
    (hd : d ≤ s.queue.lines.length + 1) :
    Accounted { s with
      queue := { lines := (s.queue.lines ++ [s.appended]).drop d, offset := 0
                 dropped := s.queue.dropped + d }
      appended := s.appended + 1
      droppedItems := s.droppedItems ++ (s.queue.lines ++ [s.appended]).take d } where
  items := by
    -- 捨てられない行はすべて、まだ読まれていない行に戻る
    have hall : ∀ i ∈ s.queue.lines ++ [s.appended],
        i ∈ (s.queue.lines ++ [s.appended]).drop d ∨
          i ∈ s.droppedItems ++ (s.queue.lines ++ [s.appended]).take d := by
      intro i hi
      rw [← List.take_append_drop d (s.queue.lines ++ [s.appended]), List.mem_append] at hi
      exact hi.symm.imp_right (List.mem_append_right _)
    intro i hi
    rcases Nat.lt_succ_iff_lt_or_eq.mp hi with hi | hi
    · rcases h.items i hi with ha | hu | hd
      · exact .inl ha
      · exact .inr (hall i (List.mem_append_left _ (List.mem_of_mem_drop hu)))
      · exact .inr (.inr (List.mem_append_left _ hd))
    · exact .inr (hall i (hi ▸ List.mem_append_right _ (List.mem_singleton_self _)))
  acks := h.acks
  counted := by
    show s.queue.dropped + d = (s.droppedItems ++ (s.queue.lines ++ [s.appended]).take d).length
    rw [List.length_append, List.length_take, List.length_append, List.length_singleton,
      Nat.min_eq_left hd, h.counted]

theorem inv_append (size : Nat → Nat) (maxBytes : Nat) {s : ShipState} (h : s.Inv) :
    (s.append size maxBytes).Inv := by
  obtain ⟨first, hs⟩ := h.shape
  rcases append_cases size maxBytes s with he | ⟨d, h1, hd, he⟩
  · rw [he]
    exact ⟨⟨first, hs.grow⟩, h.accounted.grow hs.offset_le⟩
  · rw [he]
    exact ⟨⟨first + d, hs.overflow h1 hd _⟩, h.accounted.overflow hd⟩

/-! ### read と切り出し -/

theorem Accounted.setPhase {s : ShipState} (h : s.Accounted) (phase : ShipPhase) :
    Accounted { s with phase := phase } := ⟨h.items, h.acks, h.counted⟩

theorem inv_readLines (size : Nat → Nat) (maxBytes : Nat) {s : ShipState} (h : s.Inv) :
    (s.step size maxBytes .readLines).Inv := by
  obtain ⟨first, hs⟩ := h.shape
  cases hph : s.phase with
  | idle =>
    simp only [step, hph]
    refine ⟨⟨first, hs.lines, hs.appended, hs.offset_le, first, ⟨Nat.le_refl _, fun _ => rfl, ?_⟩,
      hs.lines, fun _ => ⟨hs.offset_le, Nat.le_refl _⟩⟩, h.accounted.setPhase _⟩
    exact fun hlt => absurd hlt (Nat.lt_irrefl _)
  | read lines mark => simpa only [step, hph] using h
  | sending start batch mark => simpa only [step, hph] using h

/-- 番号の続く列から切り出した batch も、番号が続く。 -/
theorem sliceBatch_range' {lines : List Nat} {origin : Nat} (offset : Nat)
    (h : lines = List.range' origin lines.length) :
    DiskQueue.sliceBatch some 100 offset lines = (min offset lines.length,
      List.range' (origin + min offset lines.length)
        (min 100 (lines.length - min offset lines.length))) := by
  rw [DiskQueue.sliceBatch, List.filterMap_some]
  generalize lines.length = n at h ⊢
  rw [h, List.drop_range', Nat.mul_one]
  rcases Nat.le_total 100 (n - min offset n) with hle | hle
  · rw [List.take_range'_of_length_ge hle, Nat.min_eq_left hle]
  · rw [List.take_range'_of_length_le hle, Nat.min_eq_right hle]

theorem inv_slice (size : Nat → Nat) (maxBytes : Nat) {s : ShipState} (h : s.Inv) :
    (s.step size maxBytes .slice).Inv := by
  obtain ⟨first, hs⟩ := h.shape
  have hp := hs.phase
  cases hph : s.phase with
  | idle => simpa only [step, hph] using h
  | sending start batch mark => simpa only [step, hph] using h
  | read lines mark =>
    rw [PhaseOk, hph] at hp
    obtain ⟨origin, hsince, hl, hc⟩ := hp
    simp only [step, hph, sliceBatch_range' s.queue.offset hl]
    split
    · exact ⟨⟨first, hs.lines, hs.appended, hs.offset_le, trivial⟩, h.accounted.setPhase _⟩
    · rename_i hne
      refine ⟨⟨first, hs.lines, hs.appended, hs.offset_le, origin, ?_, ?_, hne, fun hm => ?_⟩,
        h.accounted.setPhase _⟩
      · exact ⟨hsince.mark_le, hsince.clean, hsince.dirty⟩
      · rw [List.length_range']
      · obtain ⟨h1, h2⟩ := hc hm
        rw [List.length_range']
        exact ⟨Nat.min_eq_left h1, by show _ ≤ s.queue.lines.length; omega⟩

theorem inv_sendFailed (size : Nat → Nat) (maxBytes : Nat) {s : ShipState} (h : s.Inv) :
    (s.step size maxBytes .sendFailed).Inv := by
  obtain ⟨first, hs⟩ := h.shape
  cases hph : s.phase with
  | idle => simpa only [step, hph] using h
  | read lines mark => simpa only [step, hph] using h
  | sending start batch mark =>
    simp only [step, hph]
    exact ⟨⟨first, hs.lines, hs.appended, hs.offset_le, trivial⟩, h.accounted.setPhase _⟩

/-! ### ack -/

/-- ack が済ませるのは、`offset` から `through` までの位置にある番号である。 -/
theorem Shape.covers_eq {s : ShipState} {first : Nat} (h : s.Shape first) (through : Nat) :
    s.covers through = List.range' (first + s.queue.offset) (through - s.queue.offset) := by
  have happ : s.queue.lines ++ List.range' s.appended through
      = List.range' first (s.queue.lines.length + through) := by
    rw [← List.range'_append_1, ← h.lines, h.appended]
  rw [covers, happ, List.take_range'_of_length_ge (Nat.le_add_left _ _), List.drop_range',
    Nat.mul_one]

/-- 行の数を越えない ack の後も、file の行は番号が続く。 -/
theorem Shape.ack {s : ShipState} {first through : Nat} (h : s.Shape first)
    (hle : through ≤ s.queue.lines.length) (acks : List AckRecord) :
    ∃ first', Shape { s with queue := s.queue.ack through, phase := .idle, acks := acks } first' := by
  rcases Nat.lt_or_ge 5000 through with hlt | hge
  · have hq : s.queue.ack through
        = { s.queue with lines := s.queue.lines.drop through, offset := 0 } := if_pos hlt
    rw [hq]
    refine ⟨first + through, ?_, ?_, Nat.zero_le _, trivial⟩
    · show s.queue.lines.drop through
        = List.range' (first + through) (s.queue.lines.drop through).length
      have hd := congrArg (List.drop through) h.lines
      rwa [List.drop_range', Nat.mul_one, ← List.length_drop] at hd
    · show first + through + (s.queue.lines.drop through).length = s.appended
      have := h.appended
      rw [List.length_drop]
      omega
  · have hq : s.queue.ack through = { s.queue with offset := through } :=
      if_neg (Nat.not_lt.mpr hge)
    rw [hq]
    exact ⟨first, h.lines, h.appended, hle, trivial⟩

/-- 溢れを跨がない ack は、batch の番号だけを済ませる。 -/
theorem covers_of_clean {s : ShipState} {first start mark : Nat} {batch : List Nat}
    (h : s.Shape first) (hph : s.phase = .sending start batch mark) (hm : mark = s.queue.dropped) :
    start = s.queue.offset ∧ start + batch.length ≤ s.queue.lines.length ∧
      s.covers (start + batch.length) = batch := by
  have hp := h.phase
  rw [PhaseOk, hph] at hp
  obtain ⟨origin, hs, hb, -, hc⟩ := hp
  obtain ⟨h1, h2⟩ := hc hm
  refine ⟨h1, h2, ?_⟩
  rw [h.covers_eq, ← h1, Nat.add_sub_cancel_left, ← hs.clean hm, ← hb]

/-- まだ読まれていない行は、済ませる batch と、ack の後に残る行に分かれる。 -/
theorem unread_eq_append {s : ShipState} {start : Nat} {batch : List Nat}
    (hstart : start = s.queue.offset) (hle : start + batch.length ≤ s.queue.lines.length)
    (hcov : s.covers (start + batch.length) = batch) :
    s.queue.unread = batch ++ (s.queue.ack (start + batch.length)).unread := by
  have hbatch : (s.queue.lines.drop start).take batch.length = batch := by
    rw [covers, List.take_append_of_le_length hle, ← hstart, List.drop_take,
      Nat.add_sub_cancel_left] at hcov
    exact hcov
  rw [DiskQueue.unread_ack, ← List.drop_drop, DiskQueue.unread, ← hstart]
  conv_lhs => rw [← List.take_append_drop batch.length (s.queue.lines.drop start), hbatch]

theorem Accounted.ack {s : ShipState} (h : s.Accounted) {start : Nat} {batch : List Nat}
    (hstart : start = s.queue.offset) (hle : start + batch.length ≤ s.queue.lines.length)
    (hcov : s.covers (start + batch.length) = batch) :
    Accounted { s with
      queue := s.queue.ack (start + batch.length), phase := .idle
      acks := s.acks ++ [⟨s.covers (start + batch.length), batch⟩] } where
  items := by
    intro i hi
    rcases h.items i hi with ⟨a, ha, hia⟩ | hu | hd
    · exact .inl ⟨a, List.mem_append_left _ ha, hia⟩
    · rw [unread_eq_append hstart hle hcov, List.mem_append] at hu
      rcases hu with hu | hu
      · refine .inl ⟨⟨s.covers (start + batch.length), batch⟩, ?_, ?_, hu⟩
        · exact List.mem_append_right _ (List.mem_singleton_self _)
        · rwa [hcov]
      · exact .inr (.inl hu)
    · exact .inr (.inr hd)
  acks := by
    intro a ha i hi
    rcases List.mem_append.mp ha with ha | ha
    · exact h.acks a ha i hi
    · rw [List.mem_singleton.mp ha] at hi ⊢
      rwa [hcov] at hi
  counted := by
    rw [DiskQueue.ack_dropped]
    exact h.counted

theorem inv_ack (size : Nat → Nat) (maxBytes : Nat) {s : ShipState} (h : s.Inv) (hc : s.Clean) :
    (s.step size maxBytes .ack).Inv := by
  obtain ⟨first, hs⟩ := h.shape
  cases hph : s.phase with
  | idle => simpa only [step, hph] using h
  | read lines mark => simpa only [step, hph] using h
  | sending start batch mark =>
    rw [Clean, hph] at hc
    obtain ⟨hstart, hle, hcov⟩ := covers_of_clean hs hph hc
    simp only [step, hph]
    exact ⟨hs.ack hle _, h.accounted.ack hstart hle hcov⟩

/-- 溢れを跨ぐ ack は、batch にない番号を済ませる。 -/
theorem not_accounted_of_dirty (size : Nat → Nat) (maxBytes : Nat) {s : ShipState} (h : s.Inv)
    (hc : ¬ s.Clean) : ¬ (s.step size maxBytes .ack).Accounted := by
  obtain ⟨first, hs⟩ := h.shape
  have hp := hs.phase
  cases hph : s.phase with
  | idle => exact absurd (by rw [Clean, hph]; trivial) hc
  | read lines mark => exact absurd (by rw [Clean, hph]; trivial) hc
  | sending start batch mark =>
    rw [PhaseOk, hph] at hp
    rw [Clean, hph] at hc
    obtain ⟨origin, hsince, hb, hne, -⟩ := hp
    obtain ⟨hlt, hoff⟩ := hsince.dirty (Nat.lt_of_le_of_ne hsince.mark_le hc)
    have hpos : 0 < batch.length := List.length_pos_of_ne_nil hne
    intro hacc
    simp only [step, hph] at hacc
    -- batch の終わりより後で、file の先頭より前でない番号
    have hmem := hacc.acks ⟨s.covers (start + batch.length), batch⟩
      (List.mem_append_right _ (List.mem_singleton_self _))
      (max first (origin + start + batch.length)) (by
        rw [hs.covers_eq, hoff, Nat.add_zero, Nat.sub_zero, List.mem_range'_1]
        omega)
    rw [hb, List.mem_range'_1, List.length_range'] at hmem
    omega

/-! ## 溢れを跨ぐ ack -/

/-- **溢れを跨ぐ ack が無いことと、どの item も行き先を持つことは、同じことである。** -/
theorem accounted_iff (size : Nat → Nat) (maxBytes : Nat) (es : List ShipEvent) :
    (∀ pre, pre <+: es → (Run.exec (step size maxBytes) {} pre).Accounted) ↔
      Run.Along (step size maxBytes) (fun s e => e = .ack → s.Clean) {} es := by
  refine Run.property_iff (I := Inv) (fun s h => h.accounted) ?_ ?_ inv_init
  · intro s e h hc
    cases e with
    | append => exact inv_append size maxBytes h
    | readLines => exact inv_readLines size maxBytes h
    | slice => exact inv_slice size maxBytes h
    | sendFailed => exact inv_sendFailed size maxBytes h
    | ack => exact inv_ack size maxBytes h (hc rfl)
  · intro s e h hacc he
    by_contra hc
    subst he
    exact not_accounted_of_dirty size maxBytes h hc hacc

/-- 二つの item の batch を送る間に三つ目が加わり、溢れて先頭が捨てられる。 -/
theorem overflow_unaccounted :
    ¬ (Run.exec (step (fun _ => 1) 2) {}
      [.append, .append, .readLines, .slice, .append, .ack]).Accounted := by
  intro h
  have hmem : 2 ∈ [0, 1] := h.acks ⟨[1, 2], [0, 1]⟩ (by decide) 2 (by decide)
  exact absurd hmem (by decide)

end ShipState

end CipherPost.Agent
