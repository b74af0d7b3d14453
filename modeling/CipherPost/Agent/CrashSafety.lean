import CipherPost.Agent.DiskQueue
import CipherPost.Infra.Lines
import CipherPost.Infra.Run
import Mathlib.Data.List.Sort

/-!
# 落ちても残る queue

`DiskQueue` の file への書き込みと、その途中で process が落ちた後の起動。offset の file は `os.replace` で
一度に替わるが、data の file は追記か書き直しであり、途中まで書かれて終わりうる。書き直しと offset の
置き換えの間で落ちると、新しい行を古い offset から読む。途中で切れた行には、次の append が繋がる。

file の文字には、それを書いた append の番号を付けておく。番号は code の動きに関わらない。

* `DiskWrite`・`cutAt` — 書き込みと、落ちた所までの書き込み
* `DiskState.step` — 操作を終えるか、その途中で落ちて起動し直す
* `queue_append`・`queue_ack` — 終えた操作は `DiskQueue` の操作である
* `Recovers` — 済んでいない item が、後の `read_batch` で順に返る
* `recovers_run` — 危うい所で落ちない実行では、それが保たれる
-/

namespace CipherPost.Agent

/-! ## file -/

/-- 文字と、それを書いた append の番号。 -/
abbrev Cell := Char × Nat

def Cell.isNl (c : Cell) : Bool := decide (c.1 = '\n')

/-- `json.dumps` と `json.loads`。 -/
structure Codec (α : Type) where
  dumps : α → List Char
  loads : List Char → Option α
  no_nl : ∀ a, '\n' ∉ dumps a
  loads_dumps : ∀ a, loads (dumps a ++ ['\n']) = some a

/-- data の file と offset の file。 -/
structure Disk where
  data : List Cell := []
  offset : Nat := 0
  deriving DecidableEq

/-- `f.readlines()`。 -/
def Disk.lines (d : Disk) : List (List Cell) := readlines Cell.isNl d.data

/-- 一回の書き込み。 -/
inductive DiskWrite where
  | appendData (cells : List Cell)
  /-- 空にしてから書く。 -/
  | rewrite (cells : List Cell)
  /-- `os.replace`。 -/
  | setOffset (n : Nat)

namespace DiskWrite

def apply (d : Disk) : DiskWrite → Disk
  | appendData cells => { d with data := d.data ++ cells }
  | rewrite cells => { d with data := cells }
  | setOffset n => { d with offset := n }

/-- 先頭の `m` 文字だけが届いた書き込み。offset の置き換えは途中で切れない。 -/
def torn (m : Nat) : DiskWrite → List DiskWrite
  | appendData cells => [appendData (cells.take m)]
  | rewrite cells => [rewrite (cells.take m)]
  | setOffset _ => []

def applyAll (ws : List DiskWrite) (d : Disk) : Disk := ws.foldl apply d

end DiskWrite

/-- 落ちた所。`done` 個の書き込みが終わり、次は始まっていないか、先頭の `torn` 文字だけが届いた。 -/
structure Crash where
  done : Nat
  torn : Option Nat := none
  deriving DecidableEq

/-- 落ちた所までの書き込み。`none` は落ちないことである。 -/
def cutAt (crash : Option Crash) (ws : List DiskWrite) : List DiskWrite :=
  match crash with
  | none => ws
  | some c =>
    ws.take c.done ++ match ws[c.done]?, c.torn with
      | some w, some m => w.torn m
      | _, _ => []

/-- `j` 番目の書き込みが終わった。 -/
def finished (crash : Option Crash) (j : Nat) : Bool := crash.all fun c => decide (j < c.done)

/-- `j` 番目の書き込みが始まった。 -/
def begun (crash : Option Crash) (j : Nat) : Bool :=
  crash.all fun c => decide (j < c.done) || (decide (j = c.done) && c.torn.isSome)

/-! ## 操作 -/

section Codec

variable {α : Type} (codec : Codec α)

/-- `n` 番目の append の行。 -/
def lineOf (n : Nat) (item : α) : List Cell := (codec.dumps item ++ ['\n']).map fun c => (c, n)

/-- 行を読む。 -/
def loadsLine (l : List Cell) : Option α := codec.loads (l.map Prod.fst)

/-- 行を書いた append の番号。 -/
def tags (ls : List (List Cell)) : List Nat := ls.flatten.map Prod.snd

/-- file を書く操作。 -/
inductive DiskOp (α : Type) where
  | append (item : α)
  | ack (through : Nat)

/-- 行を加えた file が大きすぎる。 -/
def overflows (maxBytes : Nat) (d : Disk) (line : List Cell) : Bool :=
  decide (maxBytes < (d.data ++ line).length)

/-- append の書き込み。 -/
def appendWrites (maxBytes : Nat) (d : Disk) (line : List Cell) : List DiskWrite :=
  let lines := readlines Cell.isNl (d.data ++ line)
  .appendData line ::
    if overflows maxBytes d line then
      [.rewrite (lines.drop (DiskQueue.dropCount lines.length)).flatten, .setOffset 0]
    else []

/-- ack の書き込み。 -/
def ackWrites (d : Disk) (through : Nat) : List DiskWrite :=
  .setOffset through ::
    if 5000 < through then [.rewrite (d.lines.drop through).flatten, .setOffset 0] else []

/-- disk と process の状態、および済んだ操作の記録。番号 `n` の item は `contents[n]` である。 -/
structure DiskState (α : Type) extends Disk where
  dropped : Nat := 0
  contents : List α := []
  /-- append が戻った item。 -/
  returned : List Nat := []
  /-- ack の済ませた行の item。 -/
  acked : List Nat := []
  /-- 捨てた行の item。 -/
  droppedItems : List Nat := []

/-- 操作と、その途中で落ちた所。 -/
structure DiskEvent (α : Type) where
  op : DiskOp α
  crash : Option Crash := none

namespace DiskState

variable (maxBytes : Nat)

/-- 次の append の行。 -/
def nextLine (s : DiskState α) (item : α) : List Cell := lineOf codec s.contents.length item

/-- append の途中で溢れて捨てる行。 -/
def oldest (s : DiskState α) (item : α) : List (List Cell) :=
  let lines := readlines Cell.isNl (s.data ++ s.nextLine codec item)
  if overflows maxBytes s.toDisk (s.nextLine codec item) then
    lines.take (DiskQueue.dropCount lines.length)
  else []

/-- append。落ちれば `dropped` は 0 から数え直される。 -/
def append (s : DiskState α) (item : α) (crash : Option Crash) : DiskState α :=
  { toDisk := DiskWrite.applyAll
      (cutAt crash (appendWrites maxBytes s.toDisk (s.nextLine codec item))) s.toDisk
    dropped := if crash.isSome then 0 else s.dropped + (s.oldest codec maxBytes item).length
    contents := s.contents ++ [item]
    returned := if crash.isSome then s.returned else s.returned ++ [s.contents.length]
    acked := s.acked
    droppedItems := s.droppedItems
      ++ if begun crash 1 then tags (s.oldest codec maxBytes item) else [] }

/-- ack。 -/
def ack (s : DiskState α) (through : Nat) (crash : Option Crash) : DiskState α :=
  { s with
    toDisk := DiskWrite.applyAll (cutAt crash (ackWrites s.toDisk through)) s.toDisk
    dropped := if crash.isSome then 0 else s.dropped
    acked := s.acked ++ if finished crash 0 then tags (s.lines.take through) else [] }

/-- 一つの操作。 -/
def step (s : DiskState α) (e : DiskEvent α) : DiskState α :=
  match e.op with
  | .append item => s.append codec maxBytes item e.crash
  | .ack through => s.ack through e.crash

/-- 起動した process の queue。 -/
def queue (s : DiskState α) : DiskQueue (List Cell) :=
  { lines := s.lines, offset := s.offset, dropped := s.dropped }

/-- append が戻り、ack もされず、捨てた数にも入っていない item。 -/
def unsettled (s : DiskState α) : List Nat :=
  s.returned.filter fun i => decide (i ∉ s.acked ∧ i ∉ s.droppedItems)

/-- 済んでいない item は、`read_batch` と ack を繰り返せば、加えられた順に返る。 -/
def Recovers (s : DiskState α) : Prop :=
  ∀ limit, 0 < limit → ∃ n, (s.unsettled.filterMap (s.contents[·]?)).Sublist
    (DiskQueue.drain (loadsLine codec) limit n s.queue)

/-- file は改行で終わる。 -/
def Terminated (s : DiskState α) : Prop := ∀ c ∈ s.data.getLast?, c.isNl = true

instance (s : DiskState α) : Decidable s.Terminated :=
  inferInstanceAs (Decidable (∀ c ∈ s.data.getLast?, c.isNl = true))

/-- 危うい所で落ちない。 -/
def Safe (s : DiskState α) (e : DiskEvent α) : Prop :=
  match e.op with
  | .append item =>
    -- 切れた行に繋げず、戻る append は offset より前に書かない
    s.Terminated ∧ (e.crash = none → s.offset ≤ s.lines.length) ∧
      -- 書き直しを始めたなら offset を置き換えるが、もう 0 ならその必要はない
      (overflows maxBytes s.toDisk (s.nextLine codec item) = true → begun e.crash 1 = true →
        finished e.crash 2 = true ∨ (s.offset = 0 ∧ finished e.crash 1 = true))
  | .ack through => 5000 < through → begun e.crash 1 = true → finished e.crash 2 = true

/-! ## 終えた操作 -/

variable {codec} {maxBytes}

theorem isLine_lineOf (n : Nat) (item : α) : IsLine Cell.isNl (lineOf codec n item) := by
  refine ⟨(codec.dumps item).map fun c => (c, n), ('\n', n), ?_, rfl, ?_⟩
  · rw [lineOf, List.map_append]
    rfl
  · intro x hx
    obtain ⟨c, hc, rfl⟩ := List.mem_map.mp hx
    exact decide_eq_false fun he : c = '\n' => codec.no_nl item (he ▸ hc)

/-- 溢れた append は、加えた列の先頭を捨てて書き直す。 -/
theorem applyAll_appendWrites (d : Disk) (line : List Cell) :
    DiskWrite.applyAll (appendWrites maxBytes d line) d =
      if overflows maxBytes d line then
        { data := ((readlines Cell.isNl (d.data ++ line)).drop
            (DiskQueue.dropCount (readlines Cell.isNl (d.data ++ line)).length)).flatten, offset := 0 }
      else { d with data := d.data ++ line } := by
  rw [appendWrites]
  split <;> rfl

/-- 落ちなければ、append は `DiskQueue.append` である。 -/
theorem queue_append {s : DiskState α} (h : s.Terminated) (item : α) :
    (s.step codec maxBytes ⟨.append item, none⟩).queue
      = s.queue.append List.length maxBytes (s.nextLine codec item) := by
  have hl : readlines Cell.isNl (s.data ++ s.nextLine codec item)
      = s.lines ++ [s.nextLine codec item] := readlines_append h (isLine_lineOf _ item)
  have hsize : ((s.lines ++ [s.nextLine codec item]).map List.length).sum
      = (s.data ++ s.nextLine codec item).length := by rw [← hl, sum_length_readlines]
  show queue (s.append codec maxBytes item none) = _
  cases ho : overflows maxBytes s.toDisk (s.nextLine codec item) with
  | true =>
    have hlt : maxBytes < ((s.lines ++ [s.nextLine codec item]).map List.length).sum :=
      hsize ▸ of_decide_eq_true ho
    have hcount : DiskQueue.dropCount (s.lines ++ [s.nextLine codec item]).length
        ≤ (s.lines ++ [s.nextLine codec item]).length :=
      DiskQueue.dropCount_le (by simp)
    have hdrop := @readlines_drop _ Cell.isNl (s.data ++ s.nextLine codec item)
      (DiskQueue.dropCount (s.lines ++ [s.nextLine codec item]).length)
    rw [hl] at hdrop
    rw [DiskQueue.append, if_pos (by exact hlt), queue, append, Disk.lines, oldest]
    simp only [cutAt, applyAll_appendWrites, ho, if_true, hl, hdrop, Option.isSome_none,
      Bool.false_eq_true, if_false, List.length_take, Nat.min_eq_left hcount]
    rfl
  | false =>
    have hge : ¬ maxBytes < ((s.lines ++ [s.nextLine codec item]).map List.length).sum :=
      fun hlt => of_decide_eq_false ho (hsize ▸ hlt)
    rw [DiskQueue.append, if_neg (by exact hge), queue, append, Disk.lines, oldest]
    simp only [cutAt, applyAll_appendWrites, ho, hl, Option.isSome_none, Bool.false_eq_true,
      if_false, List.length_nil, Nat.add_zero]
    rfl

theorem applyAll_ackWrites (d : Disk) (through : Nat) :
    DiskWrite.applyAll (ackWrites d through) d =
      if 5000 < through then { data := (d.lines.drop through).flatten, offset := 0 }
      else { d with offset := through } := by
  rw [ackWrites]
  split <;> rfl

/-- 落ちなければ、ack は `DiskQueue.ack` である。 -/
theorem queue_ack (s : DiskState α) (through : Nat) :
    (s.step codec maxBytes ⟨.ack through, none⟩).queue = s.queue.ack through := by
  show queue (s.ack through none) = _
  rw [DiskQueue.ack, queue, ack, Disk.lines]
  simp only [cutAt, applyAll_ackWrites, Option.isSome_none, Bool.false_eq_true, if_false]
  split
  · rw [Disk.lines, readlines_drop]
    rfl
  · rfl

/-! ## 落ちた後の disk -/

theorem appendWrites_of_overflows {d : Disk} {line : List Cell}
    (h : overflows maxBytes d line = true) : appendWrites maxBytes d line =
      [.appendData line, .rewrite ((readlines Cell.isNl (d.data ++ line)).drop
        (DiskQueue.dropCount (readlines Cell.isNl (d.data ++ line)).length)).flatten,
        .setOffset 0] := by
  rw [appendWrites, h]
  rfl

/-- 書き込みがすべて終わっていれば、落ちても同じである。 -/
theorem cutAt_of_length_le {c : Crash} {ws : List DiskWrite} (h : ws.length ≤ c.done) :
    cutAt (some c) ws = ws := by
  rw [cutAt, List.take_of_length_le h, List.getElem?_eq_none h]
  exact List.append_nil ws

/-- 最初の書き込みの途中で落ちた append は、行の始めだけを書く。 -/
theorem torn_append (d : Disk) (line : List Cell) (torn : Option Nat) :
    ∃ m, DiskWrite.applyAll (cutAt (some ⟨0, torn⟩) (appendWrites maxBytes d line)) d
      = { d with data := d.data ++ line.take m } := by
  cases torn with
  | none =>
    refine ⟨0, ?_⟩
    rw [List.take_zero, List.append_nil]
    rfl
  | some m => exact ⟨m, rfl⟩

/-- 行を書いた後、溢れを片付ける途中で落ちた append。 -/
theorem crash_overflow {d : Disk} {line : List Cell} {done : Nat} {torn : Option Nat}
    (ho : overflows maxBytes d line = true)
    (h : begun (some ⟨done + 1, torn⟩) 1 = true → finished (some ⟨done + 1, torn⟩) 2 = true ∨
      (d.offset = 0 ∧ finished (some ⟨done + 1, torn⟩) 1 = true)) :
    (begun (some ⟨done + 1, torn⟩) 1 = false ∧
        DiskWrite.applyAll (cutAt (some ⟨done + 1, torn⟩) (appendWrites maxBytes d line)) d
          = { d with data := d.data ++ line }) ∨
      (begun (some ⟨done + 1, torn⟩) 1 = true ∧
        DiskWrite.applyAll (cutAt (some ⟨done + 1, torn⟩) (appendWrites maxBytes d line)) d
          = DiskWrite.applyAll (appendWrites maxBytes d line) d) := by
  have hws := appendWrites_of_overflows ho
  match done, torn with
  | 0, none => exact .inl ⟨rfl, by rw [hws]; rfl⟩
  | 0, some m =>
    rcases h rfl with hf | ⟨-, hf⟩
    · exact absurd hf Bool.false_ne_true
    · exact absurd hf Bool.false_ne_true
  | 1, torn =>
    -- offset は既に 0 で、置き換えは要らない
    rcases h rfl with hf | ⟨hz, -⟩
    · exact absurd hf Bool.false_ne_true
    · refine .inr ⟨rfl, ?_⟩
      rw [hws]
      cases torn with
      | none => exact congrArg (Disk.mk _) hz
      | some m => exact congrArg (Disk.mk _) hz
  | k + 2, torn =>
    refine .inr ⟨?_, ?_⟩
    · simp [begun]
    · rw [cutAt_of_length_le (by rw [hws]; exact Nat.le_add_left 3 k)]

/-- 危うくない所で落ちた append は、途中で切れるか、加え終えるか、溢れを片付け終える。 -/
theorem appendDisk_cases {d : Disk} {line : List Cell} {crash : Option Crash}
    (h : overflows maxBytes d line = true → begun crash 1 = true →
      finished crash 2 = true ∨ (d.offset = 0 ∧ finished crash 1 = true)) :
    (crash ≠ none ∧ begun crash 1 = false ∧ ∃ m, DiskWrite.applyAll
        (cutAt crash (appendWrites maxBytes d line)) d = { d with data := d.data ++ line.take m }) ∨
      ((overflows maxBytes d line = false ∨ begun crash 1 = false) ∧
        DiskWrite.applyAll (cutAt crash (appendWrites maxBytes d line)) d
          = { d with data := d.data ++ line }) ∨
      (overflows maxBytes d line = true ∧ begun crash 1 = true ∧
        DiskWrite.applyAll (cutAt crash (appendWrites maxBytes d line)) d
          = DiskWrite.applyAll (appendWrites maxBytes d line) d) := by
  cases crash with
  | none =>
    cases ho : overflows maxBytes d line with
    | true => exact .inr (.inr ⟨rfl, rfl, rfl⟩)
    | false =>
      refine .inr (.inl ⟨.inl rfl, ?_⟩)
      rw [cutAt, applyAll_appendWrites, ho]
      rfl
  | some c =>
    obtain ⟨done, torn⟩ := c
    match done with
    | 0 => exact .inl ⟨Option.some_ne_none _, rfl, torn_append d line torn⟩
    -- 行は書き終えている。溢れていなければ、書き込みはそれで全部である
    | done + 1 =>
      cases ho : overflows maxBytes d line with
      | false =>
        have hws : appendWrites maxBytes d line = [.appendData line] := by
          rw [appendWrites, ho]
          rfl
        refine .inr (.inl ⟨.inl rfl, ?_⟩)
        rw [hws, cutAt_of_length_le (by exact Nat.le_add_left 1 done)]
        rfl
      | true =>
        rcases crash_overflow ho (h ho) with ⟨hb, hd⟩ | ⟨hb, hd⟩
        · exact .inr (.inl ⟨.inr hb, hd⟩)
        · exact .inr (.inr ⟨rfl, hb, hd⟩)

/-- 危うくない所で落ちた ack は、始まらないか、offset を替え終えるか、詰め終える。 -/
theorem ackDisk_cases {d : Disk} {through : Nat} {crash : Option Crash}
    (h : 5000 < through → begun crash 1 = true → finished crash 2 = true) :
    (finished crash 0 = false ∧ DiskWrite.applyAll (cutAt crash (ackWrites d through)) d = d) ∨
      (finished crash 0 = true ∧ DiskWrite.applyAll (cutAt crash (ackWrites d through)) d
        = { d with offset := through }) ∨
      (finished crash 0 = true ∧ DiskWrite.applyAll (cutAt crash (ackWrites d through)) d
        = { data := (d.lines.drop through).flatten, offset := 0 }) := by
  cases crash with
  | none =>
    rw [cutAt, applyAll_ackWrites]
    split
    · exact .inr (.inr ⟨rfl, rfl⟩)
    · exact .inr (.inl ⟨rfl, rfl⟩)
  | some c =>
    obtain ⟨done, torn⟩ := c
    match done with
    | 0 => exact .inl ⟨rfl, by cases torn <;> rfl⟩
    | done + 1 =>
      have hf : finished (some ⟨done + 1, torn⟩) 0 = true := decide_eq_true (Nat.succ_pos done)
      rcases Nat.lt_or_ge 5000 through with hlt | hge
      · have hws : ackWrites d through
            = [.setOffset through, .rewrite (d.lines.drop through).flatten, .setOffset 0] := by
          rw [ackWrites, if_pos hlt]
        match done, torn with
        | 0, none => exact .inr (.inl ⟨rfl, by rw [hws]; rfl⟩)
        -- 詰める途中で止まる ack は、仮定で除かれている
        | 0, some m => exact absurd (h hlt rfl) Bool.false_ne_true
        | 1, torn => exact absurd (h hlt rfl) Bool.false_ne_true
        | k + 2, torn =>
          refine .inr (.inr ⟨hf, ?_⟩)
          rw [cutAt_of_length_le (by rw [hws]; exact Nat.le_add_left 3 k), hws]
          rfl
      · have hws : ackWrites d through = [.setOffset through] := by
          rw [ackWrites, if_neg (Nat.not_lt.mpr hge)]
        refine .inr (.inl ⟨hf, ?_⟩)
        rw [hws, cutAt_of_length_le (by exact Nat.le_add_left 1 done)]
        rfl

/-! ## file の中身 -/

/-- item の行が続き、最後に切れた行が高々一つある。 -/
structure Laid (codec : Codec α) (data : List Cell) (items : List (Nat × α)) (tail : List Cell) :
    Prop where
  data_eq : data = (items.map fun p => lineOf codec p.1 p.2).flatten ++ tail
  tail_no_nl : ∀ c ∈ tail, c.isNl = false

namespace Laid

variable {data tail : List Cell} {items : List (Nat × α)}

theorem readlines_eq (h : Laid codec data items tail) : readlines Cell.isNl data
    = (items.map fun p => lineOf codec p.1 p.2) ++ readlines Cell.isNl tail := by
  rw [h.data_eq, readlines_flatten]
  intro l hl
  obtain ⟨p, -, rfl⟩ := List.mem_map.mp hl
  exact isLine_lineOf p.1 p.2

/-- 改行で終わる file に、切れた行はない。 -/
theorem tail_eq_nil (h : Laid codec data items tail) (ht : ∀ c ∈ data.getLast?, c.isNl = true) :
    tail = [] := by
  cases hl : tail.getLast? with
  | none => exact List.getLast?_eq_none_iff.mp hl
  | some c =>
    have hc : c.isNl = true := ht c (by
      rw [h.data_eq, List.getLast?_append, hl]
      rfl)
    rw [h.tail_no_nl c (List.mem_of_getLast? hl)] at hc
    cases hc

theorem snoc (h : Laid codec data items []) (n : Nat) (item : α) :
    Laid codec (data ++ lineOf codec n item) (items ++ [(n, item)]) [] where
  data_eq := by
    rw [h.data_eq, List.append_nil, List.append_nil, List.map_append, List.flatten_append]
    simp
  tail_no_nl := fun _ hc => absurd hc List.not_mem_nil

/-- 途中で切れた行は、最後に残るか、加え終えている。 -/
theorem torn (h : Laid codec data items []) (n : Nat) (item : α) (m : Nat) :
    (∃ tail, Laid codec (data ++ (lineOf codec n item).take m) items tail) ∨
      Laid codec (data ++ (lineOf codec n item).take m) (items ++ [(n, item)]) [] := by
  rcases Nat.lt_or_ge (codec.dumps item).length m with hlt | hge
  · refine .inr ?_
    rw [List.take_of_length_le (by simp [lineOf]; omega)]
    exact h.snoc n item
  · refine .inl ⟨(lineOf codec n item).take m, ?_, ?_⟩
    · rw [h.data_eq, List.append_nil]
    · intro c hc
      rw [lineOf, List.map_append,
        List.take_append_of_le_length (by rw [List.length_map]; exact hge)] at hc
      obtain ⟨x, hx, rfl⟩ := List.mem_map.mp (List.mem_of_mem_take hc)
      exact decide_eq_false fun he : x = '\n' => codec.no_nl item (he ▸ hx)

/-- 先頭の行を捨てて書き直した file。 -/
theorem drop (h : Laid codec data items tail) (d : Nat) :
    ∃ tail', Laid codec ((readlines Cell.isNl data).drop d).flatten (items.drop d) tail' := by
  refine ⟨((readlines Cell.isNl tail).drop (d - items.length)).flatten, ?_, ?_⟩
  · rw [h.readlines_eq, List.drop_append, List.length_map, List.flatten_append, ← List.map_drop]
  · intro c hc
    obtain ⟨l, hl, hcl⟩ := List.mem_flatten.mp hc
    refine h.tail_no_nl c ?_
    rw [← @flatten_readlines _ Cell.isNl tail]
    exact List.mem_flatten.mpr ⟨l, List.mem_of_mem_drop hl, hcl⟩

/-- 先頭の `d` 行に入らない item は、その後に残る。 -/
theorem mem_drop (h : Laid codec data items tail) {d i : Nat} (hi : i ∈ items.map Prod.fst)
    (hn : i ∉ tags ((readlines Cell.isNl data).take d)) : i ∈ (items.drop d).map Prod.fst := by
  obtain ⟨p, hp, rfl⟩ := List.mem_map.mp hi
  rw [← List.take_append_drop d items, List.mem_append] at hp
  rcases hp with hp | hp
  · refine absurd ?_ hn
    have hline : lineOf codec p.1 p.2 ∈ (readlines Cell.isNl data).take d := by
      rw [h.readlines_eq, List.take_append, ← List.map_take]
      exact List.mem_append_left _ (List.mem_map_of_mem hp)
    have hcell : (('\n', p.1) : Cell) ∈ lineOf codec p.1 p.2 :=
      List.mem_map_of_mem (List.mem_append_right _ (List.mem_singleton_self _))
    exact List.mem_map.mpr ⟨('\n', p.1), List.mem_flatten.mpr ⟨_, hline, hcell⟩, rfl⟩
  · exact List.mem_map_of_mem hp

end Laid

/-! ## 不変量 -/

/-- file には、済んでいない item が offset より後に、加えられた順に並んでいる。 -/
structure Good (codec : Codec α) (s : DiskState α) (items : List (Nat × α)) (tail : List Cell) :
    Prop where
  laid : Laid codec s.data items tail
  sorted : items.Pairwise fun p q => p.1 < q.1
  contents : ∀ p ∈ items, s.contents[p.1]? = some p.2
  returned_sorted : s.returned.Pairwise (· < ·)
  returned_lt : ∀ i ∈ s.returned, i < s.contents.length
  kept : ∀ i ∈ s.unsettled, i ∈ (items.drop s.offset).map Prod.fst

theorem mem_unsettled {s : DiskState α} {i : Nat} :
    i ∈ s.unsettled ↔ i ∈ s.returned ∧ i ∉ s.acked ∧ i ∉ s.droppedItems := by
  rw [unsettled, List.mem_filter, decide_eq_true_eq]

theorem good_init : Good codec {} [] [] where
  laid := ⟨rfl, fun _ hc => absurd hc List.not_mem_nil⟩
  sorted := List.Pairwise.nil
  contents := fun _ hp => absurd hp List.not_mem_nil
  returned_sorted := List.Pairwise.nil
  returned_lt := fun _ hi => absurd hi List.not_mem_nil
  kept := fun _ hi => absurd hi List.not_mem_nil

/-- 不変量を満たす queue からは、済んでいない item が順に返る。 -/
theorem Good.recovers {s : DiskState α} {items : List (Nat × α)} {tail : List Cell}
    (h : Good codec s items tail) : Recovers codec s := by
  intro limit hlimit
  have hload : ∀ p : Nat × α, loadsLine codec (lineOf codec p.1 p.2) = some p.2 := by
    intro p
    have hfst : (lineOf codec p.1 p.2).map Prod.fst = codec.dumps p.2 ++ ['\n'] := by
      rw [lineOf, List.map_map]
      exact List.map_id _
    rw [loadsLine, hfst, codec.loads_dumps]
  have hunread : s.queue.unread = (items.drop s.offset).map (fun p => lineOf codec p.1 p.2)
      ++ (readlines Cell.isNl tail).drop (s.offset - items.length) := by
    show (readlines Cell.isNl s.data).drop s.offset = _
    rw [h.laid.readlines_eq, List.drop_append, List.length_map, List.map_drop]
  have hdrain := DiskQueue.prefix_drain hlimit hload _ (items.drop s.offset).length
    (items.drop s.offset) s.queue hunread (Nat.le_refl _)
  -- 済んでいない番号は、offset より後の番号の部分列である
  have hsub : s.unsettled.Sublist ((items.drop s.offset).map Prod.fst) := by
    have hs₁ : s.unsettled.Pairwise (· < ·) := h.returned_sorted.filter _
    have hs₂ : ((items.drop s.offset).map Prod.fst).Pairwise (· < ·) :=
      List.pairwise_map.mpr (h.sorted.drop)
    exact List.sublist_of_subperm_of_pairwise
      (List.subperm_of_subset (hs₁.imp Nat.ne_of_lt) h.kept)
      (hs₁.imp Nat.le_of_lt) (hs₂.imp Nat.le_of_lt)
  have hitems : ((items.drop s.offset).map Prod.fst).filterMap (s.contents[·]?)
      = (items.drop s.offset).map Prod.snd := by
    rw [List.filterMap_map, ← List.filterMap_eq_map]
    exact List.filterMap_congr fun p hp => h.contents p (List.mem_of_mem_drop hp)
  have hfm := hsub.filterMap (s.contents[·]?)
  rw [hitems] at hfm
  exact ⟨_, hfm.trans hdrain.sublist⟩

/-! ### append -/

theorem Good.lt_of_mem {s : DiskState α} {items : List (Nat × α)} {tail : List Cell}
    (h : Good codec s items tail) {p : Nat × α} (hp : p ∈ items) : p.1 < s.contents.length :=
  (List.getElem?_eq_some_iff.mp (h.contents p hp)).1

/-- 加えた item を並べる。 -/
theorem Good.sorted_snoc {s : DiskState α} {items : List (Nat × α)} {tail : List Cell}
    (h : Good codec s items tail) (item : α) :
    (items ++ [(s.contents.length, item)]).Pairwise fun p q => p.1 < q.1 := by
  refine List.pairwise_append.mpr ⟨h.sorted, List.pairwise_singleton _ _, ?_⟩
  intro p hp q hq
  rw [List.mem_singleton.mp hq]
  exact h.lt_of_mem hp

theorem Good.contents_snoc {s : DiskState α} {items : List (Nat × α)} {tail : List Cell}
    (h : Good codec s items tail) (item : α) :
    ∀ p ∈ items ++ [(s.contents.length, item)], (s.contents ++ [item])[p.1]? = some p.2 := by
  intro p hp
  rcases List.mem_append.mp hp with hp | hp
  · rw [List.getElem?_append_left (h.lt_of_mem hp)]
    exact h.contents p hp
  · rw [List.mem_singleton.mp hp]
    exact List.getElem?_concat_length

/-- append の後に戻っている item。 -/
theorem returned_append {s : DiskState α} {items : List (Nat × α)} {tail : List Cell}
    (h : Good codec s items tail) (item : α) (crash : Option Crash) :
    (s.append codec maxBytes item crash).returned.Pairwise (· < ·) ∧
      (∀ i ∈ (s.append codec maxBytes item crash).returned, i < (s.contents ++ [item]).length) := by
  have hlen : (s.contents ++ [item]).length = s.contents.length + 1 := by simp
  rw [append]
  cases crash with
  | some c =>
    exact ⟨h.returned_sorted, fun i hi => hlen ▸ Nat.lt_succ_of_lt (h.returned_lt i hi)⟩
  | none =>
    refine ⟨List.pairwise_append.mpr ⟨h.returned_sorted, List.pairwise_singleton _ _, ?_⟩, ?_⟩
    · intro i hi j hj
      rw [List.mem_singleton.mp hj]
      exact h.returned_lt i hi
    · intro i hi
      rw [hlen]
      rcases List.mem_append.mp hi with hi | hi
      · exact Nat.lt_succ_of_lt (h.returned_lt i hi)
      · rw [List.mem_singleton.mp hi]
        exact Nat.lt_succ_self _

/-- append の後に済んでいない item は、前から済んでいないか、戻った append のものである。 -/
theorem mem_unsettled_append {s : DiskState α} {item : α} {crash : Option Crash} {i : Nat}
    (hi : i ∈ (s.append codec maxBytes item crash).unsettled) :
    (i ∈ s.unsettled ∨ (crash = none ∧ i = s.contents.length)) ∧
      (begun crash 1 = true → i ∉ tags (s.oldest codec maxBytes item)) := by
  obtain ⟨hr, ha, hd⟩ := mem_unsettled.mp hi
  have ha : i ∉ s.acked := ha
  have hd : i ∉ s.droppedItems ++ if begun crash 1 then tags (s.oldest codec maxBytes item) else [] :=
    hd
  rw [List.mem_append, not_or] at hd
  refine ⟨?_, fun hb => ?_⟩
  · cases crash with
    | some c => exact .inl (mem_unsettled.mpr ⟨hr, ha, hd.1⟩)
    | none =>
      rcases List.mem_append.mp hr with hr | hr
      · exact .inl (mem_unsettled.mpr ⟨hr, ha, hd.1⟩)
      · exact .inr ⟨rfl, List.mem_singleton.mp hr⟩
  · have := hd.2
    rwa [if_pos hb] at this

/-- append の後の不変量のうち、file の中身によらない部分。 -/
theorem Good.append {s : DiskState α} {items items' : List (Nat × α)} {tail tail' : List Cell}
    (h : Good codec s items tail) {item : α} {crash : Option Crash}
    (hsub : items'.Sublist (items ++ [(s.contents.length, item)]))
    (hl : Laid codec (s.append codec maxBytes item crash).data items' tail')
    (hk : ∀ i ∈ (s.append codec maxBytes item crash).unsettled,
      i ∈ (items'.drop (s.append codec maxBytes item crash).offset).map Prod.fst) :
    Good codec (s.append codec maxBytes item crash) items' tail' where
  laid := hl
  sorted := (h.sorted_snoc item).sublist hsub
  contents := fun p hp => h.contents_snoc item p (hsub.subset hp)
  returned_sorted := (returned_append h item crash).1
  returned_lt := (returned_append h item crash).2
  kept := hk

section Append

variable {s : DiskState α} {items : List (Nat × α)} (h : Good codec s items []) {item : α}
  {crash : Option Crash}
include h

/-- 前から済んでいない item は、行が加わっても offset より後にある。 -/
theorem mem_drop_snoc {i : Nat} (hi : i ∈ s.unsettled) :
    i ∈ ((items ++ [(s.contents.length, item)]).drop s.offset).map Prod.fst := by
  rw [List.drop_append, List.map_append]
  exact List.mem_append_left _ (h.kept i hi)

theorem good_append_torn (hne : crash ≠ none) {m : Nat}
    (hd : DiskWrite.applyAll (cutAt crash (appendWrites maxBytes s.toDisk (s.nextLine codec item)))
      s.toDisk = { s.toDisk with data := s.data ++ (s.nextLine codec item).take m }) :
    ∃ items' tail', Good codec (s.append codec maxBytes item crash) items' tail' := by
  have hdata : (s.append codec maxBytes item crash).data
      = s.data ++ (s.nextLine codec item).take m := congrArg Disk.data hd
  have hoffset : (s.append codec maxBytes item crash).offset = s.offset :=
    (congrArg Disk.offset hd :)
  have hold : ∀ i ∈ (s.append codec maxBytes item crash).unsettled, i ∈ s.unsettled :=
    fun i hi => (mem_unsettled_append hi).1.resolve_right fun hc => hne hc.1
  rcases h.laid.torn s.contents.length item m with ⟨tail', hl⟩ | hl
  · exact ⟨items, tail', h.append (List.sublist_append_left _ _) (hdata ▸ hl)
      fun i hi => hoffset ▸ h.kept i (hold i hi)⟩
  · exact ⟨_, [], h.append (List.Sublist.refl _) (hdata ▸ hl)
      fun i hi => hoffset ▸ mem_drop_snoc h (hold i hi)⟩

theorem good_append_written (hoff : crash = none → s.offset ≤ s.lines.length)
    (hd : DiskWrite.applyAll (cutAt crash (appendWrites maxBytes s.toDisk (s.nextLine codec item)))
      s.toDisk = { s.toDisk with data := s.data ++ s.nextLine codec item }) :
    ∃ items' tail', Good codec (s.append codec maxBytes item crash) items' tail' := by
  have hdata : (s.append codec maxBytes item crash).data = s.data ++ s.nextLine codec item :=
    congrArg Disk.data hd
  have hoffset : (s.append codec maxBytes item crash).offset = s.offset :=
    (congrArg Disk.offset hd :)
  have hlines : s.lines.length = items.length := by
    rw [Disk.lines, h.laid.readlines_eq]
    simp [readlines]
  have hsnoc := h.laid.snoc s.contents.length item
  refine ⟨_, [], h.append (List.Sublist.refl _) (hdata ▸ hsnoc) fun i hi => ?_⟩
  rw [hoffset]
  rcases (mem_unsettled_append hi).1 with hu | ⟨hc, rfl⟩
  · exact mem_drop_snoc h hu
  · -- offset が行の数を越えなければ、新しい行は読み残しに入る
    rw [List.drop_append_of_le_length (hlines ▸ hoff hc), List.map_append]
    exact List.mem_append_right _ (List.mem_singleton_self _)

theorem good_append_overflow
    (ho : overflows maxBytes s.toDisk (s.nextLine codec item) = true) (hb : begun crash 1 = true)
    (hd : DiskWrite.applyAll (cutAt crash (appendWrites maxBytes s.toDisk (s.nextLine codec item)))
      s.toDisk = DiskWrite.applyAll (appendWrites maxBytes s.toDisk (s.nextLine codec item))
        s.toDisk) :
    ∃ items' tail', Good codec (s.append codec maxBytes item crash) items' tail' := by
  have happ := hd.trans (applyAll_appendWrites s.toDisk (s.nextLine codec item))
  rw [if_pos ho] at happ
  have hdata : (s.append codec maxBytes item crash).data
      = ((readlines Cell.isNl (s.data ++ lineOf codec s.contents.length item)).drop
        (DiskQueue.dropCount (readlines Cell.isNl
          (s.data ++ s.nextLine codec item)).length)).flatten := congrArg Disk.data happ
  have hoffset : (s.append codec maxBytes item crash).offset = 0 := congrArg Disk.offset happ
  have hsnoc := h.laid.snoc s.contents.length item
  obtain ⟨tail', hl⟩ := hsnoc.drop (DiskQueue.dropCount
    (readlines Cell.isNl (s.data ++ s.nextLine codec item)).length)
  refine ⟨_, tail', h.append (List.drop_sublist _ _) (hdata ▸ hl) fun i hi => ?_⟩
  obtain ⟨hwas, hnot⟩ := mem_unsettled_append hi
  have hnot := hnot hb
  rw [oldest, if_pos ho] at hnot
  rw [hoffset, List.drop_zero]
  -- 済んでいない item は、捨てた行のものではないので残っている
  refine hsnoc.mem_drop ?_ hnot
  rw [List.map_append]
  rcases hwas with hu | ⟨-, rfl⟩
  · have hin := h.kept i hu
    rw [List.map_drop] at hin
    exact List.mem_append_left _ (List.mem_of_mem_drop hin)
  · exact List.mem_append_right _ (List.mem_singleton_self _)

end Append

theorem good_append {s : DiskState α} {items : List (Nat × α)} {tail : List Cell}
    (h : Good codec s items tail) {item : α} {crash : Option Crash}
    (hs : s.Safe codec maxBytes ⟨.append item, crash⟩) :
    ∃ items' tail', Good codec (s.append codec maxBytes item crash) items' tail' := by
  obtain ⟨hterm, hoff, hrew⟩ := hs
  have htail := h.laid.tail_eq_nil hterm
  subst htail
  rcases appendDisk_cases hrew with ⟨hne, -, m, hd⟩ | ⟨-, hd⟩ | ⟨ho, hb, hd⟩
  · exact good_append_torn h hne hd
  · exact good_append_written h hoff hd
  · exact good_append_overflow h ho hb hd

/-! ### ack -/

theorem mem_unsettled_ack {s : DiskState α} {through : Nat} {crash : Option Crash} {i : Nat}
    (hi : i ∈ (s.ack through crash).unsettled) : i ∈ s.unsettled ∧
      (finished crash 0 = true → i ∉ tags (s.lines.take through)) := by
  obtain ⟨hr, ha, hd⟩ := mem_unsettled.mp hi
  have hr : i ∈ s.returned := hr
  have hd : i ∉ s.droppedItems := hd
  have ha : i ∉ s.acked ++ if finished crash 0 then tags (s.lines.take through) else [] := ha
  rw [List.mem_append, not_or] at ha
  refine ⟨mem_unsettled.mpr ⟨hr, ha.1, hd⟩, fun hf => ?_⟩
  have := ha.2
  rwa [if_pos hf] at this

theorem good_ack {s : DiskState α} {items : List (Nat × α)} {tail : List Cell}
    (h : Good codec s items tail) {through : Nat} {crash : Option Crash}
    (hs : s.Safe codec maxBytes ⟨.ack through, crash⟩) :
    ∃ items' tail', Good codec (s.ack through crash) items' tail' := by
  have hin : ∀ i ∈ s.unsettled, i ∈ items.map Prod.fst := by
    intro i hi
    have := h.kept i hi
    rw [List.map_drop] at this
    exact List.mem_of_mem_drop this
  rcases ackDisk_cases (d := s.toDisk) hs with ⟨-, hd⟩ | ⟨hf, hd⟩ | ⟨hf, hd⟩
  · have hdata : (s.ack through crash).data = s.data := (congrArg Disk.data hd :)
    have hoffset : (s.ack through crash).offset = s.offset := (congrArg Disk.offset hd :)
    exact ⟨items, tail, hdata ▸ h.laid, h.sorted, h.contents, h.returned_sorted, h.returned_lt,
      fun i hi => hoffset ▸ h.kept i (mem_unsettled_ack hi).1⟩
  · have hdata : (s.ack through crash).data = s.data := (congrArg Disk.data hd :)
    have hoffset : (s.ack through crash).offset = through := (congrArg Disk.offset hd :)
    refine ⟨items, tail, hdata ▸ h.laid, h.sorted, h.contents, h.returned_sorted, h.returned_lt,
      fun i hi => ?_⟩
    obtain ⟨hu, hnot⟩ := mem_unsettled_ack hi
    rw [hoffset]
    exact h.laid.mem_drop (hin i hu) (hnot hf)
  · have hdata : (s.ack through crash).data = (s.lines.drop through).flatten :=
      (congrArg Disk.data hd :)
    have hoffset : (s.ack through crash).offset = 0 := (congrArg Disk.offset hd :)
    obtain ⟨tail', hl⟩ := h.laid.drop through
    refine ⟨items.drop through, tail', hdata ▸ hl, h.sorted.drop,
      fun p hp => h.contents p (List.mem_of_mem_drop hp), h.returned_sorted, h.returned_lt,
      fun i hi => ?_⟩
    obtain ⟨hu, hnot⟩ := mem_unsettled_ack hi
    rw [hoffset, List.drop_zero]
    exact h.laid.mem_drop (hin i hu) (hnot hf)

/-! ## 落ちる実行 -/

/-- 危うい所で落ちない一歩は不変量を保つ。 -/
theorem good_step {s : DiskState α} (h : ∃ items tail, Good codec s items tail) {e : DiskEvent α}
    (hs : s.Safe codec maxBytes e) : ∃ items tail, Good codec (s.step codec maxBytes e) items tail := by
  obtain ⟨items, tail, h⟩ := h
  obtain ⟨op, crash⟩ := e
  cases op with
  | append item => exact good_append h hs
  | ack through => exact good_ack h hs

/-- **危うい所で落ちない実行では、済んでいない item はいつ起動し直しても順に返る。** -/
theorem recovers_run (codec : Codec α) (maxBytes : Nat) (es : List (DiskEvent α))
    (hc : Run.Along (step codec maxBytes) (Safe codec maxBytes) {} es) :
    ∀ pre, pre <+: es → Recovers codec (Run.exec (step codec maxBytes) {} pre) := by
  intro pre hpre
  obtain ⟨items, tail, h⟩ := Run.Along.invariant_isPrefix
    (I := fun (s : DiskState α) => ∃ items tail, Good codec s items tail)
    (fun _ _ h hs => good_step h hs) hc ⟨[], [], good_init⟩ hpre
  exact h.recovers

end DiskState

end Codec

/-! ## 切れた行 -/

/-- 空の辞書だけの codec。 -/
def emptyCodec : Codec Unit where
  dumps := fun _ => ['{', '}']
  loads := fun l => if l = ['{', '}', '\n'] ∨ l = ['{', '}'] then some () else none
  no_nl := fun _ => by decide
  loads_dumps := fun _ => rfl

/-- 一文字の真偽の codec。 -/
def flagCodec : Codec Bool where
  dumps b := [if b then '1' else '0']
  loads l := match l with
    | '1' :: _ => some true
    | '0' :: _ => some false
    | _ => none
  no_nl := by decide
  loads_dumps := by decide

/-- 二つ加え、一つ目を済ませた後に落ち、溢れる append で古い行を捨て、次の append を書く前に落ちる。 -/
def crashingRun : List (DiskEvent Bool) :=
  [⟨.append true, none⟩, ⟨.append false, none⟩, ⟨.ack 1, some ⟨1, none⟩⟩, ⟨.append true, none⟩,
    ⟨.append false, some ⟨0, none⟩⟩]

/-- どこで止まっても済んでいない item は返り、終わりには二つ目と三つ目が順に返る。 -/
theorem recovers_run_append :
    (∀ pre, pre <+: crashingRun →
      DiskState.Recovers flagCodec (Run.exec (DiskState.step flagCodec 5) {} pre)) ∧
    (Run.exec (DiskState.step flagCodec 5) {} crashingRun).unsettled = [1, 2] ∧
    DiskQueue.drain (loadsLine flagCodec) 1 3
      (Run.exec (DiskState.step flagCodec 5) {} crashingRun).queue = [false, true] := by
  refine ⟨DiskState.recovers_run flagCodec 5 crashingRun ?_, by decide, by decide⟩
  exact ⟨⟨by decide, by decide, by decide⟩, ⟨by decide, by decide, by decide⟩,
    fun h => absurd h (by decide), ⟨by decide, by decide, by decide⟩,
    ⟨by decide, by decide, by decide⟩, trivial⟩

/-- 一文字だけ書いて落ちた後の append は、切れた行に繋がり、二度と読めない。 -/
theorem torn_line_joined :
    ¬ DiskState.Recovers emptyCodec (Run.exec (DiskState.step emptyCodec 100) {}
      [⟨.append (), some ⟨0, some 1⟩⟩, ⟨.append (), none⟩]) := by
  intro h
  obtain ⟨n, hn⟩ := h 1 (by decide)
  have hdrain : DiskQueue.drain (loadsLine emptyCodec) 1 n (Run.exec (DiskState.step emptyCodec 100)
      {} [⟨.append (), some ⟨0, some 1⟩⟩, ⟨.append (), none⟩]).queue = [] := by
    cases n with
    | zero => rfl
    | succ n => rfl
  rw [hdrain] at hn
  have hlen := hn.length_le
  exact absurd hlen (by decide)

end CipherPost.Agent
