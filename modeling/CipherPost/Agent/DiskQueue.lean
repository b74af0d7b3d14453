import Mathlib.Algebra.GroupWithZero.Nat
import Mathlib.Data.List.Basic

/-!
# sensor の queue

`app/agent/queue.py` の `DiskQueue`。行の列と、次に読む行の番号 `offset` からなる。queue の溢れは先頭の
一割を捨てて offset を 0 に戻し、ack は offset を進めて、大きければ file を詰める。

* `append`・`dropOldest`・`readBatch`・`ack` — 操作
* `unread` — まだ読まれていない行
* `drain` — `read_batch` と `ack` の繰り返しが返す item
* `prefix_drain` — 読める行だけが続く限り、その item は順に返る
-/

namespace CipherPost.Agent

variable {L T : Type}

/-- `DiskQueue`。 -/
structure DiskQueue (L : Type) where
  lines : List L := []
  /-- `_offset`。 -/
  offset : Nat := 0
  dropped : Nat := 0
  deriving DecidableEq

namespace DiskQueue

/-- `drop`。 -/
def dropCount (n : Nat) : Nat := max 1 (n / 10)

/-- `_drop_oldest_locked`。 -/
def dropOldest (q : DiskQueue L) : DiskQueue L :=
  { lines := q.lines.drop (dropCount q.lines.length), offset := 0
    dropped := q.dropped + dropCount q.lines.length }

/-- `append`。`size` は行の bytes の数である。 -/
def append (size : L → Nat) (maxBytes : Nat) (q : DiskQueue L) (line : L) : DiskQueue L :=
  let grown := { q with lines := q.lines ++ [line] }
  if maxBytes < (grown.lines.map size).sum then grown.dropOldest else grown

/-- `read_batch` のうち、lock を離した後。`lines` は先に読んだ行である。 -/
def sliceBatch (loads : L → Option T) (limit offset : Nat) (lines : List L) : Nat × List T :=
  let start := min offset lines.length
  (start, ((lines.drop start).take limit).filterMap loads)

/-- `read_batch`。 -/
def readBatch (loads : L → Option T) (limit : Nat) (q : DiskQueue L) : Nat × List T :=
  sliceBatch loads limit q.offset q.lines

/-- `ack`。 -/
def ack (q : DiskQueue L) (through : Nat) : DiskQueue L :=
  if 5000 < through then { q with lines := q.lines.drop through, offset := 0 }
  else { q with offset := through }

/-- まだ読まれていない行。 -/
def unread (q : DiskQueue L) : List L := q.lines.drop q.offset

/-- `read_batch` と `ack(start + len(batch))` を `n` 回繰り返して返る item。 -/
def drain (loads : L → Option T) (limit : Nat) : Nat → DiskQueue L → List T
  | 0, _ => []
  | n + 1, q =>
    let r := q.readBatch loads limit
    match r.2 with
    | [] => []
    | _ :: _ => r.2 ++ drain loads limit n (q.ack (r.1 + r.2.length))

/-! ## 操作の性質 -/

theorem one_le_dropCount (n : Nat) : 1 ≤ dropCount n := Nat.le_max_left 1 _

theorem dropCount_le {n : Nat} (h : 0 < n) : dropCount n ≤ n := by
  rw [dropCount]
  omega

/-- append は溢れないか、一つ加えた列の先頭を捨てる。 -/
theorem append_cases (size : L → Nat) (maxBytes : Nat) (q : DiskQueue L) (line : L) :
    q.append size maxBytes line = { q with lines := q.lines ++ [line] } ∨
      ∃ d, 1 ≤ d ∧ d ≤ q.lines.length + 1 ∧ q.append size maxBytes line
        = { lines := (q.lines ++ [line]).drop d, offset := 0, dropped := q.dropped + d } := by
  rw [append]
  split
  · refine .inr ⟨dropCount (q.lines.length + 1), one_le_dropCount _, dropCount_le (by omega), ?_⟩
    rw [dropOldest, List.length_append, List.length_singleton]
  · exact .inl rfl

@[simp] theorem ack_dropped (q : DiskQueue L) (through : Nat) :
    (q.ack through).dropped = q.dropped := by
  rw [ack]
  split <;> rfl

/-- ack の後に残るのは、`through` より後の行である。 -/
theorem unread_ack (q : DiskQueue L) (through : Nat) :
    (q.ack through).unread = q.lines.drop through := by
  rw [ack]
  split
  · rfl
  · rfl

theorem drop_min_length (l : List L) (n : Nat) : l.drop (min n l.length) = l.drop n := by
  rcases Nat.le_total n l.length with h | h
  · rw [Nat.min_eq_left h]
  · rw [Nat.min_eq_right h, List.drop_length, List.drop_eq_nil_of_le h]

/-- batch は、まだ読まれていない行の先頭から読まれる。 -/
theorem readBatch_snd (loads : L → Option T) (limit : Nat) (q : DiskQueue L) :
    (q.readBatch loads limit).2 = (q.unread.take limit).filterMap loads := by
  rw [readBatch, sliceBatch, unread, drop_min_length]

/-- 返した数だけ ack すれば、先頭からその数の行が済む。 -/
theorem unread_ack_readBatch (loads : L → Option T) (limit n : Nat) (q : DiskQueue L) :
    (q.ack ((q.readBatch loads limit).1 + n)).unread = q.unread.drop n := by
  rw [unread_ack, readBatch, sliceBatch, unread, ← List.drop_drop, drop_min_length]

/-! ## 読み終えるまで -/

theorem drain_succ {loads : L → Option T} {limit : Nat} {q : DiskQueue L}
    (h : (q.readBatch loads limit).2 ≠ []) (n : Nat) :
    drain loads limit (n + 1) q = (q.readBatch loads limit).2 ++ drain loads limit n
      (q.ack ((q.readBatch loads limit).1 + (q.readBatch loads limit).2.length)) := by
  rw [drain]
  revert h
  cases (q.readBatch loads limit).2 with
  | nil => exact fun h => absurd rfl h
  | cons x xs => exact fun _ => rfl

section Drain

variable {loads : L → Option T} {limit : Nat} (hlimit : 0 < limit) {line : α → L} {item : α → T}
  (hload : ∀ a, loads (line a) = some (item a))
include hload

theorem filterMap_map_line (good : List α) :
    (good.map line).filterMap loads = good.map item := by
  rw [List.filterMap_map, ← List.filterMap_eq_map]
  exact List.filterMap_congr fun a _ => hload a

/-- 読める行が `limit` に足りなければ、一回でみな返る。 -/
theorem prefix_readBatch {good : List α} {last : List L} {q : DiskQueue L}
    (hq : q.unread = good.map line ++ last) (hlt : good.length < limit) :
    good.map item <+: (q.readBatch loads limit).2 := by
  refine ⟨(last.take (limit - good.length)).filterMap loads, ?_⟩
  have hall : (good.map line).take limit = good.map line :=
    List.take_of_length_le (by rw [List.length_map]; omega)
  rw [readBatch_snd, hq, List.take_append, hall, List.length_map, List.filterMap_append,
    filterMap_map_line hload]

/-- 足りれば、batch は読める行だけからなる。 -/
theorem readBatch_full {good : List α} {last : List L} {q : DiskQueue L}
    (hq : q.unread = good.map line ++ last) (hge : limit ≤ good.length) :
    (q.readBatch loads limit).2 = (good.take limit).map item := by
  rw [readBatch_snd, hq, List.take_append_of_le_length (by rw [List.length_map]; exact hge),
    ← List.map_take, filterMap_map_line hload]

include hlimit in
/--
読める行が続くなら、後に何があっても、その item がすべて順に返る。一回の batch が `limit` 個を進めるので、
読める行の数だけ繰り返せば足りる。
-/
theorem prefix_drain (last : List L) : ∀ (n : Nat) (good : List α) (q : DiskQueue L),
    q.unread = good.map line ++ last → good.length ≤ n →
      good.map item <+: drain loads limit n q := by
  intro n
  induction n with
  | zero =>
    intro good q _ hn
    have hnil : good = [] := List.length_eq_zero_iff.mp (Nat.le_zero.mp hn)
    rw [hnil, List.map_nil]
    exact List.nil_prefix
  | succ n ih =>
    intro good q hq hn
    rcases Nat.lt_or_ge good.length limit with hlt | hge
    · have hpre := prefix_readBatch hload hq hlt
      by_cases hb : (q.readBatch loads limit).2 = []
      · rw [hb, List.prefix_nil] at hpre
        rw [hpre]
        exact List.nil_prefix
      · rw [drain_succ hb]
        exact hpre.trans (List.prefix_append _ _)
    · have heq := readBatch_full hload hq hge
      have hlen : (q.readBatch loads limit).2.length = limit := by
        rw [heq, List.length_map, List.length_take, Nat.min_eq_left hge]
      -- 続きは `limit` 個だけ短い
      have hnext : (q.ack ((q.readBatch loads limit).1 + (q.readBatch loads limit).2.length)).unread
          = (good.drop limit).map line ++ last := by
        rw [unread_ack_readBatch, hlen, hq,
          List.drop_append_of_le_length (by rw [List.length_map]; exact hge), List.map_drop]
      have hrest := ih (good.drop limit) _ hnext (by rw [List.length_drop]; omega)
      have hsplit : good.map item = (q.readBatch loads limit).2 ++ (good.drop limit).map item := by
        rw [heq, ← List.map_append, List.take_append_drop]
      have hb : (q.readBatch loads limit).2 ≠ [] := by
        intro hb
        rw [hb, List.length_nil] at hlen
        omega
      rw [drain_succ hb, hsplit]
      exact (List.prefix_append_right_inj _).mpr hrest

end Drain

end DiskQueue

end CipherPost.Agent
