import CipherPost.Infra.Dict
import CipherPost.Infra.Run
import CipherPost.Infra.Wire
import CipherPost.Parsing.Reassembly
import Mathlib.Algebra.Order.Floor.Defs
import Mathlib.Data.Rat.Floor

/-!
# 生 frame の segment file

`app/live/retention.py` の `RollingRawStore`。frame を時刻で区切った segment file の末尾に書き、場所を返す。古い file は
`purge` が消す。

* `segmentName`・`segmentStart` — file の名前と、名前から読む始まりの時刻
* `RawStore.write`・`RawStore.readFrames` — 書くことと読むこと
* `RawStore.purge` — 古い file を消すこと
* `RawOp`・`RawLog` — 操作の列と、返した場所の記録

時刻は float なので有理数で書く。NaN と無限大は `int` の例外になり、何も変えない。segment の長さは非負の秒数である。`struct` の `d`
の 8 byte は環境が答え、表せない値では例外になる。log と統計の数は省く。
-/

namespace CipherPost.Live

open Parsing (Bytes)

/-! ## 名前と時刻 -/

/-- `int(x)`。0 の方へ切り捨てる。 -/
def pyInt (x : ℚ) : Int := x.num.tdiv x.den

/-- `f"cap-{seg}{_EXT}"`。 -/
def segmentName (seg : Int) : String := "cap-" ++ toString seg ++ ".seg"

/-- 十進の数字の列に掛けた `int`。file の名前には数字しか現れない。 -/
def intOfDigits (digits : List Char) : Option Int :=
  if digits ≠ [] ∧ digits.all Char.isDigit then some (Nat.ofDigitChars 10 digits 0) else none

/-- `int(path.stem.split("-")[1])`。`none` は例外である。 -/
def segmentStart (name : String) : Option Int :=
  let stem := name.toList.take (name.toList.length - 4)
  intOfDigits (((stem.dropWhile (· ≠ '-')).drop 1).takeWhile (· ≠ '-'))

example : segmentStart (segmentName 300) = some 300 := by decide +kernel

example : segmentStart (segmentName (-300)) = none := by decide +kernel

/-! ## 設定と状態 -/

/-- 設定値。 -/
structure RawConfig where
  retention : Int := 21600
  segmentSeconds : Nat := 300
  diskMinFreeBytes : Int := 2147483648
  deriving DecidableEq

/-- `_DISK_CHECK_EVERY_WRITES`。 -/
def DISK_CHECK_EVERY_WRITES : Nat := 128

/-- `RollingRawStore`。`current` は `_current` で、開いた file があるときだけ値を持つ。 -/
structure RawStore where
  files : Dict String Bytes := Dict.empty
  current : Option String := none
  diskGuardActive : Bool := false
  writesSinceCheck : Nat := DISK_CHECK_EVERY_WRITES
  deriving DecidableEq

/-- `write` の返す場所。 -/
structure RawRef where
  segment : String
  offset : Nat
  length : Nat
  deriving DecidableEq

/-- `write` の結果。 -/
inductive RawWrite where
  | ref (r : RawRef)
  | dropped
  | raised
  deriving DecidableEq

/-- `struct` の `d` の 8 byte。 -/
abbrev Stamp : Type := ℚ → Option (Vector UInt8 8)

/-- `_FRAME_HDR.pack(0, int(ts * 1e6), len(frame))`。 -/
def frameHeader (stamp : Stamp) (ts : ℚ) (length : Nat) : Option Bytes :=
  if length < 2 ^ 32 then
    (stamp ts).map fun double =>
      List.replicate 8 0 ++ double.toList ++ (Wire.be 4 length).reverse
  else none

/-- `_MAGIC.to_bytes(4, "little")`。 -/
def MAGIC : Bytes := (Wire.be 4 0x43505720).reverse

/-- frame の前後に書くものと合わせた、file の中の一つの記録。 -/
def frameRecord (stamp : Stamp) (ts : ℚ) (frame : Bytes) : Option Bytes :=
  (frameHeader stamp ts frame.length).map fun header => header ++ MAGIC ++ frame

/-! ## 書く、読む、消す -/

namespace RawStore

/-- `_disk_guard_should_drop`。`free` は空きの大きさで、測れなければ `none` である。 -/
def diskGuardCheck (cfg : RawConfig) (s : RawStore) (free : Option Int) : RawStore :=
  if s.diskGuardActive ∨ DISK_CHECK_EVERY_WRITES ≤ s.writesSinceCheck + 1 then
    match free with
    | none => { s with writesSinceCheck := 0 }
    | some free =>
      { s with writesSinceCheck := 0, diskGuardActive := decide (free < cfg.diskMinFreeBytes) }
  else { s with writesSinceCheck := s.writesSinceCheck + 1 }

/-- 名前の file の中身。 -/
def content (s : RawStore) (name : String) : Bytes := (s.files.get? name).getD []

/-- `_open_segment`。追記で開けば、無い file は空で作られる。 -/
def openSegment (s : RawStore) (name : String) : RawStore :=
  if s.current = some name then s
  else { s with files := s.files.set name (s.content name), current := some name }

/-- `_close_current`。 -/
def closeCurrent (s : RawStore) : RawStore := { s with current := none }

/-- 新しい process が、同じ directory を開く。 -/
def reopened (s : RawStore) : RawStore := { files := s.files }

/-- 時刻の segment の始まり。長さが 0 なら `ZeroDivisionError` である。 -/
def segmentOf (cfg : RawConfig) (ts : ℚ) : Option Int :=
  if cfg.segmentSeconds = 0 then none
  else some ((pyInt ts).fdiv cfg.segmentSeconds * cfg.segmentSeconds)

/-- `write`。 -/
def write (stamp : Stamp) (cfg : RawConfig) (s : RawStore) (free : Option Int) (ts : ℚ)
    (frame : Bytes) : RawWrite × RawStore :=
  let s := s.diskGuardCheck cfg free
  if s.diskGuardActive then (.dropped, s)
  else
    match segmentOf cfg ts with
    | none => (.raised, s)
    | some seg =>
      let name := segmentName seg
      let s := s.openSegment name
      match frameRecord stamp ts frame with
      | none => (.raised, s)
      | some record =>
        (.ref ⟨name, (s.content name).length, 20 + 4 + frame.length⟩,
          { s with files := s.files.set name (s.content name ++ record) })

/-- `read_frames`。消された file の分は飛ばす。 -/
def readFrames (s : RawStore) (refs : List RawRef) : List Bytes :=
  refs.filterMap fun r =>
    (s.files.get? r.segment).map fun file => (file.drop r.offset).take r.length

/-- `purge` の loop。file の名前が読めなければ例外で止まり、そこまでに消したものは戻らない。 -/
def purgeFiles (cfg : RawConfig) (cutoff : Int) : List String → RawStore → Option Nat × RawStore
  | [], s => (some 0, s)
  | name :: names, s =>
    match segmentStart name with
    | none => (none, s)
    | some start =>
      if start + cfg.segmentSeconds < cutoff ∧ s.current ≠ some name then
        let (removed, s) := purgeFiles cfg cutoff names { s with files := s.files.erase name }
        (removed.map (· + 1), s)
      else purgeFiles cfg cutoff names s

/-- `now or time.time()`。 -/
def purgeTime (now : Option ℚ) (clock : ℚ) : ℚ :=
  match now with
  | none => clock
  | some now => if now = 0 then clock else now

/-- `purge`。 -/
def purge (cfg : RawConfig) (s : RawStore) (now : Option ℚ) (clock : ℚ) : Option Nat × RawStore :=
  purgeFiles cfg (pyInt (purgeTime now clock) - cfg.retention) (s.files.entries.map Prod.fst) s

end RawStore

/-! ## 操作の列 -/

/-- store の操作。`write` には、その時の空きの大きさを添える。 -/
inductive RawOp where
  | write (free : Option Int) (ts : ℚ) (frame : Bytes)
  | close
  | restart
  | purge (now : Option ℚ) (clock : ℚ)
  deriving DecidableEq

/-- 書いた frame と、返した場所。 -/
structure RawEntry where
  ts : ℚ
  frame : Bytes
  ref : RawRef
  deriving DecidableEq

/-- `write` の結果を記録する。 -/
def RawWrite.entries (ts : ℚ) (frame : Bytes) : RawWrite → List RawEntry
  | .ref r => [⟨ts, frame, r⟩]
  | .dropped => []
  | .raised => []

/-- store と、返した場所の記録。 -/
structure RawLog where
  store : RawStore := {}
  entries : List RawEntry := []
  deriving DecidableEq

/-- 操作一つ。 -/
def RawLog.step (stamp : Stamp) (cfg : RawConfig) (s : RawLog) : RawOp → RawLog
  | .write free ts frame =>
    let (result, store) := s.store.write stamp cfg free ts frame
    { store := store, entries := s.entries ++ result.entries ts frame }
  | .close => { s with store := s.store.closeCurrent }
  | .restart => { s with store := s.store.reopened }
  | .purge now clock => { s with store := (s.store.purge cfg now clock).2 }

/-! ## 一つの操作 -/

/-- 切り捨ては、非負の数では床である。 -/
theorem pyInt_of_nonneg {x : ℚ} (h : 0 ≤ x) : pyInt x = ⌊x⌋ := by
  rw [pyInt, Int.tdiv_eq_ediv_of_nonneg (Rat.num_nonneg.mpr h)]
  exact (Rat.floor_def x).symm

theorem length_frameRecord {stamp : Stamp} {ts : ℚ} {frame record : Bytes}
    (h : frameRecord stamp ts frame = some record) : record.length = 20 + 4 + frame.length := by
  obtain ⟨header, hheader, rfl⟩ := Option.map_eq_some_iff.mp h
  unfold frameHeader at hheader
  split at hheader
  · obtain ⟨double, -, rfl⟩ := Option.map_eq_some_iff.mp hheader
    simp [MAGIC]
    omega
  · cases hheader

/-- 記録を作れるのは、長さが 32 bit に収まり、時刻が表せるときである。 -/
theorem isSome_frameRecord {stamp : Stamp} {ts : ℚ} {frame : Bytes} :
    (frameRecord stamp ts frame).isSome ↔ frame.length < 2 ^ 32 ∧ (stamp ts).isSome := by
  unfold frameRecord frameHeader
  rw [Option.isSome_map]
  split
  · next h => rw [Option.isSome_map]; exact (and_iff_right h).symm
  · next h => exact iff_of_false Bool.false_ne_true fun hc => h hc.1

namespace RawStore

/-- 前の file は、末尾に足されるだけである。 -/
def Extends (s s' : RawStore) : Prop :=
  ∀ name file, s.files.get? name = some file → ∃ more, s'.files.get? name = some (file ++ more)

theorem Extends.refl (s : RawStore) : s.Extends s :=
  fun _ file h => ⟨[], (List.append_nil file).symm ▸ h⟩

theorem Extends.trans {s s' s'' : RawStore} (h : s.Extends s') (h' : s'.Extends s'') :
    s.Extends s'' := by
  intro name file hget
  obtain ⟨more, hget⟩ := h name file hget
  obtain ⟨more', hget⟩ := h' name _ hget
  exact ⟨more ++ more', by rw [← List.append_assoc]; exact hget⟩

/-- 名前の file を、末尾に足したものに置き換える。 -/
theorem extends_set (s : RawStore) (name : String) (more : Bytes) (current : Option String) :
    s.Extends { s with files := s.files.set name (s.content name ++ more), current := current } := by
  intro name' file hget
  by_cases hname : name = name'
  · subst hname
    refine ⟨more, ?_⟩
    have hcontent : s.content name = file := by rw [content, hget]; rfl
    rw [← hcontent]
    exact Dict.get?_set_self ..
  · exact ⟨[], by rw [List.append_nil]; exact (Dict.get?_set_of_ne _ _ hname).trans hget⟩

variable (stamp : Stamp) (cfg : RawConfig) (s : RawStore)

@[simp] theorem files_diskGuardCheck (free : Option Int) :
    (s.diskGuardCheck cfg free).files = s.files := by
  unfold diskGuardCheck
  split
  · cases free <;> rfl
  · rfl

/-- 空きがあれば、書くのを止めない。 -/
theorem diskGuardActive_check (free : Option Int) (hactive : s.diskGuardActive = false)
    (hfree : ∀ n, free = some n → cfg.diskMinFreeBytes ≤ n) :
    (s.diskGuardCheck cfg free).diskGuardActive = false := by
  unfold diskGuardCheck
  split
  · cases free with
    | none => exact hactive
    | some n => exact decide_eq_false (not_lt.mpr (hfree n rfl))
  · exact hactive

@[simp] theorem content_diskGuardCheck (free : Option Int) (name : String) :
    (s.diskGuardCheck cfg free).content name = s.content name := by
  rw [content, files_diskGuardCheck, content]

@[simp] theorem current_openSegment (name : String) :
    (s.openSegment name).current = some name := by
  unfold openSegment
  split
  · next h => exact h
  · rfl

@[simp] theorem diskGuardActive_openSegment (name : String) :
    (s.openSegment name).diskGuardActive = s.diskGuardActive := by
  unfold openSegment
  split <;> rfl

theorem extends_openSegment (name : String) : s.Extends (s.openSegment name) := by
  unfold openSegment
  split
  · exact Extends.refl s
  · have h := s.extends_set name [] (some name)
    rwa [List.append_nil] at h

/-- file を開いても、中身は変わらない。 -/
@[simp] theorem content_openSegment (name name' : String) :
    (s.openSegment name).content name' = s.content name' := by
  unfold openSegment content
  split
  · rfl
  · rw [Dict.get?_set]
    split
    · next h => rw [← h]; rfl
    · rfl

/-- 開いた後にある file は、前からあったか、開いた file である。 -/
theorem get?_openSegment {name name' : String} {file : Bytes}
    (h : (s.openSegment name).files.get? name' = some file) :
    name' = name ∨ s.files.get? name' = some file := by
  unfold openSegment at h
  split at h
  · exact .inr h
  · rw [Dict.get?_set] at h
    split at h
    · next hname => exact .inl hname.symm
    · exact .inr h

/-- `write` の四つの道筋。 -/
theorem write_cases (free : Option Int) (ts : ℚ) (frame : Bytes) :
    let g := s.diskGuardCheck cfg free
    (g.diskGuardActive = true ∧ s.write stamp cfg free ts frame = (.dropped, g)) ∨
    (g.diskGuardActive = false ∧ segmentOf cfg ts = none ∧
      s.write stamp cfg free ts frame = (.raised, g)) ∨
    ∃ seg, g.diskGuardActive = false ∧ segmentOf cfg ts = some seg ∧
      ((frameRecord stamp ts frame = none ∧
        s.write stamp cfg free ts frame = (.raised, g.openSegment (segmentName seg))) ∨
      ∃ record, frameRecord stamp ts frame = some record ∧
        s.write stamp cfg free ts frame =
          (.ref ⟨segmentName seg, (s.content (segmentName seg)).length, record.length⟩,
            { g.openSegment (segmentName seg) with
              files := (g.openSegment (segmentName seg)).files.set (segmentName seg)
                (s.content (segmentName seg) ++ record) })) := by
  intro g
  unfold write
  simp only
  cases hactive : g.diskGuardActive with
  | true => exact .inl ⟨rfl, if_pos rfl⟩
  | false =>
    right
    rw [if_neg Bool.false_ne_true]
    cases hseg : segmentOf cfg ts with
    | none => exact .inl ⟨rfl, rfl, rfl⟩
    | some seg =>
      right
      refine ⟨seg, rfl, rfl, ?_⟩
      cases hrecord : frameRecord stamp ts frame with
      | none => exact .inl ⟨rfl, rfl⟩
      | some record =>
        refine .inr ⟨record, rfl, ?_⟩
        rw [length_frameRecord hrecord]
        simp only [content_openSegment, content_diskGuardCheck]
        rfl

theorem extends_of_files {s s' : RawStore} (h : s'.files = s.files) : s.Extends s' :=
  fun _ file hget => ⟨[], by rw [h, List.append_nil]; exact hget⟩

/-- **`write` は、前に書いたものに触れない。** -/
theorem extends_write (free : Option Int) (ts : ℚ) (frame : Bytes) :
    s.Extends (s.write stamp cfg free ts frame).2 := by
  have hguard : s.Extends (s.diskGuardCheck cfg free) :=
    extends_of_files (s.files_diskGuardCheck cfg free)
  rcases s.write_cases stamp cfg free ts frame with
    ⟨-, h⟩ | ⟨-, -, h⟩ | ⟨seg, -, -, ⟨-, h⟩ | ⟨record, -, h⟩⟩
  · rw [h]
    exact hguard
  · rw [h]
    exact hguard
  · rw [h]
    exact hguard.trans (extends_openSegment _ _)
  · rw [h]
    refine (hguard.trans (extends_openSegment _ (segmentName seg))).trans ?_
    have hset := ((s.diskGuardCheck cfg free).openSegment (segmentName seg)).extends_set
      (segmentName seg) record (some (segmentName seg))
    simp only [content_openSegment, content_diskGuardCheck] at hset
    rw [← current_openSegment (s.diskGuardCheck cfg free) (segmentName seg)] at hset
    exact hset

/-- `write` の返す場所には、frame の記録がちょうど末尾に足されている。 -/
theorem write_ref {free : Option Int} {ts : ℚ} {frame : Bytes} {r : RawRef} {s' : RawStore}
    (h : s.write stamp cfg free ts frame = (.ref r, s')) :
    ∃ seg record, segmentOf cfg ts = some seg ∧ r.segment = segmentName seg ∧
      frameRecord stamp ts frame = some record ∧ r.offset = (s.content r.segment).length ∧
      r.length = record.length ∧
      s'.files.get? r.segment = some (s.content r.segment ++ record) := by
  rcases s.write_cases stamp cfg free ts frame with ⟨-, h'⟩ | ⟨-, -, h'⟩ |
    ⟨seg, -, hseg, ⟨-, h'⟩ | ⟨record, hrecord, h'⟩⟩
  · rw [h'] at h
    cases h
  · rw [h'] at h
    cases h
  · rw [h'] at h
    cases h
  · rw [h'] at h
    obtain ⟨hr, rfl⟩ := Prod.mk.inj h
    obtain rfl := RawWrite.ref.inj hr
    exact ⟨seg, record, hseg, rfl, hrecord, rfl, rfl, Dict.get?_set_self ..⟩

end RawStore

end CipherPost.Live
