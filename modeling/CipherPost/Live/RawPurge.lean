import CipherPost.Live.RawRefs
import Mathlib.Data.List.TakeWhile
import Mathlib.Order.CompletePartialOrder
import Mathlib.Order.Interval.Set.Disjoint
import Mathlib.Tactic.Linarith

/-!
# 古い segment の削除

`purge` は、segment の終わりが保存の窓より前にある file だけを消し、開いている file は残す。segment の始まりは時刻を切り捨てて作るので、
消される frame は窓より古く、窓より segment 一つ分より古い frame は残らない。

* `segmentStart_segmentName`・`segmentOf_bounds` — 名前から読む始まりと、frame の時刻
* `RawStore.purgeFiles_spec` — `purge` の消すもの
* `RawLog.Named` — file の名前と frame の時刻
* `raw_ranges_and_purge` — 場所は重ならず、`purge` は窓を守る
-/

namespace CipherPost.Live

open Parsing (Bytes)

/-! ## 名前と時刻 -/

theorem toList_segmentName (n : Nat) :
    (segmentName n).toList = ['c', 'a', 'p', '-'] ++ Nat.toDigits 10 n ++ ['.', 's', 'e', 'g'] := by
  have hdigits : (toString (n : Int)).toList = Nat.toDigits 10 n := String.toList_ofList
  rw [segmentName, String.toList_append, String.toList_append, hdigits]
  rfl

/-- 負でない始まりは、file の名前から読み戻せる。 -/
theorem segmentStart_segmentName (n : Nat) : segmentStart (segmentName n) = some (n : Int) := by
  have hdigit : ∀ c ∈ Nat.toDigits 10 n, c.isDigit = true := fun c hc =>
    Nat.isDigit_of_mem_toDigits (by decide) (by decide) hc
  have hstem : (segmentName n).toList.take ((segmentName n).toList.length - 4) =
      ['c', 'a', 'p', '-'] ++ Nat.toDigits 10 n := by
    rw [toList_segmentName, List.length_append]
    exact List.take_left
  have hpart : ((['c', 'a', 'p', '-'] ++ Nat.toDigits 10 n).dropWhile (· ≠ '-')).drop 1 =
      Nat.toDigits 10 n := rfl
  have hall : (Nat.toDigits 10 n).takeWhile (fun c => decide (c ≠ '-')) = Nat.toDigits 10 n := by
    refine List.takeWhile_eq_self_iff.mpr fun c hc => decide_eq_true ?_
    rintro rfl
    exact absurd (hdigit '-' hc) (by decide)
  unfold segmentStart intOfDigits
  simp only
  have hvalid : Nat.toDigits 10 n ≠ [] ∧ (Nat.toDigits 10 n).all Char.isDigit = true :=
    ⟨List.ne_nil_of_length_pos Nat.length_toDigits_pos, List.all_eq_true.mpr hdigit⟩
  rw [hstem, hpart, hall, if_pos hvalid, Nat.ofDigitChars_ten_toDigits]

/-- 負でない時刻は、segment の始まりから長さの分の間にある。 -/
theorem segmentOf_bounds {cfg : RawConfig} {ts : ℚ} (hts : 0 ≤ ts) {seg : Int}
    (h : RawStore.segmentOf cfg ts = some seg) :
    ∃ n : Nat, seg = n ∧ (n : ℚ) ≤ ts ∧ ts < n + cfg.segmentSeconds := by
  unfold RawStore.segmentOf at h
  split at h
  · cases h
  · next hzero =>
    have hlen : (0 : Int) < cfg.segmentSeconds := by omega
    obtain rfl := Option.some.inj h
    rw [pyInt_of_nonneg hts, Int.fdiv_eq_ediv_of_nonneg _ (le_of_lt hlen)]
    have hfloor : 0 ≤ ⌊ts⌋ := Int.floor_nonneg.mpr hts
    have hdiv : 0 ≤ ⌊ts⌋ / (cfg.segmentSeconds : Int) := Int.ediv_nonneg hfloor (le_of_lt hlen)
    have hlow : ⌊ts⌋ / (cfg.segmentSeconds : Int) * cfg.segmentSeconds ≤ ⌊ts⌋ :=
      Int.ediv_mul_le _ (ne_of_gt hlen)
    have hhigh : ⌊ts⌋ < ⌊ts⌋ / (cfg.segmentSeconds : Int) * cfg.segmentSeconds + cfg.segmentSeconds :=
      Int.lt_ediv_add_one_mul_self _ hlen |>.trans_eq (by rw [add_mul, one_mul])
    obtain ⟨n, hn⟩ := Int.eq_ofNat_of_zero_le (mul_nonneg hdiv (le_of_lt hlen))
    rw [hn] at hlow hhigh ⊢
    refine ⟨n, rfl, ?_, ?_⟩
    · exact le_trans (by exact_mod_cast hlow) (Int.floor_le ts)
    · refine lt_of_lt_of_le (Int.lt_floor_add_one ts) ?_
      exact_mod_cast hhigh

/-! ## 消すもの -/

namespace RawStore

variable (cfg : RawConfig) (cutoff : Int)

/-- 消される file の名前。 -/
def Expired (cfg : RawConfig) (cutoff : Int) (s : RawStore) (name : String) : Prop :=
  ∃ start, segmentStart name = some start ∧ start + cfg.segmentSeconds < cutoff ∧
    s.current ≠ some name

/-- 負でない始まりの file が消されるのは、その segment の終わりが窓より前にあり、開いていないときである。 -/
theorem expired_segmentName {cfg : RawConfig} {cutoff : Int} {s : RawStore} {n : Nat} :
    s.Expired cfg cutoff (segmentName n) ↔
      (n : Int) + cfg.segmentSeconds < cutoff ∧ s.current ≠ some (segmentName n) := by
  constructor
  · rintro ⟨start, hstart, hexpired⟩
    rw [segmentStart_segmentName] at hstart
    obtain rfl := Option.some.inj hstart
    exact hexpired
  · exact fun hexpired => ⟨n, segmentStart_segmentName n, hexpired⟩

theorem purgeFiles_step (name : String) (names : List String) (s : RawStore) :
    purgeFiles cfg cutoff (name :: names) s =
      match segmentStart name with
      | none => (none, s)
      | some start =>
        if start + cfg.segmentSeconds < cutoff ∧ s.current ≠ some name then
          let (removed, s) := purgeFiles cfg cutoff names { s with files := s.files.erase name }
          (removed.map (· + 1), s)
        else purgeFiles cfg cutoff names s := by
  with_unfolding_all rfl

/-- 名前の読める file の一歩。 -/
theorem purgeFiles_cons {name : String} {start : Int} (names : List String) (s : RawStore)
    (h : segmentStart name = some start) :
    (s.Expired cfg cutoff name ∧
      (purgeFiles cfg cutoff (name :: names) s).2 =
        (purgeFiles cfg cutoff names { s with files := s.files.erase name }).2 ∧
      (purgeFiles cfg cutoff (name :: names) s).1.isSome =
        (purgeFiles cfg cutoff names { s with files := s.files.erase name }).1.isSome) ∨
    (¬s.Expired cfg cutoff name ∧
      purgeFiles cfg cutoff (name :: names) s = purgeFiles cfg cutoff names s) := by
  rw [purgeFiles_step, h]
  simp only
  split
  · next hc => exact .inl ⟨⟨start, h, hc⟩, rfl, Option.isSome_map⟩
  · next hc =>
    refine .inr ⟨?_, rfl⟩
    rintro ⟨start', hstart, hexpired⟩
    rw [h] at hstart
    obtain rfl := Option.some.inj hstart
    exact hc hexpired

/-- **名前の読める file だけなら、loop は終わりまで進み、消すべき file だけを消す。** -/
theorem purgeFiles_spec : ∀ (names : List String) (s : RawStore),
    (∀ name ∈ names, (segmentStart name).isSome) →
    (purgeFiles cfg cutoff names s).1.isSome ∧
    (purgeFiles cfg cutoff names s).2.current = s.current ∧
    ∀ name, (name ∈ names ∧ s.Expired cfg cutoff name →
        (purgeFiles cfg cutoff names s).2.files.get? name = none) ∧
      (¬(name ∈ names ∧ s.Expired cfg cutoff name) →
        (purgeFiles cfg cutoff names s).2.files.get? name = s.files.get? name) := by
  intro names
  induction names with
  | nil =>
    intro s _
    exact ⟨rfl, rfl, fun name => ⟨fun h => (List.not_mem_nil h.1).elim, fun _ => rfl⟩⟩
  | cons name names ih =>
    intro s hnames
    obtain ⟨start, hstart⟩ := Option.isSome_iff_exists.mp (hnames name List.mem_cons_self)
    have hrest : ∀ n ∈ names, (segmentStart n).isSome := fun n hn =>
      hnames n (List.mem_cons_of_mem _ hn)
    rcases purgeFiles_cons cfg cutoff names s hstart with
      ⟨hexpired, hsnd, hsome⟩ | ⟨hkept, hsame⟩
    · -- `name` を消してから、残りを進む
      obtain ⟨ihsome, ihcurrent, ihfiles⟩ := ih { s with files := s.files.erase name } hrest
      rw [hsnd, hsome]
      refine ⟨ihsome, ihcurrent, fun n => ?_⟩
      obtain ⟨hgone, hkeep⟩ := ihfiles n
      by_cases hn : n = name
      · refine ⟨fun _ => ?_, fun h => absurd ⟨hn ▸ List.mem_cons_self, hn ▸ hexpired⟩ h⟩
        by_cases hmem : n ∈ names ∧ s.Expired cfg cutoff n
        · exact hgone hmem
        · rw [hkeep hmem, hn]
          exact Dict.get?_erase_self _ _
      · refine ⟨fun h => hgone ⟨List.mem_of_ne_of_mem hn h.1, h.2⟩, fun h => ?_⟩
        rw [hkeep fun hc => h ⟨List.mem_cons_of_mem _ hc.1, hc.2⟩]
        exact Dict.get?_erase_of_ne _ hn
    · obtain ⟨ihsome, ihcurrent, ihfiles⟩ := ih s hrest
      rw [hsame]
      refine ⟨ihsome, ihcurrent, fun n => ⟨fun h => ?_, fun h => ?_⟩⟩
      · rcases List.mem_cons.mp h.1 with rfl | hmem
        · exact absurd h.2 hkept
        · exact (ihfiles n).1 ⟨hmem, h.2⟩
      · exact (ihfiles n).2 fun hc => h ⟨List.mem_cons_of_mem _ hc.1, hc.2⟩

/-- どの file の名前も読める。 -/
def Readable (s : RawStore) : Prop :=
  ∀ name file, s.files.get? name = some file → (segmentStart name).isSome

/-- `purge` の前後。 -/
theorem purge_spec {s : RawStore} (h : s.Readable) (now : Option ℚ) (clock : ℚ) :
    (s.purge cfg now clock).1.isSome ∧
    (s.purge cfg now clock).2.current = s.current ∧
    ∀ name, (s.Expired cfg (pyInt (purgeTime now clock) - cfg.retention) name →
        (s.purge cfg now clock).2.files.get? name = none) ∧
      (¬s.Expired cfg (pyInt (purgeTime now clock) - cfg.retention) name →
        (s.purge cfg now clock).2.files.get? name = s.files.get? name) := by
  have hnames : ∀ name ∈ s.files.entries.map Prod.fst, (segmentStart name).isSome := by
    intro name hname
    obtain ⟨⟨name, file⟩, hmem, rfl⟩ := List.mem_map.mp hname
    exact h name file ((Dict.mem_entries_iff _ _ _).mp hmem)
  obtain ⟨hsome, hcurrent, hfiles⟩ := purgeFiles_spec cfg
    (pyInt (purgeTime now clock) - cfg.retention) _ s hnames
  refine ⟨hsome, hcurrent, fun name => ⟨fun hexpired => ?_, fun hkept => ?_⟩⟩
  · by_cases hmem : name ∈ s.files.entries.map Prod.fst
    · exact (hfiles name).1 ⟨hmem, hexpired⟩
    · -- もともと無い file は、消しても無い
      exact ((hfiles name).2 fun hc => hmem hc.1).trans ((Dict.get?_eq_none_iff _ _).mpr hmem)
  · exact (hfiles name).2 fun hc => hkept hc.2

variable {cfg} in
/-- `write` の後にある file は、前からあったか、時刻の segment である。 -/
theorem get?_write {stamp : Stamp} {s : RawStore} {free : Option Int} {ts : ℚ} {frame : Bytes}
    {name : String} {file : Bytes}
    (h : (s.write stamp cfg free ts frame).2.files.get? name = some file) :
    (∃ file, s.files.get? name = some file) ∨
      ∃ seg, segmentOf cfg ts = some seg ∧ name = segmentName seg := by
  have hopen : ∀ seg file, segmentOf cfg ts = some seg →
      ((s.diskGuardCheck cfg free).openSegment (segmentName seg)).files.get? name = some file →
      (∃ file, s.files.get? name = some file) ∨
        ∃ seg, segmentOf cfg ts = some seg ∧ name = segmentName seg := by
    intro seg file hseg hget
    rcases get?_openSegment _ hget with hname | hget
    · exact .inr ⟨seg, hseg, hname⟩
    · rw [files_diskGuardCheck] at hget
      exact .inl ⟨file, hget⟩
  rcases s.write_cases stamp cfg free ts frame with ⟨-, h'⟩ | ⟨-, -, h'⟩ |
    ⟨seg, -, hseg, ⟨-, h'⟩ | ⟨record, -, h'⟩⟩
  · rw [h', files_diskGuardCheck] at h
    exact .inl ⟨file, h⟩
  · rw [h', files_diskGuardCheck] at h
    exact .inl ⟨file, h⟩
  · rw [h'] at h
    exact hopen seg file hseg h
  · rw [h'] at h
    by_cases hname : segmentName seg = name
    · exact .inr ⟨seg, hseg, hname.symm⟩
    · exact hopen seg file hseg ((Dict.get?_set_of_ne _ _ hname).symm.trans h)

end RawStore

/-! ## どの操作の列でも -/

/-- 書く時刻が負でない操作。 -/
def RawOp.Dated : RawOp → Prop
  | .write _ ts _ => 0 ≤ ts
  | _ => True

namespace RawLog

variable {stamp : Stamp} {cfg : RawConfig}

/-- file の名前は始まりの時刻であり、返した frame の時刻はその segment の中にある。 -/
structure Named (cfg : RawConfig) (s : RawLog) : Prop where
  files : ∀ name file, s.store.files.get? name = some file → ∃ n : Nat, name = segmentName n
  entries : ∀ e ∈ s.entries, ∃ n : Nat, e.ref.segment = segmentName n ∧ (n : ℚ) ≤ e.ts ∧
    e.ts < n + cfg.segmentSeconds

theorem Named.readable {s : RawLog} (h : s.Named cfg) : s.store.Readable := by
  intro name file hget
  obtain ⟨n, rfl⟩ := h.files name file hget
  rw [segmentStart_segmentName]
  rfl

theorem Named.step {s : RawLog} (h : s.Named cfg) {op : RawOp} (hop : op.Dated) :
    (s.step stamp cfg op).Named cfg where
  files := by
    intro name file hget
    cases op with
    | write free ts frame =>
      rcases RawStore.get?_write hget with ⟨file, hold⟩ | ⟨seg, hseg, rfl⟩
      · exact h.files name file hold
      · obtain ⟨n, rfl, -, -⟩ := segmentOf_bounds hop hseg
        exact ⟨n, rfl⟩
    | close => exact h.files name file hget
    | restart => exact h.files name file hget
    | purge now clock =>
      obtain ⟨-, -, hfiles⟩ := RawStore.purge_spec cfg h.readable now clock
      have hget : (s.store.purge cfg now clock).2.files.get? name = some file := hget
      by_cases hexpired :
          s.store.Expired cfg (pyInt (RawStore.purgeTime now clock) - cfg.retention) name
      · rw [(hfiles name).1 hexpired] at hget
        cases hget
      · exact h.files name file ((hfiles name).2 hexpired ▸ hget)
  entries := by
    intro e he
    rcases entries_step he with he | ⟨free, ts, frame, store, rfl, hwrite, heq⟩
    · exact h.entries e he
    · obtain ⟨seg, record, hseg, hsegment, -, -, -, -⟩ := s.store.write_ref stamp cfg hwrite
      obtain ⟨n, rfl, hlow, hhigh⟩ := segmentOf_bounds hop hseg
      rw [heq]
      exact ⟨n, hsegment, hlow, hhigh⟩

theorem named_exec {ops : List RawOp} (hops : ∀ op ∈ ops, op.Dated) :
    (Run.exec (RawLog.step stamp cfg) {} ops).Named cfg :=
  Run.Along.invariant (fun _ _ h hop => h.step hop) (Run.along_of_mem hops)
    ⟨fun _ _ h => (by cases h), fun _ he => (List.not_mem_nil he).elim⟩

end RawLog

/-- 場所の占める byte の範囲。 -/
def RawRef.range (r : RawRef) : Set Nat := Set.Ico r.offset (r.offset + r.length)

/--
**時刻が負でないどの操作の列でも、消さない間に返した同じ file の場所は重ならず、`purge` は保存の窓を守る。** 窓の中の frame の file と、開いている
file には触れず、窓より segment 一つ分より古い frame の、開いていない file は残さない。
-/
theorem raw_ranges_and_purge (stamp : Stamp) (cfg : RawConfig) {ops : List RawOp}
    (hdated : ∀ op ∈ ops, op.Dated) :
    let s := Run.exec (RawLog.step stamp cfg) {} ops
    ((∀ op ∈ ops, op.Keeps) → s.entries.Pairwise fun e e' =>
      e.ref.segment = e'.ref.segment → Disjoint e.ref.range e'.ref.range) ∧
    ∀ now clock : ℚ, 0 < now →
      (s.store.purge cfg (some now) clock).1.isSome ∧
      ∀ e ∈ s.entries,
        ((s.store.purge cfg (some now) clock).2.files.get? e.ref.segment ≠
            s.store.files.get? e.ref.segment →
          e.ts < now - cfg.retention ∧ s.store.current ≠ some e.ref.segment) ∧
        (e.ts < pyInt now - cfg.retention - cfg.segmentSeconds →
          s.store.current ≠ some e.ref.segment →
          (s.store.purge cfg (some now) clock).2.files.get? e.ref.segment = none) := by
  intro s
  have hnamed : s.Named cfg := RawLog.named_exec hdated
  refine ⟨fun hkeeps => ?_, fun now clock hnow => ?_⟩
  · refine (RawLog.placed_exec hkeeps).apart.imp fun {e e'} hapart hsegment => ?_
    exact Set.Ico_disjoint_Ico.mpr
      (le_trans (min_le_left _ _) ((hapart hsegment).trans (le_max_right _ _)))
  · have htime : RawStore.purgeTime (some now) clock = now := if_neg (ne_of_gt hnow)
    obtain ⟨hsome, -, hfiles⟩ := RawStore.purge_spec cfg hnamed.readable (some now) clock
    rw [htime, pyInt_of_nonneg (le_of_lt hnow)] at hfiles
    rw [pyInt_of_nonneg (le_of_lt hnow)]
    refine ⟨hsome, fun e he => ?_⟩
    obtain ⟨n, hsegment, hlow, hhigh⟩ := hnamed.entries e he
    obtain ⟨hgone, hkeep⟩ := hfiles e.ref.segment
    rw [hsegment] at hgone hkeep ⊢
    rw [RawStore.expired_segmentName] at hgone hkeep
    constructor
    · intro hchanged
      by_contra hnot
      refine hchanged (hkeep fun ⟨hend, hcurrent⟩ => hnot ⟨?_, hcurrent⟩)
      -- frame は segment の終わりより前に書かれている
      have hend : (n : ℚ) + cfg.segmentSeconds < ⌊now⌋ - cfg.retention := by exact_mod_cast hend
      have hfloor : (⌊now⌋ : ℚ) ≤ now := Int.floor_le now
      linarith
    · intro hold hcurrent
      refine hgone ⟨?_, hcurrent⟩
      have hend : (n : ℚ) + cfg.segmentSeconds < ⌊now⌋ - cfg.retention := by linarith
      exact_mod_cast hend

/-- 1 秒に書いて閉じた file は、30000 秒の `purge` で消える。 -/
theorem raw_ranges_and_purge_closed :
    ((Run.exec (RawLog.step secondStamp {}) {} (oneWrite ++ [.close])).store.purge {} (some 30000)
      0).2.files.get? "cap-0.seg" = none := by
  have hops : ∀ op ∈ oneWrite ++ [.close], op.Dated := by
    intro op hop
    rcases List.mem_append.mp hop with hop | hop
    · rw [List.mem_singleton.mp hop]
      exact zero_le_one
    · rw [List.mem_singleton.mp hop]
      exact trivial
  refine (((raw_ranges_and_purge secondStamp {} hops).2 30000 0 (by norm_num)).2
    ⟨1, [0xff, 0xff], ⟨"cap-0.seg", 0, 26⟩⟩ (by decide +kernel)).2 ?_ (by decide +kernel)
  decide +kernel

end CipherPost.Live
