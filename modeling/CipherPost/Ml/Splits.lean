import Mathlib.Algebra.GroupWithZero.Nat
import Mathlib.Data.List.Dedup
import Mathlib.Data.Prod.Lex
import Mathlib.Order.WithBot
import CipherPost.Infra.Groups
import CipherPost.Infra.Ranking

/-!
# 組ごとの train と test

`app/ml/splits.py` の `grouped_time_split` と `leakage_report`。要素・組・時刻の型は問わない。時刻の無い
組は、時刻の代わりに整数の 0 で並べる。

* `groupedTimeSplit` — `grouped_time_split`
* `leakageReport` — `leakage_report`
* `SoundSplit` — 分割の満たすべきこと
* `splitsSoundly_iff` — 分割がそれを満たすのは、時刻の無い組が新しい側に紛れないときである
* `soundSplit_of_some` — 時刻が 0 と比べられないときは、例外にならない分割はそれを満たす
* `leakageReport_clean_iff` — `clean` は、両側に現れる組が無いことである
-/

namespace CipherPost.Ml.Splits

section Split

variable {α G T : Type} [DecidableEq G] [LinearOrder T] (groupKey : α → G) (timeKey : α → Option T)
  (zero : Option T)

/-! ## 分割 -/

/-- 組の一番新しい時刻。時刻が無ければ `⊥` である。 -/
def latest (members : List α) : WithBot T := (members.filterMap timeKey).max?

/--
`_group_time`。`zero` は時刻の代わりになる整数の 0 で、時刻と比べられないとき（`datetime` など）は
`none` である。
-/
def groupTime (members : List α) : WithBot T ×ₗ Nat :=
  toLex ((latest timeKey members).or zero, members.length)

/-- 引数の既定値での `n_test`。 -/
def testCount (n : Nat) : Nat := min (max 1 ((2 * n + 5) / 10)) (max (n - 1) 1)

/-- `sorted` が `TypeError` になる。時刻のある組と無い組があり、0 が時刻と比べられないときである。 -/
def Incomparable (items : List α) : Prop :=
  zero = none ∧ (∃ g ∈ (Groups.of groupKey items).values, latest timeKey g = ⊥) ∧
    ∃ g ∈ (Groups.of groupKey items).values, latest timeKey g ≠ ⊥

instance (items : List α) : Decidable (Incomparable groupKey timeKey zero items) :=
  inferInstanceAs (Decidable (_ ∧ _ ∧ _))

/-- `_group_time` の順。 -/
def groupLe (a b : G × List α) : Bool :=
  decide (groupTime timeKey zero a.2 ≤ groupTime timeKey zero b.2)

/-- `ordered`。 -/
def ordered (items : List α) : List (G × List α) :=
  (Groups.of groupKey items).entries.mergeSort (groupLe timeKey zero)

/-- `test_groups`。 -/
def testGroups (items : List α) : List G :=
  let groups := ordered groupKey timeKey zero items
  (groups.drop (groups.length - testCount groups.length)).map Prod.fst

/-- `train` と `test`。 -/
def side (items : List α) (test : Bool) : List α :=
  (((ordered groupKey timeKey zero items).filter fun g =>
    decide (g.1 ∈ testGroups groupKey timeKey zero items) == test).map Prod.snd).flatten

/-- `grouped_time_split`。例外は `none` である。 -/
def groupedTimeSplit (items : List α) : Option (List α × List α) :=
  if Incomparable groupKey timeKey zero items then none
  else some (side groupKey timeKey zero items false, side groupKey timeKey zero items true)

/-! ## 分割の満たすべきこと -/

/-- 要素の組。 -/
def groups (items : List α) : List G := (items.map groupKey).dedup

/-- 組の一番新しい時刻。 -/
def latestOf (items : List α) (g : G) : WithBot T :=
  latest timeKey (Groups.members groupKey items g)

/--
`train` と `test` は要素を分け合い、同じ組は両側に現れず、`test` の組は `train` の組より古くない。組が
二つあれば、どちらも空でない。
-/
structure SoundSplit (items train test : List α) : Prop where
  partition : (train ++ test).Perm items
  apart : ∀ a ∈ train, ∀ b ∈ test, groupKey a ≠ groupKey b
  newest : ∀ a ∈ train, ∀ b ∈ test,
    latestOf groupKey timeKey items (groupKey a) ≤ latestOf groupKey timeKey items (groupKey b)
  bothSides : (∃ a ∈ items, ∃ b ∈ items, groupKey a ≠ groupKey b) → train ≠ [] ∧ test ≠ []

/-- 分割は例外にならず、`SoundSplit` である。 -/
def SplitsSoundly (items : List α) : Prop :=
  ∃ train test, groupedTimeSplit groupKey timeKey zero items = some (train, test) ∧
    SoundSplit groupKey timeKey items train test

/-- 0 で補った時刻と要素の数。 -/
def sizedTime (items : List α) (g : G) : WithBot T ×ₗ Nat :=
  groupTime timeKey zero (Groups.members groupKey items g)

/-- 補った時刻・要素の数・最初に現れた順で、`g` は `h` より前である。 -/
def Before (items : List α) (g h : G) : Prop :=
  sizedTime groupKey timeKey zero items g < sizedTime groupKey timeKey zero items h ∨
    sizedTime groupKey timeKey zero items g = sizedTime groupKey timeKey zero items h ∧
      (items.map groupKey).idxOf g < (items.map groupKey).idxOf h

instance (items : List α) : DecidableRel (Before groupKey timeKey zero items) :=
  fun _ _ => inferInstanceAs (Decidable (_ ∨ _ ∧ _))

/-- `g` より後の組の数。 -/
def newerCount (items : List α) (g : G) : Nat :=
  (groups groupKey items).countP fun h => decide (Before groupKey timeKey zero items g h)

/-- 時刻のある組が新しい側に入らないのに、時刻の無い組が入ることはない。 -/
structure UndatedOldest (items : List α) : Prop where
  comparable : zero = none →
    (∀ g ∈ groups groupKey items, latestOf groupKey timeKey items g = ⊥) ∨
      ∀ g ∈ groups groupKey items, latestOf groupKey timeKey items g ≠ ⊥
  undated : ∀ g ∈ groups groupKey items, ∀ h ∈ groups groupKey items,
    latestOf groupKey timeKey items g = ⊥ → latestOf groupKey timeKey items h ≠ ⊥ →
      newerCount groupKey timeKey zero items g < testCount (groups groupKey items).length →
        newerCount groupKey timeKey zero items h < testCount (groups groupKey items).length

/-! ## 整列した組 -/

section Ordered

variable (items : List α)

omit [DecidableEq G] in
theorem groupLe_trans (a b c : G × List α) (hab : groupLe timeKey zero a b = true)
    (hbc : groupLe timeKey zero b c = true) : groupLe timeKey zero a c = true :=
  decide_eq_true (le_trans (of_decide_eq_true hab) (of_decide_eq_true hbc))

omit [DecidableEq G] in
theorem groupLe_total (a b : G × List α) :
    (groupLe timeKey zero a b || groupLe timeKey zero b a) = true := by
  unfold groupLe
  rw [Bool.or_eq_true, decide_eq_true_iff, decide_eq_true_iff]
  exact le_total _ _

variable {items} in
theorem mem_ordered {g : G} {members : List α} :
    (g, members) ∈ ordered groupKey timeKey zero items ↔
      members = Groups.members groupKey items g ∧ members ≠ [] := by
  unfold ordered
  rw [List.mem_mergeSort, Groups.mem_entries_of]

/-- **整列した組は、補った時刻・要素の数・最初に現れた順に並ぶ。** -/
theorem pairwise_ordered : ((ordered groupKey timeKey zero items).map Prod.fst).Pairwise
    (Before groupKey timeKey zero items) := by
  have hkeys : ((Groups.of groupKey items).entries.map Prod.fst).Pairwise fun g h =>
      (items.map groupKey).idxOf g < (items.map groupKey).idxOf h := Groups.pairwise_keys items
  have hsorted := Ranking.pairwise_stable (groupLe_trans timeKey zero) (groupLe_total timeKey zero)
    (List.pairwise_map.mp hkeys)
  refine List.pairwise_map.mpr (hsorted.imp_of_mem ?_)
  rintro ⟨g, gs⟩ ⟨h, hs⟩ hg hh ⟨hle, hstable⟩
  obtain ⟨rfl, -⟩ := (mem_ordered groupKey timeKey zero).mp hg
  obtain ⟨rfl, -⟩ := (mem_ordered groupKey timeKey zero).mp hh
  rcases lt_or_eq_of_le (of_decide_eq_true hle) with hlt | heq
  · exact Or.inl hlt
  · exact Or.inr ⟨heq, hstable (decide_eq_true (le_of_eq heq.symm))⟩

/-- 整列した組の key は、要素の組を並べ替えたものである。 -/
theorem keys_perm :
    ((ordered groupKey timeKey zero items).map Prod.fst).Perm (groups groupKey items) := by
  have hsort : ((ordered groupKey timeKey zero items).map Prod.fst).Perm
      ((Groups.of groupKey items).entries.map Prod.fst) := (List.mergeSort_perm _ _).map _
  refine hsort.trans ?_
  refine (List.perm_ext_iff_of_nodup (Dict.nodup _) (List.nodup_dedup _)).mpr fun g => ?_
  rw [Groups.mem_keys_of, List.mem_dedup]

theorem length_ordered :
    (ordered groupKey timeKey zero items).length = (groups groupKey items).length := by
  rw [← (keys_perm groupKey timeKey zero items).length_eq, List.length_map]

/-- `test_groups` は、整列した key の末尾の `n_test` 個である。 -/
theorem testGroups_eq_drop : testGroups groupKey timeKey zero items =
    ((ordered groupKey timeKey zero items).map Prod.fst).drop
      (((ordered groupKey timeKey zero items).map Prod.fst).length -
        testCount (groups groupKey items).length) := by
  unfold testGroups
  rw [List.map_drop, List.length_map, length_ordered]

end Ordered

variable {groupKey timeKey zero} {items : List α}

theorem mem_groups {g : G} : g ∈ groups groupKey items ↔ ∃ it ∈ items, groupKey it = g := by
  unfold groups
  rw [List.mem_dedup, List.mem_map]

theorem before_asymm (g h : G) :
    Before groupKey timeKey zero items g h → ¬Before groupKey timeKey zero items h g := by
  rintro (hlt | ⟨heq, hidx⟩) (hlt' | ⟨heq', hidx'⟩)
  · exact lt_asymm hlt hlt'
  · exact lt_irrefl _ (heq' ▸ hlt)
  · exact lt_irrefl _ (heq ▸ hlt')
  · exact lt_asymm hidx hidx'

theorem testCount_le {n : Nat} (h : 1 ≤ n) : testCount n ≤ n := by
  unfold testCount
  omega

/-- **`test` に入るのは、後の組が `n_test` に満たない組である。** -/
theorem mem_testGroups_iff {g : G} (hg : g ∈ groups groupKey items) :
    g ∈ testGroups groupKey timeKey zero items ↔
      newerCount groupKey timeKey zero items g < testCount (groups groupKey items).length := by
  have hperm := keys_perm groupKey timeKey zero items
  unfold newerCount
  rw [testGroups_eq_drop, ← hperm.countP_eq]
  refine Ranking.mem_drop_iff before_asymm (pairwise_ordered groupKey timeKey zero items)
    (hperm.mem_iff.mpr hg) ?_
  rw [hperm.length_eq]
  exact testCount_le (List.length_pos_of_mem hg)

/-- `train` の組は、どれも `test` の組より前である。 -/
theorem before_of_sides {g h : G} (hg : g ∈ groups groupKey items)
    (htrain : g ∉ testGroups groupKey timeKey zero items)
    (htest : h ∈ testGroups groupKey timeKey zero items) :
    Before groupKey timeKey zero items g h := by
  have hordered := pairwise_ordered groupKey timeKey zero items
  have hmem := (keys_perm groupKey timeKey zero items).mem_iff.mpr hg
  rw [testGroups_eq_drop] at htrain htest
  rw [← List.take_append_drop (((ordered groupKey timeKey zero items).map Prod.fst).length -
    testCount (groups groupKey items).length)
    ((ordered groupKey timeKey zero items).map Prod.fst)] at hordered hmem
  have htake := (List.mem_append.mp hmem).resolve_right htrain
  exact (List.pairwise_append.mp hordered).2.2 g htake h htest

/-! ## 両側 -/

/-- **組ごと `train` か `test` に入る。** -/
theorem mem_side {it : α} {test : Bool} : it ∈ side groupKey timeKey zero items test ↔
    it ∈ items ∧ decide (groupKey it ∈ testGroups groupKey timeKey zero items) = test := by
  unfold side
  rw [List.mem_flatten]
  constructor
  · rintro ⟨members, hmembers, hit⟩
    obtain ⟨⟨g, members⟩, hmem, rfl⟩ := List.mem_map.mp hmembers
    obtain ⟨hmem, htest⟩ := List.mem_filter.mp hmem
    obtain ⟨rfl, -⟩ := (mem_ordered groupKey timeKey zero).mp hmem
    obtain ⟨hin, rfl⟩ := Groups.mem_members.mp hit
    exact ⟨hin, eq_of_beq htest⟩
  · rintro ⟨hit, htest⟩
    have hmember : it ∈ Groups.members groupKey items (groupKey it) :=
      Groups.mem_members.mpr ⟨hit, rfl⟩
    have hmem := (mem_ordered groupKey timeKey zero).mpr ⟨rfl, List.ne_nil_of_mem hmember⟩
    exact ⟨_, List.mem_map.mpr ⟨_, List.mem_filter.mpr ⟨hmem, beq_iff_eq.mpr htest⟩, rfl⟩, hmember⟩

/-- **両側を合わせると、元の要素を並べ替えたものになる。** -/
theorem sides_perm : (side groupKey timeKey zero items false ++
    side groupKey timeKey zero items true).Perm items := by
  have hsplit : ((ordered groupKey timeKey zero items).filter (fun g =>
      decide (g.1 ∈ testGroups groupKey timeKey zero items) == false) ++
      (ordered groupKey timeKey zero items).filter fun g =>
        decide (g.1 ∈ testGroups groupKey timeKey zero items) == true).Perm
      (Groups.of groupKey items).entries := by
    refine List.perm_append_comm.trans ?_
    simp only [beq_true, beq_false]
    exact (List.filter_append_perm _ _).trans (List.mergeSort_perm _ _)
  unfold side
  rw [← List.flatten_append, ← List.map_append]
  exact (hsplit.map Prod.snd).flatten.trans (Groups.flatten_perm items)

variable (timeKey zero) in
/-- 組が二つ以上あれば、新しい側にも古い側にも組がある。 -/
theorem exists_both_sides (h : 2 ≤ (groups groupKey items).length) :
    (∃ g ∈ groups groupKey items, g ∉ testGroups groupKey timeKey zero items) ∧
      ∃ g ∈ groups groupKey items, g ∈ testGroups groupKey timeKey zero items := by
  have hperm := keys_perm groupKey timeKey zero items
  have hnodup := hperm.nodup_iff.mpr (List.nodup_dedup _)
  have hcount : 1 ≤ testCount (groups groupKey items).length ∧
      testCount (groups groupKey items).length < (groups groupKey items).length := by
    unfold testCount
    omega
  rw [testGroups_eq_drop]
  generalize hkeys : (ordered groupKey timeKey zero items).map Prod.fst = keys at hperm hnodup ⊢
  have hlength := hperm.length_eq
  have hdisjoint := List.disjoint_take_drop hnodup
    (Nat.le_refl (keys.length - testCount (groups groupKey items).length))
  constructor
  · obtain ⟨g, hg⟩ := List.exists_mem_of_length_pos
      (l := keys.take (keys.length - testCount (groups groupKey items).length))
      (by rw [List.length_take]; omega)
    exact ⟨g, hperm.mem_iff.mp (List.mem_of_mem_take hg), fun hdrop => hdisjoint hg hdrop⟩
  · obtain ⟨g, hg⟩ := List.exists_mem_of_length_pos
      (l := keys.drop (keys.length - testCount (groups groupKey items).length))
      (by rw [List.length_drop]; omega)
    exact ⟨g, hperm.mem_iff.mp (List.mem_of_mem_drop hg), hg⟩

/-! ## 新しさ -/

omit [DecidableEq G] [LinearOrder T] in
theorem or_of_ne_bot {x : WithBot T} (h : x ≠ ⊥) : (Option.or x zero : WithBot T) = x := by
  cases x with
  | bot => exact absurd rfl h
  | coe t => rfl

theorem exists_value_iff {P : List α → Prop} : (∃ g ∈ (Groups.of groupKey items).values, P g) ↔
    ∃ g ∈ groups groupKey items, P (Groups.members groupKey items g) := by
  constructor
  · rintro ⟨members, hmembers, hP⟩
    obtain ⟨⟨g, members⟩, hmem, rfl⟩ := List.mem_map.mp hmembers
    obtain ⟨rfl, -⟩ := Groups.mem_entries_of.mp hmem
    exact ⟨g, List.mem_dedup.mpr (Groups.mem_keys_of.mp (List.mem_map.mpr ⟨_, hmem, rfl⟩)), hP⟩
  · rintro ⟨g, hg, hP⟩
    obtain ⟨⟨g, members⟩, hmem, rfl⟩ := List.mem_map.mp (Groups.mem_keys_of.mpr (List.mem_dedup.mp hg))
    obtain ⟨rfl, -⟩ := Groups.mem_entries_of.mp hmem
    exact ⟨_, List.mem_map.mpr ⟨_, hmem, rfl⟩, hP⟩

/-- 例外になるのは、0 と比べられない時刻のある組と無い組が混ざるときである。 -/
theorem incomparable_iff : Incomparable groupKey timeKey zero items ↔
    zero = none ∧ (∃ g ∈ groups groupKey items, latestOf groupKey timeKey items g = ⊥) ∧
      ∃ g ∈ groups groupKey items, latestOf groupKey timeKey items g ≠ ⊥ :=
  and_congr_right fun _ => and_congr exists_value_iff exists_value_iff

/-- 時刻のある組どうしでは、前の組の方が新しいことはない。 -/
theorem latestOf_le_of_before {g h : G} (hbefore : Before groupKey timeKey zero items g h)
    (hg : latestOf groupKey timeKey items g ≠ ⊥) (hh : latestOf groupKey timeKey items h ≠ ⊥) :
    latestOf groupKey timeKey items g ≤ latestOf groupKey timeKey items h := by
  have hle : sizedTime groupKey timeKey zero items g ≤ sizedTime groupKey timeKey zero items h := by
    rcases hbefore with hlt | ⟨heq, -⟩
    · exact le_of_lt hlt
    · exact le_of_eq heq
  have hfst := Prod.Lex.monotone_fst _ _ hle
  rwa [show (ofLex (sizedTime groupKey timeKey zero items g)).1 = latestOf groupKey timeKey items g
    from or_of_ne_bot hg, show (ofLex (sizedTime groupKey timeKey zero items h)).1 =
      latestOf groupKey timeKey items h from or_of_ne_bot hh] at hfst

/-- 同じ組は両側に現れない。 -/
theorem apart_sides : ∀ a ∈ side groupKey timeKey zero items false,
    ∀ b ∈ side groupKey timeKey zero items true, groupKey a ≠ groupKey b := by
  intro a ha b hb hkey
  have hboth := (mem_side.mp ha).2.symm.trans (hkey ▸ (mem_side.mp hb).2)
  cases hboth

variable (timeKey zero) in
/-- 組が二つあれば、どちらの側も空でない。 -/
theorem sides_ne_nil (h : ∃ a ∈ items, ∃ b ∈ items, groupKey a ≠ groupKey b) :
    side groupKey timeKey zero items false ≠ [] ∧ side groupKey timeKey zero items true ≠ [] := by
  obtain ⟨a, ha, b, hb, hne⟩ := h
  have hpair : [groupKey a, groupKey b].Subperm (groups groupKey items) := by
    refine List.subperm_of_subset (by simp [hne]) ?_
    intro g hg
    rcases List.mem_pair.mp hg with rfl | rfl
    · exact mem_groups.mpr ⟨a, ha, rfl⟩
    · exact mem_groups.mpr ⟨b, hb, rfl⟩
  obtain ⟨⟨g, hg, htrain⟩, g', hg', htest⟩ := exists_both_sides timeKey zero hpair.length_le
  obtain ⟨it, hit, rfl⟩ := mem_groups.mp hg
  obtain ⟨it', hit', rfl⟩ := mem_groups.mp hg'
  exact ⟨List.ne_nil_of_mem (mem_side.mpr ⟨hit, decide_eq_false htrain⟩),
    List.ne_nil_of_mem (mem_side.mpr ⟨hit', decide_eq_true htest⟩)⟩

/-- 時刻の無い組が新しい側に紛れなければ、`test` の組は `train` の組より古くない。 -/
theorem newest_sides (h : UndatedOldest groupKey timeKey zero items) :
    ∀ a ∈ side groupKey timeKey zero items false, ∀ b ∈ side groupKey timeKey zero items true,
      latestOf groupKey timeKey items (groupKey a) ≤ latestOf groupKey timeKey items (groupKey b) := by
  intro a ha b hb
  obtain ⟨ha, htrain⟩ := mem_side.mp ha
  obtain ⟨hb, htest⟩ := mem_side.mp hb
  have hga : groupKey a ∈ groups groupKey items := mem_groups.mpr ⟨a, ha, rfl⟩
  have hgb : groupKey b ∈ groups groupKey items := mem_groups.mpr ⟨b, hb, rfl⟩
  have htrain := of_decide_eq_false htrain
  have htest := of_decide_eq_true htest
  by_cases hdated : latestOf groupKey timeKey items (groupKey a) = ⊥
  · rw [hdated]
    exact bot_le
  · refine latestOf_le_of_before (before_of_sides hga htrain htest) hdated fun hundated => ?_
    refine htrain ((mem_testGroups_iff hga).mpr ?_)
    exact h.undated _ hgb _ hga hundated hdated ((mem_testGroups_iff hgb).mp htest)

/-- 時刻のある組と無い組が混ざらなければ、例外にならない。 -/
theorem not_incomparable (h : UndatedOldest groupKey timeKey zero items) :
    ¬Incomparable groupKey timeKey zero items := by
  intro hmixed
  obtain ⟨hzero, ⟨g, hg, hundated⟩, g', hg', hdated⟩ := incomparable_iff.mp hmixed
  rcases h.comparable hzero with hall | hall
  · exact hdated (hall g' hg')
  · exact hall g hg hundated

/-- 例外にならなければ、組はどれも時刻が無いか、どれも時刻がある。 -/
theorem comparable_of_not_incomparable (h : ¬Incomparable groupKey timeKey zero items)
    (hzero : zero = none) : (∀ g ∈ groups groupKey items, latestOf groupKey timeKey items g = ⊥) ∨
      ∀ g ∈ groups groupKey items, latestOf groupKey timeKey items g ≠ ⊥ := by
  by_cases hall : ∀ g ∈ groups groupKey items, latestOf groupKey timeKey items g ≠ ⊥
  · exact Or.inr hall
  · obtain ⟨g', hg', hundated⟩ := not_forall₂.mp hall
    refine Or.inl fun g hg => by_contra fun hdated => h ?_
    exact incomparable_iff.mpr ⟨hzero, ⟨g', hg', not_not.mp hundated⟩, g, hg, hdated⟩

/-- 時刻の無い組が新しい側に紛れなければ、分割は満たすべきことを満たす。 -/
theorem soundSplit_of_oldest (h : UndatedOldest groupKey timeKey zero items) :
    SoundSplit groupKey timeKey items (side groupKey timeKey zero items false)
      (side groupKey timeKey zero items true) where
  partition := sides_perm
  apart := apart_sides
  newest := newest_sides h
  bothSides := sides_ne_nil timeKey zero

/--
**分割が満たすべきことを満たすのは、0 と比べられない時刻のある組と無い組が混ざらず、時刻の無い組が
時刻のある組を差し置いて新しい側に入らないときである。**
-/
theorem splitsSoundly_iff (groupKey : α → G) (timeKey : α → Option T) (zero : Option T)
    (items : List α) :
    SplitsSoundly groupKey timeKey zero items ↔ UndatedOldest groupKey timeKey zero items := by
  constructor
  · rintro ⟨train, test, hsplit, hsound⟩
    unfold groupedTimeSplit at hsplit
    split at hsplit
    · cases hsplit
    · next hcomparable =>
      cases hsplit
      refine ⟨comparable_of_not_incomparable hcomparable,
        fun g hg h hh hundated hdated hnew => by_contra fun hold => hdated ?_⟩
      -- `h` が古い側なら、時刻の無い `g` はそれより古くないことになる。
      obtain ⟨b, hb, rfl⟩ := mem_groups.mp hg
      obtain ⟨a, ha, rfl⟩ := mem_groups.mp hh
      have htest := mem_side.mpr ⟨hb, decide_eq_true ((mem_testGroups_iff hg).mpr hnew)⟩
      have htrain := mem_side.mpr ⟨ha, decide_eq_false (mt (mem_testGroups_iff hh).mp hold)⟩
      exact le_bot_iff.mp (hundated ▸ hsound.newest a htrain b htest)
  · intro h
    exact ⟨_, _, if_neg (not_incomparable h), soundSplit_of_oldest h⟩

/-- 時刻が 0 と比べられないときは、例外にならない分割は満たすべきことを満たす。 -/
theorem soundSplit_of_some {train test : List α}
    (h : groupedTimeSplit groupKey timeKey none items = some (train, test)) :
    SoundSplit groupKey timeKey items train test := by
  unfold groupedTimeSplit at h
  split at h
  · cases h
  · next hcomparable =>
    cases h
    refine soundSplit_of_oldest ⟨comparable_of_not_incomparable hcomparable,
      fun g hg h hh hundated hdated => ?_⟩
    exact absurd (incomparable_iff.mpr ⟨rfl, ⟨g, hg, hundated⟩, h, hh, hdated⟩) hcomparable

end Split

/-- 時刻のある session と無い session。 -/
def undatedSession : List (String × Option Nat) :=
  [("10.0.0.2:25", some 1700000000), ("10.0.0.3:25", none)]

/-- 時刻が `datetime` なら、その分割は例外になる。 -/
theorem not_splitsSoundly_undatedSession :
    ¬SplitsSoundly Prod.fst Prod.snd none undatedSession := by
  rintro ⟨train, test, hsplit, -⟩
  have hraises : Incomparable Prod.fst Prod.snd none undatedSession := by decide
  rw [groupedTimeSplit, if_pos hraises] at hsplit
  cases hsplit

/-! ## leakage -/

section Leakage

variable {α G : Type} [LinearOrder G] (groupKey : α → G)

/-- `leakage_report` の結果。 -/
structure LeakageReport (G : Type) where
  trainGroups : Nat
  testGroups : Nat
  leakedGroups : List G
  clean : Bool
  deriving Repr, DecidableEq

/-- `leakage_report`。 -/
def leakageReport (train test : List α) : LeakageReport G :=
  let trainGroups := (train.map groupKey).dedup
  let testGroups := (test.map groupKey).dedup
  let leaked := (trainGroups.filter fun g => decide (g ∈ testGroups)).mergeSort
  { trainGroups := trainGroups.length, testGroups := testGroups.length
    leakedGroups := leaked, clean := leaked.isEmpty }

/-- **`clean` は、両側に現れる組が無いことである。** -/
theorem leakageReport_clean_iff (train test : List α) :
    (leakageReport groupKey train test).clean = true ↔
      ∀ a ∈ train, ∀ b ∈ test, groupKey a ≠ groupKey b := by
  show List.isEmpty _ = true ↔ _
  rw [List.isEmpty_iff, List.eq_nil_iff_forall_not_mem]
  constructor
  · intro h a ha b hb hkey
    refine h (groupKey a) (List.mem_mergeSort.mpr (List.mem_filter.mpr ⟨?_, decide_eq_true ?_⟩))
    · exact List.mem_dedup.mpr (List.mem_map_of_mem ha)
    · exact List.mem_dedup.mpr (hkey ▸ List.mem_map_of_mem hb)
  · intro h g hg
    obtain ⟨htrain, htest⟩ := List.mem_filter.mp (List.mem_mergeSort.mp hg)
    obtain ⟨a, ha, rfl⟩ := List.mem_map.mp (List.mem_dedup.mp htrain)
    obtain ⟨b, hb, hkey⟩ := List.mem_map.mp (List.mem_dedup.mp (of_decide_eq_true htest))
    exact h a ha b hb hkey.symm

end Leakage

end CipherPost.Ml.Splits
