import Mathlib.Logic.Function.Basic
import CipherPost.Live.Isolation
import CipherPost.Live.Watched

/-!
# digest の収支

digest と quiet hours の間に貯めた finding は、期間が変わった後か quiet hours の後の flush で summary に
なる。`_flush_digests` は bucket を消してから summary を `_dispatch` に渡し、`_dispatch` は閾値・dedup・
rate のどれかでそれを捨てることがある。調べる bucket も、24 時間前の期間のものだけである。

* `Holding` — 貯めた finding のうち、まだ summary にも `digest_dropped` にも現れていないものの記録
* `Keeps` — 貯めてあるものを失わない命令
* `Timely` — flush が、時の来た bucket をどれも調べること
* `digest_represented` — どの呼び出しもそうである run では、貯めた finding は必ず summary に現れる
-/

namespace CipherPost.Live

/-! ## 時の来た bucket -/

/-- 期間は、時刻 `now` より前に終わっている。 -/
def Period.Over (now : Nat) : Period → Prop
  | .day n => n < now / 86400
  | .week n => n < (now / 86400 + 3) / 7

/-- `key` に貯めた finding は、次の flush で summary に現れるはずである。 -/
def StashKey.Ripe (env : Env) : StashKey → Prop
  | .digest _ p => p.Over env.now
  | .quiet org => env.inQuiet (env.policyFor (orgOf org)) = false

/-! ## 記録 -/

/-- 貯めた finding の行方。 -/
structure Holding where
  /-- 貯めて、まだ summary にも `digest_dropped` にも現れていない finding。 -/
  owed : StashKey → List DigestItem := fun _ => []
  /-- 消した bucket のうち、summary の出ていないもの。 -/
  taken : List (StashKey × List DigestItem) := []
  /-- 200 個を超えて捨てた finding。 -/
  spilt : List DigestItem := []
  digestDropped : Nat := 0

namespace Holding

/-- 貯めた finding を加え、溢れた分を除く。 -/
def stash (h : Holding) (key : StashKey) (item : DigestItem) (items : List DigestItem) : Holding :=
  { h with
    owed := Function.update h.owed key
      ((h.owed key ++ [item]).diff (items.take (items.length - 200)))
    spilt := h.spilt ++ items.take (items.length - 200)
    digestDropped := if 200 < items.length then h.digestDropped + 1 else h.digestDropped }

/-- `f` が、消した bucket の summary なら、その finding は現れた。 -/
def summarise (h : Holding) (f : Finding) : Holding :=
  match h.taken.find? fun t => decide (f = digestFinding (orgOf t.1.org) t.2) with
  | some t =>
    { h with
      owed := Function.update h.owed t.1 ((h.owed t.1).diff t.2)
      taken := h.taken.erase t }
  | none => h

theorem summarise_of_taken_nil {h : Holding} (ht : h.taken = []) (f : Finding) :
    h.summarise f = h := by
  unfold summarise
  rw [ht]
  rfl

/-- 消した bucket の summary が出れば、その finding は残らない。 -/
theorem summarise_of_taken {h : Holding} {key : StashKey} {items : List DigestItem}
    (ht : h.taken = [(key, items)]) :
    h.summarise (digestFinding (orgOf key.org) items) =
      { h with owed := Function.update h.owed key ((h.owed key).diff items), taken := [] } := by
  unfold summarise
  rw [ht]
  simp

end Holding

namespace AlertDispatcher

variable (cfg : Config) (env : Env)

/-- 命令 `i` のすることを書き足した記録。 -/
def hold (_cfg : Config) (env : Env) (d : AlertDispatcher) (i : Instr) (h : Holding) : Holding :=
  match i with
  | .stash _ key _ item =>
    if env.link.setexes then h.stash key item (d.heldItems env key ++ [item]) else h
  | .takeStash key =>
    if env.link.up then { h with taken := h.taken ++ [(key, d.stashed env.now key)] } else h
  | .send f _ => if d.live then h.summarise f else h
  | _ => h

/-! ## 条件 -/

/--
命令 `i` は、貯めてあるものを失わない。足す bucket の GET は成功し、期限も切れていない。消す bucket の
summary は、三つの検査を通り、途切れずに出る。
-/
def Keeps (d : AlertDispatcher) (i : Instr) (rest : List Instr) : Prop :=
  match i with
  | .stash _ key _ _ => env.link.setexes = true →
    ∀ p, d.digests.get? key = some p → env.link.getOk = true ∧ env.now < p.1
  | .takeStash key => env.link.up = true →
    let f := digestFinding (orgOf key.org) (d.stashed env.now key)
    d.stashed env.now key ≠ [] ∧ dispatch f [] <+: rest ∧ (d.takeStash env key).Passes cfg env f []
  | _ => True

/-- 命令の列の、どの命令も `Keeps` を満たす。 -/
def Conserves (d : AlertDispatcher) (is : List Instr) : Prop :=
  Run.Ahead (Instr.run cfg env) (Keeps cfg env) d is

/-- flush は Redis の応答する間に終わりまで行われた。 -/
def Flushed (d : AlertDispatcher) (org : String) (env : Env) (fault : Fault) : Prop :=
  env.link.up = true ∧ fault.cut (d.flushDigests org env) [] [] = d.flushDigests org env

/-- 終わりまで行われた flush は、組織の、時の来た bucket をどれも、期限の切れる前に調べる。 -/
def Timely (d : AlertDispatcher) : Event → Prop
  | .digest org env fault => d.Flushed org env fault →
    ∀ key p, key.org = org → key.Ripe env → d.digests.get? key = some p →
      org ∈ d.digestOrgs ∧ key ∈ dueStashes env org ∧ env.now < p.1
  | _ => True

/-! ## bucket の変化 -/

/-- 期限を問わず、`key` に貯めてあるもの。 -/
def stored (d : AlertDispatcher) (key : StashKey) : List DigestItem :=
  ((d.digests.get? key).map Prod.snd).getD []

variable {cfg env} {d : AlertDispatcher}

theorem stored_of_stashed {now : Nat} {key : StashKey} (h : d.stashed now key ≠ []) :
    d.stashed now key = d.stored key := by
  unfold stashed at h ⊢
  unfold stored
  cases hget : d.digests.get? key with
  | none => rw [hget] at h; exact absurd rfl h
  | some p =>
    rw [hget] at h
    by_cases hlt : now < p.1
    · simp [hlt]
    · simp [hlt] at h

/-- 期限の切れていない bucket に足すなら、足す前の中身は貯めてあるものである。 -/
theorem heldItems_eq_stored {key : StashKey}
    (h : ∀ p, d.digests.get? key = some p → env.link.getOk = true ∧ env.now < p.1) :
    d.heldItems env key = d.stored key := by
  unfold heldItems stashed stored
  cases hget : d.digests.get? key with
  | none => simp
  | some p =>
    obtain ⟨hok, hlt⟩ := h p hget
    simp [hok, hlt]

theorem stored_stash {e : EntryId} {key : StashKey} {org : String} {item : DigestItem}
    (hs : env.link.setexes = true) (k : StashKey) : (d.stash env e key org item).stored k =
      if key = k then (d.heldItems env key ++ [item]).drop
        ((d.heldItems env key ++ [item]).length - 200) else d.stored k := by
  have hdigests : (d.stash env e key org item).digests = d.digests.set key
      (env.now + 8 * 86400, (d.heldItems env key ++ [item]).drop
        ((d.heldItems env key ++ [item]).length - 200)) := by
    unfold stash
    rw [if_pos hs]
    by_cases hadd : env.link.saddOk = true
    · simp only [hadd, if_true]
    · simp only [hadd, Bool.false_eq_true, if_false]
  unfold stored
  rw [hdigests, Dict.get?_set]
  by_cases hk : key = k
  · rw [if_pos hk, if_pos hk, Option.map_some, Option.getD_some]
  · rw [if_neg hk, if_neg hk]

/-- 貯める命令と消す命令のほかは、bucket を変えない。 -/
theorem digests_run {i : Instr} (hstash : ∀ e key org item, i ≠ .stash e key org item)
    (htake : ∀ key, i ≠ .takeStash key) : (i.run cfg env d).digests = d.digests := by
  cases i with
  | stash e key org item => exact absurd rfl (hstash e key org item)
  | takeStash key => exact absurd rfl (htake key)
  | gate f ms =>
    show (d.gate cfg env f ms).digests = d.digests
    unfold gate
    split
    · rfl
    · simp only
      split <;> rfl
  | rate ms =>
    show (d.rate cfg env ms).digests = d.digests
    unfold rate
    split
    · simp only
      split <;> rfl
    · rfl
  | send f ms =>
    show (d.send env f ms).digests = d.digests
    unfold send
    split <;> rfl
  | _ => rfl

end AlertDispatcher

/-! ## run の不変量 -/

theorem diff_take {α : Type} [DecidableEq α] : ∀ (l : List α) (n : Nat), l.diff (l.take n) = l.drop n
  | l, 0 => by simp
  | [], n + 1 => by simp
  | x :: l, n + 1 => by
    rw [List.take_succ_cons, List.diff_cons, List.erase_cons_head, List.drop_succ_cons, diff_take]

/-- 貯めたのに現れていない finding は、いま bucket にあるものに限る。 -/
structure Conserved (w : Watched Holding) : Prop where
  taken : w.record.taken = []
  owed : ∀ key, w.record.owed key = w.dispatcher.stored key
  full : ∀ key, (w.dispatcher.stored key).length ≤ 200
  counted : w.record.spilt.length ≤ w.record.digestDropped

theorem conserved_init : Conserved ⟨{}, {}⟩ where
  taken := rfl
  owed := fun _ => rfl
  full := fun _ => Nat.zero_le _
  counted := Nat.le_refl _

theorem Conserved.restart {w : Watched Holding} (h : Conserved w) : Conserved w.restart :=
  ⟨h.taken, h.owed, h.full, h.counted⟩

section Block

variable {cfg : Config} {env : Env} {w : Watched Holding}

/-- bucket も記録も変えない命令。 -/
theorem Conserved.quiet (h : Conserved w) {i : Instr}
    (hstash : ∀ e key org item, i ≠ .stash e key org item) (htake : ∀ key, i ≠ .takeStash key) :
    Conserved (w.run AlertDispatcher.hold cfg env i) := by
  have hdigests : (i.run cfg env w.dispatcher).digests = w.dispatcher.digests :=
    AlertDispatcher.digests_run hstash htake
  have hrecord : AlertDispatcher.hold cfg env w.dispatcher i w.record = w.record := by
    cases i with
    | stash e key org item => exact absurd rfl (hstash e key org item)
    | takeStash key => exact absurd rfl (htake key)
    | send f ms =>
      show (if w.dispatcher.live then w.record.summarise f else w.record) = _
      rw [Holding.summarise_of_taken_nil h.taken, ite_self]
    | _ => rfl
  have hstored : ∀ key, (w.run AlertDispatcher.hold cfg env i).dispatcher.stored key
      = w.dispatcher.stored key := by
    intro key
    show AlertDispatcher.stored (i.run cfg env w.dispatcher) key = _
    unfold AlertDispatcher.stored
    rw [hdigests]
  have hrec : (w.run AlertDispatcher.hold cfg env i).record = w.record := hrecord
  refine ⟨?_, fun key => ?_, fun key => ?_, ?_⟩
  · rw [hrec, h.taken]
  · rw [hrec, hstored, h.owed]
  · rw [hstored]
    exact h.full key
  · rw [hrec]
    exact h.counted

/-- 貯めた finding は bucket に入り、溢れた分は `digest_dropped` に数えられる。 -/
theorem Conserved.stash (h : Conserved w) {e : EntryId} {key : StashKey} {org : String}
    {item : DigestItem}
    (hk : env.link.setexes = true →
      ∀ p, w.dispatcher.digests.get? key = some p → env.link.getOk = true ∧ env.now < p.1) :
    Conserved (w.run AlertDispatcher.hold cfg env (.stash e key org item)) := by
  cases hs : env.link.setexes with
  | false =>
    have hd : (Instr.stash e key org item).run cfg env w.dispatcher = w.dispatcher := by
      show w.dispatcher.stash env e key org item = w.dispatcher
      unfold AlertDispatcher.stash
      rw [if_neg (by simp [hs])]
    have hr : AlertDispatcher.hold cfg env w.dispatcher (.stash e key org item) w.record
        = w.record := if_neg (by simp [hs])
    rw [Watched.run_eq_self AlertDispatcher.hold cfg hd hr]
    exact h
  | true =>
    have hheld := AlertDispatcher.heldItems_eq_stored (hk hs)
    have hstored : ∀ k, (w.run AlertDispatcher.hold cfg env
        (.stash e key org item)).dispatcher.stored k = _ := AlertDispatcher.stored_stash hs
    have hrecord : (w.run AlertDispatcher.hold cfg env (.stash e key org item)).record
        = w.record.stash key item (w.dispatcher.heldItems env key ++ [item]) := if_pos hs
    have hlen := h.full key
    refine ⟨?_, fun k => ?_, fun k => ?_, ?_⟩
    · rw [hrecord]
      exact h.taken
    · rw [hrecord, hstored, hheld]
      show Function.update w.record.owed key _ k = _
      by_cases hkey : key = k
      · subst hkey
        rw [Function.update_self, h.owed, if_pos rfl, diff_take]
      · rw [Function.update_of_ne (Ne.symm hkey), if_neg hkey, h.owed]
    · rw [hstored]
      split
      · rw [List.length_drop]
        omega
      · exact h.full k
    · rw [hrecord, hheld]
      have hcounted := h.counted
      unfold Holding.stash
      simp only [List.length_append, List.length_take, List.length_singleton]
      split <;> omega

/-- 消した bucket の summary が出た後、その bucket は空で、ほかは変わらない。 -/
theorem stored_summarised {key : StashKey} {f : Finding} (hup : env.link.up = true)
    (hpass : (w.dispatcher.takeStash env key).Passes cfg env f []) (k : StashKey) :
    (Run.exec (Watched.run AlertDispatcher.hold cfg env) w
      (.takeStash key :: dispatch f [])).dispatcher.stored k
      = if k = key then [] else w.dispatcher.stored k := by
  have hdigests : (Run.exec (Watched.run AlertDispatcher.hold cfg env) w
      (.takeStash key :: dispatch f [])).dispatcher.digests = w.dispatcher.digests.erase key := by
    rw [Watched.dispatcher_exec_run, Run.exec_cons]
    show (Run.exec (Instr.run cfg env) (w.dispatcher.takeStash env key) (dispatch f [])).digests = _
    rw [AlertDispatcher.exec_dispatch hpass]
    show (w.dispatcher.takeStash env key).digests = _
    unfold AlertDispatcher.takeStash
    rw [if_pos hup]
  unfold AlertDispatcher.stored
  rw [hdigests, Dict.get?_erase]
  split <;> rfl

/-- 消した bucket の summary が出た後、その finding は記録に残らない。 -/
theorem record_summarised {key : StashKey} (htaken : w.record.taken = []) (hup : env.link.up = true)
    (hpass : (w.dispatcher.takeStash env key).Passes cfg env
      (digestFinding (orgOf key.org) (w.dispatcher.stashed env.now key)) []) :
    (Run.exec (Watched.run AlertDispatcher.hold cfg env) w (.takeStash key ::
      dispatch (digestFinding (orgOf key.org) (w.dispatcher.stashed env.now key)) [])).record =
      { w.record with
        owed := Function.update w.record.owed key
          ((w.record.owed key).diff (w.dispatcher.stashed env.now key))
        taken := [] } := by
  have htake : AlertDispatcher.hold cfg env w.dispatcher (.takeStash key) w.record =
      { w.record with taken := [(key, w.dispatcher.stashed env.now key)] } := by
    show (if env.link.up then _ else _) = _
    rw [if_pos hup, htaken, List.nil_append]
  have hlive := AlertDispatcher.live_of_passes hpass
  generalize hf : digestFinding (orgOf key.org) (w.dispatcher.stashed env.now key) = f at hlive ⊢
  show AlertDispatcher.hold cfg env
    (((w.dispatcher.takeStash env key).gate cfg env f []).rate cfg env []) (.send f [])
    (AlertDispatcher.hold cfg env w.dispatcher (.takeStash key) w.record) = _
  rw [htake]
  show (if _ then _ else _) = _
  rw [if_pos hlive, ← hf]
  exact Holding.summarise_of_taken rfl

/-- bucket を消しても、summary が途切れずに出れば、その finding は現れる。 -/
theorem Conserved.take (h : Conserved w) {key : StashKey} (hup : env.link.up = true)
    (hne : w.dispatcher.stashed env.now key ≠ [])
    (hpass : (w.dispatcher.takeStash env key).Passes cfg env
      (digestFinding (orgOf key.org) (w.dispatcher.stashed env.now key)) []) :
    Conserved (Run.exec (Watched.run AlertDispatcher.hold cfg env) w (.takeStash key ::
      dispatch (digestFinding (orgOf key.org) (w.dispatcher.stashed env.now key)) [])) := by
  have hitems := AlertDispatcher.stored_of_stashed hne
  have hstored := stored_summarised hup hpass
  have hrecord := record_summarised h.taken hup hpass
  refine ⟨?_, fun k => ?_, fun k => ?_, ?_⟩
  · rw [hrecord]
  · rw [hrecord, hstored]
    show Function.update w.record.owed key _ k = _
    by_cases hkey : k = key
    · subst hkey
      have hdiff := diff_take (w.dispatcher.stored k) (w.dispatcher.stored k).length
      rw [List.take_length, List.drop_length] at hdiff
      rw [Function.update_self, if_pos rfl, h.owed, hitems, hdiff]
    · rw [Function.update_of_ne hkey, if_neg hkey, h.owed]
  · rw [hstored]
    split
    · exact Nat.zero_le _
    · exact h.full k
  · rw [hrecord]
    exact h.counted

/-- **まとまり一つ。** 条件を満たす命令から始めて、summary の終わりまで進めば、不変量に戻る。 -/
theorem Conserved.block (h : Conserved w) (i : Instr) (rest : List Instr)
    (ha : w.dispatcher.Keeps cfg env i rest) : ∃ block rest', rest = block ++ rest' ∧
      Conserved (Run.exec (Watched.run AlertDispatcher.hold cfg env) w (i :: block)) := by
  cases i with
  | stash e key org item => exact ⟨[], rest, rfl, h.stash ha⟩
  | takeStash key =>
    cases hup : env.link.up with
    | true =>
      obtain ⟨hne, ⟨rest', hrest⟩, hpass⟩ := ha hup
      exact ⟨_, rest', hrest.symm, h.take hup hne hpass⟩
    | false =>
      have hd : (Instr.takeStash key).run cfg env w.dispatcher = w.dispatcher :=
        if_neg (by simp [hup])
      have hr : AlertDispatcher.hold cfg env w.dispatcher (.takeStash key) w.record = w.record :=
        if_neg (by simp [hup])
      refine ⟨[], rest, rfl, ?_⟩
      rw [Run.exec_cons, Watched.run_eq_self AlertDispatcher.hold cfg hd hr]
      exact h
  | _ => exact ⟨[], rest, rfl, h.quiet (fun _ _ _ _ he => by cases he) fun _ he => by cases he⟩

theorem Conserved.call (h : Conserved w) {is : List Instr} (hc : w.dispatcher.Conserves cfg env is) :
    Conserved (Run.exec (Watched.run AlertDispatcher.hold cfg env) w is) :=
  Run.Ahead.blocks (fun _ i rest h ha => h.block i rest ha)
    (Run.Ahead.map Watched.dispatcher (fun _ _ => rfl) hc) h

end Block

/-! ## flush の後 -/

namespace AlertDispatcher

variable {cfg : Config} {env : Env} {d : AlertDispatcher}

theorem mem_digestCalls {org : Option String} {items : StashKey → List DigestItem}
    {keys : List StashKey} {i : Instr} : i ∈ digestCalls org items keys ↔
      ∃ key ∈ keys, items key ≠ [] ∧
        i ∈ Instr.takeStash key :: dispatch (digestFinding org (items key)) [] := by
  unfold digestCalls
  rw [List.mem_flatMap]
  refine exists_congr fun key => and_congr_right fun _ => ?_
  cases h : items key with
  | nil => simp
  | cons x l => simp

/-- flush の命令に、貯める命令は無い。 -/
theorem not_stash_of_mem_flushDigests {org : String} {i : Instr} (hi : i ∈ d.flushDigests org env)
    (e : EntryId) (key : StashKey) (o : String) (item : DigestItem) : i ≠ .stash e key o item := by
  rcases of_mem_flushDigests hi with ⟨k, rfl⟩ | ⟨f, hi⟩
  · intro h
    cases h
  · rintro rfl
    simp [dispatch] at hi

/-- 貯める命令の無い列の後、消した bucket は空で、ほかは変わらない。 -/
theorem stored_exec (hup : env.link.up = true) (key : StashKey) : ∀ {is : List Instr}
    {d : AlertDispatcher}, (∀ i ∈ is, ∀ e k org item, i ≠ .stash e k org item) →
    (Run.exec (Instr.run cfg env) d is).stored key =
      if .takeStash key ∈ is then [] else d.stored key := by
  intro is
  induction is with
  | nil => intro d _; simp
  | cons i is ih =>
    intro d h
    have hstash := h i List.mem_cons_self
    rw [Run.exec_cons, ih fun x hx => h x (List.mem_cons_of_mem _ hx)]
    by_cases htake : ∃ k, i = .takeStash k
    · obtain ⟨k, rfl⟩ := htake
      have hrun : (Instr.run cfg env d (.takeStash k)).stored key
          = if key = k then [] else d.stored key := by
        show (d.takeStash env k).stored key = _
        unfold takeStash stored
        rw [if_pos hup, Dict.get?_erase]
        split <;> rfl
      rw [hrun]
      by_cases hk : key = k <;> simp [hk]
    · have hrun : (i.run cfg env d).stored key = d.stored key := by
        unfold stored
        rw [digests_run hstash fun k hk => htake ⟨k, hk⟩]
      have hne : Instr.takeStash key ≠ i := fun hi => htake ⟨key, hi.symm⟩
      rw [hrun]
      simp [hne]

/-- 終わりまで行われた flush の後、時の来た bucket は空である。 -/
theorem stored_digest {content : EntryId → Payload} {org : String} {fault : Fault}
    (hran : d.Flushed org env fault) (ht : d.Timely (.digest org env fault)) {key : StashKey}
    (horg : key.org = org) (hripe : key.Ripe env) :
    (d.step cfg content (.digest org env fault)).stored key = [] := by
  have hexec : (Run.exec (Instr.run cfg env) d (d.flushDigests org env)).stored key = [] := by
    rw [stored_exec hran.1 key fun i hi => not_stash_of_mem_flushDigests hi]
    split
    · rfl
    · next hnot =>
      cases hget : d.digests.get? key with
      | none =>
        unfold stored
        rw [hget]
        rfl
      | some p =>
        obtain ⟨hin, hdue, hlt⟩ := ht hran key p horg hripe hget
        have hstashed : d.stashed env.now key = p.2 := by
          unfold stashed
          rw [hget]
          exact if_pos hlt
        have hstored : d.stored key = p.2 := by
          unfold stored
          rw [hget]
          rfl
        rw [hstored]
        by_contra hne
        refine hnot ?_
        rw [flushDigests_eq, if_pos ⟨hran.1, hin⟩]
        exact mem_digestCalls.mpr ⟨key, hdue, hstashed ▸ hne, List.mem_cons_self⟩
  show (d.perform cfg env fault (fault.cut (d.flushDigests org env) [] [])).stored key = []
  rw [hran.2]
  unfold perform
  simp only
  split
  · exact hexec
  · exact hexec

end AlertDispatcher

/-! ## どの run でも -/

/--
run のどこでも、消した bucket の summary は出ていて、溢れた finding は `digest_dropped` に数えられている。
終わりまで行われた flush の後では、組織の、時の来た finding はどれも summary に現れている。
-/
def Represented (cfg : Config) (content : EntryId → Payload) (es : List Event) : Prop :=
  (∀ pre, pre <+: es →
    (Run.exec (Watched.step AlertDispatcher.hold cfg content) ⟨{}, {}⟩ pre).record.taken = [] ∧
    (Run.exec (Watched.step AlertDispatcher.hold cfg content) ⟨{}, {}⟩ pre).record.spilt.length ≤
      (Run.exec (Watched.step AlertDispatcher.hold cfg content) ⟨{}, {}⟩ pre).record.digestDropped) ∧
  ∀ pre org env fault, pre ++ [.digest org env fault] <+: es →
    (Run.exec (AlertDispatcher.step cfg content) {} pre).Flushed org env fault →
    ∀ key : StashKey, key.org = org → key.Ripe env →
      (Run.exec (Watched.step AlertDispatcher.hold cfg content) ⟨{}, {}⟩
        (pre ++ [.digest org env fault])).record.owed key = []

/--
どの呼び出しも貯めてあるものを失わず、終わりまで行われたどの flush も時の来た bucket を調べる run では、
貯めた finding は、期間が変わった後または quiet hours の後の flush で summary に現れる。
-/
theorem digest_represented (cfg : Config) (content : EntryId → Payload) (es : List Event)
    (hc : Run.Along (AlertDispatcher.step cfg content) (fun d ev =>
      Calls cfg content (fun env d is => d.Conserves cfg env is) d ev ∧ d.Timely ev) {} es) :
    Represented cfg content es := by
  have hcalls := hc.imp fun _ _ h => h.1
  have hinv : ∀ pre, pre <+: es →
      Conserved (Run.exec (Watched.step AlertDispatcher.hold cfg content) ⟨{}, {}⟩ pre) :=
    fun pre hp => Watched.invariant_isPrefix (fun _ _ _ h hc => Conserved.call h hc)
      (fun _ h => h.restart) conserved_init hcalls hp
  refine ⟨fun pre hp => ⟨(hinv pre hp).taken, (hinv pre hp).counted⟩, ?_⟩
  intro pre org env fault hp hran key horg hripe
  have htimely := (Run.along_iff.mp hc pre _ hp).2
  rw [(hinv _ hp).owed, Watched.dispatcher_exec, Run.exec_append, Run.exec_cons, Run.exec_nil]
  exact AlertDispatcher.stored_digest hran htimely horg hripe

/-! ## 翌日を過ぎた flush、予算の尽きた flush -/

/-- `acme` の finding は日ごとの digest に貯まる。 -/
def dailyEnv (now : Nat) : Env := { now, policyFor := fun _ => { digest := "daily" } }

/-- 貯まる finding。 -/
def digestContent (_ : EntryId) : Payload :=
  .object { ruleId := .value "weak-cipher", severity := .value "high", orgId := .value "acme" }

/-- 1 日目に貯め、2 日目に flush する。 -/
def nextDay : List Event :=
  [.entry 1 (dailyEnv 100000) {}, .digest "acme" (dailyEnv 180000) {}]

/-- 1 日目に貯め、3 日目まで止まっていて flush する。 -/
def missedDay : List Event :=
  [.entry 1 (dailyEnv 100000) {}, .digest "acme" (dailyEnv 300000) {}]

/-- 1 日目に貯め、2 日目の flush の直前に別の alert が予算を使う。 -/
def spentBudget : List Event :=
  [.entry 1 (dailyEnv 100000) {},
    .direct { ruleId := .value "other", severity := .value "high" } (dailyEnv 179990) {},
    .digest "acme" (dailyEnv 180000) {}]

/-- 翌日に flush すれば、貯めた finding は summary に現れる。 -/
theorem digest_represented_nextDay : Represented {} digestContent nextDay ∧
    (Run.exec (AlertDispatcher.step {} digestContent) {} nextDay).sent.length = 1 := by
  refine ⟨digest_represented {} digestContent nextDay ⟨⟨?_, trivial⟩, ⟨?_, ?_⟩, trivial⟩, by decide⟩
  · refine ⟨fun _ p hp => ?_, trivial, trivial, trivial⟩
    cases hp
  · exact ⟨fun _ => ⟨by decide, List.prefix_refl _, by decide⟩, trivial, trivial, trivial, trivial⟩
  · intro _ key p _ _ hget
    have hentries : (AlertDispatcher.step {} digestContent {}
        (.entry 1 (dailyEnv 100000) {})).digests.entries.map (fun x => (x.1, x.2.1))
        = [(.digest "acme" (.day 1), 791200)] := by decide
    have hmem := List.mem_map_of_mem (f := fun x : StashKey × Nat × List DigestItem => (x.1, x.2.1))
      ((Dict.mem_entries_iff _ key p).mpr hget)
    rw [hentries, List.mem_singleton, Prod.mk.injEq] at hmem
    obtain ⟨rfl, hexpires⟩ := hmem
    refine ⟨by decide, by decide, ?_⟩
    rw [hexpires]
    decide

/-- 翌日の flush を逃した bucket は調べられず、予算の尽きた flush は bucket を消して summary を捨てる。 -/
theorem digest_lost : ¬Represented {} digestContent missedDay ∧
    ¬Represented { ratePerMinute := 1 } digestContent spentBudget := by
  constructor
  · intro h
    have hripe : (StashKey.digest "acme" (.day 1)).Ripe (dailyEnv 300000) := by
      show 1 < 300000 / 86400
      decide
    have howed := h.2 [.entry 1 (dailyEnv 100000) {}] "acme" (dailyEnv 300000) {}
      (List.prefix_refl _) ⟨rfl, by decide⟩ (.digest "acme" (.day 1)) rfl hripe
    revert howed
    decide
  · intro h
    have htaken := (h.1 spentBudget (List.prefix_refl _)).1
    revert htaken
    decide

end CipherPost.Live
