import Mathlib.Data.List.Basic
import CipherPost.Infra.Run
import CipherPost.Ml.Registry

/-!
# 一つの organisation の registry の run

使われている model は、slot の `current` と `history` の中の record の二か所に書かれる。操作のたびに文書を
読み直すので、二つは別々の写しである。新しい版を active にしても、`history` の前の版は active のまま残る。

* `Ledger` — 文書と、記録した candidate の数、最後に active にした record の番号
* `Activates` — `promote_candidate` と `rollback_org` に共通する、slot の変わり方
* `SingleActive` — `history` の active な record は高々一つで、`org_current` の版である
* `singleActive_iff` — そうであり続けるのは、`history` に active な record の無いときにだけ active にする run
-/

namespace CipherPost.Ml

variable {R : Type}

/-! ## 呼び出し -/

/-- 一つの organisation への呼び出し。 -/
inductive RegistryCall (R : Type) where
  | record (version : String) (entry : Entry R)
  | promote (version reason : String)
  | rollback

/-- 文書と、それまでの呼び出しの勘定。 -/
structure Ledger (R : Type) where
  doc : Doc R := {}
  /-- 記録した candidate の数。 -/
  recorded : Nat := 0
  /-- 最後に active にした record の番号。 -/
  activated : Option Nat := none

namespace Ledger

/-- 呼び出しの引数と、`_save_doc` が書けたかどうか。 -/
abbrev Event (R : Type) := RegistryCall R × Bool

variable (orgId : Option String)

def slot (L : Ledger R) : Slot R := L.doc.slot (orgKey orgId)

/-- `history` の先頭の record の番号。 -/
def first (L : Ledger R) : Nat := L.recorded - (L.slot orgId).history.length

/-- active にする record の、`history` での位置。 -/
def target (L : Ledger R) : RegistryCall R → Option Nat
  | .record .. => none
  | .promote version _ => (L.slot orgId).history.findIdx? (Slot.isCandidate version)
  | .rollback =>
    ((L.slot orgId).history.reverse.findIdx? (L.slot orgId).isPrior).map fun i =>
      (L.slot orgId).history.length - 1 - i

/-- 呼び出しの後の文書。書けなければ、前の文書がそのまま読み直される。 -/
def nextDoc (L : Ledger R) : RegistryCall R → Doc R
  | .record version entry => L.doc.recordCandidate orgId version entry
  | .promote version reason => (L.doc.promoteCandidate orgId version reason).2
  | .rollback => (L.doc.rollbackOrg orgId).2

def step (L : Ledger R) (ev : Event R) : Ledger R :=
  if ev.2 then
    { doc := L.nextDoc orgId ev.1
      recorded := match ev.1 with
        | .record .. => L.recorded + 1
        | _ => L.recorded
      activated := match L.target orgId ev.1 with
        | some i => some (L.first orgId + i)
        | none => L.activated }
  else L

end Ledger

/-! ## 一つの record の書き換え -/

/-- 最初に合う要素で列を分ける。 -/
theorem replaceFirst_split {p : Entry R → Bool} (f : Entry R → Entry R) {x : Entry R} :
    ∀ {l : List (Entry R)}, l.find? p = some x → ∃ pre post, l = pre ++ x :: post ∧
      replaceFirst p f l = pre ++ f x :: post ∧ l.findIdx? p = some pre.length
  | [], h => by cases h
  | e :: l, h => by
    by_cases hp : p e = true
    · rw [List.find?_cons_of_pos hp] at h
      cases h
      exact ⟨[], l, rfl, by rw [replaceFirst, if_pos hp]; rfl, by simp [List.findIdx?_cons, hp]⟩
    · rw [List.find?_cons_of_neg hp] at h
      obtain ⟨pre, post, hl, hreplace, hidx⟩ := replaceFirst_split f h
      refine ⟨e :: pre, post, by rw [hl]; rfl, ?_, ?_⟩
      · rw [replaceFirst, if_neg hp, hreplace]
        rfl
      · simp [List.findIdx?_cons, hp, hidx]

/-- 最後に合う要素で列を分ける。 -/
theorem replaceLast_split {p : Entry R → Bool} (f : Entry R → Entry R) {x : Entry R}
    {l : List (Entry R)} (h : l.reverse.find? p = some x) : ∃ pre post, l = pre ++ x :: post ∧
      Slot.replaceLast p f l = pre ++ f x :: post ∧
      (l.reverse.findIdx? p).map (fun i => l.length - 1 - i) = some pre.length := by
  obtain ⟨post, pre, hl, hreplace, hidx⟩ := replaceFirst_split f h
  have hsplit : l = pre.reverse ++ x :: post.reverse := by
    have hrev := congrArg List.reverse hl
    simpa using hrev
  refine ⟨pre.reverse, post.reverse, hsplit, ?_, ?_⟩
  · unfold Slot.replaceLast
    rw [hreplace]
    simp
  · rw [hidx, Option.map_some, hsplit]
    simp only [List.length_append, List.length_cons, List.length_reverse]
    congr 1
    omega

/-- slot の `k` 番目の record を active にして、それを使う。 -/
structure Activates (slot slot' : Slot R) (k : Nat) : Prop where
  split : ∃ pre x y post, slot.history = pre ++ x :: post ∧ slot'.history = pre ++ y :: post ∧
    pre.length = k ∧ slot'.current = some y ∧ y.status = .active ∧
    (x.status = .active → slot.currentVersion ≠ some x.version)

/-- 前の record と後の record は `k` 番目にあり、ほかの位置は変わらない。 -/
theorem Activates.at {slot slot' : Slot R} {k : Nat} (h : Activates slot slot' k) :
    ∃ x y, slot.history[k]? = some x ∧ slot'.history[k]? = some y ∧ slot'.current = some y ∧
      y.status = .active ∧ (x.status = .active → slot.currentVersion ≠ some x.version) ∧
      ∀ i, i ≠ k → slot'.history[i]? = slot.history[i]? := by
  obtain ⟨pre, x, y, post, hbefore, hafter, rfl, hcurrent, hactive, hprior⟩ := h.split
  have hmid : ∀ z : Entry R, (pre ++ z :: post)[pre.length]? = some z := by
    intro z
    rw [List.getElem?_append_right (Nat.le_refl _), Nat.sub_self]
    rfl
  refine ⟨x, y, hbefore ▸ hmid x, hafter ▸ hmid y, hcurrent, hactive, hprior, fun i hi => ?_⟩
  rw [hbefore, hafter, List.getElem?_append, List.getElem?_append]
  split
  · rfl
  · obtain ⟨m, hm⟩ : ∃ m, i - pre.length = m + 1 := ⟨i - pre.length - 1, by omega⟩
    rw [hm, List.getElem?_cons_succ, List.getElem?_cons_succ]

theorem Activates.length_eq {slot slot' : Slot R} {k : Nat} (h : Activates slot slot' k) :
    slot'.history.length = slot.history.length := by
  obtain ⟨pre, x, y, post, hbefore, hafter, -⟩ := h.split
  rw [hbefore, hafter, List.length_append, List.length_append, List.length_cons, List.length_cons]

theorem activates_promote {version reason : String} {slot slot' : Slot R} {e : Entry R}
    (h : slot.promote version reason = some (e, slot')) :
    ∃ k, slot.history.findIdx? (Slot.isCandidate version) = some k ∧ Activates slot slot' k := by
  unfold Slot.promote at h
  obtain ⟨x, hx, heq⟩ := Option.map_eq_some_iff.mp h
  cases heq
  obtain ⟨pre, post, hl, hreplace, hidx⟩ := replaceFirst_split (Slot.activate reason) hx
  refine ⟨pre.length, hidx, ⟨pre, x, Slot.activate reason x, post, hl, hreplace, rfl, rfl, rfl, ?_⟩⟩
  intro hactive
  have hcandidate := List.find?_some hx
  simp [Slot.isCandidate, hactive] at hcandidate

theorem activates_rollback {slot slot' : Slot R} {e : Entry R}
    (h : slot.rollback = some (e, slot')) :
    ∃ k, (slot.history.reverse.findIdx? slot.isPrior).map (fun i => slot.history.length - 1 - i) =
      some k ∧ Activates slot slot' k := by
  unfold Slot.rollback at h
  obtain ⟨x, hx, heq⟩ := Option.map_eq_some_iff.mp h
  cases heq
  rw [List.head?_filter] at hx
  obtain ⟨pre, post, hl, hreplace, hidx⟩ := replaceLast_split (Slot.activate "rollback") hx
  refine ⟨pre.length, hidx, ⟨pre, x, Slot.activate "rollback" x, post, hl, hreplace, rfl, rfl, rfl, ?_⟩⟩
  intro _
  have hprior := List.find?_some hx
  unfold Slot.isPrior at hprior
  exact of_decide_eq_true (Bool.and_eq_true _ _ ▸ hprior).2

/-! ## 一歩 -/

namespace Ledger

variable (orgId : Option String)

/-- 呼び出しは record を active にして書き込む。 -/
def Activating (L : Ledger R) (ev : Event R) : Prop :=
  ev.2 = true ∧ (L.target orgId ev.1).isSome = true

/-- 一歩は、slot を変えないか、candidate を一つ足すか、record を一つ active にする。 -/
inductive StepCases (L : Ledger R) (ev : Event R) (L' : Ledger R) : Prop where
  | kept (hquiet : ¬Activating orgId L ev) (hslot : L'.slot orgId = L.slot orgId)
      (hrecorded : L'.recorded = L.recorded) (hactivated : L'.activated = L.activated)
  | recorded (e : Entry R) (he : e.status = .candidate) (hquiet : ¬Activating orgId L ev)
      (hslot : L'.slot orgId =
        { L.slot orgId with history := lastN 20 ((L.slot orgId).history ++ [e]) })
      (hrecorded : L'.recorded = L.recorded + 1) (hactivated : L'.activated = L.activated)
  | activated (k : Nat) (hactivating : Activating orgId L ev)
      (hslot : Activates (L.slot orgId) (L'.slot orgId) k) (hrecorded : L'.recorded = L.recorded)
      (hactivated : L'.activated = some (L.first orgId + k))

/-- 位置が決まるなら、その record が active になる。 -/
theorem stepCases_of_target (L : Ledger R) (call : RegistryCall R) {s : Slot R}
    {k : Nat} (hdoc : L.nextDoc orgId call = L.doc.setSlot (orgKey orgId) s)
    (hcall : ∀ version entry, call ≠ .record version entry) (htarget : L.target orgId call = some k)
    (h : Activates (L.slot orgId) s k) : StepCases orgId L (call, true) (L.step orgId (call, true)) := by
  have hslot : (L.step orgId (call, true)).slot orgId = s := by
    show (L.nextDoc orgId call).slot (orgKey orgId) = s
    rw [hdoc, Doc.slot_setSlot_self]
  have hactivated : (L.step orgId (call, true)).activated = some (L.first orgId + k) := by
    show (match L.target orgId call with
      | some i => some (L.first orgId + i)
      | none => L.activated) = _
    rw [htarget]
  refine .activated k ⟨rfl, by rw [htarget]; rfl⟩ (hslot ▸ h) ?_ hactivated
  cases call with
  | record version entry => exact absurd rfl (hcall version entry)
  | promote | rollback => rfl

/-- 位置が決まらないなら、何も変わらない。 -/
theorem stepCases_of_none (L : Ledger R) (call : RegistryCall R)
    (hdoc : L.nextDoc orgId call = L.doc) (hcall : ∀ version entry, call ≠ .record version entry)
    (htarget : L.target orgId call = none) :
    StepCases orgId L (call, true) (L.step orgId (call, true)) := by
  have hquiet : ¬Activating orgId L (call, true) := by
    rintro ⟨-, h⟩
    rw [htarget] at h
    cases h
  refine .kept hquiet ?_ ?_ ?_
  · show (L.nextDoc orgId call).slot (orgKey orgId) = _
    rw [hdoc]
    rfl
  · cases call with
    | record version entry => exact absurd rfl (hcall version entry)
    | promote | rollback => rfl
  · show (match L.target orgId call with
      | some i => some (L.first orgId + i)
      | none => L.activated) = _
    rw [htarget]

theorem step_cases (L : Ledger R) (ev : Event R) : StepCases orgId L ev (L.step orgId ev) := by
  obtain ⟨call, saved⟩ := ev
  cases saved with
  | false => exact .kept (fun h => by cases h.1) rfl rfl rfl
  | true =>
    cases call with
    | record version entry =>
      refine .recorded { entry with version, orgId := orgKey orgId, status := .candidate } rfl
        (fun h => by cases h.2) ?_ rfl rfl
      show (L.doc.recordCandidate orgId version entry).slot (orgKey orgId) = _
      unfold Doc.recordCandidate
      rw [Doc.slot_setSlot_self]
      rfl
    | promote version reason =>
      cases hp : (L.slot orgId).promote version reason with
      | none =>
        have hdoc : L.nextDoc orgId (.promote version reason) = L.doc := by
          show (L.doc.promoteCandidate orgId version reason).2 = L.doc
          unfold Doc.promoteCandidate
          rw [show (L.doc.slot (orgKey orgId)).promote version reason = none from hp]
        refine stepCases_of_none orgId L _ hdoc (by rintro _ _ ⟨⟩) ?_
        have hnone : (L.slot orgId).history.find? (Slot.isCandidate version) = none :=
          Option.map_eq_none_iff.mp hp
        exact List.findIdx?_eq_none_iff.mpr fun e he => by simpa using List.find?_eq_none.mp hnone e he
      | some r =>
        obtain ⟨e, s⟩ := r
        have hdoc : L.nextDoc orgId (.promote version reason) = L.doc.setSlot (orgKey orgId) s := by
          show (L.doc.promoteCandidate orgId version reason).2 = _
          unfold Doc.promoteCandidate
          rw [show (L.doc.slot (orgKey orgId)).promote version reason = some (e, s) from hp]
        obtain ⟨k, hk, hactivates⟩ := activates_promote hp
        exact stepCases_of_target orgId L _ hdoc (by rintro _ _ ⟨⟩) hk hactivates
    | rollback =>
      cases hr : (L.slot orgId).rollback with
      | none =>
        have hdoc : L.nextDoc orgId .rollback = L.doc := by
          show (L.doc.rollbackOrg orgId).2 = L.doc
          unfold Doc.rollbackOrg
          rw [show (L.doc.slot (orgKey orgId)).rollback = none from hr]
        refine stepCases_of_none orgId L _ hdoc (by rintro _ _ ⟨⟩) ?_
        have hnone : (L.slot orgId).history.reverse.find? (L.slot orgId).isPrior = none := by
          rw [← List.head?_filter]
          exact Option.map_eq_none_iff.mp hr
        refine Option.map_eq_none_iff.mpr (List.findIdx?_eq_none_iff.mpr fun e he => ?_)
        simpa using List.find?_eq_none.mp hnone e he
      | some r =>
        obtain ⟨e, s⟩ := r
        have hdoc : L.nextDoc orgId .rollback = L.doc.setSlot (orgKey orgId) s := by
          show (L.doc.rollbackOrg orgId).2 = _
          unfold Doc.rollbackOrg
          rw [show (L.doc.slot (orgKey orgId)).rollback = some (e, s) from hr]
        obtain ⟨k, hk, hactivates⟩ := activates_rollback hr
        exact stepCases_of_target orgId L _ hdoc (by rintro _ _ ⟨⟩) hk hactivates

/-! ## 不変量 -/

/-- `current` の record は、window の中にあるなら、`history` で active である。 -/
structure Inv (L : Ledger R) : Prop where
  length_le : (L.slot orgId).history.length ≤ L.recorded
  current : ∀ c, (L.slot orgId).current = some c → ∃ n, L.activated = some n ∧ n < L.recorded ∧
    ∀ i, L.first orgId + i = n →
      ∃ e, (L.slot orgId).history[i]? = some e ∧ e.status = .active ∧ e.version = c.version

/-- 最後に active にした record は、window から押し出された。 -/
def Dropped (L : Ledger R) : Prop := ∃ n, L.activated = some n ∧ n < L.first orgId

/-- `history` の active な record は高々一つで、それは `org_current` の版である。`org_current` の版の
record は、window から押し出されていなければ active である。 -/
structure SingleActive (L : Ledger R) : Prop where
  atMostOne : ∀ (i j : Nat) (e e' : Entry R), (L.slot orgId).history[i]? = some e → (L.slot orgId).history[j]? = some e' →
    e.status = .active → e'.status = .active → i = j
  current : ∀ e ∈ (L.slot orgId).history, e.status = .active →
    (L.doc.orgCurrent orgId).map (·.version) = some e.version
  kept : ∀ c, L.doc.orgCurrent orgId = some c →
    (∃ e ∈ (L.slot orgId).history, e.status = .active ∧ e.version = c.version) ∨ L.Dropped orgId

/-- active にする呼び出しは、`history` に active な record の無いときにだけ来る。 -/
def ActivatesAlone (L : Ledger R) (ev : Event R) : Prop :=
  L.Activating orgId ev → ∀ e ∈ (L.slot orgId).history, e.status ≠ .active

variable {orgId} {L : Ledger R}

theorem Inv.kept (h : Inv orgId L) {c : Entry R} (hc : L.doc.orgCurrent orgId = some c) :
    (∃ e ∈ (L.slot orgId).history, e.status = .active ∧ e.version = c.version) ∨ L.Dropped orgId := by
  obtain ⟨n, hn, -, hactive⟩ := h.current c hc
  by_cases hdrop : n < L.first orgId
  · exact .inr ⟨n, hn, hdrop⟩
  · obtain ⟨e, he, hstatus, hversion⟩ := hactive (n - L.first orgId) (by omega)
    exact .inl ⟨e, List.mem_of_getElem? he, hstatus, hversion⟩

theorem length_lastN_concat (l : List (Entry R)) (e : Entry R) :
    (lastN 20 (l ++ [e])).length = l.length + 1 - (l.length + 1 - 20) := by
  unfold lastN
  rw [List.length_drop, List.length_append, List.length_singleton]

/-- 押し出されなかった record は、先頭が押し出された分だけ前にある。 -/
theorem getElem?_lastN_of {l : List (Entry R)} {x : Entry R} {i : Nat}
    (h : l[l.length + 1 - 20 + i]? = some x) (e : Entry R) :
    (lastN 20 (l ++ [e]))[i]? = some x := by
  unfold lastN
  rw [List.getElem?_drop, List.length_append, List.length_singleton,
    List.getElem?_append_left (List.getElem?_eq_some_iff.mp h).1]
  exact h

/-- candidate を足すと、先頭が押し出された分だけ位置がずれる。 -/
theorem getElem?_lastN_concat {l : List (Entry R)} {e x : Entry R} {i : Nat}
    (h : (lastN 20 (l ++ [e]))[i]? = some x) :
    l[l.length + 1 - 20 + i]? = some x ∨ x = e := by
  unfold lastN at h
  rw [List.getElem?_drop, List.length_append, List.length_singleton, List.getElem?_append] at h
  split at h
  · exact .inl h
  · exact .inr (List.mem_singleton.mp (List.mem_of_getElem? h)).symm.symm

theorem Inv.step (h : Inv orgId L) (ev : Event R) : Inv orgId (L.step orgId ev) := by
  cases step_cases orgId L ev with
  | kept _ hslot hrecorded hactivated =>
    refine ⟨by rw [hslot, hrecorded]; exact h.length_le, fun c hc => ?_⟩
    have hfirst : (L.step orgId ev).first orgId = L.first orgId := by
      unfold first
      rw [hslot, hrecorded]
    rw [hslot] at hc ⊢
    rw [hactivated, hrecorded, hfirst]
    exact h.current c hc
  | recorded e he _ hslot hrecorded hactivated =>
    have hlength := length_lastN_concat (L.slot orgId).history e
    have hle := h.length_le
    refine ⟨?_, fun c hc => ?_⟩
    · rw [hslot, hrecorded]
      simp only [hlength]
      omega
    · rw [hslot] at hc
      obtain ⟨n, hn, hlt, hactive⟩ := h.current c hc
      refine ⟨n, hactivated.trans hn, by omega, fun i hi => ?_⟩
      have hfirst : (L.step orgId ev).first orgId =
          L.first orgId + ((L.slot orgId).history.length + 1 - 20) := by
        unfold first
        rw [hslot, hrecorded]
        simp only [hlength]
        omega
      obtain ⟨x, hx, hstatus, hversion⟩ :=
        hactive ((L.slot orgId).history.length + 1 - 20 + i) (by omega)
      refine ⟨x, ?_, hstatus, hversion⟩
      rw [hslot]
      exact getElem?_lastN_of hx e
  | activated k _ hslot hrecorded hactivated =>
    obtain ⟨x, y, hx, hy, hcurrent, hactive, -, -⟩ := hslot.at
    have hlength := hslot.length_eq
    have hfirst : (L.step orgId ev).first orgId = L.first orgId := by
      unfold first
      rw [hlength, hrecorded]
    have hle := h.length_le
    refine ⟨by rw [hlength, hrecorded]; exact hle, fun c hc => ⟨_, hactivated, ?_, fun i hi => ?_⟩⟩
    · have hk : k < (L.slot orgId).history.length := (List.getElem?_eq_some_iff.mp hx).1
      unfold first
      omega
    · rw [hfirst] at hi
      obtain rfl : i = k := by omega
      cases hcurrent.symm.trans hc
      exact ⟨y, hy, hactive, rfl⟩

/-! ## active な record -/

/-- active な record が無いときに一つを active にすれば、それだけが active になる。 -/
theorem SingleActive.activated {L' : Ledger R} {k : Nat}
    (hslot : Activates (L.slot orgId) (L'.slot orgId) k)
    (hnone : ∀ e ∈ (L.slot orgId).history, e.status ≠ .active) (hinv : Inv orgId L') :
    SingleActive orgId L' := by
  obtain ⟨x, y, -, hy, hcurrent, hactive, -, hother⟩ := hslot.at
  -- `history` の active な record は、いま active にしたものだけである
  have honly : ∀ i (e : Entry R), (L'.slot orgId).history[i]? = some e → e.status = .active →
      i = k := by
    intro i e he hstatus
    by_contra hik
    rw [hother i hik] at he
    exact hnone e (List.mem_of_getElem? he) hstatus
  refine ⟨fun i j e e' he he' hs hs' => ?_, fun e he hs => ?_, fun c hc => hinv.kept hc⟩
  · rw [honly i e he hs, honly j e' he' hs']
  · obtain ⟨i, hi⟩ := List.getElem?_of_mem he
    obtain rfl := honly i e hi hs
    cases hi.symm.trans hy
    show ((L'.slot orgId).current).map (·.version) = some y.version
    rw [hcurrent]
    rfl

theorem SingleActive.step (hinv : Inv orgId L) (h : SingleActive orgId L) {ev : Event R}
    (halone : ActivatesAlone orgId L ev) : SingleActive orgId (L.step orgId ev) := by
  have hinv' : Inv orgId (L.step orgId ev) := hinv.step ev
  cases step_cases orgId L ev with
  | kept _ hslot _ _ =>
    refine ⟨?_, ?_, fun c hc => hinv'.kept hc⟩
    · rw [hslot]
      exact h.atMostOne
    · show ∀ e ∈ ((L.step orgId ev).slot orgId).history, e.status = .active →
        (((L.step orgId ev).slot orgId).current).map (·.version) = some e.version
      rw [hslot]
      exact h.current
  | recorded c hcandidate _ hslot _ _ =>
    -- 足した record は active でない
    have hold : ∀ i (e : Entry R), ((L.step orgId ev).slot orgId).history[i]? = some e →
        e.status = .active →
          (L.slot orgId).history[(L.slot orgId).history.length + 1 - 20 + i]? = some e := by
      intro i e he hs
      rw [hslot] at he
      rcases getElem?_lastN_concat he with he | rfl
      · exact he
      · rw [hcandidate] at hs
        cases hs
    refine ⟨fun i j e e' he he' hs hs' => ?_, fun e he hs => ?_, fun c hc => hinv'.kept hc⟩
    · have hsame := h.atMostOne _ _ e e' (hold i e he hs) (hold j e' he' hs') hs hs'
      omega
    · obtain ⟨i, hi⟩ := List.getElem?_of_mem he
      show (((L.step orgId ev).slot orgId).current).map (·.version) = some e.version
      rw [hslot]
      exact h.current e (List.mem_of_getElem? (hold i e hi hs)) hs
  | activated k hactivating hslot _ _ =>
    exact SingleActive.activated hslot (halone hactivating) hinv'

/-- 前の active な record を残したまま別の record を active にすると、二つになる。 -/
theorem SingleActive.alone (h : SingleActive orgId L) {ev : Event R}
    (h' : SingleActive orgId (L.step orgId ev)) : ActivatesAlone orgId L ev := by
  intro hactivating e he hs
  cases step_cases orgId L ev with
  | kept hquiet | recorded _ _ hquiet => exact hquiet hactivating
  | activated k _ hslot _ _ =>
    obtain ⟨x, y, hx, hy, -, hactive, hprior, hother⟩ := hslot.at
    obtain ⟨i, hi⟩ := List.getElem?_of_mem he
    by_cases hik : i = k
    · -- active な record は `org_current` の版なので、選ばれない
      subst hik
      cases hi.symm.trans hx
      exact hprior hs (h.current e he hs)
    · exact hik (h'.atMostOne i k e y ((hother i hik).trans hi) hy hs hactive)

end Ledger

/-- 空の registry。 -/
theorem singleActive_empty (orgId : Option String) :
    Ledger.Inv orgId ({} : Ledger R) ∧ Ledger.SingleActive orgId ({} : Ledger R) := by
  refine ⟨⟨Nat.le_refl _, fun c hc => by cases hc⟩, ⟨?_, ?_, fun c hc => by cases hc⟩⟩
  · intro i j e e' he
    cases he
  · intro e he
    cases he

/--
**`history` の active な record が高々一つで、`org_current` の版であり続けるのは、昇格と rollback が、
`history` に active な record の無いときにだけ成功する run である。**
-/
theorem singleActive_iff (orgId : Option String) (calls : List (Ledger.Event R)) :
    (∀ pre, pre <+: calls → (Run.exec (Ledger.step orgId) {} pre).SingleActive orgId) ↔
      Run.Along (Ledger.step orgId) (Ledger.ActivatesAlone orgId) {} calls :=
  Run.property_iff (I := fun (L : Ledger R) => L.Inv orgId ∧ L.SingleActive orgId) (fun _ h => h.2)
    (fun _ ev h halone => ⟨h.1.step ev, h.2.step h.1 halone⟩)
    (fun _ _ h h' => h.2.alone h') (singleActive_empty orgId)

/-! ## 二つの版 -/

/-- 記録する record。 -/
def blankEntry : Entry Rat :=
  { version := "", orgId := "", status := .candidate, metrics := none, datasetSize := 20
    reason := none, promotedReason := none }

/-- `v1` を昇格させ、それから `v2` を昇格させる。 -/
def promoteTwice : List (Ledger.Event Rat) :=
  [(.record "v1" blankEntry, true), (.promote "v1" "gate", true), (.record "v2" blankEntry, true),
    (.promote "v2" "gate", true)]

/-- `v1` を昇格させ、`v2` を記録して rollback する。 -/
def rollbackOnce : List (Ledger.Event Rat) := promoteTwice.take 3 ++ [(.rollback, true)]

/-- どちらの後でも、二つの record が active である。 -/
theorem not_singleActive :
    ¬(Run.exec (Ledger.step (some "org-1")) {} promoteTwice).SingleActive (some "org-1") ∧
      ¬(Run.exec (Ledger.step (some "org-1")) {} rollbackOnce).SingleActive (some "org-1") := by
  constructor
  · intro h
    exact absurd (h.atMostOne 0 1 _ _ rfl rfl (by decide) (by decide)) (by decide)
  · intro h
    exact absurd (h.atMostOne 0 1 _ _ rfl rfl (by decide) (by decide)) (by decide)

end CipherPost.Ml
