import CipherPost.Infra.Dict

/-!
# model registry

`app/ml/registry.py` のうち、organisation ごとの model を扱う部分。registry は一つの JSON の文書で、
操作のたびに読み直して書き戻す。同じ record への参照は書き戻すと別々の写しになるので、
`slot["current"]` を書き換えても `slot["history"]` の record は変わらない。

* `Doc.recordCandidate` — `record_candidate`
* `Doc.orgCurrent`・`Doc.orgHistory` — `org_current`・`org_history`
* `Doc.promoteCandidate` — `promote_candidate`
* `Doc.rollbackOrg` — `rollback_org`

数値は浮動小数点の型を決めず `R` とする。
-/

namespace CipherPost.Ml

/-! ## record -/

/-- record の `status`。 -/
inductive Status where
  | candidate | active | superseded | rejected
  deriving Repr, DecidableEq

/-- `_metrics_dict` のうち gate の読むもの。 -/
structure Metrics (R : Type) where
  f1 : Option R
  fpRate : Option R
  deriving Repr, DecidableEq

/-- registry の record。 -/
structure Entry (R : Type) where
  version : String
  orgId : String
  status : Status
  metrics : Option (Metrics R)
  datasetSize : Nat
  reason : Option String
  promotedReason : Option String
  deriving Repr, DecidableEq

/-- `orgs` の値。 -/
structure Slot (R : Type) where
  current : Option (Entry R) := none
  history : List (Entry R) := []
  deriving Repr, DecidableEq

/-- `registry.json` の `orgs`。 -/
structure Doc (R : Type) where
  orgs : Dict String (Slot R) := Dict.empty

variable {R : Type}

/-- `org_id or "global"`。 -/
def orgKey (orgId : Option String) : String :=
  match orgId with
  | none => "global"
  | some s => if s = "" then "global" else s

theorem orgKey_ne_nil (orgId : Option String) : orgKey orgId ≠ "" := by
  unfold orgKey
  cases orgId with
  | none => decide
  | some s =>
    simp only
    split
    · decide
    · assumption

theorem orgKey_some {key : String} (h : key ≠ "") : orgKey (some key) = key := if_neg h

/-- `l[-n:]`。 -/
def lastN (n : Nat) (l : List (Entry R)) : List (Entry R) := l.drop (l.length - n)

theorem mem_of_mem_lastN {n : Nat} {l : List (Entry R)} {e : Entry R} (h : e ∈ lastN n l) :
    e ∈ l := List.mem_of_mem_drop h

/-- 足した要素は、最後の `n` 個に残る。 -/
theorem mem_lastN_concat (l : List (Entry R)) (e : Entry R) : e ∈ lastN 20 (l ++ [e]) := by
  unfold lastN
  rw [List.drop_append_of_le_length (by rw [List.length_append, List.length_singleton]; omega)]
  exact List.mem_append_right _ (List.mem_singleton_self e)

/-! ## slot への操作 -/

/-- 最初に条件に合う要素を書き換える。 -/
def replaceFirst (p : Entry R → Bool) (f : Entry R → Entry R) : List (Entry R) → List (Entry R)
  | [] => []
  | e :: l => if p e then f e :: l else e :: replaceFirst p f l

theorem mem_replaceFirst {p : Entry R → Bool} {f : Entry R → Entry R} {x : Entry R} :
    ∀ {l : List (Entry R)}, x ∈ replaceFirst p f l → x ∈ l ∨ ∃ e, l.find? p = some e ∧ x = f e
  | [], h => by simp [replaceFirst] at h
  | e :: l, h => by
    rw [replaceFirst] at h
    split at h
    · next hp =>
      rcases List.mem_cons.mp h with rfl | hm
      · exact .inr ⟨e, by rw [List.find?_cons_of_pos hp], rfl⟩
      · exact .inl (List.mem_cons_of_mem _ hm)
    · next hp =>
      rcases List.mem_cons.mp h with rfl | hm
      · exact .inl List.mem_cons_self
      · rcases mem_replaceFirst hm with hl | ⟨y, hy, hx⟩
        · exact .inl (List.mem_cons_of_mem _ hl)
        · exact .inr ⟨y, by rw [List.find?_cons_of_neg hp, hy], hx⟩

namespace Slot

/-- `promote_candidate` の探す record。 -/
def isCandidate (version : String) (e : Entry R) : Bool :=
  decide (e.version = version) && decide (e.status = .candidate)

/-- `e["status"] = "active"` と `e["promoted_reason"] = reason`。 -/
def activate (reason : String) (e : Entry R) : Entry R :=
  { e with status := .active, promotedReason := some reason }

@[simp] theorem activate_version (reason : String) (e : Entry R) :
    (activate reason e).version = e.version := rfl

@[simp] theorem activate_status (reason : String) (e : Entry R) :
    (activate reason e).status = .active := rfl

/--
`promote_candidate` の slot への操作。`prev["status"] = "superseded"` が書くのは捨てられる写しで、
`history` には現れない。
-/
def promote (version reason : String) (slot : Slot R) : Option (Entry R × Slot R) :=
  (slot.history.find? (isCandidate version)).map fun e =>
    (activate reason e,
      { current := some (activate reason e)
        history := replaceFirst (isCandidate version) (activate reason) slot.history })

/-- `(slot.get("current") or {}).get("version")`。 -/
def currentVersion (slot : Slot R) : Option String := slot.current.map (·.version)

/-- `rollback_org` の内包表記の条件。 -/
def isPrior (slot : Slot R) (e : Entry R) : Bool :=
  decide (e.status = .active ∨ e.status = .candidate ∨ e.status = .superseded) &&
    decide (slot.currentVersion ≠ some e.version)

/-- 一番新しい `priors` の要素を最後から探して書き換える。 -/
def replaceLast (p : Entry R → Bool) (f : Entry R → Entry R) (l : List (Entry R)) :
    List (Entry R) := (replaceFirst p f l.reverse).reverse

/-- `rollback_org` の slot への操作。 -/
def rollback (slot : Slot R) : Option (Entry R × Slot R) :=
  ((slot.history.reverse.filter slot.isPrior).head?).map fun e =>
    (activate "rollback" e,
      { current := some (activate "rollback" e)
        history := replaceLast slot.isPrior (activate "rollback") slot.history })

/-- 現在の版と異なる版の、一番新しい record。 -/
def newestOther (slot : Slot R) : Option (Entry R) :=
  slot.history.reverse.find? fun e => decide (slot.currentVersion ≠ some e.version)

end Slot

/-! ## 文書への操作 -/

namespace Doc

/-- `(doc.get("orgs", {}) or {}).get(org_id or "global", {})`。 -/
def slot (doc : Doc R) (key : String) : Slot R := (doc.orgs.get? key).getD {}

/-- slot を書き戻した文書。 -/
def setSlot (doc : Doc R) (key : String) (s : Slot R) : Doc R := { orgs := doc.orgs.set key s }

@[simp] theorem slot_setSlot_self (doc : Doc R) (key : String) (s : Slot R) :
    (doc.setSlot key s).slot key = s := by simp [slot, setSlot]

theorem slot_setSlot_of_ne (doc : Doc R) {key k : String} (s : Slot R) (h : key ≠ k) :
    (doc.setSlot key s).slot k = doc.slot k := by
  unfold slot setSlot
  rw [Dict.get?_set_of_ne _ _ h]

@[simp] theorem slot_empty (k : String) : ({} : Doc R).slot k = {} := rfl

/-- `record_candidate`。呼び出し側の `status` は `"candidate"` で上書きされる。 -/
def recordCandidate (doc : Doc R) (orgId : Option String) (version : String) (entry : Entry R) :
    Doc R :=
  let key := orgKey orgId
  let s := doc.slot key
  let entry := { entry with version := version, orgId := key, status := .candidate }
  doc.setSlot key { s with history := lastN 20 (s.history ++ [entry]) }

/-- `org_current`。 -/
def orgCurrent (doc : Doc R) (orgId : Option String) : Option (Entry R) :=
  (doc.slot (orgKey orgId)).current

/-- `org_history`。 -/
def orgHistory (doc : Doc R) (orgId : Option String) (limit : Nat) : List (Entry R) :=
  let history := (doc.slot (orgKey orgId)).history
  -- `l[-0:]` は列の全体である
  if limit = 0 then history else lastN limit history

/-- `promote_candidate`。 -/
def promoteCandidate (doc : Doc R) (orgId : Option String) (version reason : String) :
    Option (Entry R) × Doc R :=
  match (doc.slot (orgKey orgId)).promote version reason with
  | some (e, s) => (some e, doc.setSlot (orgKey orgId) s)
  | none => (none, doc)

/-- `rollback_org`。 -/
def rollbackOrg (doc : Doc R) (orgId : Option String) : Option (Entry R) × Doc R :=
  match (doc.slot (orgKey orgId)).rollback with
  | some (e, s) => (some e, doc.setSlot (orgKey orgId) s)
  | none => (none, doc)

end Doc

/-! ## slot の不変量 -/

namespace Slot

/-- この slot で `P` な版だけが active であり、`rejected` の record は無い。 -/
structure Sound (P : String → Prop) (slot : Slot R) : Prop where
  stored : ∀ e ∈ slot.history, e.status = .candidate ∨ e.status = .active
  active : ∀ e ∈ slot.history, e.status = .active → P e.version

theorem Sound.empty (P : String → Prop) : ({} : Slot R).Sound P :=
  ⟨fun _ h => (List.not_mem_nil h).elim, fun _ h => (List.not_mem_nil h).elim⟩

theorem Sound.mono {P Q : String → Prop} {slot : Slot R} (h : slot.Sound P)
    (hpq : ∀ v, P v → Q v) : slot.Sound Q :=
  ⟨h.stored, fun e he ha => hpq _ (h.active e he ha)⟩

/-- 記録は candidate としてだけ増える。 -/
theorem Sound.append {P : String → Prop} {slot : Slot R} (h : slot.Sound P) {e : Entry R}
    (he : e.status = .candidate) (n : Nat) :
    ({ slot with history := lastN n (slot.history ++ [e]) } : Slot R).Sound P := by
  have hcases : ∀ x ∈ lastN n (slot.history ++ [e]), x ∈ slot.history ∨ x = e := by
    intro x hx
    rcases List.mem_append.mp (mem_of_mem_lastN hx) with hm | hm
    · exact .inl hm
    · exact .inr (List.mem_singleton.mp hm)
  constructor
  · intro x hx
    rcases hcases x hx with hm | rfl
    · exact h.stored x hm
    · exact .inl he
  · intro x hx ha
    rcases hcases x hx with hm | rfl
    · exact h.active x hm ha
    · rw [he] at ha
      cases ha

/-- `P` な版の record を active に書き換えても保たれる。 -/
theorem Sound.replaceFirst {P : String → Prop} {l : List (Entry R)} {slot : Slot R}
    (h : slot.Sound P) (p : Entry R → Bool) (reason : String) (hl : ∀ x ∈ l, x ∈ slot.history)
    (hp : ∀ e, l.find? p = some e → P e.version) :
    ∀ x ∈ Ml.replaceFirst p (activate reason) l,
      (x.status = .candidate ∨ x.status = .active) ∧ (x.status = .active → P x.version) := by
  intro x hx
  rcases mem_replaceFirst hx with hm | ⟨e, he, rfl⟩
  · exact ⟨h.stored x (hl x hm), h.active x (hl x hm)⟩
  · exact ⟨.inr rfl, fun _ => hp e he⟩

/-- 昇格した record は `version` の版である。 -/
theorem version_of_promote {version reason : String} {slot s : Slot R} {e : Entry R}
    (h : slot.promote version reason = some (e, s)) :
    e.version = version ∧ s.current = some e := by
  unfold promote at h
  rw [Option.map_eq_some_iff] at h
  obtain ⟨x, hx, he⟩ := h
  rw [Prod.mk.injEq] at he
  have hc : isCandidate version x = true := List.find?_some hx
  unfold isCandidate at hc
  rw [Bool.and_eq_true, decide_eq_true_eq, decide_eq_true_eq] at hc
  rw [← he.1, ← he.2]
  exact ⟨hc.1, rfl⟩

/-- 昇格は、昇格した版が `P` なら不変量を保つ。 -/
theorem Sound.promote {P : String → Prop} {version reason : String} {slot s : Slot R} {e : Entry R}
    (h : slot.Sound P) (hv : P version) (hp : slot.promote version reason = some (e, s)) :
    s.Sound P := by
  unfold Slot.promote at hp
  rw [Option.map_eq_some_iff] at hp
  obtain ⟨x, hx, he⟩ := hp
  rw [Prod.mk.injEq] at he
  have hrep := h.replaceFirst (isCandidate version) reason
    (fun _ hm => hm) (fun y hy => by
      have hc : isCandidate version y = true := List.find?_some hy
      unfold isCandidate at hc
      rw [Bool.and_eq_true, decide_eq_true_eq] at hc
      rw [hc.1]
      exact hv)
  rw [← he.2]
  exact ⟨fun y hy => (hrep y hy).1, fun y hy => (hrep y hy).2⟩

/-- 保存された record の `status` は内包表記の条件を満たすので、rollback の選ぶ record は版だけで決まる。 -/
theorem head?_filter_isPrior {P : String → Prop} {slot : Slot R} (h : slot.Sound P) :
    (slot.history.reverse.filter slot.isPrior).head? = slot.newestOther := by
  unfold newestOther
  rw [← List.head?_filter]
  refine congrArg List.head? (List.filter_congr fun e he => ?_)
  unfold isPrior
  rcases h.stored e (List.mem_reverse.mp he) with hs | hs <;> simp [hs]

/-- 戻した record は、現在の版と異なる版の一番新しい record である。 -/
theorem rollback_eq {P : String → Prop} {slot : Slot R} (h : slot.Sound P) :
    slot.rollback = slot.newestOther.map fun e =>
      (activate "rollback" e,
        { current := some (activate "rollback" e)
          history := replaceLast slot.isPrior (activate "rollback") slot.history }) := by
  unfold rollback
  rw [head?_filter_isPrior h]

/-- 戻した record は使われる model になる。 -/
theorem version_of_rollback {P : String → Prop} {slot s : Slot R} {e : Entry R} (h : slot.Sound P)
    (hr : slot.rollback = some (e, s)) :
    s.current = some e ∧ ∃ x, slot.newestOther = some x ∧ e.version = x.version := by
  rw [rollback_eq h, Option.map_eq_some_iff] at hr
  obtain ⟨x, hx, he⟩ := hr
  rw [Prod.mk.injEq] at he
  rw [← he.1, ← he.2]
  exact ⟨rfl, x, hx, rfl⟩

/-- rollback は、選んだ版が `P` なら不変量を保つ。 -/
theorem Sound.rollback {P : String → Prop} {slot s : Slot R} {e : Entry R} (h : slot.Sound P)
    (ht : ∀ x, slot.newestOther = some x → P x.version) (hr : slot.rollback = some (e, s)) :
    s.Sound P := by
  rw [rollback_eq h, Option.map_eq_some_iff] at hr
  obtain ⟨x, hx, he⟩ := hr
  rw [Prod.mk.injEq] at he
  have hrep := h.replaceFirst slot.isPrior "rollback"
    (fun _ hm => List.mem_reverse.mp hm) (fun y hy => by
      rw [← List.head?_filter, head?_filter_isPrior h] at hy
      exact ht y hy)
  rw [← he.2]
  exact ⟨fun y hy => (hrep y (List.mem_reverse.mp hy)).1,
    fun y hy => (hrep y (List.mem_reverse.mp hy)).2⟩

end Slot

end CipherPost.Ml
