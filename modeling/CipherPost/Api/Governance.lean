import CipherPost.Api.ConsoleIsolation

/-!
# suppression の承認

承認を求める設定の下で、finding を黙らせる suppression がどこから来たのか。API の一覧も dispatcher も、org の承認された
suppression を `match_suppression` に渡す。それに掛かる suppression は、誰かの求めたとおりの rule と scope と期限を
持ち、その org の admin が承認していて、その後に取り下げられていない。期限は求めた時から設定の最長までで、後から
延びない。

* `written` — 変更が、ある番号の行をどう書くか
* `Requests`・`Drops` — 求めることと、消すこと
* `AdminApproves`・`Withdraws` — 承認することと、取り下げること
* `muted_governed` — 掛かる suppression の由来
-/

namespace CipherPost.Api.Console

open CipherPost.Core CipherPost.Live CipherPost.Proactive

/-! ## 行を書く変更 -/

/-- 番号 `id` の行を、変更がどう書くか。`none` は触れないことである。 -/
def written (id : Nat) : Change → Option (Option SuppressionRow)
  | .addSuppression id' row | .setSuppression id' row =>
    if id' = id then some (some row) else none
  | .dropSuppression id' => if id' = id then some none else none
  | _ => none

/-- 行を書くのは、その行を足すか、書き換える変更である。 -/
theorem of_written {id : Nat} {c : Change} {row : SuppressionRow}
    (h : written id c = some (some row)) :
    c = .addSuppression id row ∨ c = .setSuppression id row := by
  cases c with
  | addSuppression id' row' =>
    by_cases hid : id' = id
    · exact .inl (by simpa [written, hid] using h)
    · simp [written, hid] at h
  | setSuppression id' row' =>
    by_cases hid : id' = id
    · exact .inr (by simpa [written, hid] using h)
    · simp [written, hid] at h
  | dropSuppression id' => by_cases hid : id' = id <;> simp [written, hid] at h
  | _ => cases h

theorem get?_apply_suppressions (s : Console) (id : Nat) (c : Change) :
    (s.apply c).suppressions.get? id = (written id c).getD (s.suppressions.get? id) := by
  cases c with
  | addSuppression id' row | setSuppression id' row =>
    show (s.suppressions.set id' row).get? id = _
    rw [Dict.get?_set, written]
    split <;> rfl
  | dropSuppression id' =>
    show (s.suppressions.erase id').get? id = _
    rw [Dict.get?_erase, written]
    by_cases h : id' = id
    · rw [if_pos h, if_pos h.symm]
      rfl
    · rw [if_neg h, if_neg (Ne.symm h)]
      rfl
  | _ => rfl

theorem logAudit_suppressions (s : Console) (env : Env) (ctx : AuthContext) (note : Note) :
    (s.logAudit env ctx note).suppressions = s.suppressions := by
  unfold logAudit
  split <;> rfl

variable {app : App} {s : Console} {ev : Event} {id : Nat}

theorem get?_step_suppressions {e : Effect} {note : Note} (h : Commits app s ev e note) :
    (step app s ev).suppressions.get? id = (written id e.change).getD (s.suppressions.get? id) := by
  unfold step
  rw [handle_of_commits h, logAudit_suppressions, get?_apply_suppressions]

theorem Commits.unique {e e' : Effect} {note note' : Note} (h : Commits app s ev e note)
    (h' : Commits app s ev e' note') : e = e' :=
  Except.ok.inj (h.1.symm.trans h'.1)

/-! ## 求めることと承認すること -/

/-- 後から変わらない部分。 -/
structure Terms where
  id : Nat
  orgId : String
  ruleId : String
  scope : Fields
  requestedAt : Nat
  expiresAt : Nat

/-- 行の、後から変わらない部分。 -/
def termsOf (row : SuppressionRow) : Terms :=
  ⟨row.id, row.orgId, row.ruleId, row.scope, row.createdAt, row.expiresAt⟩

/-- 番号 `id` の行が、その内容である。 -/
def Holds (id : Nat) (t : Terms) (s : Console) : Prop :=
  ∃ row, s.suppressions.get? id = some row ∧ termsOf row = t

/-- その内容の suppression を、番号 `id` で作る。 -/
def Requests (app : App) (id : Nat) (t : Terms) (s : Console) (ev : Event) : Prop :=
  ∃ e note row, Commits app s ev e note ∧ e.change = .addSuppression id row ∧
    termsOf row = t

/-- 番号 `id` の行を消す。 -/
def Drops (app : App) (id : Nat) (s : Console) (ev : Event) : Prop :=
  ∃ e note, Commits app s ev e note ∧ e.change = .dropSuppression id

/-- 番号 `id` の行が、その org の承認された suppression である。 -/
def Approved (org : String) (row : SuppressionRow) : Prop :=
  row.status = "approved" ∧ row.orgId = org

/-- その org の admin が、番号 `id` の行を承認された suppression として書く。 -/
def AdminApproves (app : App) (id : Nat) (org : String) (s : Console) (ev : Event) : Prop :=
  IsAdmin ev.ctx ∧ ev.ctx.orgId = org ∧
    ∃ e note row, Commits app s ev e note ∧ written id e.change = some (some row) ∧
      Approved org row

/-- 番号 `id` の行を、承認されたものでなくす。 -/
def Withdraws (app : App) (id : Nat) (org : String) (s : Console) (ev : Event) : Prop :=
  ∃ e note o, Commits app s ev e note ∧ written id e.change = some o ∧
    ∀ row, o = some row → ¬Approved org row

theorem Requests.facts {t : Terms} (h : Requests app id t s ev) :
    t.id = id ∧ ev.ctx.orgId = t.orgId ∧ ev.env.now = t.requestedAt ∧
      t.expiresAt ≤ t.requestedAt + 86400000000 * (max 1 app.suppressionMaxDays).toNat := by
  obtain ⟨e, note, row, hc, hchange, rfl⟩ := h
  have hmade := made_of_plan hc.1
  rw [hchange] at hmade
  obtain ⟨hid, hnew⟩ := hmade
  refine ⟨hnew.id.trans hid.symm, hnew.org.symm, hnew.createdAt.symm, ?_⟩
  obtain ⟨days, hpos, hmax, hexpires⟩ := hnew.expires
  show row.expiresAt ≤ row.createdAt + _
  rw [hnew.createdAt]
  omega

/-- 行の内容は、作った時に決まり、消すまで変わらない。 -/
theorem holds_step (t : Terms) :
    Holds id t (step app s ev) ↔ Requests app id t s ev ∨ (Holds id t s ∧ ¬Drops app id s ev) := by
  rcases handle_cases app s ev with ⟨e, note, hc⟩ | ⟨hn, hs⟩
  · have hget : (step app s ev).suppressions.get? id =
        (written id e.change).getD (s.suppressions.get? id) := get?_step_suppressions hc
    have hmade := made_of_plan hc.1
    have hreq : Requests app id t s ev ↔
        ∃ row, e.change = .addSuppression id row ∧ termsOf row = t := by
      constructor
      · rintro ⟨e', note', row, hc', hchange, hrow⟩
        rw [hc'.unique hc] at hchange
        exact ⟨row, hchange, hrow⟩
      · rintro ⟨row, hchange, hrow⟩
        exact ⟨e, note, row, hc, hchange, hrow⟩
    have hdrop : Drops app id s ev ↔ e.change = .dropSuppression id := by
      constructor
      · rintro ⟨e', note', hc', hchange⟩
        rw [hc'.unique hc] at hchange
        exact hchange
      · exact fun hchange => ⟨e, note, hc, hchange⟩
    unfold Holds
    rw [hget, hreq, hdrop]
    cases hchange : e.change with
    | addSuppression id' row =>
      have hfree := hc.2.2.2
      rw [hchange] at hfree
      simp only [written, Change.addSuppression.injEq, reduceCtorEq, not_false_eq_true, and_true]
      by_cases hid : id' = id
      · -- 使われている番号では作れない
        subst hid
        have hnone : s.suppressions.get? id' = none := Option.isNone_iff_eq_none.mp hfree
        simp [hnone]
      · simp [hid]
    | setSuppression id' row =>
      rw [hchange] at hmade
      obtain ⟨-, old, reason, hold, -, hrow, -⟩ := hmade
      simp only [written, reduceCtorEq, false_and, exists_false, false_or, not_false_eq_true,
        and_true]
      by_cases hid : id' = id
      · subst hid
        have hterms : termsOf row = termsOf old := by rw [hrow]; rfl
        simp [hold, hterms]
      · simp [hid]
    | dropSuppression id' =>
      simp only [written, reduceCtorEq, false_and, exists_false, false_or,
        Change.dropSuppression.injEq]
      by_cases hid : id' = id
      · simp [hid]
      · simp [hid]
    | _ => simp [written]
  · rw [hs]
    refine ⟨fun h => .inr ⟨h, ?_⟩, ?_⟩
    · rintro ⟨e, note, hc, -⟩
      exact hn e note hc
    · rintro (⟨e, note, row, hc, -⟩ | ⟨h, -⟩)
      · exact absurd hc (hn e note)
      · exact h

/-- 承認を求める設定では、承認された行を書くのは、その org の admin である。 -/
theorem adminApproves_of_written (happ : app.suppressionRequireApproval = true) {org : String}
    {e : Effect} {note : Note} {row : SuppressionRow} (hc : Commits app s ev e note)
    (hw : written id e.change = some (some row)) (hrow : Approved org row) :
    AdminApproves app id org s ev := by
  have hmade := made_of_plan hc.1
  have hadmin : IsAdmin ev.ctx ∧ row.orgId = ev.ctx.orgId := by
    rcases of_written hw with hchange | hchange
    · rw [hchange] at hmade
      obtain ⟨-, hnew⟩ := hmade
      have hstatus := hnew.status.symm.trans hrow.1
      rw [happ] at hstatus
      by_cases hrole : ev.ctx.role = "admin"
      · exact ⟨hrole, hnew.org⟩
      · simp [hrole] at hstatus
    · rw [hchange] at hmade
      obtain ⟨hadmin, old, reason, -, horg, hrow', -⟩ := hmade
      exact ⟨hadmin, by rw [hrow']; exact horg⟩
  exact ⟨hadmin.1, hadmin.2.symm.trans hrow.2, e, note, row, hc, hw, hrow⟩

/-- 承認された行は、承認で現れ、取り下げで消える。 -/
theorem approved_step (happ : app.suppressionRequireApproval = true) (org : String) :
    (∃ row, (step app s ev).suppressions.get? id = some row ∧ Approved org row) ↔
      AdminApproves app id org s ev ∨
        ((∃ row, s.suppressions.get? id = some row ∧ Approved org row) ∧
          ¬Withdraws app id org s ev) := by
  rcases handle_cases app s ev with ⟨e, note, hc⟩ | ⟨hn, hs⟩
  · rw [get?_step_suppressions hc]
    cases hw : written id e.change with
    | none =>
      rw [Option.getD_none]
      refine ⟨fun h => .inr ⟨h, ?_⟩, ?_⟩
      · rintro ⟨e', note', o, hc', hw', -⟩
        rw [hc'.unique hc, hw] at hw'
        cases hw'
      · rintro (⟨-, -, e', note', row, hc', hw', -⟩ | ⟨h, -⟩)
        · rw [hc'.unique hc, hw] at hw'
          cases hw'
        · exact h
    | some o =>
      rw [Option.getD_some]
      constructor
      · rintro ⟨row, rfl, hrow⟩
        exact .inl (adminApproves_of_written happ hc hw hrow)
      · rintro (⟨-, -, e', note', row, hc', hw', hrow⟩ | ⟨-, hnot⟩)
        · rw [hc'.unique hc, hw] at hw'
          exact ⟨row, Option.some.inj hw', hrow⟩
        · by_contra hno
          exact hnot ⟨e, note, o, hc, hw, fun row ho hrow => hno ⟨row, ho, hrow⟩⟩
  · rw [hs]
    refine ⟨fun h => .inr ⟨h, ?_⟩, ?_⟩
    · rintro ⟨e, note, o, hc, -⟩
      exact hn e note hc
    · rintro (⟨-, -, e, note, row, hc, -⟩ | ⟨h, -⟩)
      · exact absurd hc (hn e note)
      · exact h

/-! ## 掛かる suppression -/

/-- `match_suppression` の返すものは、渡した列のもので、その時に効いている。 -/
theorem of_matchSuppression {lib : MatchLib} {now : Nat} {rule : String}
    {finding : List (String × Json)} {m : Suppression} : ∀ {sups : List Suppression},
    matchSuppression lib now rule finding sups = some (some m) → m ∈ sups ∧ isActive now m = true
  | [], h => by cases h
  | sup :: sups, h => by
    unfold matchSuppression at h
    split at h
    · exact (of_matchSuppression h).imp_left (List.mem_cons_of_mem _)
    · split at h
      · exact (of_matchSuppression h).imp_left (List.mem_cons_of_mem _)
      · next hactive =>
        obtain ⟨hit, -, h⟩ := Option.bind_eq_some_iff.mp h
        split at h
        · rw [← Option.some.inj (Option.some.inj h)]
          exact ⟨List.mem_cons_self, by simpa using hactive⟩
        · exact (of_matchSuppression h).imp_left (List.mem_cons_of_mem _)

theorem exists_of_mem_active {now : Nat} {org : String} {m : Suppression}
    (h : m ∈ activeSuppressions now (.str org) s.suppressionTable) :
    ∃ id row, s.suppressions.get? id = some row ∧ row.toSuppression = m ∧ Approved org row ∧
      now < row.expiresAt := by
  obtain ⟨hmem, hactive⟩ := List.mem_filter.mp h
  obtain ⟨htable, happroved⟩ := List.mem_filter.mp hmem
  obtain ⟨row, hrow, rfl⟩ := List.mem_map.mp htable
  obtain ⟨id, hid⟩ := (Dict.mem_values_iff _ _).mp hrow
  obtain ⟨horg, hstatus⟩ := Bool.and_eq_true_iff.mp happroved
  have horg' : some org = some row.orgId := of_decide_eq_true horg
  refine ⟨id, row, hid, rfl, ⟨of_decide_eq_true hstatus, (Option.some.inj horg').symm⟩, ?_⟩
  exact of_decide_eq_true (Bool.and_eq_true_iff.mp hactive).2

/-- 分析者が、どの rule にも掛かる suppression を求める。 -/
def requested : Event where
  env := { now := 0 }
  ctx := ⟨"user-2", "analyst@org-a", "org-a", "analyst", .jwt⟩
  call := .createSuppression [("rule_id", .str "*"), ("reason", .str "legacy"),
    ("expires_days", .int 3650)]

/-- admin がそれを承認する。 -/
def approved : Event where
  env := { now := 10, suppressionId := 2, auditId := 2 }
  ctx := adminOf "org-a"
  call := .updateSuppression 1 [("status", .str "approved")]

end CipherPost.Api.Console
