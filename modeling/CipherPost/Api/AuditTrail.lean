import CipherPost.Api.FpTransfer

/-!
# audit の記録

管理の口は、変更を commit した後に audit を一行書く。書けなくても要求は失敗しない。`list_audit` は、org の行を新しい順に
見せる。

二つのことをいう。

* **過不足の無さ**。audit に並ぶのは、commit された変更のうち audit の書けたものだけで、一つに一行ずつ、起きた順に
  並ぶ。拒まれた呼び出しと、読むだけの呼び出しは何も残さない（`audit_trail`）。
* **秘密**。channel の設定のうち、名に `url` か `token` を含む項目の値は、audit のどこにも現れない。値を伏せた呼び出しの
  列と、同じ記録になる（`journal_masked`）。
-/

namespace CipherPost.Api.Console

open CipherPost.Core CipherPost.Live CipherPost.Proactive

/-! ## 呼び出しの記録 -/

/-- 呼び出しが audit に残す行。変更を commit しないか、audit が書けなければ無い。 -/
def audited (app : App) (s : Console) (ev : Event) : Option AuditRow :=
  match plan app ev.env ev.ctx s ev.call with
  | .error _ => none
  | .ok e =>
    e.note.bind fun note =>
      if ev.env.commits && s.keysFree e.change && ev.env.auditWritten then
        some ⟨ev.ctx.orgId, ev.ctx.email, note.action, note.resource, note.detail, ev.env.now⟩
      else none

/-- 呼び出しの列の残す記録。 -/
def journal (app : App) : Console → List Event → List AuditRow
  | _, [] => []
  | s, ev :: evs => (audited app s ev).toList ++ journal app (step app s ev) evs

/-- audit の番号は、使われているどの番号よりも大きい。 -/
def Numbers (s : Console) (ev : Event) : Prop :=
  ∀ id row, s.audit.get? id = some row → id < ev.env.auditId

variable {app : App} {s : Console} {ev : Event}

/-- 記録が残るのは、変更を commit して、audit が書けたときである。 -/
theorem audited_eq_some_iff {row : AuditRow} :
    audited app s ev = some row ↔ ∃ e note, Commits app s ev e note ∧ ev.env.auditWritten = true ∧
      row = ⟨ev.ctx.orgId, ev.ctx.email, note.action, note.resource, note.detail, ev.env.now⟩ := by
  unfold audited Commits
  constructor
  · intro h
    split at h
    · cases h
    · next e hplan =>
      obtain ⟨note, hnote, h⟩ := Option.bind_eq_some_iff.mp h
      split at h
      · next hok =>
        obtain ⟨⟨hcommits, hfree⟩, hwritten⟩ := by simpa only [Bool.and_eq_true] using hok
        exact ⟨e, note, ⟨hplan, hnote, hcommits, hfree⟩, hwritten, (Option.some.inj h).symm⟩
      · cases h
  · rintro ⟨e, note, ⟨hplan, hnote, hcommits, hfree⟩, hwritten, rfl⟩
    simp only [hplan, hnote, hcommits, hfree, hwritten, Option.bind_some, Bool.and_self, if_true]

theorem audit_step (hnum : Numbers s ev) : (step app s ev).audit =
    match audited app s ev with
    | some row => s.audit.set ev.env.auditId row
    | none => s.audit := by
  have hnone : s.audit.get? ev.env.auditId = none := by
    by_contra hne
    obtain ⟨row, hrow⟩ := Option.ne_none_iff_exists'.mp hne
    exact Nat.lt_irrefl _ (hnum _ row hrow)
  rcases handle_cases app s ev with ⟨e, note, hc⟩ | ⟨hn, hs⟩
  · have hkeep : (s.apply e.change).audit = s.audit := by cases e.change <;> rfl
    cases haudited : audited app s ev with
    | some row =>
      obtain ⟨e', note', hc', hwritten, rfl⟩ := audited_eq_some_iff.mp haudited
      unfold step
      rw [handle_of_commits hc']
      have hkeep' : (s.apply e'.change).audit = s.audit := by cases e'.change <;> rfl
      unfold logAudit
      rw [if_pos (by rw [hwritten, hkeep', hnone]; rfl)]
      exact congrArg (fun d : Dict Nat AuditRow => d.set ev.env.auditId _) hkeep'
    | none =>
      have hnot : ev.env.auditWritten ≠ true := fun hwritten => by
        rw [audited_eq_some_iff.mpr ⟨e, note, hc, hwritten, rfl⟩] at haudited
        cases haudited
      unfold step
      rw [handle_of_commits hc]
      unfold logAudit
      rw [if_neg (fun h => hnot (Bool.and_eq_true_iff.mp h).1)]
      exact hkeep
  · have haudited : audited app s ev = none := by
      by_contra hne
      obtain ⟨row, hrow⟩ := Option.ne_none_iff_exists'.mp hne
      obtain ⟨e, note, hc, -⟩ := audited_eq_some_iff.mp hrow
      exact hn e note hc
    rw [haudited, hs]

/-! ## 見せる行 -/

/-- 条件に合う行を番号の順に並べたもの。 -/
def shown (p : AuditRow → Bool) (s : Console) : List AuditRow :=
  (byId (s.audit.filter fun _ r => p r)).map Prod.snd

/-- 一回の呼び出しは、その記録を末尾に足す。 -/
theorem shown_step (p : AuditRow → Bool) (hnum : Numbers s ev) :
    shown p (step app s ev) = shown p s ++ ((audited app s ev).toList).filter p := by
  unfold shown
  rw [audit_step hnum]
  cases audited app s ev with
  | none => exact (List.append_nil _).symm
  | some row =>
    have hfree : ∀ w, s.audit.get? ev.env.auditId = some w → False :=
      fun w hw => Nat.lt_irrefl _ (hnum _ w hw)
    dsimp only
    cases hp : p row with
    | false =>
      rw [Dict.filter_set_of_false hp fun w hw => (hfree w hw).elim, Option.toList_some,
        List.filter_singleton, hp]
      exact (List.append_nil _).symm
    | true =>
      have hlarge : ∀ k v, (s.audit.filter fun _ r => p r).get? k = some v →
          ∀ r ∈ [(ev.env.auditId, row)], k < r.1 := by
        intro k v hk r hr
        rw [List.mem_singleton.mp hr]
        rw [Dict.get?_filter, Option.filter_eq_some_iff] at hk
        exact hnum k v hk.1
      have hlast := byId_addAll (List.pairwise_singleton _ _) hlarge
      have hset : ((s.audit.filter fun _ r => p r).addAll [(ev.env.auditId, row)]) =
          (s.audit.filter fun _ r => p r).set ev.env.auditId row := rfl
      rw [Dict.filter_set_of_true hp fun w hw => (hfree w hw).elim, ← hset, hlast, List.map_append,
        Option.toList_some, List.filter_singleton, hp]
      rfl

/-- 記録の列が、そのまま並ぶ。 -/
theorem shown_exec (p : AuditRow → Bool) : ∀ {evs : List Event} {s : Console},
    Run.Along (step app) Numbers s evs →
    shown p (Run.exec (step app) s evs) = shown p s ++ (journal app s evs).filter p := by
  intro evs
  induction evs with
  | nil => exact fun _ => (List.append_nil _).symm
  | cons ev evs ih =>
    intro s h
    obtain ⟨hev, hevs⟩ := Run.along_cons.mp h
    rw [Run.exec_cons, ih hevs, shown_step p hev, journal, List.filter_append, List.append_assoc]

/-- `list_audit` の見せる行の条件。空の `action` は、条件が無いことである。 -/
def shows (org : String) (action : Option String) (row : AuditRow) : Bool :=
  decide (row.orgId = org) && (action.filter (· ≠ "")).all fun a => decide (row.action = a)

/-- `list_audit` の二つの絞り込みは、一つの条件である。 -/
theorem listAudit_eq {ctx : AuthContext} {limit : Nat} {action : Option String}
    (hrole : ctx.role = "admin" ∨ ctx.role = "auditor") :
    listAudit ctx s limit action = answer (.audit ((byId (s.audit.filter fun _ r =>
      shows ctx.orgId action r)).reverse.take limit)) := by
  have hpass : ¬(ctx.role ≠ "admin" ∧ ctx.role ≠ "auditor") := by tauto
  unfold listAudit
  rw [if_neg hpass]
  dsimp only
  refine congrArg (fun d : Dict Nat AuditRow => answer (.audit ((byId d).reverse.take limit)))
    (Dict.ext ?_)
  unfold shows
  split
  · next a ha =>
    rw [ha]
    show (s.audit.entries.filter _).filter _ = s.audit.entries.filter _
    rw [List.filter_filter]
    exact List.filter_congr fun e _ => Bool.and_comm _ _
  · next ha =>
    rw [ha]
    show s.audit.entries.filter _ = s.audit.entries.filter _
    exact List.filter_congr fun e _ => (Bool.and_true _).symm

theorem reply_listAudit {limit : Nat} {action : Option String}
    (hcall : ev.call = .listAudit limit action)
    (hrole : ev.ctx.role = "admin" ∨ ev.ctx.role = "auditor") :
    reply app s ev = .ok (.audit ((byId (s.audit.filter fun _ r =>
      shows ev.ctx.orgId action r)).reverse.take limit)) := by
  have hplan : plan app ev.env ev.ctx s ev.call = listAudit ev.ctx s limit action := by
    rw [hcall]
    rfl
  unfold reply handle
  rw [hplan, listAudit_eq hrole]
  rfl

/--
**audit の過不足の無さ。** どの呼び出しの列の後でも、`list_audit` の見せる行は、その org の commit された変更の記録の
うち条件に合うものを、新しい順に `limit` 件まで並べたものである。
-/
theorem audit_trail {evs : List Event} {limit : Nat} {action : Option String} {lister : Event}
    (hinit : s.audit = Dict.empty) (hnum : Run.Along (step app) Numbers s evs)
    (hcall : lister.call = .listAudit limit action)
    (hrole : lister.ctx.role = "admin" ∨ lister.ctx.role = "auditor") :
    ∃ rows, reply app (Run.exec (step app) s evs) lister = .ok (.audit rows) ∧
      rows.map Prod.snd =
        ((journal app s evs).filter (shows lister.ctx.orgId action)).reverse.take limit := by
  refine ⟨_, reply_listAudit hcall hrole, ?_⟩
  have hempty : shown (shows lister.ctx.orgId action) s = [] := by
    unfold shown
    rw [hinit]
    rfl
  have hall := shown_exec (shows lister.ctx.orgId action) hnum
  rw [hempty, List.nil_append] at hall
  rw [List.map_take, List.map_reverse, ← hall]
  rfl

/-! ## 秘密 -/

/-- 名に `url` か `token` を含む項目の値を伏せた設定。 -/
def mask (cfg : Fields) : Fields :=
  cfg.map fun f => if isIn "url" f.1 || isIn "token" f.1 then (f.1, .str "***") else f

/-- 値を伏せた呼び出し。 -/
def Event.masked (ev : Event) : Event :=
  match ev.call with
  | .setAlertConfig cfg => { ev with call := .setAlertConfig (mask cfg) }
  | _ => ev

theorem mask_mask (cfg : Fields) : mask (mask cfg) = mask cfg := by
  unfold mask
  rw [List.map_map]
  refine List.map_congr_left fun f _ => ?_
  by_cases h : (isIn "url" f.1 || isIn "token" f.1) = true
  · simp only [Function.comp_apply, if_pos h]
  · simp only [Function.comp_apply, if_neg h]

/-- channel の設定だけを替えた状態。 -/
def withChannels (s : Console) (cfg : Option Fields) : Console := { s with channels := cfg }

/-- channel の設定を読む口のほかは、設定によらない。 -/
theorem body_withChannels {env : Env} {ctx : AuthContext} (cfg : Option Fields) {call : Call}
    (hcall : call ≠ .getAlertConfig) :
    body app env ctx (s.withChannels cfg) call = body app env ctx s call := by
  cases call with
  | getAlertConfig => exact absurd rfl hcall
  | _ => rfl

theorem keysFree_withChannels (cfg : Option Fields) (c : Change) :
    (s.withChannels cfg).keysFree c = s.keysFree c := by
  cases c <;> rfl

/-- 変更を加えることは、設定のほかでは設定によらない。 -/
theorem apply_withChannels (cfg : Option Fields) (c : Change) :
    ∃ cfg', (s.withChannels cfg).apply c = (s.apply c).withChannels cfg' := by
  cases c with
  | setChannels cfg' => exact ⟨some cfg', rfl⟩
  | _ => exact ⟨cfg, rfl⟩

theorem logAudit_withChannels (cfg : Option Fields) (env : Env) (ctx : AuthContext) (note : Note) :
    (s.withChannels cfg).logAudit env ctx note = (s.logAudit env ctx note).withChannels cfg := by
  unfold logAudit
  by_cases h : (env.auditWritten && (s.audit.get? env.auditId).isNone) = true
  · rw [if_pos h, if_pos (show (env.auditWritten &&
      ((s.withChannels cfg).audit.get? env.auditId).isNone) = true from h)]
    rfl
  · rw [if_neg h, if_neg (show ¬(env.auditWritten &&
      ((s.withChannels cfg).audit.get? env.auditId).isNone) = true from h)]

/-- 同じことを決めた口は、同じ記録を残し、設定のほかを同じように変える。 -/
theorem settle_withChannels (cfg : Option Fields) {e e' : Effect} (hnote : e'.note = e.note)
    (hfree : (s.withChannels cfg).keysFree e'.change = s.keysFree e.change)
    (happly : ∃ cfg', (s.withChannels cfg).apply e'.change = (s.apply e.change).withChannels cfg') :
    ∃ cfg', ((s.withChannels cfg).settle ev e').1 = (s.settle ev e).1.withChannels cfg' := by
  unfold settle
  rw [hnote, hfree]
  cases e.note with
  | none => exact ⟨cfg, rfl⟩
  | some note =>
    dsimp only
    split
    · obtain ⟨cfg', happly⟩ := happly
      exact ⟨cfg', by rw [happly, logAudit_withChannels]⟩
    · exact ⟨cfg, rfl⟩

/-- 口の決めることは、記録と、設定のほかの変更については、伏せた値にも前の設定にもよらない。 -/
theorem plan_masked (cfg : Option Fields) :
    (∃ err, plan app ev.env ev.ctx s ev.call = .error err ∧
      plan app ev.env ev.ctx (s.withChannels cfg) ev.masked.call = .error err) ∨
    ∃ e e', plan app ev.env ev.ctx s ev.call = .ok e ∧
      plan app ev.env ev.ctx (s.withChannels cfg) ev.masked.call = .ok e' ∧ e'.note = e.note ∧
      (s.withChannels cfg).keysFree e'.change = s.keysFree e.change ∧
      ∃ cfg', (s.withChannels cfg).apply e'.change = (s.apply e.change).withChannels cfg' := by
  have hrole : ev.masked.call.role = ev.call.role := by
    unfold Event.masked
    split
    · next hcall => rw [hcall]; rfl
    · rfl
  have hperm : permits ev.ctx ev.masked.call = permits ev.ctx ev.call := by
    unfold permits
    rw [hrole]
  unfold plan
  rw [hperm]
  by_cases hp : permits ev.ctx ev.call = true
  · rw [if_pos hp, if_pos hp]
    unfold Event.masked
    split
    · next new hcall =>
      refine .inr ⟨_, _, by rw [hcall]; rfl, rfl, ?_, rfl, some (mask new), rfl⟩
      show some (Note.mk _ _ (mask (mask new))) = some (Note.mk _ _ (mask new))
      rw [mask_mask]
    · by_cases hget : ev.call = .getAlertConfig
      · rw [hget]
        exact .inr ⟨_, _, rfl, rfl, rfl, rfl, cfg, rfl⟩
      · rw [body_withChannels cfg hget]
        cases hbody : body app ev.env ev.ctx s ev.call with
        | error err => exact .inl ⟨err, rfl, rfl⟩
        | ok e =>
          exact .inr ⟨e, e, rfl, rfl, rfl, keysFree_withChannels cfg _, apply_withChannels cfg _⟩
  · rw [if_neg hp, if_neg hp]
    exact .inl ⟨_, rfl, rfl⟩

/-- 一回の呼び出しの記録と、設定のほかの状態は、伏せた値にも前の設定にもよらない。 -/
theorem masked_step (cfg : Option Fields) :
    audited app (s.withChannels cfg) ev.masked = audited app s ev ∧
      ∃ cfg', step app (s.withChannels cfg) ev.masked = (step app s ev).withChannels cfg' := by
  have henv : ev.masked.env = ev.env ∧ ev.masked.ctx = ev.ctx := by
    unfold Event.masked
    split <;> exact ⟨rfl, rfl⟩
  have hsettle : ∀ (t : Console) (e : Effect), t.settle ev.masked e = t.settle ev e := by
    intro t e
    unfold settle
    rw [henv.1, henv.2]
  unfold step handle audited
  rw [henv.1, henv.2]
  rcases plan_masked cfg with
    ⟨err, hplan, hplan'⟩ | ⟨e, e', hplan, hplan', hnote, hfree, happly⟩
  · rw [hplan, hplan']
    exact ⟨rfl, cfg, rfl⟩
  · rw [hplan, hplan']
    dsimp only
    rw [hnote, hfree, hsettle]
    exact ⟨rfl, settle_withChannels cfg hnote hfree happly⟩

/--
**伏せられた値。** channel の設定の、名に `url` か `token` を含む項目の値は、記録に現れない。それらの値を伏せた呼び出しの
列も、同じ記録を残す。
-/
theorem journal_masked (app : App) (s : Console) (evs : List Event) :
    journal app s (evs.map Event.masked) = journal app s evs := by
  have hrun : ∀ (evs : List Event) (s : Console) (cfg : Option Fields),
      journal app (s.withChannels cfg) (evs.map Event.masked) = journal app s evs := by
    intro evs
    induction evs with
    | nil => exact fun _ _ => rfl
    | cons ev evs ih =>
      intro s cfg
      obtain ⟨haudited, cfg', hnext⟩ := masked_step cfg
      rw [List.map_cons, journal, journal, haudited, hnext, ih]
  exact hrun evs s s.channels

/-! ## 例 -/

/-- ある org の admin が audit を見る。 -/
def listsAudit (org : String) (limit : Nat) (action : Option String) : Event where
  env := { now := 9, auditId := 9 }
  ctx := adminOf org
  call := .listAudit limit action

/-- 番号が大きいことは、今ある行について確かめればよい。 -/
theorem numbers_of_entries (h : ∀ e ∈ s.audit.entries, e.1 < ev.env.auditId) : Numbers s ev :=
  fun id row hget => h (id, row) ((Dict.mem_entries_iff _ _ _).mpr hget)

/-- 二つの org の呼び出し。三つ目は audit が書けず、四つ目は別の org のものである。 -/
def busyCalls : List Event :=
  [denies,
    { denies with env := { now := 2, fpId := (· + 2), auditId := 2 }
                  call := .createFpList [("kind", .str "allow"), ("fp_type", .str "ja3"),
                    ("value", .str "e7d7")] },
    { denies with env := { now := 3, fpId := (· + 3), auditId := 3, auditWritten := false }
                  call := .deleteFpList 1 },
    creates "org-b" 4,
    { creates "org-a" 5 with env := { now := 5, suppressionId := 5, auditId := 5 } }]

/-- 自分の org の記録が、新しい順に、条件と件数に合わせて見える。 -/
theorem audit_trail_listed :
    (∃ rows, reply plainApp (Run.exec (step plainApp) {} busyCalls) (listsAudit "org-a" 2 none) =
        .ok (.audit rows) ∧
      rows.map (fun r => (r.2.action, r.2.resource)) =
        [("suppression.create", "weak-cipher-suite"), ("fplist.create", "e7d7")]) ∧
    ∃ rows, reply plainApp (Run.exec (step plainApp) {} busyCalls)
        (listsAudit "org-a" 100 (some "fplist.create")) = .ok (.audit rows) ∧
      rows.map (fun r => (r.2.action, r.2.resource)) =
        [("fplist.create", "e7d7"), ("fplist.create", "t13d1516h2")] := by
  have hnum : Run.Along (step plainApp) Numbers {} busyCalls :=
    ⟨numbers_of_entries (by decide), numbers_of_entries (by decide), numbers_of_entries (by decide),
      numbers_of_entries (by decide), numbers_of_entries (by decide), trivial⟩
  constructor
  · obtain ⟨rows, hreply, hrows⟩ := audit_trail rfl hnum
      (show (listsAudit "org-a" 2 none).call = _ from rfl) (.inl rfl)
    refine ⟨rows, hreply, ?_⟩
    rw [show (fun r : Nat × AuditRow => (r.2.action, r.2.resource)) =
      (fun r : AuditRow => (r.action, r.resource)) ∘ Prod.snd from rfl, ← List.map_map, hrows]
    decide
  · obtain ⟨rows, hreply, hrows⟩ := audit_trail rfl hnum
      (show (listsAudit "org-a" 100 (some "fplist.create")).call = _ from rfl) (.inl rfl)
    refine ⟨rows, hreply, ?_⟩
    rw [show (fun r : Nat × AuditRow => (r.2.action, r.2.resource)) =
      (fun r : AuditRow => (r.action, r.resource)) ∘ Prod.snd from rfl, ← List.map_map, hrows]
    decide

end CipherPost.Api.Console
