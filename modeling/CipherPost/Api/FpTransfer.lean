import Mathlib.Data.List.DropRight
import CipherPost.Api.ConfigCaches

/-!
# fingerprint の一覧の移し替え

`export_fp_lists` の JSON を、そのまま `import_fp_lists` に渡すこと。import は受け付けない一件を黙って飛ばし、値の
前後の空白を落とし、長い text を切る。それでも、管理の口だけで作られた表からの export は一件も失わず、値も順も
変えない。移した先の deny の判定は、両方の deny を合わせたものになる。

三段に分かれる。表にある行はどれも受け付けられる形であること（`stored_of_run`）、そのような行の一件は import で
同じ行になること（`importEntry_entry`）、足した行は番号の順の末尾に並ぶこと（`byId_addAll`）である。

* `export_import` — 移し替えで失われない
* `csv_export` — CSV の export は、同じ五つの列に読み戻せる
-/

namespace CipherPost.Api.Console

open CipherPost.Core CipherPost.Parsing CipherPost.Proactive
open CipherPost.Live hiding strip

/-! ## 番号の順 -/

section Sorting

variable {α : Type} {r : α → α → Prop} [DecidableRel r]

theorem orderedInsert_append (a : α) {rows : List α} (h : ∀ b ∈ rows, r a b) : ∀ l : List α,
    (l ++ rows).orderedInsert r a = l.orderedInsert r a ++ rows
  | [] => by
    cases rows with
    | nil => rfl
    | cons b rows => exact List.orderedInsert_cons_of_le r rows (h b List.mem_cons_self)
  | b :: l => by
    rw [List.cons_append, List.orderedInsert_cons, List.orderedInsert_cons]
    split
    · rfl
    · rw [orderedInsert_append a h l, List.cons_append]

/-- どれよりも後ろの列は、並べ替えても末尾に残る。 -/
theorem insertionSort_append {rows : List α} (hrows : rows.Pairwise r) : ∀ l : List α,
    (∀ a ∈ l, ∀ b ∈ rows, r a b) → (l ++ rows).insertionSort r = l.insertionSort r ++ rows
  | [], _ => List.Pairwise.insertionSort_eq hrows
  | a :: l, h => by
    obtain ⟨ha, hl⟩ := List.forall_mem_cons.mp h
    rw [List.cons_append, List.insertionSort_cons, insertionSort_append hrows l hl,
      orderedInsert_append a ha, List.insertionSort_cons]

end Sorting

/-- 使われていない key の行は、末尾に並ぶ。 -/
theorem entries_set_of_none {α : Type} {d : Dict Nat α} {k : Nat} {v : α} (h : d.get? k = none) :
    (d.set k v).entries = d.entries ++ [(k, v)] := by
  have hlist : ∀ l : List (Nat × α), k ∉ l.map Prod.fst → DictList.set k v l = l ++ [(k, v)] := by
    intro l
    induction l with
    | nil => exact fun _ => rfl
    | cons e l ih =>
      intro hk
      obtain ⟨he, hl⟩ := not_or.mp (List.mem_cons.not.mp hk)
      rw [DictList.set, if_neg (Ne.symm he), ih hl, List.cons_append]
  exact hlist d.entries ((Dict.get?_eq_none_iff d k).mp h)

theorem entries_addAll {α : Type} : ∀ {rows : List (Nat × α)} {d : Dict Nat α},
    (rows.map Prod.fst).Nodup → (∀ r ∈ rows, d.get? r.1 = none) →
    (d.addAll rows).entries = d.entries ++ rows
  | [], _, _, _ => (List.append_nil _).symm
  | r :: rows, d, hnodup, hfree => by
    obtain ⟨hd, hfree⟩ := List.forall_mem_cons.mp hfree
    obtain ⟨hnotin, hnodup⟩ := List.nodup_cons.mp hnodup
    have hnone : ∀ r' ∈ rows, (d.set r.1 r.2).get? r'.1 = none := by
      intro r' hr'
      have hne : r.1 ≠ r'.1 := fun heq => hnotin (heq ▸ List.mem_map_of_mem hr')
      rw [Dict.get?_set_of_ne _ _ hne]
      exact hfree r' hr'
    have ih := entries_addAll hnodup hnone
    rw [show d.addAll (r :: rows) = (d.set r.1 r.2).addAll rows from rfl, ih,
      entries_set_of_none hd, List.append_assoc]
    rfl

/-- 使われているどの番号よりも大きい、昇順の番号の行は、番号の順の末尾に並ぶ。 -/
theorem byId_addAll {α : Type} {rows : List (Nat × α)} {d : Dict Nat α}
    (hsorted : rows.Pairwise fun a b => a.1 < b.1)
    (hlarge : ∀ k v, d.get? k = some v → ∀ r ∈ rows, k < r.1) :
    byId (d.addAll rows) = byId d ++ rows := by
  have hnodup : (rows.map Prod.fst).Nodup :=
    List.pairwise_map.mpr (hsorted.imp fun h => Nat.ne_of_lt h)
  have hfree : ∀ r ∈ rows, d.get? r.1 = none := by
    intro r hr
    by_contra hne
    obtain ⟨v, hv⟩ := Option.ne_none_iff_exists'.mp hne
    exact Nat.lt_irrefl _ (hlarge _ _ hv r hr)
  unfold byId
  rw [entries_addAll hnodup hfree]
  refine insertionSort_append (hsorted.imp fun h => Nat.le_of_lt h) _ fun e he r hr => ?_
  exact Nat.le_of_lt (hlarge e.1 e.2 ((Dict.mem_entries_iff _ _ _).mp he) r hr)

/-! ## 表にある行 -/

/-- 前後に空白の無い文字列は、`strip` しても同じである。 -/
theorem strip_strip (raw : String) : strip (strip raw) = strip raw := by
  have hchars : ∀ l : List Char,
      (((l.dropWhile isSpace).rdropWhile isSpace).dropWhile isSpace).rdropWhile isSpace =
        (l.dropWhile isSpace).rdropWhile isSpace := by
    intro l
    have hfront : ((l.dropWhile isSpace).rdropWhile isSpace).dropWhile isSpace =
        (l.dropWhile isSpace).rdropWhile isSpace := by
      refine List.dropWhile_eq_self_iff.mpr fun hpos => ?_
      -- 残った列の先頭は、前の空白を落とした列の先頭である
      have hsub := List.rdropWhile_prefix (p := isSpace) (l.dropWhile isSpace)
      have hlen : 0 < (l.dropWhile isSpace).length := Nat.lt_of_lt_of_le hpos hsub.length_le
      rw [hsub.getElem hpos]
      exact List.dropWhile_eq_self_iff.mp (List.dropWhile_idempotent isSpace l) hlen
    rw [hfront, List.rdropWhile_idempotent]
  unfold strip
  rw [String.toList_ofList]
  exact congrArg String.ofList (hchars raw.toList)

theorem cut_of_length_le {t : String} {n : Nat} (h : t.length ≤ n) : cut t n = t := by
  unfold cut
  rw [List.take_of_length_le (by rwa [String.length_toList]), String.ofList_toList]

/-- 管理の口が書く行。org は問わない。 -/
def Stored (row : FpRow) : Prop :=
  row.kind ∈ FP_KINDS ∧ row.fpType ∈ FP_TYPES ∧ row.value ≠ "" ∧ row.value.length ≤ 128 ∧
    strip row.value = row.value ∧ row.source.length ≤ 256 ∧ row.comment.length ≤ 2000

theorem ValidFp.stored {ctx : AuthContext} {row : FpRow} (h : ValidFp ctx row) : Stored row := by
  obtain ⟨hne, hlen, raw, hraw⟩ := h.value
  exact ⟨h.kind, h.fpType, hne, hlen, by rw [hraw, strip_strip], h.source, h.comment⟩

variable {app : App} {s : Console} {ev : Event}

theorem stored_step (h : ∀ id row, s.fpLists.get? id = some row → Stored row) :
    ∀ id row, (step app s ev).fpLists.get? id = some row → Stored row := by
  rcases handle_cases app s ev with ⟨e, note, hc⟩ | ⟨-, hs⟩
  · have hmade := made_of_plan hc.1
    have hlists : (step app s ev).fpLists = (s.apply e.change).fpLists := by
      unfold step
      rw [handle_of_commits hc]
      unfold logAudit
      split <;> rfl
    rw [hlists]
    cases hchange : e.change with
    | addFp rows =>
      rw [hchange] at hmade
      intro id row hget
      rcases Dict.get?_addAll_cases hget with hget | hmem
      · exact h id row hget
      · exact (hmade.2 _ hmem).stored
    | dropFp id' =>
      intro id row hget
      have herase : (s.fpLists.erase id').get? id = some row := hget
      rw [Dict.get?_erase] at herase
      split at herase
      · cases herase
      · exact h id row herase
    | _ => exact h
  · rw [hs]
    exact h

/-- 空の表から始めれば、表にあるのは、いつも管理の口が書いた行である。 -/
theorem stored_of_run (app : App) (hinit : s.fpLists = Dict.empty) (evs : List Event) :
    ∀ id row, (Run.exec (step app) s evs).fpLists.get? id = some row → Stored row :=
  Run.invariant (I := fun s : Console => ∀ id row, s.fpLists.get? id = some row → Stored row)
    (fun _ _ h => stored_step h) evs (by rw [hinit]; exact fun _ _ h => nomatch h)

/-! ## 一件の往復 -/

/-- **一件の往復。** 表にある行を export した一件は、移した先の行になる。 -/
theorem importEntry_entry {env : Env} {ctx : AuthContext} {row : FpRow} (h : Stored row) :
    importEntry app env ctx (.obj (exportEntry row)) =
      some { row with orgId := ctx.orgId, createdBy := ctx.email, createdAt := env.now } := by
  obtain ⟨hkind, htype, hne, hlen, hstrip, hsource, hcomment⟩ := h
  have hget : DictList.get? "kind" (exportEntry row) = some (.str row.kind) ∧
      DictList.get? "fp_type" (exportEntry row) = some (.str row.fpType) ∧
      DictList.get? "value" (exportEntry row) = some (.str row.value) ∧
      DictList.get? "source" (exportEntry row) = some (.str row.source) ∧
      DictList.get? "comment" (exportEntry row) = some (.str row.comment) := ⟨rfl, rfl, rfl, rfl, rfl⟩
  obtain ⟨h1, h2, h3, h4, h5⟩ := hget
  unfold importEntry fpRow textField
  dsimp only
  rw [h1, h2, h3, h4, h5]
  simp only [Option.bind_some, Json.str?, Option.filter_some, hkind, htype, decide_true, if_true,
    Option.map_some, Option.getD_some, pyText, hstrip, cut_of_length_le hsource,
    cut_of_length_le hcomment]
  rw [if_neg (by rintro (h | h); exact hne h; omega)]

/-! ## 移し替え -/

/-- org の行を番号の順に並べたもの。 -/
def exported (s : Console) (org : String) : List FpRow :=
  (byId (s.fpLists.owned (·.orgId) org)).map Prod.snd

theorem stored_of_mem_exported (h : ∀ id row, s.fpLists.get? id = some row → Stored row)
    {org : String} {row : FpRow} (hrow : row ∈ exported s org) : Stored row := by
  obtain ⟨e, he, rfl⟩ := List.mem_map.mp hrow
  have hmem : e ∈ (s.fpLists.owned (·.orgId) org).entries :=
    (List.perm_insertionSort _ _).mem_iff.mp he
  have hget := Dict.get?_owned_eq_some.mp ((Dict.mem_entries_iff _ e.1 e.2).mp hmem)
  exact h e.1 e.2 hget.1

/-- 移した先の行。 -/
def adopted (ev : Event) (row : FpRow) : FpRow :=
  { row with orgId := ev.ctx.orgId, createdBy := ev.ctx.email, createdAt := ev.env.now }

theorem importEntries {env : Env} {ctx : AuthContext} {rows : List FpRow}
    (h : ∀ row ∈ rows, Stored row) :
    (rows.map fun r => Json.obj (exportEntry r)).filterMap (importEntry app env ctx) =
      rows.map fun r => { r with orgId := ctx.orgId, createdBy := ctx.email, createdAt := env.now } := by
  rw [List.filterMap_map]
  induction rows with
  | nil => rfl
  | cons row rows ih =>
    obtain ⟨hrow, hrows⟩ := List.forall_mem_cons.mp h
    have hentry : (importEntry app env ctx ∘ fun r => Json.obj (exportEntry r)) row = some
        { row with orgId := ctx.orgId, createdBy := ctx.email, createdAt := env.now } :=
      importEntry_entry hrow
    rw [List.filterMap_cons_some hentry, ih hrows, List.map_cons]

theorem reply_export {format : String} (hp : permits ev.ctx ev.call = true)
    (hcall : ev.call = .exportFpLists format) :
    reply app s ev = .ok (if format = "csv" then
      .csv (Csv.write (FP_COLUMNS.map String.toList :: (exported s ev.ctx.orgId).map exportCells))
    else .fpExport ((exported s ev.ctx.orgId).map exportEntry)) := by
  have hplan : plan app ev.env ev.ctx s ev.call = exportFpLists ev.ctx s format := by
    unfold plan
    rw [if_pos hp, hcall]
    rfl
  unfold reply handle
  rw [hplan]
  unfold exportFpLists
  dsimp only
  by_cases h : format = "csv"
  · rw [if_pos h, if_pos h]
    rfl
  · rw [if_neg h, if_neg h]
    rfl

/-- 応答が誤りでなければ、role は足りている。 -/
theorem permits_of_reply {r : Reply} (h : reply app s ev = .ok r) :
    permits ev.ctx ev.call = true := by
  by_contra hp
  unfold reply handle plan at h
  rw [if_neg hp] at h
  cases h

/-- JSON の export の応答。 -/
theorem of_reply_json {entries : List Fields} (hcall : ev.call = .exportFpLists "json")
    (h : reply app s ev = .ok (.fpExport entries)) :
    entries = (exported s ev.ctx.orgId).map exportEntry := by
  rw [reply_export (permits_of_reply h) hcall, if_neg (by decide)] at h
  exact (Reply.fpExport.inj (Except.ok.inj h)).symm

/-- CSV の export の応答。 -/
theorem of_reply_csv {text : List Char} (hcall : ev.call = .exportFpLists "csv")
    (h : reply app s ev = .ok (.csv text)) :
    text = Csv.write (FP_COLUMNS.map String.toList ::
      (exported s ev.ctx.orgId).map exportCells) := by
  rw [reply_export (permits_of_reply h) hcall, if_pos rfl] at h
  exact (Reply.csv.inj (Except.ok.inj h)).symm

/-- JSON の一件の、CSV の欄。 -/
def entryCells (entry : Fields) : List (List Char) :=
  FP_COLUMNS.map fun k => (((DictList.get? k entry).bind Json.str?).getD "").toList

/--
**CSV の export。** CSV で出した一覧を CSV として読むと、見出しと、JSON で出した一覧の各行がそのままの順で現れる。
値の中のカンマや引用符や改行は、欄も行も崩さない。
-/
theorem csv_export {jsonEv csvEv : Event} {entries : List Fields} {text : List Char}
    (hjson : jsonEv.call = .exportFpLists "json")
    (hentries : reply app s jsonEv = .ok (.fpExport entries))
    (hcsv : csvEv.call = .exportFpLists "csv") (htext : reply app s csvEv = .ok (.csv text))
    (horg : csvEv.ctx.orgId = jsonEv.ctx.orgId) :
    Csv.read text = FP_COLUMNS.map String.toList :: entries.map entryCells := by
  have hcells : entryCells ∘ exportEntry = exportCells := rfl
  rw [of_reply_csv hcsv htext, of_reply_json hjson hentries, Csv.read_write, horg, List.map_map,
    hcells]

/-- 番号の列は、使われているどの番号よりも大きい番号を昇順に渡す。 -/
def Ascending (s : Console) (env : Env) : Prop :=
  StrictMono env.fpId ∧ ∀ id row, s.fpLists.get? id = some row → ∀ i, id < env.fpId i

/-- 足す行とその番号。 -/
def numbered (env : Env) (rows : List FpRow) : List (Nat × FpRow) :=
  ((List.range rows.length).map env.fpId).zip rows

theorem numbered_fst (env : Env) (rows : List FpRow) :
    (numbered env rows).map Prod.fst = (List.range rows.length).map env.fpId :=
  List.map_fst_zip (by simp)

theorem numbered_snd (env : Env) (rows : List FpRow) : (numbered env rows).map Prod.snd = rows :=
  List.map_snd_zip (by simp)

theorem numbered_sorted {env : Env} (h : StrictMono env.fpId) (rows : List FpRow) :
    (numbered env rows).Pairwise fun a b => a.1 < b.1 := by
  have hkeys : ((numbered env rows).map Prod.fst).Pairwise (· < ·) := by
    rw [numbered_fst]
    exact List.pairwise_map.mpr (List.pairwise_lt_range.imp fun hlt => h hlt)
  exact List.pairwise_map.mp hkeys

theorem numbered_large {env : Env} (h : Ascending s env) {rows : List FpRow} {id : Nat} {row : FpRow}
    (hid : s.fpLists.get? id = some row) : ∀ r ∈ numbered env rows, id < r.1 := by
  intro r hr
  have hmem : r.1 ∈ (numbered env rows).map Prod.fst := List.mem_map_of_mem hr
  rw [numbered_fst] at hmem
  obtain ⟨i, -, hi⟩ := List.mem_map.mp hmem
  rw [← hi]
  exact h.2 id row hid i

/-- 足した行は、org の行の末尾に並ぶ。 -/
theorem exported_addFp {env : Env} (h : Ascending s env) {rows : List FpRow} {org : String}
    (horg : ∀ r ∈ rows, r.orgId = org) {t : Console}
    (ht : t.fpLists = s.fpLists.addAll (numbered env rows)) :
    exported t org = exported s org ++ rows := by
  have hsorted := numbered_sorted h.1 rows
  have hown : ∀ r ∈ numbered env rows, r.2.orgId = org := by
    intro r hr
    have hmem : r.2 ∈ (numbered env rows).map Prod.snd := List.mem_map_of_mem hr
    rw [numbered_snd] at hmem
    exact horg r.2 hmem
  have hnodup : ((numbered env rows).map Prod.fst).Nodup :=
    List.pairwise_map.mpr (hsorted.imp fun h => Nat.ne_of_lt h)
  have hfree : ∀ r ∈ numbered env rows, s.fpLists.get? r.1 = none := by
    intro r hr
    by_contra hne
    obtain ⟨v, hv⟩ := Option.ne_none_iff_exists'.mp hne
    exact Nat.lt_irrefl _ (numbered_large h hv r hr)
  have hlarge : ∀ k v, (s.fpLists.owned (·.orgId) org).get? k = some v →
      ∀ r ∈ numbered env rows, k < r.1 :=
    fun k v hv => numbered_large h (Dict.get?_owned_eq_some.mp hv).1
  unfold exported
  rw [ht, Dict.owned_addAll_own FpRow.orgId hown hnodup hfree, byId_addAll hsorted hlarge,
    List.map_append, numbered_snd]

/-- import の呼び出しは、受け付けた行を足す。 -/
theorem commits_import (app : App) {entries : List Json} (hp : permits ev.ctx ev.call = true)
    (hcall : ev.call = .importFpLists [("entries", .arr entries)]) (hlen : entries.length ≤ 1000)
    (hcommits : ev.env.commits = true) (hasc : Ascending s ev.env) :
    ∃ e note, Commits app s ev e note ∧
      e.change = .addFp (numbered ev.env (entries.filterMap (importEntry app ev.env ev.ctx))) ∧
      e.reply = .added (entries.filterMap (importEntry app ev.env ev.ctx)).length := by
  have hplan : plan app ev.env ev.ctx s ev.call =
      .ok { change := .addFp (numbered ev.env (entries.filterMap (importEntry app ev.env ev.ctx)))
            note := some ⟨"fplist.import", "entries",
              [("added", .int (entries.filterMap (importEntry app ev.env ev.ctx)).length)]⟩
            reply := .added (entries.filterMap (importEntry app ev.env ev.ctx)).length } := by
    have hbody : plan app ev.env ev.ctx s ev.call =
        importFpLists app ev.env ev.ctx [("entries", .arr entries)] := by
      unfold plan
      rw [if_pos hp, hcall]
      rfl
    rw [hbody]
    unfold importFpLists
    have hget : DictList.get? "entries" [("entries", Json.arr entries)] = some (.arr entries) := rfl
    rw [hget]
    dsimp only
    rw [if_neg (Nat.not_lt.mpr hlen)]
    rfl
  refine ⟨_, _, ⟨hplan, rfl, hcommits, ?_⟩, rfl, rfl⟩
  have hsorted := numbered_sorted hasc.1 (entries.filterMap (importEntry app ev.env ev.ctx))
  refine Bool.and_eq_true_iff.mpr ⟨decide_eq_true ?_, List.all_eq_true.mpr fun r hr => ?_⟩
  · exact List.pairwise_map.mpr (hsorted.imp fun h => Nat.ne_of_lt h)
  · cases hget : s.fpLists.get? r.1 with
    | none => rfl
    | some v => exact absurd (numbered_large hasc hget r hr) (Nat.lt_irrefl _)

/-! ## deny の判定 -/

theorem denyListHit_congr {d d' : List (String × String)} (h : ∀ p, p ∈ d ↔ p ∈ d')
    (fps : List (String × Option String)) : denyListHit d fps = denyListHit d' fps := by
  unfold denyListHit
  simp only [h]

theorem mem_deniedOf {org : String} {p : String × String} :
    p ∈ deniedOf org s ↔ ∃ row ∈ exported s org, row.kind = "deny" ∧ (row.fpType, row.value) = p := by
  have hperm : (exported s org).Perm (s.fpLists.owned (·.orgId) org).values :=
    (List.perm_insertionSort _ _).map Prod.snd
  unfold deniedOf
  rw [List.mem_map]
  constructor
  · rintro ⟨row, hrow, rfl⟩
    obtain ⟨hmem, hkind⟩ := List.mem_filter.mp hrow
    exact ⟨row, hperm.mem_iff.mpr hmem, of_decide_eq_true hkind, rfl⟩
  · rintro ⟨row, hrow, hkind, rfl⟩
    exact ⟨row, List.mem_filter.mpr ⟨hperm.mem_iff.mp hrow, decide_eq_true hkind⟩, rfl⟩

/--
**移し替えで失われない。** 空から始まるどの呼び出しの列の後でも、ある org の export をそのまま import すれば、一件も
飛ばされず、移した先の export は前からのものの後に同じ一件が同じ順に並ぶ。移した先の deny の判定は、どの fingerprint
についても、両方の deny を合わせたものになる。
-/
theorem export_import (hinit : s.fpLists = Dict.empty) (evs : List Event) {entries : List Fields}
    {before : List Fields} {fromEv toEv intoEv : Event}
    (hfrom : fromEv.call = .exportFpLists "json")
    (hentries : reply app (Run.exec (step app) s evs) fromEv = .ok (.fpExport entries))
    (hto : toEv.call = .exportFpLists "json")
    (hbefore : reply app (Run.exec (step app) s evs) toEv = .ok (.fpExport before))
    (hinto : intoEv.call = .importFpLists [("entries", .arr (entries.map .obj))])
    (hctx : intoEv.ctx = toEv.ctx) (hcommits : intoEv.env.commits = true)
    (hlen : entries.length ≤ 1000) (hasc : Ascending (Run.exec (step app) s evs) intoEv.env) :
    reply app (Run.exec (step app) s evs) intoEv = .ok (.added entries.length) ∧
      reply app (step app (Run.exec (step app) s evs) intoEv) toEv =
        .ok (.fpExport (before ++ entries)) ∧
      ∀ fps, denyListHit (deniedOf toEv.ctx.orgId (step app (Run.exec (step app) s evs) intoEv)) fps =
        denyListHit (deniedOf toEv.ctx.orgId (Run.exec (step app) s evs) ++
          deniedOf fromEv.ctx.orgId (Run.exec (step app) s evs)) fps := by
  have hstored := stored_of_run app hinit evs
  generalize Run.exec (step app) s evs = t at *
  have hpTo := permits_of_reply hbefore
  obtain rfl := of_reply_json hfrom hentries
  obtain rfl := of_reply_json hto hbefore
  have hpInto : permits intoEv.ctx intoEv.call = true := by
    rw [hctx, hinto]
    rw [hto] at hpTo
    exact hpTo
  have hrows : ∀ row ∈ exported t fromEv.ctx.orgId, Stored row :=
    fun row hrow => stored_of_mem_exported hstored hrow
  have hjson : ((exported t fromEv.ctx.orgId).map exportEntry).map Json.obj =
      (exported t fromEv.ctx.orgId).map fun r => Json.obj (exportEntry r) := List.map_map
  have hadopt : (((exported t fromEv.ctx.orgId).map exportEntry).map Json.obj).filterMap
      (importEntry app intoEv.env intoEv.ctx) = (exported t fromEv.ctx.orgId).map (adopted intoEv) := by
    rw [hjson, importEntries hrows]
    rfl
  have hlenJson : (((exported t fromEv.ctx.orgId).map exportEntry).map Json.obj).length ≤ 1000 := by
    rwa [List.length_map]
  obtain ⟨e, note, hc, hchange, hreply⟩ := 
    commits_import app hpInto hinto hlenJson hcommits hasc
  rw [hadopt] at hchange hreply
  have hlists : (step app t intoEv).fpLists = t.fpLists.addAll
      (numbered intoEv.env ((exported t fromEv.ctx.orgId).map (adopted intoEv))) := by
    unfold step
    rw [handle_of_commits hc, hchange]
    unfold logAudit
    split <;> rfl
  have hafter : exported (step app t intoEv) toEv.ctx.orgId =
      exported t toEv.ctx.orgId ++ (exported t fromEv.ctx.orgId).map (adopted intoEv) := by
    refine exported_addFp hasc (fun r hr => ?_) hlists
    obtain ⟨row, -, rfl⟩ := List.mem_map.mp hr
    exact congrArg AuthContext.orgId hctx
  refine ⟨?_, ?_, fun fps => denyListHit_congr (fun p => ?_) fps⟩
  · unfold reply
    rw [handle_of_commits hc, hreply, List.length_map, List.length_map]
  · rw [reply_export (by rw [hto]; rw [hto] at hpTo; exact hpTo) hto, if_neg (by decide), hafter,
      List.map_append, List.map_map]
    rfl
  · rw [List.mem_append, mem_deniedOf, mem_deniedOf, mem_deniedOf, hafter]
    constructor
    · rintro ⟨row, hrow, hkind, hp⟩
      rcases List.mem_append.mp hrow with hrow | hrow
      · exact .inl ⟨row, hrow, hkind, hp⟩
      · obtain ⟨row', hrow', rfl⟩ := List.mem_map.mp hrow
        exact .inr ⟨row', hrow', hkind, hp⟩
    · rintro (⟨row, hrow, hkind, hp⟩ | ⟨row, hrow, hkind, hp⟩)
      · exact ⟨row, List.mem_append_left _ hrow, hkind, hp⟩
      · exact ⟨adopted intoEv row, List.mem_append_right _ (List.mem_map_of_mem hrow), hkind, hp⟩

/-! ## 例 -/

/-- ある org の者が deny の fingerprint を足す。 -/
def denies : Event where
  env := { now := 0 }
  ctx := adminOf "org-a"
  call := .createFpList [("kind", .str "deny"), ("fp_type", .str "ja4"), ("value", .str " t13d1516h2 ")]

/-- ある org の export。 -/
def exports (org : String) : Event := ⟨{ now := 1 }, adminOf org, .exportFpLists "json"⟩

/-- 足された一件。 -/
def deniedEntry : Fields :=
  [("kind", .str "deny"), ("fp_type", .str "ja4"), ("value", .str "t13d1516h2"),
   ("source", .str ""), ("comment", .str "")]

/-- ほかの org での import。 -/
def imports : Event where
  env := { now := 2, fpId := fun i => i + 2 }
  ctx := adminOf "org-b"
  call := .importFpLists [("entries", .arr ([deniedEntry].map .obj))]

/-- 移した先でも、同じ fingerprint が deny に当たる。 -/
theorem export_import_denied :
    reply plainApp (Run.exec (step plainApp) {} [denies]) imports = .ok (.added 1) ∧
      denyListHit (deniedOf "org-b" (step plainApp (Run.exec (step plainApp) {} [denies]) imports))
        [("ja4", some "t13d1516h2")] = some "ja4:t13d1516h2" := by
  have hasc : Ascending (Run.exec (step plainApp) {} [denies]) imports.env := by
    refine ⟨fun i j h => Nat.add_lt_add_right h 2, fun id row hget i => ?_⟩
    have hlists : (Run.exec (step plainApp) {} [denies]).fpLists.get? id =
        if 1 = id then some ⟨"org-a", "deny", "ja4", "t13d1516h2", "", "", "admin@org-a", 0⟩
        else none := rfl
    rw [hlists] at hget
    split at hget
    · next h => subst h; exact Nat.lt_add_left i (by decide)
    · cases hget
  have hfrom : (exports "org-a").call = .exportFpLists "json" := rfl
  have hentries : reply plainApp (Run.exec (step plainApp) {} [denies]) (exports "org-a") =
      .ok (.fpExport [deniedEntry]) := rfl
  have hto : (exports "org-b").call = .exportFpLists "json" := rfl
  have hbefore : reply plainApp (Run.exec (step plainApp) {} [denies]) (exports "org-b") =
      .ok (.fpExport []) := rfl
  have hinto : imports.call = .importFpLists [("entries", .arr ([deniedEntry].map .obj))] := rfl
  have hctx : imports.ctx = (exports "org-b").ctx := rfl
  have h := export_import rfl [denies] hfrom hentries hto hbefore hinto hctx rfl (by decide) hasc
  exact ⟨h.1, (h.2.2 _).trans rfl⟩

/-- ある org の者が、CSV の記号を含む deny の値を足す。 -/
def deniesQuoted : Event where
  env := { now := 0 }
  ctx := adminOf "org-a"
  call := .createFpList [("kind", .str "deny"), ("fp_type", .str "ja3"),
    ("value", .str "a,\"b"), ("comment", .str "x\ny")]

/-- その org の CSV の export。 -/
def exportsCsv : Event := ⟨{ now := 1 }, adminOf "org-a", .exportFpLists "csv"⟩

/-- 値の中の記号は、CSV の欄を崩さない。 -/
theorem csv_export_quoted :
    ∃ text, reply plainApp (Run.exec (step plainApp) {} [deniesQuoted]) exportsCsv =
        .ok (.csv text) ∧
      Csv.read text = [["kind", "fp_type", "value", "source", "comment"].map String.toList,
        ["deny", "ja3", "a,\"b", "", "x\ny"].map String.toList] := by
  have hjson : (exports "org-a").call = .exportFpLists "json" := rfl
  have hcsv : exportsCsv.call = .exportFpLists "csv" := rfl
  let s := Run.exec (step plainApp) {} [deniesQuoted]
  have hentries : reply plainApp s (exports "org-a") =
      .ok (.fpExport ((exported s "org-a").map exportEntry)) := rfl
  exact ⟨_, rfl, csv_export hjson hentries hcsv rfl rfl⟩

end CipherPost.Api.Console
