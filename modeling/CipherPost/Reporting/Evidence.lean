import CipherPost.Infra.Dict
import CipherPost.Infra.HashChain
import CipherPost.Infra.JsonText

/-!
# evidence bundle

`app/reporting/evidence.py`。record を hash の鎖につなぎ、件数を manifest に書く。SHA-256 は text から
16 進 64 桁への関数として受け取り、鎖の比較では実際に hash した text の間に衝突が無いことだけを仮定する。

* `recordHash` — `_record_hash`
* `buildBundle`・`verifyBundle` — `build_bundle`・`verify_bundle`
* `Bundle.Agree` — record と件数の一致
* `bundles_agree_iff` — 同じ root hash の bundle が一致するための条件
-/

namespace CipherPost.Reporting

open JsonText

/-! ## hash -/

/-- `hexdigest()` の返す文字列。 -/
structure HexDigest where
  text : List Char
  length_text : text.length = 64
  hex : ∀ c ∈ text, c ∈ "0123456789abcdef".toList

theorem HexDigest.ext {x y : HexDigest} (h : x.text = y.text) : x = y := by
  cases x; cases y; cases h; rfl

/-- 鎖の始まり。 -/
def genesis : List Char := "GENESIS".toList

theorem HexDigest.text_ne_genesis (x : HexDigest) : x.text ≠ genesis := by
  intro h
  have hlen := x.length_text
  rw [h] at hlen
  exact absurd hlen (by decide)

/-- `records` の要素。 -/
structure Rec where
  seq : Int
  rtype : String
  body : Value
  prev : List Char
  hash : List Char

/-- 前の hash に続けて hash する text。境目に区切りは無い。 -/
def payload (seq : Int) (rtype : String) (body : Value) : List Char :=
  (toString seq).toList ++ (rtype.toList ++ body.dumps)

def Rec.payload (r : Rec) : List Char := Reporting.payload r.seq r.rtype r.body

section Hash

variable (sha256 : List Char → HexDigest)

/-- 前の hash と中身の hash。 -/
def chainHash (prev text : List Char) : List Char := (sha256 (prev ++ text)).text

/-- `_record_hash`。 -/
def recordHash (prev : List Char) (seq : Int) (rtype : String) (body : Value) : List Char :=
  chainHash sha256 prev (payload seq rtype body)

/-! ## bundle -/

/-- manifest の件数。 -/
structure Counts where
  recordCount : Int
  suppressionCount : Int
  observed : Int
  unobservable : Int
  deriving Repr, DecidableEq

structure Manifest where
  counts : Counts
  rootHash : List Char
  versions : Value
  retention : Value

structure Bundle where
  manifest : Manifest
  records : List Rec

/-- `build_bundle` が record を足していく間の値。 -/
structure Builder where
  records : List Rec := []
  prev : List Char := genesis
  seq : Int := 0

/-- `_append`。 -/
def Builder.append (b : Builder) (item : String × Value) : Builder :=
  let recHash := recordHash sha256 b.prev b.seq item.1 item.2
  { records := b.records ++ [⟨b.seq, item.1, item.2, b.prev, recHash⟩]
    prev := recHash
    seq := b.seq + 1 }

/-- `bool(v)`。 -/
def truthy : Value → Bool
  | .scalar .null => false
  | .scalar (.bool b) => b
  | .scalar (.int n) => decide (n ≠ 0)
  | .scalar (.float x) => decide (x.text ≠ "0.0".toList) && decide (x.text ≠ "-0.0".toList)
  | .str s => decide (s ≠ "")
  | .arr items => !items.isEmpty
  | .obj fields => !fields.isEmpty

/-- `f.get("observed", True)` が真である。 -/
def isObserved (fields : List (String × Value)) : Bool :=
  ((DictList.get? "observed" fields).map truthy).getD true

/-- report のうち bundle が読むもの。 -/
structure Report where
  filename : Value := .str ""
  generatedAt : Value := .str ""
  sessions : List (List (String × Value)) := []
  findings : List (List (String × Value)) := []
  limitations : List Value := []

/-- `dict(s) if isinstance(s, dict) else {"value": s}`。 -/
def suppressionBody : Value → Value
  | .obj fields => .obj fields
  | v => .obj [("value", v)]

/-- 制限の record の中身。 -/
def limitationBody (lim : Value) : Value :=
  .obj [("note", lim), ("observable", .scalar (.bool false))]

/-- `_append` する種類と中身。 -/
def Report.items (report : Report) (suppressions : List Value) : List (String × Value) :=
  [("report.meta", .obj [("filename", report.filename), ("generated_at", report.generatedAt)])] ++
    report.sessions.map (fun s => ("session", .obj s)) ++
    report.findings.map (fun f => ("finding", .obj f)) ++
    report.limitations.map (fun l => ("limitation", limitationBody l)) ++
    suppressions.map fun s => ("suppression", suppressionBody s)

/-- `build_bundle`。 -/
def buildBundle (report : Report) (suppressions : List Value) (retention versions : Value) :
    Bundle :=
  let b := (report.items suppressions).foldl (Builder.append sha256) {}
  { manifest :=
      { counts :=
          { recordCount := b.records.length
            suppressionCount := suppressions.length
            observed := report.findings.countP isObserved
            unobservable :=
              report.findings.countP (fun f => !isObserved f) + report.limitations.length }
        rootHash := b.prev
        versions := versions
        retention := retention }
    records := b.records }

/-! ## 検査 -/

/-- `verify_bundle` の返す dict。 -/
structure VerifyResult where
  ok : Bool
  reason : Option String
  checked : Int
  deriving Repr, DecidableEq

/-- record を順に確かめる。合わない record か、最後の hash を返す。 -/
def checkRecords (prev : List Char) : List Rec → Except Rec (List Char)
  | [] => .ok prev
  | r :: l =>
    if recordHash sha256 prev r.seq r.rtype r.body ≠ r.hash ∨ r.prev ≠ prev then .error r
    else checkRecords r.hash l

/-- `verify_bundle`。確かめる件数は `record_count` だけである。 -/
def verifyBundle (bundle : Bundle) : VerifyResult :=
  let n : Int := bundle.records.length
  if bundle.manifest.counts.recordCount ≠ n then ⟨false, some "count mismatch", n⟩
  else
    match checkRecords sha256 genesis bundle.records with
    | .error r => ⟨false, some ("tamper at seq " ++ toString r.seq), r.seq⟩
    | .ok prev =>
      if bundle.manifest.rootHash ≠ prev then ⟨false, some "root mismatch", n⟩
      else ⟨true, none, n⟩

theorem checkRecords_concat (r : Rec) : ∀ (l : List Rec) {prev p : List Char},
    checkRecords sha256 prev l = .ok p → recordHash sha256 p r.seq r.rtype r.body = r.hash →
    r.prev = p → checkRecords sha256 prev (l ++ [r]) = .ok r.hash
  | [], prev, p, h, hh, hp => by
    have h : prev = p := Except.ok.inj h
    subst h
    show (if _ then _ else _) = _
    rw [if_neg (by simp [hh, hp])]
    rfl
  | x :: l, prev, p, h, hh, hp => by
    rw [List.cons_append, checkRecords]
    rw [checkRecords] at h
    split at h
    · cases h
    · next hx =>
      rw [if_neg hx]
      exact checkRecords_concat r l h hh hp

/-- 確かめた最後の hash は、鎖の root である。 -/
theorem root_of_checkRecords : ∀ {l : List Rec} {prev p : List Char},
    checkRecords sha256 prev l = .ok p →
    p = HashChain.root (chainHash sha256) prev (l.map Rec.payload)
  | [], _, _, h => (Except.ok.inj h).symm
  | r :: l, prev, p, h => by
    rw [checkRecords] at h
    split at h
    · cases h
    · next hr =>
      have hash : recordHash sha256 prev r.seq r.rtype r.body = r.hash := by
        by_contra hne
        exact hr (.inl hne)
      rw [root_of_checkRecords h, List.map_cons, HashChain.root_cons, ← hash]
      rfl

/-- 検査を通った bundle の record は、manifest の root hash まで確かめられる。 -/
theorem checkRecords_of_verify {b : Bundle} (h : (verifyBundle sha256 b).ok = true) :
    b.manifest.counts.recordCount = b.records.length ∧
      checkRecords sha256 genesis b.records = .ok b.manifest.rootHash := by
  unfold verifyBundle at h
  simp only at h
  split at h
  · cases h
  · next hcount =>
    cases hc : checkRecords sha256 genesis b.records with
    | error r =>
      rw [hc] at h
      cases h
    | ok p =>
      rw [hc] at h
      simp only at h
      split at h
      · cases h
      · next hroot =>
        rw [Decidable.not_not.mp hroot]
        exact ⟨Decidable.not_not.mp hcount, rfl⟩

/-- **`verify_bundle` の受け入れ。** 件数と root が合い、record が鎖をなす。 -/
theorem root_of_verify {b : Bundle} (h : (verifyBundle sha256 b).ok = true) :
    b.manifest.counts.recordCount = b.records.length ∧
      b.manifest.rootHash = HashChain.root (chainHash sha256) genesis (b.records.map Rec.payload) :=
  ⟨(checkRecords_of_verify sha256 h).1,
    root_of_checkRecords sha256 (checkRecords_of_verify sha256 h).2⟩

/-! ## 件数 -/

/-- record の中身の dict の `observed`。 -/
def observedBody (body : Value) : Bool :=
  match body with
  | .obj fields => isObserved fields
  | _ => true

/-- 種類と中身から数え直した件数。 -/
def tally (items : List (String × Value)) : Counts where
  recordCount := items.length
  suppressionCount := items.countP fun i => decide (i.1 = "suppression")
  observed := items.countP fun i => decide (i.1 = "finding") && observedBody i.2
  unobservable := (items.countP fun i => decide (i.1 = "finding") && !observedBody i.2) +
    items.countP fun i => decide (i.1 = "limitation")

/-- record の種類と中身。 -/
def Bundle.items (b : Bundle) : List (String × Value) := b.records.map fun r => (r.rtype, r.body)

/-! ## 作った bundle -/

theorem truthy_norm (v : Value) : truthy v.norm = truthy v := by
  cases v with
  | scalar a => rfl
  | str s => rfl
  | arr items => cases items <;> rfl
  | obj fields =>
    have hlen : ((normFields fields).insertionSort fun a b => a.1 ≤ b.1).isEmpty
        = fields.isEmpty := by
      cases fields with
      | nil => rfl
      | cons f l =>
        rw [List.isEmpty_cons, List.isEmpty_eq_false_iff, ← List.length_pos_iff,
          List.length_insertionSort]
        exact Nat.succ_pos _
    show (!_) = (!_)
    rw [hlen]

/-- dict を並べ替えても `observed` は変わらない。 -/
theorem observedBody_norm (body : Value) : observedBody body.norm = observedBody body := by
  cases body with
  | scalar a => rfl
  | str s => rfl
  | arr items => rfl
  | obj fields =>
    show ((DictList.get? _ _).map truthy).getD true = ((DictList.get? _ _).map truthy).getD true
    rw [get?_norm]
    cases DictList.get? "observed" fields with
    | none => rfl
    | some v => exact congrArg (fun b => (some b).getD true) (truthy_norm v)

/-- 件数は dict の項目の順によらない。 -/
theorem tally_norm (items : List (String × Value)) :
    tally (items.map fun i => (i.1, i.2.norm)) = tally items := by
  unfold tally
  simp only [List.length_map, List.countP_map, Function.comp_def, observedBody_norm]

/-- 作っている途中の bundle が保つこと。 -/
structure Builder.Wf (b : Builder) (items : List (String × Value)) : Prop where
  chained : checkRecords sha256 genesis b.records = .ok b.prev
  items : b.records.map (fun r => (r.rtype, r.body)) = items
  seq : b.records.map Rec.seq = (List.range b.records.length).map Int.ofNat
  next : b.seq = b.records.length

theorem Builder.wf_append {b : Builder} {items : List (String × Value)} (h : b.Wf sha256 items)
    (item : String × Value) : (b.append sha256 item).Wf sha256 (items ++ [item]) where
  chained := checkRecords_concat sha256 _ b.records h.chained rfl rfl
  items := by
    show (b.records ++ [_]).map _ = _
    rw [List.map_append, h.items]
    rfl
  seq := by
    show (b.records ++ [_]).map _ = (List.range (b.records ++ [_]).length).map _
    rw [List.map_append, h.seq, List.length_append, List.length_singleton, List.range_succ,
      List.map_append, List.map_singleton, List.map_singleton, h.next]
    rfl
  next := by
    show b.seq + 1 = ((b.records ++ [_]).length : Int)
    rw [h.next, List.length_append, List.length_singleton]
    rfl

theorem Builder.wf_foldl (items : List (String × Value)) :
    (items.foldl (Builder.append sha256) {}).Wf sha256 items := by
  induction items using List.reverseRecOn with
  | nil => exact ⟨rfl, rfl, rfl, rfl⟩
  | append_singleton items item ih =>
    rw [List.foldl_append]
    exact Builder.wf_append sha256 ih item

/-- **作った bundle は検査を通る。** -/
theorem verify_buildBundle (report : Report) (suppressions : List Value)
    (retention versions : Value) :
    (verifyBundle sha256 (buildBundle sha256 report suppressions retention versions)).ok = true := by
  have hwf := Builder.wf_foldl sha256 (report.items suppressions)
  unfold verifyBundle buildBundle
  simp only [hwf.chained]
  simp

/-- 作った bundle の種類と中身。 -/
theorem items_buildBundle (report : Report) (suppressions : List Value)
    (retention versions : Value) :
    (buildBundle sha256 report suppressions retention versions).items = report.items suppressions :=
  (Builder.wf_foldl sha256 (report.items suppressions)).items

/-- **作った bundle の件数は record の件数である。** -/
theorem counts_buildBundle (report : Report) (suppressions : List Value)
    (retention versions : Value) :
    (buildBundle sha256 report suppressions retention versions).manifest.counts =
      tally (buildBundle sha256 report suppressions retention versions).items := by
  have hlen : (buildBundle sha256 report suppressions retention versions).manifest.counts.recordCount
      = ((report.items suppressions).length : Int) := by
    rw [← items_buildBundle sha256 report suppressions retention versions, Bundle.items,
      List.length_map]
    rfl
  rw [items_buildBundle]
  have hcounts : ∀ c : Counts, c = ⟨c.recordCount, c.suppressionCount, c.observed,
      c.unobservable⟩ := fun _ => rfl
  rw [hcounts (buildBundle sha256 report suppressions retention versions).manifest.counts, hlen]
  unfold tally Report.items buildBundle
  simp [List.countP_map, Function.comp_def, observedBody, List.countP_append]

/-! ## 鎖の比較 -/

/-- 検査が hash する text。 -/
def hashInputs (b : Bundle) : List (List Char) :=
  (HashChain.links (chainHash sha256) genesis (b.records.map Rec.payload)).map fun a => a.1 ++ a.2

/-- 二つの bundle の検査が hash する text の間に、衝突が無い。 -/
def NoCollision (b₁ b₂ : Bundle) : Prop :=
  ∀ x ∈ hashInputs sha256 b₁, ∀ y ∈ hashInputs sha256 b₂, sha256 x = sha256 y → x = y

/-- 鎖の前の hash は、始まりの文字列か digest である。 -/
theorem prev_of_mem_links {g : List Char} {a : List Char × List Char} :
    ∀ {xs : List (List Char)}, (g = genesis ∨ ∃ d : HexDigest, g = d.text) →
      a ∈ HashChain.links (chainHash sha256) g xs → a.1 = genesis ∨ ∃ d : HexDigest, a.1 = d.text := by
  intro xs
  induction xs generalizing g with
  | nil => intro _ h; cases h
  | cons x xs ih =>
    intro hg h
    rcases List.mem_cons.mp h with rfl | h
    · exact hg
    · exact ih (.inr ⟨_, rfl⟩) h

/-- 前の hash と中身は、つないだ text から分かれる。 -/
theorem prev_append_inj {p q x y : List Char} (hp : p = genesis ∨ ∃ d : HexDigest, p = d.text)
    (hq : q = genesis ∨ ∃ d : HexDigest, q = d.text) (h : p ++ x = q ++ y) : p = q ∧ x = y := by
  have hmixed : ∀ (d : HexDigest) {u v : List Char}, genesis ++ u ≠ d.text ++ v := by
    intro d u v he
    obtain ⟨c, l, hl⟩ : ∃ c l, d.text = c :: l := by
      cases ht : d.text with
      | nil =>
        have hlen := d.length_text
        rw [ht] at hlen
        cases hlen
      | cons c l => exact ⟨c, l, rfl⟩
    rw [hl] at he
    have hc : 'G' = c := (List.cons.inj he).1
    have hmem := d.hex c (by rw [hl]; exact List.mem_cons_self)
    rw [← hc] at hmem
    exact absurd hmem (by decide)
  rcases hp with rfl | ⟨d, rfl⟩ <;> rcases hq with rfl | ⟨e, rfl⟩
  · exact List.append_inj h rfl
  · exact absurd h (hmixed e)
  · exact absurd h.symm (hmixed d)
  · exact List.append_inj h (d.length_text.trans e.length_text.symm)

theorem collisionFree {b₁ b₂ : Bundle} (h : NoCollision sha256 b₁ b₂) :
    HashChain.CollisionFree (chainHash sha256) genesis (b₁.records.map Rec.payload)
      (b₂.records.map Rec.payload) where
  inj := by
    intro a ha b hb he
    have hsha : sha256 (a.1 ++ a.2) = sha256 (b.1 ++ b.2) := HexDigest.ext he
    have happ := h _ (List.mem_map_of_mem ha) _ (List.mem_map_of_mem hb) hsha
    obtain ⟨h₁, h₂⟩ := prev_append_inj (prev_of_mem_links sha256 (.inl rfl) ha)
      (prev_of_mem_links sha256 (.inl rfl) hb) happ
    exact Prod.ext h₁ h₂
  left := fun _ _ => HexDigest.text_ne_genesis _
  right := fun _ _ => HexDigest.text_ne_genesis _

/-- 同じ root hash の bundle は、record ごとにつないだ text が同じである。 -/
theorem payloads_eq {b₁ b₂ : Bundle} (h₁ : (verifyBundle sha256 b₁).ok = true)
    (h₂ : (verifyBundle sha256 b₂).ok = true)
    (hroot : b₁.manifest.rootHash = b₂.manifest.rootHash) (hfree : NoCollision sha256 b₁ b₂) :
    b₁.records.map Rec.payload = b₂.records.map Rec.payload := by
  refine HashChain.eq_of_root_eq (collisionFree sha256 hfree) ?_
  rw [← (root_of_verify sha256 h₁).2, ← (root_of_verify sha256 h₂).2, hroot]

/-! ## 境目 -/

/-- record の `seq`・種類・中身。中身は dict の項目の順によらない。 -/
def Rec.content (r : Rec) : Int × String × Value := (r.seq, r.rtype, r.body.norm)

/-- hash する text の中の、`seq` と種類の長さ。 -/
def Rec.bounds (r : Rec) : Nat × Nat := ((toString r.seq).toList.length, r.rtype.toList.length)

/-- 境目が同じなら、つないだ text は `seq`・種類・中身を決める。 -/
theorem content_of_payload {r r' : Rec} (hp : r.payload = r'.payload) (hb : r.bounds = r'.bounds) :
    r.content = r'.content := by
  unfold Rec.bounds at hb
  rw [Prod.mk.injEq] at hb
  unfold Rec.payload payload at hp
  obtain ⟨hseq, hrest⟩ := List.append_inj hp hb.1
  obtain ⟨htype, hbody⟩ := List.append_inj hrest hb.2
  have hseq : r.seq = r'.seq := by
    have he := String.toList_injective hseq
    rw [Int.toString_eq_repr, Int.toString_eq_repr] at he
    exact Int.repr_injective he
  have hbody : r.body.norm = r'.body.norm := Value.dumps_inj.mp hbody
  unfold Rec.content
  rw [hseq, String.toList_injective htype, hbody]

theorem contents_of_payloads : ∀ {l l' : List Rec}, l.map Rec.payload = l'.map Rec.payload →
    l.map Rec.bounds = l'.map Rec.bounds → l.map Rec.content = l'.map Rec.content
  | [], [], _, _ => rfl
  | [], _ :: _, h, _ => by cases h
  | _ :: _, [], h, _ => by cases h
  | r :: l, r' :: l', hp, hb => by
    rw [List.map_cons, List.map_cons, List.cons.injEq] at hp hb ⊢
    exact ⟨content_of_payload hp.1 hb.1, contents_of_payloads hp.2 hb.2⟩

theorem bounds_of_contents {l l' : List Rec} (h : l.map Rec.content = l'.map Rec.content) :
    l.map Rec.bounds = l'.map Rec.bounds := by
  have hmap : ∀ l : List Rec, l.map Rec.bounds = (l.map Rec.content).map fun c =>
      ((toString c.1).toList.length, c.2.1.toList.length) := by
    intro l
    rw [List.map_map]
    rfl
  rw [hmap, hmap, h]

/-- 同じ内容の record の件数は同じである。 -/
theorem tally_of_contents {b₁ b₂ : Bundle}
    (h : b₁.records.map Rec.content = b₂.records.map Rec.content) :
    tally b₁.items = tally b₂.items := by
  have hmap : ∀ b : Bundle, tally b.items = tally ((b.records.map Rec.content).map fun c => c.2) := by
    intro b
    rw [← tally_norm, Bundle.items, List.map_map, List.map_map]
    rfl
  rw [hmap, hmap, h]

/-! ## 一致 -/

/-- record と件数が一致し、件数は record の数である。 -/
structure Bundle.Agree (b₁ b₂ : Bundle) : Prop where
  records : b₁.records.map Rec.content = b₂.records.map Rec.content
  counts : b₁.manifest.counts = b₂.manifest.counts
  left : b₁.manifest.counts = tally b₁.items
  right : b₂.manifest.counts = tally b₂.items

/-- 検査しない件数（suppression と label）が record の数と合う。 -/
structure Bundle.CountsBound (b : Bundle) : Prop where
  suppressionCount : b.manifest.counts.suppressionCount = (tally b.items).suppressionCount
  observed : b.manifest.counts.observed = (tally b.items).observed
  unobservable : b.manifest.counts.unobservable = (tally b.items).unobservable

theorem counts_of_verify {b : Bundle} (h : (verifyBundle sha256 b).ok = true) (hb : b.CountsBound) :
    b.manifest.counts = tally b.items := by
  have hcount : b.manifest.counts.recordCount = (tally b.items).recordCount := by
    rw [(root_of_verify sha256 h).1]
    show _ = ((b.items.length : Nat) : Int)
    rw [Bundle.items, List.length_map]
  have hext : ∀ {c c' : Counts}, c.recordCount = c'.recordCount →
      c.suppressionCount = c'.suppressionCount → c.observed = c'.observed →
      c.unobservable = c'.unobservable → c = c' := by
    rintro ⟨_, _, _, _⟩ ⟨_, _, _, _⟩ rfl rfl rfl rfl
    rfl
  exact hext hcount hb.suppressionCount hb.observed hb.unobservable

theorem Bundle.CountsBound.of_eq {b : Bundle} (h : b.manifest.counts = tally b.items) :
    b.CountsBound := ⟨by rw [h], by rw [h], by rw [h]⟩

/--
**同じ root hash の bundle。** 検査を通った二つの bundle の record と件数が一致するのは、どの位置の record でも
つないだ text の境目（`seq` と種類の長さ）が同じで、検査しない件数がそれぞれの record の数と合うときである。
-/
theorem bundles_agree_iff (b₁ b₂ : Bundle) (h₁ : (verifyBundle sha256 b₁).ok = true)
    (h₂ : (verifyBundle sha256 b₂).ok = true)
    (hroot : b₁.manifest.rootHash = b₂.manifest.rootHash) (hfree : NoCollision sha256 b₁ b₂) :
    b₁.Agree b₂ ↔ b₁.records.map Rec.bounds = b₂.records.map Rec.bounds ∧
      b₁.CountsBound ∧ b₂.CountsBound := by
  constructor
  · intro h
    exact ⟨bounds_of_contents h.records, .of_eq h.left, .of_eq h.right⟩
  · rintro ⟨hb, hc₁, hc₂⟩
    have hcontents := contents_of_payloads (payloads_eq sha256 h₁ h₂ hroot hfree) hb
    have hleft := counts_of_verify sha256 h₁ hc₁
    have hright := counts_of_verify sha256 h₂ hc₂
    refine ⟨hcontents, ?_, hleft, hright⟩
    rw [hleft, hright, tally_of_contents hcontents]

/-- `seq` と種類の境目は text から読み取れない。 -/
example : payload 1 "2x" (.scalar .null) = payload 12 "x" (.scalar .null) := by decide

/-! ## 作った bundle の境目 -/

/-- `build_bundle` の使う種類。 -/
def recordTypes : List String := ["report.meta", "session", "finding", "limitation", "suppression"]

/-- 使う種類は、先頭の二文字で区別される。 -/
theorem recordTypes_append_inj {t t' : String} {x y : List Char} (ht : t ∈ recordTypes)
    (ht' : t' ∈ recordTypes) (h : t.toList ++ x = t'.toList ++ y) : t = t' := by
  have hlen : ∀ t ∈ recordTypes, 2 ≤ t.toList.length := by decide
  have htake : ∀ t ∈ recordTypes, ∀ t' ∈ recordTypes,
      t.toList.take 2 = t'.toList.take 2 → t = t' := by decide
  refine htake t ht t' ht' ?_
  have h2 := congrArg (List.take 2) h
  rwa [List.take_append_of_le_length (hlen t ht), List.take_append_of_le_length (hlen t' ht')] at h2

theorem bounds_of_recordTypes : ∀ {l l' : List Rec}, (∀ r ∈ l, r.rtype ∈ recordTypes) →
    (∀ r ∈ l', r.rtype ∈ recordTypes) → l.map Rec.seq = l'.map Rec.seq →
    l.map Rec.payload = l'.map Rec.payload → l.map Rec.bounds = l'.map Rec.bounds
  | [], [], _, _, _, _ => rfl
  | [], _ :: _, _, _, h, _ => by cases h
  | _ :: _, [], _, _, h, _ => by cases h
  | r :: l, r' :: l', ht, ht', hs, hp => by
    rw [List.map_cons, List.map_cons, List.cons.injEq] at hs hp ⊢
    refine ⟨?_, bounds_of_recordTypes (fun x hx => ht x (List.mem_cons_of_mem _ hx))
      (fun x hx => ht' x (List.mem_cons_of_mem _ hx)) hs.2 hp.2⟩
    have hrest := hp.1
    unfold Rec.payload payload at hrest
    rw [hs.1] at hrest
    have htype := recordTypes_append_inj (ht r List.mem_cons_self) (ht' r' List.mem_cons_self)
      (List.append_cancel_left hrest)
    unfold Rec.bounds
    rw [hs.1, htype]

theorem rtype_buildBundle (report : Report) (suppressions : List Value)
    (retention versions : Value) :
    ∀ r ∈ (buildBundle sha256 report suppressions retention versions).records,
      r.rtype ∈ recordTypes := by
  intro r hr
  have hm : (r.rtype, r.body) ∈ report.items suppressions := by
    rw [← items_buildBundle sha256 report suppressions retention versions]
    exact List.mem_map_of_mem hr
  have hall : ∀ i ∈ report.items suppressions, i.1 ∈ recordTypes := by
    intro i hi
    unfold Report.items at hi
    simp only [List.mem_append, List.mem_map, List.mem_singleton] at hi
    rcases hi with (((rfl | ⟨_, _, rfl⟩) | ⟨_, _, rfl⟩) | ⟨_, _, rfl⟩) | ⟨_, _, rfl⟩ <;>
      simp [recordTypes]
  exact hall _ hm

theorem seq_buildBundle (report : Report) (suppressions : List Value) (retention versions : Value) :
    (buildBundle sha256 report suppressions retention versions).records.map Rec.seq =
      (List.range (buildBundle sha256 report suppressions retention versions).records.length).map
        Int.ofNat := (Builder.wf_foldl sha256 (report.items suppressions)).seq

/-- **作った bundle は root hash で決まる。** 検査しない件数と境目は、作った bundle では正しい。 -/
theorem built_bundles_agree (report₁ report₂ : Report) (s₁ s₂ : List Value) (r₁ r₂ v₁ v₂ : Value)
    (hroot : (buildBundle sha256 report₁ s₁ r₁ v₁).manifest.rootHash =
      (buildBundle sha256 report₂ s₂ r₂ v₂).manifest.rootHash)
    (hfree : NoCollision sha256 (buildBundle sha256 report₁ s₁ r₁ v₁)
      (buildBundle sha256 report₂ s₂ r₂ v₂)) :
    (buildBundle sha256 report₁ s₁ r₁ v₁).Agree (buildBundle sha256 report₂ s₂ r₂ v₂) := by
  have hp := payloads_eq sha256 (verify_buildBundle sha256 report₁ s₁ r₁ v₁)
    (verify_buildBundle sha256 report₂ s₂ r₂ v₂) hroot hfree
  have hlen := congrArg List.length hp
  rw [List.length_map, List.length_map] at hlen
  have hcontents := contents_of_payloads hp (bounds_of_recordTypes (rtype_buildBundle sha256 _ _ _ _)
    (rtype_buildBundle sha256 _ _ _ _)
    (by rw [seq_buildBundle, seq_buildBundle, hlen]) hp)
  have hleft := counts_buildBundle sha256 report₁ s₁ r₁ v₁
  have hright := counts_buildBundle sha256 report₂ s₂ r₂ v₂
  exact ⟨hcontents, by rw [hleft, hright, tally_of_contents hcontents], hleft, hright⟩

end Hash

/-! ## 検査しない件数 -/

/-- いつも同じ digest。 -/
def sampleSha256 (_ : List Char) : HexDigest where
  text := List.replicate 64 '0'
  length_text := by decide
  hex c hc := by
    rw [List.eq_of_mem_replicate hc]
    decide

/-- 空の report から作った bundle。 -/
def sampleBundle : Bundle :=
  buildBundle sampleSha256 {} [] (.obj []) (.obj [])

/-- suppression の件数を書き換えた bundle。 -/
def tamperedBundle : Bundle :=
  { sampleBundle with
    manifest := { sampleBundle.manifest with
      counts := { sampleBundle.manifest.counts with suppressionCount := 7 } } }

/-- 一つの record の bundle どうしでは、hash する text は一つしかない。 -/
theorem noCollision_sample (b : Bundle) (h : b.records = sampleBundle.records) :
    NoCollision sampleSha256 sampleBundle b := by
  intro x hx y hy _
  unfold hashInputs at hx hy
  rw [h] at hy
  have hone : ∀ z ∈ hashInputs sampleSha256 sampleBundle,
      z = genesis ++ (payload 0 "report.meta" (.obj [("filename", .str ""), ("generated_at", .str "")])) := by
    intro z hz
    exact List.mem_singleton.mp hz
  rw [hone x hx, hone y hy]

/-- 長さの下二桁だけの digest。 -/
def lengthDigest (text : List Char) : HexDigest where
  text := List.replicate 62 '0' ++
    [Nat.digitChar (text.length / 10 % 10), Nat.digitChar (text.length % 10)]
  length_text := rfl
  hex c hc := by
    have hdigit : ∀ n < 10, Nat.digitChar n ∈ "0123456789abcdef".toList := by decide
    rcases List.mem_append.mp hc with hc | hc
    · rw [List.eq_of_mem_replicate hc]
      decide
    · simp only [List.mem_cons, List.not_mem_nil, or_false] at hc
      rcases hc with rfl | rfl
      · exact hdigit _ (Nat.mod_lt _ (by decide))
      · exact hdigit _ (Nat.mod_lt _ (by decide))

/-- 一つの session の、見えた finding と見えなかった finding の report。`session` は session の項目の並びである。 -/
def mailReport (session : List (String × Value)) : Report where
  filename := .str "a.pcap"
  sessions := [session]
  findings := [[("rule_id", .str "rc4-cipher")],
    [("rule_id", .str "weak-dh"), ("observed", .scalar (.bool false))]]
  limitations := [.str "TLS 1.3 certificates"]

/-- `mailReport` の bundle。 -/
def mailBundle (session : List (String × Value)) : Bundle :=
  buildBundle lengthDigest (mailReport session) [.obj [("rule_id", .str "*")]] (.obj []) (.obj [])

/-- session の項目の並びだけの違う report の bundle は、一致する。 -/
theorem sampleBundle_agrees :
    (mailBundle [("id", .str "s-1"), ("protocol", .str "SMTP")]).Agree
      (mailBundle [("protocol", .str "SMTP"), ("id", .str "s-1")]) := by
  have hfree : ∀ x ∈ hashInputs lengthDigest (mailBundle [("id", .str "s-1"), ("protocol", .str "SMTP")]),
      ∀ y ∈ hashInputs lengthDigest (mailBundle [("protocol", .str "SMTP"), ("id", .str "s-1")]),
        (lengthDigest x).text = (lengthDigest y).text → x = y := by decide +kernel
  refine (bundles_agree_iff lengthDigest _ _ (verify_buildBundle lengthDigest _ _ _ _)
    (verify_buildBundle lengthDigest _ _ _ _) (by decide +kernel)
    fun x hx y hy h => hfree x hx y hy (congrArg HexDigest.text h)).mpr ?_
  exact ⟨by decide +kernel, ⟨by decide +kernel, by decide +kernel, by decide +kernel⟩,
    ⟨by decide +kernel, by decide +kernel, by decide +kernel⟩⟩

/-- suppression の件数を書き換えた bundle も検査を通り、root hash は変わらない。 -/
theorem tampered_bundle_accepted :
    (verifyBundle sampleSha256 sampleBundle).ok = true ∧
      (verifyBundle sampleSha256 tamperedBundle).ok = true ∧
      sampleBundle.manifest.rootHash = tamperedBundle.manifest.rootHash ∧
      NoCollision sampleSha256 sampleBundle tamperedBundle ∧
      ¬sampleBundle.Agree tamperedBundle := by
  refine ⟨verify_buildBundle sampleSha256 _ _ _ _, ?_, rfl, noCollision_sample tamperedBundle rfl, ?_⟩
  · exact verify_buildBundle sampleSha256 {} [] (.obj []) (.obj [])
  · intro h
    have hcount : (0 : Int) = 7 := congrArg Counts.suppressionCount h.counts
    exact absurd hcount (by decide)

end CipherPost.Reporting
