import CipherPost.Infra.PyJson
import CipherPost.Reporting.Evidence

/-!
# bundle の JSON

`build_bundle` の受け取る Python の値と、bundle の JSON の往復。report は JSON の値からなり、suppression は
dict でも他の値でもよい。record の hash は dict の key を text にする前の順で取るので、往復で変わらないのは
key が文字列のときである。

* `BundleInput` — `build_bundle` の引数
* `buildPyBundle`・`verifyPyBundle` — `build_bundle` と、その結果への `verify_bundle`
* `Accepted` — bundle とその JSON の往復が検査を通り、report のすべてが一つずつ record になる
* `accepted_of_stringKeyed` — suppression の dict の key が文字列なら、そうである
-/

namespace CipherPost.Reporting

open JsonText

/-! ## JSON の値 -/

/-- record の dict。 -/
def Rec.toValue (r : Rec) : Value :=
  .obj [("seq", .scalar (.int r.seq)), ("type", .str r.rtype), ("body", r.body),
    ("prev", .str (String.ofList r.prev)), ("hash", .str (String.ofList r.hash))]

/-- manifest の dict。 -/
def Manifest.toValue (m : Manifest) : Value :=
  .obj [("record_count", .scalar (.int m.counts.recordCount)),
    ("root_hash", .str (String.ofList m.rootHash)),
    ("labels", .obj [("observed", .scalar (.int m.counts.observed)),
      ("unobservable", .scalar (.int m.counts.unobservable))]),
    ("versions", m.versions), ("retention", m.retention),
    ("suppression_count", .scalar (.int m.counts.suppressionCount))]

/-- bundle の dict。 -/
def Bundle.toValue (b : Bundle) : Value :=
  .obj [("manifest", b.manifest.toValue), ("records", .arr (b.records.map Rec.toValue))]

/-- dict を record として読む。 -/
def Rec.ofValue? (v : Value) : Option Rec := do
  let seq ← (v.field? "seq").bind Value.int?
  let rtype ← (v.field? "type").bind Value.str?
  let body ← v.field? "body"
  let prev ← (v.field? "prev").bind Value.str?
  let hash ← (v.field? "hash").bind Value.str?
  return { seq := seq, rtype := rtype, body := body, prev := prev.toList, hash := hash.toList }

/-- dict を manifest として読む。 -/
def Manifest.ofValue? (v : Value) : Option Manifest := do
  let recordCount ← (v.field? "record_count").bind Value.int?
  let rootHash ← (v.field? "root_hash").bind Value.str?
  let labels ← v.field? "labels"
  let observed ← (labels.field? "observed").bind Value.int?
  let unobservable ← (labels.field? "unobservable").bind Value.int?
  let versions ← v.field? "versions"
  let retention ← v.field? "retention"
  let suppressionCount ← (v.field? "suppression_count").bind Value.int?
  return { counts := { recordCount, suppressionCount, observed, unobservable }
           rootHash := rootHash.toList, versions := versions, retention := retention }

/-- dict を bundle として読む。 -/
def Bundle.ofValue? (v : Value) : Option Bundle := do
  let manifest ← (v.field? "manifest").bind Manifest.ofValue?
  let records ← (v.field? "records").bind Value.items?
  let records ← records.mapM Rec.ofValue?
  return { manifest, records }

theorem Rec.ofValue?_toValue (r : Rec) : Rec.ofValue? r.toValue = some r := by
  have hread : Rec.ofValue? r.toValue = some
      { r with prev := (String.ofList r.prev).toList, hash := (String.ofList r.hash).toList } := rfl
  rw [hread, String.toList_ofList, String.toList_ofList]

theorem Manifest.ofValue?_toValue (m : Manifest) : Manifest.ofValue? m.toValue = some m := by
  have hread : Manifest.ofValue? m.toValue = some
      { m with rootHash := (String.ofList m.rootHash).toList } := rfl
  rw [hread, String.toList_ofList]

theorem mapM_ofValue?_toValue : ∀ l : List Rec, (l.map Rec.toValue).mapM Rec.ofValue? = some l
  | [] => rfl
  | r :: l => by
    rw [List.map_cons, List.mapM_cons, Rec.ofValue?_toValue, mapM_ofValue?_toValue l]
    rfl

/-- **bundle の dict は、元の bundle として読める。** -/
theorem Bundle.ofValue?_toValue (b : Bundle) : Bundle.ofValue? b.toValue = some b := by
  have hmanifest : b.toValue.field? "manifest" = some b.manifest.toValue := rfl
  have hrecords : b.toValue.field? "records" = some (.arr (b.records.map Rec.toValue)) := rfl
  unfold Bundle.ofValue?
  rw [hmanifest, hrecords, Option.bind_some, Manifest.ofValue?_toValue]
  show ((b.records.map Rec.toValue).mapM Rec.ofValue?).bind _ = _
  rw [mapM_ofValue?_toValue]
  rfl

/-- 中身の dict の key に重なりが無い。 -/
structure Bundle.Keyed (b : Bundle) : Prop where
  versions : b.manifest.versions.Keyed
  retention : b.manifest.retention.Keyed
  records : ∀ r ∈ b.records, r.body.Keyed

theorem keyed_records : ∀ {l : List Rec}, (∀ r ∈ l, r.body.Keyed) → KeyedItems (l.map Rec.toValue)
  | [], _ => trivial
  | r :: l, h => by
    refine ⟨⟨by simp, trivial, trivial, h r List.mem_cons_self, trivial, trivial, trivial⟩, ?_⟩
    exact keyed_records fun x hx => h x (List.mem_cons_of_mem _ hx)

theorem Bundle.Keyed.toValue {b : Bundle} (h : b.Keyed) : b.toValue.Keyed := by
  have hmanifest : b.manifest.toValue.Keyed :=
    ⟨by simp, trivial, trivial, ⟨by simp, trivial, trivial, trivial⟩, h.versions, h.retention,
      trivial, trivial⟩
  exact ⟨by simp, hmanifest, keyed_records h.records, trivial⟩

/-- **JSON の往復で、bundle は変わらない。** 空白の置き方は問わない。 -/
theorem Bundle.readBack {b : Bundle} (h : b.Keyed) (lay : Layout) :
    (loads (b.toValue.write lay 0)).bind Bundle.ofValue? = some b := by
  have hread := loads_of_spells (b.toValue.spells_write lay 0) h.toValue Spaces.nil Spaces.nil
  rw [List.nil_append, List.append_nil] at hread
  rw [hread, Option.bind_some, Bundle.ofValue?_toValue]

/-! ## `build_bundle` の引数 -/

/-- report の dict の key に重なりが無い。 -/
structure Report.Keyed (report : Report) : Prop where
  filename : report.filename.Keyed
  generatedAt : report.generatedAt.Keyed
  sessions : ∀ s ∈ report.sessions, (Value.obj s).Keyed
  findings : ∀ f ∈ report.findings, (Value.obj f).Keyed
  limitations : ∀ l ∈ report.limitations, l.Keyed

/-- `build_bundle` の引数。 -/
structure BundleInput where
  report : Report
  suppressions : List Py
  retention : Value
  versions : Value
  report_keyed : report.Keyed
  suppressions_keyed : ∀ s ∈ suppressions, s.Keyed
  retention_keyed : retention.Keyed
  versions_keyed : versions.Keyed

/-- `dict(s) if isinstance(s, dict) else {"value": s}`。 -/
def suppressionRecord : Py → Py
  | .dict fields => .dict fields
  | p => .dict [(.str "value", p)]

/-- `_append` する種類と中身。 -/
def BundleInput.items (input : BundleInput) : List (String × Py) :=
  [("report.meta", .ofValue (.obj [("filename", input.report.filename),
      ("generated_at", input.report.generatedAt)]))] ++
    input.report.sessions.map (fun s => ("session", .ofValue (.obj s))) ++
    input.report.findings.map (fun f => ("finding", .ofValue (.obj f))) ++
    input.report.limitations.map (fun l => ("limitation", .ofValue (limitationBody l))) ++
    input.suppressions.map fun s => ("suppression", suppressionRecord s)

theorem toValue_suppressionRecord (p : Py) :
    (suppressionRecord p).toValue = suppressionBody p.toValue := by
  cases p <;> rfl

theorem stringKeyed_suppressionRecord {p : Py} (h : p.StringKeyed) :
    (suppressionRecord p).StringKeyed := by
  cases p with
  | dict fields => exact h
  | scalar a => exact ⟨rfl, h, trivial⟩
  | str s => exact ⟨rfl, h, trivial⟩
  | other t => exact ⟨rfl, h, trivial⟩
  | seq items => exact ⟨rfl, h, trivial⟩

theorem keyed_suppressionRecord {p : Py} (h : p.Keyed) : (suppressionRecord p).Keyed := by
  cases p with
  | dict fields => exact h
  | scalar a => exact ⟨List.nodup_singleton _, h, trivial⟩
  | str s => exact ⟨List.nodup_singleton _, h, trivial⟩
  | other t => exact ⟨List.nodup_singleton _, h, trivial⟩
  | seq items => exact ⟨List.nodup_singleton _, h, trivial⟩

/-- 中身を JSON の値にすると、JSON の suppression の report の record になる。 -/
theorem BundleInput.items_toValue (input : BundleInput) :
    input.items.map (fun i => (i.1, i.2.toValue)) =
      input.report.items (input.suppressions.map Py.toValue) := by
  unfold BundleInput.items Report.items
  simp only [List.map_append, List.map_map, Function.comp_def, List.map_singleton,
    Py.toValue_ofValue, toValue_suppressionRecord]

theorem BundleInput.stringKeyed_items {input : BundleInput}
    (h : ∀ s ∈ input.suppressions, s.StringKeyed) : ∀ i ∈ input.items, i.2.StringKeyed := by
  intro i hi
  unfold BundleInput.items at hi
  simp only [List.mem_append, List.mem_map, List.mem_singleton] at hi
  rcases hi with (((rfl | ⟨_, _, rfl⟩) | ⟨_, _, rfl⟩) | ⟨_, _, rfl⟩) | ⟨s, hs, rfl⟩
  · exact Py.stringKeyed_ofValue _
  · exact Py.stringKeyed_ofValue _
  · exact Py.stringKeyed_ofValue _
  · exact Py.stringKeyed_ofValue _
  · exact stringKeyed_suppressionRecord (h s hs)

theorem BundleInput.keyed_items (input : BundleInput) :
    ∀ i ∈ input.items, i.2.toValue.Keyed := by
  intro i hi
  unfold BundleInput.items at hi
  simp only [List.mem_append, List.mem_map, List.mem_singleton] at hi
  rcases hi with (((rfl | ⟨x, hx, rfl⟩) | ⟨x, hx, rfl⟩) | ⟨x, hx, rfl⟩) | ⟨x, hx, rfl⟩
  · rw [Py.toValue_ofValue]
    exact ⟨by simp, input.report_keyed.filename, input.report_keyed.generatedAt, trivial⟩
  · rw [Py.toValue_ofValue]
    exact input.report_keyed.sessions x hx
  · rw [Py.toValue_ofValue]
    exact input.report_keyed.findings x hx
  · rw [Py.toValue_ofValue]
    exact ⟨by simp, input.report_keyed.limitations x hx, trivial, trivial⟩
  · exact Py.keyed_toValue _ (keyed_suppressionRecord (input.suppressions_keyed x hx))

/-! ## Python の値の bundle -/

/-- `records` の要素。中身は Python の値である。 -/
structure PyRec where
  seq : Int
  rtype : String
  body : Py
  prev : List Char
  hash : List Char

/-- JSON にした record。 -/
def PyRec.toRec (r : PyRec) : Rec :=
  { seq := r.seq, rtype := r.rtype, body := r.body.toValue, prev := r.prev, hash := r.hash }

structure PyBundle where
  manifest : Manifest
  records : List PyRec

/-- JSON にした bundle。 -/
def PyBundle.toBundle (b : PyBundle) : Bundle :=
  { manifest := b.manifest, records := b.records.map PyRec.toRec }

/-- `json.dumps(bundle, default=str)`。 -/
def PyBundle.dumps (b : PyBundle) (lay : Layout) : List Char := b.toBundle.toValue.write lay 0

structure PyBuilder where
  records : List PyRec := []
  prev : List Char := genesis
  seq : Int := 0

section Hash

variable (sha256 : List Char → HexDigest)

/-- `_record_hash`。並べられない key の `TypeError` は `none` である。 -/
def pyRecordHash (prev : List Char) (seq : Int) (rtype : String) (body : Py) :
    Option (List Char) :=
  body.dumps.map fun text =>
    chainHash sha256 prev ((toString seq).toList ++ (rtype.toList ++ text))

/-- `_append`。 -/
def PyBuilder.append (b : PyBuilder) (item : String × Py) : Option PyBuilder :=
  (pyRecordHash sha256 b.prev b.seq item.1 item.2).map fun recHash =>
    { records := b.records ++ [⟨b.seq, item.1, item.2, b.prev, recHash⟩]
      prev := recHash
      seq := b.seq + 1 }

/-- `build_bundle`。例外は `none` である。 -/
def buildPyBundle (input : BundleInput) : Option PyBundle :=
  (input.items.foldlM (PyBuilder.append sha256) {}).map fun b =>
    { manifest :=
        { counts :=
            { recordCount := b.records.length
              suppressionCount := input.suppressions.length
              observed := input.report.findings.countP isObserved
              unobservable := input.report.findings.countP (fun f => !isObserved f) +
                input.report.limitations.length }
          rootHash := b.prev
          versions := input.versions
          retention := input.retention }
      records := b.records }

/-- `verify_bundle` の record の loop。`none` は、合わない record か例外である。 -/
def checkPyRecords (prev : List Char) : List PyRec → Option (List Char)
  | [] => some prev
  | r :: l =>
    (pyRecordHash sha256 prev r.seq r.rtype r.body).bind fun expected =>
      if expected ≠ r.hash ∨ r.prev ≠ prev then none else checkPyRecords r.hash l

/-- `verify_bundle(bundle)["ok"]`。 -/
def verifyPyBundle (b : PyBundle) : Bool :=
  decide (b.manifest.counts.recordCount = b.records.length) &&
    decide (checkPyRecords sha256 genesis b.records = some b.manifest.rootHash)

/--
bundle は検査を通り、JSON にして読み戻した bundle も検査を通る。`record_count` は `1` と各節の要素の数の
和で、report と suppression の要素は一つずつ順に record になる。
-/
def Accepted (input : BundleInput) : Prop :=
  ∃ b, buildPyBundle sha256 input = some b ∧ verifyPyBundle sha256 b = true ∧
    (∀ lay, ∃ b', (loads (b.dumps lay)).bind Bundle.ofValue? = some b' ∧
      (verifyBundle sha256 b').ok = true) ∧
    b.manifest.counts.recordCount = 1 + input.report.sessions.length +
      input.report.findings.length + input.report.limitations.length + input.suppressions.length ∧
    b.records.map (fun r => (r.rtype, r.body)) = input.items

/-- record の種類と中身は、`_append` したものである。 -/
theorem items_of_foldlM : ∀ (items : List (String × Py)) {b c : PyBuilder},
    items.foldlM (PyBuilder.append sha256) b = some c →
    c.records.map (fun r => (r.rtype, r.body)) =
      b.records.map (fun r => (r.rtype, r.body)) ++ items
  | [], b, c, h => by
    cases h
    exact (List.append_nil _).symm
  | item :: items, b, c, h => by
    rw [List.foldlM_cons] at h
    obtain ⟨b', hb', h⟩ := Option.bind_eq_some_iff.mp h
    obtain ⟨recHash, -, rfl⟩ := Option.map_eq_some_iff.mp hb'
    rw [items_of_foldlM items h, List.map_append, List.append_assoc]
    rfl

/-- 作った bundle の record は、引数の要素である。 -/
theorem items_buildPyBundle {input : BundleInput} {b : PyBundle}
    (h : buildPyBundle sha256 input = some b) :
    b.records.map (fun r => (r.rtype, r.body)) = input.items := by
  obtain ⟨builder, hbuilder, rfl⟩ := Option.map_eq_some_iff.mp h
  exact items_of_foldlM sha256 input.items hbuilder

/-- 作った bundle の dict の key に重なりは無い。 -/
theorem keyed_toBundle {input : BundleInput} {b : PyBundle}
    (h : buildPyBundle sha256 input = some b) : b.toBundle.Keyed := by
  have hitems := items_buildPyBundle sha256 h
  obtain ⟨builder, -, rfl⟩ := Option.map_eq_some_iff.mp h
  refine ⟨input.versions_keyed, input.retention_keyed, fun r hr => ?_⟩
  obtain ⟨r', hr', rfl⟩ := List.mem_map.mp hr
  exact input.keyed_items _ (hitems ▸ List.mem_map.mpr ⟨r', hr', rfl⟩)

/-! ## JSON の bundle との対応 -/

/-- 作っている途中の bundle は、JSON にした中身から作る bundle と同じ record を持つ。 -/
structure Twin (b : PyBuilder) (b' : Builder) : Prop where
  records : b.records.map PyRec.toRec = b'.records
  prev : b.prev = b'.prev
  seq : b.seq = b'.seq

theorem pyRecordHash_of_stringKeyed {body : Py} (h : body.StringKeyed) (prev : List Char) (seq : Int)
    (rtype : String) :
    pyRecordHash sha256 prev seq rtype body = some (recordHash sha256 prev seq rtype body.toValue) := by
  unfold pyRecordHash
  rw [Py.dumps_of_stringKeyed h]
  rfl

/-- key が文字列だけの record を足しても、対応は続く。 -/
theorem Twin.append {b : PyBuilder} {b' : Builder} (h : Twin b b') {item : String × Py}
    (hitem : item.2.StringKeyed) :
    ∃ c, b.append sha256 item = some c ∧ Twin c (b'.append sha256 (item.1, item.2.toValue)) := by
  have hhash := pyRecordHash_of_stringKeyed sha256 hitem b.prev b.seq item.1
  unfold PyBuilder.append
  rw [hhash, Option.map_some]
  refine ⟨_, rfl, ?_, ?_, ?_⟩
  · show (b.records ++ [_]).map PyRec.toRec = b'.records ++ [_]
    rw [List.map_append, h.records, List.map_singleton, ← h.prev, ← h.seq]
    rfl
  · show recordHash sha256 b.prev b.seq item.1 item.2.toValue = _
    rw [h.prev, h.seq]
    rfl
  · show b.seq + 1 = b'.seq + 1
    rw [h.seq]

/-- **key が文字列だけなら、record は JSON にした中身から作る record と同じである。** -/
theorem twin_foldlM (items : List (String × Py)) (h : ∀ i ∈ items, i.2.StringKeyed) :
    ∃ b, items.foldlM (PyBuilder.append sha256) {} = some b ∧
      Twin b ((items.map fun i => (i.1, i.2.toValue)).foldl (Builder.append sha256) {}) := by
  induction items using List.reverseRecOn with
  | nil => exact ⟨{}, rfl, rfl, rfl, rfl⟩
  | append_singleton items item ih =>
    obtain ⟨b, hb, htwin⟩ := ih fun i hi => h i (List.mem_append_left _ hi)
    obtain ⟨c, hc, htwin'⟩ := htwin.append sha256
      (h item (List.mem_append_right _ (List.mem_singleton_self item)))
    refine ⟨c, ?_, ?_⟩
    · rw [List.foldlM_append, hb]
      show (PyBuilder.append sha256 b item).bind _ = _
      rw [hc]
      rfl
    · rw [List.map_append, List.foldl_append]
      exact htwin'

/-- key が文字列だけの record の検査は、JSON にした record の検査と同じように進む。 -/
theorem checkPyRecords_of_stringKeyed : ∀ {l : List PyRec} {prev p : List Char},
    (∀ r ∈ l, r.body.StringKeyed) → checkRecords sha256 prev (l.map PyRec.toRec) = .ok p →
    checkPyRecords sha256 prev l = some p
  | [], prev, p, _, h => by
    cases h
    rfl
  | r :: l, prev, p, hl, h => by
    rw [List.map_cons, checkRecords] at h
    split at h
    · cases h
    · next hr =>
      rw [checkPyRecords, pyRecordHash_of_stringKeyed sha256 (hl r List.mem_cons_self),
        Option.bind_some]
      refine (if_neg hr).trans ?_
      exact checkPyRecords_of_stringKeyed (fun x hx => hl x (List.mem_cons_of_mem _ hx)) h

/-- **key が文字列だけの入力の bundle。** JSON にすると、JSON の値から作った bundle になる。 -/
theorem buildPyBundle_of_stringKeyed {input : BundleInput}
    (h : ∀ s ∈ input.suppressions, s.StringKeyed) :
    ∃ b, buildPyBundle sha256 input = some b ∧
      b.toBundle = buildBundle sha256 input.report (input.suppressions.map Py.toValue)
        input.retention input.versions := by
  obtain ⟨b, hb, htwin⟩ := twin_foldlM sha256 input.items
    (BundleInput.stringKeyed_items h)
  rw [input.items_toValue] at htwin
  refine ⟨_, by rw [buildPyBundle, hb]; rfl, ?_⟩
  have hlength : (b.records.length : Int) = ((input.report.items
      (input.suppressions.map Py.toValue)).foldl (Builder.append sha256) {}).records.length := by
    rw [← htwin.records, List.length_map]
  unfold PyBundle.toBundle buildBundle
  simp only [htwin.records, htwin.prev, hlength, List.length_map]

/--
**key が文字列の suppression なら、bundle とその JSON の往復は検査を通り、report と suppression の要素は一つずつ
順に record になる。**
-/
theorem accepted_of_stringKeyed (input : BundleInput)
    (h : ∀ s ∈ input.suppressions, s.StringKeyed) : Accepted sha256 input := by
  obtain ⟨b, hb, hbundle⟩ := buildPyBundle_of_stringKeyed sha256 h
  have hitems := items_buildPyBundle sha256 hb
  have hok := verify_buildBundle sha256 input.report (input.suppressions.map Py.toValue)
    input.retention input.versions
  rw [← hbundle] at hok
  obtain ⟨hcount, hchain⟩ := checkRecords_of_verify sha256 hok
  have hcheck : checkPyRecords sha256 genesis b.records = some b.manifest.rootHash :=
    checkPyRecords_of_stringKeyed sha256 (fun r hr => BundleInput.stringKeyed_items h _
      (hitems ▸ List.mem_map.mpr ⟨r, hr, rfl⟩)) hchain
  have hlength : b.toBundle.records.length = input.items.length := by
    rw [← hitems, List.length_map]
    exact List.length_map _
  refine ⟨b, hb, ?_, fun lay =>
    ⟨b.toBundle, Bundle.readBack (keyed_toBundle sha256 hb) lay, hok⟩, ?_, hitems⟩
  · have hrecords : b.manifest.counts.recordCount = (b.records.length : Int) := by
      rw [← List.length_map (f := PyRec.toRec)]
      exact hcount
    unfold verifyPyBundle
    rw [decide_eq_true hrecords, decide_eq_true hcheck]
    rfl
  · rw [show b.manifest.counts.recordCount = _ from hcount, hlength]
    unfold BundleInput.items
    simp only [List.length_append, List.length_map, List.length_singleton]
    omega

end Hash

/-! ## 文字列でない key -/

/-- 空の report と、suppression 一つ。 -/
def suppressionInput (p : Py) (h : p.Keyed) : BundleInput where
  report := {}
  suppressions := [p]
  retention := .obj []
  versions := .obj []
  report_keyed := ⟨trivial, trivial, by simp, by simp, by simp⟩
  suppressions_keyed := by simpa using h
  retention_keyed := ⟨List.nodup_nil, trivial⟩
  versions_keyed := ⟨List.nodup_nil, trivial⟩

/-- rule を抑える suppression の bundle は、JSON の往復の後も検査を通る。 -/
theorem accepted_ruleSuppression : Accepted sampleSha256
    (suppressionInput (.dict [(.str "rule_id", .str "weak-cipher"), (.str "reason", .other "planned")])
      ⟨by decide, trivial, trivial, trivial⟩) :=
  accepted_of_stringKeyed sampleSha256 _ (by
    intro s hs
    obtain rfl := List.mem_singleton.mp hs
    exact ⟨rfl, trivial, rfl, trivial, trivial⟩)

/-- 整数と文字列の key の suppression。 -/
def mixedKeys : Py := .dict [(.int 1, .str "a"), (.str "b", .str "c")]

/-- 整数の key の suppression。数の順と text の順は違う。 -/
def numericKeys : Py := .dict [(.int 2, .str "a"), (.int 10, .str "b")]

/-- 空の report の最初の record の hash。 -/
def metaHash (sha256 : List Char → HexDigest) : List Char :=
  recordHash sha256 genesis 0 "report.meta" (.obj [("filename", .str ""), ("generated_at", .str "")])

/--
文字列でない key の dict では、bundle が作れないか、JSON の往復の後の検査を通らない。二つめは、並べ方の違う
二つの text の hash が違えばよい。
-/
theorem not_accepted_keys :
    (∀ sha256, ¬Accepted sha256 (suppressionInput mixedKeys ⟨by decide, trivial, trivial, trivial⟩)) ∧
      ∀ sha256, pyRecordHash sha256 (metaHash sha256) 1 "suppression" numericKeys ≠
          some (recordHash sha256 (metaHash sha256) 1 "suppression" numericKeys.toValue) →
        ¬Accepted sha256 (suppressionInput numericKeys ⟨by decide, trivial, trivial, trivial⟩) := by
  constructor
  · rintro sha256 ⟨b, hb, -⟩
    cases hb
  · rintro sha256 hdiffer ⟨b, hb, -, hjson, -⟩
    obtain ⟨b', hread, hok⟩ := hjson Layout.standard
    rw [PyBundle.dumps, Bundle.readBack (keyed_toBundle sha256 hb)] at hread
    cases hread
    obtain ⟨-, hchain⟩ := checkRecords_of_verify sha256 hok
    obtain ⟨hash, hhash⟩ : ∃ hash,
        pyRecordHash sha256 (metaHash sha256) 1 "suppression" numericKeys = some hash := ⟨_, rfl⟩
    have hrecords : b.toBundle.records = [⟨0, "report.meta",
        .obj [("filename", .str ""), ("generated_at", .str "")], genesis, metaHash sha256⟩,
        ⟨1, "suppression", numericKeys.toValue, metaHash sha256, hash⟩] := by
      cases hb
      cases hhash
      rfl
    rw [hrecords, checkRecords, if_neg (by rintro (h | h) <;> exact h rfl), checkRecords] at hchain
    split at hchain
    · cases hchain
    · next hsame =>
      refine hdiffer ?_
      rw [hhash, Decidable.not_not.mp (not_or.mp hsame).1]

end CipherPost.Reporting
