import CipherPost.Infra.Json
import CipherPost.Ml.Registry

/-!
# 訓練の記録と organisation の slot

`app/ml/registry.py` の `record_training` は、`registry.json` を `current` と `history` の二つの項目だけに
書き直す。organisation の slot は同じ file の `orgs` の下にあるので、訓練の記録のたびに消える。

文書は利用者の手も入る JSON なので、どの形でもありうる。dict でないものに `.get` を呼ぶと例外になる。

* `RegistryFile.recordTraining` — `record_training`
* `RegistryFile.orgCurrent`・`RegistryFile.orgHistory` — `org_current`・`org_history`
* `SlotsKept` — どの organisation の読み取りも、前と同じである
* `slotsKept_iff` — そうなのは、書かなかったか、始めから何も無かったときである
-/

namespace CipherPost.Ml

/-! ## file -/

/-- `registry.json`。`unreadable` は、読めないか JSON でない。 -/
inductive RegistryFile where
  | absent
  | unreadable
  | doc (j : Json)

/-- 読み取りの例外。 -/
inductive ReadError where
  /-- `AttributeError`。 -/
  | attribute
  /-- `TypeError`。 -/
  | type
  deriving Repr, DecidableEq

/-- `j.get(k, default)`。 -/
def pyGet (j : Json) (k : String) (default : Json) : Except ReadError Json :=
  if j.isObj then .ok ((j.get? k).getD default) else .error .attribute

/-- `j or default`。 -/
def pyOrJson (j default : Json) : Json := if j.truthy then j else default

/-- `l[start:]`。 -/
def sliceFrom {α : Type} (start : Int) (l : List α) : List α :=
  if 0 ≤ start then l.drop start.toNat else l.drop (l.length - (-start).toNat)

/-- list と文字列の他は切り出せない。 -/
def sliceJson (start : Int) : Json → Except ReadError Json
  | .arr items => .ok (.arr (sliceFrom start items))
  | .str s => .ok (.str (String.ofList (sliceFrom start s.toList)))
  | _ => .error .type

namespace RegistryFile

/-- `_load_doc`。 -/
def loadDoc : RegistryFile → Json
  | doc j => j
  | absent | unreadable => .obj []

/-- `(doc.get("orgs", {}) or {}).get(org_id or "global", {})`。 -/
def slot (file : RegistryFile) (orgId : Option String) : Except ReadError Json := do
  let orgs ← pyGet file.loadDoc "orgs" (.obj [])
  pyGet (pyOrJson orgs (.obj [])) (orgKey orgId) (.obj [])

/-- `org_current`。 -/
def orgCurrent (file : RegistryFile) (orgId : Option String) : Except ReadError Json := do
  pyGet (← file.slot orgId) "current" .null

/-- `org_history`。 -/
def orgHistory (file : RegistryFile) (orgId : Option String) (limit : Int) :
    Except ReadError Json := do
  let history ← pyGet (← file.slot orgId) "history" (.arr [])
  sliceJson (-limit) (pyOrJson history (.arr []))

end RegistryFile

/-! ## 記録 -/

def BASE_VERSION : String := "0.1.0"

/-- `_feature_hash`。`sha256` は十六進数の hash である。 -/
def featureHash (sha256 : String → String) (featureNames : List String) : String :=
  String.ofList ((sha256 (",".intercalate featureNames)).toList.take 8)

/-- `record_training` の引数と、記録の間の外の様子。 -/
structure TrainingRun where
  nSamples : Nat
  featureNames : List String
  params : Option Json := none
  metrics : Option Json := none
  /-- `datetime.now(timezone.utc).isoformat()`。 -/
  trainedAt : String
  /-- 書き込みが例外にならない。 -/
  writable : Bool := true

def TrainingRun.version (sha256 : String → String) (t : TrainingRun) : String :=
  BASE_VERSION ++ "-" ++ toString t.nSamples ++ "-" ++ featureHash sha256 t.featureNames

/-- `entry`。 -/
def TrainingRun.entry (sha256 : String → String) (t : TrainingRun) : Json :=
  .obj [("version", .str (t.version sha256)), ("trained_at", .str t.trainedAt),
    ("n_samples", .int t.nSamples), ("feature_names", .arr (t.featureNames.map .str)),
    ("params", pyOrJson (t.params.getD .null) (.obj [])),
    ("metrics", pyOrJson (t.metrics.getD .null) (.obj []))]

namespace RegistryFile

/-- `json.loads(path.read_text()).get("history", [])`。例外なら空の list である。 -/
def pastTrainings : RegistryFile → Json
  | doc j =>
    match pyGet j "history" (.arr []) with
    | .ok history => history
    | .error _ => .arr []
  | absent | unreadable => .arr []

/-- `record_training`。`history` が list でないと、`append` の例外で書き込みをやめる。 -/
def recordTraining (sha256 : String → String) (file : RegistryFile) (t : TrainingRun) :
    RegistryFile × String :=
  match file.pastTrainings, t.writable with
  | .arr items, true =>
    (doc (.obj [("current", t.entry sha256),
      ("history", .arr (sliceFrom (-20) (items ++ [t.entry sha256])))]), t.version sha256)
  | _, _ => (file, t.version sha256)

end RegistryFile

/-! ## slot -/

/-- どの organisation の `org_current` と `org_history` も、前と同じものを返す。 -/
def SlotsKept (file file' : RegistryFile) : Prop :=
  ∀ orgId limit, file'.orgCurrent orgId = file.orgCurrent orgId ∧
    file'.orgHistory orgId limit = file.orgHistory orgId limit

/-- 何も書かれない。 -/
def Skipped (file : RegistryFile) (t : TrainingRun) : Prop :=
  t.writable = false ∨ ∀ items, file.pastTrainings ≠ .arr items

/-- `current` も `history` も無い slot。 -/
def EmptySlot (slot : Json) : Prop :=
  slot.isObj = true ∧ (slot.get? "current").getD .null = .null ∧
    ((slot.get? "history").getD (.arr [])).truthy = false

/-- 文書の `orgs` に、空でない slot が無い。 -/
def NoSlots (doc : Json) : Prop :=
  doc.isObj = true ∧ ∀ orgs, doc.get? "orgs" = some orgs → orgs.truthy = true →
    orgs.isObj = true ∧ ∀ key slot, key ≠ "" → orgs.get? key = some slot → EmptySlot slot

theorem pyGet_of_isObj {j : Json} (h : j.isObj = true) (k : String) (default : Json) :
    pyGet j k default = .ok ((j.get? k).getD default) := if_pos h

/-- `.get` の返した値は、dict から読んだものである。 -/
theorem of_pyGet {j default v : Json} {k : String} (h : pyGet j k default = .ok v) :
    j.isObj = true ∧ (j.get? k).getD default = v := by
  unfold pyGet at h
  split at h
  · next hobj => exact ⟨hobj, Except.ok.inj h⟩
  · cases h

/-- どの長さで切っても空なのは、偽の値である。 -/
theorem sliceJson_iff (history : Json) :
    (∀ limit, sliceJson (-limit) (pyOrJson history (.arr [])) = .ok (.arr [])) ↔
      history.truthy = false := by
  constructor
  · intro h
    have hall := h 0
    by_contra htruthy
    rw [pyOrJson, if_pos ((Bool.not_eq_false _).mp htruthy)] at hall
    cases history with
    | arr items =>
      -- `[-0:]` は全体である
      obtain ⟨rfl⟩ : items = [] := by simpa [sliceJson, sliceFrom] using hall
      exact htruthy rfl
    | null | bool | int | float | str | obj => cases hall
  · intro htruthy limit
    rw [pyOrJson, if_neg (by rw [htruthy]; decide)]
    simp [sliceJson, sliceFrom]

/-- 空の slot は、`None` と空の list として読まれる。 -/
theorem emptySlot_iff {file : RegistryFile} {orgId : Option String} {slot : Json}
    (h : file.slot orgId = .ok slot) :
    (∀ limit, file.orgCurrent orgId = .ok .null ∧ file.orgHistory orgId limit = .ok (.arr [])) ↔
      EmptySlot slot := by
  have hcurrent : file.orgCurrent orgId = pyGet slot "current" .null := by
    unfold RegistryFile.orgCurrent
    rw [h]
    rfl
  have hhistory : ∀ limit, file.orgHistory orgId limit =
      (pyGet slot "history" (.arr [])).bind
        fun history => sliceJson (-limit) (pyOrJson history (.arr [])) := by
    intro limit
    unfold RegistryFile.orgHistory
    rw [h]
    rfl
  rw [hcurrent]
  simp only [hhistory]
  constructor
  · intro hreads
    obtain ⟨hobj, hnull⟩ := of_pyGet (hreads 0).1
    refine ⟨hobj, hnull, (sliceJson_iff _).mp fun limit => ?_⟩
    have hread := (hreads limit).2
    rw [pyGet_of_isObj hobj] at hread
    exact hread
  · rintro ⟨hobj, hnull, hfalsy⟩ limit
    rw [pyGet_of_isObj hobj, pyGet_of_isObj hobj, hnull]
    exact ⟨rfl, (sliceJson_iff _).mpr hfalsy limit⟩

theorem emptySlot_obj : EmptySlot (.obj []) := ⟨rfl, rfl, rfl⟩

/-- 空でない slot の無い文書では、どの organisation の slot も空である。 -/
theorem NoSlots.slot {file : RegistryFile} (h : NoSlots file.loadDoc) (orgId : Option String) :
    ∃ slot, file.slot orgId = .ok slot ∧ EmptySlot slot := by
  obtain ⟨hobj, horgs⟩ := h
  unfold RegistryFile.slot
  rw [pyGet_of_isObj hobj]
  show ∃ slot, pyGet (pyOrJson ((file.loadDoc.get? "orgs").getD (.obj [])) (.obj []))
    (orgKey orgId) (.obj []) = .ok slot ∧ EmptySlot slot
  cases hget : file.loadDoc.get? "orgs" with
  | none => exact ⟨_, rfl, emptySlot_obj⟩
  | some orgs =>
    rw [Option.getD_some, pyOrJson]
    split
    · next htruthy =>
      obtain ⟨hslots, hempty⟩ := horgs orgs hget htruthy
      rw [pyGet_of_isObj hslots]
      refine ⟨_, rfl, ?_⟩
      cases hslot : orgs.get? (orgKey orgId) with
      | none => exact emptySlot_obj
      | some slot => exact hempty _ slot (orgKey_ne_nil orgId) hslot
    · exact ⟨_, rfl, emptySlot_obj⟩

/-- **どの organisation にも何も無いと読まれるのは、空でない slot の無い文書である。** -/
theorem noSlots_iff (file : RegistryFile) :
    (∀ orgId limit, file.orgCurrent orgId = .ok .null ∧ file.orgHistory orgId limit = .ok (.arr [])) ↔
      NoSlots file.loadDoc := by
  constructor
  · intro h
    have hslot : ∀ orgId, ∃ slot, file.slot orgId = .ok slot := by
      intro orgId
      have hread := (h orgId 0).1
      unfold RegistryFile.orgCurrent at hread
      cases hs : file.slot orgId with
      | error e =>
        rw [hs] at hread
        cases hread
      | ok slot => exact ⟨slot, rfl⟩
    have hobj : file.loadDoc.isObj = true := by
      obtain ⟨slot, hs⟩ := hslot none
      by_contra hobj
      unfold RegistryFile.slot pyGet at hs
      rw [if_neg hobj] at hs
      cases hs
    refine ⟨hobj, fun orgs hget htruthy => ?_⟩
    have heq : ∀ orgId, file.slot orgId = pyGet orgs (orgKey orgId) (.obj []) := by
      intro orgId
      unfold RegistryFile.slot
      rw [pyGet_of_isObj hobj, hget]
      show pyGet (pyOrJson orgs (.obj [])) (orgKey orgId) (.obj []) = _
      rw [pyOrJson, if_pos htruthy]
    have hslots : orgs.isObj = true := by
      obtain ⟨slot, hs⟩ := hslot none
      rw [heq] at hs
      exact (of_pyGet hs).1
    refine ⟨hslots, fun key slot hkey hkeyed => ?_⟩
    have hs : file.slot (some key) = .ok slot := by
      rw [heq, pyGet_of_isObj hslots, orgKey_some hkey, hkeyed]
      rfl
    exact (emptySlot_iff hs).mp fun limit => h (some key) limit
  · intro h orgId limit
    obtain ⟨slot, hs, hempty⟩ := h.slot orgId
    exact (emptySlot_iff hs).mpr hempty limit

/-- 書かれた文書に `orgs` は無い。 -/
theorem recordTraining_cases (sha256 : String → String) (file : RegistryFile) (t : TrainingRun) :
    (Skipped file t ∧ (file.recordTraining sha256 t).1 = file) ∨
      (¬Skipped file t ∧ NoSlots (file.recordTraining sha256 t).1.loadDoc) := by
  unfold RegistryFile.recordTraining
  split
  · next items hpast hwritable =>
    refine .inr ⟨?_, rfl, ?_⟩
    · rintro (hno | hno)
      · rw [hwritable] at hno
        cases hno
      · exact hno items hpast
    · intro orgs hget
      cases hget
  · next hother =>
    refine .inl ⟨?_, rfl⟩
    cases hwritable : t.writable with
    | false => exact .inl hwritable
    | true => exact .inr fun items hpast => hother items hpast hwritable

/--
**訓練の記録がどの organisation の slot も変えないのは、何も書かなかったか、始めから空でない slot の無い
ときである。**
-/
theorem slotsKept_iff (sha256 : String → String) (file : RegistryFile) (t : TrainingRun) :
    SlotsKept file (file.recordTraining sha256 t).1 ↔ Skipped file t ∨ NoSlots file.loadDoc := by
  rcases recordTraining_cases sha256 file t with ⟨hskip, hsame⟩ | ⟨hwrites, hempty⟩
  · rw [hsame]
    exact iff_of_true (fun _ _ => ⟨rfl, rfl⟩) (.inl hskip)
  · have hafter := (noSlots_iff _).mpr hempty
    constructor
    · intro h
      refine .inr ((noSlots_iff file).mp fun orgId limit => ?_)
      obtain ⟨hcurrent, hhistory⟩ := h orgId limit
      obtain ⟨hnull, hnil⟩ := hafter orgId limit
      exact ⟨hcurrent.symm.trans hnull, hhistory.symm.trans hnil⟩
    · rintro (hskip | hno)
      · exact absurd hskip hwrites
      · intro orgId limit
        obtain ⟨hcurrent, hhistory⟩ := (noSlots_iff file).mpr hno orgId limit
        obtain ⟨hnull, hnil⟩ := hafter orgId limit
        exact ⟨hnull.trans hcurrent.symm, hnil.trans hhistory.symm⟩

/-- `org-1` の model が昇格している文書。 -/
def promotedFile : RegistryFile :=
  .doc (.obj [("orgs", .obj [("org-1", .obj [("current", .obj [("version", .str "v1")]),
    ("history", .arr [.obj [("version", .str "v1")]])])])])

/-- 三つの session の訓練。 -/
def batchTraining : TrainingRun := { nSamples := 3, featureNames := ["tls_version"], trainedAt := "" }

/-- 訓練の記録一つで、昇格した model が消える。 -/
theorem not_slotsKept_batchTraining :
    ¬SlotsKept promotedFile (promotedFile.recordTraining id batchTraining).1 := by
  intro h
  have hcurrent := (h (some "org-1") 10).1
  cases hcurrent

end CipherPost.Ml
