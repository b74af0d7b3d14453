import Mathlib.Algebra.Order.Ring.Rat
import CipherPost.Api.MaskAddresses
import CipherPost.Live.Finding

/-!
# issue に添える bundle

`scripts/export_issue_bundle.py` の `build_bundle`。`--include-pcap` の無い呼び出しを扱う。DB の文字列のうち端点の番地である
所を印した雛形で、番地の残りの部分が違う二つの DB から同じ bundle が作られるかを調べる。

* `Doc`・`maskObj` — JSON の値と `_mask_obj`
* `sessionMetadata`・`findingEntry`・`buildBundle` — bundle
* `Sealed` — 番地が bundle に現れない条件
* `bundle_iff` — bundle が番地の残りの部分によらない条件

row の `evidence` と `details` は、`_jsonish` で読んだ値として持つ。id と時刻と深刻度は番地を含まない。
-/

namespace CipherPost.Scripts

open Api Live

/-! ## JSON の値 -/

/-- 文字列の型を問わない JSON の値。 -/
inductive Doc (σ : Type) where
  | null
  | bool (b : Bool)
  | int (n : Int)
  | float (x : ℚ)
  | str (s : σ)
  | arr (items : List (Doc σ))
  | obj (fields : List (σ × Doc σ))

namespace Doc

variable {σ τ υ : Type}

mutual

/-- dict の key と文字列の値を写す。 -/
def bimap (g f : σ → τ) : Doc σ → Doc τ
  | null => null
  | bool b => bool b
  | int n => int n
  | float x => float x
  | str s => str (f s)
  | arr items => arr (bimapItems g f items)
  | obj fields => obj (bimapFields g f fields)

def bimapItems (g f : σ → τ) : List (Doc σ) → List (Doc τ)
  | [] => []
  | d :: items => d.bimap g f :: bimapItems g f items

def bimapFields (g f : σ → τ) : List (σ × Doc σ) → List (τ × Doc τ)
  | [] => []
  | (k, d) :: fields => (g k, d.bimap g f) :: bimapFields g f fields

end

/-- どの文字列も写す。 -/
def map (g : σ → τ) (d : Doc σ) : Doc τ := d.bimap g g

mutual

/-- dict の key。 -/
def keys : Doc σ → List σ
  | null | bool _ | int _ | float _ | str _ => []
  | arr items => keysItems items
  | obj fields => keysFields fields

def keysItems : List (Doc σ) → List σ
  | [] => []
  | d :: items => d.keys ++ keysItems items

def keysFields : List (σ × Doc σ) → List σ
  | [] => []
  | (k, d) :: fields => k :: (d.keys ++ keysFields fields)

end

mutual

/-- 文字列の値。 -/
def strings : Doc σ → List σ
  | null | bool _ | int _ | float _ => []
  | str s => [s]
  | arr items => stringsItems items
  | obj fields => stringsFields fields

def stringsItems : List (Doc σ) → List σ
  | [] => []
  | d :: items => d.strings ++ stringsItems items

def stringsFields : List (σ × Doc σ) → List σ
  | [] => []
  | (_, d) :: fields => d.strings ++ stringsFields fields

end

mutual

theorem bimap_bimap (g f : σ → τ) (g' f' : τ → υ) :
    ∀ d : Doc σ, (d.bimap g f).bimap g' f' = d.bimap (g' ∘ g) (f' ∘ f)
  | null | bool _ | int _ | float _ | str _ => rfl
  | arr items => congrArg arr (bimapItems_bimapItems g f g' f' items)
  | obj fields => congrArg obj (bimapFields_bimapFields g f g' f' fields)

theorem bimapItems_bimapItems (g f : σ → τ) (g' f' : τ → υ) : ∀ items : List (Doc σ),
    bimapItems g' f' (bimapItems g f items) = bimapItems (g' ∘ g) (f' ∘ f) items
  | [] => rfl
  | d :: items => congrArg₂ List.cons (bimap_bimap g f g' f' d)
      (bimapItems_bimapItems g f g' f' items)

theorem bimapFields_bimapFields (g f : σ → τ) (g' f' : τ → υ) : ∀ fields : List (σ × Doc σ),
    bimapFields g' f' (bimapFields g f fields) = bimapFields (g' ∘ g) (f' ∘ f) fields
  | [] => rfl
  | (_, d) :: fields => congrArg₂ List.cons (congrArg (Prod.mk _) (bimap_bimap g f g' f' d))
      (bimapFields_bimapFields g f g' f' fields)

end

mutual

/-- **二つの写しが等しいのは、key と文字列の値のどれでも等しいときである。** -/
theorem bimap_eq_iff {g f g' f' : σ → τ} : ∀ d : Doc σ, d.bimap g f = d.bimap g' f' ↔
    (∀ k ∈ d.keys, g k = g' k) ∧ ∀ s ∈ d.strings, f s = f' s
  | null | bool _ | int _ | float _ => by simp [bimap, keys, strings]
  | str s => by simp [bimap, keys, strings]
  | arr items => by
    rw [bimap, bimap, arr.injEq, keys, strings]
    exact bimapItems_eq_iff items
  | obj fields => by
    rw [bimap, bimap, obj.injEq, keys, strings]
    exact bimapFields_eq_iff fields

theorem bimapItems_eq_iff {g f g' f' : σ → τ} : ∀ items : List (Doc σ),
    bimapItems g f items = bimapItems g' f' items ↔
      (∀ k ∈ keysItems items, g k = g' k) ∧ ∀ s ∈ stringsItems items, f s = f' s
  | [] => by simp [bimapItems, keysItems, stringsItems]
  | d :: items => by
    rw [bimapItems, bimapItems, List.cons.injEq, bimap_eq_iff d, bimapItems_eq_iff items, keysItems,
      stringsItems, List.forall_mem_append, List.forall_mem_append]
    exact and_and_and_comm

theorem bimapFields_eq_iff {g f g' f' : σ → τ} : ∀ fields : List (σ × Doc σ),
    bimapFields g f fields = bimapFields g' f' fields ↔
      (∀ k ∈ keysFields fields, g k = g' k) ∧ ∀ s ∈ stringsFields fields, f s = f' s
  | [] => by simp [bimapFields, keysFields, stringsFields]
  | (k, d) :: fields => by
    rw [bimapFields, bimapFields, List.cons.injEq, Prod.mk.injEq, bimap_eq_iff d,
      bimapFields_eq_iff fields, keysFields, stringsFields, List.forall_mem_cons,
      List.forall_mem_append, List.forall_mem_append]
    constructor
    · rintro ⟨⟨hk, hkeys, hstrings⟩, hkeys', hstrings'⟩
      exact ⟨⟨hk, hkeys, hkeys'⟩, hstrings, hstrings'⟩
    · rintro ⟨⟨hk, hkeys, hkeys'⟩, hstrings, hstrings'⟩
      exact ⟨⟨hk, hkeys, hstrings⟩, hkeys', hstrings'⟩

end

end Doc

/-- `_mask_obj`。dict の key は写さない。 -/
def maskObj (cls : CharClass) (obj : Doc (List Char)) : Doc (List Char) :=
  obj.bimap id (maskAddresses cls)

/-! ## row -/

/-- `findings` の row のうち、bundle の読む列。 -/
structure FindingRow (σ : Type) where
  id : Nat
  sessionId : String
  ruleId : σ
  ruleName : σ
  severity : String
  title : σ
  description : σ
  reference : σ
  evidence : Doc σ
  createdAt : Option String

/-- `sessions` の row のうち、bundle の読む列。 -/
structure SessionRow (σ : Type) where
  id : String
  protocol : σ
  fiveTuple : σ
  srcPort : Int
  dstPort : Int
  isStarttls : Bool
  tlsVersion : Option σ
  negotiatedCipher : Option σ
  ja3 : Option σ
  ja4 : Option σ
  ja3s : Option σ
  ja4s : Option σ
  riskScore : Option ℚ
  maxSeverity : Option σ
  orgId : Option σ
  createdAt : Option String
  details : Doc σ

/-- DB。 -/
structure Store (σ : Type) where
  findings : List (FindingRow σ)
  sessions : List (SessionRow σ)

section
variable {σ τ : Type}

def FindingRow.map (g : σ → τ) (f : FindingRow σ) : FindingRow τ where
  id := f.id
  sessionId := f.sessionId
  ruleId := g f.ruleId
  ruleName := g f.ruleName
  severity := f.severity
  title := g f.title
  description := g f.description
  reference := g f.reference
  evidence := f.evidence.map g
  createdAt := f.createdAt

def SessionRow.map (g : σ → τ) (s : SessionRow σ) : SessionRow τ where
  id := s.id
  protocol := g s.protocol
  fiveTuple := g s.fiveTuple
  srcPort := s.srcPort
  dstPort := s.dstPort
  isStarttls := s.isStarttls
  tlsVersion := s.tlsVersion.map g
  negotiatedCipher := s.negotiatedCipher.map g
  ja3 := s.ja3.map g
  ja4 := s.ja4.map g
  ja3s := s.ja3s.map g
  ja4s := s.ja4s.map g
  riskScore := s.riskScore
  maxSeverity := s.maxSeverity.map g
  orgId := s.orgId.map g
  createdAt := s.createdAt
  details := s.details.map g

def Store.map (g : σ → τ) (db : Store σ) : Store τ where
  findings := db.findings.map (·.map g)
  sessions := db.sessions.map (·.map g)

/-- `if session_id:` の下の session。`none` は not-found である。 -/
def Store.session? (db : Store σ) (sessionId : Option String) : Option (Option (SessionRow σ)) :=
  match truthy sessionId with
  | none => some none
  | some id => (db.sessions.find? fun s => s.id == id).map some

/-- bundle に書く row。`none` は not-found である。 -/
def Store.rows (db : Store σ) (findingId : Option Nat) (sessionId : Option String) :
    Option (Option (FindingRow σ) × Option (SessionRow σ)) :=
  match findingId with
  | none => (db.session? sessionId).map fun s => (none, s)
  | some id =>
    (db.findings.find? fun f => f.id == id).bind fun f =>
      (db.session? (pyOr sessionId (some f.sessionId))).map fun s => (some f, s)

end

/-! ## bundle -/

/-- `d if isinstance(d, dict) else None`。 -/
def Doc.dictOrNone {σ : Type} : Doc σ → Doc σ
  | .obj fields => .obj fields
  | _ => .null

/-- `_session_metadata` が `_mask_obj` に渡す dict。 -/
def sessionFields {σ : Type} (lit : String → σ) (s : SessionRow σ) : Doc σ :=
  let text (o : Option σ) : Doc σ := (o.map .str).getD .null
  .obj
    [(lit "session_id", .str (lit s.id)), (lit "protocol", .str s.protocol),
      (lit "five_tuple_masked", .str s.fiveTuple), (lit "src_port", .int s.srcPort),
      (lit "dst_port", .int s.dstPort), (lit "is_starttls", .bool s.isStarttls),
      (lit "tls_version", text s.tlsVersion), (lit "negotiated_cipher", text s.negotiatedCipher),
      (lit "ja3", text s.ja3), (lit "ja4", text s.ja4), (lit "ja3s", text s.ja3s),
      (lit "ja4s", text s.ja4s), (lit "risk_score", (s.riskScore.map .float).getD .null),
      (lit "max_severity", text s.maxSeverity), (lit "org_id", text s.orgId),
      (lit "created_at", text (s.createdAt.map lit)),
      (lit "details", s.details.dictOrNone)]

/-- `_session_metadata`。 -/
def sessionMetadata (cls : CharClass) (s : SessionRow (List Char)) : Doc (List Char) :=
  maskObj cls (sessionFields String.toList s)

/-- bundle の finding。 -/
structure FindingEntry where
  findingId : Nat
  sessionId : String
  ruleId : List Char
  ruleName : List Char
  severity : String
  title : List Char
  description : List Char
  reference : List Char
  evidence : Doc (List Char)
  createdAt : Option String

/-- `evidence` だけを伏せる。 -/
def findingEntry (cls : CharClass) (f : FindingRow (List Char)) : FindingEntry where
  findingId := f.id
  sessionId := f.sessionId
  ruleId := f.ruleId
  ruleName := f.ruleName
  severity := f.severity.toLower
  title := f.title
  description := f.description
  reference := f.reference
  evidence := maskObj cls f.evidence
  createdAt := f.createdAt

/-- DB によらない値。 -/
structure BundleEnv where
  generatedAt : String
  toolVersion : String
  configRedacted : Doc String

/-- `raw_slice`。 -/
structure RawSlice where
  included : Bool
  reason : String

/-- `redaction`。 -/
structure Redaction where
  secrets : String := "set/unset only"
  addresses : String := "masked by default (see app.api.main._mask_addresses)"
  unmaskedAddresses : Bool := false

/-- `build_bundle` の返す dict。 -/
structure Bundle where
  schemaVersion : Nat := 1
  bundleKind : String := "issue"
  env : BundleEnv
  finding : Option FindingEntry
  session : Option (Doc (List Char))
  redaction : Redaction := {}
  rawSlice : RawSlice
  note : String := "Generated locally; attach to a GitHub issue per docs/live-run/triage.md. " ++
    "Contains no message bodies or credentials."

/-- `include_pcap` の無い `build_bundle`。`none` は not-found である。 -/
def buildBundle (cls : CharClass) (env : BundleEnv) (db : Store (List Char))
    (findingId : Option Nat) (sessionId : Option String) : Option Bundle :=
  (db.rows findingId sessionId).map fun (f, s) =>
    { env := env
      finding := f.map (findingEntry cls)
      session := s.map (sessionMetadata cls)
      rawSlice := ⟨false, "not requested (use --include-pcap)"⟩ }

/-! ## 番地の現れる所 -/

section
variable {ε : Type}

/-- 番地を含まない文字列。 -/
def litText (s : String) : Text ε := s.toList.map .lit

/-- bundle にそのまま写る文字列。 -/
def openTexts (f : Option (FindingRow (Text ε))) (s : Option (SessionRow (Text ε))) :
    List (Text ε) :=
  (f.toList.flatMap fun f =>
    [f.ruleId, f.ruleName, f.title, f.description, f.reference] ++ f.evidence.keys) ++
    s.toList.flatMap fun s => (sessionFields litText s).keys

/-- 伏せて写る文字列。 -/
def maskedTexts (f : Option (FindingRow (Text ε))) (s : Option (SessionRow (Text ε))) :
    List (Text ε) :=
  (f.toList.flatMap fun f => f.evidence.strings) ++
    s.toList.flatMap fun s => (sessionFields litText s).strings

/-- そのまま写る文字列に番地が無く、伏せて写る文字列の番地がどれも伏せられる。 -/
structure Sealed (cls : CharClass) (nets : ε → Net) (f : Option (FindingRow (Text ε)))
    (s : Option (SessionRow (Text ε))) : Prop where
  opened : ∀ t ∈ openTexts f s, ∀ e, Sym.ref e ∉ t
  masked : ∀ t ∈ maskedTexts f s, Concealed cls nets t

end

/-! ## 雛形から作った bundle -/

section
variable {σ τ : Type}

theorem Store.session?_map (g : σ → τ) (db : Store σ) (sessionId : Option String) :
    (db.map g).session? sessionId = (db.session? sessionId).map (·.map (·.map g)) := by
  unfold Store.session? Store.map
  cases truthy sessionId with
  | none => rfl
  | some id =>
    have hfind : (db.sessions.map (·.map g)).find? (fun s => s.id == id) =
        (db.sessions.find? fun s => s.id == id).map (·.map g) := List.find?_map ..
    dsimp only
    rw [hfind, Option.map_map, Option.map_map]
    rfl

/-- row の選び方は、文字列によらない。 -/
theorem Store.rows_map (g : σ → τ) (db : Store σ) (findingId : Option Nat)
    (sessionId : Option String) : (db.map g).rows findingId sessionId =
      (db.rows findingId sessionId).map fun p => (p.1.map (·.map g), p.2.map (·.map g)) := by
  unfold Store.rows
  cases findingId with
  | none =>
    simp only [Store.session?_map, Option.map_map]
    rfl
  | some id =>
    have hfind : (db.map g).findings.find? (fun f => f.id == id) =
        (db.findings.find? fun f => f.id == id).map (·.map g) := List.find?_map ..
    dsimp only
    rw [hfind]
    cases db.findings.find? fun f => f.id == id with
    | none => rfl
    | some f =>
      simp only [Option.map_some, Option.bind_some, Store.session?_map, Option.map_map]
      rfl

end

section
variable {ε : Type} {cls : CharClass}

theorem maskObj_map (r : Text ε → List Char) (d : Doc (Text ε)) :
    maskObj cls (d.map r) = d.bimap r (maskAddresses cls ∘ r) :=
  Doc.bimap_bimap r r id (maskAddresses cls) d

theorem maskObj_map_eq_iff {r r' : Text ε → List Char} (d : Doc (Text ε)) :
    maskObj cls (d.map r) = maskObj cls (d.map r') ↔
      (∀ t ∈ d.keys, r t = r' t) ∧
        ∀ t ∈ d.strings, maskAddresses cls (r t) = maskAddresses cls (r' t) := by
  rw [maskObj_map, maskObj_map]
  exact Doc.bimap_eq_iff d

theorem sessionFields_map {r : Text ε → List Char} (hlit : ∀ x, r (litText x) = x.toList)
    (s : SessionRow (Text ε)) :
    sessionFields String.toList (s.map r) = (sessionFields litText s).map r := by
  have htext : ∀ o : Option (Text ε), (((o.map r).map Doc.str).getD Doc.null) =
      (((o.map Doc.str).getD Doc.null).map r) := by
    intro o
    cases o <;> rfl
  have hscore : ∀ o : Option ℚ, ((o.map Doc.float).getD Doc.null : Doc (List Char)) =
      (((o.map Doc.float).getD Doc.null : Doc (Text ε)).map r) := by
    intro o
    cases o <;> rfl
  have hcreated : s.createdAt.map String.toList = (s.createdAt.map litText).map r := by
    cases s.createdAt with
    | none => rfl
    | some x => exact congrArg some (hlit x).symm
  have hdetails : (s.details.map r).dictOrNone = s.details.dictOrNone.map r := by
    cases s.details <;> rfl
  unfold sessionFields SessionRow.map
  dsimp only
  rw [htext, htext, htext, htext, htext, htext, htext, htext, hscore, hcreated, htext, hdetails]
  simp [Doc.map, Doc.bimap, Doc.bimapFields, hlit]

theorem findingEntry_eq_iff {r r' : Text ε → List Char} (f : FindingRow (Text ε)) :
    findingEntry cls (f.map r) = findingEntry cls (f.map r') ↔
      (∀ t ∈ openTexts (some f) none, r t = r' t) ∧
        ∀ t ∈ maskedTexts (some f) none, maskAddresses cls (r t) = maskAddresses cls (r' t) := by
  have hevidence : maskObj cls (f.evidence.map r) = maskObj cls (f.evidence.map r') ↔ _ :=
    maskObj_map_eq_iff f.evidence
  simp [findingEntry, FindingRow.map, openTexts, maskedTexts, hevidence, and_assoc]

theorem sessionMetadata_eq_iff {r r' : Text ε → List Char} (hlit : ∀ x, r (litText x) = x.toList)
    (hlit' : ∀ x, r' (litText x) = x.toList) (s : SessionRow (Text ε)) :
    sessionMetadata cls (s.map r) = sessionMetadata cls (s.map r') ↔
      (∀ t ∈ openTexts none (some s), r t = r' t) ∧
        ∀ t ∈ maskedTexts none (some s), maskAddresses cls (r t) = maskAddresses cls (r' t) := by
  rw [sessionMetadata, sessionMetadata, sessionFields_map hlit, sessionFields_map hlit',
    maskObj_map_eq_iff]
  simp [openTexts, maskedTexts]

/-- bundle が等しいのは、そのまま写る文字列と、伏せて写る文字列の伏せたものが、どれも等しいときである。 -/
theorem buildBundle_eq_iff {r r' : Text ε → List Char} (hlit : ∀ x, r (litText x) = x.toList)
    (hlit' : ∀ x, r' (litText x) = x.toList) (env : BundleEnv) (db : Store (Text ε))
    (findingId : Option Nat) (sessionId : Option String) :
    buildBundle cls env (db.map r) findingId sessionId =
        buildBundle cls env (db.map r') findingId sessionId ↔
      ∀ f s, db.rows findingId sessionId = some (f, s) →
        (∀ t ∈ openTexts f s, r t = r' t) ∧
          ∀ t ∈ maskedTexts f s, maskAddresses cls (r t) = maskAddresses cls (r' t) := by
  unfold buildBundle
  rw [Store.rows_map, Store.rows_map]
  cases db.rows findingId sessionId with
  | none => simp
  | some p =>
    obtain ⟨f, s⟩ := p
    have hfinding : (f.map (·.map r)).map (findingEntry cls) =
        (f.map (·.map r')).map (findingEntry cls) ↔
          (∀ t ∈ openTexts f none, r t = r' t) ∧
            ∀ t ∈ maskedTexts f none, maskAddresses cls (r t) = maskAddresses cls (r' t) := by
      cases f with
      | none => simp [openTexts, maskedTexts]
      | some f => simpa using findingEntry_eq_iff f
    have hsession : (s.map (·.map r)).map (sessionMetadata cls) =
        (s.map (·.map r')).map (sessionMetadata cls) ↔
          (∀ t ∈ openTexts none s, r t = r' t) ∧
            ∀ t ∈ maskedTexts none s, maskAddresses cls (r t) = maskAddresses cls (r' t) := by
      cases s with
      | none => simp [openTexts, maskedTexts]
      | some s => simpa using sessionMetadata_eq_iff hlit hlit' s
    have hopen : openTexts f s = openTexts f none ++ openTexts none s := by simp [openTexts]
    have hmasked : maskedTexts f s = maskedTexts f none ++ maskedTexts none s := by
      simp [maskedTexts]
    refine Iff.trans ?_ ⟨fun h f' s' he => by cases he; exact h, fun h => h f s rfl⟩
    simp only [Option.map_some, Option.some.injEq, Bundle.mk.injEq, true_and, and_true, hfinding,
      hsession, hopen, hmasked, List.forall_mem_append]
    exact and_and_and_comm

theorem render_litText (nets : ε → Net) (low : ε → Host) (x : String) :
    render nets low (litText x) = x.toList := by
  rw [render, litText, List.flatMap_map]
  exact List.flatMap_singleton' _

/--
**番地の残りの部分だけが違うどの二つの DB からも同じ bundle が作られるのは、そのまま写る文字列に番地が無く、伏せて写る
文字列では IPv6 の番地が無く IPv4 の番地の後の二つの数がどれも一致の後の二つの数であるときだけである。**
-/
theorem bundle_iff (cls : CharClass) (env : BundleEnv) (nets : ε → Net) (db : Store (Text ε))
    (findingId : Option Nat) (sessionId : Option String) :
    (∀ low low', buildBundle cls env (db.map (render nets low)) findingId sessionId =
        buildBundle cls env (db.map (render nets low')) findingId sessionId) ↔
      ∀ f s, db.rows findingId sessionId = some (f, s) → Sealed cls nets f s := by
  simp only [buildBundle_eq_iff (render_litText nets _) (render_litText nets _)]
  constructor
  · intro h f s hrows
    exact ⟨fun t ht => render_iff.mp fun low low' => (h low low' f s hrows).1 t ht,
      fun t ht => mask_render_iff.mp fun low low' => (h low low' f s hrows).2 t ht⟩
  · intro h low low' f s hrows
    obtain ⟨hopen, hmasked⟩ := h f s hrows
    exact ⟨fun t ht => render_iff.mpr (hopen t ht) low low',
      fun t ht => mask_render_iff.mpr (hmasked t ht) low low'⟩

end

/-! ## 表題の番地 -/

/-- 表題に client と server の番地を書いた finding が一つある DB。 -/
def flowFinding : Store (Text Bool) where
  findings :=
    [{ id := 1, sessionId := "", ruleId := litText "transport-regression", ruleName := litText ""
       severity := "HIGH"
       title := litText "Flow " ++ .ref true :: (litText " -> " ++ .ref false :: litText ":25")
       description := [], reference := [], evidence := .null, createdAt := none }]
  sessions := []

/-- 番地の上の 16 bit。 -/
def privateNets : Bool → Net := fun _ => .v4 10 0

/-- 番地の下の 16 bit。 -/
def hostAt (d : Fin 256) : Bool → Host := fun _ => ⟨0, d, 0, 0, 0, 0⟩

/-- 下の 16 bit だけが違う二つの DB から、違う表題の bundle が作られる。 -/
theorem bundle_leaks_title : ∃ low low' : Bool → Host,
    buildBundle asciiClass ⟨"", "", .null⟩ (flowFinding.map (render privateNets low)) (some 1)
        none ≠
      buildBundle asciiClass ⟨"", "", .null⟩ (flowFinding.map (render privateNets low')) (some 1)
        none := by
  refine ⟨hostAt 1, hostAt 2, fun heq => ?_⟩
  have htitle := congrArg (Option.map fun b => b.finding.map (·.title)) heq
  revert htitle
  decide

end CipherPost.Scripts
