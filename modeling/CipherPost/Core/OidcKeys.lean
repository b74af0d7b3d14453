import Mathlib.Algebra.Order.Ring.Unbundled.Rat
import Mathlib.Tactic.Linarith
import CipherPost.Core.Mfa
import CipherPost.Infra.Json
import CipherPost.Infra.Run

/-!
# OIDC の鍵の cache

`app/core/oidc.py` の `_jwks_cache` は、discovery document と JWKS の鍵を一つの時刻 `at` とともに持つ。
`at` を進めるのは document を取り直した時だけで、鍵を取り直したかどうかは見ない。ID token の検証に使う
鍵が、`_jwks_ttl` より古い JWKS から来ることがあるかを調べる。

* `discovery`・`jwksKeys`・`rsaKeyFor`・`verifyIdToken` — cache を通した取得と検証
* `Cache.fetches` — 取った文書の記録。code の判断には使わない
* `Recorded` — `at` と鍵が、記録の中のどの文書のものか
* `keysInTime_iff` — 使う鍵がどれも期限の内の JWKS から来るのは、document だけが新しい時に検証しないとき
* `rsaKeyFor_renewals` — document だけを取り直し続けると、鍵はいつまでも使われる
-/

namespace CipherPost.Core.Oidc

/-! ## 設定と、外の世界 -/

/-- OIDC の設定のうち、検証が読むもの。 -/
structure Settings where
  /-- `OIDC_ISSUER`。 -/
  issuer : String
  /-- `OIDC_CLIENT_ID`。 -/
  clientId : String
  /-- `int(OIDC_JWKS_CACHE_SECONDS)`。整数に読めなければ `none`。 -/
  jwksCacheSeconds : Option Int

/-- 例外。`ValueError` は文を持つ。 -/
inductive Failure where
  | valueError (text : String)
  | other
  deriving DecidableEq

/-- token の header。無い項目は空文字。 -/
structure Header where
  alg : String
  kid : String

/-- PyJWT。 -/
structure Jose (Key : Type) where
  /-- `get_unverified_header`。 -/
  header : String → Except String Header
  /-- `RSAAlgorithm.from_jwk`。 -/
  fromJwk : Json → Option Key
  /-- `decode`。失敗は `InvalidTokenError` の文。 -/
  decode (token : String) (key : Key) (algorithms : List String) (issuer audience : String)
    (required : List String) : Except String Json
  /-- `{alg!r}`。 -/
  repr : String → String

/--
一つの呼び出しの間の `fetch_json` の結果。`refresh` の呼び出しもそうでない呼び出しも、それぞれの文書を
高々一度しか取らない。
-/
structure Network where
  document (refresh : Bool) (url : String) : Option Json
  keySet (refresh : Bool) (url : String) : Option Json

/-- 鍵を引く dict の key。数どうしは、型が違っても値で比べられる。 -/
inductive KeyId where
  | text (s : String)
  | number (x : Rat)
  deriving DecidableEq

/-- JSON の値を dict の key にする。list と dict は key になれない。空の値は前もって除かれている。 -/
def KeyId.of? : Json → Option KeyId
  | .str s => some (.text s)
  | .int n => some (.number n)
  | .float x => some (.number x)
  | .bool b => some (.number (if b then 1 else 0))
  | _ => none

/-- 取って cache に入れた文書。 -/
inductive Fetch where
  | document (time : Rat)
  | keySet (keys : Dict KeyId Json) (time : Rat)

/-- 取った時刻。 -/
def Fetch.time : Fetch → Rat
  | document t => t
  | keySet _ t => t

/-- JWKS を取った時刻。 -/
def Fetch.keySetTime? : Fetch → Option Rat
  | document _ => none
  | keySet _ t => some t

/-- `_jwks_cache`。 -/
structure Cache where
  /-- `at`。 -/
  fetchedAt : Rat := 0
  keys : Dict KeyId Json := Dict.empty
  doc : Json := .obj []
  fetches : List Fetch := []

/-! ## 取得と検証 -/

variable {Key : Type} (settings : Settings) (jose : Jose Key)

/-- `enabled`。 -/
def enabled : Bool := decide (strip settings.issuer ≠ "") && decide (strip settings.clientId ≠ "")

/-- `_issuer`。 -/
def issuerUrl : String :=
  String.ofList ((strip settings.issuer).toList.reverse.dropWhile (· = '/')).reverse

/-- `_jwks_ttl`。 -/
def jwksTtl : Rat :=
  match settings.jwksCacheSeconds with
  | some n => max 60 n
  | none => 600

/-- `time.time() - _jwks_cache["at"] < _jwks_ttl()`。 -/
def Cache.fresh (c : Cache) (now : Rat) : Bool := decide (now - c.fetchedAt < jwksTtl settings)

/-- `discovery`。 -/
def discovery (c : Cache) (now : Rat) (net : Network) (refresh : Bool) :
    Except Failure Json × Cache :=
  if c.doc.truthy && !refresh && c.fresh settings now then (.ok c.doc, c)
  else
    match net.document refresh (issuerUrl settings ++ "/.well-known/openid-configuration") with
    | none => (.error .other, c)
    | some doc =>
      if doc.isObj && (doc.get? "jwks_uri").isSome then
        (.ok doc, { c with doc, fetchedAt := now, fetches := c.fetches ++ [.document now] })
      else (.error (.valueError "oidc-error: bad discovery document"), c)

/-- JWKS の entry が RSA の鍵であること。 -/
def isRsa (k : Json) : Bool :=
  decide ((k.get? "kty").bind Json.str? = some "RSA") &&
    ["kid", "n", "e"].all fun field => ((k.get? field).map Json.truthy).getD false

/-- JWKS のうち RSA の鍵。dict でない entry と、list や dict の `kid` は例外になる。 -/
def rsaKeys (raw : Json) : Option (Dict KeyId Json) := do
  guard raw.isObj
  let entries ← match raw.get? "keys" with
    | some v => if v.truthy then v.iter? else some []
    | none => some []
  entries.foldlM
    (fun out k =>
      if k.isObj then
        if isRsa k then ((k.get? "kid").bind KeyId.of?).map (out.set · k) else some out
      else none)
    Dict.empty

/-- `jwks_keys`。 -/
def jwksKeys (c : Cache) (now : Rat) (net : Network) (refresh : Bool) :
    Except Failure (Dict KeyId Json) × Cache :=
  if decide (c.keys.size ≠ 0) && !refresh && c.fresh settings now then (.ok c.keys, c)
  else
    match discovery settings c now net refresh with
    | (.error f, c) => (.error f, c)
    | (.ok doc, c) =>
      match (((doc.get? "jwks_uri").bind Json.str?).bind (net.keySet refresh)).bind rsaKeys with
      | none => (.error .other, c)
      | some out =>
        if out.size = 0 then (.error (.valueError "oidc-error: JWKS has no RSA keys"), c)
        else (.ok out, { c with keys := out, fetches := c.fetches ++ [.keySet out now] })

/-- `RSAAlgorithm.from_jwk(json.dumps(keys[kid]))`。 -/
def importKey (jwk : Json) : Except Failure Key :=
  match jose.fromJwk jwk with
  | some key => .ok key
  | none => .error .other

/-- `_rsa_key_for`。知らない `kid` なら、一度だけ取り直す。 -/
def rsaKeyFor (c : Cache) (now : Rat) (net : Network) (kid : String) :
    Except Failure Key × Cache :=
  match jwksKeys settings c now net false with
  | (.error f, c) => (.error f, c)
  | (.ok keys, c) =>
    match keys.get? (.text kid) with
    | some jwk => (importKey jose jwk, c)
    | none =>
      match jwksKeys settings c now net true with
      | (.error f, c) => (.error f, c)
      | (.ok keys, c) =>
        match keys.get? (.text kid) with
        | some jwk => (importKey jose jwk, c)
        | none => (.error (.valueError "oidc-error: unknown key id"), c)

/-- `_ALLOWED_ALGS`。 -/
def allowedAlgs : List String := ["RS256"]

/-- `verify_id_token` のうち、鍵を引くまで。token の `kid` を返す。 -/
def tokenKid (token : String) : Except Failure String :=
  if enabled settings then
    match jose.header token with
    | .error e => .error (.valueError s!"oidc-error: unreadable token ({e})")
    | .ok header =>
      if header.alg ∉ allowedAlgs then
        .error (.valueError s!"oidc-error: rejected algorithm {jose.repr header.alg}")
      else if header.kid = "" then .error (.valueError "oidc-error: missing key id")
      else .ok header.kid
  else .error (.valueError "oidc-error: SSO is not configured")

/-- `verify_id_token` のうち、鍵を得てから。 -/
def checkClaims (token : String) (nonce : Option String) (key : Key) : Except Failure Json :=
  match jose.decode token key allowedAlgs (issuerUrl settings) settings.clientId
      ["exp", "iat", "iss", "aud", "sub"] with
  | .error e => .error (.valueError s!"oidc-error: invalid token ({e})")
  | .ok claims =>
    if nonce ≠ none ∧ (claims.get? "nonce").bind Json.str? ≠ nonce then
      .error (.valueError "oidc-error: nonce mismatch (possible replay)")
    else .ok claims

/-- `verify_id_token`。 -/
def verifyIdToken (c : Cache) (now : Rat) (net : Network) (token : String)
    (nonce : Option String) : Except Failure Json × Cache :=
  match tokenKid settings jose token with
  | .error f => (.error f, c)
  | .ok kid =>
    match rsaKeyFor settings jose c now net kid with
    | (.error f, c) => (.error f, c)
    | (.ok key, c) => (checkClaims settings jose token nonce key, c)

/-! ## 呼び出しの列 -/

/-- 呼び出し。`new_authorize_url` と `exchange_code` は、cache には `discovery` で触れるだけである。 -/
inductive Operation where
  | discovery (refresh : Bool)
  | jwksKeys (refresh : Bool)
  | verifyIdToken (token : String) (nonce : Option String)

/-- 一つの呼び出し。その間の時計は一つとする。 -/
structure Call where
  now : Rat
  net : Network
  op : Operation

/-- 一つの呼び出しの後の cache。 -/
def Cache.step (c : Cache) (e : Call) : Cache :=
  match e.op with
  | .discovery refresh => (discovery settings c e.now e.net refresh).2
  | .jwksKeys refresh => (jwksKeys settings c e.now e.net refresh).2
  | .verifyIdToken token nonce => (verifyIdToken settings jose c e.now e.net token nonce).2

/-- 検証に使う鍵は、期限の内に取った JWKS から来る。 -/
def KeyInTime (c : Cache) (e : Call) : Prop :=
  ∀ token nonce kid key, e.op = .verifyIdToken token nonce → tokenKid settings jose token = .ok kid →
    (rsaKeyFor settings jose c e.now e.net kid).1 = .ok key →
    ∃ keys t jwk, Fetch.keySet keys t ∈ (c.step settings jose e).fetches ∧
      e.now < t + jwksTtl settings ∧ keys.get? (.text kid) = some jwk ∧ jose.fromJwk jwk = some key

/-- document だけが新しい時に、cache にある鍵の `kid` を検証する。 -/
def OnlyDocumentFresh (c : Cache) (e : Call) : Prop :=
  (∃ token nonce kid jwk, e.op = .verifyIdToken token nonce ∧
    tokenKid settings jose token = .ok kid ∧ c.keys.get? (.text kid) = some jwk ∧
    (jose.fromJwk jwk).isSome) ∧
  (∃ t, Fetch.document t ∈ c.fetches ∧ e.now < t + jwksTtl settings) ∧
  ∀ keys t, Fetch.keySet keys t ∈ c.fetches → t + jwksTtl settings ≤ e.now

/-! ## 取得が cache をどう変えるか -/

/-- document を取り直したかもしれない cache。 -/
def Discovered (now : Rat) (c c' : Cache) : Prop :=
  c' = c ∨ ∃ doc : Json, doc.truthy = true ∧
    c' = { c with doc, fetchedAt := now, fetches := c.fetches ++ [.document now] }

/-- 鍵を `keys` に取り直した cache。 -/
def Cache.store (c : Cache) (keys : Dict KeyId Json) (now : Rat) : Cache :=
  { c with keys, fetches := c.fetches ++ [.keySet keys now] }

theorem truthy_of_get? {j v : Json} {k : String} (h : j.get? k = some v) : j.truthy = true := by
  cases j with
  | obj fields =>
    cases fields with
    | nil => cases h
    | cons f fields => rfl
  | null | bool | int | float | str | arr => cases h

variable {settings jose} {c : Cache} {now : Rat} {net : Network} {refresh : Bool}

/-- `discovery` は document を取り直すか、何もしない。成功すれば document がある。 -/
theorem discovery_spec (settings : Settings) (c : Cache) (now : Rat) (net : Network)
    (refresh : Bool) :
    Discovered now c (discovery settings c now net refresh).2 ∧
      ∀ doc, (discovery settings c now net refresh).1 = .ok doc →
        (discovery settings c now net refresh).2.doc.truthy = true := by
  unfold discovery
  split
  · next hcached =>
    simp only [Bool.and_eq_true] at hcached
    exact ⟨.inl rfl, fun _ _ => hcached.1.1⟩
  · split
    · exact ⟨.inl rfl, fun _ h => nomatch h⟩
    · next doc hdoc =>
      split
      · next hvalid =>
        simp only [Bool.and_eq_true] at hvalid
        obtain ⟨uri, huri⟩ := Option.isSome_iff_exists.mp hvalid.2
        exact ⟨.inr ⟨doc, truthy_of_get? huri, rfl⟩, fun _ _ => truthy_of_get? huri⟩
      · exact ⟨.inl rfl, fun _ h => nomatch h⟩

/-- `jwks_keys` は cache の鍵を返すか、失敗するか、鍵を取り直して返す。 -/
theorem jwksKeys_cases (settings : Settings) (c : Cache) (now : Rat) (net : Network)
    (refresh : Bool) :
    (jwksKeys settings c now net refresh = (.ok c.keys, c) ∧ c.keys.size ≠ 0 ∧ refresh = false ∧
        c.fresh settings now = true) ∨
      (∃ f c', Discovered now c c' ∧ jwksKeys settings c now net refresh = (.error f, c')) ∨
      ∃ keys c', Discovered now c c' ∧ c'.doc.truthy = true ∧ keys.size ≠ 0 ∧
        jwksKeys settings c now net refresh = (.ok keys, c'.store keys now) := by
  unfold jwksKeys
  split
  · next hcached =>
    simp only [Bool.and_eq_true, decide_eq_true_eq, Bool.not_eq_true'] at hcached
    exact .inl ⟨rfl, hcached.1.1, hcached.1.2, hcached.2⟩
  · have hspec := discovery_spec settings c now net refresh
    split
    · next f c' heq =>
      rw [heq] at hspec
      exact .inr (.inl ⟨f, c', hspec.1, rfl⟩)
    · next doc c' heq =>
      rw [heq] at hspec
      split
      · exact .inr (.inl ⟨_, c', hspec.1, rfl⟩)
      · next keys hkeys =>
        split
        · exact .inr (.inl ⟨_, c', hspec.1, rfl⟩)
        · next hsize => exact .inr (.inr ⟨keys, c', hspec.1, hspec.2 doc rfl, hsize, rfl⟩)

/-- 取り直した鍵は、いま取ったものである。 -/
theorem jwksKeys_ok {keys : Dict KeyId Json} {c' : Cache}
    (h : jwksKeys settings c now net refresh = (.ok keys, c')) :
    (keys = c.keys ∧ c' = c ∧ refresh = false ∧ c.fresh settings now = true) ∨
      Fetch.keySet keys now ∈ c'.fetches := by
  rcases jwksKeys_cases settings c now net refresh with
    ⟨heq, -, hrefresh, hfresh⟩ | ⟨f, c₁, -, heq⟩ | ⟨keys₁, c₁, -, -, -, heq⟩
  · cases heq.symm.trans h
    exact .inl ⟨rfl, rfl, hrefresh, hfresh⟩
  · cases heq.symm.trans h
  · cases heq.symm.trans h
    exact .inr (by simp [Cache.store])

theorem importKey_ok {jwk : Json} {key : Key} (h : importKey jose jwk = .ok key) :
    jose.fromJwk jwk = some key := by
  unfold importKey at h
  cases hjwk : jose.fromJwk jwk with
  | none =>
    rw [hjwk] at h
    cases h
  | some key' =>
    rw [hjwk] at h
    cases h
    rfl

/-- `_rsa_key_for` が返す鍵は、新しいとみなした cache の鍵か、いま取った鍵である。 -/
theorem rsaKeyFor_ok {kid : String} {key : Key}
    (h : (rsaKeyFor settings jose c now net kid).1 = .ok key) :
    (∃ jwk, c.keys.get? (.text kid) = some jwk ∧ jose.fromJwk jwk = some key ∧
        c.fresh settings now = true ∧ (rsaKeyFor settings jose c now net kid).2 = c) ∨
      ∃ keys jwk, Fetch.keySet keys now ∈ (rsaKeyFor settings jose c now net kid).2.fetches ∧
        keys.get? (.text kid) = some jwk ∧ jose.fromJwk jwk = some key := by
  unfold rsaKeyFor at h ⊢
  split at h
  · cases h
  · next keys c₁ hkeys =>
    split at h
    · next jwk hkid =>
      rcases jwksKeys_ok hkeys with ⟨rfl, rfl, -, hfresh⟩ | hfetch
      · exact .inl ⟨jwk, hkid, importKey_ok h, hfresh, rfl⟩
      · exact .inr ⟨keys, jwk, hfetch, hkid, importKey_ok h⟩
    · next hkid =>
      split at h
      · cases h
      · next keys₂ c₂ hkeys₂ =>
        split at h
        · next jwk hkid₂ =>
          rcases jwksKeys_ok hkeys₂ with ⟨-, -, hrefresh, -⟩ | hfetch
          · cases hrefresh
          · exact .inr ⟨keys₂, jwk, hfetch, hkid₂, importKey_ok h⟩
        · cases h

/-- cache が新しいとみなされれば、ある `kid` の鍵はそこから返る。 -/
theorem rsaKeyFor_of_fresh {kid : String} {jwk : Json} {key : Key}
    (hkid : c.keys.get? (.text kid) = some jwk) (hkey : jose.fromJwk jwk = some key)
    (hfresh : c.fresh settings now = true) (net : Network) :
    rsaKeyFor settings jose c now net kid = (.ok key, c) := by
  have hsize := Dict.size_ne_zero_of_get? hkid
  have hkeys : jwksKeys settings c now net false = (.ok c.keys, c) := by
    simp [jwksKeys, hsize, hfresh]
  simp [rsaKeyFor, hkeys, hkid, importKey, hkey]

/-! ## 記録 -/

/-- `at` は最後に取った document の時刻で、鍵は最後に取った JWKS のものである。 -/
structure Recorded (now : Rat) (c : Cache) : Prop where
  past : ∀ f ∈ c.fetches, f.time ≤ now
  document : c.doc.truthy = true → Fetch.document c.fetchedAt ∈ c.fetches
  latest : ∀ t, Fetch.document t ∈ c.fetches → t ≤ c.fetchedAt
  keysDocument : c.keys.size ≠ 0 → c.doc.truthy = true
  keySet : c.keys.size ≠ 0 → ∃ t, Fetch.keySet c.keys t ∈ c.fetches ∧
    ∀ keys t', Fetch.keySet keys t' ∈ c.fetches → t' ≤ t

theorem recorded_empty (now : Rat) : Recorded now {} where
  past := by simp
  document := by simp [Json.truthy]
  latest := by simp
  keysDocument := by simp [Dict.size]
  keySet := by simp [Dict.size]

theorem Recorded.mono {now' : Rat} (h : Recorded now c) (hle : now ≤ now') : Recorded now' c :=
  { h with past := fun f hf => (h.past f hf).trans hle }

theorem Recorded.discovered {c' : Cache} (h : Recorded now c) (hd : Discovered now c c') :
    Recorded now c' := by
  rcases hd with rfl | ⟨doc, htruthy, rfl⟩
  · exact h
  · refine ⟨fun f hf => ?_, fun _ => by simp, fun t ht => ?_, fun _ => htruthy, fun hsize => ?_⟩
    · rcases List.mem_append.mp hf with hf | hf
      · exact h.past f hf
      · rw [List.mem_singleton.mp hf]
        exact le_refl now
    · rcases List.mem_append.mp ht with ht | ht
      · exact h.past _ ht
      · cases List.mem_singleton.mp ht
        exact le_refl now
    · obtain ⟨t, hmem, hlast⟩ := h.keySet hsize
      refine ⟨t, List.mem_append_left _ hmem, fun keys t' ht' => ?_⟩
      rcases List.mem_append.mp ht' with ht' | ht'
      · exact hlast keys t' ht'
      · cases List.mem_singleton.mp ht'

theorem Recorded.store (h : Recorded now c) (hdoc : c.doc.truthy = true)
    (keys : Dict KeyId Json) : Recorded now (c.store keys now) := by
  refine ⟨fun f hf => ?_, fun _ => List.mem_append_left _ (h.document hdoc), fun t ht => ?_,
    fun _ => hdoc, fun _ => ⟨now, by simp [Cache.store], fun keys' t ht => ?_⟩⟩
  · rcases List.mem_append.mp hf with hf | hf
    · exact h.past f hf
    · rw [List.mem_singleton.mp hf]
      exact le_refl now
  · rcases List.mem_append.mp ht with ht | ht
    · exact h.latest t ht
    · cases List.mem_singleton.mp ht
  · rcases List.mem_append.mp ht with ht | ht
    · exact h.past _ ht
    · cases List.mem_singleton.mp ht
      exact le_refl now

theorem Recorded.jwksKeys (h : Recorded now c) (settings : Settings) (net : Network)
    (refresh : Bool) : Recorded now (jwksKeys settings c now net refresh).2 := by
  rcases jwksKeys_cases settings c now net refresh with
    ⟨heq, -⟩ | ⟨f, c₁, hd, heq⟩ | ⟨keys, c₁, hd, hdoc, -, heq⟩
  · rw [heq]
    exact h
  · rw [heq]
    exact h.discovered hd
  · rw [heq]
    exact (h.discovered hd).store hdoc keys

theorem Recorded.rsaKeyFor (h : Recorded now c) (settings : Settings) (jose : Jose Key)
    (net : Network) (kid : String) : Recorded now (rsaKeyFor settings jose c now net kid).2 := by
  have hfirst := h.jwksKeys settings net false
  unfold Oidc.rsaKeyFor
  split
  · next c₁ heq =>
    rw [heq] at hfirst
    exact hfirst
  · next keys c₁ heq =>
    rw [heq] at hfirst
    split
    · exact hfirst
    · have hsecond := hfirst.jwksKeys settings net true
      split
      · next heq₂ =>
        rw [heq₂] at hsecond
        exact hsecond
      · next heq₂ =>
        rw [heq₂] at hsecond
        split <;> exact hsecond

/-- 一つの呼び出しは、`Recorded` を保つ。 -/
theorem Recorded.step {e : Call} (h : Recorded e.now c) :
    Recorded e.now (c.step settings jose e) := by
  unfold Cache.step
  split
  · exact h.discovered (discovery_spec settings c e.now e.net _).1
  · exact h.jwksKeys settings e.net _
  · next token nonce _ =>
    unfold verifyIdToken
    split
    · exact h
    · next kid _ =>
      have hkey := h.rsaKeyFor settings jose e.net kid
      split
      · next heq =>
        rw [heq] at hkey
        exact hkey
      · next heq =>
        rw [heq] at hkey
        exact hkey

/-- 時計が戻らなければ、どの呼び出しの前の cache も `Recorded` である。 -/
theorem along_recorded : ∀ {es : List Call} {c : Cache} {now : Rat}, Recorded now c →
    (∀ e ∈ es, now ≤ e.now) → (es.map Call.now).Pairwise (· ≤ ·) →
    Run.Along (Cache.step settings jose) (fun c e => Recorded e.now c) c es := by
  intro es
  induction es with
  | nil => exact fun _ _ _ => trivial
  | cons e es ih =>
    intro c now h hle hsorted
    rw [List.map_cons, List.pairwise_cons] at hsorted
    have he := h.mono (hle e List.mem_cons_self)
    exact ⟨he, ih he.step (fun x hx => hsorted.1 _ (List.mem_map_of_mem hx)) hsorted.2⟩

/-! ## 使う鍵の古さ -/

theorem jwksTtl_pos (settings : Settings) : 0 < jwksTtl settings := by
  unfold jwksTtl
  split
  · exact lt_of_lt_of_le (by decide) (le_max_left _ _)
  · decide

/-- 検証が cache に残すのは、鍵を引いた後の cache である。 -/
theorem step_verifyIdToken {e : Call} {token kid : String} {nonce : Option String}
    (hop : e.op = .verifyIdToken token nonce) (hkid : tokenKid settings jose token = .ok kid) :
    c.step settings jose e = (rsaKeyFor settings jose c e.now e.net kid).2 := by
  simp only [Cache.step, hop, verifyIdToken, hkid]
  split <;> next heq => rw [heq]

/-- **検証に使う鍵が期限の内の JWKS から来るのは、document だけが新しい時でないとき。** -/
theorem keyInTime_iff {e : Call} (h : Recorded e.now c) :
    KeyInTime settings jose c e ↔ ¬OnlyDocumentFresh settings jose c e := by
  constructor
  · rintro hin ⟨⟨token, nonce, kid, jwk, hop, hkid, hjwk, hkey⟩, ⟨t, ht, hnew⟩, hold⟩
    obtain ⟨key, hkey⟩ := Option.isSome_iff_exists.mp hkey
    have hfresh : c.fresh settings e.now = true := by
      have hle := h.latest t ht
      simp only [Cache.fresh, decide_eq_true_eq]
      linarith
    have hserved := rsaKeyFor_of_fresh hjwk hkey hfresh e.net
    obtain ⟨keys, t', -, hmem, hlt, -⟩ := hin token nonce kid key hop hkid (by rw [hserved])
    rw [step_verifyIdToken hop hkid, hserved] at hmem
    exact absurd hlt (not_lt.mpr (hold keys t' hmem))
  · intro hno token nonce kid key hop hkid hok
    rw [step_verifyIdToken hop hkid]
    rcases rsaKeyFor_ok hok with ⟨jwk, hjwk, hkey, hfresh, hsame⟩ | ⟨keys, jwk, hmem, hjwk, hkey⟩
    · have hsize := Dict.size_ne_zero_of_get? hjwk
      obtain ⟨t, hlast, hmax⟩ := h.keySet hsize
      rw [hsame]
      refine ⟨c.keys, t, jwk, hlast, ?_, hjwk, hkey⟩
      by_contra hlt
      refine hno ⟨⟨token, nonce, kid, jwk, hop, hkid, hjwk, by rw [hkey]; rfl⟩,
        ⟨c.fetchedAt, h.document (h.keysDocument hsize), ?_⟩, fun keys t' ht' => ?_⟩
      · simp only [Cache.fresh, decide_eq_true_eq] at hfresh
        linarith
      · have hle := hmax keys t' ht'
        linarith
    · have hpos := jwksTtl_pos settings
      exact ⟨keys, e.now, jwk, hmem, by linarith, hjwk, hkey⟩

/--
時計の戻らないどの呼び出しの列でも、検証に使う鍵がどれも `jwksTtl` より前には取っていない JWKS から来るのは、
cache にある鍵の `kid` を検証するどの呼び出しの時も、その前の `jwksTtl` の間に、document を取ったなら JWKS も
取っているとき、かつそのときに限る。
-/
theorem keysInTime_iff (settings : Settings) (jose : Jose Key) (es : List Call)
    (htime : (es.map Call.now).Pairwise (· ≤ ·)) :
    Run.Along (Cache.step settings jose) (KeyInTime settings jose) {} es ↔
      Run.Along (Cache.step settings jose) (fun c e => ¬OnlyDocumentFresh settings jose c e) {} es := by
  have hrecorded : Run.Along (Cache.step settings jose) (fun c e => Recorded e.now c) {} es := by
    cases es with
    | nil => trivial
    | cons e es =>
      rw [List.map_cons, List.pairwise_cons] at htime
      refine along_recorded (recorded_empty e.now) (fun x hx => ?_)
        (List.pairwise_cons.mpr htime)
      rcases List.mem_cons.mp hx with rfl | hx
      · exact le_refl _
      · exact htime.1 _ (List.mem_map_of_mem hx)
  exact Run.along_congr (fun c e h => keyInTime_iff h) hrecorded

/-! ## 取り消された鍵 -/

/-- 鍵を `kid` だけ出す provider。 -/
def provider (kid : String) : Network where
  document _ _ := some (.obj [("jwks_uri", .str "https://idp/jwks")])
  keySet _ _ := some (.obj [("keys", .arr [.obj [("kty", .str "RSA"), ("kid", .str kid),
    ("n", .str "n"), ("e", .str "AQAB")]])])

/-- どの token も `k1` で署名されていて、鍵はその `kid` とする。 -/
def plainJose : Jose String where
  header _ := .ok ⟨"RS256", "k1"⟩
  fromJwk jwk := (jwk.get? "kid").bind Json.str?
  decode _ _ _ _ _ _ := .ok (.obj [])
  repr := id

def plainSettings : Settings := ⟨"https://idp", "cipherpost", some 600⟩

/-- provider は時刻 0 の後に `k1` を取り下げる。600 に document だけを取り直し、700 に検証する。 -/
def withdrawnCalls : List Call :=
  [⟨0, provider "k1", .verifyIdToken "token" none⟩,
   ⟨600, provider "k2", .discovery false⟩,
   ⟨700, provider "k2", .verifyIdToken "token" none⟩]

theorem keysInTime_iff_withdrawn :
    Run.Along (Cache.step plainSettings plainJose) (KeyInTime plainSettings plainJose) {}
        withdrawnCalls ↔
      Run.Along (Cache.step plainSettings plainJose)
        (fun c e => ¬OnlyDocumentFresh plainSettings plainJose c e) {} withdrawnCalls :=
  keysInTime_iff plainSettings plainJose withdrawnCalls (by decide +kernel)

/-- 取り下げられた鍵が、取ってから 700 秒の後に使われる。 -/
theorem not_keysInTime_withdrawn :
    (withdrawnCalls.map Call.now).Pairwise (· ≤ ·) ∧
      ¬Run.Along (Cache.step plainSettings plainJose) (KeyInTime plainSettings plainJose) {}
        withdrawnCalls := by
  refine ⟨by decide +kernel, ?_⟩
  rintro ⟨-, -, h, -⟩
  obtain ⟨keys, t, jwk, hmem, hlt, -⟩ := h "token" none "k1" "k1" rfl (by decide +kernel)
    (by decide +kernel)
  have hold : ∀ t ∈ (Run.exec (Cache.step plainSettings plainJose) {} withdrawnCalls).fetches.filterMap
      Fetch.keySetTime?, t + jwksTtl plainSettings ≤ 700 := by
    decide +kernel
  exact absurd hlt (not_lt.mpr (hold t (List.mem_filterMap.mpr ⟨_, hmem, rfl⟩)))

/-- 期限が来るたびに document だけを取り直す。 -/
def renewals (settings : Settings) (start : Rat) (net : Network) (n : Nat) : List Call :=
  (List.range n).map fun k => ⟨start + (k + 1) * jwksTtl settings, net, .discovery false⟩

/-- 取り直す document が正しければ、`renewals` は鍵をそのままにして `at` を進める。 -/
theorem exec_renewals (jose : Jose Key) (c : Cache) {doc : Json} (hvalid : (doc.get? "jwks_uri").isSome)
    (hdoc : net.document false (issuerUrl settings ++ "/.well-known/openid-configuration") =
      some doc) (n : Nat) :
    (Run.exec (Cache.step settings jose) c (renewals settings c.fetchedAt net n)).keys = c.keys ∧
      (Run.exec (Cache.step settings jose) c (renewals settings c.fetchedAt net n)).fetchedAt =
        c.fetchedAt + n * jwksTtl settings := by
  induction n with
  | zero => simp [renewals]
  | succ n ih =>
    obtain ⟨hkeys, hat⟩ := ih
    have hobj : doc.isObj = true := by
      cases doc with
      | obj => rfl
      | _ => simp [Json.get?] at hvalid
    have hrenew : renewals settings c.fetchedAt net (n + 1) = renewals settings c.fetchedAt net n ++
        [⟨c.fetchedAt + (n + 1) * jwksTtl settings, net, .discovery false⟩] := by
      simp [renewals, List.range_succ]
    have hstale : (Run.exec (Cache.step settings jose) c
        (renewals settings c.fetchedAt net n)).fresh settings
        (c.fetchedAt + (n + 1) * jwksTtl settings) = false := by
      simp only [Cache.fresh, hat, decide_eq_false_iff_not]
      linarith
    rw [hrenew, Run.exec_append]
    simp [Cache.step, discovery, hstale, hdoc, hobj, hvalid, hkeys]

/-- **document だけを取り直し続けると、cache の鍵は `jwksTtl` の何倍の後でも使われる。** -/
theorem rsaKeyFor_renewals {doc jwk : Json} {kid : String} {key : Key}
    (hvalid : (doc.get? "jwks_uri").isSome)
    (hdoc : net.document false (issuerUrl settings ++ "/.well-known/openid-configuration") =
      some doc) (hkid : c.keys.get? (.text kid) = some jwk) (hkey : jose.fromJwk jwk = some key) (n : Nat) :
    (rsaKeyFor settings jose
      (Run.exec (Cache.step settings jose) c (renewals settings c.fetchedAt net n))
      (c.fetchedAt + n * jwksTtl settings) net kid).1 = .ok key := by
  obtain ⟨hkeys, hat⟩ := exec_renewals jose c hvalid hdoc n
  rw [rsaKeyFor_of_fresh (hkeys.symm ▸ hkid) hkey]
  simp [Cache.fresh, hat, jwksTtl_pos]

end CipherPost.Core.Oidc
