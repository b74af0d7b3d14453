import CipherPost.Proactive.DomainPosture

/-!
# RFC 8461 の policy

RFC 8461 の受け入れる record と policy を、`_fetch_mta_sts` とは別に述べ、二つの読みを比べる。RFC は、
`v=STSv1;` で始まる record をちょうど一つ求め、policy の名を書かれたとおりに読み、重なる名の最初を採る。

* `rfcRecord`・`rfcFields`・`rfcPolicy` — RFC の読み
* `policyMaxAge`・`policyMx` — code の読む `max_age` と `mx`
* `accepted` — `_fetch_mta_sts` の受け入れたもの
* `accepted_eq_some_iff` — 受け入れるための条件
* `accepted_eq_rfc_iff` — 二つの読みが同じになる条件
-/

namespace CipherPost.Proactive

open Parsing

/-! ## RFC の record -/

/-- WSP。 -/
def isWsp (c : Char) : Bool := c = ' ' || c = '\t'

/-- 前後の WSP を落とす。 -/
def trimWsp (s : List Char) : List Char :=
  ((s.dropWhile isWsp).reverse.dropWhile isWsp).reverse

/-- record の文字列をつなぐ。 -/
def recordText (strings : List Bytes) : List Char :=
  strings.flatten.map fun b => Char.ofNat b.toNat

/-- `sts-version` と区切り。 -/
def STS_VERSION : List Char := "v=STSv1;".toList

/-- `sts-id`。 -/
def isStsId : List Char → Bool
  | 'i' :: 'd' :: '=' :: id =>
    decide (id ≠ []) && decide (id.length ≤ 32) && id.all Char.isAlphanum
  | _ => false

/-- `v=STSv1;` で始まる record がちょうど一つあり、`id` を持つ。 -/
def rfcRecord (records : List (List Bytes)) : Bool :=
  match (records.map recordText).filter (STS_VERSION.isPrefixOf ·) with
  | [record] =>
    ((record.drop STS_VERSION.length).splitOn ';').any fun field => isStsId (trimWsp field)
  | _ => false

/-! ## RFC の policy -/

/-- LF か CRLF で終わる行。 -/
def rfcLines : List Char → List (List Char)
  | [] => []
  | '\n' :: rest => [] :: rfcLines rest
  | '\r' :: '\n' :: rest => [] :: rfcLines rest
  | c :: rest =>
    match rfcLines rest with
    | [] => [[c]]
    | line :: lines => (c :: line) :: lines

/-- 行の名と値。名は書かれたとおりに、値は前後の WSP を落として読む。 -/
def rfcField (line : List Char) : Option (String × String) :=
  (partition [':'] line).map fun kv => (String.ofList kv.1, String.ofList (trimWsp kv.2))

def rfcFields (policy : String) : List (String × String) :=
  (rfcLines policy.toList).filterMap rfcField

/-- 名の最初の値。 -/
def firstValue (name : String) (fields : List (String × String)) : Option String :=
  (fields.find? fun f => decide (f.1 = name)).map Prod.snd

/-- 名の値。 -/
def values (name : String) (fields : List (String × String)) : List String :=
  (fields.filter fun f => decide (f.1 = name)).map Prod.snd

/-- 負でない整数。 -/
def rfcNumber (s : String) : Option Nat :=
  if s ≠ "" ∧ s.toList.all Char.isDigit then
    some (s.toList.foldl (fun n c => 10 * n + (c.toNat - '0'.toNat)) 0)
  else none

/-- RFC の受け入れた policy。 -/
structure RfcPolicy where
  mode : String
  maxAge : Nat
  mx : List String
  deriving Repr, DecidableEq

/-- policy の文の読み。 -/
def readRfcPolicy (policy : String) : Option RfcPolicy := do
  let fields := rfcFields policy
  let version ← firstValue "version" fields
  let mode ← firstValue "mode" fields
  let maxAge ← (firstValue "max_age" fields).bind rfcNumber
  if version = "STSv1" ∧ mode ∈ POLICY_MODES then some ⟨mode, maxAge, values "mx" fields⟩ else none

/-- RFC の受け入れる policy。 -/
def rfcPolicy (records : List (List Bytes)) (policy : String) : Option RfcPolicy :=
  if rfcRecord records then readRfcPolicy policy else none

example : rfcPolicy [["v=STSv1; id=1;".toUTF8.toList]]
    "version: STSv1\r\nmode: enforce\r\nmx: mx.a.test\r\nmax_age: 86400\r\n" =
      some ⟨"enforce", 86400, ["mx.a.test"]⟩ := by decide +kernel

/-- RFC の受け入れた mode は、読める mode である。 -/
theorem mode_mem_of_rfcPolicy {records : List (List Bytes)} {policy : String} {p : RfcPolicy}
    (h : rfcPolicy records policy = some p) : p.mode ∈ POLICY_MODES := by
  unfold rfcPolicy readRfcPolicy at h
  split at h
  · simp only [Option.bind_eq_bind, Option.bind_eq_some_iff] at h
    obtain ⟨version, -, mode, -, maxAge, -, h⟩ := h
    split at h
    · next hmode =>
      cases h
      exact hmode.2
    · cases h
  · cases h

/-! ## code の読み -/

section Read
variable (net : Net)

/-- code の読む `max_age`。最後に書かれたものである。 -/
def policyMaxAge (policy : String) : Option Int :=
  ((policyFields net policy).filter fun f => decide (f.1 = "max_age")).getLast?.bind fun f =>
    pyIntText f.2.toList

/-- code の読む `mx`。 -/
def policyMx (policy : String) : List String := values "mx" (policyFields net policy)

/-- code が record から `id` を読む。record は全部つないで読む。 -/
def RecordRead (records : List (List Bytes)) : Prop :=
  ∃ txt, joinTxt net records = .ok txt ∧ (stsId txt.toList).isSome = true

/-- 受け入れたもの。 -/
structure Accepted where
  mode : String
  maxAge : Option Int
  mxPatterns : List String
  deriving Repr, DecidableEq

/-- `_fetch_mta_sts` の受け入れたもの。error が無く、mode がある。 -/
def accepted (domain : String) : Option Accepted :=
  match fetchMtaSts net domain with
  | .error _ => none
  | .ok sts =>
    if sts.error = none then sts.mode.map fun mode => ⟨mode, sts.maxAge, sts.mxPatterns⟩ else none

end Read

variable {net : Net}

theorem maxAge_applyField {out : Sts} {f : String × String}
    (h : f.1 = "max_age" → (pyIntText f.2.toList).isSome = true) :
    (applyField net out f).maxAge =
      if f.1 = "max_age" then pyIntText f.2.toList else out.maxAge := by
  rcases applyField_cases net out f with
    ⟨hkey, hf⟩ | ⟨hkey, n, hn, hf⟩ | ⟨hkey, hn, -⟩ | ⟨hkey, hf⟩ | ⟨⟨-, hkey, -⟩, hf⟩
  · rw [hf, if_neg (by rw [hkey]; decide)]
  · rw [hf, if_pos hkey, hn]
  · exact absurd (h hkey) (by rw [hn]; decide)
  · rw [hf, if_neg (by rw [hkey]; decide)]
  · rw [hf, if_neg hkey]

theorem mxPatterns_applyField (out : Sts) (f : String × String) :
    (applyField net out f).mxPatterns =
      if f.1 = "mx" then out.mxPatterns ++ [f.2] else out.mxPatterns := by
  rcases applyField_cases net out f with
    ⟨hkey, h⟩ | ⟨hkey, n, -, h⟩ | ⟨hkey, -, h⟩ | ⟨hkey, h⟩ | ⟨⟨-, -, hkey⟩, h⟩
  · rw [h, if_neg (by rw [hkey]; decide)]
  · rw [h, if_neg (by rw [hkey]; decide)]
  · rw [h, if_neg (by rw [hkey]; decide)]
  · rw [h, if_pos hkey]
  · rw [h, if_neg hkey]

/-- loop の後の `max_age` は、最後に書かれたものである。 -/
theorem maxAge_foldl_applyField (out : Sts) {fields : List (String × String)}
    (h : ∀ f ∈ fields, f.1 = "max_age" → (pyIntText f.2.toList).isSome = true) :
    (fields.foldl (applyField net) out).maxAge =
      match (fields.filter fun f => decide (f.1 = "max_age")).getLast? with
      | some f => pyIntText f.2.toList
      | none => out.maxAge := by
  induction fields using List.reverseRecOn with
  | nil => rfl
  | append_singleton fields f ih =>
    rw [List.foldl_append, List.foldl_cons, List.foldl_nil,
      maxAge_applyField (h f (List.mem_append_right _ List.mem_cons_self)),
      ih fun g hg => h g (List.mem_append_left _ hg), List.filter_append]
    by_cases hage : f.1 = "max_age"
    · simp [hage]
    · simp [hage]

theorem mxPatterns_foldl_applyField (out : Sts) (fields : List (String × String)) :
    (fields.foldl (applyField net) out).mxPatterns = out.mxPatterns ++ values "mx" fields := by
  induction fields generalizing out with
  | nil => exact (List.append_nil _).symm
  | cons f fields ih =>
    rw [List.foldl_cons, ih, mxPatterns_applyField, values, values]
    by_cases hmx : f.1 = "mx"
    · simp [hmx]
    · simp [hmx]

section
variable {out : Sts} {policy : String}

theorem maxAge_readPolicy (hage : out.maxAge = none) (h : MaxAgesReadable net policy) :
    (readPolicy net out policy).maxAge = policyMaxAge net policy := by
  have hloop : ((splitlines policy.toList).foldl (policyLine net) out).maxAge =
      policyMaxAge net policy := by
    rw [foldl_policyLine]
    refine (maxAge_foldl_applyField out h).trans ?_
    rw [hage, policyMaxAge, policyFields]
    cases (List.filter _ _).getLast? <;> rfl
  unfold readPolicy
  dsimp only
  split
  · exact hloop
  · exact hloop

theorem mxPatterns_readPolicy (hmx : out.mxPatterns = []) :
    (readPolicy net out policy).mxPatterns = policyMx net policy := by
  have hloop : ((splitlines policy.toList).foldl (policyLine net) out).mxPatterns =
      policyMx net policy := by
    rw [foldl_policyLine, mxPatterns_foldl_applyField, hmx]
    rfl
  unfold readPolicy
  dsimp only
  split
  · exact hloop
  · exact hloop

end

/-! ## 受け入れるための条件 -/

/-- MX のある domain の、TXT の record と、取れた policy の文。 -/
structure Answers (net : Net) (domain : String) (records : List (List Bytes)) (policy : String) :
    Prop where
  mx : ∃ rrs, net.mx domain = .records rrs
  txt : net.txt ("_mta-sts." ++ domain) = .records records
  fetched : fetchPolicy net domain = .policy policy

section
variable {domain policy : String} {a : Accepted}

theorem accepted_ne_of_error {sts : Sts} (h : fetchMtaSts net domain = .ok sts)
    (herror : sts.error ≠ none) : accepted net domain ≠ some a := by
  rw [accepted, h]
  dsimp only
  rw [if_neg herror]
  exact fun h => by cases h

/-- policy の文まで読めば、policy の形だけで決まる。 -/
theorem accepted_readPolicy_iff {out : Sts} (hmode : out.mode = none) (herror : out.error = none)
    (hage : out.maxAge = none) (hmx : out.mxPatterns = [])
    (h : fetchMtaSts net domain = .ok (readPolicy net out policy)) :
    accepted net domain = some a ↔ MaxAgesReadable net policy ∧ a.mode ∈ POLICY_MODES ∧
      policyMode net policy = some a.mode ∧ policyMaxAge net policy = a.maxAge ∧
        policyMx net policy = a.mxPatterns := by
  have hwell := @error_readPolicy_eq_none_iff net out hmode herror policy
  by_cases hwf : WellFormedPolicy net policy
  · obtain ⟨m, hm, hmodeEq⟩ := hwf.mode
    rw [accepted, h]
    dsimp only
    rw [if_pos (hwell.mpr hwf), mode_readPolicy hmode, hmodeEq,
      maxAge_readPolicy hage hwf.maxAge, mxPatterns_readPolicy hmx, Option.map_some,
      Option.some.injEq]
    constructor
    · rintro rfl
      exact ⟨hwf.maxAge, hm, rfl, rfl, rfl⟩
    · rintro ⟨-, -, hmodes, hages, hmxs⟩
      obtain ⟨mode, maxAge, mxPatterns⟩ := a
      rw [Accepted.mk.injEq]
      exact ⟨Option.some.inj hmodes, hages, hmxs⟩
  · refine iff_of_false (accepted_ne_of_error h (mt hwell.mp hwf)) ?_
    rintro ⟨hages, hmem, hmodes, -⟩
    exact hwf ⟨⟨a.mode, hmem, hmodes⟩, hages⟩

/-- **code が policy を受け入れるのは、record から `id` を読み、policy の形が整っているときである。** -/
theorem accepted_eq_some_iff {records : List (List Bytes)} (h : Answers net domain records policy) :
    accepted net domain = some a ↔ RecordRead net records ∧ MaxAgesReadable net policy ∧
      a.mode ∈ POLICY_MODES ∧ policyMode net policy = some a.mode ∧
        policyMaxAge net policy = a.maxAge ∧ policyMx net policy = a.mxPatterns := by
  obtain ⟨rrs, hmx⟩ := h.mx
  cases hjoin : joinTxt net records with
  | error e =>
    have hsts : fetchMtaSts net domain = .ok
        { mxHosts := sortedHosts rrs, error := some ("dns-error TXT: " ++ e) } := by
      simp only [fetchMtaSts, hmx, h.txt, hjoin]
    refine iff_of_false (accepted_ne_of_error hsts (by simp)) ?_
    rintro ⟨⟨txt, htxt, -⟩, -⟩
    cases hjoin.symm.trans htxt
  | ok txt =>
    cases hid : stsId txt.toList with
    | none =>
      have hsts : fetchMtaSts net domain = .ok
          { mxHosts := sortedHosts rrs, txt := some txt
            error := some "malformed _mta-sts TXT (missing v=STSv1/id)" } := by
        simp only [fetchMtaSts, hmx, h.txt, hjoin, hid]
      refine iff_of_false (accepted_ne_of_error hsts (by simp)) ?_
      rintro ⟨⟨txt', htxt', hsome⟩, -⟩
      cases hjoin.symm.trans htxt'
      rw [hid] at hsome
      cases hsome
    | some policyId =>
      have hsts : fetchMtaSts net domain = .ok (readPolicy net
          { mxHosts := sortedHosts rrs, txt := some txt, policy := some policy
            policyId := some (String.ofList policyId) } policy) := by
        simp only [fetchMtaSts, hmx, h.txt, hjoin, hid, h.fetched]
      have hread : RecordRead net records := ⟨txt, hjoin, by rw [hid]; rfl⟩
      exact (accepted_readPolicy_iff rfl rfl rfl rfl hsts).trans (and_iff_right hread).symm

end

/-! ## 二つの読み -/

/-- RFC の受け入れた policy を、code の形で書いたもの。 -/
def RfcPolicy.toAccepted (p : RfcPolicy) : Accepted := ⟨p.mode, some (p.maxAge : Int), p.mx⟩

/--
二つの読みが同じになる条件。RFC の受け入れる policy では、code も record の `id` を読み、どの `max_age` も読め、
最後の mode と `max_age`、それに mx が RFC のものと同じである。RFC の退ける policy では、code が record の `id`
を読まないか、最後の mode が mode でないか、読めない `max_age` がある。
-/
def Conforms (net : Net) (records : List (List Bytes)) (policy : String) : Prop :=
  match rfcPolicy records policy with
  | some p =>
    RecordRead net records ∧ MaxAgesReadable net policy ∧ policyMode net policy = some p.mode ∧
      policyMaxAge net policy = some (p.maxAge : Int) ∧ policyMx net policy = p.mx
  | none =>
    ¬RecordRead net records ∨ (∀ mode ∈ POLICY_MODES, policyMode net policy ≠ some mode) ∨
      ¬MaxAgesReadable net policy

/-- **`_fetch_mta_sts` が RFC のとおりに受け入れるのは、二つの読みが同じになるときである。** -/
theorem accepted_eq_rfc_iff {domain policy : String} {records : List (List Bytes)}
    (h : Answers net domain records policy) :
    accepted net domain = (rfcPolicy records policy).map RfcPolicy.toAccepted ↔
      Conforms net records policy := by
  unfold Conforms
  cases hrfc : rfcPolicy records policy with
  | some p =>
    rw [Option.map_some, accepted_eq_some_iff h]
    exact and_congr_right fun _ => and_congr_right fun _ =>
      and_iff_right (mode_mem_of_rfcPolicy hrfc)
  | none =>
    rw [Option.map_none, Option.eq_none_iff_forall_ne_some]
    dsimp only
    constructor
    · intro hnone
      by_contra hread
      simp only [not_or, not_not, not_forall] at hread
      obtain ⟨hrecord, ⟨mode, hmem, hmode⟩, hages⟩ := hread
      exact hnone ⟨mode, policyMaxAge net policy, policyMx net policy⟩
        ((accepted_eq_some_iff h).mpr ⟨hrecord, hages, hmem, hmode, rfl, rfl⟩)
    · rintro hread a ha
      obtain ⟨hrecord, hages, hmem, hmode, -⟩ := (accepted_eq_some_iff h).mp ha
      rcases hread with hread | hread | hread
      · exact hread hrecord
      · exact hread a.mode hmem hmode
      · exact hread hages

/-! ## 食い違う policy -/

/-- `a.test` は record `records` と、文 `policy` の policy を公開している。 -/
def hostedNet (records : List (List Bytes)) (policy : String) : Net where
  lower s := String.ofList (s.toList.map Char.toLower)
  repr s := "'" ++ s ++ "'"
  decodeError _ := "'utf-8' codec can't decode bytes"
  sha256 _ := ""
  sha512 _ := ""
  spki _ := none
  mx _ := .records [⟨10, "mx.a.test."⟩]
  txt _ := .records records
  tlsa _ := .nxdomain
  trustAnchor := none
  dnskey _ := none
  parent _ := none
  validate _ _ _ _ _ := false
  addresses _ := .ok [{ text := "93.184.216.34" }]
  get _ _ := .ok { status := 200, content := policy.toUTF8.toList }
  urljoin _ location := .ok location
  urlparse _ := .ok ("https", "mta-sts.a.test")

/-- `id` を持つ一つの record。 -/
def oneRecord : List (List Bytes) := [["v=STSv1; id=1;".toUTF8.toList]]

/-- 整った policy。 -/
def plainPolicy : String := "version: STSv1
mode: enforce
mx: mx.a.test
max_age: 86400
"

theorem accepted_eq_rfc_iff_plain :
    accepted (hostedNet oneRecord plainPolicy) "a.test" =
      (rfcPolicy oneRecord plainPolicy).map RfcPolicy.toAccepted ↔
        Conforms (hostedNet oneRecord plainPolicy) oneRecord plainPolicy :=
  accepted_eq_rfc_iff ⟨⟨_, rfl⟩, rfl, by decide +kernel⟩

/-- version と `max_age` の無い policy も、二つの record の policy も受け入れ、mode は最後のものを採る。 -/
theorem accepted_ne_rfc :
    accepted (hostedNet oneRecord "mode: enforce\n") "a.test" ≠
      (rfcPolicy oneRecord "mode: enforce\n").map RfcPolicy.toAccepted ∧
    rfcPolicy oneRecord "mode: enforce
" = none ∧
    accepted (hostedNet oneRecord "mode: enforce
") "a.test" = some ⟨"enforce", none, []⟩ ∧
    rfcPolicy (oneRecord ++ oneRecord) plainPolicy = none ∧
    accepted (hostedNet (oneRecord ++ oneRecord) plainPolicy) "a.test" =
      some ⟨"enforce", some 86400, ["mx.a.test"]⟩ ∧
    rfcPolicy oneRecord (plainPolicy ++ "mode: none
") = some ⟨"enforce", 86400, ["mx.a.test"]⟩ ∧
    accepted (hostedNet oneRecord (plainPolicy ++ "mode: none
")) "a.test" =
      some ⟨"none", some 86400, ["mx.a.test"]⟩ := by
  refine ⟨?_, ?_, ?_, ?_, ?_, ?_, ?_⟩ <;> decide +kernel

end CipherPost.Proactive
