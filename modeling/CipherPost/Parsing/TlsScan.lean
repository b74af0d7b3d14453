import CipherPost.Parsing.StarttlsSplit

/-!
# TLS の始まりの走査

`find_tls_offset` を、走査の上限 `max_scan` も引数にして読む。返る位置は、種類と版の知られた record が丸ごと
入っている最初の位置である。

* `RecordAt` — その位置に record が丸ごとあること
* `recordAt_iff` — `_valid_record_at` の判定
* `findTlsOffsetWithin` — `max_scan` を引数に持つ `find_tls_offset`
* `findTlsOffset_exact` — 平文の後の record を見つけることと、返る位置の意味
* `tlsTransition_plain` — 平文だけの client の stream
* `server_split` — server の側の分割
-/

namespace CipherPost.Parsing

/-! ## record の位置 -/

/-- `data` の位置 `pos` に、種類と版の知られた record が丸ごとある。 -/
def RecordAt (data : Bytes) (pos : Nat) : Prop :=
  ∃ r : TlsRecord, r.Recognized ∧ ∃ rest, At data pos (r.encode ++ rest)

section
variable {data : Bytes} {pos : Nat}

/-- header を読んだ判定。二 byte の長さは上限を越えない。 -/
theorem validRecordAt_header {ct v₁ v₀ l₁ l₀ : UInt8} {body : Bytes}
    (h : At data pos (ct :: v₁ :: v₀ :: l₁ :: l₀ :: body)) :
    (validRecordAt data pos).isSome = true ↔
      ct.toNat ∈ [20, 21, 22, 23] ∧
        v₁.toNat * 256 + v₀.toNat ∈ [0x0300, 0x0301, 0x0302, 0x0303, 0x0304] ∧
        l₁.toNat * 256 + l₀.toNat ≤ body.length := by
  have hlen : data.length = pos + (body.length + 5) := h.length
  have hct : fromBytes (slice data pos (pos + 1)) = ct.toNat := by
    rw [slice_at (x := [ct]) (n := 1) h rfl, fromBytes, List.foldl_cons, List.foldl_nil,
      Nat.zero_mul, Nat.zero_add]
  have hversion : fromBytes (slice data (pos + 1) (pos + 3)) = v₁.toNat * 256 + v₀.toNat := by
    rw [slice_at (x := [v₁, v₀]) (n := 2) h.tail rfl]
    exact value_two v₁ v₀
  have hlength : fromBytes (slice data (pos + 3) (pos + 5)) = l₁.toNat * 256 + l₀.toNat := by
    rw [slice_at (x := [l₁, l₀]) (n := 2) h.tail.tail.tail rfl]
    exact value_two l₁ l₀
  have hl₁ : l₁.toNat < 256 := l₁.toNat_lt
  have hl₀ : l₀.toNat < 256 := l₀.toNat_lt
  rw [validRecordAt, if_neg (by omega), hct, hversion, hlength]
  dsimp only
  by_cases hknown : ct.toNat ∈ [20, 21, 22, 23]
  · rw [if_neg (not_not_intro hknown)]
    by_cases hver : v₁.toNat * 256 + v₀.toNat ∈ [0x0300, 0x0301, 0x0302, 0x0303, 0x0304]
    · rw [if_neg (not_not_intro hver), if_neg (by omega)]
      by_cases hbody : l₁.toNat * 256 + l₀.toNat ≤ body.length
      · rw [if_neg (by omega)]
        exact iff_of_true rfl ⟨hknown, hver, hbody⟩
      · rw [if_pos (by omega)]
        exact iff_of_false (by decide) fun hc => hbody hc.2.2
    · rw [if_pos hver]
      exact iff_of_false (by decide) fun hc => hver hc.2.1
  · rw [if_pos hknown]
    exact iff_of_false (by decide) fun hc => hknown hc.1

/-- **`_valid_record_at` の判定は、record が丸ごとあることである。** -/
theorem recordAt_iff : (validRecordAt data pos).isSome = true ↔ RecordAt data pos := by
  constructor
  · intro h
    have hlen : pos + 5 ≤ data.length := by
      by_contra hshort
      rw [validRecordAt, if_pos (by omega)] at h
      cases h
    have hfive : 5 ≤ (data.drop pos).length := by
      rw [List.length_drop]
      omega
    obtain ⟨ct, v₁, v₀, l₁, l₀, body, hdrop⟩ := exists_header hfive
    have hat : At data pos (ct :: v₁ :: v₀ :: l₁ :: l₀ :: body) := by
      refine ⟨hdrop, ?_⟩
      have hl := congrArg List.length hdrop
      rw [List.length_drop] at hl
      omega
    obtain ⟨hct, hversion, hbody⟩ := (validRecordAt_header hat).mp h
    have htake : (body.take (l₁.toNat * 256 + l₀.toNat)).length = l₁.toNat * 256 + l₀.toNat :=
      List.length_take_of_le hbody
    have hl₁ : l₁.toNat < 256 := l₁.toNat_lt
    have hl₀ : l₀.toNat < 256 := l₀.toNat_lt
    have hv₁ : v₁.toNat < 256 := v₁.toNat_lt
    have hv₀ : v₀.toNat < 256 := v₀.toNat_lt
    refine ⟨⟨ct.toNat, v₁.toNat * 256 + v₀.toNat, body.take (l₁.toNat * 256 + l₀.toNat)⟩,
      ⟨⟨hct, ?_, ?_⟩, hversion⟩, body.drop (l₁.toNat * 256 + l₀.toNat), ?_⟩
    · show v₁.toNat * 256 + v₀.toNat < 65536
      omega
    · show (body.take _).length ≤ 65535
      omega
    · rw [encode_header htake]
      show At data pos (ct :: v₁ :: v₀ :: l₁ :: l₀ :: (body.take _ ++ body.drop _))
      rwa [List.take_append_drop]
  · rintro ⟨r, hr, rest, hat⟩
    obtain ⟨ct, v₁, v₀, l₁, l₀, henc, hct, hversion, hlength⟩ := hr.1.exists_header
    have hbytes : At data pos (ct :: v₁ :: v₀ :: l₁ :: l₀ :: (r.payload ++ rest)) := by
      rw [henc] at hat
      exact hat
    refine (validRecordAt_header hbytes).mpr ?_
    rw [hct, hversion, hlength]
    refine ⟨hr.1.contentType, hr.2, ?_⟩
    rw [List.length_append]
    omega

/-- record は、その種類の byte で始まる。 -/
theorem RecordAt.getElem? (h : RecordAt data pos) :
    ∃ b : UInt8, data[pos]? = some b ∧ b.toNat ∈ [20, 21, 22, 23] := by
  obtain ⟨r, hr, rest, hat⟩ := h
  obtain ⟨ct, v₁, v₀, l₁, l₀, henc, hct, -, -⟩ := hr.1.exists_header
  rw [henc] at hat
  exact ⟨ct, hat.getElem?, hct ▸ hr.1.contentType⟩

/-- record は header の五 byte より長い所までを占める。 -/
theorem RecordAt.lt (h : RecordAt data pos) : pos + 5 ≤ data.length := by
  obtain ⟨r, -, rest, hat⟩ := h
  have hlen := hat.length
  rw [List.length_append, r.length_encode] at hlen
  omega

end

/-! ## 走査 -/

/-- `find_tls_offset(data, max_scan)`。 -/
def findTlsOffsetWithin (data : Bytes) (maxScan : Int) : Option Nat :=
  if data = [] then none
  else
    let limit := min ((data.length : Int) - 5) maxScan
    (List.range (limit + 1).toNat).find? fun pos => (validRecordAt data pos).isSome

/-- 既定の上限では `findTlsOffset` である。 -/
theorem findTlsOffsetWithin_default (data : Bytes) :
    findTlsOffsetWithin data 8192 = findTlsOffset data := by
  unfold findTlsOffsetWithin findTlsOffset
  by_cases hshort : data.length < 5
  · rw [if_pos hshort]
    split
    · rfl
    · have hzero : (min ((data.length : Int) - 5) 8192 + 1).toNat = 0 := by omega
      dsimp only
      rw [hzero]
      rfl
  · have hne : data ≠ [] := by
      rintro rfl
      exact hshort (by decide)
    have hcount : (min ((data.length : Int) - 5) 8192 + 1).toNat =
        min (data.length - 5) 8192 + 1 := by omega
    rw [if_neg hshort, if_neg hne]
    dsimp only
    rw [hcount]

/-- **走査の返す位置。** 上限までの、record が丸ごとある最初の位置である。 -/
theorem findTlsOffsetWithin_eq_some_iff {data : Bytes} {maxScan : Int} {off : Nat} :
    findTlsOffsetWithin data maxScan = some off ↔
      (off : Int) ≤ maxScan ∧ RecordAt data off ∧ ∀ pos, pos < off → ¬RecordAt data pos := by
  unfold findTlsOffsetWithin
  split
  · next hnil =>
    refine iff_of_false nofun fun h => ?_
    have hlen := h.2.1.lt
    rw [hnil] at hlen
    exact absurd hlen (by simp)
  · dsimp only
    rw [List.find?_range_eq_some, List.mem_range]
    constructor
    · rintro ⟨hrec, hlt, hmin⟩
      refine ⟨by omega, recordAt_iff.mp hrec, fun pos hpos hat => ?_⟩
      have hmiss := hmin pos hpos
      rw [recordAt_iff.mpr hat] at hmiss
      cases hmiss
    · rintro ⟨hle, hrec, hmin⟩
      have hlen := hrec.lt
      refine ⟨recordAt_iff.mpr hrec, by omega, fun pos hpos => ?_⟩
      rw [Bool.not_eq_true', Bool.eq_false_iff]
      exact fun hsome => hmin pos hpos (recordAt_iff.mp hsome)

/-- 種類の byte を含まない平文の中からは、record は始まらない。 -/
theorem not_recordAt_plain {plain rest : Bytes} (h : ∀ b ∈ plain, b.toNat ∉ [20, 21, 22, 23])
    {pos : Nat} (hpos : pos < plain.length) : ¬RecordAt (plain ++ rest) pos := by
  intro hat
  obtain ⟨b, hget, hb⟩ := hat.getElem?
  rw [List.getElem?_append_left hpos, List.getElem?_eq_getElem hpos] at hget
  obtain rfl := Option.some.inj hget
  exact h _ (List.getElem_mem hpos) hb

/-- 平文の後の record の位置。 -/
theorem findTlsOffsetWithin_plain {plain rest : Bytes} {r : TlsRecord} {maxScan : Int}
    (hscan : (plain.length : Int) ≤ maxScan) (hplain : ∀ b ∈ plain, b.toNat ∉ [20, 21, 22, 23])
    (hr : r.Recognized) :
    findTlsOffsetWithin (plain ++ (r.encode ++ rest)) maxScan = some plain.length := by
  refine findTlsOffsetWithin_eq_some_iff.mpr ⟨hscan, ⟨r, hr, rest, At.append _ _⟩, ?_⟩
  exact fun pos hpos => not_recordAt_plain hplain hpos

/-- 種類の byte を含まない client の stream では、TLS は始まらない。 -/
theorem tlsTransition_plain {client : Bytes} (h : ∀ b ∈ client, b.toNat ∉ [20, 21, 22, 23])
    (protocol : Protocol) : tlsTransition false protocol client = (none, false) := by
  have hstart : starttlsTransition protocol client = none := by
    rw [Option.eq_none_iff_forall_ne_some]
    intro off hsome
    obtain ⟨-, -, hfind⟩ := starttlsTransition_eq_some.mp hsome
    rw [← findTlsOffsetWithin_default] at hfind
    obtain ⟨b, hget, hb⟩ := (findTlsOffsetWithin_eq_some_iff.mp hfind).2.1.getElem?
    exact h b (List.mem_of_mem_drop (List.mem_of_getElem? hget)) hb
  have hrecord : recordTransition client = none := by
    unfold recordTransition
    split
    · next first rs hparse =>
      obtain ⟨hvalid, -, rest, hdata, -⟩ := encode_parseRecordsFrom (At.start client) hparse
      obtain ⟨ct, v₁, v₀, l₁, l₀, henc, hct, -, -⟩ := (hvalid first List.mem_cons_self).exists_header
      refine absurd (hct ▸ (hvalid first List.mem_cons_self).contentType) (h ct ?_)
      rw [hdata, encodeRecords, List.flatMap_cons, henc]
      exact List.mem_append_left _ (List.mem_append_left _ List.mem_cons_self)
    · rfl
  simp only [tlsTransition, hstart, hrecord]
  rfl

/--
**走査の正しさ。** 上限より長くなく、種類の byte を含まない平文の後に record が続けば、続きが何であっても平文の
長さが返る。どの bytes でも、返った位置には record が丸ごとあり、それより前には無い。
-/
theorem findTlsOffset_exact (maxScan : Int) :
    (∀ (plain rest : Bytes) (r : TlsRecord), (plain.length : Int) ≤ maxScan →
        (∀ b ∈ plain, b.toNat ∉ [20, 21, 22, 23]) → r.Recognized →
        findTlsOffsetWithin (plain ++ (r.encode ++ rest)) maxScan = some plain.length) ∧
      ∀ (data : Bytes) (off : Nat), findTlsOffsetWithin data maxScan = some off →
        RecordAt data off ∧ ∀ pos, pos < off → ¬RecordAt data pos := by
  constructor
  · intro plain rest r hscan hplain hr
    exact findTlsOffsetWithin_plain hscan hplain hr
  · intro data off h
    exact (findTlsOffsetWithin_eq_some_iff.mp h).2

/-- 空の handshake の record。 -/
def bareRecord : TlsRecord := ⟨22, 0x0303, []⟩

theorem findTlsOffset_exact_reply :
    findTlsOffsetWithin (ascii "220 ready\x0d\x0a" ++ (bareRecord.encode ++ [1, 2])) 11 = some 11 ∧
      RecordAt (ascii "220 ready\x0d\x0a" ++ (bareRecord.encode ++ [1, 2])) 11 := by
  have hplain : (ascii "220 ready\x0d\x0a").all
      (fun b => decide (b.toNat ∉ [20, 21, 22, 23])) = true := by decide
  have hfound := (findTlsOffset_exact 11).1 (ascii "220 ready\x0d\x0a") [1, 2] bareRecord (by decide)
    (fun b hb => of_decide_eq_true (List.all_eq_true.mp hplain b hb))
    ⟨⟨by decide, by decide, by decide⟩, by decide⟩
  exact ⟨hfound, ((findTlsOffset_exact 11).2 _ _ hfound).1⟩

/-! ## server の側 -/

/-- TLS の始まる session で、server の stream は平文とその後の record の列に分かれる。 -/
theorem server_split {sess : Session} {client plain rest : Bytes} {r : TlsRecord}
    (htls : (tlsTransition (decide (sess.serverPort ∈ IMPLICIT_TLS_PORTS)) sess.protocol client).1
      ≠ none) (hscan : plain.length ≤ 8192) (hplain : ∀ b ∈ plain, b.toNat ∉ [20, 21, 22, 23])
    (hr : r.Recognized) :
    (assignTlsSegments sess client (plain ++ (r.encode ++ rest))).plaintextServerSegment = plain ∧
      (assignTlsSegments sess client (plain ++ (r.encode ++ rest))).tlsServerSegment =
        r.encode ++ rest := by
  have hfound : findTlsOffset (plain ++ (r.encode ++ rest)) = some plain.length := by
    rw [← findTlsOffsetWithin_default]
    exact findTlsOffsetWithin_plain (by omega) hplain hr
  unfold assignTlsSegments
  dsimp only
  cases htrans : tlsTransition (decide (sess.serverPort ∈ IMPLICIT_TLS_PORTS)) sess.protocol client
    with
  | mk offset starttls =>
    cases offset with
    | none => exact absurd (congrArg Prod.fst htrans) htls
    | some offset =>
      have hlt : plain.length < (plain ++ (r.encode ++ rest)).length := by
        rw [List.length_append, List.length_append, r.length_encode]
        omega
      dsimp only
      rw [hfound]
      dsimp only
      rw [if_pos hlt]
      exact ⟨List.take_left, List.drop_left⟩

end CipherPost.Parsing
