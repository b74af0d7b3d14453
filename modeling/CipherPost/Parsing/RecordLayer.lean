import CipherPost.Infra.Wire
import CipherPost.Parsing.SessionAnalysis

/-!
# record の往復

`parse_tls_records` は、並べた record を書いたとおりに読み、途中で切れた最後の record の手前で止まる。
逆に、読めた record を書き直すと入力の先頭になり、残りは一つの record に足りない。

* `TlsRecord.encode` — 形式どおりの record
* `parseTlsRecordsUpTo` — `max_records` を引数に持つ parser
* `parseRecordsFrom_header`・`parseRecordsFrom_cases` — loop の一周
* `parseRecordsFrom_encode`・`encode_parseRecordsFrom` — 二つの向き
* `parse_encode_records` — 往復
-/

namespace CipherPost.Parsing

/-! ## 位置と読み方 -/

section
variable {buf x rest : Bytes} {pos n : Nat}

theorem index_at {b : UInt8} (h : At buf pos (b :: rest)) : index buf pos = .ok b := by
  rw [index, h.getElem?]

/-- 位置 `pos` の `n` byte。 -/
theorem slice_at (h : At buf pos (x ++ rest)) (hn : x.length = n) : slice buf pos (pos + n) = x := by
  rw [slice, Nat.add_sub_cancel_left, h.take hn]

/-- 位置 `pos` の big-endian の整数。 -/
theorem number_at {k : Nat} (h : At buf pos (Wire.be k n ++ rest)) (hn : n < 256 ^ k) :
    fromBytes (slice buf pos (pos + k)) = n := by
  rw [slice_at h (Wire.length_be k n)]
  exact Wire.value_be_of_lt hn

end

/-! ## 形式 -/

namespace TlsRecord

/-- 形式どおりの record。 -/
def encode (r : TlsRecord) : Bytes :=
  UInt8.ofNat r.contentType :: (Wire.be 2 r.version ++ Wire.vec 2 r.payload)

/-- 種類が知られ、版と長さが二 byte に収まる。 -/
structure Valid (r : TlsRecord) : Prop where
  contentType : r.contentType ∈ [20, 21, 22, 23]
  version : r.version < 65536
  payload : r.payload.length ≤ 65535

@[simp] theorem length_encode (r : TlsRecord) : r.encode.length = 5 + r.payload.length := by
  rw [encode, List.length_cons, List.length_append, Wire.length_be, Wire.length_vec]
  omega

end TlsRecord

/-- 並べた record。 -/
def encodeRecords (rs : List TlsRecord) : Bytes := rs.flatMap TlsRecord.encode

theorem encodeRecords_cons (r : TlsRecord) (rs : List TlsRecord) :
    encodeRecords (r :: rs) = r.encode ++ encodeRecords rs := List.flatMap_cons

/-- 二 byte の整数。 -/
theorem be_two (n : Nat) : Wire.be 2 n = [UInt8.ofNat (n / 256), UInt8.ofNat n] := rfl

theorem value_two (a b : UInt8) : Wire.value [a, b] = a.toNat * 256 + b.toNat := by
  rw [Wire.value, List.foldl_cons, List.foldl_cons, List.foldl_nil, Nat.zero_mul, Nat.zero_add]

/-- header の五 byte と、その値。 -/
theorem TlsRecord.Valid.exists_header {r : TlsRecord} (h : r.Valid) : ∃ ct v₁ v₀ l₁ l₀ : UInt8,
    r.encode = ct :: v₁ :: v₀ :: l₁ :: l₀ :: r.payload ∧ ct.toNat = r.contentType ∧
      v₁.toNat * 256 + v₀.toNat = r.version ∧ l₁.toNat * 256 + l₀.toNat = r.payload.length := by
  have hct : r.contentType < 256 := by
    have := h.contentType
    simp only [List.mem_cons, List.not_mem_nil, or_false] at this
    omega
  have htwo : ∀ {n}, n < 65536 → (UInt8.ofNat (n / 256)).toNat * 256 + (UInt8.ofNat n).toNat = n := by
    intro n hn
    rw [← value_two, ← be_two]
    exact Wire.value_be_of_lt hn
  refine ⟨_, _, _, _, _, rfl, ?_, htwo h.version, htwo (Nat.lt_succ_of_le h.payload)⟩
  exact UInt8.toNat_ofNat_of_lt' hct

/-! ## loop の一周 -/

section
variable {data rest : Bytes} {pos : Nat}

/-- header に足りない残りで止まる。 -/
theorem parseRecordsFrom_short (h : At data pos rest) (hshort : rest.length < 5) :
    ∀ n, parseRecordsFrom data n pos = .ok []
  | 0 => rfl
  | n + 1 => by
    have hlen := h.length
    rw [parseRecordsFrom, if_pos (by omega)]

/-- header を読んだ一周。二 byte の長さは上限を越えない。 -/
theorem parseRecordsFrom_header {ct v₁ v₀ l₁ l₀ : UInt8} {body : Bytes}
    (h : At data pos (ct :: v₁ :: v₀ :: l₁ :: l₀ :: body)) (n : Nat) :
    parseRecordsFrom data (n + 1) pos =
      if ct.toNat ∉ [20, 21, 22, 23] then
        .error (.tlsParse ("invalid TLS content type 0x" ++ hexPad 2 ct.toNat ++ " at offset " ++
          toString pos))
      else if body.length < l₁.toNat * 256 + l₀.toNat then .ok []
      else
        (parseRecordsFrom data n (pos + 5 + (l₁.toNat * 256 + l₀.toNat))).map
          (⟨ct.toNat, v₁.toNat * 256 + v₀.toNat, body.take (l₁.toNat * 256 + l₀.toNat)⟩ :: ·) := by
  have hlen : data.length = pos + (body.length + 5) := h.length
  have h₁ : At data (pos + 1) (v₁ :: v₀ :: l₁ :: l₀ :: body) := h.tail
  have h₂ : At data (pos + 2) (v₀ :: l₁ :: l₀ :: body) := h₁.tail
  have h₃ : At data (pos + 3) (l₁ :: l₀ :: body) := h₂.tail
  have h₄ : At data (pos + 4) (l₀ :: body) := h₃.tail
  have h₅ : At data (pos + 5) body := h₄.tail
  have hl₁ : l₁.toNat < 256 := l₁.toNat_lt
  have hl₀ : l₀.toNat < 256 := l₀.toNat_lt
  rw [parseRecordsFrom, if_neg (by omega), index_at h, index_at h₁, index_at h₂, index_at h₃,
    index_at h₄]
  show (if ct.toNat ∉ [20, 21, 22, 23] then _ else _) = _
  by_cases hct : ct.toNat ∉ [20, 21, 22, 23]
  · rw [if_pos hct, if_pos hct]
  · rw [if_neg hct, if_neg hct]
    show (if 65535 + 2048 < l₁.toNat * 256 + l₀.toNat then _ else _) = _
    rw [if_neg (by omega)]
    show (if data.length - pos - 5 < l₁.toNat * 256 + l₀.toNat then _ else _) = _
    have hbody : data.length - pos - 5 = body.length := by omega
    rw [hbody]
    by_cases hshort : body.length < l₁.toNat * 256 + l₀.toNat
    · rw [if_pos hshort, if_pos hshort]
    · rw [if_neg hshort, if_neg hshort]
      have hslice : slice data (pos + 5) (pos + 5 + (l₁.toNat * 256 + l₀.toNat)) =
          body.take (l₁.toNat * 256 + l₀.toNat) := by
        rw [slice, Nat.add_sub_cancel_left, h₅.drop]
      show (parseRecordsFrom data n _ >>= fun rest => _) = _
      rw [hslice]
      cases parseRecordsFrom data n (pos + 5 + (l₁.toNat * 256 + l₀.toNat)) <;> rfl

end

/-! ## 書いて読む -/

section
variable {data rest : Bytes} {pos : Nat}

/-- 書いた record は一周で読める。 -/
theorem parseRecordsFrom_cons {r : TlsRecord} (hr : r.Valid) (h : At data pos (r.encode ++ rest))
    (n : Nat) : parseRecordsFrom data (n + 1) pos =
      (parseRecordsFrom data n (pos + r.encode.length)).map (r :: ·) := by
  obtain ⟨ct, v₁, v₀, l₁, l₀, henc, hct, hv, hl⟩ := hr.exists_header
  have hat : At data pos (ct :: v₁ :: v₀ :: l₁ :: l₀ :: (r.payload ++ rest)) := by
    rw [henc] at h
    exact h
  rw [parseRecordsFrom_header hat, hct, hv, hl, if_neg (not_not_intro hr.contentType), if_neg,
    List.take_left, r.length_encode, Nat.add_assoc]
  rw [List.length_append]
  omega

/-- 書いた record の列は、続きが何であっても読める。 -/
theorem parseRecordsFrom_encode : ∀ {rs : List TlsRecord} {pos n : Nat}, (∀ r ∈ rs, r.Valid) →
    At data pos (encodeRecords rs ++ rest) → rs.length ≤ n →
    parseRecordsFrom data n pos =
      (parseRecordsFrom data (n - rs.length) (pos + (encodeRecords rs).length)).map (rs ++ ·) := by
  intro rs
  induction rs with
  | nil =>
    intro pos n _ _ _
    show _ = (parseRecordsFrom data n pos).map _
    cases parseRecordsFrom data n pos <;> rfl
  | cons r rs ih =>
    intro pos n hvalid h hn
    obtain ⟨hr, hrs⟩ := List.forall_mem_cons.mp hvalid
    rw [encodeRecords_cons, List.append_assoc] at h
    cases n with
    | zero => cases hn
    | succ n =>
      have hnext : At data (pos + r.encode.length) (encodeRecords rs ++ rest) := h.skip rfl
      have hfuel : n + 1 - (r :: rs).length = n - rs.length := by
        rw [List.length_cons, Nat.add_sub_add_right]
      have hstop : pos + (encodeRecords (r :: rs)).length =
          pos + r.encode.length + (encodeRecords rs).length := by
        rw [encodeRecords_cons, List.length_append, Nat.add_assoc]
      rw [parseRecordsFrom_cons hr h, ih hrs hnext (Nat.le_of_succ_le_succ hn), hfuel, hstop]
      cases parseRecordsFrom data (n - rs.length) _ <;> rfl

/-- 一つの record に足りない残り。 -/
def Unfinished (rest : Bytes) : Prop :=
  rest.length < 5 ∨ rest.length < 5 + fromBytes (slice rest 3 5)

/-- 途中で切れた record では止まる。 -/
theorem parseRecordsFrom_cut {r : TlsRecord} (hr : r.Valid) {k : Nat} (hk : k < r.encode.length)
    (h : At data pos (r.encode.take k)) (n : Nat) : parseRecordsFrom data n pos = .ok [] := by
  have hlen : (r.encode.take k).length = k := by
    rw [List.length_take]
    omega
  by_cases hshort : k < 5
  · exact parseRecordsFrom_short h (by rw [hlen]; exact hshort) n
  · cases n with
    | zero => rfl
    | succ n =>
      obtain ⟨ct, v₁, v₀, l₁, l₀, henc, hct, -, hl⟩ := hr.exists_header
      obtain ⟨j, rfl⟩ : ∃ j, k = j + 5 := ⟨k - 5, by omega⟩
      rw [r.length_encode] at hk
      rw [henc] at h
      have hat : At data pos (ct :: v₁ :: v₀ :: l₁ :: l₀ :: r.payload.take j) := h
      rw [parseRecordsFrom_header hat, hct, hl, if_neg (not_not_intro hr.contentType), if_pos]
      rw [List.length_take]
      omega

end

/-! ## 読んで書く -/

section
variable {data : Bytes}

/-- 五 byte の header は、一つずつの byte に分かれる。 -/
theorem exists_header {rest : Bytes} (h : 5 ≤ rest.length) : ∃ ct v₁ v₀ l₁ l₀ : UInt8, ∃ body,
    rest = ct :: v₁ :: v₀ :: l₁ :: l₀ :: body := by
  match rest, h with
  | ct :: v₁ :: v₀ :: l₁ :: l₀ :: body, _ => exact ⟨ct, v₁, v₀, l₁, l₀, body, rfl⟩

theorem fromBytes_slice_header (ct v₁ v₀ l₁ l₀ : UInt8) (body : Bytes) :
    fromBytes (slice (ct :: v₁ :: v₀ :: l₁ :: l₀ :: body) 3 5) = l₁.toNat * 256 + l₀.toNat :=
  value_two l₁ l₀

/-- header と、その長さの payload を書き直すと、元の bytes である。 -/
theorem encode_header {ct v₁ v₀ l₁ l₀ : UInt8} {payload : Bytes}
    (hlen : payload.length = l₁.toNat * 256 + l₀.toNat) :
    (⟨ct.toNat, v₁.toNat * 256 + v₀.toNat, payload⟩ : TlsRecord).encode =
      ct :: v₁ :: v₀ :: l₁ :: l₀ :: payload := by
  have hversion : Wire.be 2 (v₁.toNat * 256 + v₀.toNat) = [v₁, v₀] := by
    rw [← value_two]
    exact Wire.be_value [v₁, v₀]
  have hpayload : Wire.vec 2 payload = [l₁, l₀] ++ payload :=
    Wire.vec_of_value rfl ((value_two l₁ l₀).trans hlen.symm)
  rw [TlsRecord.encode, hversion, hpayload, UInt8.ofNat_toNat]
  rfl

/--
loop の一周の三通り。残りが足りずに止まるか、種類の知られない header で例外を出すか、record を一つ
読んで進む。
-/
theorem parseRecordsFrom_cases {pos : Nat} {rest : Bytes} (h : At data pos rest) (n : Nat) :
    (Unfinished rest ∧ parseRecordsFrom data (n + 1) pos = .ok []) ∨
    (∃ ct left e, rest = ct :: left ∧ 4 ≤ left.length ∧ ct.toNat ∉ [20, 21, 22, 23] ∧
      parseRecordsFrom data (n + 1) pos = .error e) ∨
    ∃ r left, rest = r.encode ++ left ∧ r.Valid ∧
      parseRecordsFrom data (n + 1) pos =
        (parseRecordsFrom data n (pos + r.encode.length)).map (r :: ·) := by
  by_cases hshort : rest.length < 5
  · exact .inl ⟨.inl hshort, parseRecordsFrom_short h hshort (n + 1)⟩
  obtain ⟨ct, v₁, v₀, l₁, l₀, body, rfl⟩ := exists_header (Nat.le_of_not_lt hshort)
  have hheader := parseRecordsFrom_header h n
  by_cases hct : ct.toNat ∉ [20, 21, 22, 23]
  · rw [if_pos hct] at hheader
    exact .inr (.inl ⟨ct, _, _, rfl, Nat.le_add_left 4 body.length, hct, hheader⟩)
  rw [if_neg hct] at hheader
  by_cases hbody : body.length < l₁.toNat * 256 + l₀.toNat
  · rw [if_pos hbody] at hheader
    refine .inl ⟨.inr ?_, hheader⟩
    rw [fromBytes_slice_header]
    simp only [List.length_cons]
    omega
  · have htake : (body.take (l₁.toNat * 256 + l₀.toNat)).length = l₁.toNat * 256 + l₀.toNat := by
      rw [List.length_take]
      omega
    have hvalid : (⟨ct.toNat, v₁.toNat * 256 + v₀.toNat,
        body.take (l₁.toNat * 256 + l₀.toNat)⟩ : TlsRecord).Valid := by
      have hl₁ : l₁.toNat < 256 := l₁.toNat_lt
      have hl₀ : l₀.toNat < 256 := l₀.toNat_lt
      have hv₁ : v₁.toNat < 256 := v₁.toNat_lt
      have hv₀ : v₀.toNat < 256 := v₀.toNat_lt
      refine ⟨Decidable.not_not.mp hct, ?_, ?_⟩
      · show v₁.toNat * 256 + v₀.toNat < 65536
        omega
      · show (body.take _).length ≤ 65535
        omega
    refine .inr (.inr ⟨_, body.drop (l₁.toNat * 256 + l₀.toNat), ?_, hvalid, ?_⟩)
    · rw [encode_header htake]
      show _ = ct :: v₁ :: v₀ :: l₁ :: l₀ :: (body.take _ ++ body.drop _)
      rw [List.take_append_drop]
    · rw [hheader, if_neg hbody, TlsRecord.length_encode, htake, Nat.add_assoc]

/-- 読めた record を書き直すと入力のその位置からの先頭であり、数に余りがあれば残りは足りない。 -/
theorem encode_parseRecordsFrom : ∀ {n pos : Nat} {rest : Bytes} {rs : List TlsRecord},
    At data pos rest → parseRecordsFrom data n pos = .ok rs →
    (∀ r ∈ rs, r.Valid) ∧ rs.length ≤ n ∧
      ∃ left, rest = encodeRecords rs ++ left ∧ (rs.length < n → Unfinished left) := by
  intro n
  induction n with
  | zero =>
    intro pos rest rs _ hparse
    cases hparse
    exact ⟨List.forall_mem_nil _, Nat.le_refl _, rest, rfl, fun h => absurd h (Nat.lt_irrefl _)⟩
  | succ n ih =>
    intro pos rest rs h hparse
    rcases parseRecordsFrom_cases h n with ⟨hun, hok⟩ | ⟨_, _, _, _, _, _, herr⟩ |
      ⟨r, left, rfl, hr, hstep⟩
    · obtain rfl : [] = rs := Except.ok.inj (hok.symm.trans hparse)
      exact ⟨List.forall_mem_nil _, Nat.zero_le _, rest, rfl, fun _ => hun⟩
    · cases herr.symm.trans hparse
    · rw [hstep] at hparse
      cases hrest : parseRecordsFrom data n (pos + r.encode.length) with
      | error e =>
        rw [hrest] at hparse
        cases hparse
      | ok rs' =>
        rw [hrest] at hparse
        obtain rfl : r :: rs' = rs := Except.ok.inj hparse
        obtain ⟨hvalid, hle, left', rfl, hun⟩ := ih (h.skip rfl) hrest
        refine ⟨List.forall_mem_cons.mpr ⟨hr, hvalid⟩, Nat.succ_le_succ hle, left', ?_,
          fun hlt => hun (Nat.lt_of_succ_lt_succ hlt)⟩
        rw [encodeRecords_cons, List.append_assoc]

/-- 例外が出るのは、いくつかの record の後で、種類の知られない header に着いたときである。 -/
theorem exists_of_parseRecordsFrom_error : ∀ {n pos : Nat} {rest : Bytes} {e : ParseError},
    At data pos rest → parseRecordsFrom data n pos = .error e →
    ∃ rs ct left, rest = encodeRecords rs ++ ct :: left ∧ (∀ r ∈ rs, r.Valid) ∧ rs.length < n ∧
      4 ≤ left.length ∧ ct.toNat ∉ [20, 21, 22, 23] := by
  intro n
  induction n with
  | zero => exact fun _ h => by cases h
  | succ n ih =>
    intro pos rest e h hparse
    rcases parseRecordsFrom_cases h n with ⟨_, hok⟩ | ⟨ct, left, _, rfl, hfour, hct, _⟩ |
      ⟨r, left, rfl, hr, hstep⟩
    · cases hok.symm.trans hparse
    · exact ⟨[], ct, left, rfl, List.forall_mem_nil _, Nat.succ_pos n, hfour, hct⟩
    · rw [hstep] at hparse
      cases hrest : parseRecordsFrom data n (pos + r.encode.length) with
      | ok rs =>
        rw [hrest] at hparse
        cases hparse
      | error e' =>
        obtain ⟨rs, ct, left', rfl, hrs, hlt, hfour, hct⟩ := ih (h.skip rfl) hrest
        refine ⟨r :: rs, ct, left', ?_, List.forall_mem_cons.mpr ⟨hr, hrs⟩, Nat.succ_lt_succ hlt,
          hfour, hct⟩
        rw [encodeRecords_cons, List.append_assoc]

end

/-! ## 往復 -/

/--
`max_records` を引数に持つ `parse_tls_records`。数は record を足した後に確かめるので、`0` でも一つは
読む。
-/
def parseTlsRecordsUpTo (maxRecords : Nat) (data : Bytes) : Parse (List TlsRecord) :=
  parseRecordsFrom data (max 1 maxRecords) 0

theorem parseTlsRecords_eq (data : Bytes) : parseTlsRecords data = parseTlsRecordsUpTo 4096 data :=
  rfl

/--
**`max_records` 以下の record を書き、次の record の途中で切っても、書いた record がそのまま読める。逆に、
読めた record の数が `max_records` に届かなければ、書き直した bytes は入力の先頭であり、残りは一つの
record に足りない。**
-/
theorem parse_encode_records (maxRecords : Nat) :
    (∀ (rs : List TlsRecord) (r : TlsRecord) (k : Nat), rs.length ≤ maxRecords →
      (∀ r ∈ rs, r.Valid) → r.Valid → k < r.encode.length →
      parseTlsRecordsUpTo maxRecords (encodeRecords rs ++ r.encode.take k) = .ok rs) ∧
    ∀ (data : Bytes) (rs : List TlsRecord), parseTlsRecordsUpTo maxRecords data = .ok rs →
      rs.length < maxRecords → ∃ rest, data = encodeRecords rs ++ rest ∧ Unfinished rest := by
  refine ⟨fun rs r k hlen hrs hr hk => ?_, fun data rs hparse hlt => ?_⟩
  · have hat : At (encodeRecords rs ++ r.encode.take k) (0 + (encodeRecords rs).length)
        (r.encode.take k) := by
      rw [Nat.zero_add]
      exact At.append _ _
    rw [parseTlsRecordsUpTo, parseRecordsFrom_encode hrs (At.start _) (by omega),
      parseRecordsFrom_cut hr hk hat]
    show Except.ok (rs ++ []) = _
    rw [List.append_nil]
  · obtain ⟨-, -, rest, hdata, hrest⟩ := encode_parseRecordsFrom (At.start data) hparse
    exact ⟨rest, hdata, hrest (by omega)⟩

/-- 二つの record の後の切れた header は読まれない。 -/
theorem parse_encode_records_two :
    parseTlsRecordsUpTo 2
        (encodeRecords [⟨22, 0x0301, [1]⟩, ⟨23, 0x0303, []⟩] ++
          (⟨21, 0x0303, [2, 40]⟩ : TlsRecord).encode.take 4) =
      .ok [⟨22, 0x0301, [1]⟩, ⟨23, 0x0303, []⟩] :=
  (parse_encode_records 2).1 _ _ 4 (by decide)
    (List.forall_mem_cons.mpr ⟨⟨by decide, by decide, by decide⟩,
      List.forall_mem_singleton.mpr ⟨by decide, by decide, by decide⟩⟩)
    ⟨by decide, by decide, by decide⟩ (by decide)

end CipherPost.Parsing
