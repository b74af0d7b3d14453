import CipherPost.Parsing.HelloLayout

/-!
# Certificate の往復

TLS 1.2 と TLS 1.3 の Certificate を、`parse_certificate_message` は書いたとおりに読む。途中で切れた
Certificate からは、切れていない証明書だけが順に読める。

* `CertificateList`・`CertificateEntries` — 長さの収まる二つの形式
* `certs12From_encode`・`certs13From_encode` — 切れた列を読む loop
* `certificate_roundtrip` — 往復と、途中で切れたとき
-/

namespace CipherPost.Parsing

/-! ## 切れた列 -/

/-- 列の先頭の部分が最初の一つより長ければ、最初の一つを含む。 -/
theorem exists_of_append {α : Type} {rest x tail : List α} (h : rest <+: x ++ tail)
    (hle : x.length ≤ rest.length) : ∃ rest', rest = x ++ rest' ∧ rest' <+: tail := by
  obtain ⟨rest', rfl⟩ := List.prefix_of_prefix_length_le (List.prefix_append x tail) h hle
  exact ⟨rest', rfl, (List.prefix_append_right_inj x).mp h⟩

/-- 列の先頭の部分が最初の一つに足りなければ、その一つの先頭の部分である。 -/
theorem length_at_cut {buf b tail rest : Bytes} {pos : Nat} (h : At buf pos rest)
    (hpre : rest <+: Wire.vec 3 b ++ tail) (hthree : 3 ≤ rest.length) (hb : b.length < 256 ^ 3) :
    fromBytes (slice buf pos (pos + 3)) = b.length := by
  rw [Wire.vec, List.append_assoc] at hpre
  obtain ⟨rest', rfl, -⟩ := exists_of_append hpre (by rw [Wire.length_be]; exact hthree)
  exact number_at h hb

/-! ## TLS 1.2 -/

section
variable {buf rest tail c : Bytes} {pos : Nat}

/-- 一周。証明書が切れていれば止まり、切れていなければ読んで進む。 -/
theorem certs12From_step (h : At buf pos rest) (hpre : rest <+: Wire.vec 3 c ++ tail)
    (hc : c.length < 256 ^ 3) (n : Nat) :
    (rest.length < (Wire.vec 3 c).length ∧ certs12From buf buf.length (n + 1) pos = []) ∨
    ∃ rest', rest = Wire.vec 3 c ++ rest' ∧ rest' <+: tail ∧
      certs12From buf buf.length (n + 1) pos =
        c :: certs12From buf buf.length n (pos + (Wire.vec 3 c).length) := by
  have hlen := h.length
  have hsize := Wire.length_vec 3 c
  by_cases hcut : rest.length < (Wire.vec 3 c).length
  · refine .inl ⟨hcut, ?_⟩
    rw [certs12From]
    split
    · split
      · rfl
      · next hthree =>
        simp only
        rw [length_at_cut h hpre (by omega) hc, if_pos (by omega)]
    · rfl
  · obtain ⟨rest', rfl, htail⟩ := exists_of_append hpre (Nat.le_of_not_lt hcut)
    rw [List.length_append, hsize] at hlen
    have hnext : pos + 3 + c.length = pos + (Wire.vec 3 c).length := by omega
    refine .inr ⟨rest', rfl, htail, ?_⟩
    rw [certs12From, if_pos (by omega), if_neg (by omega)]
    simp only
    rw [length_at h hc, if_neg (by omega), slice_vec h, hnext]

/-- 切れた列からは先頭の証明書が読める。 -/
theorem certs12From_cut : ∀ {certs : List Bytes} {pos : Nat} {rest : Bytes} (n : Nat),
    At buf pos rest → rest <+: certs.flatMap (Wire.vec 3) → (∀ c ∈ certs, c.length < 256 ^ 3) →
    certs12From buf buf.length n pos <+: certs := by
  intro certs
  induction certs with
  | nil =>
    intro pos rest n h hpre _
    obtain rfl : rest = [] := List.prefix_nil.mp hpre
    have hlen : buf.length = pos := h.length
    cases n with
    | zero => exact List.nil_prefix
    | succ n =>
      rw [certs12From, if_neg (by omega)]
  | cons c certs ih =>
    intro pos rest n h hpre hfit
    obtain ⟨hc, hcerts⟩ := List.forall_mem_cons.mp hfit
    rw [List.flatMap_cons] at hpre
    cases n with
    | zero => exact List.nil_prefix
    | succ n =>
      rcases certs12From_step h hpre hc n with ⟨-, hnil⟩ | ⟨rest', rfl, htail, hstep⟩
      · rw [hnil]
        exact List.nil_prefix
      · rw [hstep]
        exact List.cons_prefix_cons.mpr ⟨rfl, ih n (h.skip rfl) htail hcerts⟩

/-- 切れていない列からは、すべて読める。 -/
theorem certs12From_encode : ∀ {certs : List Bytes} {pos n : Nat},
    At buf pos (certs.flatMap (Wire.vec 3)) → certs.length ≤ n →
    (∀ c ∈ certs, c.length < 256 ^ 3) → certs12From buf buf.length n pos = certs := by
  intro certs
  induction certs with
  | nil => exact fun h _ hfit => List.prefix_nil.mp (certs12From_cut _ h List.prefix_rfl hfit)
  | cons c certs ih =>
    intro pos n h hn hfit
    obtain ⟨hc, hcerts⟩ := List.forall_mem_cons.mp hfit
    rw [List.flatMap_cons] at h
    cases n with
    | zero => cases hn
    | succ n =>
      rcases certs12From_step h List.prefix_rfl hc n with ⟨hcut, -⟩ | ⟨rest', hrest, -, hstep⟩
      · rw [List.length_append] at hcut
        omega
      · rw [hstep, ih (h.skip rfl) (Nat.le_of_succ_le_succ hn) hcerts]

end

/-! ## TLS 1.3 -/

/-- 証明書一つ。後に extension の列が付く。 -/
def encodeEntry (e : Bytes × Bytes) : Bytes := Wire.vec 3 e.1 ++ Wire.vec 2 e.2

section
variable {buf rest tail c x : Bytes} {pos : Nat}

/-- 一周。証明書と extension の長さが切れていれば止まり、切れていなければ読んで進む。 -/
theorem certs13From_step (h : At buf pos rest)
    (hpre : rest <+: Wire.vec 3 c ++ (Wire.vec 2 x ++ tail))
    (hc : c.length < 256 ^ 3) (hx : x.length < 256 ^ 2) (n : Nat) :
    (rest.length < 3 + c.length + 2 ∧ certs13From buf buf.length (n + 1) pos = []) ∨
    ∃ rest', rest = Wire.vec 3 c ++ (Wire.be 2 x.length ++ rest') ∧ rest' <+: x ++ tail ∧
      certs13From buf buf.length (n + 1) pos =
        c :: certs13From buf buf.length n (pos + 3 + c.length + 2 + x.length) := by
  have hlen := h.length
  have hsize := Wire.length_vec 3 c
  by_cases hcut : rest.length < 3 + c.length + 2
  · refine .inl ⟨hcut, ?_⟩
    rw [certs13From]
    split
    · split
      · rfl
      · next hthree =>
        simp only
        rw [length_at_cut h hpre (by omega) hc, if_pos (by omega)]
    · rfl
  · obtain ⟨rest₁, rfl, htail₁⟩ := exists_of_append hpre (by omega)
    rw [List.length_append, hsize] at hcut hlen
    rw [Wire.vec, List.append_assoc] at htail₁
    obtain ⟨rest₂, rfl, htail₂⟩ := exists_of_append htail₁ (by rw [Wire.length_be]; omega)
    rw [List.length_append, Wire.length_be] at hlen
    have hbody : At buf (pos + 3 + c.length) (Wire.be 2 x.length ++ rest₂) := (at_vec h).skip rfl
    refine .inr ⟨rest₂, rfl, htail₂, ?_⟩
    rw [certs13From, if_pos (by omega), if_neg (by omega)]
    simp only
    rw [length_at h hc, if_neg (by omega), slice_vec h, number_at hbody hx]

/-- 終わりを越えた位置からは、何も読まない。 -/
theorem certs13From_past {n : Nat} (h : buf.length ≤ pos) : certs13From buf buf.length n pos = [] := by
  cases n with
  | zero => rfl
  | succ n => rw [certs13From, if_neg (by omega)]

/-- 切れた列からは先頭の証明書が読める。 -/
theorem certs13From_cut : ∀ {entries : List (Bytes × Bytes)} {pos : Nat} {rest : Bytes} (n : Nat),
    At buf pos rest → rest <+: entries.flatMap encodeEntry →
    (∀ e ∈ entries, e.1.length < 256 ^ 3 ∧ e.2.length < 256 ^ 2) →
    certs13From buf buf.length n pos <+: entries.map Prod.fst := by
  intro entries
  induction entries with
  | nil =>
    intro pos rest n h hpre _
    obtain rfl : rest = [] := List.prefix_nil.mp hpre
    have hlen : buf.length = pos := h.length
    rw [certs13From_past hlen.le]
    exact List.nil_prefix
  | cons e entries ih =>
    intro pos rest n h hpre hfit
    obtain ⟨⟨hc, hx⟩, hentries⟩ := List.forall_mem_cons.mp hfit
    rw [List.flatMap_cons, encodeEntry, List.append_assoc] at hpre
    cases n with
    | zero => exact List.nil_prefix
    | succ n =>
      rcases certs13From_step h hpre hc hx n with ⟨-, hnil⟩ | ⟨rest', rfl, htail, hstep⟩
      · rw [hnil]
        exact List.nil_prefix
      · rw [hstep]
        refine List.cons_prefix_cons.mpr ⟨rfl, ?_⟩
        have hbody : At buf (pos + 3 + e.1.length + 2) rest' :=
          At.skip ((at_vec h).skip rfl) (Wire.length_be 2 _)
        by_cases hext : rest'.length < e.2.length
        · -- extension の途中で切れていれば、次の位置は終わりを越える
          have hlen := hbody.length
          rw [certs13From_past (by omega)]
          exact List.nil_prefix
        · obtain ⟨rest'', rfl, htail'⟩ := exists_of_append htail (Nat.le_of_not_lt hext)
          exact ih n (hbody.skip rfl) htail' hentries

/-- 切れていない列からは、すべて読める。 -/
theorem certs13From_encode : ∀ {entries : List (Bytes × Bytes)} {pos n : Nat},
    At buf pos (entries.flatMap encodeEntry) → entries.length ≤ n →
    (∀ e ∈ entries, e.1.length < 256 ^ 3 ∧ e.2.length < 256 ^ 2) →
    certs13From buf buf.length n pos = entries.map Prod.fst := by
  intro entries
  induction entries with
  | nil =>
    intro pos n h _ _
    have hlen : buf.length = pos := h.length
    exact certs13From_past hlen.le
  | cons e entries ih =>
    intro pos n h hn hfit
    obtain ⟨⟨hc, hx⟩, hentries⟩ := List.forall_mem_cons.mp hfit
    rw [List.flatMap_cons, encodeEntry, List.append_assoc] at h
    cases n with
    | zero => cases hn
    | succ n =>
      have hnext : At buf (pos + 3 + e.1.length + 2 + e.2.length) (entries.flatMap encodeEntry) :=
        (at_vec ((at_vec h).skip rfl)).skip rfl
      rcases certs13From_step h List.prefix_rfl hc hx n with ⟨hcut, -⟩ | ⟨rest', -, -, hstep⟩
      · rw [List.length_append, List.length_append, Wire.length_vec, Wire.length_vec] at hcut
        omega
      · rw [hstep, ih hnext (Nat.le_of_succ_le_succ hn) hentries]
        rfl

end

/-! ## Certificate -/

/-- TLS 1.2 の証明書の列。 -/
structure CertificateList where
  certs : List Bytes
  nonempty : certs ≠ []
  count : certs.length ≤ 32
  fits : (certs.flatMap (Wire.vec 3)).length < 256 ^ 3

/-- TLS 1.3 の、extension の付いた証明書の列。 -/
structure CertificateEntries where
  entries : List (Bytes × Bytes)
  nonempty : entries ≠ []
  count : entries.length ≤ 32
  extensions_fit : ∀ e ∈ entries, e.2.length < 256 ^ 2
  fits : (entries.flatMap encodeEntry).length < 256 ^ 3

/-- RFC 5246 §7.4.2 の形式。 -/
def CertificateList.encode (l : CertificateList) : Bytes := Wire.vec 3 (l.certs.flatMap (Wire.vec 3))

/-- RFC 8446 §4.4.2 の形式。request の context は空である。 -/
def CertificateEntries.encode (l : CertificateEntries) : Bytes :=
  Wire.vec 1 [] ++ Wire.vec 3 (l.entries.flatMap encodeEntry)

/-- 読めた証明書は列の先頭の部分であるか、`TlsParseError` が出る。 -/
def PrefixOrError (certs : List Bytes) (r : Parse CertificateInfo) : Prop :=
  (∃ info, r = .ok info ∧ info.rawCerts <+: certs) ∨ ∃ message, r = .error (.tlsParse message)

theorem CertificateList.certs_fit (l : CertificateList) : ∀ c ∈ l.certs, c.length < 256 ^ 3 := by
  intro c hc
  have hle := length_le_flatMap_of_mem (Wire.vec 3) hc
  have hfits := l.fits
  rw [Wire.length_vec] at hle
  omega

theorem CertificateEntries.entries_fit (l : CertificateEntries) :
    ∀ e ∈ l.entries, e.1.length < 256 ^ 3 ∧ e.2.length < 256 ^ 2 := by
  intro e he
  have hle := length_le_flatMap_of_mem encodeEntry he
  have hfits := l.fits
  rw [encodeEntry, List.length_append, Wire.length_vec] at hle
  exact ⟨by omega, l.extensions_fit e he⟩

section
variable {data head body : Bytes} {tls13 : Bool}

/-- 列の長さを読んだ後の loop。切れていても、loop は bytes の終わりまで読む。 -/
theorem parseCertificateMessage_eq (hhead : head.length = if tls13 then 1 else 0)
    (hbody : body.length < 256 ^ 3) (hpre : data <+: head ++ Wire.vec 3 body) :
    (data.length < head.length + 3 ∧
      ∃ message, parseCertificateMessage data tls13 = .error (.tlsParse message)) ∨
    ∃ rest pos, At data pos rest ∧ rest <+: body ∧ (data = head ++ Wire.vec 3 body → rest = body) ∧
      parseCertificateMessage data tls13 =
        let certs := if tls13 then certs13From data data.length 32 pos
          else certs12From data data.length 32 pos
        if certs = [] then .error (.tlsParse "certificate message contained no certificates")
        else .ok ⟨certs, tls13⟩ := by
  rw [parseCertificateMessage]
  simp only
  rw [← hhead]
  by_cases hshort : data.length < head.length + 3
  · rw [if_pos hshort]
    exact .inl ⟨hshort, _, rfl⟩
  · obtain ⟨rest₀, rfl, hpre₀⟩ := exists_of_append hpre (by omega)
    rw [List.length_append] at hshort
    have h₀ : At (head ++ rest₀) head.length rest₀ := At.append head rest₀
    have hnum : fromBytes (slice (head ++ rest₀) head.length (head.length + 3)) = body.length :=
      @length_at_cut _ body [] _ _ h₀ (by rwa [List.append_nil]) (by omega) hbody
    rw [Wire.vec] at hpre₀
    obtain ⟨rest, rfl, hrest⟩ := exists_of_append hpre₀ (by rw [Wire.length_be]; omega)
    have hat : At (head ++ (Wire.be 3 body.length ++ rest)) (head.length + 3) rest :=
      h₀.skip (Wire.length_be 3 _)
    have hlen := hat.length
    have hle := hrest.length_le
    rw [if_neg (by omega), hnum, Nat.min_eq_right (by omega)]
    refine .inr ⟨rest, _, hat, hrest, fun heq => ?_, rfl⟩
    exact List.append_cancel_left (List.append_cancel_left heq)

/-- 読めた証明書が列の先頭の部分なら、結果もそうである。 -/
theorem prefixOrError_of_certs {certs certs' : List Bytes} (h : certs' <+: certs) :
    PrefixOrError certs (if certs' = [] then
      .error (.tlsParse "certificate message contained no certificates")
      else .ok ⟨certs', tls13⟩) := by
  split
  · exact .inr ⟨_, rfl⟩
  · exact .inl ⟨_, rfl, h⟩

end

/-- 途中で切れた TLS 1.2 の列。 -/
theorem CertificateList.parse_take (l : CertificateList) (k : Nat) :
    PrefixOrError l.certs (parseCertificateMessage (l.encode.take k) false) := by
  rcases @parseCertificateMessage_eq _ [] _ false rfl l.fits (List.take_prefix k l.encode) with
    ⟨-, herr⟩ | ⟨rest, pos, hat, hpre, -, heq⟩
  · exact .inr herr
  · rw [heq]
    exact prefixOrError_of_certs (certs12From_cut 32 hat hpre l.certs_fit)

/-- 切れていない TLS 1.2 の列。 -/
theorem CertificateList.parse_encode (l : CertificateList) :
    parseCertificateMessage l.encode false = .ok ⟨l.certs, false⟩ := by
  show parseCertificateMessage ([] ++ Wire.vec 3 _) false = _
  rcases @parseCertificateMessage_eq _ [] _ false rfl l.fits List.prefix_rfl with
    ⟨hshort, -⟩ | ⟨rest, pos, hat, -, hall, heq⟩
  · rw [List.length_append, Wire.length_vec] at hshort
    omega
  · obtain rfl := hall rfl
    rw [heq]
    simp only [Bool.false_eq_true, if_false]
    rw [certs12From_encode hat l.count l.certs_fit, if_neg l.nonempty]

/-- 途中で切れた TLS 1.3 の列。 -/
theorem CertificateEntries.parse_take (l : CertificateEntries) (k : Nat) :
    PrefixOrError (l.entries.map Prod.fst) (parseCertificateMessage (l.encode.take k) true) := by
  rcases @parseCertificateMessage_eq _ (Wire.vec 1 []) _ true rfl l.fits
    (List.take_prefix k l.encode) with ⟨-, herr⟩ | ⟨rest, pos, hat, hpre, -, heq⟩
  · exact .inr herr
  · rw [heq]
    exact prefixOrError_of_certs (certs13From_cut 32 hat hpre l.entries_fit)

/-- 切れていない TLS 1.3 の列。 -/
theorem CertificateEntries.parse_encode (l : CertificateEntries) :
    parseCertificateMessage l.encode true = .ok ⟨l.entries.map Prod.fst, true⟩ := by
  show parseCertificateMessage (Wire.vec 1 [] ++ Wire.vec 3 _) true = _
  rcases @parseCertificateMessage_eq _ (Wire.vec 1 []) _ true rfl l.fits List.prefix_rfl with
    ⟨hshort, -⟩ | ⟨rest, pos, hat, -, hall, heq⟩
  · rw [List.length_append, Wire.length_vec, Wire.length_vec] at hshort
    omega
  · obtain rfl := hall rfl
    rw [heq]
    simp only [if_true]
    rw [certs13From_encode hat l.count l.entries_fit, if_neg (mt List.map_eq_nil_iff.mp l.nonempty)]

/--
**TLS 1.2 と TLS 1.3 の Certificate は書いたとおりに読め、どこで切れても、列の先頭の証明書だけが読めるか、
`TlsParseError` が出る。**
-/
theorem certificate_roundtrip :
    (∀ l : CertificateList, parseCertificateMessage l.encode false = .ok ⟨l.certs, false⟩ ∧
      ∀ k, PrefixOrError l.certs (parseCertificateMessage (l.encode.take k) false)) ∧
    ∀ l : CertificateEntries,
      parseCertificateMessage l.encode true = .ok ⟨l.entries.map Prod.fst, true⟩ ∧
      ∀ k, PrefixOrError (l.entries.map Prod.fst)
        (parseCertificateMessage (l.encode.take k) true) :=
  ⟨fun l => ⟨l.parse_encode, l.parse_take⟩, fun l => ⟨l.parse_encode, l.parse_take⟩⟩

/-- 空の証明書と一 byte の証明書。後の方には extension が付く。 -/
def twoEntries : CertificateEntries where
  entries := [([], []), ([0x30], [0, 5, 0, 0])]
  nonempty := by decide
  count := by decide
  extensions_fit := by decide
  fits := by decide

-- 二つ目の証明書の extension の途中で切れても、証明書は読める
example : parseCertificateMessage (twoEntries.encode.take 16) true =
    .ok ⟨[[], [0x30]], true⟩ := by decide +kernel

end CipherPost.Parsing
