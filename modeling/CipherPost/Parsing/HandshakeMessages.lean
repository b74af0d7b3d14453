import Mathlib.Data.List.Nodup
import CipherPost.Infra.Framing
import CipherPost.Parsing.RecordLayer

/-!
# handshake の message と record

`_handshake_body` は record を一つずつ読み、record の終わりで切れた message を捨てる。いくつもの message を
一つの record に詰めることは許されるが、一つの message を二つの record に分けると、その message は消える。

* `Message`・`selfDelimiting_message` — message と、その符号
* `messagesFrom` — record 一つから読める message
* `bodiesOf` — message の列の、種類ごとの本体
* `handshakeBody_eq` — `_handshake_body` は、読めた message の `bodiesOf` である
* `fragments_iff` — 分け方によらず同じ本体が得られるための条件
-/

namespace CipherPost.Parsing

/-! ## message -/

/-- handshake の message。長さは三 byte に収まる。 -/
structure Message where
  mtype : UInt8
  body : Bytes
  fits : body.length < 2 ^ 24

namespace Message

/-- 形式どおりの message。 -/
def encode (m : Message) : Bytes := m.mtype :: Wire.vec 3 m.body

@[simp] theorem length_encode (m : Message) : m.encode.length = 4 + m.body.length := by
  rw [encode, List.length_cons, Wire.length_vec]
  omega

theorem ext_fields {m m' : Message} (htype : m.mtype = m'.mtype) (hbody : m.body = m'.body) :
    m = m' := by
  cases m
  cases m'
  cases htype
  cases hbody
  rfl

end Message

/-- message は、続きがあっても読み分けられる。 -/
theorem selfDelimiting_message : SelfDelimiting Message.encode where
  ne_nil m := List.cons_ne_nil m.mtype _
  inj {m m' x y} h := by
    rw [Message.encode, Message.encode, List.cons_append, List.cons_append, List.cons.injEq] at h
    obtain ⟨hbody, hrest⟩ := Wire.vec_append_inj m.fits m'.fits h.2
    exact ⟨Message.ext_fields h.1 hbody, hrest⟩

/-! ## record 一つ -/

theorem length_slice (buf : Bytes) (i n : Nat) : (slice buf i (i + n)).length ≤ n := by
  rw [slice, Nat.add_sub_cancel_left]
  exact List.length_take_le n _

theorem fromBytes_slice_lt (buf : Bytes) (i n : Nat) : fromBytes (slice buf i (i + n)) < 256 ^ n :=
  (Wire.value_lt _).trans_le (Nat.pow_le_pow_right (by omega) (length_slice buf i n))

/-- 位置 `pos` の message。本体の長さは三 byte で書かれている。 -/
def messageAt (buf : Bytes) (pos : Nat) : Message where
  mtype := UInt8.ofNat (fromBytes (slice buf pos (pos + 1)))
  body := slice buf (pos + 4) (pos + 4 + fromBytes (slice buf (pos + 1) (pos + 4)))
  fits := (length_slice buf (pos + 4) _).trans_lt (fromBytes_slice_lt buf (pos + 1) 3)

/-- record 一つから読める message。切れた message の手前で止まる。 -/
def messagesFrom (buf : Bytes) : Nat → Nat → List Message
  | 0, _ => []
  | n + 1, pos =>
    if pos + 4 ≤ buf.length then
      if buf.length < pos + 4 + fromBytes (slice buf (pos + 1) (pos + 4)) then []
      else messageAt buf pos ::
        messagesFrom buf n (pos + 4 + fromBytes (slice buf (pos + 1) (pos + 4)))
    else []

/-- message の列から、種類ごとの本体を集める。 -/
def keepAll (out : Dict Nat Bytes) (ms : List Message) : Dict Nat Bytes :=
  ms.foldl (fun out m => keepBody out m.mtype.toNat m.body) out

/-- `_handshake_body` の、record 一つの loop。 -/
theorem handshakeFrom_eq (buf : Bytes) : ∀ (n pos : Nat) (out : Dict Nat Bytes),
    handshakeFrom buf n pos out = keepAll out (messagesFrom buf n pos) := by
  intro n
  induction n with
  | zero => exact fun _ _ => rfl
  | succ n ih =>
    intro pos out
    have htype : (messageAt buf pos).mtype.toNat = fromBytes (slice buf pos (pos + 1)) :=
      UInt8.toNat_ofNat_of_lt' (fromBytes_slice_lt buf pos 1)
    rw [handshakeFrom, messagesFrom]
    split
    · simp only
      split
      · rfl
      · rw [ih, keepAll, keepAll, List.foldl_cons, htype]
        rfl
    · rfl

/-- 位置 `i` から先は、`j` までの部分と、`j` から先とに分かれる。 -/
theorem drop_eq_slice (buf : Bytes) {i j : Nat} (h : i ≤ j) :
    buf.drop i = slice buf i j ++ buf.drop j := by
  have hdrop : buf.drop j = (buf.drop i).drop (j - i) := by
    rw [List.drop_drop, Nat.add_sub_cancel' h]
  rw [hdrop, slice, List.take_append_drop]

theorem length_slice_of_le {buf : Bytes} {i n : Nat} (h : i + n ≤ buf.length) :
    (slice buf i (i + n)).length = n := by
  rw [slice, Nat.add_sub_cancel_left, List.length_take, List.length_drop]
  omega

/-- 一 byte を整数にして戻す。 -/
theorem singleton_ofNat_fromBytes {b : Bytes} (h : b.length = 1) :
    [UInt8.ofNat (fromBytes b)] = b := by
  obtain ⟨x, rfl⟩ := List.length_eq_one_iff.mp h
  have hx : fromBytes [x] = x.toNat := by
    rw [fromBytes, List.foldl_cons, List.foldl_nil, Nat.zero_mul, Nat.zero_add]
  rw [hx, UInt8.ofNat_toNat]

section
variable {buf rest : Bytes} {pos : Nat}

/-- 切れていない message を書き直すと、元の bytes である。 -/
theorem drop_eq_messageAt
    (h : pos + 4 + fromBytes (slice buf (pos + 1) (pos + 4)) ≤ buf.length) :
    buf.drop pos = (messageAt buf pos).encode ++
      buf.drop (pos + 4 + fromBytes (slice buf (pos + 1) (pos + 4))) := by
  have htype : [(messageAt buf pos).mtype] = slice buf pos (pos + 1) :=
    singleton_ofNat_fromBytes (length_slice_of_le (by omega))
  have hbody : Wire.vec 3 (messageAt buf pos).body =
      slice buf (pos + 1) (pos + 4) ++ (messageAt buf pos).body :=
    Wire.vec_of_value (length_slice_of_le (i := pos + 1) (n := 3) (by omega))
      (length_slice_of_le h).symm
  rw [drop_eq_slice buf (Nat.le_add_right pos 1),
    drop_eq_slice buf (show pos + 1 ≤ pos + 4 by omega),
    drop_eq_slice buf (Nat.le_add_right (pos + 4) _)]
  show _ = [(messageAt buf pos).mtype] ++ Wire.vec 3 (messageAt buf pos).body ++ _
  rw [htype, hbody, List.append_assoc, List.append_assoc]
  rfl

/-- 読めた message を書き直すと、残りの先頭である。 -/
theorem encode_messagesFrom : ∀ (n pos : Nat),
    (messagesFrom buf n pos).flatMap Message.encode <+: buf.drop pos := by
  intro n
  induction n with
  | zero => exact fun _ => List.nil_prefix
  | succ n ih =>
    intro pos
    rw [messagesFrom]
    split
    · split
      · exact List.nil_prefix
      · next hbody =>
        rw [List.flatMap_cons, drop_eq_messageAt (Nat.le_of_not_lt hbody)]
        exact (List.prefix_append_right_inj _).mpr (ih _)
    · exact List.nil_prefix

/-- 書いた message は、その位置で読める。 -/
theorem messageAt_eq {m : Message} (h : At buf pos (m.encode ++ rest)) :
    messageAt buf pos = m ∧ fromBytes (slice buf (pos + 1) (pos + 4)) = m.body.length := by
  have hlen : At buf (pos + 1) (Wire.be 3 m.body.length ++ (m.body ++ rest)) := by
    have htail : At buf (pos + 1) (Wire.vec 3 m.body ++ rest) := h.tail
    rwa [Wire.vec, List.append_assoc] at htail
  have hbody : At buf (pos + 4) (m.body ++ rest) := hlen.skip (Wire.length_be 3 _)
  have hnumber : fromBytes (slice buf (pos + 1) (pos + 4)) = m.body.length := number_at hlen m.fits
  have htype : slice buf pos (pos + 1) = [m.mtype] := slice_at (x := [m.mtype]) h rfl
  refine ⟨Message.ext_fields ?_ ?_, hnumber⟩
  · show UInt8.ofNat (fromBytes (slice buf pos (pos + 1))) = m.mtype
    exact List.singleton_inj.mp ((singleton_ofNat_fromBytes (congrArg List.length htype)).trans htype)
  · show slice buf (pos + 4) (pos + 4 + _) = m.body
    rw [hnumber]
    exact slice_at hbody rfl

/-- 並べた message は、そのまま読める。 -/
theorem messagesFrom_encode : ∀ {ms : List Message} {n pos : Nat},
    At buf pos (ms.flatMap Message.encode) → ms.length ≤ n → messagesFrom buf n pos = ms := by
  intro ms
  induction ms with
  | nil =>
    intro n pos h _
    have hlen : buf.length = pos := h.length
    cases n with
    | zero => rfl
    | succ n => rw [messagesFrom, if_neg (by omega)]
  | cons m ms ih =>
    intro n pos h hn
    rw [List.flatMap_cons] at h
    cases n with
    | zero => cases hn
    | succ n =>
      obtain ⟨hm, hnumber⟩ := messageAt_eq h
      have hlen := h.length
      rw [List.length_append, m.length_encode] at hlen
      have hnext : At buf (pos + 4 + m.body.length) (ms.flatMap Message.encode) := by
        rw [Nat.add_assoc]
        exact h.skip m.length_encode
      rw [messagesFrom, hnumber, if_pos (by omega), if_neg (by omega), hm,
        ih hnext (Nat.le_of_succ_le_succ hn)]

end

/-! ## 本体 -/

theorem get?_keepBody (out : Dict Nat Bytes) (mtype : Nat) (body : Bytes) (t : Nat) :
    (keepBody out mtype body).get? t =
      if mtype = t ∧ (out.get? mtype).getD [] = [] then some body else out.get? t := by
  rw [keepBody]
  by_cases hempty : (out.get? mtype).getD [] = []
  · rw [if_pos (List.length_eq_zero_iff.mpr hempty), Dict.get?_set]
    exact if_congr (and_iff_left hempty).symm rfl rfl
  · rw [if_neg (mt List.length_eq_zero_iff.mp hempty), if_neg fun h => hempty h.2]

section
variable {out : Dict Nat Bytes} {ms : List Message} {t : Nat} {b : Bytes}

/-- 空でない本体は、後の message で置き換わらない。 -/
theorem keepAll_of_some (hb : b ≠ []) : ∀ {ms : List Message} {out : Dict Nat Bytes},
    out.get? t = some b → (keepAll out ms).get? t = some b := by
  intro ms
  induction ms with
  | nil => exact fun h => h
  | cons m ms ih =>
    intro out h
    refine ih ?_
    rw [get?_keepBody, if_neg]
    · exact h
    · rintro ⟨rfl, hempty⟩
      rw [h] at hempty
      exact hb hempty

/-- 集めた本体は、どれかの message の本体である。 -/
theorem mem_of_keepAll : ∀ {ms : List Message} {out : Dict Nat Bytes},
    (keepAll out ms).get? t = some b →
    out.get? t = some b ∨ ∃ m ∈ ms, m.mtype.toNat = t ∧ m.body = b := by
  intro ms
  induction ms with
  | nil => exact fun h => .inl h
  | cons m ms ih =>
    intro out h
    rcases ih h with hout | ⟨m', hm', hmem⟩
    · rw [get?_keepBody] at hout
      split at hout
      · next htype => exact .inr ⟨m, List.mem_cons_self, htype.1, Option.some.inj hout⟩
      · exact .inl hout
    · exact .inr ⟨m', List.mem_cons_of_mem m hm', hmem⟩

/-- その種類の message が無ければ、本体は変わらない。 -/
theorem keepAll_of_forall_ne : ∀ {ms : List Message} {out : Dict Nat Bytes},
    (∀ m ∈ ms, m.mtype.toNat ≠ t) → (keepAll out ms).get? t = out.get? t := by
  intro ms
  induction ms with
  | nil => exact fun _ => rfl
  | cons m ms ih =>
    intro out h
    obtain ⟨hm, hms⟩ := List.forall_mem_cons.mp h
    show (keepAll (keepBody out m.mtype.toNat m.body) ms).get? t = _
    rw [ih hms, get?_keepBody, if_neg fun hpair => hm hpair.1]

/-- 種類がみな異なれば、どの message の本体も集まる。 -/
theorem keepAll_mem : ∀ {ms : List Message} {out : Dict Nat Bytes},
    (ms.map Message.mtype).Nodup → (∀ m ∈ ms, out.get? m.mtype.toNat = none) → ∀ m ∈ ms,
    (keepAll out ms).get? m.mtype.toNat = some m.body := by
  intro ms
  induction ms with
  | nil => exact fun _ _ _ hm => by cases hm
  | cons m ms ih =>
    intro out hdiff hnone
    rw [List.map_cons, List.nodup_cons] at hdiff
    obtain ⟨hm, hms⟩ := List.forall_mem_cons.mp hnone
    have hne : ∀ m' ∈ ms, m'.mtype.toNat ≠ m.mtype.toNat := fun m' hm' heq =>
      hdiff.1 (UInt8.toNat_inj.mp heq ▸ List.mem_map_of_mem hm')
    have hstep : ∀ t, (keepBody out m.mtype.toNat m.body).get? t =
        if m.mtype.toNat = t then some m.body else out.get? t := by
      intro t
      rw [get?_keepBody, hm]
      exact if_congr (and_iff_left rfl) rfl rfl
    refine List.forall_mem_cons.mpr ⟨?_, ih hdiff.2 fun m' hm' => ?_⟩
    · show (keepAll (keepBody out m.mtype.toNat m.body) ms).get? _ = _
      rw [keepAll_of_forall_ne hne, hstep, if_pos rfl]
    · rw [hstep, if_neg (hne m' hm').symm]
      exact hms m' hm'

end

/-! ## record の列 -/

/-- record 一つから読める message。handshake でない record からは読まない。 -/
def TlsRecord.messages (r : TlsRecord) : List Message :=
  if r.contentType = 22 then messagesFrom r.payload r.payload.length 0 else []

/-- `_handshake_body` は、読めた message の本体を集める。 -/
theorem handshakeBody_eq (rs : List TlsRecord) :
    handshakeBody rs = keepAll Dict.empty (rs.flatMap TlsRecord.messages) := by
  rw [handshakeBody]
  generalize Dict.empty = out
  induction rs generalizing out with
  | nil => rfl
  | cons r rs ih =>
    rw [List.foldl_cons, ih, List.flatMap_cons, keepAll, keepAll, List.foldl_append]
    congr 1
    rw [TlsRecord.messages]
    split
    · exact handshakeFrom_eq _ _ _ _
    · rfl

/-- message だけの record。 -/
def Message.record (m : Message) : TlsRecord := ⟨22, 0x0303, m.encode⟩

/-- handshake の record の payload を並べたもの。 -/
def handshakeStream (rs : List TlsRecord) : Bytes :=
  (rs.filter fun r => r.contentType = 22).flatMap TlsRecord.payload

/-- record の payload は、切れていない message の並びである。 -/
def TlsRecord.Whole (r : TlsRecord) : Prop := ∃ l : List Message, r.payload = l.flatMap Message.encode

theorem length_le_flatMap_encode (l : List Message) :
    l.length ≤ (l.flatMap Message.encode).length := by
  induction l with
  | nil => exact Nat.zero_le _
  | cons m l ih =>
    rw [List.flatMap_cons, List.length_append, m.length_encode, List.length_cons]
    omega

theorem messages_of_payload {r : TlsRecord} (hct : r.contentType = 22) {l : List Message}
    (hl : r.payload = l.flatMap Message.encode) : r.messages = l := by
  rw [TlsRecord.messages, if_pos hct]
  refine messagesFrom_encode ?_ ?_
  · rw [← hl]
    exact At.start r.payload
  · rw [hl]
    exact length_le_flatMap_encode l

theorem messages_record (m : Message) : m.record.messages = [m] :=
  messages_of_payload rfl (List.append_nil m.encode).symm

theorem flatMap_messages_record (ms : List Message) :
    (ms.map Message.record).flatMap TlsRecord.messages = ms := by
  rw [List.flatMap_map, List.flatMap_congr fun m _ => messages_record m, List.flatMap_singleton']

/-- handshake でない record は、message にも payload にも関わらない。 -/
theorem flatMap_messages_filter (rs : List TlsRecord) :
    rs.flatMap TlsRecord.messages =
      (rs.filter fun r => r.contentType = 22).flatMap TlsRecord.messages := by
  induction rs with
  | nil => rfl
  | cons r rs ih =>
    rw [List.flatMap_cons, ih]
    by_cases hct : r.contentType = 22
    · rw [List.filter_cons_of_pos (by simpa using hct), List.flatMap_cons]
    · rw [List.filter_cons_of_neg (by simpa using hct), TlsRecord.messages, if_neg hct]
      rfl

/-- どの record も切れていなければ、元の message がそのまま読める。 -/
theorem messages_of_whole {ms : List Message} {rs : List TlsRecord}
    (hcut : handshakeStream rs = ms.flatMap Message.encode)
    (hwhole : ∀ r ∈ rs, r.contentType = 22 → r.Whole) : rs.flatMap TlsRecord.messages = ms := by
  refine selfDelimiting_message.flatMap_inj ?_
  rw [← hcut, handshakeStream, flatMap_messages_filter, List.flatMap_assoc]
  refine List.flatMap_congr fun r hr => ?_
  obtain ⟨hmem, hct⟩ := List.mem_filter.mp hr
  have hct : r.contentType = 22 := of_decide_eq_true hct
  obtain ⟨l, hl⟩ := hwhole r hmem hct
  rw [messages_of_payload hct hl, hl]

/-- 元の message がすべて読めるなら、どの record も切れていない。 -/
theorem whole_of_subset {ms : List Message} (hnodup : ms.Nodup) {rs : List TlsRecord}
    (hcut : handshakeStream rs = ms.flatMap Message.encode)
    (hall : ms ⊆ rs.flatMap TlsRecord.messages) : ∀ r ∈ rs, r.contentType = 22 → r.Whole := by
  intro r hr hct
  have hmem : r ∈ rs.filter fun r => r.contentType = 22 :=
    List.mem_filter.mpr ⟨hr, decide_eq_true hct⟩
  have hpre : ∀ p ∈ (rs.filter fun r => r.contentType = 22).map fun r => (r.payload, r.messages),
      p.2.flatMap Message.encode <+: p.1 := by
    intro p hp
    obtain ⟨r', hr', rfl⟩ := List.mem_map.mp hp
    have hct' : r'.contentType = 22 := of_decide_eq_true (List.mem_filter.mp hr').2
    show r'.messages.flatMap Message.encode <+: r'.payload
    rw [TlsRecord.messages, if_pos hct']
    exact encode_messagesFrom _ 0
  have htiled := selfDelimiting_message.tiled hnodup hpre
    (by rw [List.flatMap_map]; exact hcut)
    (by rw [List.flatMap_map, ← flatMap_messages_filter]; exact hall)
  exact ⟨r.messages, htiled.2 (r.payload, r.messages) (List.mem_map_of_mem hmem)⟩

/--
**種類のみな異なる message の列をどう record に分けても、`_handshake_body` が message ごとの record の
ときと同じ本体を返すことは、どの handshake の record も切れていない message の並びであることと同値で
ある。** いくつもの message を一つの record に詰めても変わらない。
-/
theorem fragments_iff {ms : List Message} (hdiff : (ms.map Message.mtype).Nodup)
    {rs : List TlsRecord} (hcut : handshakeStream rs = ms.flatMap Message.encode) :
    (∀ t, (handshakeBody rs).get? t = (handshakeBody (ms.map Message.record)).get? t) ↔
      ∀ r ∈ rs, r.contentType = 22 → r.Whole := by
  rw [handshakeBody_eq, handshakeBody_eq, flatMap_messages_record]
  constructor
  · intro hsame
    refine whole_of_subset (List.Nodup.of_map Message.mtype hdiff) hcut fun m hm => ?_
    have hbody : (keepAll Dict.empty (rs.flatMap TlsRecord.messages)).get? m.mtype.toNat =
        some m.body := by
      rw [hsame]
      exact keepAll_mem hdiff (fun _ _ => Dict.get?_empty _) m hm
    rcases mem_of_keepAll hbody with hnone | ⟨m', hm', htype, hbody'⟩
    · cases hnone
    · rwa [← Message.ext_fields (UInt8.toNat_inj.mp htype) hbody']
  · intro hwhole t
    rw [messages_of_whole hcut hwhole]

/-- 本体が二 byte の ClientHello。 -/
def shortHello : Message := ⟨1, [3, 3], by decide⟩

/-- 本体の空な ServerHelloDone。 -/
def helloDone : Message := ⟨14, [], by decide⟩

/-- 一つの record に詰めた二つの message は、別々の record のときと同じに読める。 -/
theorem coalesced_same :
    ([shortHello, helloDone].map Message.mtype).Nodup ∧
    ∀ t, (handshakeBody [⟨22, 0x0303, shortHello.encode ++ helloDone.encode⟩]).get? t =
      (handshakeBody ([shortHello, helloDone].map Message.record)).get? t := by
  have hdiff : ([shortHello, helloDone].map Message.mtype).Nodup := by decide
  exact ⟨hdiff, (@fragments_iff [shortHello, helloDone] hdiff _ (by decide)).mpr
    (List.forall_mem_singleton.mpr fun _ => ⟨[shortHello, helloDone], by decide⟩)⟩

/-- message を二つの record に分けると、本体が失われる。 -/
theorem fragment_lost :
    handshakeStream [⟨22, 0x0303, [1, 0, 0]⟩, ⟨22, 0x0303, [2, 3, 3]⟩] =
      [shortHello].flatMap Message.encode ∧
    ([shortHello].map Message.mtype).Nodup ∧
    ¬∀ t, (handshakeBody [⟨22, 0x0303, [1, 0, 0]⟩, ⟨22, 0x0303, [2, 3, 3]⟩]).get? t =
      (handshakeBody ([shortHello].map Message.record)).get? t :=
  ⟨by decide, by decide, fun h => absurd (h 1) (by decide)⟩

end CipherPost.Parsing
