import CipherPost.Infra.JsonCodec
import CipherPost.Live.Reassembly
import CipherPost.Parsing.RunRules

/-!
# session の bytes の往復

`session_to_payload` の bytes を `session_from_payload` が読むと、どの属性も元の session に等しい。二つは属性を
別々に並べるので、一方に無い属性は既定値に置き換わるはずだが、そのような属性は無い。

* `JsonCodec` — 標準 library の `json`
* `sessionToBytes`・`sessionFromBytes` — bytes の向き
* `PayloadSession.captured?` — 属性がどれも session の型を持つときの、読まれた session
* `sessionFromBytes_sessionToBytes` — 往復と、解析の一致
* `loads_dumps_payload` — `json` の仮定は、書かれた text について成り立つこと
-/

namespace CipherPost.Live

open Parsing

/-! ## bytes -/

/-- 標準 library の `json`。`dumps` は text を bytes にし、`loads` は bytes を text にして読む。 -/
structure JsonCodec where
  dumps : Json → ByteArray
  loads : ByteArray → Option Json

/-- `session_to_payload`。 -/
def sessionToBytes (codec : JsonCodec) (sess : CapturedSession) : ByteArray :=
  codec.dumps (.obj (sessionToPayload sess))

/-- bytes の `session_from_payload`。dict でない値は `d["protocol"]` で TypeError になる。 -/
def sessionFromBytes (codec : JsonCodec) (raw : ByteArray) : Except DecodeError PayloadSession :=
  match codec.loads raw with
  | none => .error .valueError
  | some (.obj d) => sessionFromPayload d
  | some _ => .error .typeError

/-- 属性がどれも `Session` と、足した属性の型を持つときの session。 -/
def PayloadSession.captured? (p : PayloadSession) : Option CapturedSession := do
  let sess ← p.session?
  let closedBy ← p.closedBy.str?
  let trackedBytes ← p.trackedBytes.nat?
  some { sess with closedBy, rawRefs := p.rawRefs, trackedBytes }

/-! ## 足した属性 -/

/-- 読まれた `closed_by` と `tracked_bytes`。 -/
theorem added_of_sessionFromPayload {d : List (String × Json)} {p : PayloadSession}
    (h : sessionFromPayload d = .ok p) :
    p.closedBy = getDefault d "closed_by" (.str "unknown") ∧
      p.trackedBytes = getDefault d "tracked_bytes" (.int 0) := by
  unfold sessionFromPayload at h
  -- 失敗しうる十二の読み出しを順に外すと、残りは値を並べるだけである
  iterate 12 obtain ⟨_, -, h⟩ := exists_of_bind h
  rw [← Except.ok.inj h]
  exact ⟨rfl, rfl⟩

/-- 書かれた payload は、どの属性も元の session に読み戻される。 -/
theorem captured?_sessionToPayload (sess : CapturedSession) :
    ∃ p, sessionFromPayload (sessionToPayload sess) = .ok p ∧ p.session? = some sess.toSession ∧
      p.captured? = some sess := by
  obtain ⟨p, hp, hsess, hrefs⟩ := sessionFromPayload_sessionToPayload sess
  obtain ⟨hclosed, htracked⟩ := added_of_sessionFromPayload hp
  have hclosed' : p.closedBy.str? = some sess.closedBy := by
    rw [hclosed]
    rfl
  have htracked' : p.trackedBytes.nat? = some sess.trackedBytes := by
    rw [htracked]
    exact Json.nat?_int sess.trackedBytes
  refine ⟨p, hp, hsess, ?_⟩
  rw [PayloadSession.captured?, hsess, hclosed', htracked', hrefs]
  rfl

/--
**session の往復。** `json` が書いた値を読み戻すなら、`session_to_payload` の bytes から読まれる session は、
どの属性も元の session に等しく、解析の結果も等しい。
-/
theorem sessionFromBytes_sessionToBytes (codec : JsonCodec) (sess : CapturedSession)
    (hjson : codec.loads (codec.dumps (.obj (sessionToPayload sess))) =
      some (.obj (sessionToPayload sess))) :
    ∃ p, sessionFromBytes codec (sessionToBytes codec sess) = .ok p ∧ p.captured? = some sess ∧
      ∀ w : Worker, w.analyze p = analyzeSession w.analyzer sess.toSession := by
  obtain ⟨p, hp, hsess, hcaptured⟩ := captured?_sessionToPayload sess
  refine ⟨p, ?_, hcaptured, fun w => ?_⟩
  · rw [sessionFromBytes, sessionToBytes, hjson]
    exact hp
  · rw [Worker.analyze, hsess]

/-! ## json の text -/

/-- 空白の置き方と escape まで書いた `json`。 -/
def jsonCodec (F : FloatRepr) : JsonCodec := ⟨Json.dumps F, Json.loads F⟩

theorem jsonCodec_loads_dumps {F : FloatRepr} {j : Json} (h : j.Writable F) :
    (jsonCodec F).loads ((jsonCodec F).dumps j) = some j := Json.loads_dumps h

/-- 控えの位置は、segment の名前と整数である。 -/
def RefItem : Json → Prop
  | .str _ => True
  | .int _ => True
  | _ => False

theorem writable_of_refItem {F : FloatRepr} : ∀ {j : Json}, RefItem j → j.Writable F
  | .str s, _ => Json.writable_str s
  | .int n, _ => Json.writable_int n

/-- 二つの時刻の `repr` が読み戻されれば、`json` は書いた session の text を読み戻す。 -/
theorem loads_dumps_payload {F : FloatRepr} {sess : CapturedSession}
    (hstart : F.float (F.repr sess.startTs) = sess.startTs)
    (hend : F.float (F.repr sess.endTs) = sess.endTs)
    (hrefs : ∀ r ∈ sess.rawRefs, ∀ j ∈ r, RefItem j) :
    (jsonCodec F).loads ((jsonCodec F).dumps (.obj (sessionToPayload sess))) =
      some (.obj (sessionToPayload sess)) := by
  have hkeys : ((sessionToPayload sess).map Prod.fst).Nodup := by simp [sessionToPayload]
  have harr : (Json.arr (sess.rawRefs.map Json.arr)).Writable F := by
    refine Json.writable_arr_of_forall fun j hj => ?_
    obtain ⟨r, hr, rfl⟩ := List.mem_map.mp hj
    exact Json.writable_arr_of_forall fun j hj => writable_of_refItem (hrefs r hr j hj)
  have hfields : Json.WritableFields F (sessionToPayload sess) := by
    simp [sessionToPayload, encodeSegment, hstart, hend, harr]
  have hwritable : (Json.obj (sessionToPayload sess)).Writable F := by
    rw [Json.Writable]
    exact ⟨hkeys, hfields⟩
  exact jsonCodec_loads_dumps hwritable

/-! ## 一つの session -/

/-- 整数の小数の `repr`。 -/
def wholeText (n : Int) : JsonText.FloatText where
  text := (toString n).toList ++ ['.', '0']
  numChars c hc := by
    rcases List.mem_append.mp hc with hdigit | hpoint
    · exact JsonText.isNumChar_of_mem_int hdigit
    · rcases List.mem_pair.mp hpoint with rfl | rfl <;> rfl
  notInt := ⟨'.', List.mem_append_right _ List.mem_cons_self, rfl, by decide⟩

/-- 整数の小数だけを読み書きする `repr` と `float`。 -/
def wholeRepr : FloatRepr where
  repr x := wholeText x.floor
  float t := ((String.ofList (t.text.takeWhile (· ≠ '.'))).toInt?.getD 0 : Int)

theorem wholeRepr_int (n : Int) : wholeRepr.float (wholeRepr.repr n) = n := by
  have htake : ((toString n).toList ++ ['.', '0']).takeWhile (· ≠ '.') = (toString n).toList := by
    refine (List.takeWhile_append_of_pos fun c hc => ?_).trans (List.append_nil _)
    rcases JsonText.mem_toString_int hc with hdigit | rfl
    · refine decide_eq_true ?_
      rintro rfl
      cases hdigit
    · rfl
  show (((String.ofList (((toString (n : Rat).floor).toList ++ ['.', '0']).takeWhile
    (· ≠ '.'))).toInt?.getD 0 : Int) : Rat) = n
  rw [Rat.floor_intCast, htake, String.ofList_toList, Int.toString_eq_repr, Int.toInt?_repr]
  rfl

/-- 控えのある STARTTLS の session。 -/
def upgradedSession : CapturedSession :=
  { protocol := .smtp, fiveTuple := "10.0.0.1:40000->10.0.0.2:25", clientIp := "10.0.0.1"
    serverIp := "10.0.0.2", clientPort := 40000, serverPort := 25, isStarttls := true
    transitionOffset := some 10, plaintextSegment := [0x45, 0x0D, 0x0A], tlsSegment := [22, 3, 1]
    startTs := (1 : Int), endTs := (2 : Int), closedBy := "fin"
    rawRefs := [[.str "cap-1.seg", .int 0, .int 100]], trackedBytes := 6 }

theorem sessionFromBytes_sessionToBytes_upgraded :
    ∃ p, sessionFromBytes (jsonCodec wholeRepr) (sessionToBytes (jsonCodec wholeRepr) upgradedSession)
        = .ok p ∧ p.captured? = some upgradedSession ∧
      ∀ w : Worker, w.analyze p = analyzeSession w.analyzer upgradedSession.toSession :=
  sessionFromBytes_sessionToBytes _ _ (loads_dumps_payload (wholeRepr_int 1) (wholeRepr_int 2)
    (by simp [upgradedSession, RefItem]))

end CipherPost.Live
