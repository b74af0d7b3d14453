import CipherPost.Infra.Json
import CipherPost.Infra.JsonRead

/-!
# JSON の値と UTF-8 の text

`json.dumps(v).encode()` と `json.loads(raw.decode())`。小数の `repr` と `float` だけを外から受け取る。

* `FloatRepr` — 小数の書き方と読み方
* `Json.dumps`・`Json.loads` — 二つの向き
* `Json.Writable` — 小数が読み戻され、dict の key に重なりが無い値
* `Json.loads_dumps` — 往復
-/

namespace CipherPost

open JsonText

/-- 小数の `repr` と、その text の `float`。 -/
structure FloatRepr where
  repr : Rat → FloatText
  float : FloatText → Rat

namespace Json

variable (F : FloatRepr)

mutual

/-- text にする値。 -/
def toValue : Json → Value
  | null => .scalar .null
  | bool b => .scalar (.bool b)
  | int n => .scalar (.int n)
  | float x => .scalar (.float (F.repr x))
  | str s => .str s
  | arr items => .arr (itemsToValue items)
  | obj fields => .obj (fieldsToValue fields)

def itemsToValue : List Json → List Value
  | [] => []
  | j :: l => j.toValue :: itemsToValue l

def fieldsToValue : List (String × Json) → List (String × Value)
  | [] => []
  | (k, j) :: l => (k, j.toValue) :: fieldsToValue l

end

mutual

/-- text から読んだ値。 -/
def ofValue : Value → Json
  | .scalar .null => null
  | .scalar (.bool b) => bool b
  | .scalar (.int n) => int n
  | .scalar (.float x) => float (F.float x)
  | .str s => str s
  | .arr items => arr (itemsOfValue items)
  | .obj fields => obj (fieldsOfValue fields)

def itemsOfValue : List Value → List Json
  | [] => []
  | v :: l => ofValue v :: itemsOfValue l

def fieldsOfValue : List (String × Value) → List (String × Json)
  | [] => []
  | (k, v) :: l => (k, ofValue v) :: fieldsOfValue l

end

mutual

/-- 小数が読み戻され、どの深さの dict も key に重なりが無い。 -/
def Writable : Json → Prop
  | null => True
  | bool _ => True
  | int _ => True
  | float x => F.float (F.repr x) = x
  | str _ => True
  | arr items => WritableItems items
  | obj fields => (fields.map Prod.fst).Nodup ∧ WritableFields fields

def WritableItems : List Json → Prop
  | [] => True
  | j :: l => j.Writable ∧ WritableItems l

def WritableFields : List (String × Json) → Prop
  | [] => True
  | (_, j) :: l => j.Writable ∧ WritableFields l

end

section
variable {F}

@[simp] theorem writable_null : (null : Json).Writable F := trivial

@[simp] theorem writable_bool (b : Bool) : (bool b).Writable F := trivial

@[simp] theorem writable_int (n : Int) : (int n).Writable F := trivial

@[simp] theorem writable_str (s : String) : (str s).Writable F := trivial

@[simp] theorem writable_float {x : Rat} : (float x).Writable F ↔ F.float (F.repr x) = x := Iff.rfl

@[simp] theorem writable_ofNat? (n : Option Nat) : (ofNat? n).Writable F := by
  cases n with
  | none => exact writable_null
  | some n => exact writable_int n

@[simp] theorem writableFields_nil : WritableFields F [] := trivial

@[simp] theorem writableFields_cons {k : String} {j : Json} {l : List (String × Json)} :
    WritableFields F ((k, j) :: l) ↔ j.Writable F ∧ WritableFields F l := Iff.rfl

/-- 要素がどれも読み戻される list。 -/
theorem writable_arr_of_forall {items : List Json} (h : ∀ j ∈ items, j.Writable F) :
    (arr items).Writable F := by
  induction items with
  | nil => trivial
  | cons j items ih =>
    exact ⟨h j List.mem_cons_self, ih fun x hx => h x (List.mem_cons_of_mem j hx)⟩

end

/-- `json.dumps(v).encode()`。 -/
def dumps (j : Json) : ByteArray :=
  (String.ofList ((j.toValue F).write Layout.standard 0)).toByteArray

/-- `json.loads(raw.decode())`。例外は `none` である。 -/
def loads (raw : ByteArray) : Option Json :=
  raw.utf8Decode?.bind fun s => (JsonText.loads s.toList).map (ofValue F)

/-! ## 往復 -/

variable {F}

mutual

theorem ofValue_toValue : ∀ {j : Json}, j.Writable F → ofValue F (j.toValue F) = j
  | null, _ | bool _, _ | int _, _ | str _, _ => rfl
  | float _, h => congrArg float h
  | arr _, h => congrArg arr (itemsOfValue_toValue h)
  | obj _, h => congrArg obj (fieldsOfValue_toValue h.2)

theorem itemsOfValue_toValue : ∀ {l : List Json}, WritableItems F l →
    itemsOfValue F (itemsToValue F l) = l
  | [], _ => rfl
  | _ :: _, h => congrArg₂ List.cons (ofValue_toValue h.1) (itemsOfValue_toValue h.2)

theorem fieldsOfValue_toValue : ∀ {l : List (String × Json)}, WritableFields F l →
    fieldsOfValue F (fieldsToValue F l) = l
  | [], _ => rfl
  | (k, _) :: _, h =>
    congrArg₂ List.cons (congrArg (Prod.mk k) (ofValue_toValue h.1)) (fieldsOfValue_toValue h.2)

end

theorem keys_fieldsToValue (F : FloatRepr) : ∀ l : List (String × Json),
    (fieldsToValue F l).map Prod.fst = l.map Prod.fst
  | [] => rfl
  | (k, _) :: l => congrArg (k :: ·) (keys_fieldsToValue F l)

mutual

theorem keyed_toValue : ∀ {j : Json}, j.Writable F → (j.toValue F).Keyed
  | null, _ | bool _, _ | int _, _ | str _, _ | float _, _ => trivial
  | arr _, h => keyed_itemsToValue h
  | obj fields, h => ⟨(keys_fieldsToValue F fields).symm ▸ h.1, keyed_fieldsToValue h.2⟩

theorem keyed_itemsToValue : ∀ {l : List Json}, WritableItems F l →
    KeyedItems (itemsToValue F l)
  | [], _ => trivial
  | _ :: _, h => ⟨keyed_toValue h.1, keyed_itemsToValue h.2⟩

theorem keyed_fieldsToValue : ∀ {l : List (String × Json)}, WritableFields F l →
    KeyedFields (fieldsToValue F l)
  | [], _ => trivial
  | (_, _) :: _, h => ⟨keyed_toValue h.1, keyed_fieldsToValue h.2⟩

end

/-- **`json.dumps` の text は、元の値に読み戻される。** -/
theorem loads_dumps {j : Json} (h : j.Writable F) : loads F (dumps F j) = some j := by
  have htext := loads_of_spells ((j.toValue F).spells_write Layout.standard 0) (keyed_toValue h)
    Spaces.nil Spaces.nil
  rw [List.nil_append, List.append_nil] at htext
  unfold loads dumps
  rw [String.toByteArray_ofList, List.utf8Decode?_utf8Encode, Option.bind_some, List.toList_toArray,
    htext, Option.map_some, ofValue_toValue h]

end Json

end CipherPost
