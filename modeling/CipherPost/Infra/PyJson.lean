import Mathlib.Data.List.Nodup
import CipherPost.Infra.JsonRead

/-!
# Python の値の JSON

`json.dumps(v, sort_keys=True, default=str)` は、dict の key を text にする前に並べる。整数の key は数の順、
文字列の key は文字の順に並び、混ざると `TypeError` になる。dict の key は文字列か整数とする。

* `Py.toValue` — text にしたときの JSON の値
* `Py.dumps` — `sort_keys=True` の text
* `Py.dumps_of_stringKeyed` — key が文字列だけなら、その text は JSON の値の text と同じである
-/

namespace CipherPost.JsonText

/-! ## 値 -/

/-- dict の key。 -/
inductive Key where
  | str (s : String)
  | int (n : Int)
  deriving Repr, DecidableEq

/-- Python の値。`other` は JSON に無い型の値で、`default=str` の text を持つ。 -/
inductive Py where
  | scalar (a : Scalar)
  | str (s : String)
  | other (text : String)
  | seq (items : List Py)
  | dict (fields : List (Key × Py))

/-- key の text。 -/
def Key.text : Key → String
  | .str s => s
  | .int n => toString n

/-- key の比較。文字列と整数は比べられない。 -/
def Key.le : Key → Key → Bool
  | .str s, .str t => decide (s ≤ t)
  | .int m, .int n => decide (m ≤ n)
  | _, _ => false

def Key.isStr : Key → Bool
  | .str _ => true
  | .int _ => false

/-- 並べられる key の列。 -/
def sortable (keys : List Key) : Bool := keys.all Key.isStr || keys.all fun k => !k.isStr

mutual

/-- `json.loads(json.dumps(v, default=str))` の値。 -/
def Py.toValue : Py → Value
  | .scalar a => .scalar a
  | .str s => .str s
  | .other text => .str text
  | .seq items => .arr (itemsToValue items)
  | .dict fields => .obj (fieldsToValue fields)

def itemsToValue : List Py → List Value
  | [] => []
  | p :: l => p.toValue :: itemsToValue l

def fieldsToValue : List (Key × Py) → List (String × Value)
  | [] => []
  | (k, p) :: l => (k.text, p.toValue) :: fieldsToValue l

end

mutual

/-- dict を key の順に並べた JSON の値。例外は `none` である。 -/
def Py.sorted : Py → Option Value
  | .scalar a => some (.scalar a)
  | .str s => some (.str s)
  | .other text => some (.str text)
  | .seq items => (sortedItems items).map .arr
  | .dict fields => (sortedFields fields).bind fun l =>
      if sortable (l.map Prod.fst) then
        some (.obj ((l.insertionSort fun f g => f.1.le g.1 = true).map fun f => (f.1.text, f.2)))
      else none

def sortedItems : List Py → Option (List Value)
  | [] => some []
  | p :: l => p.sorted.bind fun v => (sortedItems l).map fun vs => v :: vs

def sortedFields : List (Key × Py) → Option (List (Key × Value))
  | [] => some []
  | (k, p) :: l => p.sorted.bind fun v => (sortedFields l).map fun vs => (k, v) :: vs

end

/-- `json.dumps(v, sort_keys=True, separators=(",", ":"), default=str)`。 -/
def Py.dumps (p : Py) : Option (List Char) := p.sorted.map Value.render

/-! ## 文字列の key -/

mutual

/-- どの深さの dict も、key は文字列である。 -/
def Py.StringKeyed : Py → Prop
  | .scalar _ => True
  | .str _ => True
  | .other _ => True
  | .seq items => StringKeyedItems items
  | .dict fields => StringKeyedFields fields

def StringKeyedItems : List Py → Prop
  | [] => True
  | p :: l => p.StringKeyed ∧ StringKeyedItems l

def StringKeyedFields : List (Key × Py) → Prop
  | [] => True
  | (k, p) :: l => k.isStr = true ∧ p.StringKeyed ∧ StringKeyedFields l

end

mutual

/-- dict の key に重なりが無い。 -/
def Py.Keyed : Py → Prop
  | .scalar _ => True
  | .str _ => True
  | .other _ => True
  | .seq items => PyKeyedItems items
  | .dict fields => (fields.map fun f => f.1.text).Nodup ∧ PyKeyedFields fields

def PyKeyedItems : List Py → Prop
  | [] => True
  | p :: l => p.Keyed ∧ PyKeyedItems l

def PyKeyedFields : List (Key × Py) → Prop
  | [] => True
  | (_, p) :: l => p.Keyed ∧ PyKeyedFields l

end

/-- 文字列の key の列は並べられ、JSON の key の順に並ぶ。 -/
theorem sorted_of_str (l : List (String × Value)) :
    sortable ((l.map fun f => (Key.str f.1, f.2)).map Prod.fst) = true ∧
      (((l.map fun f => (Key.str f.1, f.2)).insertionSort fun f g => f.1.le g.1 = true).map
        fun f => (f.1.text, f.2)) = l.insertionSort fun a b => a.1 ≤ b.1 := by
  constructor
  · unfold sortable
    rw [List.map_map, Bool.or_eq_true]
    refine Or.inl (List.all_eq_true.mpr fun k hk => ?_)
    obtain ⟨f, -, rfl⟩ := List.mem_map.mp hk
    rfl
  · rw [← List.map_insertionSort (fun a b : String × Value => a.1 ≤ b.1) _ _ _
      (fun a _ b _ => (decide_eq_true_iff).symm), List.map_map]
    exact List.map_id _

mutual

/-- **key が文字列だけなら、並べた値は JSON の値を並べたものである。** -/
theorem Py.sorted_of_stringKeyed : ∀ p : Py, p.StringKeyed → p.sorted = some p.toValue.norm
  | .scalar _, _ => rfl
  | .str _, _ => rfl
  | .other _, _ => rfl
  | .seq items, h => by
    show (sortedItems items).map Value.arr = _
    rw [sortedItems_of_stringKeyed items h]
    rfl
  | .dict fields, h => by
    obtain ⟨hsortable, hsorted⟩ := sorted_of_str (normFields (fieldsToValue fields))
    show (sortedFields fields).bind _ = _
    rw [sortedFields_of_stringKeyed fields h, Option.bind_some, if_pos hsortable, hsorted]
    rfl

theorem sortedItems_of_stringKeyed : ∀ l : List Py, StringKeyedItems l →
    sortedItems l = some (normItems (itemsToValue l))
  | [], _ => rfl
  | p :: l, h => by
    rw [sortedItems, p.sorted_of_stringKeyed h.1, Option.bind_some, sortedItems_of_stringKeyed l h.2]
    rfl

theorem sortedFields_of_stringKeyed : ∀ l : List (Key × Py), StringKeyedFields l →
    sortedFields l = some ((normFields (fieldsToValue l)).map fun f => (Key.str f.1, f.2))
  | [], _ => rfl
  | (.str s, p) :: l, h => by
    rw [sortedFields, p.sorted_of_stringKeyed h.2.1, Option.bind_some,
      sortedFields_of_stringKeyed l h.2.2]
    rfl
  | (.int n, p) :: l, h => by cases h.1

end

/-- key が文字列だけなら、`sort_keys=True` の text は JSON の値の text と同じである。 -/
theorem Py.dumps_of_stringKeyed {p : Py} (h : p.StringKeyed) : p.dumps = some p.toValue.dumps := by
  unfold Py.dumps
  rw [p.sorted_of_stringKeyed h]
  rfl

theorem keys_fieldsToValue : ∀ l : List (Key × Py),
    (fieldsToValue l).map Prod.fst = l.map fun f => f.1.text
  | [] => rfl
  | (k, p) :: l => by
    rw [fieldsToValue, List.map_cons, List.map_cons, keys_fieldsToValue l]

mutual

theorem Py.keyed_toValue : ∀ p : Py, p.Keyed → p.toValue.Keyed
  | .scalar _, _ => trivial
  | .str _, _ => trivial
  | .other _, _ => trivial
  | .seq items, h => keyed_itemsToValue items h
  | .dict fields, h => ⟨(keys_fieldsToValue fields).symm ▸ h.1, keyed_fieldsToValue fields h.2⟩

theorem keyed_itemsToValue : ∀ l : List Py, PyKeyedItems l → KeyedItems (itemsToValue l)
  | [], _ => trivial
  | p :: l, h => ⟨p.keyed_toValue h.1, keyed_itemsToValue l h.2⟩

theorem keyed_fieldsToValue : ∀ l : List (Key × Py), PyKeyedFields l → KeyedFields (fieldsToValue l)
  | [], _ => trivial
  | (_, p) :: l, h => ⟨p.keyed_toValue h.1, keyed_fieldsToValue l h.2⟩

end

/-! ## JSON の値 -/

mutual

/-- `json.loads` の返す値。 -/
def Py.ofValue : Value → Py
  | .scalar a => .scalar a
  | .str s => .str s
  | .arr items => .seq (itemsOfValue items)
  | .obj fields => .dict (fieldsOfValue fields)

def itemsOfValue : List Value → List Py
  | [] => []
  | v :: l => Py.ofValue v :: itemsOfValue l

def fieldsOfValue : List (String × Value) → List (Key × Py)
  | [] => []
  | (k, v) :: l => (.str k, Py.ofValue v) :: fieldsOfValue l

end

mutual

theorem Py.toValue_ofValue : ∀ v : Value, (Py.ofValue v).toValue = v
  | .scalar _ => rfl
  | .str _ => rfl
  | .arr items => congrArg Value.arr (itemsToValue_ofValue items)
  | .obj fields => congrArg Value.obj (fieldsToValue_ofValue fields)

theorem itemsToValue_ofValue : ∀ l : List Value, itemsToValue (itemsOfValue l) = l
  | [] => rfl
  | v :: l => by
    rw [itemsOfValue, itemsToValue, Py.toValue_ofValue v, itemsToValue_ofValue l]

theorem fieldsToValue_ofValue : ∀ l : List (String × Value), fieldsToValue (fieldsOfValue l) = l
  | [] => rfl
  | (k, v) :: l => by
    rw [fieldsOfValue, fieldsToValue, Py.toValue_ofValue v, fieldsToValue_ofValue l]
    rfl

end

mutual

theorem Py.stringKeyed_ofValue : ∀ v : Value, (Py.ofValue v).StringKeyed
  | .scalar _ => trivial
  | .str _ => trivial
  | .arr items => stringKeyed_itemsOfValue items
  | .obj fields => stringKeyed_fieldsOfValue fields

theorem stringKeyed_itemsOfValue : ∀ l : List Value, StringKeyedItems (itemsOfValue l)
  | [] => trivial
  | v :: l => ⟨Py.stringKeyed_ofValue v, stringKeyed_itemsOfValue l⟩

theorem stringKeyed_fieldsOfValue : ∀ l : List (String × Value), StringKeyedFields (fieldsOfValue l)
  | [] => trivial
  | (_, v) :: l => ⟨rfl, Py.stringKeyed_ofValue v, stringKeyed_fieldsOfValue l⟩

end

end CipherPost.JsonText
