import Mathlib.Data.List.Nodup
import Mathlib.Data.String.Basic

/-!
# JSON values

The values `serde_json` hands to the verifier, with the accessors the verifier reads them
through.  An object lists its members in the order the map iterates over them, whichever that is;
`serde_json` keeps one member per key.
-/

namespace VertRule

/-- Where keys are distinct, each member is looked up under its key. -/
theorem lookup_eq_some_of_mem {α β : Type*} [BEq α] [LawfulBEq α] {l : List (α × β)}
    (hl : (l.map Prod.fst).Nodup) {a : α} {b : β} (h : (a, b) ∈ l) : l.lookup a = some b := by
  obtain ⟨l₁, l₂, rfl⟩ := List.append_of_mem h
  refine List.lookup_eq_some_iff.2 ⟨l₁, l₂, rfl, fun p hp => ?_⟩
  simp only [List.map_append, List.map_cons, List.nodup_append, List.nodup_cons] at hl
  have hne := hl.2.2 p.1 (List.mem_map_of_mem hp) a List.mem_cons_self
  simpa using Ne.symm hne

theorem mem_of_lookup_eq_some {α β : Type*} [BEq α] [LawfulBEq α] {l : List (α × β)} {a : α}
    {b : β} (h : l.lookup a = some b) : (a, b) ∈ l := by
  obtain ⟨l₁, l₂, rfl, -⟩ := List.lookup_eq_some_iff.1 h
  simp

/-- What is not a key is not looked up. -/
theorem lookup_eq_none_of_notMem {α β : Type*} [BEq α] [LawfulBEq α] {l : List (α × β)} {a : α}
    (h : a ∉ l.map Prod.fst) : l.lookup a = none := by
  cases hl : l.lookup a with
  | none => rfl
  | some b => exact absurd (List.mem_map_of_mem (f := Prod.fst) (mem_of_lookup_eq_some hl)) h

/-- Raw bytes, as `&[u8]`. -/
abbrev Bytes := List UInt8

/-- `str::as_bytes`. -/
def asBytes (s : String) : Bytes := s.toUTF8.data.toList

theorem asBytes_injective : Function.Injective asBytes := by
  intro s t h
  have hdata : s.toUTF8.data = t.toUTF8.data := Array.toList_inj.1 h
  exact String.toByteArray_inj.1 (by simpa using ByteArray.ext hdata)

theorem asBytes_append (s t : String) : asBytes (s ++ t) = asBytes s ++ asBytes t := by
  have hbytes : (s ++ t).toUTF8 = s.toUTF8 ++ t.toUTF8 := String.toByteArray_append
  simp [asBytes]

/-- `String::from_utf8`. -/
def fromUtf8 (bytes : Bytes) : Option String := String.fromUTF8? ⟨bytes.toArray⟩

theorem fromUtf8_eq_some {bytes : Bytes} {s : String} :
    fromUtf8 bytes = some s ↔ bytes = asBytes s := by
  constructor
  · intro h
    rw [fromUtf8, String.fromUTF8?] at h
    split at h
    · obtain rfl := Option.some.inj h
      simp [asBytes, String.fromUTF8]
    · cases h
  · rintro rfl
    have hbytes : (⟨(asBytes s).toArray⟩ : ByteArray) = s.toByteArray := by simp [asBytes]
    rw [fromUtf8, hbytes, String.fromUTF8?, dif_pos s.isValidUTF8]
    rfl

/-- A `serde_json` number: `PosInt(u64)`, `NegInt(i64)`, or `Float(f64)` by its bits. -/
inductive Number where
  | posInt (n : UInt64)
  | negInt (n : Int64)
  | float (bits : UInt64)
  deriving DecidableEq, Repr

namespace Number

/-- `Number::is_u64`. -/
def isU64 : Number → Bool
  | posInt _ => true
  | _ => false

/-- `Number::is_i64`: a negative integer, or a positive one up to `i64::MAX`. -/
def isI64 : Number → Bool
  | posInt n => decide (n.toNat < 2 ^ 63)
  | negInt _ => true
  | float _ => false

/-- `Number::is_f64`. -/
def isF64 : Number → Bool
  | float _ => true
  | _ => false

end Number

/-- A `serde_json::Value`. -/
inductive Json where
  | null
  | bool (b : Bool)
  | number (n : Number)
  | string (s : String)
  | array (elems : List Json)
  | object (fields : List (String × Json))
  deriving Repr

namespace Json

/-! ### Decidable equality -/

mutual

/-- Decidable equality of values. -/
def decEq : (a b : Json) → Decidable (a = b)
  | .null, .null => isTrue rfl
  | .bool a, .bool b => decidable_of_iff (a = b) (by simp)
  | .number a, .number b => decidable_of_iff (a = b) (by simp)
  | .string a, .string b => decidable_of_iff (a = b) (by simp)
  | .array a, .array b =>
    match decEqElems a b with
    | isTrue h => isTrue (by rw [h])
    | isFalse h => isFalse (by simpa using h)
  | .object a, .object b =>
    match decEqFields a b with
    | isTrue h => isTrue (by rw [h])
    | isFalse h => isFalse (by simpa using h)
  | .null, .bool _ | .null, .number _ | .null, .string _ | .null, .array _ | .null, .object _
  | .bool _, .null | .bool _, .number _ | .bool _, .string _ | .bool _, .array _
  | .bool _, .object _ | .number _, .null | .number _, .bool _ | .number _, .string _
  | .number _, .array _ | .number _, .object _ | .string _, .null | .string _, .bool _
  | .string _, .number _ | .string _, .array _ | .string _, .object _ | .array _, .null
  | .array _, .bool _ | .array _, .number _ | .array _, .string _ | .array _, .object _
  | .object _, .null | .object _, .bool _ | .object _, .number _ | .object _, .string _
  | .object _, .array _ => isFalse nofun

/-- Decidable equality of arrays. -/
def decEqElems : (a b : List Json) → Decidable (a = b)
  | [], [] => isTrue rfl
  | [], _ :: _ | _ :: _, [] => isFalse nofun
  | a :: as, b :: bs =>
    match decEq a b, decEqElems as bs with
    | isTrue h, isTrue hs => isTrue (by rw [h, hs])
    | isFalse h, _ => isFalse fun he => h (List.cons.inj he).1
    | _, isFalse hs => isFalse fun he => hs (List.cons.inj he).2

/-- Decidable equality of objects. -/
def decEqFields : (a b : List (String × Json)) → Decidable (a = b)
  | [], [] => isTrue rfl
  | [], _ :: _ | _ :: _, [] => isFalse nofun
  | (k, a) :: as, (l, b) :: bs =>
    match decEq a b, decEqFields as bs with
    | isTrue h, isTrue hs =>
      if hk : k = l then isTrue (by rw [hk, h, hs])
      else isFalse fun he => hk (Prod.mk.inj (List.cons.inj he).1).1
    | isFalse h, _ => isFalse fun he => h (Prod.mk.inj (List.cons.inj he).1).2
    | _, isFalse hs => isFalse fun he => hs (List.cons.inj he).2

end

instance : DecidableEq Json := decEq

/-! ### Accessors -/

/-- `Value::get` with a string key. -/
def get (v : Json) (key : String) : Option Json :=
  match v with
  | .object fields => fields.lookup key
  | _ => none

/-- `value[key]`: the member, or `null` where there is none. -/
def index (v : Json) (key : String) : Json := (v.get key).getD .null

/-- `Value::as_str`. -/
def asStr : Json → Option String
  | .string s => some s
  | _ => none

/-- `Value::as_array`. -/
def asArray : Json → Option (List Json)
  | .array elems => some elems
  | _ => none

/-- `Value::as_object`. -/
def asObject : Json → Option (List (String × Json))
  | .object fields => some fields
  | _ => none

/-- `Value::as_number`. -/
def asNumber : Json → Option Number
  | .number n => some n
  | _ => none

/-- `Value::as_u64`. -/
def asU64 : Json → Option UInt64
  | .number (.posInt n) => some n
  | _ => none

/-- `Map::remove`. -/
def removeKey (fields : List (String × Json)) (key : String) : List (String × Json) :=
  fields.filter fun f => f.1 ≠ key

/-- Removing a key leaves what is looked up under the others. -/
theorem lookup_removeKey {fields : List (String × Json)} {key key' : String} (h : key' ≠ key) :
    (removeKey fields key).lookup key' = fields.lookup key' := by
  induction fields with
  | nil => rfl
  | cons f fields ih =>
    obtain ⟨k, v⟩ := f
    by_cases hk : k = key
    · have hne : (key' == k) = false := by simpa [hk] using h
      rw [removeKey, List.filter_cons_of_neg (by simp [hk]), List.lookup_cons, hne]
      exact ih
    · rw [removeKey, List.filter_cons_of_pos (by simp [hk]), List.lookup_cons, List.lookup_cons]
      cases key' == k with
      | true => rfl
      | false => exact ih

@[simp] theorem get_object (fields : List (String × Json)) (key : String) :
    (Json.object fields).get key = fields.lookup key := rfl

theorem asObject_eq_some {v : Json} {fields : List (String × Json)} :
    v.asObject = some fields ↔ v = .object fields := by
  cases v <;> simp [asObject]

theorem asStr_eq_some {v : Json} {s : String} : v.asStr = some s ↔ v = .string s := by
  cases v <;> simp [asStr]

end Json

end VertRule
