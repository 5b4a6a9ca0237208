import VertRule.Json.Basic

/-!
# Admitted values

The values a strict canonicalizer admits: integers that a double holds exactly, and strings over
some set of characters, which a result that reads strings leaves open.
-/

namespace VertRule

/-! ### Texts -/

/-- A string over the admitted characters. -/
def Text (admits : Char → Prop) (s : String) : Prop := ∀ c ∈ s.toList, admits c

/-- A string of ASCII characters. -/
def IsAscii (s : String) : Prop := ∀ c ∈ s.toList, c.toNat < 128

instance (s : String) : Decidable (IsAscii s) :=
  List.decidableBAll (fun c : Char => c.toNat < 128) s.toList

section Text

variable {admits : Char → Prop} {s t : String}

@[simp] theorem text_append : Text admits (s ++ t) ↔ Text admits s ∧ Text admits t := by
  simp only [Text, String.toList_append, List.mem_append]
  exact ⟨fun h => ⟨fun c hc => h c (.inl hc), fun c hc => h c (.inr hc)⟩,
    fun h c hc => hc.elim (h.1 c) (h.2 c)⟩

theorem IsAscii.text (hs : IsAscii s) (ha : ∀ c : Char, c.toNat < 128 → admits c) :
    Text admits s :=
  fun c hc => ha c (hs c hc)

theorem isAscii_repr (n : ℕ) : IsAscii n.repr := by
  intro c hc
  rw [Nat.toList_repr] at hc
  have hdigit := Nat.isDigit_of_mem_toDigits (by decide) (by decide) hc
  simp only [Char.isDigit, Bool.and_eq_true, decide_eq_true_eq] at hdigit
  have hle : c.val.toNat ≤ 57 := UInt32.le_iff_toNat_le.1 hdigit.2
  exact lt_of_le_of_lt hle (by decide)

theorem toString_string (s : String) : toString s = s := rfl

theorem toString_uint32 (n : UInt32) : toString n = n.toNat.repr := rfl

theorem toString_uint64 (n : UInt64) : toString n = n.toNat.repr := rfl

end Text

namespace Json

/-! ### Values -/

/-- A double holds the natural number exactly: all bits below its 53 highest are zero. -/
def IsDouble (n : ℕ) : Prop := 2 ^ (n.log2 - 52) ∣ n

instance (n : ℕ) : Decidable (IsDouble n) :=
  inferInstanceAs (Decidable (2 ^ (n.log2 - 52) ∣ n))

/-- The numbers that a double holds exactly are the 53-bit significands, scaled. -/
theorem isDouble_iff {n : ℕ} : IsDouble n ↔ ∃ m e, m < 2 ^ 53 ∧ n = m * 2 ^ e := by
  constructor
  · rintro ⟨m, hm⟩
    refine ⟨m, n.log2 - 52, ?_, hm.trans (Nat.mul_comm _ _)⟩
    -- the quotient keeps the 53 highest bits
    have hn : n < 2 ^ (n.log2 + 1) := Nat.lt_log2_self
    have hle : 2 ^ (n.log2 + 1) ≤ 2 ^ (n.log2 - 52) * 2 ^ 53 := by
      rw [← pow_add]
      exact Nat.pow_le_pow_right (by omega) (by omega)
    have hlt : 2 ^ (n.log2 - 52) * m < 2 ^ (n.log2 - 52) * 2 ^ 53 := by
      rw [← hm]
      exact hn.trans_le hle
    exact Nat.lt_of_mul_lt_mul_left hlt
  · rintro ⟨m, e, hm, rfl⟩
    rcases Nat.eq_zero_or_pos m with rfl | hpos
    · simp [IsDouble]
    · have hne : m * 2 ^ e ≠ 0 := Nat.mul_ne_zero (by omega) (by simp)
      have hlog : (m * 2 ^ e).log2 < 53 + e := by
        rw [Nat.log2_lt hne, pow_add]
        exact Nat.mul_lt_mul_of_pos_right hm (Nat.two_pow_pos e)
      exact Nat.dvd_mul_left_of_dvd (Nat.pow_dvd_pow 2 (by omega)) m

theorem isDouble_of_lt {n : ℕ} (h : n < 2 ^ 53) : IsDouble n :=
  isDouble_iff.2 ⟨n, 0, h, by simp⟩

mutual

/-- Every integer of a value is one that a double holds exactly. -/
def inRange : Json → Bool
  | .number (.posInt n) => decide (IsDouble n.toNat)
  | .number (.negInt n) => decide (IsDouble n.toInt.natAbs)
  | .array elems => inRangeElems elems
  | .object fields => inRangeFields fields
  | _ => true
termination_by structural v => v

/-- `inRange` of all elements. -/
def inRangeElems : List Json → Bool
  | [] => true
  | v :: elems => inRange v && inRangeElems elems
termination_by structural elems => elems

/-- `inRange` of all members. -/
def inRangeFields : List (String × Json) → Bool
  | [] => true
  | (_, v) :: fields => inRange v && inRangeFields fields
termination_by structural fields => fields

end

mutual

/-- The strings of a value, keys included. -/
def texts : Json → List String
  | .string s => [s]
  | .array elems => textsElems elems
  | .object fields => textsFields fields
  | _ => []
termination_by structural v => v

/-- `texts` of all elements. -/
def textsElems : List Json → List String
  | [] => []
  | v :: elems => texts v ++ textsElems elems
termination_by structural elems => elems

/-- `texts` of all members. -/
def textsFields : List (String × Json) → List String
  | [] => []
  | (key, v) :: fields => key :: (texts v ++ textsFields fields)
termination_by structural fields => fields

end

theorem inRangeElems_iff {elems : List Json} :
    inRangeElems elems = true ↔ ∀ v ∈ elems, v.inRange = true := by
  induction elems with
  | nil => simp [inRangeElems]
  | cons v elems ih => simp [inRangeElems, ih]

theorem inRangeFields_iff {fields : List (String × Json)} :
    inRangeFields fields = true ↔ ∀ f ∈ fields, f.2.inRange = true := by
  induction fields with
  | nil => simp [inRangeFields]
  | cons f fields ih => simp [inRangeFields, ih]

theorem textsElems_eq (elems : List Json) : textsElems elems = elems.flatMap texts := by
  induction elems with
  | nil => rfl
  | cons v elems ih => simp [textsElems, ih]

theorem textsFields_eq (fields : List (String × Json)) :
    textsFields fields = fields.flatMap fun f => f.1 :: f.2.texts := by
  induction fields with
  | nil => rfl
  | cons f fields ih => simp [textsFields, ih]

/-- A value the canonicalizer admits. -/
structure Admitted (admits : Char → Prop) (v : Json) : Prop where
  inRange : v.inRange = true
  texts : ∀ s ∈ v.texts, Text admits s

variable {admits : Char → Prop}

@[simp] theorem admitted_bool (b : Bool) : (Json.bool b).Admitted admits :=
  ⟨rfl, by simp [Json.texts]⟩

@[simp] theorem admitted_string {s : String} : (Json.string s).Admitted admits ↔ Text admits s :=
  ⟨fun h => h.texts s (by simp [Json.texts]), fun h => ⟨rfl, by simpa [Json.texts] using h⟩⟩

@[simp] theorem admitted_posInt {n : UInt64} :
    (Json.number (.posInt n)).Admitted admits ↔ IsDouble n.toNat :=
  ⟨fun h => by simpa [Json.inRange] using h.inRange,
    fun h => ⟨by simpa [Json.inRange] using h, by simp [Json.texts]⟩⟩

@[simp] theorem admitted_array {elems : List Json} :
    (Json.array elems).Admitted admits ↔ ∀ v ∈ elems, v.Admitted admits := by
  constructor
  · rintro ⟨hr, ht⟩ v hv
    simp only [Json.inRange, inRangeElems_iff, Json.texts, textsElems_eq, List.mem_flatMap] at hr ht
    exact ⟨hr v hv, fun s hs => ht s ⟨v, hv, hs⟩⟩
  · intro h
    refine ⟨?_, ?_⟩
    · simp only [Json.inRange, inRangeElems_iff]
      exact fun v hv => (h v hv).inRange
    · simp only [Json.texts, textsElems_eq, List.mem_flatMap]
      rintro s ⟨v, hv, hs⟩
      exact (h v hv).texts s hs

@[simp] theorem admitted_object {fields : List (String × Json)} :
    (Json.object fields).Admitted admits ↔
      ∀ f ∈ fields, Text admits f.1 ∧ f.2.Admitted admits := by
  constructor
  · rintro ⟨hr, ht⟩ f hf
    simp only [Json.inRange, inRangeFields_iff, Json.texts, textsFields_eq, List.mem_flatMap,
      List.mem_cons] at hr ht
    exact ⟨ht f.1 ⟨f, hf, .inl rfl⟩, hr f hf, fun s hs => ht s ⟨f, hf, .inr hs⟩⟩
  · intro h
    refine ⟨?_, ?_⟩
    · simp only [Json.inRange, inRangeFields_iff]
      exact fun f hf => (h f hf).2.inRange
    · simp only [Json.texts, textsFields_eq, List.mem_flatMap, List.mem_cons]
      rintro s ⟨f, hf, rfl | hs⟩
      · exact (h f hf).1
      · exact (h f hf).2.texts s hs

end Json

end VertRule
