import VertRule.Json.Basic
import Mathlib.Data.List.Sort

/-!
# Values up to the order of their members

`Json.sorted` brings the members of every object into ascending order, as a canonicalizer does.
Objects with distinct keys have one sorted form exactly when they have the same keys with the same
sorted values (`Json.sorted_object_eq_iff`).
-/

namespace VertRule

namespace Json

/-- A member comes before another by its key. -/
def keyLe (f g : String × Json) : Prop := f.1 ≤ g.1

instance : DecidableRel keyLe := fun f g => inferInstanceAs (Decidable (f.1 ≤ g.1))

instance : Std.Total keyLe := ⟨fun f g => le_total f.1 g.1⟩

instance : IsTrans (String × Json) keyLe := ⟨fun _ _ _ => le_trans⟩

mutual

/-- The value with the members of its objects in ascending order. -/
def sorted : Json → Json
  | .object fields => .object ((sortedFields fields).insertionSort keyLe)
  | .array elems => .array (sortedElems elems)
  | .null => .null
  | .bool b => .bool b
  | .number n => .number n
  | .string s => .string s
termination_by structural v => v

/-- The elements, sorted. -/
def sortedElems : List Json → List Json
  | [] => []
  | v :: elems => sorted v :: sortedElems elems
termination_by structural elems => elems

/-- The members with their values sorted, in the order they stand in. -/
def sortedFields : List (String × Json) → List (String × Json)
  | [] => []
  | (key, v) :: fields => (key, sorted v) :: sortedFields fields
termination_by structural fields => fields

end

variable {fields fields' : List (String × Json)} {elems : List Json} {v : Json}

theorem sortedElems_eq_map : sortedElems elems = elems.map sorted := by
  induction elems with
  | nil => rfl
  | cons v elems ih => rw [sortedElems, ih, List.map_cons]

theorem map_fst_sortedFields : (sortedFields fields).map Prod.fst = fields.map Prod.fst := by
  induction fields with
  | nil => rfl
  | cons f fields ih => rw [sortedFields, List.map_cons, List.map_cons, ih]

theorem lookup_sortedFields (key : String) :
    (sortedFields fields).lookup key = (fields.lookup key).map sorted := by
  induction fields with
  | nil => rfl
  | cons f fields ih =>
    rw [sortedFields, List.lookup_cons, List.lookup_cons, ih]
    cases key == f.1 <;> rfl

/-- The order of members with distinct keys does not matter to what is looked up. -/
theorem lookup_eq_of_perm (h : fields.Perm fields') (hnodup : (fields.map Prod.fst).Nodup)
    (key : String) : fields.lookup key = fields'.lookup key := by
  have hnodup' : (fields'.map Prod.fst).Nodup := (h.map Prod.fst).nodup_iff.1 hnodup
  cases hl : fields.lookup key with
  | some v => exact (lookup_eq_some_of_mem hnodup' (h.subset (mem_of_lookup_eq_some hl))).symm
  | none =>
    cases hl' : fields'.lookup key with
    | none => rfl
    | some v =>
      have hv := lookup_eq_some_of_mem hnodup (h.symm.subset (mem_of_lookup_eq_some hl'))
      exact absurd (hl.symm.trans hv) (by simp)

/-- The members come in ascending key order, one for each key, as in canonical texts. -/
def KeysAscending (fields : List (String × Json)) : Prop :=
  (fields.map Prod.fst).Pairwise (· < ·)

theorem KeysAscending.nodup (h : KeysAscending fields) : (fields.map Prod.fst).Nodup :=
  h.imp fun hlt => ne_of_lt hlt

/-- A map is determined by what is looked up in it. -/
theorem KeysAscending.eq_of_lookup (h : KeysAscending fields) (h' : KeysAscending fields')
    (hl : ∀ key, fields.lookup key = fields'.lookup key) : fields = fields' := by
  have hperm : fields.Perm fields' := by
    rw [List.perm_ext_iff_of_nodup (List.Nodup.of_map _ h.nodup) (List.Nodup.of_map _ h'.nodup)]
    rintro ⟨key, v⟩
    constructor
    · intro hm
      exact mem_of_lookup_eq_some ((hl key).symm.trans (lookup_eq_some_of_mem h.nodup hm))
    · intro hm
      exact mem_of_lookup_eq_some ((hl key).trans (lookup_eq_some_of_mem h'.nodup hm))
  exact hperm.eq_of_pairwise (fun _ _ _ _ hab hba => absurd hba (lt_asymm hab))
    (List.pairwise_map.1 h) (List.pairwise_map.1 h')

theorem keysAscending_insertionSort (hnodup : (fields.map Prod.fst).Nodup) :
    KeysAscending (fields.insertionSort keyLe) := by
  have hle : ((fields.insertionSort keyLe).map Prod.fst).Pairwise (· ≤ ·) :=
    List.pairwise_map.2 (List.pairwise_insertionSort keyLe fields)
  have hperm := (List.perm_insertionSort keyLe fields).map Prod.fst
  exact hle.imp₂ (fun _ _ hle hne => lt_of_le_of_ne hle hne) (hperm.nodup_iff.2 hnodup)

theorem lookup_insertionSort (hnodup : (fields.map Prod.fst).Nodup) (key : String) :
    (fields.insertionSort keyLe).lookup key = fields.lookup key :=
  (lookup_eq_of_perm (List.perm_insertionSort keyLe fields).symm hnodup key).symm

theorem get_sorted_object (hnodup : (fields.map Prod.fst).Nodup) (key : String) :
    (Json.object fields).sorted.get key = (fields.lookup key).map sorted := by
  rw [← map_fst_sortedFields] at hnodup
  rw [sorted, get_object, lookup_insertionSort hnodup, lookup_sortedFields]

/-- **Objects have one sorted form when they have the same members**, up to theirs. -/
theorem sorted_object_eq_iff (h : (fields.map Prod.fst).Nodup)
    (h' : (fields'.map Prod.fst).Nodup) :
    (Json.object fields).sorted = (Json.object fields').sorted ↔
      ∀ key, (fields.lookup key).map sorted = (fields'.lookup key).map sorted := by
  rw [← map_fst_sortedFields] at h h'
  rw [sorted, sorted, Json.object.injEq]
  constructor
  · intro heq key
    rw [← lookup_sortedFields, ← lookup_sortedFields, ← lookup_insertionSort h key,
      ← lookup_insertionSort h' key, heq]
  · intro hl
    refine (keysAscending_insertionSort h).eq_of_lookup (keysAscending_insertionSort h') ?_
    intro key
    rw [lookup_insertionSort h, lookup_insertionSort h', lookup_sortedFields, lookup_sortedFields,
      hl]

/-- What has the sorted form of an object with distinct keys is such an object. -/
theorem exists_object_of_sorted_eq (h : (fields.map Prod.fst).Nodup)
    (hv : v.sorted = (Json.object fields).sorted) :
    ∃ fields', v = .object fields' ∧ (fields'.map Prod.fst).Nodup := by
  cases v with
  | object fields' =>
    refine ⟨fields', rfl, ?_⟩
    rw [sorted, sorted, Json.object.injEq] at hv
    have hperm := (List.perm_insertionSort keyLe (sortedFields fields')).symm.trans
      ((List.Perm.of_eq hv).trans (List.perm_insertionSort keyLe (sortedFields fields)))
    have hkeys := (hperm.map Prod.fst).nodup_iff
    rw [map_fst_sortedFields, map_fst_sortedFields] at hkeys
    exact hkeys.2 h
  | _ => simp [sorted] at hv

end Json

end VertRule
