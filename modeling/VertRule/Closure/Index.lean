import VertRule.Closure.Law

/-!
# The index of a closure bundle

The index is keyed by the hashes receipts declare, and a later receipt replaces an earlier one
that declares the same hash: `receiptAt` is the receipt that is left under a hash.
-/

namespace VertRule

variable (E : Externals)

/-- The event hash a string declares, when it is JSON. -/
def declaredHash (raw : String) : Option String := (E.fromStr raw).toOption.bind readEventHash

/-- A string that declares a hash, with its JSON value. -/
def declares (hash raw : String) : Option (Json × String) :=
  match E.fromStr raw with
  | .ok v => if readEventHash v = some hash then some (v, raw) else none
  | .error _ => none

/-- The last of some strings that declares a hash. -/
def lastDeclaring (raws : List String) (hash : String) : Option (Json × String) :=
  raws.reverse.findSome? (declares E hash)

/-- The receipt indexed under a hash. -/
def receiptAt (bundle : ClosureBundle) (hash : String) : Option (Json × String) :=
  lastDeclaring E (bundle.rootCanonical :: bundle.receipts) hash

/-- `raw` is the root or a supplied string, `value` is its JSON value, and it declares `hash`. -/
structure ReceiptOf (bundle : ClosureBundle) (hash raw : String) (value : Json) : Prop where
  mem : raw ∈ bundle.rootCanonical :: bundle.receipts
  json : E.fromStr raw = .ok value
  hash : readEventHash value = some hash

/-- No two receipts of the bundle declare the same hash. -/
def DistinctHashes (bundle : ClosureBundle) : Prop :=
  ((bundle.rootCanonical :: bundle.receipts).filterMap (declaredHash E)).Nodup

variable {E}

theorem Node.ofReceipt_verifyStatus {value : Json} {raw : String} :
    (Node.ofReceipt E value raw).verifyStatus = (verifyReceipt E (asBytes raw)).status := rfl

theorem declares_eq_some {hash raw : String} {r : Json × String} :
    declares E hash raw = some r ↔
      r.2 = raw ∧ E.fromStr raw = .ok r.1 ∧ readEventHash r.1 = some hash := by
  obtain ⟨value, raw'⟩ := r
  unfold declares
  cases E.fromStr raw with
  | error e => simp
  | ok v =>
    by_cases h : readEventHash v = some hash
    · simp only [h, if_true, Option.some.injEq, Prod.mk.injEq, Except.ok.injEq]
      constructor
      · rintro ⟨rfl, rfl⟩
        exact ⟨rfl, rfl, h⟩
      · rintro ⟨rfl, rfl, -⟩
        exact ⟨rfl, rfl⟩
    · simp only [h, if_false, reduceCtorEq, Except.ok.injEq, false_iff, not_and]
      rintro - rfl
      exact h

theorem declares_eq_none {hash hash' raw : String} {value : Json}
    (hjson : E.fromStr raw = .ok value) (hhash : readEventHash value = some hash')
    (hne : hash' ≠ hash) : declares E hash raw = none := by
  simp [declares, hjson, hhash, hne]

/-- The index after a list of strings, one hash at a time. -/
theorem lookup_foldl_indexReceipt {raws : List String} {index : Index} {hash : String} :
    (raws.foldl (indexReceipt E) index).lookup hash =
      ((lastDeclaring E raws hash).map fun r => Node.ofReceipt E r.1 r.2).or
        (index.lookup hash) := by
  induction raws generalizing index with
  | nil => simp [lastDeclaring]
  | cons raw raws ih =>
    have hone : (indexReceipt E index raw).lookup hash =
        ((declares E hash raw).map fun r => Node.ofReceipt E r.1 r.2).or (index.lookup hash) := by
      unfold indexReceipt declares insertNode
      cases E.fromStr raw with
      | error e => simp
      | ok v =>
        cases hv : readEventHash v with
        | none => simp [hv]
        | some h =>
          by_cases hh : h = hash
          · subst hh
            simp [hv]
          · simp [hv, hh, AList.lookup_insert_ne (Ne.symm hh)]
    rw [List.foldl_cons, ih, hone]
    simp only [lastDeclaring, List.reverse_cons, List.findSome?_append, List.findSome?_singleton]
    cases raws.reverse.findSome? (declares E hash) <;> simp

variable {bundle : ClosureBundle} {hash raw : String} {value : Json}

theorem lookup_bundleIndex :
    (bundleIndex E bundle).lookup hash =
      (receiptAt E bundle hash).map fun r => Node.ofReceipt E r.1 r.2 := by
  rw [bundleIndex, lookup_foldl_indexReceipt, AList.lookup_empty, Option.or_none, receiptAt]

theorem supportSet_bundleIndex :
    Index.supportSet (bundleIndex E bundle) hash =
      (((receiptAt E bundle hash).map Prod.fst).map (committedMembers E)).getD [] := by
  rw [Index.supportSet, lookup_bundleIndex, Option.map_map, Option.map_map]
  rfl

/-- What is indexed under a hash is a receipt of the bundle that declares it. -/
theorem receiptOf_of_receiptAt {r : Json × String} (h : receiptAt E bundle hash = some r) :
    ReceiptOf E bundle hash r.2 r.1 := by
  obtain ⟨raw, hmem, hdec⟩ := List.exists_of_findSome?_eq_some h
  obtain ⟨rfl, hjson, hhash⟩ := declares_eq_some.1 hdec
  exact ⟨List.mem_reverse.1 hmem, hjson, hhash⟩

theorem ReceiptOf.declaredHash (h : ReceiptOf E bundle hash raw value) :
    declaredHash E raw = some hash := by
  simp [VertRule.declaredHash, h.json, Except.toOption, h.hash]

theorem ReceiptOf.declares (h : ReceiptOf E bundle hash raw value) :
    declares E hash raw = some (value, raw) :=
  declares_eq_some.2 ⟨rfl, h.json, h.hash⟩

/-- A hash that a receipt declares is indexed. -/
theorem ReceiptOf.isSome (h : ReceiptOf E bundle hash raw value) :
    (receiptAt E bundle hash).isSome := by
  rw [receiptAt, lastDeclaring, List.findSome?_isSome_iff]
  exact ⟨raw, List.mem_reverse.2 h.mem, by simp [h.declares]⟩

/-- A receipt is indexed under the hash it declares, if no later string declares that hash. -/
theorem ReceiptOf.receiptAt_of_last (raws raws' : List String)
    (h : ReceiptOf E bundle hash raw value)
    (hsplit : bundle.rootCanonical :: bundle.receipts = raws ++ raw :: raws')
    (hlast : ∀ raw' ∈ raws', VertRule.declares E hash raw' = none) :
    receiptAt E bundle hash = some (value, raw) := by
  have hnone : raws'.reverse.findSome? (VertRule.declares E hash) = none :=
    List.findSome?_eq_none_iff.2 fun raw' hraw' => hlast raw' (List.mem_reverse.1 hraw')
  rw [receiptAt, lastDeclaring, hsplit, List.reverse_append, List.reverse_cons,
    List.findSome?_append, List.findSome?_append, hnone, List.findSome?_singleton, h.declares]
  rfl

/-- Two elements of a list with the same image under `f` are the same, if the images are
distinct. -/
theorem eq_of_nodup_filterMap {α β : Type*} {f : α → Option β} {l : List α} {a a' : α} {b : β}
    (hl : (l.filterMap f).Nodup) (ha : a ∈ l) (ha' : a' ∈ l) (hb : f a = some b)
    (hb' : f a' = some b) : a = a' := by
  induction l with
  | nil => cases ha
  | cons x l ih =>
    cases hx : f x with
    | none =>
      rw [List.filterMap_cons_none hx] at hl
      have hne : ∀ {y}, f y = some b → y ∈ x :: l → y ∈ l := fun hy hmem =>
        (List.mem_cons.1 hmem).resolve_left fun h => by rw [h, hx] at hy; cases hy
      exact ih hl (hne hb ha) (hne hb' ha')
    | some c =>
      rw [List.filterMap_cons_some hx, List.nodup_cons] at hl
      have hfresh : ∀ {y}, f y = some b → y ∈ l → c ≠ b := fun hy hmem h =>
        hl.1 (List.mem_filterMap.2 ⟨_, hmem, by rw [hy, h]⟩)
      rcases List.mem_cons.1 ha with h | hal
      · rcases List.mem_cons.1 ha' with h' | hal'
        · rw [h, h']
        · exact absurd (Option.some.inj (hx.symm.trans (h ▸ hb))) (hfresh hb' hal')
      · rcases List.mem_cons.1 ha' with h' | hal'
        · exact absurd (Option.some.inj (hx.symm.trans (h' ▸ hb'))) (hfresh hb hal)
        · exact ih hl.2 hal hal'

/-- When hashes are distinct, a receipt is determined by its hash. -/
theorem DistinctHashes.eq {raw' : String} {value' : Json} (hd : DistinctHashes E bundle)
    (h : ReceiptOf E bundle hash raw value) (h' : ReceiptOf E bundle hash raw' value') :
    raw = raw' ∧ value = value' := by
  have hraw : raw = raw' :=
    eq_of_nodup_filterMap hd h.mem h'.mem h.declaredHash h'.declaredHash
  subst hraw
  have hv := h.json.symm.trans h'.json
  exact ⟨rfl, Except.ok.inj hv⟩

end VertRule
