import VertRule.History

/-!
# Cutting and joining a valid chain

Of the envelopes of a valid chain no other valid chain can be made than the chain itself, cut
off somewhere at its end.
-/

namespace VertRule

variable {es fs : List ReceiptEnvelope}

theorem ValidChain.nodup_eventHash (h : ValidChain es) : (es.map (·.eventHash)).Nodup := by
  cases es with
  | nil => exact List.nodup_nil
  | cons first rest => exact h.distinct

/-- A valid chain stays valid when it is cut off. -/
theorem ValidChain.of_prefix (h : ValidChain es) (hp : fs <+: es) : ValidChain fs := by
  obtain ⟨cut, rfl⟩ := hp
  cases fs with
  | nil => trivial
  | cons first rest =>
    have h : ValidChainFrom first (rest ++ cut) := h
    exact {
      parentless := h.parentless
      linked := List.IsChain.left_of_append h.linked
      context := fun e he => h.context e (List.mem_append_left _ he)
      policy := fun e he => h.policy e (List.mem_append_left _ he)
      schema := fun e he => h.schema e (List.mem_append_left _ he)
      distinct := h.distinct.sublist ((List.sublist_append_left (first :: rest) cut).map _) }

/-- What envelopes of a valid chain make a valid chain. -/
theorem ValidChain.recut (h : ValidChain es) (hsub : fs ⊆ es) : ValidChain fs ↔ fs <+: es :=
  ⟨fun hf => h.linked.isPrefix h.nodup_eventHash hf.linked hsub, h.of_prefix⟩

/-- `es` admits no other arrangement of its envelopes than to be cut off at its end. -/
structure OnlyCutsVerify (es : List ReceiptEnvelope) : Prop where
  recut : ∀ fs, (∀ f ∈ fs, f ∈ es) → (verifyChain fs = .ok () ↔ fs <+: es)
  removed : ∀ before removed after, es = before ++ removed ++ after → removed ≠ [] →
    after ≠ [] → verifyChain (before ++ after) ≠ .ok ()
  reordered : ∀ fs, fs.Perm es → fs ≠ es → verifyChain fs ≠ .ok ()
  repeated : ∀ fs, (∀ f ∈ fs, f ∈ es) → ¬ fs.Nodup → verifyChain fs ≠ .ok ()

/-- **A valid chain cannot be re-cut.** -/
theorem verifyChain_onlyCuts (h : verifyChain es = .ok ()) : OnlyCutsVerify es := by
  rw [verifyChain_eq_ok] at h
  have hnodup : es.Nodup := h.nodup_eventHash.of_map _
  have hrecut : ∀ {fs}, fs ⊆ es → verifyChain fs = .ok () → fs <+: es :=
    fun hsub hv => (h.recut hsub).1 (verifyChain_eq_ok.1 hv)
  refine ⟨fun fs hsub => verifyChain_eq_ok.trans (h.recut hsub), ?_, ?_, ?_⟩
  · rintro before removed after rfl hr ha hv
    have hp : before ++ after <+: before ++ (removed ++ after) := by
      rw [← List.append_assoc]
      exact hrecut (by simp) hv
    rw [List.prefix_append_right_inj] at hp
    -- the chain would go on, at the first envelope removed, with one that comes after it
    obtain ⟨x, removed, rfl⟩ := List.exists_cons_of_ne_nil hr
    obtain ⟨y, after, rfl⟩ := List.exists_cons_of_ne_nil ha
    obtain ⟨rfl, -⟩ := List.cons_prefix_cons.1 hp
    simp [List.nodup_append] at hnodup
  · intro fs hperm hne hv
    exact hne ((hrecut hperm.subset hv).eq_of_length hperm.length_eq)
  · intro fs hsub hdup hv
    exact hdup (hnodup.sublist (hrecut hsub hv).sublist)

theorem onlyCuts_twoReceipts : OnlyCutsVerify [firstReceipt, secondReceipt] :=
  verifyChain_onlyCuts (verifyChain_eq_ok.2 validChain_twoReceipts)

end VertRule
