import VertRule.DecisionPack
import VertRule.LayeredPack
import VertRule.Tables

/-!
# Packs by tables

Third-party code that also reads finitely many packs and decision payloads; whatever is not listed
is refused.
-/

namespace VertRule

/-- A decision pack as JSON. -/
def DecisionPack.toValue (pack : DecisionPack) : Json :=
  .object [("_format", .string pack.format),
    ("decision_canonical", .string pack.decisionCanonical),
    ("depended_on", .ofStrings pack.dependedOn)]

/-- A layered pack as JSON. -/
def LayeredPack.toValue (pack : LayeredPack) : Json :=
  .object [("_format", .string pack.format), ("receipts", .ofStrings pack.receipts),
    ("root_canonical", .string pack.rootCanonical)]

/-- Third-party code that reads the listed packs. -/
def Externals.withPacks (E : Externals) (decisionPayloads : List (Json × DecisionReceiptPayload))
    (decisionPacks : List DecisionPack) (layeredPacks : List LayeredPack) : Externals :=
  { E with
    decisionPayloadFromValue := fun v =>
      (decisionPayloads.lookup v).elim (.error Tables.unlisted) .ok
    decisionPackFromSlice := fun rawBytes =>
      (decisionPacks.find? fun p => asBytes p.toValue.text = rawBytes).elim
        (.error Tables.unlisted) .ok
    layeredPackFromSlice := fun rawBytes =>
      (layeredPacks.find? fun p => asBytes p.toValue.text = rawBytes).elim
        (.error Tables.unlisted) .ok }

variable {E : Externals} {decisionPayloads : List (Json × DecisionReceiptPayload)}
  {decisionPacks : List DecisionPack} {layeredPacks : List LayeredPack}

/-- Receipts are verified as before. -/
theorem verifyReceipt_withPacks (rawBytes : Bytes) :
    verifyReceipt (E.withPacks decisionPayloads decisionPacks layeredPacks) rawBytes =
      verifyReceipt E rawBytes := rfl

theorem fromStr_withPacks (s : String) :
    (E.withPacks decisionPayloads decisionPacks layeredPacks).fromStr s = E.fromStr s := rfl

theorem extractEventHash_withPacks (s : String) :
    extractEventHash (E.withPacks decisionPayloads decisionPacks layeredPacks) s =
      extractEventHash E s := rfl

/-- A pack that has been read is checked whatever other packs can be. -/
theorem checkDecisionPack_withPacks (decisionPacks' : List DecisionPack) (pack : DecisionPack) :
    checkDecisionPack (E.withPacks decisionPayloads decisionPacks layeredPacks) pack =
      checkDecisionPack (E.withPacks decisionPayloads decisionPacks' layeredPacks) pack := rfl

theorem extractDecisionPayload_withPacks (decisionPacks' : List DecisionPack) (s : String) :
    extractDecisionPayload (E.withPacks decisionPayloads decisionPacks layeredPacks) s =
      extractDecisionPayload (E.withPacks decisionPayloads decisionPacks' layeredPacks) s := rfl

theorem supportSetFromValue_withPacks (v : Json) :
    (E.withPacks decisionPayloads decisionPacks layeredPacks).supportSetFromValue v =
      E.supportSetFromValue v := rfl

theorem decisionPayloadFromValue_withPacks (hl : (decisionPayloads.map Prod.fst).Nodup) {v : Json}
    {payload : DecisionReceiptPayload} (h : (v, payload) ∈ decisionPayloads) :
    (E.withPacks decisionPayloads decisionPacks layeredPacks).decisionPayloadFromValue v =
      .ok payload := by
  simp [Externals.withPacks, lookup_eq_some_of_mem hl h]

theorem decisionPackFromSlice_withPacks (hl : (decisionPacks.map fun p => p.toValue.chars).Nodup)
    {pack : DecisionPack} (h : pack ∈ decisionPacks) :
    (E.withPacks decisionPayloads decisionPacks layeredPacks).decisionPackFromSlice
      (asBytes pack.toValue.text) = .ok pack := by
  simp [Externals.withPacks, Tables.find?_text DecisionPack.toValue hl h]

theorem layeredPackFromSlice_withPacks (hl : (layeredPacks.map fun p => p.toValue.chars).Nodup)
    {pack : LayeredPack} (h : pack ∈ layeredPacks) :
    (E.withPacks decisionPayloads decisionPacks layeredPacks).layeredPackFromSlice
      (asBytes pack.toValue.text) = .ok pack := by
  simp [Externals.withPacks, Tables.find?_text LayeredPack.toValue hl h]

end VertRule
