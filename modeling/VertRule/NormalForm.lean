import VertRule.Canon
import VertRule.Json.Members

/-!
# Normal forms

What the canonical form of a value keeps of it.  A canonicalizer orders the members of an object and
has one text for an integer and a float that are equal, so values are told apart up to that only;
`NormalForm` is what is used of it.
-/

namespace VertRule

/-- `norm` is a normal form of values that the canonicalizer encodes, and the parser reads back
where their canonical form is admitted: it forgets the order of members, and may forget how a number
is written, but tells integers apart. -/
structure NormalForm (E : Externals) (norm : Json → Json) : Prop where
  canonical : ∀ {v w c}, typedCanonBytes E v = .ok c →
    (typedCanonBytes E w = .ok c ↔ norm w = norm v)
  reads : ∀ {v c}, typedCanonBytes E v = .ok c → E.toCanonBytesFromSlice c = .ok c →
    ∃ w, E.fromSlice c = .ok w ∧ norm w = norm v
  members : ∀ {v fields}, (fields.map Prod.fst).Nodup → norm v = norm (.object fields) →
    ∃ fields', v = .object fields' ∧ (fields'.map Prod.fst).Nodup ∧
      ∀ key, (fields'.lookup key).map norm = (fields.lookup key).map norm
  object : ∀ {fields fields'}, (fields.map Prod.fst).Nodup → (fields'.map Prod.fst).Nodup →
    (∀ key, (fields.lookup key).map norm = (fields'.lookup key).map norm) →
    norm (.object fields) = norm (.object fields')
  array : ∀ {v elems}, norm v = norm (.array elems) →
    ∃ elems', v = .array elems' ∧ elems'.map norm = elems.map norm
  string : ∀ {v s}, norm v = norm (.string s) → v = .string s
  null : ∀ {v}, norm v = norm .null → v = .null
  bool : ∀ {v b}, norm v = norm (.bool b) → v = .bool b
  ofU64 : ∀ {m n}, norm (.ofU64 m) = norm (.ofU64 n) → m = n

/-- A string member of a value, or the key that it lacks. -/
def stringMember (v : Json) (key : String) : Except String String :=
  ((v.get key).bind Json.asStr).elim (.error key) .ok

namespace NormalForm

variable {E E' : Externals} {norm : Json → Json} (laws : NormalForm E norm)
include laws

/-- A normal form is one for whatever encodes and reads back alike. -/
theorem congr (hcanon : ∀ v, typedCanonBytes E' v = typedCanonBytes E v)
    (hstrict : ∀ c, E'.toCanonBytesFromSlice c = E.toCanonBytesFromSlice c)
    (hread : ∀ c, E'.fromSlice c = E.fromSlice c) : NormalForm E' norm :=
  { laws with
    canonical := fun h => by
      rw [hcanon] at h ⊢
      exact laws.canonical h
    reads := fun h hc => by
      rw [hcanon] at h
      rw [hstrict] at hc
      simpa only [hread] using laws.reads h hc }

/-- Records with one normal form have the same members, up to theirs. -/
theorem map_members_eq {members members' : List (String × Option Json)}
    (h : norm (.object (Json.present members)) = norm (.object (Json.present members')))
    (hkeys : members.map Prod.fst = members'.map Prod.fst)
    (hnodup : (members'.map Prod.fst).Nodup) :
    members.map (fun m => m.2.map norm) = members'.map fun m => m.2.map norm := by
  obtain ⟨fields, hfields, -, hl⟩ := laws.members (hnodup.sublist Json.present_keys_sublist) h
  obtain rfl := Json.object.inj hfields
  have hlookup : ∀ ms : List (String × Option Json), (ms.map Prod.fst).Nodup →
      ms.map (fun m => m.2.map norm) =
        (ms.map Prod.fst).map fun key => ((Json.present ms).lookup key).map norm := by
    intro ms hms
    rw [List.map_map]
    refine List.map_congr_left fun m hm => ?_
    rw [Function.comp_apply, Json.lookup_present hms m hm]
  rw [hlookup members' hnodup, hlookup members (hkeys ▸ hnodup), hkeys]
  exact List.map_congr_left fun key _ => hl key

/-- What has the normal form of a record has its string members. -/
theorem stringMember_eq_ok {v : Json} {fields : List (String × Json)} {s : String} (key : String)
    (hnodup : (fields.map Prod.fst).Nodup) (h : norm v = norm (.object fields))
    (hkey : fields.lookup key = some (.string s)) : stringMember v key = .ok s := by
  obtain ⟨fields', rfl, -, hl⟩ := laws.members hnodup h
  have hmember := hl key
  rw [hkey] at hmember
  obtain ⟨w, hw, hn⟩ := Option.map_eq_some_iff.1 hmember
  rw [stringMember, Json.get_object, hw, laws.string hn]
  rfl

/-- What has the normal form of a list of strings is that list. -/
theorem ofStrings {v : Json} {l : List String} (h : norm v = norm (.ofStrings l)) :
    v = .ofStrings l := by
  have hstrings : ∀ (l : List String) (elems : List Json),
      elems.map norm = (l.map Json.string).map norm → elems = l.map .string := by
    intro l
    induction l with
    | nil => simp
    | cons s l ih =>
      intro elems hmap
      obtain ⟨elem, elems, rfl, helem, hrest⟩ := List.map_eq_cons_iff.1 hmap
      rw [laws.string helem, ih _ hrest, List.map_cons]
  obtain ⟨elems, rfl, hmap⟩ := laws.array h
  rw [hstrings l elems hmap, Json.ofStrings]

theorem injective_string : Function.Injective fun s => norm (.string s) := fun _ _ h =>
  Json.string.inj (laws.string h)

theorem injective_bool : Function.Injective fun b => norm (.bool b) := fun _ _ h =>
  Json.bool.inj (laws.bool h)

theorem injective_ofU64 : Function.Injective fun n => norm (.ofU64 n) := fun _ _ h => laws.ofU64 h

/-- Lists are told apart where their elements are. -/
theorem injective_array {α : Type*} {write : α → Json}
    (h : Function.Injective fun a => norm (write a)) :
    Function.Injective fun l : List α => norm (.array (l.map write)) := by
  intro l l' heq
  obtain ⟨elems, helems, hmap⟩ := laws.array heq
  obtain rfl := Json.array.inj helems
  rw [List.map_map, List.map_map] at hmap
  exact List.map_injective_iff.2 h hmap

end NormalForm

end VertRule
