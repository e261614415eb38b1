import Mathlib.Data.List.Nodup
import Mathlib.Data.Set.Card
import Reckon.Names

/-!
# What is filed under a name

A thing filed under a name is found under every name with the same key, and filing or removing it
leaves what is filed under other keys alone. Where every thing is filed under the key of its own
name no key has two of them, so there are as many things as there are keys.
-/

namespace Reckon

namespace Filed

variable {α : Type}

/-! ### Looking up -/

theorem lookup_cons_entry (key other : String) (item : α) (filed : Filed α) :
    List.lookup other ((key, item) :: filed) =
      if other = key then some item else filed.lookup other := by
  rw [List.lookup_cons]
  by_cases h : other = key
  · rw [if_pos h, beq_iff_eq.mpr h]
  · rw [if_neg h, beq_eq_false_iff_ne.mpr h]

theorem lookup_putKey (key other : String) (item : α) (filed : Filed α) :
    (putKey key item filed).lookup other =
      if other = key then some item else filed.lookup other := by
  induction filed with
  | nil => exact lookup_cons_entry key other item []
  | cons entry filed ih =>
    obtain ⟨first, old⟩ := entry
    rw [putKey]
    by_cases hfirst : first = key
    · subst hfirst
      rw [if_pos rfl, lookup_cons_entry, lookup_cons_entry]
      split
      · rfl
      · rfl
    · rw [if_neg hfirst, lookup_cons_entry, lookup_cons_entry, ih]
      by_cases h : other = first
      · rw [if_pos h, if_pos h, if_neg (h ▸ hfirst)]
      · rw [if_neg h, if_neg h]

theorem get?_put (filed : Filed α) (name other : String) (item : α) :
    (filed.put name item).get? other =
      if nameKey other = nameKey name then some item else filed.get? other :=
  lookup_putKey (nameKey name) (nameKey other) item filed

theorem get?_remove (filed : Filed α) (name other : String) :
    (filed.remove name).get? other =
      if nameKey other = nameKey name then none else filed.get? other := by
  rw [remove, get?, get?]
  generalize nameKey name = key
  generalize nameKey other = wanted
  induction filed with
  | nil => rw [List.filter_nil, List.lookup_nil, ite_self]
  | cons entry filed ih =>
    obtain ⟨first, item⟩ := entry
    by_cases hfirst : first = key
    · rw [List.filter_cons_of_neg (by simp [hfirst]), ih, lookup_cons_entry]
      by_cases h : wanted = key
      · rw [if_pos h, if_pos h]
      · rw [if_neg h, if_neg h, if_neg (hfirst ▸ h)]
    · rw [List.filter_cons_of_pos (by simp [hfirst]), lookup_cons_entry, lookup_cons_entry, ih]
      by_cases h : wanted = first
      · rw [if_pos h, if_pos h, if_neg (h ▸ hfirst)]
      · rw [if_neg h, if_neg h]

/-- Under two spellings of a name the same is found. -/
theorem get?_congr (filed : Filed α) {name other : String} (h : nameKey name = nameKey other) :
    filed.get? name = filed.get? other := by
  rw [get?, get?, h]

/-! ### Keys -/

def keys (filed : Filed α) : List String :=
  filed.map Prod.fst

theorem keys_putKey (key : String) (item : α) (filed : Filed α) :
    keys (putKey key item filed) =
      if key ∈ keys filed then keys filed else keys filed ++ [key] := by
  induction filed with
  | nil => rfl
  | cons entry filed ih =>
    obtain ⟨first, old⟩ := entry
    rw [putKey]
    by_cases hfirst : first = key
    · subst hfirst
      simp [keys]
    · have hmem : key ∈ keys ((first, old) :: filed) ↔ key ∈ keys filed := by
        simp [keys, Ne.symm hfirst]
      have hkeys : keys ((first, old) :: putKey key item filed) =
          first :: keys (putKey key item filed) := rfl
      rw [if_neg hfirst, hkeys, ih]
      by_cases h : key ∈ keys filed
      · rw [if_pos h, if_pos (hmem.mpr h)]
        rfl
      · rw [if_neg h, if_neg (mt hmem.mp h)]
        rfl

theorem mem_putKey {key : String} {item : α} {filed : Filed α} {entry : String × α}
    (h : entry ∈ putKey key item filed) : entry = (key, item) ∨ entry ∈ filed := by
  induction filed with
  | nil => exact .inl (List.mem_singleton.mp h)
  | cons first filed ih =>
    rw [putKey] at h
    split at h
    · rcases List.mem_cons.mp h with h | h
      · exact .inl h
      · exact .inr (List.mem_cons_of_mem _ h)
    · rcases List.mem_cons.mp h with h | h
      · exact .inr (h ▸ List.mem_cons_self)
      · exact (ih h).imp_right (List.mem_cons_of_mem _)

theorem lookup_eq_some_iff {filed : Filed α} (h : filed.keys.Nodup) {key : String} {item : α} :
    filed.lookup key = some item ↔ (key, item) ∈ filed := by
  induction filed with
  | nil => simp
  | cons entry filed ih =>
    obtain ⟨first, old⟩ := entry
    obtain ⟨hfirst, hrest⟩ : first ∉ keys filed ∧ (keys filed).Nodup := List.nodup_cons.mp h
    rw [lookup_cons_entry, List.mem_cons, Prod.mk.injEq]
    by_cases hkey : key = first
    · subst hkey
      have hout : (key, item) ∉ filed := fun hmem => hfirst (List.mem_map_of_mem hmem)
      simp [hout, eq_comm]
    · simp [hkey, ih hrest]

/-! ### Things filed under their own names -/

/-- No key comes twice, and everything is filed under the key of the name it has. -/
structure ByName (nameOf : α → String) (filed : Filed α) : Prop where
  nodup : filed.keys.Nodup
  ownKey : ∀ entry ∈ filed, entry.1 = nameKey (nameOf entry.2)

namespace ByName

variable {nameOf : α → String} {filed : Filed α}

theorem nil : ByName nameOf [] :=
  ⟨List.nodup_nil, nofun⟩

theorem put (h : ByName nameOf filed) {name : String} {item : α}
    (hitem : nameKey (nameOf item) = nameKey name) : ByName nameOf (filed.put name item) := by
  constructor
  · rw [Filed.put, keys_putKey]
    split
    · exact h.nodup
    · rw [← List.concat_eq_append]
      exact List.Nodup.concat ‹_› h.nodup
  · intro entry hentry
    rcases mem_putKey hentry with rfl | hentry
    · exact hitem.symm
    · exact h.ownKey entry hentry

theorem remove (h : ByName nameOf filed) (name : String) : ByName nameOf (filed.remove name) :=
  ⟨h.nodup.sublist (List.filter_sublist.map _), fun entry hentry =>
    h.ownKey entry (List.mem_of_mem_filter hentry)⟩

/-- What is found under a name is one of the things, with that name or another spelling of it. -/
theorem get?_eq_some_iff (h : ByName nameOf filed) {name : String} {item : α} :
    filed.get? name = some item ↔ item ∈ filed.items ∧ nameKey (nameOf item) = nameKey name := by
  rw [get?, lookup_eq_some_iff h.nodup]
  constructor
  · intro hmem
    exact ⟨List.mem_map_of_mem hmem, (h.ownKey _ hmem).symm⟩
  · rintro ⟨hitem, hname⟩
    obtain ⟨⟨key, other⟩, hmem, rfl⟩ := List.mem_map.mp hitem
    rw [← hname, ← h.ownKey _ hmem]
    exact hmem

/-- No two things have names with one key. -/
theorem nodup_names (h : ByName nameOf filed) :
    (filed.items.map fun item => nameKey (nameOf item)).Nodup := by
  have hkeys : (filed.items.map fun item => nameKey (nameOf item)) = filed.keys := by
    rw [items, keys, List.map_map]
    exact List.map_congr_left fun entry hentry => (h.ownKey entry hentry).symm
  rw [hkeys]
  exact h.nodup

theorem mem_keys_iff (h : ByName nameOf filed) {key : String} :
    key ∈ filed.keys ↔ ∃ name, nameKey name = key ∧ filed.contains name = true := by
  constructor
  · intro hkey
    obtain ⟨⟨other, item⟩, hmem, rfl⟩ := List.mem_map.mp hkey
    refine ⟨nameOf item, (h.ownKey _ hmem).symm, ?_⟩
    rw [contains, h.get?_eq_some_iff.mpr ⟨List.mem_map_of_mem hmem, rfl⟩]
    rfl
  · rintro ⟨name, rfl, hname⟩
    obtain ⟨item, hitem⟩ := Option.isSome_iff_exists.mp hname
    exact List.mem_map_of_mem ((lookup_eq_some_iff h.nodup).mp hitem)

/-- There are as many things as keys under which something is found. -/
theorem length_eq_ncard (h : ByName nameOf filed) :
    filed.length = {key | ∃ name, nameKey name = key ∧ filed.contains name = true}.ncard := by
  have hset : {key | ∃ name, nameKey name = key ∧ filed.contains name = true} =
      (filed.keys.toFinset : Set String) := by
    ext key
    rw [List.coe_toFinset]
    exact h.mem_keys_iff.symm
  rw [hset, Set.ncard_coe_finset, List.toFinset_card_of_nodup h.nodup, keys, List.length_map]

end ByName

end Filed

end Reckon
