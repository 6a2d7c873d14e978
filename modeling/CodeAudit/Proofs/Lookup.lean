import CodeAudit.Value
import Mathlib.Data.List.Nodup

/-!
# Look-ups in tables

Looking a key up in a table with renamed keys gives the last value that stands under the name
(`get?_mapKeys`). The names are distinct (`nodup_mapKeys`), and then a look-up and an entry are the
same (`lookup_eq_some_iff_mem`).
-/

namespace CodeAudit

theorem lookup_pair (key : String) (value : α) (rest : List (String × α)) (name : String) :
    ((key, value) :: rest).lookup name = if name = key then some value else rest.lookup name := by
  rw [List.lookup_cons]
  by_cases h : name = key
  · simp [h]
  · rw [beq_false_of_ne h, if_neg h]

theorem lookup_map_snd (f : β → γ) (key : String) (table : List (String × β)) :
    (table.map fun (k, v) => (k, f v)).lookup key = (table.lookup key).map f := by
  induction table with
  | nil => rfl
  | cons entry table ih =>
    obtain ⟨k, v⟩ := entry
    simp only [List.map_cons, List.lookup_cons, ih]
    split <;> rfl

theorem lookup_eq_some_iff_mem {table : List (String × α)} (h : (table.map (·.1)).Nodup) :
    table.lookup key = some value ↔ (key, value) ∈ table := by
  induction table with
  | nil => simp
  | cons entry table ih =>
    obtain ⟨k, v⟩ := entry
    obtain ⟨hk, hrest⟩ := List.nodup_cons.mp h
    rw [lookup_pair, List.mem_cons, Prod.mk.injEq, ← ih hrest]
    by_cases hkey : key = k
    · have habsent : table.lookup key ≠ some value := fun hlookup =>
        hk (List.mem_map.mpr ⟨(key, value), (ih hrest).mp hlookup, hkey⟩)
      simp [hkey, eq_comm, hkey ▸ habsent]
    · simp [hkey]

namespace Entries

theorem get?_put (entries : Entries) (key : String) (value : Value) (name : String) :
    (entries.put key value).get? name = if name = key then some value else entries.get? name := by
  induction entries with
  | nil => exact lookup_pair key value [] name
  | cons entry rest ih =>
    obtain ⟨k, v⟩ := entry
    simp only [get?, put] at ih ⊢
    by_cases hk : k = key
    · simp only [hk, BEq.rfl, ↓reduceIte, lookup_pair]
      split <;> rfl
    · simp only [beq_iff_eq, hk, ↓reduceIte, lookup_pair, ih]
      by_cases hname : name = k
      · simp [hname, hk]
      · simp [hname]

theorem mem_keys_put {entries : Entries} :
    name ∈ (entries.put key value).keys ↔ name = key ∨ name ∈ entries.keys := by
  induction entries with
  | nil => simp [put, keys]
  | cons entry rest ih =>
    obtain ⟨k, v⟩ := entry
    simp only [put, keys] at ih ⊢
    by_cases hk : k = key
    · simp [hk]
    · simp [hk, ih, or_left_comm]

theorem nodup_put {entries : Entries} (h : entries.keys.Nodup) :
    (entries.put key value).keys.Nodup := by
  induction entries with
  | nil => simp [put, keys]
  | cons entry rest ih =>
    obtain ⟨k, v⟩ := entry
    obtain ⟨hk, hrest⟩ := List.nodup_cons.mp h
    simp only [put]
    split
    · exact h
    · rename_i hne
      refine List.nodup_cons.mpr ⟨fun hmem => ?_, ih hrest⟩
      rcases mem_keys_put.mp hmem with heq | hmem
      · exact hne (beq_iff_eq.mpr heq)
      · exact hk hmem

-- ---------------------------------------------------------------------------
-- Renamed keys
-- ---------------------------------------------------------------------------

theorem mapKeys_eq_foldl (f : String → String) (entries : Entries) :
    mapKeys f entries = entries.foldl (fun out e => put out (f e.1) e.2) [] := rfl

theorem nodup_mapKeys (f : String → String) (entries : Entries) :
    (mapKeys f entries).keys.Nodup := by
  rw [mapKeys_eq_foldl]
  refine List.foldlRecOn entries _ (motive := fun out : Entries => out.keys.Nodup) (by simp [keys])
    fun out hout entry _ => ?_
  exact nodup_put hout

theorem get?_mapKeys (f : String → String) (entries : Entries) (name : String) :
    (mapKeys f entries).get? name = (entries.reverse.find? (f ·.1 == name)).map (·.2) := by
  have hfold (out : Entries) :
      (entries.foldl (fun out e => put out (f e.1) e.2) out).get? name =
        ((entries.reverse.find? (f ·.1 == name)).map (·.2)).or (out.get? name) := by
    induction entries generalizing out with
    | nil => simp
    | cons entry rest ih =>
      obtain ⟨k, v⟩ := entry
      rw [List.foldl_cons, ih, get?_put, List.reverse_cons, List.find?_append]
      cases rest.reverse.find? (f ·.1 == name) with
      | some found => simp
      | none =>
        by_cases hk : f k = name
        · simp [hk]
        · simp [hk, Ne.symm hk]
  rw [mapKeys_eq_foldl, hfold]
  simp [get?]

theorem get?_erase {entries : Entries} (h : name ≠ key) :
    (entries.erase key).get? name = entries.get? name := by
  induction entries with
  | nil => rfl
  | cons entry rest ih =>
    obtain ⟨k, v⟩ := entry
    simp only [get?, erase] at ih ⊢
    rw [List.filter_cons]
    by_cases hk : k = key
    · simp [hk, ih, lookup_pair, h]
    · simp [hk, ih, lookup_pair]

theorem get?_erase_self (entries : Entries) (key : String) :
    (entries.erase key).get? key = none := by
  refine List.lookup_eq_none_iff.mpr fun entry hentry => ?_
  have hne : entry.1 ≠ key := by simpa using (List.mem_filter.mp hentry).2
  simpa using hne.symm

end Entries

end CodeAudit
