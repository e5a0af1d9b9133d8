import Mathlib.Data.List.AList
import Mathlib.Data.List.Dedup
import Mathlib.Data.List.Permutation

/-! A table that keeps a list of items under each key, built by push-or-insert.
What it stands for is the plain list of all items pushed so far. -/
namespace Multimap

variable {κ ν : Type} [DecidableEq κ]

abbrev Table (κ ν : Type) := AList fun _ : κ => List ν

/-- Append to the items of the key if there are any, and make an entry otherwise. -/
def push (key : ν → κ) (table : Table κ ν) (item : ν) : Table κ ν :=
  match table.lookup (key item) with
  | some items => table.insert (key item) (items ++ [item])
  | none => table.insert (key item) [item]

/-- All items of the table, entry by entry in the given order of keys. -/
def valuesIn (table : Table κ ν) (order : List κ) : List (List ν) :=
  order.map fun k => (table.lookup k).getD []

/-- The table holds exactly these items, in this order under each key. -/
def Represents (key : ν → κ) (table : Table κ ν) (items : List ν) : Prop :=
  ∀ k, table.lookup k =
    if k ∈ items.map key then some (items.filter fun item => key item = k) else none

/-- A push adds the item under its own key, at the end. -/
theorem lookup_push (key : ν → κ) (table : Table κ ν) (item : ν) (k : κ) :
    ((push key table item).lookup k).getD [] =
      (table.lookup k).getD [] ++ if k = key item then [item] else [] := by
  unfold push
  by_cases hKey : k = key item
  · subst hKey
    split <;> simp [*]
  · split <;> simp [AList.lookup_insert_ne hKey, hKey]

theorem mem_push (key : ν → κ) (table : Table κ ν) (item : ν) (k : κ) :
    k ∈ push key table item ↔ k = key item ∨ k ∈ table := by
  unfold push
  split <;> simp

/-- A key under which there is an item is a key of the table. -/
theorem mem_of_mem_lookup {table : Table κ ν} {k : κ} {item : ν}
    (hItem : item ∈ (table.lookup k).getD []) : k ∈ table := by
  rw [← AList.lookup_isSome]
  cases hLookup : table.lookup k with
  | none => simp [hLookup] at hItem
  | some items => rfl

theorem mem_flatten_valuesIn {table : Table κ ν} {order : List κ} {item : ν} :
    item ∈ (valuesIn table order).flatten ↔ ∃ k ∈ order, item ∈ (table.lookup k).getD [] := by
  simp [valuesIn, List.mem_flatten]

/-- Counting over the table is counting keys, if each has one such item or none. -/
theorem countP_flatten_valuesIn {table : Table κ ν} {p : ν → Bool} {q : κ → Bool}
    (h : ∀ k, ((table.lookup k).getD []).countP p = if q k then 1 else 0) (order : List κ) :
    (valuesIn table order).flatten.countP p = order.countP q := by
  induction order with
  | nil => rfl
  | cons k rest ih =>
      have hCons : (valuesIn table (k :: rest)).flatten =
          (table.lookup k).getD [] ++ (valuesIn table rest).flatten := rfl
      rw [hCons, List.countP_append, h, ih, List.countP_cons, Nat.add_comm]

/-- Every item is where its key says. -/
def Keyed (key : ν → κ) (table : Table κ ν) : Prop :=
  ∀ k, ∀ item ∈ (table.lookup k).getD [], key item = k

/-- A push keeps every item under its own key. -/
theorem Keyed.push {key : ν → κ} {table : Table κ ν} (h : Keyed key table) (item : ν) :
    Keyed key (push key table item) := by
  intro k other hOther
  rw [lookup_push, List.mem_append] at hOther
  rcases hOther with hOld | hNew
  · exact h k other hOld
  · obtain ⟨rfl, hItem⟩ := List.mem_ite_nil_right.mp hNew
    rw [List.mem_singleton.mp hItem]

section Represents

variable {key : ν → κ} {table : Table κ ν} {items : List ν}

theorem represents_empty (key : ν → κ) : Represents key ∅ [] := fun k => by simp

/-- A push represents one more item. -/
theorem Represents.push (h : Represents key table items) (item : ν) :
    Represents key (push key table item) (items ++ [item]) := by
  intro k
  unfold Multimap.push
  have hOld := h (key item)
  by_cases hKey : k = key item
  · subst hKey
    split at hOld
    · simp [hOld]
    · rename_i hNew
      have hNone : items.filter (fun other => key other = key item) = [] := by
        rw [List.filter_eq_nil_iff]
        intro other hOther hEq
        exact hNew (List.mem_map.mpr ⟨other, hOther, of_decide_eq_true hEq⟩)
      simp [hOld, hNone]
  · have hOther := h k
    split <;> simp [AList.lookup_insert_ne hKey, hOther, hKey, Ne.symm hKey]

theorem Represents.mem_iff (h : Represents key table items) {k : κ} :
    k ∈ table ↔ k ∈ items.map key := by
  rw [← AList.lookup_isSome, h k]
  split <;> simp_all

/-- A lookup gives the items with that key, in order. -/
theorem Represents.lookup_getD (h : Represents key table items) (k : κ) :
    (table.lookup k).getD [] = items.filter fun item => key item = k := by
  rw [h k]
  split
  · rfl
  · rename_i hNone
    rw [Option.getD_none, eq_comm, List.filter_eq_nil_iff]
    intro item hItem hEq
    exact hNone (List.mem_map.mpr ⟨item, hItem, of_decide_eq_true hEq⟩)

/-- Each key comes once, in some order. -/
theorem Represents.keys_perm (h : Represents key table items) :
    table.keys.Perm (items.map key).dedup := by
  rw [List.perm_ext_iff_of_nodup (AList.keys_nodup table) (List.nodup_dedup _)]
  intro k
  rw [List.mem_dedup, ← h.mem_iff]
  rfl

/-- Grouping by keys that cover all items, each key once, loses nothing. -/
theorem flatMap_filter_perm {order : List κ} (hOrder : order.Nodup)
    (hCover : ∀ item ∈ items, key item ∈ order) :
    (order.flatMap fun k => items.filter fun item => key item = k).Perm items := by
  induction order generalizing items with
  | nil =>
      cases items with
      | nil => exact .refl _
      | cons item rest => exact absurd (hCover item List.mem_cons_self) (List.not_mem_nil)
  | cons k rest ih =>
      obtain ⟨hFresh, hRest⟩ := List.nodup_cons.mp hOrder
      let others := items.filter fun item => !decide (key item = k)
      have hOthers : ∀ item ∈ others, key item ∈ rest := by
        intro item hItem
        obtain ⟨hMem, hKey⟩ := List.mem_filter.mp hItem
        exact (List.mem_cons.mp (hCover item hMem)).resolve_left (by simpa using hKey)
      have hSame : (rest.flatMap fun k' => items.filter fun item => key item = k') =
          rest.flatMap fun k' => others.filter fun item => key item = k' := by
        apply List.flatMap_congr
        intro k' hMem
        rw [List.filter_filter]
        apply List.filter_congr
        intro item _
        have hNe : k' ≠ k := fun h => hFresh (h ▸ hMem)
        by_cases hKey : key item = k' <;> simp [hKey, hNe]
      rw [List.flatMap_cons, hSame]
      exact ((ih hRest hOthers).append_left _).trans (List.filter_append_perm _ items)

/-- Walking over a whole table, in whatever order of its keys, meets every item. -/
theorem Represents.valuesIn_perm (h : Represents key table items) {order : List κ}
    (hOrder : order.Perm table.keys) : (valuesIn table order).flatten.Perm items := by
  have hKeys := hOrder.trans h.keys_perm
  have hFlat : (valuesIn table order).flatten =
      order.flatMap fun k => items.filter fun item => key item = k := by
    rw [valuesIn, ← List.flatMap_def]
    exact List.flatMap_congr fun k _ => h.lookup_getD k
  rw [hFlat]
  apply flatMap_filter_perm (hKeys.nodup_iff.mpr (List.nodup_dedup _))
  intro item hItem
  rw [hKeys.mem_iff, List.mem_dedup]
  exact List.mem_map_of_mem hItem

end Represents

end Multimap
