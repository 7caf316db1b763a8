import Mathlib.Data.Countable.Basic
import Mathlib.Data.List.Sort
import Mathlib.Logic.Equiv.List
import Mathlib.Order.Basic

/-!
# Maps in the order of their keys

`OrderedMap` is `BTreeMap`: its entries are sorted by key, so that a map is determined by what it maps where.

* `get?`, `insert` : lookup, and a key with its value;
* `set`, `filter`, `erase` : a new value for a key that is there, a part of the map, and the map without a key;
* `overlay` : values for some of the keys of a map;
* `overlay_filter` : two maps with the same keys differ by the overlay of the entries that differ.
-/

namespace HyperTerm.Lib

structure OrderedMap (α β : Type) [LinearOrder α] where
  entries : List (α × β)
  sorted : (entries.map Prod.fst).Pairwise (· < ·)

namespace OrderedMap

variable {α β : Type} [LinearOrder α]

instance [DecidableEq β] : DecidableEq (OrderedMap α β) := fun m m' =>
  decidable_of_iff (m.entries = m'.entries) (by cases m; cases m'; simp)

instance [Countable α] [Countable β] : Countable (OrderedMap α β) :=
  Function.Injective.countable (f := entries) fun m m' h => by cases m; cases m'; simpa using h

variable {m m' : OrderedMap α β}

def empty : OrderedMap α β := ⟨[], List.Pairwise.nil⟩

def singleton (k : α) (v : β) : OrderedMap α β := ⟨[(k, v)], List.pairwise_singleton _ _⟩

def keys (m : OrderedMap α β) : List α := m.entries.map Prod.fst

@[simp] theorem keys_singleton (k : α) (v : β) : (singleton k v).keys = [k] := rfl

def values (m : OrderedMap α β) : List β := m.entries.map Prod.snd

def size (m : OrderedMap α β) : Nat := m.entries.length

def get? (m : OrderedMap α β) (k : α) : Option β := m.entries.lookup k

theorem nodup_keys (m : OrderedMap α β) : m.keys.Nodup := m.sorted.imp ne_of_lt

/-! ## Lookup -/

/-- Where no key comes twice, an entry is what its key looks up. -/
theorem lookup_eq_some_iff {l : List (α × β)} (h : (l.map Prod.fst).Nodup) {k : α} {v : β} :
    l.lookup k = some v ↔ (k, v) ∈ l := by
  induction l with
  | nil => simp
  | cons entry l ih =>
      obtain ⟨hnew, h⟩ := List.nodup_cons.mp h
      rw [List.lookup_cons, List.mem_cons]
      by_cases hk : k = entry.1
      · have hnot : (k, v) ∉ l := fun hmem => hnew (hk ▸ List.mem_map_of_mem hmem)
        simp [hk, Prod.ext_iff, eq_comm, hk ▸ hnot]
      · have hbeq : (k == entry.1) = false := beq_eq_false_iff_ne.mpr hk
        rw [hbeq, ih h]
        exact ⟨Or.inr, fun hmem => hmem.resolve_left fun heq => hk (congrArg Prod.fst heq)⟩

theorem get?_eq_some {k : α} {v : β} : m.get? k = some v ↔ (k, v) ∈ m.entries := lookup_eq_some_iff m.nodup_keys

theorem mem_keys {k : α} : k ∈ m.keys ↔ ∃ v, m.get? k = some v := by
  simp only [get?_eq_some, keys, List.mem_map, Prod.exists, exists_and_right, exists_eq_right]

theorem get?_eq_none {k : α} : m.get? k = none ↔ k ∉ m.keys := by
  rw [mem_keys, Option.eq_none_iff_forall_ne_some, not_exists]

/-- A map is what it maps where. -/
theorem ext_get? (h : ∀ k, m.get? k = m'.get? k) : m = m' := by
  have hnodup (m : OrderedMap α β) : m.entries.Nodup := List.Nodup.of_map _ m.nodup_keys
  have hperm : m.entries.Perm m'.entries := by
    refine (List.perm_ext_iff_of_nodup (hnodup m) (hnodup m')).mpr fun entry => ?_
    rw [← get?_eq_some, ← get?_eq_some, h]
  have hsorted (m : OrderedMap α β) : m.entries.Pairwise fun a b => a.1 < b.1 := List.pairwise_map.mp m.sorted
  have hentries : m.entries = m'.entries :=
    hperm.eq_of_pairwise (fun a b _ _ hlt hgt => absurd (hlt.trans hgt) (lt_irrefl _)) (hsorted m) (hsorted m')
  cases m
  cases m'
  rw [mk.injEq]
  exact hentries

/-! ## Inserting -/

/-- `map.insert(key, value)`. -/
def insert (m : OrderedMap α β) (k : α) (v : β) : OrderedMap α β where
  entries := (m.entries.filter fun entry => entry.1 ≠ k).orderedInsert (fun entry entry' => entry.1 ≤ entry'.1) (k, v)
  sorted := by
    have hrest : ((m.entries.filter fun entry => entry.1 ≠ k).map Prod.fst).Pairwise (· < ·) :=
      m.sorted.sublist (List.filter_sublist.map _)
    have hnew : k ∉ (m.entries.filter fun entry => entry.1 ≠ k).map Prod.fst := by
      intro hmem
      obtain ⟨entry, hentry, heq⟩ := List.mem_map.mp hmem
      exact of_decide_eq_true (List.mem_filter.mp hentry).2 heq
    have hmap : (List.orderedInsert (fun entry entry' : α × β => entry.1 ≤ entry'.1) (k, v)
        (m.entries.filter fun entry => entry.1 ≠ k)).map Prod.fst =
          List.orderedInsert (· ≤ ·) k ((m.entries.filter fun entry => entry.1 ≠ k).map Prod.fst) :=
      List.map_orderedInsert _ _ _ _ _ (fun _ _ => Iff.rfl) fun _ _ => Iff.rfl
    rw [hmap]
    have hle := List.Pairwise.orderedInsert k _ (hrest.imp le_of_lt)
    have hnodup : (List.orderedInsert (· ≤ ·) k
        ((m.entries.filter fun entry => entry.1 ≠ k).map Prod.fst)).Nodup :=
      (List.perm_orderedInsert _ _ _).nodup_iff.mpr (List.nodup_cons.mpr ⟨hnew, hrest.imp ne_of_lt⟩)
    exact (hle.and hnodup).imp fun h => lt_of_le_of_ne h.1 h.2

theorem mem_insert {k : α} {v : β} {entry : α × β} :
    entry ∈ (m.insert k v).entries ↔ entry = (k, v) ∨ entry ∈ m.entries ∧ entry.1 ≠ k := by
  show entry ∈ List.orderedInsert _ _ _ ↔ _
  rw [List.mem_orderedInsert, List.mem_filter, decide_eq_true_eq]

theorem get?_insert (m : OrderedMap α β) (k : α) (v : β) (j : α) :
    (m.insert k v).get? j = if j = k then some v else m.get? j := by
  apply Option.ext
  intro value
  rw [get?_eq_some, mem_insert]
  by_cases hj : j = k
  · rw [if_pos hj, Option.some.injEq, Prod.mk.injEq]
    simp [hj, eq_comm]
  · rw [if_neg hj, get?_eq_some, Prod.mk.injEq]
    simp [hj]

/-! ## New values for old keys -/

/-- `*map.get_mut(key)? = value`, for a key that is there. -/
def set (m : OrderedMap α β) (k : α) (v : β) : OrderedMap α β where
  entries := m.entries.map fun entry => if entry.1 = k then (k, v) else entry
  sorted := by
    rw [List.map_map]
    convert m.sorted using 2
    funext entry
    show (if entry.1 = k then (k, v) else entry).1 = entry.1
    split <;> simp_all

@[simp] theorem keys_set (m : OrderedMap α β) (k : α) (v : β) : (m.set k v).keys = m.keys := by
  show List.map _ (List.map _ _) = List.map _ _
  rw [List.map_map]
  refine List.map_congr_left fun entry _ => ?_
  show (if entry.1 = k then (k, v) else entry).1 = entry.1
  split
  · rename_i h
    exact h.symm
  · rfl

theorem get?_set (m : OrderedMap α β) (k : α) (v : β) (j : α) :
    (m.set k v).get? j = if j = k ∧ k ∈ m.keys then some v else m.get? j := by
  apply Option.ext
  intro value
  rw [get?_eq_some]
  show (j, value) ∈ m.entries.map _ ↔ _
  rw [List.mem_map]
  split
  · rename_i h
    obtain ⟨rfl, hmem⟩ := h
    rw [Option.some.injEq]
    constructor
    · rintro ⟨entry, hentry, heq⟩
      split at heq
      · exact (Prod.mk.inj heq).2
      · rename_i hne
        exact absurd (congrArg Prod.fst heq) hne
    · rintro rfl
      obtain ⟨old, hold⟩ := mem_keys.mp hmem
      exact ⟨(j, old), get?_eq_some.mp hold, if_pos rfl⟩
  · rename_i h
    rw [get?_eq_some]
    constructor
    · rintro ⟨entry, hentry, heq⟩
      split at heq
      · rename_i hk
        obtain ⟨rfl, rfl⟩ := Prod.mk.inj heq
        exact absurd ⟨rfl, List.mem_map.mpr ⟨entry, hentry, hk⟩⟩ h
      · exact heq ▸ hentry
    · intro hmem
      refine ⟨(j, value), hmem, if_neg fun hk => h ⟨hk, ?_⟩⟩
      exact List.mem_map.mpr ⟨(j, value), hmem, hk⟩

/-- The values of the entries, written over those of the map one after the other; `none` at a key it does not have. -/
def overlay (m : OrderedMap α β) : List (α × β) → Option (OrderedMap α β)
  | [] => some m
  | entry :: entries => if entry.1 ∈ m.keys then (m.set entry.1 entry.2).overlay entries else none

def filter (m : OrderedMap α β) (p : α × β → Bool) : OrderedMap α β where
  entries := m.entries.filter p
  sorted := m.sorted.sublist (List.filter_sublist.map _)

/-- An overlay with known keys, none of them twice, leaves everything else as it was. -/
theorem overlay_eq {entries : List (α × β)} (hnodup : (entries.map Prod.fst).Nodup)
    (hkeys : ∀ entry ∈ entries, entry.1 ∈ m.keys) :
    ∃ m', m.overlay entries = some m' ∧ m'.keys = m.keys ∧
      ∀ k, m'.get? k = (entries.lookup k).or (m.get? k) := by
  induction entries generalizing m with
  | nil => exact ⟨m, rfl, rfl, fun k => rfl⟩
  | cons entry entries ih =>
      obtain ⟨hhead, hrest⟩ := List.forall_mem_cons.mp hkeys
      obtain ⟨hnew, hnodup⟩ := List.nodup_cons.mp hnodup
      obtain ⟨m', hoverlay, hkeys', hget⟩ := ih (m := m.set entry.1 entry.2) hnodup (by simpa using hrest)
      refine ⟨m', by rw [overlay, if_pos hhead, hoverlay], hkeys'.trans (keys_set _ _ _), fun k => ?_⟩
      rw [hget, get?_set, List.lookup_cons]
      by_cases hk : k = entry.1
      · have hnone : entries.lookup k = none := by
          refine Option.eq_none_iff_forall_ne_some.mpr fun v hv => hnew ?_
          rw [← hk]
          exact List.mem_map_of_mem ((lookup_eq_some_iff hnodup).mp hv)
        have hbeq : (k == entry.1) = true := beq_iff_eq.mpr hk
        rw [hnone, hbeq, if_pos ⟨hk, hhead⟩]
        rfl
      · have hbeq : (k == entry.1) = false := beq_eq_false_iff_ne.mpr hk
        rw [hbeq, if_neg fun h => hk h.1]

/-- Over a map with the same keys, the entries that differ from it make up the other map. -/
theorem overlay_filter [DecidableEq β] (h : m.keys = m'.keys) :
    m.overlay (m'.filter fun entry => m.get? entry.1 ≠ some entry.2).entries = some m' := by
  have hsub := List.filter_sublist (p := fun entry : α × β => m.get? entry.1 ≠ some entry.2) (l := m'.entries)
  have hnodup : ((m'.filter fun entry => m.get? entry.1 ≠ some entry.2).entries.map Prod.fst).Nodup :=
    nodup_keys _
  have hkeys (entry : α × β) (hentry : entry ∈ (m'.filter fun entry => m.get? entry.1 ≠ some entry.2).entries) :
      entry.1 ∈ m.keys := h ▸ List.mem_map_of_mem (hsub.mem hentry)
  obtain ⟨result, hoverlay, -, hget⟩ := overlay_eq hnodup hkeys
  rw [hoverlay]
  refine congrArg some (ext_get? fun k => ?_)
  rw [hget]
  cases hk : m'.get? k with
  | none =>
      have hbase : m.get? k = none := by rw [get?_eq_none, h, ← get?_eq_none, hk]
      have hlookup : (m'.filter fun entry => m.get? entry.1 ≠ some entry.2).entries.lookup k = none := by
        refine Option.eq_none_iff_forall_ne_some.mpr fun v hv => ?_
        have hmem := hsub.mem ((lookup_eq_some_iff hnodup).mp hv)
        rw [← get?_eq_some, hk] at hmem
        exact nomatch hmem
      rw [hlookup, hbase]
      rfl
  | some v =>
      by_cases hsame : m.get? k = some v
      · -- the entry is left out, and the map below has it
        have hlookup : (m'.filter fun entry => m.get? entry.1 ≠ some entry.2).entries.lookup k = none := by
          refine Option.eq_none_iff_forall_ne_some.mpr fun v' hv' => ?_
          obtain ⟨hmem, hne⟩ := List.mem_filter.mp ((lookup_eq_some_iff hnodup).mp hv')
          rw [← get?_eq_some, hk, Option.some.injEq] at hmem
          subst hmem
          exact absurd hsame (of_decide_eq_true hne)
        rw [hlookup, hsame]
        rfl
      · have hlookup : (m'.filter fun entry => m.get? entry.1 ≠ some entry.2).entries.lookup k = some v := by
          refine (lookup_eq_some_iff hnodup).mpr (List.mem_filter.mpr ⟨get?_eq_some.mp hk, ?_⟩)
          exact decide_eq_true hsame
        rw [hlookup]
        rfl

/-! ## Erasing -/

/-- `map.remove(key)`. -/
def erase (m : OrderedMap α β) (k : α) : OrderedMap α β := m.filter fun entry => entry.1 ≠ k

theorem get?_erase (m : OrderedMap α β) (k j : α) : (m.erase k).get? j = if j = k then none else m.get? j := by
  apply Option.ext
  intro v
  rw [get?_eq_some]
  show (j, v) ∈ m.entries.filter _ ↔ _
  rw [List.mem_filter, decide_eq_true_eq]
  by_cases hj : j = k
  · simp [hj]
  · rw [if_neg hj, get?_eq_some]
    exact and_iff_left hj

end OrderedMap

end HyperTerm.Lib
