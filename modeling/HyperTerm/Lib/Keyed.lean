import Mathlib.Data.List.AList
import Mathlib.Data.List.Sort

/-!
# Collections of values that carry their own key

* `Keyed key` : a finite map in which every value is filed under its own key;
* `updateFirst` : the first value that passes a test is overwritten in place;
* `sortByKey` : the stable sort by a key. Two lists with the same members and no repeated key sort to
  the same list (`sortByKey_eq`), however they were built;
* `findKey key k l` : the first value under a key. Sorted lists are equal if and only if it finds the same in them;
* `Lists l m` : a list shows exactly the values of a map, which overwriting or appending keeps.
-/

namespace HyperTerm.Lib

variable {α κ ι : Type}

/-! ## Maps filed under the values' own keys -/

/-- A finite map whose values are filed under their own key. -/
structure Keyed [DecidableEq κ] (key : α → κ) where
  map : AList (fun _ : κ => α)
  filed : ∀ k a, map.lookup k = some a → key a = k

namespace Keyed

variable [DecidableEq κ] {key : α → κ}

def empty : Keyed key := ⟨∅, by simp⟩

instance : Inhabited (Keyed key) := ⟨empty⟩

def get? (m : Keyed key) (k : κ) : Option α := m.map.lookup k

/-- Files `a` under its own key, in place of what was there. -/
def put (m : Keyed key) (a : α) : Keyed key where
  map := m.map.insert (key a) a
  filed k b h := by
    by_cases hk : k = key a
    · subst hk
      rw [AList.lookup_insert] at h
      rw [Option.some.inj h]
    · rw [AList.lookup_insert_ne hk] at h
      exact m.filed k b h

def values (m : Keyed key) : List α := m.map.entries.map Sigma.snd

@[simp] theorem get?_empty (k : κ) : (empty : Keyed key).get? k = none := rfl

@[simp] theorem values_empty : (empty : Keyed key).values = [] := rfl

theorem key_eq_of_get? {m : Keyed key} {k : κ} {a : α} (h : m.get? k = some a) : key a = k := m.filed k a h

@[simp] theorem get?_put_self (m : Keyed key) (a : α) : (m.put a).get? (key a) = some a :=
  AList.lookup_insert m.map

theorem get?_put_of_ne (m : Keyed key) (a : α) {k : κ} (h : k ≠ key a) : (m.put a).get? k = m.get? k :=
  AList.lookup_insert_ne h

theorem get?_put (m : Keyed key) (a : α) (k : κ) :
    (m.put a).get? k = if k = key a then some a else m.get? k := by
  split_ifs with h
  · rw [h, get?_put_self]
  · exact get?_put_of_ne m a h

theorem mem_values {m : Keyed key} {a : α} : a ∈ m.values ↔ m.get? (key a) = some a := by
  have hentry : ∀ k, (⟨k, a⟩ : Sigma fun _ : κ => α) ∈ m.map.entries ↔ m.get? k = some a := fun k =>
    AList.mem_lookup_iff.symm.trans Option.mem_def
  constructor
  · intro h
    obtain ⟨⟨k, b⟩, hmem, rfl⟩ := List.mem_map.mp h
    have hk := (hentry k).mp hmem
    rwa [← key_eq_of_get? hk] at hk
  · intro h
    exact List.mem_map.mpr ⟨_, (hentry _).mpr h, rfl⟩

theorem nodup_values (m : Keyed key) : (m.values.map key).Nodup := by
  have hkeys : m.values.map key = m.map.keys := by
    rw [values, List.map_map]
    refine List.map_congr_left fun e he => ?_
    exact m.filed e.1 e.2 (AList.mem_lookup_iff.mpr he)
  rw [hkeys]
  exact m.map.keys_nodup

/-- The values that pass the test. -/
def retain (m : Keyed key) (p : α → Bool) : Keyed key where
  map := ⟨m.map.entries.filter fun e => p e.2, m.map.nodupKeys.sublist List.filter_sublist⟩
  filed k a h := by
    rw [← Option.mem_def, AList.mem_lookup_iff] at h
    exact m.filed k a (AList.mem_lookup_iff.mpr (List.mem_of_mem_filter h))

theorem get?_retain_eq_some {m : Keyed key} {p : α → Bool} {k : κ} {a : α} :
    (m.retain p).get? k = some a ↔ m.get? k = some a ∧ p a = true := by
  rw [get?, ← Option.mem_def, AList.mem_lookup_iff]
  show _ ∈ m.map.entries.filter _ ↔ _
  rw [List.mem_filter, ← AList.mem_lookup_iff, Option.mem_def, get?]

theorem get?_retain_eq_none {m : Keyed key} {p : α → Bool} {k : κ} (h : m.get? k = none) :
    (m.retain p).get? k = none := by
  rw [Option.eq_none_iff_forall_ne_some]
  intro a ha
  cases h.symm.trans (get?_retain_eq_some.mp ha).1

def erase (m : Keyed key) (k : κ) : Keyed key := m.retain fun a => key a ≠ k

theorem get?_erase_eq_some {m : Keyed key} {k k' : κ} {a : α} :
    (m.erase k).get? k' = some a ↔ m.get? k' = some a ∧ k' ≠ k := by
  rw [erase, get?_retain_eq_some, decide_eq_true_eq]
  exact and_congr_right fun h => by rw [key_eq_of_get? h]

@[simp] theorem get?_erase_self (m : Keyed key) (k : κ) : (m.erase k).get? k = none := by
  rw [Option.eq_none_iff_forall_ne_some]
  exact fun a ha => (get?_erase_eq_some.mp ha).2 rfl

end Keyed

/-! ## Lists with one value for each key -/

/-- Overwrites the first value that passes the test. -/
def updateFirst (p : α → Bool) (f : α → α) : List α → List α
  | [] => []
  | a :: l => if p a then f a :: l else a :: updateFirst p f l

section Nodup

variable [DecidableEq κ] {key : α → κ}

theorem find?_key_eq_some {l : List α} (hl : (l.map key).Nodup) {k : κ} {a : α} :
    l.find? (fun b => key b = k) = some a ↔ a ∈ l ∧ key a = k := by
  induction l with
  | nil => simp
  | cons b l ih =>
      rw [List.map_cons, List.nodup_cons] at hl
      by_cases hb : key b = k
      · rw [List.find?_cons_of_pos (by simpa using hb), List.mem_cons, Option.some_inj]
        refine ⟨fun h => ⟨Or.inl h.symm, h ▸ hb⟩, ?_⟩
        rintro ⟨rfl | ha, hk⟩
        · rfl
        · exact absurd (List.mem_map.mpr ⟨a, ha, hk.trans hb.symm⟩) hl.1
      · rw [List.find?_cons_of_neg (by simpa using hb), ih hl.2, List.mem_cons]
        refine ⟨fun h => ⟨Or.inr h.1, h.2⟩, ?_⟩
        rintro ⟨rfl | ha, hk⟩
        · exact absurd hk hb
        · exact ⟨ha, hk⟩

theorem find?_key_eq_none {l : List α} {k : κ} :
    l.find? (fun b => key b = k) = none ↔ ∀ a ∈ l, key a ≠ k := by
  simp [List.find?_eq_none]

theorem findIdx?_key_eq_some {l : List α} (hl : (l.map key).Nodup) {k : κ} {i : Nat} :
    l.findIdx? (fun b => key b = k) = some i ↔ ∃ a, l[i]? = some a ∧ key a = k := by
  induction l generalizing i with
  | nil => simp
  | cons b l ih =>
      rw [List.map_cons, List.nodup_cons] at hl
      rw [List.findIdx?_cons]
      by_cases hb : key b = k
      · rw [if_pos (by simpa using hb), Option.some_inj]
        constructor
        · intro h
          subst h
          exact ⟨b, rfl, hb⟩
        · intro ⟨a, ha, hk⟩
          cases i with
          | zero => rfl
          | succ i =>
              have hmem : a ∈ l := List.mem_of_getElem? ha
              exact absurd (List.mem_map.mpr ⟨a, hmem, hk.trans hb.symm⟩) hl.1
      · rw [if_neg (by simpa using hb), Option.map_eq_some_iff]
        constructor
        · intro ⟨j, hj, hi⟩
          subst hi
          exact (ih hl.2).mp hj
        · intro ⟨a, ha, hk⟩
          cases i with
          | zero =>
              rw [List.getElem?_cons_zero, Option.some_inj] at ha
              exact absurd (ha ▸ hk) hb
          | succ i => exact ⟨i, (ih hl.2).mpr ⟨a, ha, hk⟩, rfl⟩

theorem map_updateFirst {k : κ} {f : α → α} (hf : ∀ a, key a = k → key (f a) = k) (l : List α) :
    (updateFirst (fun b => key b = k) f l).map key = l.map key := by
  induction l with
  | nil => rfl
  | cons b l ih =>
      by_cases hb : key b = k
      · simp [updateFirst, hb, hf b hb]
      · simp [updateFirst, hb, ih]

/-- With no key repeated, the first value under a key is the only one. -/
theorem updateFirst_eq_map {l : List α} (hl : (l.map key).Nodup) (k : κ) (f : α → α) :
    updateFirst (fun b => key b = k) f l = l.map fun b => if key b = k then f b else b := by
  induction l with
  | nil => rfl
  | cons b l ih =>
      rw [List.map_cons, List.nodup_cons] at hl
      by_cases hb : key b = k
      · have hrest : ∀ c ∈ l, (if key c = k then f c else c) = c := fun c hc =>
          if_neg fun hck => hl.1 (List.mem_map.mpr ⟨c, hc, hck.trans hb.symm⟩)
        rw [updateFirst, if_pos (decide_eq_true hb), List.map_cons, if_pos hb, List.map_congr_left hrest, List.map_id']
      · rw [updateFirst, if_neg (by simpa using hb), List.map_cons, if_neg hb, ih hl.2]

theorem mem_updateFirst {l : List α} (hl : (l.map key).Nodup) {k : κ} {f : α → α} {a : α} (ha : a ∈ l)
    (hk : key a = k) (b : α) :
    b ∈ updateFirst (fun b => key b = k) f l ↔ b = f a ∨ b ∈ l ∧ key b ≠ k := by
  induction l with
  | nil => exact absurd ha List.not_mem_nil
  | cons c l ih =>
      rw [List.map_cons, List.nodup_cons] at hl
      by_cases hc : key c = k
      · have hca : a = c := by
          rcases List.mem_cons.mp ha with h | h
          · exact h
          · exact absurd (List.mem_map.mpr ⟨a, h, hk.trans hc.symm⟩) hl.1
        have hrest : ∀ b ∈ l, key b ≠ k := fun b hb hbk =>
          hl.1 (List.mem_map.mpr ⟨b, hb, hbk.trans hc.symm⟩)
        subst hca
        simp only [updateFirst, hc, decide_true, if_true, List.mem_cons]
        constructor
        · rintro (h | h)
          · exact Or.inl h
          · exact Or.inr ⟨Or.inr h, hrest b h⟩
        · rintro (h | ⟨h | h, hbk⟩)
          · exact Or.inl h
          · exact absurd (h ▸ hk) hbk
          · exact Or.inr h
      · have hmem : a ∈ l := by
          rcases List.mem_cons.mp ha with h | h
          · exact absurd (h ▸ hk) hc
          · exact h
        simp only [updateFirst, hc, decide_false, Bool.false_eq_true, if_false, List.mem_cons, ih hl.2 hmem]
        constructor
        · rintro (h | h | h)
          · exact Or.inr ⟨Or.inl h, h ▸ hc⟩
          · exact Or.inl h
          · exact Or.inr ⟨Or.inr h.1, h.2⟩
        · rintro (h | ⟨h | h, hbk⟩)
          · exact Or.inr (Or.inl h)
          · exact Or.inl h
          · exact Or.inr (Or.inr ⟨h, hbk⟩)

end Nodup

/-! ## Sorting by a key -/

section Sorting

variable [LinearOrder ι]

/-- The stable sort of a list by a key, `sort_by_key` of the source. -/
def sortByKey (f : α → ι) (l : List α) : List α := l.insertionSort fun a b => f a ≤ f b

variable {f : α → ι}

theorem sortByKey_perm (f : α → ι) (l : List α) : (sortByKey f l).Perm l := List.perm_insertionSort _ l

@[simp] theorem mem_sortByKey {l : List α} {a : α} : a ∈ sortByKey f l ↔ a ∈ l := (sortByKey_perm f l).mem_iff

theorem sortByKey_pairwise (f : α → ι) (l : List α) : (sortByKey f l).Pairwise fun a b => f a ≤ f b :=
  haveI : Std.Total fun a b => f a ≤ f b := ⟨fun a b => le_total (f a) (f b)⟩
  haveI : IsTrans α fun a b => f a ≤ f b := ⟨fun _ _ _ => le_trans⟩
  List.pairwise_insertionSort _ l

/-- What is sorted stays as it is. -/
theorem sortByKey_sortByKey (f : α → ι) (l : List α) : sortByKey f (sortByKey f l) = sortByKey f l :=
  List.Pairwise.insertionSort_eq (sortByKey_pairwise f l)

theorem nodup_map_sortByKey {key : α → κ} {l : List α} (h : (l.map key).Nodup) :
    ((sortByKey f l).map key).Nodup :=
  ((sortByKey_perm f l).map key).nodup_iff.mpr h

/-- What is sorted is determined by its members, once a key of the value, which the sorting key decides,
is not repeated. -/
theorem sortByKey_eq {key : α → κ} (hkey : ∀ a b, f a = f b → key a = key b) {l l' : List α}
    (hl : (l.map key).Nodup) (hl' : (l'.map key).Nodup) (hmem : ∀ a, a ∈ l ↔ a ∈ l') :
    sortByKey f l = sortByKey f l' := by
  have hperm : l.Perm l' := (List.perm_ext_iff_of_nodup hl.of_map hl'.of_map).mpr hmem
  have hsorted : (sortByKey f l).Perm (sortByKey f l') :=
    (sortByKey_perm f l).trans (hperm.trans (sortByKey_perm f l').symm)
  refine hsorted.eq_of_pairwise (fun a b ha hb hab hba => ?_) (sortByKey_pairwise f l) (sortByKey_pairwise f l')
  have ha' : a ∈ l := mem_sortByKey.mp ha
  have hb' : b ∈ l := (hmem b).mpr (mem_sortByKey.mp hb)
  exact List.inj_on_of_nodup_map hl ha' hb' (hkey a b (le_antisymm hab hba))

end Sorting

/-! ## The first value under a key -/

section Find

variable [DecidableEq κ] {key : α → κ}

theorem find?_congr {p q : α → Bool} {l : List α} (h : ∀ a ∈ l, p a = q a) : l.find? p = l.find? q := by
  induction l with
  | nil => rfl
  | cons a l ih =>
      rw [List.find?_cons, List.find?_cons, h a List.mem_cons_self, ih fun b hb => h b (List.mem_cons_of_mem a hb)]

/-- The first value that is filed under `k`. -/
def findKey (key : α → κ) (k : κ) (l : List α) : Option α := l.find? fun a => key a = k

theorem findKey_eq_some {l : List α} (hl : (l.map key).Nodup) {k : κ} {a : α} :
    findKey key k l = some a ↔ a ∈ l ∧ key a = k := find?_key_eq_some hl

theorem key_of_findKey {l : List α} {k : κ} {a : α} (h : findKey key k l = some a) : key a = k := by
  simpa using List.find?_some h

theorem findKey_updateFirst {k : κ} {b : α} (hb : key b = k) (l : List α) (k' : κ) :
    findKey key k' (updateFirst (fun a => key a = k) (fun _ => b) l) =
      if k' = k then (findKey key k l).map (fun _ => b) else findKey key k' l := by
  induction l with
  | nil => simp [findKey, updateFirst]
  | cons a l ih =>
      unfold findKey at ih ⊢
      by_cases ha : key a = k
      · by_cases hk : k' = k
        · simp [updateFirst, ha, hb, hk]
        · have hne : ¬k = k' := fun h => hk h.symm
          simp [updateFirst, ha, hb, hk, hne]
      · by_cases hk : k' = k
        · subst hk
          simp only [updateFirst, ha, decide_false, Bool.false_eq_true, if_false, if_true, List.find?_cons] at ih ⊢
          exact ih
        · simp only [updateFirst, ha, hk, decide_false, Bool.false_eq_true, if_false, List.find?_cons] at ih ⊢
          rw [ih]

theorem findKey_append_singleton (l : List α) (b : α) (k : κ) :
    findKey key k (l ++ [b]) = (findKey key k l).or (if k = key b then some b else none) := by
  rw [findKey, List.find?_append, findKey]
  by_cases hk : k = key b
  · simp [hk]
  · have hne : ¬key b = k := fun h => hk h.symm
    simp [hk, hne]

theorem findKey_filter_ne (l : List α) (k k' : κ) :
    findKey key k' (l.filter fun a => key a ≠ k) = if k' = k then none else findKey key k' l := by
  induction l with
  | nil => simp [findKey]
  | cons a l ih =>
      unfold findKey at ih ⊢
      by_cases ha : key a = k
      · by_cases hk : k' = k
        · simp [ha, hk]
        · have hne : ¬k = k' := fun h => hk h.symm
          simpa [ha, hk, hne] using ih
      · by_cases hk : k' = k
        · subst hk
          simp [ha]
        · by_cases hak : key a = k'
          · simp [hk, hak]
          · simpa [ha, hk, hak] using ih

variable [LinearOrder ι] {f : α → ι}

theorem findKey_sortByKey {l : List α} (hl : (l.map key).Nodup) (k : κ) :
    findKey key k (sortByKey f l) = findKey key k l := by
  refine Option.ext fun a => ?_
  rw [findKey_eq_some (nodup_map_sortByKey hl), findKey_eq_some hl, mem_sortByKey]

/-- Sorting forgets nothing but the order. -/
theorem sortByKey_eq_iff (hkey : ∀ a b, f a = f b → key a = key b) {l l' : List α} (hl : (l.map key).Nodup)
    (hl' : (l'.map key).Nodup) :
    sortByKey f l = sortByKey f l' ↔ ∀ k, findKey key k l = findKey key k l' := by
  constructor
  · intro h k
    rw [← findKey_sortByKey (f := f) hl, ← findKey_sortByKey (f := f) hl', h]
  · intro h
    refine sortByKey_eq hkey hl hl' fun a => ?_
    have hmem : a ∈ l ↔ findKey key (key a) l = some a := by
      rw [findKey_eq_some hl, and_iff_left rfl]
    have hmem' : a ∈ l' ↔ findKey key (key a) l' = some a := by
      rw [findKey_eq_some hl', and_iff_left rfl]
    rw [hmem, hmem', h]

end Find

/-! ## Lists that show a map -/

section Lists

variable [DecidableEq κ] {key : α → κ} {l : List α} {m : Keyed key}

/-- The list has the values of the map, each once. -/
structure Lists (l : List α) (m : Keyed key) : Prop where
  nodup : (l.map key).Nodup
  mem_iff : ∀ a, a ∈ l ↔ m.get? (key a) = some a

theorem lists_values (m : Keyed key) : Lists m.values m := ⟨m.nodup_values, fun _ => Keyed.mem_values⟩

theorem Lists.find? (h : Lists l m) (k : κ) : l.find? (fun b => key b = k) = m.get? k := by
  cases hm : m.get? k with
  | some a =>
      have hk := Keyed.key_eq_of_get? hm
      exact (find?_key_eq_some h.nodup).mpr ⟨(h.mem_iff a).mpr (hk ▸ hm), hk⟩
  | none =>
      refine find?_key_eq_none.mpr fun a ha hk => ?_
      have hget := (h.mem_iff a).mp ha
      rw [hk, hm] at hget
      exact nomatch hget

theorem Lists.overwrite (h : Lists l m) {a b : α} (ha : m.get? (key b) = some a) :
    Lists (updateFirst (fun c => key c = key b) (fun _ => b) l) (m.put b) := by
  have hk := Keyed.key_eq_of_get? ha
  refine ⟨?_, fun c => ?_⟩
  · rw [map_updateFirst fun _ _ => rfl]
    exact h.nodup
  · rw [mem_updateFirst h.nodup ((h.mem_iff a).mpr (hk ▸ ha)) hk, Keyed.get?_put]
    split_ifs with hc
    · rw [Option.some_inj]
      exact ⟨fun hb => (hb.resolve_right fun hn => hn.2 hc).symm, fun hb => Or.inl hb.symm⟩
    · rw [h.mem_iff]
      exact ⟨fun hb => (hb.resolve_left fun hn => hc (hn ▸ rfl)).1, fun hb => Or.inr ⟨hb, hc⟩⟩

theorem Lists.push (h : Lists l m) {b : α} (hb : m.get? (key b) = none) : Lists (l ++ [b]) (m.put b) := by
  have hfresh : ∀ a ∈ l, key a ≠ key b := fun a ha hk => by
    have hget := (h.mem_iff a).mp ha
    rw [hk, hb] at hget
    exact nomatch hget
  refine ⟨?_, fun c => ?_⟩
  · rw [List.map_append, List.map_singleton]
    refine h.nodup.append (List.nodup_singleton _) (List.disjoint_singleton.mpr fun hmem => ?_)
    obtain ⟨a, ha, hk⟩ := List.mem_map.mp hmem
    exact hfresh a ha hk
  · rw [List.mem_append, List.mem_singleton, Keyed.get?_put]
    split_ifs with hc
    · rw [Option.some_inj]
      exact ⟨fun hm => (hm.resolve_left fun hn => hfresh c hn hc).symm, fun hm => Or.inr hm.symm⟩
    · rw [h.mem_iff]
      exact ⟨fun hm => hm.resolve_right fun hn => hc (hn ▸ rfl), Or.inl⟩

theorem Lists.sortByKey_eq [LinearOrder ι] {f : α → ι} (hkey : ∀ a b, f a = f b → key a = key b)
    (h : Lists l m) : sortByKey f l = sortByKey f m.values :=
  HyperTerm.Lib.sortByKey_eq hkey h.nodup m.nodup_values fun a => by rw [h.mem_iff, Keyed.mem_values]

theorem Lists.sort [LinearOrder ι] (f : α → ι) (h : Lists l m) : Lists (sortByKey f l) m :=
  ⟨nodup_map_sortByKey h.nodup, fun a => by rw [mem_sortByKey, h.mem_iff]⟩

end Lists

end HyperTerm.Lib
