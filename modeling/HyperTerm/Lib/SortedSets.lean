import Mathlib.Data.List.Destutter
import Mathlib.Data.List.Sort

/-!
# Sorted lists without duplicates

`sort` followed by `dedup` makes a list into the set of its elements: what comes out depends on the elements alone.

* `sortDedup` : the elements in ascending order, each of them once;
* `sortDedup_congr` : lists with the same elements give the same;
* `sortDedup_eq_self` : a list that is ascending already stays as it is.
-/

namespace HyperTerm.Lib

variable {α : Type} [LinearOrder α]

/-- Ascending lists with the same elements are one. -/
theorem ascending_ext {l l' : List α} (h : l.Pairwise (· < ·)) (h' : l'.Pairwise (· < ·))
    (hmem : ∀ a, a ∈ l ↔ a ∈ l') : l = l' := by
  have hnodup : l.Nodup := h.imp ne_of_lt
  have hnodup' : l'.Nodup := h'.imp ne_of_lt
  have hperm : l.Perm l' := (List.perm_ext_iff_of_nodup hnodup hnodup').mpr hmem
  exact hperm.eq_of_pairwise (fun a b _ _ hlt hgt => absurd (hlt.trans hgt) (lt_irrefl _)) h h'

/-- `sort`, which is stable, and `dedup`, which keeps the first of equal neighbours. -/
def sortDedup (l : List α) : List α := (l.insertionSort (· ≤ ·)).destutter (· ≠ ·)

theorem sortDedup_eq_dedup (l : List α) : sortDedup l = (l.insertionSort (· ≤ ·)).dedup :=
  (List.pairwise_insertionSort (· ≤ ·) l).destutter_eq_dedup

@[simp] theorem mem_sortDedup {a : α} {l : List α} : a ∈ sortDedup l ↔ a ∈ l := by
  rw [sortDedup_eq_dedup, List.mem_dedup]
  exact (List.perm_insertionSort (· ≤ ·) l).mem_iff

theorem pairwise_sortDedup (l : List α) : (sortDedup l).Pairwise (· < ·) := by
  rw [sortDedup_eq_dedup]
  have hle : (l.insertionSort (· ≤ ·)).dedup.Pairwise (· ≤ ·) :=
    (List.pairwise_insertionSort (· ≤ ·) l).sublist (List.dedup_sublist _)
  exact (hle.and (List.nodup_dedup _)).imp fun h => lt_of_le_of_ne h.1 h.2

theorem sortDedup_congr {l l' : List α} (h : ∀ a, a ∈ l ↔ a ∈ l') : sortDedup l = sortDedup l' :=
  ascending_ext (pairwise_sortDedup l) (pairwise_sortDedup l') fun a => by rw [mem_sortDedup, mem_sortDedup, h]

theorem sortDedup_eq_self {l : List α} (h : l.Pairwise (· < ·)) : sortDedup l = l :=
  ascending_ext (pairwise_sortDedup l) h fun _ => mem_sortDedup

/-- Sorting by a key that tells the elements apart does not depend on the order they come in. -/
theorem insertionSort_congr {β : Type} {key : β → α} {l l' : List β} (h : l.Perm l')
    (hkey : ∀ a ∈ l, ∀ b ∈ l, key a = key b → a = b) :
    l.insertionSort (fun a b => key a ≤ key b) = l'.insertionSort fun a b => key a ≤ key b := by
  have htotal : Std.Total fun a b : β => key a ≤ key b := ⟨fun a b => le_total (key a) (key b)⟩
  have htrans : IsTrans β fun a b => key a ≤ key b := ⟨fun _ _ _ => le_trans⟩
  have hperm := (List.perm_insertionSort (fun a b => key a ≤ key b) l).trans
    (h.trans (List.perm_insertionSort (fun a b => key a ≤ key b) l').symm)
  refine hperm.eq_of_pairwise ?_ (List.pairwise_insertionSort _ l) (List.pairwise_insertionSort _ l')
  intro a b ha hb hab hba
  have hmem : b ∈ l := h.mem_iff.mpr ((List.perm_insertionSort _ l').mem_iff.mp hb)
  exact hkey a ((List.perm_insertionSort _ l).mem_iff.mp ha) b hmem (le_antisymm hab hba)

/-! ## Lists that stand for one set -/

/-- Each element of one list has one in the other that it is related to. -/
def Covers {β γ : Type} (R : β → γ → Prop) (l : List β) (l' : List γ) : Prop :=
  (∀ b ∈ l, ∃ c ∈ l', R b c) ∧ ∀ c ∈ l', ∃ b ∈ l, R b c

theorem Covers.symm {β γ : Type} {R : β → γ → Prop} {R' : γ → β → Prop} {l : List β} {l' : List γ} (h : Covers R l l')
    (hR : ∀ b c, R b c → R' c b) : Covers R' l' l := by
  refine ⟨fun c hc => ?_, fun b hb => ?_⟩
  · obtain ⟨b, hb, hbc⟩ := h.2 c hc
    exact ⟨b, hb, hR b c hbc⟩
  · obtain ⟨c, hc, hbc⟩ := h.1 b hb
    exact ⟨c, hc, hR b c hbc⟩

theorem Covers.mem_iff {l l' : List α} (h : Covers (· = ·) l l') (a : α) : a ∈ l ↔ a ∈ l' := by
  constructor
  · intro ha
    obtain ⟨_, ha', rfl⟩ := h.1 a ha
    exact ha'
  · intro ha
    obtain ⟨_, ha', rfl⟩ := h.2 a ha
    exact ha'

end HyperTerm.Lib
