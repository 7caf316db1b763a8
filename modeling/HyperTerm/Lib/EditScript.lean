import Mathlib.Data.List.Nodup
import Mathlib.Data.Nat.Basic
import Mathlib.Order.Basic

/-!
# Edit scripts

A script tells how one list became another: operations on ranges that lie one after the other in both lists.

* `DiffOp` : one operation, with the range it reads on each side;
* `Tiles` : the operations cover both lists from two positions on, and an equal range is the same on both sides;
* `merge` : the list in which some of the changes are made;
* `replaceRanges` : a list with ranges replaced, in terms of the list alone (`merge_eq_replaceRanges`).
-/

namespace HyperTerm.Lib.EditScript

variable {α : Type}

def segment (l : List α) (start length : Nat) : List α := (l.drop start).take length

theorem segment_append (l : List α) (start a b : Nat) :
    segment l start a ++ segment l (start + a) b = segment l start (a + b) := by
  unfold segment
  rw [← List.drop_drop, List.take_add]

theorem segment_append_drop (l : List α) (start a : Nat) : segment l start a ++ l.drop (start + a) = l.drop start := by
  unfold segment
  rw [← List.drop_drop, List.take_append_drop]

inductive DiffOp where
  | equal (oldIndex newIndex len : Nat)
  | delete (oldIndex oldLen newIndex : Nat)
  | insert (oldIndex newIndex newLen : Nat)
  | replace (oldIndex oldLen newIndex newLen : Nat)
  deriving DecidableEq

namespace DiffOp

def oldStart : DiffOp → Nat
  | equal oldIndex _ _ | delete oldIndex _ _ | insert oldIndex _ _ | replace oldIndex _ _ _ => oldIndex

def newStart : DiffOp → Nat
  | equal _ newIndex _ | delete _ _ newIndex | insert _ newIndex _ | replace _ _ newIndex _ => newIndex

def oldLen : DiffOp → Nat
  | equal _ _ len | delete _ len _ | replace _ len _ _ => len
  | insert _ _ _ => 0

def newLen : DiffOp → Nat
  | equal _ _ len | insert _ _ len | replace _ _ _ len => len
  | delete _ _ _ => 0

def oldEnd (op : DiffOp) : Nat := op.oldStart + op.oldLen

def newEnd (op : DiffOp) : Nat := op.newStart + op.newLen

def changes : DiffOp → Bool
  | equal _ _ _ => false
  | _ => true

/-- The ranges that the operation is about are not empty. -/
def Proper : DiffOp → Prop
  | equal _ _ len | delete _ len _ | insert _ _ len => 0 < len
  | replace _ len _ len' => 0 < len ∧ 0 < len'

instance (op : DiffOp) : Decidable op.Proper := by
  cases op <;> unfold Proper <;> infer_instance

theorem Proper.pos {op : DiffOp} (h : op.Proper) : 0 < op.oldLen + op.newLen := by
  cases op with
  | equal _ _ len => exact Nat.add_pos_left h _
  | delete _ len _ => exact h
  | insert _ _ len => exact (Nat.zero_add len).symm ▸ h
  | replace _ len _ len' => exact Nat.add_pos_left h.1 _

end DiffOp

/-! ## Scripts -/

/-- The operations cover what comes after the two positions, in order. -/
def Tiles (old new : List α) : Nat → Nat → List DiffOp → Prop
  | i, j, [] => i = old.length ∧ j = new.length
  | i, j, op :: ops =>
      op.oldStart = i ∧ op.newStart = j ∧ op.Proper ∧
        (op.changes = false → segment old op.oldStart op.oldLen = segment new op.newStart op.newLen) ∧
        Tiles old new op.oldEnd op.newEnd ops

instance decidableTiles [DecidableEq α] (old new : List α) :
    (i j : Nat) → (ops : List DiffOp) → Decidable (Tiles old new i j ops)
  | _, _, [] => inferInstanceAs (Decidable (_ ∧ _))
  | _, _, op :: ops =>
      have := decidableTiles old new op.oldEnd op.newEnd ops
      inferInstanceAs (Decidable (_ ∧ _ ∧ _ ∧ _ ∧ _))

variable {old new : List α} {i j : Nat} {ops : List DiffOp}

theorem Tiles.start_le (h : Tiles old new i j ops) : ∀ op ∈ ops, i ≤ op.oldStart ∧ j ≤ op.newStart := by
  induction ops generalizing i j with
  | nil => exact List.forall_mem_nil _
  | cons op ops ih =>
      obtain ⟨rfl, rfl, -, -, hrest⟩ := h
      refine List.forall_mem_cons.mpr ⟨⟨le_rfl, le_rfl⟩, fun op' hop' => ?_⟩
      obtain ⟨hold, hnew⟩ := ih hrest op' hop'
      exact ⟨(Nat.le_add_right _ _).trans hold, (Nat.le_add_right _ _).trans hnew⟩

theorem Tiles.le_length (h : Tiles old new i j ops) : i ≤ old.length ∧ j ≤ new.length := by
  induction ops generalizing i j with
  | nil => exact ⟨h.1.le, h.2.le⟩
  | cons op ops ih =>
      obtain ⟨rfl, rfl, -, -, hrest⟩ := h
      obtain ⟨hold, hnew⟩ := ih hrest
      exact ⟨(Nat.le_add_right _ _).trans hold, (Nat.le_add_right _ _).trans hnew⟩

theorem Tiles.start_le_length (h : Tiles old new i j ops) :
    ∀ op ∈ ops, op.oldStart ≤ old.length ∧ op.newStart ≤ new.length := by
  induction ops generalizing i j with
  | nil => exact List.forall_mem_nil _
  | cons op ops ih =>
      have hlength := h.le_length
      obtain ⟨rfl, rfl, -, -, hrest⟩ := h
      exact List.forall_mem_cons.mpr ⟨hlength, ih hrest⟩

/-- An operation is known by where it starts. -/
theorem Tiles.nodup_starts (h : Tiles old new i j ops) : (ops.map fun op => (op.oldStart, op.newStart)).Nodup := by
  induction ops generalizing i j with
  | nil => exact List.nodup_nil
  | cons op ops ih =>
      obtain ⟨rfl, rfl, hproper, -, hrest⟩ := h
      refine List.nodup_cons.mpr ⟨fun hmem => ?_, ih hrest⟩
      obtain ⟨op', hop', heq⟩ := List.mem_map.mp hmem
      obtain ⟨hold, hnew⟩ := Prod.mk.inj heq
      obtain ⟨hold', hnew'⟩ := hrest.start_le op' hop'
      have hpos := hproper.pos
      unfold DiffOp.oldEnd at hold'
      unfold DiffOp.newEnd at hnew'
      omega

theorem Tiles.nodup (h : Tiles old new i j ops) : ops.Nodup := List.Nodup.of_map _ h.nodup_starts

/-! ## Making some of the changes -/

def merge (old new : List α) (chosen : DiffOp → Bool) (ops : List DiffOp) : List α :=
  ops.flatMap fun op =>
    if op.changes && chosen op then segment new op.newStart op.newLen else segment old op.oldStart op.oldLen

/-- `old` from the position on, with the ranges of the operations replaced by those of `new`. -/
def replaceRanges (old new : List α) : Nat → List DiffOp → List α
  | i, [] => old.drop i
  | i, op :: ops =>
      segment old i (op.oldStart - i) ++ (segment new op.newStart op.newLen ++ replaceRanges old new op.oldEnd ops)

/-- What comes before the first operation is taken over. -/
theorem segment_append_replaceRanges {k : Nat} (hk : i ≤ k) (h : ∀ op ∈ ops, k ≤ op.oldStart) :
    segment old i (k - i) ++ replaceRanges old new k ops = replaceRanges old new i ops := by
  cases ops with
  | nil =>
      have hdrop := segment_append_drop old i (k - i)
      rw [Nat.add_sub_cancel' hk] at hdrop
      exact hdrop
  | cons op ops =>
      have hop : k ≤ op.oldStart := h op List.mem_cons_self
      have happend := segment_append old i (k - i) (op.oldStart - k)
      rw [Nat.add_sub_cancel' hk, show k - i + (op.oldStart - k) = op.oldStart - i by omega] at happend
      rw [replaceRanges, replaceRanges, ← List.append_assoc, happend]

/-- The chosen changes replace their ranges, and every other range is as it was. -/
theorem Tiles.merge_eq_replaceRanges (h : Tiles old new i j ops) (chosen : DiffOp → Bool) :
    merge old new chosen ops = replaceRanges old new i (ops.filter fun op => op.changes && chosen op) := by
  induction ops generalizing i j with
  | nil =>
      show [] = old.drop i
      rw [h.1, List.drop_length]
  | cons op ops ih =>
      obtain ⟨rfl, rfl, -, -, hrest⟩ := h
      have hmerge : merge old new chosen (op :: ops) =
          (if op.changes && chosen op then segment new op.newStart op.newLen
            else segment old op.oldStart op.oldLen) ++ merge old new chosen ops := rfl
      rw [hmerge, ih hrest]
      by_cases hop : (op.changes && chosen op) = true
      · have hfilter : (op :: ops).filter (fun op => op.changes && chosen op) =
            op :: ops.filter fun op => op.changes && chosen op := List.filter_cons_of_pos hop
        rw [if_pos hop, hfilter, replaceRanges, Nat.sub_self]
        rfl
      · have hfilter : (op :: ops).filter (fun op => op.changes && chosen op) =
            ops.filter fun op => op.changes && chosen op := List.filter_cons_of_neg hop
        have hlater (op' : DiffOp) (hop' : op' ∈ ops.filter fun op => op.changes && chosen op) :
            op.oldEnd ≤ op'.oldStart := (hrest.start_le op' (List.mem_of_mem_filter hop')).1
        rw [if_neg hop, hfilter]
        have hlength : op.oldEnd - op.oldStart = op.oldLen := Nat.add_sub_cancel_left _ _
        have hle : op.oldStart ≤ op.oldEnd := Nat.le_add_right _ _
        rw [← segment_append_replaceRanges hle hlater, hlength]

/-- With every change made, the list is the new one. -/
theorem Tiles.merge_all (h : Tiles old new i j ops) {chosen : DiffOp → Bool}
    (hall : ∀ op ∈ ops, op.changes = true → chosen op = true) : merge old new chosen ops = new.drop j := by
  induction ops generalizing i j with
  | nil =>
      show [] = new.drop j
      rw [h.2, List.drop_length]
  | cons op ops ih =>
      obtain ⟨rfl, rfl, -, hequal, hrest⟩ := h
      obtain ⟨hop, hall⟩ := List.forall_mem_cons.mp hall
      have hmerge : merge old new chosen (op :: ops) =
          (if op.changes && chosen op then segment new op.newStart op.newLen
            else segment old op.oldStart op.oldLen) ++ merge old new chosen ops := rfl
      rw [hmerge, ih hrest hall]
      cases hchanges : op.changes with
      | true =>
          rw [hop hchanges]
          exact segment_append_drop new op.newStart op.newLen
      | false =>
          rw [Bool.false_and, if_neg Bool.false_ne_true, hequal hchanges]
          exact segment_append_drop new op.newStart op.newLen

end HyperTerm.Lib.EditScript
