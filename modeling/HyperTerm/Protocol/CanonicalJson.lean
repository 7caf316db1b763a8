import HyperTerm.Lib.Keyed
import HyperTerm.Protocol.Json
import Mathlib.Data.String.Basic

/-!
# Canonical JSON

Digests are taken of values whose objects list their members in the order of the keys.

* `canonicalMcpJsonValue` : the value with the members of every object in that order;
* `DistinctKeys` : no object in the value has two members under one key;
* `SameUpToOrder` : the values that come of each other when members of objects change their places, at any depth;
* `canonical_eq_iff` : these are the values with one canonical form.
-/

namespace HyperTerm.Protocol
open HyperTerm.Lib

mutual

def canonicalMcpJsonValue : Value → Value
  | .null => .null
  | .bool b => .bool b
  | .number n => .number n
  | .string s => .string s
  | .array items => .array (canonicalItems items)
  | .object members => .object (sortByKey Prod.fst (canonicalMembers members))

def canonicalItems : List Value → List Value
  | [] => []
  | v :: items => canonicalMcpJsonValue v :: canonicalItems items

def canonicalMembers : List (String × Value) → List (String × Value)
  | [] => []
  | (key, v) :: members => (key, canonicalMcpJsonValue v) :: canonicalMembers members

end

/-- `canonical_mcp_json_bytes`, with `serde_json::to_vec`. -/
def canonicalMcpJsonBytes (toVec : Value → List UInt8) (v : Value) : List UInt8 := toVec (canonicalMcpJsonValue v)

/-- The objects of `serde_json` are maps. -/
inductive DistinctKeys : Value → Prop where
  | null : DistinctKeys .null
  | bool (b : Bool) : DistinctKeys (.bool b)
  | number (n : Number) : DistinctKeys (.number n)
  | string (s : String) : DistinctKeys (.string s)
  | array {items : List Value} (h : ∀ v ∈ items, DistinctKeys v) : DistinctKeys (.array items)
  | object {members : List (String × Value)} (hkeys : (members.map Prod.fst).Nodup)
      (h : ∀ member ∈ members, DistinctKeys member.2) : DistinctKeys (.object members)

/-- The values are equal up to the order of the members of objects, at any depth. -/
inductive SameUpToOrder : Value → Value → Prop where
  | refl (v : Value) : SameUpToOrder v v
  | reorder {members members' : List (String × Value)} (h : members.Perm members') :
      SameUpToOrder (.object members) (.object members')
  | member {v w : Value} (before after : List (String × Value)) (key : String) (h : SameUpToOrder v w) :
      SameUpToOrder (.object (before ++ (key, v) :: after)) (.object (before ++ (key, w) :: after))
  | item {v w : Value} (before after : List Value) (h : SameUpToOrder v w) :
      SameUpToOrder (.array (before ++ v :: after)) (.array (before ++ w :: after))
  | trans {u v w : Value} (h : SameUpToOrder u v) (h' : SameUpToOrder v w) : SameUpToOrder u w

theorem canonicalItems_eq_map (items : List Value) : canonicalItems items = items.map canonicalMcpJsonValue := by
  induction items with
  | nil => rfl
  | cons v items ih => rw [canonicalItems, ih, List.map_cons]

theorem canonicalMembers_eq_map (members : List (String × Value)) :
    canonicalMembers members = members.map fun member => (member.1, canonicalMcpJsonValue member.2) := by
  induction members with
  | nil => rfl
  | cons member members ih =>
      obtain ⟨key, v⟩ := member
      rw [canonicalMembers, ih, List.map_cons]

theorem keys_canonicalMembers (members : List (String × Value)) :
    (canonicalMembers members).map Prod.fst = members.map Prod.fst := by
  rw [canonicalMembers_eq_map, List.map_map]
  rfl

/-! ## Values that are the same -/

theorem SameUpToOrder.symm {v w : Value} (h : SameUpToOrder v w) : SameUpToOrder w v := by
  induction h with
  | refl v => exact .refl v
  | reorder h => exact .reorder h.symm
  | member before after key _ ih => exact .member before after key ih
  | item before after _ ih => exact .item before after ih
  | trans _ _ ih ih' => exact .trans ih' ih

/-- One item after the other is replaced. -/
theorem same_items {f : Value → Value} {items : List Value} (h : ∀ v ∈ items, SameUpToOrder v (f v)) (before : List Value) :
    SameUpToOrder (.array (before ++ items)) (.array (before ++ items.map f)) := by
  induction items generalizing before with
  | nil => exact .refl _
  | cons v items ih =>
      have hrest := ih (fun w hw => h w (List.mem_cons_of_mem v hw)) (before ++ [f v])
      rw [List.append_assoc, List.append_assoc] at hrest
      exact .trans (.item before items (h v List.mem_cons_self)) hrest

theorem same_members {f : Value → Value} {members : List (String × Value)}
    (h : ∀ member ∈ members, SameUpToOrder member.2 (f member.2)) (before : List (String × Value)) :
    SameUpToOrder (.object (before ++ members)) (.object (before ++ members.map fun member => (member.1, f member.2))) := by
  induction members generalizing before with
  | nil => exact .refl _
  | cons member members ih =>
      have hrest := ih (fun w hw => h w (List.mem_cons_of_mem member hw)) (before ++ [(member.1, f member.2)])
      rw [List.append_assoc, List.append_assoc] at hrest
      exact .trans (.member before members member.1 (h member List.mem_cons_self)) hrest

/-- A value is the same as its canonical form. -/
theorem same_canonical (v : Value) : SameUpToOrder v (canonicalMcpJsonValue v) := by
  induction v using Value.induction with
  | null => exact .refl _
  | bool b => exact .refl _
  | number n => exact .refl _
  | string s => exact .refl _
  | array items ih =>
      rw [canonicalMcpJsonValue, canonicalItems_eq_map]
      exact same_items ih []
  | object members ih =>
      rw [canonicalMcpJsonValue]
      refine .trans ?_ (.reorder (sortByKey_perm Prod.fst (canonicalMembers members)).symm)
      rw [canonicalMembers_eq_map]
      exact same_members ih []

/-- Members that were put in another order are sorted to the same list. -/
theorem sort_canonicalMembers_of_perm {members members' : List (String × Value)} (h : members.Perm members')
    (hkeys : (members.map Prod.fst).Nodup) :
    sortByKey Prod.fst (canonicalMembers members) = sortByKey Prod.fst (canonicalMembers members') := by
  have hperm : (canonicalMembers members).Perm (canonicalMembers members') := by
    rw [canonicalMembers_eq_map, canonicalMembers_eq_map]
    exact h.map _
  refine sortByKey_eq (fun _ _ heq => heq) ?_ ?_ fun member => hperm.mem_iff
  · rw [keys_canonicalMembers]
    exact hkeys
  · rw [keys_canonicalMembers]
    exact (h.map Prod.fst).nodup_iff.1 hkeys

/-- What is the same has distinct keys too, and the same canonical form. -/
theorem SameUpToOrder.canonical_eq {v w : Value} (h : SameUpToOrder v w) :
    DistinctKeys v → DistinctKeys w ∧ canonicalMcpJsonValue v = canonicalMcpJsonValue w := by
  induction h with
  | refl v => exact fun hv => ⟨hv, rfl⟩
  | reorder h =>
      intro hv
      obtain _ | _ | _ | _ | _ | ⟨hkeys, hmembers⟩ := hv
      refine ⟨.object ((h.map Prod.fst).nodup_iff.1 hkeys) fun member hmem => hmembers member (h.mem_iff.2 hmem), ?_⟩
      rw [canonicalMcpJsonValue, canonicalMcpJsonValue, sort_canonicalMembers_of_perm h hkeys]
  | member before after key h ih =>
      intro hv
      obtain _ | _ | _ | _ | _ | ⟨hkeys, hmembers⟩ := hv
      obtain ⟨hw, heq⟩ := ih (hmembers _ (List.mem_append_right _ List.mem_cons_self))
      refine ⟨.object ?_ ?_, ?_⟩
      · rw [List.map_append, List.map_cons] at hkeys ⊢
        exact hkeys
      · intro member hmem
        rcases List.mem_append.1 hmem with hbefore | hafter
        · exact hmembers member (List.mem_append_left _ hbefore)
        · rcases List.mem_cons.1 hafter with rfl | hafter
          · exact hw
          · exact hmembers member (List.mem_append_right _ (List.mem_cons_of_mem _ hafter))
      · rw [canonicalMcpJsonValue, canonicalMcpJsonValue, canonicalMembers_eq_map, canonicalMembers_eq_map, List.map_append,
          List.map_append, List.map_cons, List.map_cons, heq]
  | item before after h ih =>
      intro hv
      obtain _ | _ | _ | _ | hitems | _ := hv
      obtain ⟨hw, heq⟩ := ih (hitems _ (List.mem_append_right _ List.mem_cons_self))
      refine ⟨.array ?_, ?_⟩
      · intro v hmem
        rcases List.mem_append.1 hmem with hbefore | hafter
        · exact hitems v (List.mem_append_left _ hbefore)
        · rcases List.mem_cons.1 hafter with rfl | hafter
          · exact hw
          · exact hitems v (List.mem_append_right _ (List.mem_cons_of_mem _ hafter))
      · rw [canonicalMcpJsonValue, canonicalMcpJsonValue, canonicalItems_eq_map, canonicalItems_eq_map, List.map_append,
          List.map_append, List.map_cons, List.map_cons, heq]
  | trans _ _ ih ih' =>
      intro hu
      obtain ⟨hv, huv⟩ := ih hu
      obtain ⟨hw, hvw⟩ := ih' hv
      exact ⟨hw, huv.trans hvw⟩

/-- The canonical form tells values apart up to the order of members. -/
theorem canonical_eq_iff {v w : Value} (hv : DistinctKeys v) :
    canonicalMcpJsonValue v = canonicalMcpJsonValue w ↔ SameUpToOrder v w := by
  constructor
  · intro heq
    have hw := (same_canonical w).symm
    rw [← heq] at hw
    exact .trans (same_canonical v) hw
  · intro h
    exact (h.canonical_eq hv).2

/-! ## Sizes -/

theorem itemsSize_eq_sum (items : List Value) : itemsSize items = (items.map Value.size).sum := by
  induction items with
  | nil => rfl
  | cons v items ih => rw [itemsSize, ih, List.map_cons, List.sum_cons]

theorem membersSize_eq_sum (members : List (String × Value)) :
    membersSize members = (members.map fun member => jsonStringSize member.1 + 1 + member.2.size).sum := by
  induction members with
  | nil => rfl
  | cons member members ih =>
      obtain ⟨key, v⟩ := member
      rw [membersSize, ih, List.map_cons, List.sum_cons]

/-- A value in its canonical form takes as many bytes as before. -/
theorem size_canonical (v : Value) : (canonicalMcpJsonValue v).size = v.size := by
  induction v using Value.induction with
  | null => rfl
  | bool b => rfl
  | number n => rfl
  | string s => rfl
  | array items ih =>
      have hsizes : itemsSize (canonicalItems items) = itemsSize items := by
        rw [itemsSize_eq_sum, itemsSize_eq_sum, canonicalItems_eq_map, List.map_map]
        exact congrArg List.sum (List.map_congr_left ih)
      rw [canonicalMcpJsonValue, Value.size, Value.size, hsizes, canonicalItems_eq_map, List.length_map]
  | object members ih =>
      have hperm := sortByKey_perm Prod.fst (canonicalMembers members)
      have hlength : (sortByKey Prod.fst (canonicalMembers members)).length = members.length := by
        rw [hperm.length_eq, canonicalMembers_eq_map, List.length_map]
      have hsizes : membersSize (sortByKey Prod.fst (canonicalMembers members)) = membersSize members := by
        rw [membersSize_eq_sum, membersSize_eq_sum, (hperm.map _).sum_nat, canonicalMembers_eq_map, List.map_map]
        refine congrArg List.sum (List.map_congr_left fun member hmem => ?_)
        show _ + 1 + (canonicalMcpJsonValue member.2).size = _
        rw [ih member hmem]
      rw [canonicalMcpJsonValue, Value.size, Value.size, hlength, hsizes]

end HyperTerm.Protocol
