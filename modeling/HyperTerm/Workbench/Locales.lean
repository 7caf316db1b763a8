import HyperTerm.Protocol.Ids
import Mathlib.Data.List.Lex

/-!
# The order of strings in a locale

`localeCompare` compares in the locale of the host.

* `Collation` : what every locale has. Identifiers with different digits have different places (`Uuid.text_injective`);
* `Collation.ofWeights` : strings are compared by a list of weights, one for each character or contraction;
* `root`, `danish` : no contraction, and `aa` as one letter after `z`.
-/

namespace HyperTerm.Workbench
open HyperTerm.Protocol

/-- The order of strings in a locale. No two identifiers have the same place in it. -/
structure Collation where
  compare : String → String → Int
  antisymm : ∀ s t, 0 ≤ compare s t ↔ compare t s ≤ 0
  trans : ∀ s t u, compare s t ≤ 0 → compare t u ≤ 0 → compare s u ≤ 0
  distinct : ∀ a b : Uuid, compare a.text b.text = 0 → a = b

/-! ## The text of an identifier -/

theorem hexDigit_inj {m n : Nat} (hm : m < 16) (hn : n < 16) (h : hexDigit m = hexDigit n) : m = n := by
  have hall : ∀ m n : Fin 16, hexDigit m = hexDigit n → m = n := by decide
  exact congrArg Fin.val (hall ⟨m, hm⟩ ⟨n, hn⟩ h)

theorem hexDigit_ne_dash {n : Nat} (hn : n < 16) : hexDigit n ≠ '-' := by
  have hall : ∀ n : Fin 16, hexDigit n ≠ '-' := by decide
  exact hall ⟨n, hn⟩

/-- Without its dashes the text is the digits. -/
theorem Uuid.filter_text (u : Uuid) : (Uuid.text u).toList.filter (· ≠ '-') = Uuid.hexDigits u := by
  have hdigits : ∀ c ∈ Uuid.hexDigits u, c ≠ '-' := by
    intro c hc
    obtain ⟨i, -, rfl⟩ := List.mem_map.mp hc
    exact hexDigit_ne_dash (Nat.mod_lt _ (by decide))
  have hkeep : ∀ l : List Char, l.Sublist (Uuid.hexDigits u) → l.filter (· ≠ '-') = l := fun l hl =>
    List.filter_eq_self.mpr fun c hc => decide_eq_true (hdigits c (hl.subset hc))
  unfold Uuid.text
  generalize Uuid.hexDigits u = h at hkeep ⊢
  simp only [String.toList_ofList, List.filter_append, List.filter_cons_of_neg, ne_eq, not_true_eq_false,
    decide_false, Bool.false_eq_true, not_false_eq_true]
  rw [hkeep _ (List.take_sublist _ _), hkeep _ ((List.take_sublist _ _).trans (List.drop_sublist _ _)),
    hkeep _ ((List.take_sublist _ _).trans (List.drop_sublist _ _)),
    hkeep _ ((List.take_sublist _ _).trans (List.drop_sublist _ _)), hkeep _ (List.drop_sublist _ _)]
  have hjoin : ∀ m k, (h.drop m).take k ++ h.drop (m + k) = h.drop m := fun m k => by
    rw [← List.drop_drop, List.take_append_drop]
  rw [List.append_assoc, List.append_assoc, List.append_assoc, hjoin 16 4, hjoin 12 4, hjoin 8 4,
    List.take_append_drop]

/-- The digits, from the most significant one on, give the number. -/
theorem Uuid.hexDigits_injective : Function.Injective Uuid.hexDigits := by
  intro u v h
  have hdigit : ∀ k < 32, u.toNat / 16 ^ (31 - k) % 16 = v.toNat / 16 ^ (31 - k) % 16 := by
    intro k hk
    exact hexDigit_inj (Nat.mod_lt _ (by decide)) (Nat.mod_lt _ (by decide))
      (List.map_inj_left.mp h k (List.mem_range.mpr hk))
  have hhead : ∀ k ≤ 32, u.toNat / 16 ^ (32 - k) = v.toNat / 16 ^ (32 - k) := by
    intro k
    induction k with
    | zero =>
        intro _
        rw [Nat.div_eq_of_lt (u.isLt.trans_eq (by decide)), Nat.div_eq_of_lt (v.isLt.trans_eq (by decide))]
    | succ k ih =>
        intro hk
        have hpow : 16 ^ (32 - k) = 16 ^ (31 - k) * 16 := by
          rw [← pow_succ]
          congr 1
          omega
        have hrest := ih (Nat.le_of_succ_le hk)
        rw [hpow, ← Nat.div_div_eq_div_mul, ← Nat.div_div_eq_div_mul] at hrest
        have hlast := hdigit k hk
        have hsub : 32 - (k + 1) = 31 - k := by omega
        rw [hsub]
        omega
  have hall := hhead 32 le_rfl
  rw [Nat.sub_self, pow_zero, Nat.div_one, Nat.div_one] at hall
  exact BitVec.eq_of_toNat_eq hall

theorem Uuid.text_injective : Function.Injective Uuid.text := by
  intro u v h
  refine Uuid.hexDigits_injective ?_
  rw [← Uuid.filter_text, ← Uuid.filter_text, h]

/-! ## Locales -/

/-- The comparison of the lists of weights. -/
def Collation.ofWeights (weights : String → List Nat) (hweights : Function.Injective weights) : Collation where
  compare s t := if weights s < weights t then -1 else if weights t < weights s then 1 else 0
  antisymm s t := by
    split_ifs with hst hts hts
    · exact absurd hst (lt_asymm hts)
    · omega
    · omega
    · omega
  trans s t u hst htu := by
    have hle : ∀ s t, (if weights s < weights t then -1 else if weights t < weights s then 1 else 0 : Int) ≤ 0 →
        weights s ≤ weights t := by
      intro s t h
      split_ifs at h with hlt hgt
      · exact hlt.le
      · exact absurd h (by decide)
      · exact not_lt.mp hgt
    have hsu := (hle s t hst).trans (hle t u htu)
    rw [if_neg (not_lt.mpr hsu)]
    split_ifs <;> decide
  distinct a b h := by
    split_ifs at h with hlt hgt
    · exact absurd h (by decide)
    · exact Uuid.text_injective (hweights (le_antisymm (not_lt.mp hgt) (not_lt.mp hlt)))

def characterWeights (l : List Char) : List Nat := l.map Char.toNat

theorem characterWeights_injective : Function.Injective characterWeights :=
  List.map_injective_iff.mpr fun _ _ h => Char.ext (UInt32.toNat_inj.mp h)

/-- Identifiers have digits, dashes and small letters only, whose order is that of their numbers. -/
def root : Collation :=
  .ofWeights (fun s => characterWeights s.toList) (characterWeights_injective.comp fun _ _ => String.toList_injective)

/-- `aa` is å, the last letter. -/
def danishWeights : List Char → List Nat
  | 'a' :: 'a' :: l => 0x110000 :: danishWeights l
  | c :: l => c.toNat :: danishWeights l
  | [] => []

def ofDanishWeights : List Nat → List Char
  | [] => []
  | n :: l => if n = 0x110000 then 'a' :: 'a' :: ofDanishWeights l else Char.ofNat n :: ofDanishWeights l

theorem ofDanishWeights_danishWeights (l : List Char) : ofDanishWeights (danishWeights l) = l := by
  fun_induction danishWeights l with
  | case1 l ih => rw [ofDanishWeights, if_pos rfl, ih]
  | case2 c l _ ih =>
      have hlt : c.toNat ≠ 0x110000 := by
        have hvalid := c.valid
        have htoNat : c.toNat = c.val.toNat := rfl
        rcases hvalid with h | ⟨-, h⟩ <;> omega
      rw [ofDanishWeights, if_neg hlt, ih, Char.ofNat_toNat]
  | case3 => rfl

def danish : Collation :=
  .ofWeights (fun s => danishWeights s.toList)
    ((Function.LeftInverse.injective ofDanishWeights_danishWeights).comp fun _ _ => String.toList_injective)

end HyperTerm.Workbench
