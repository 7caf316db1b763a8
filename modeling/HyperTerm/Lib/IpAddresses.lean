import HyperTerm.Lib.Text
import HyperTerm.Lib.Windows

/-!
# Texts of IP addresses

Which texts `IpAddr::from_str` accepts: four decimal numbers without leading zeros, or eight groups of hexadecimal
digits, of which a run of zeros may be left out and the last two may be written as an IPv4 address.

* `isIpv4`, `isIpv6`, `isIpAddr` : the texts;
* `isIpv4_chars`, `colon_mem_of_isIpv6` : the characters of an address.
-/

namespace HyperTerm.Lib

/-! ## IPv4 -/

def isOctet (part : List Char) : Bool :=
  part ≠ [] ∧ part.length ≤ 3 ∧ part.all Char.isDigit ∧ Nat.ofDigitChars 10 part 0 < 256 ∧
    (part.head? = some '0' → part.length = 1)

def isIpv4 (text : List Char) : Bool := (text.splitOn '.').length = 4 ∧ (text.splitOn '.').all isOctet

/-! ## IPv6 -/

def isHexDigit (c : Char) : Bool := c.isDigit || ('a' ≤ c ∧ c ≤ 'f') || ('A' ≤ c ∧ c ≤ 'F')

def isHexGroup (piece : List Char) : Bool := piece ≠ [] ∧ piece.length ≤ 4 ∧ piece.all isHexDigit

/-- How many groups the pieces between colons spell. An IPv4 address in the last place counts for two. -/
def groupCount (withIpv4 : Bool) : List (List Char) → Option Nat
  | [] => some 0
  | [piece] => if isHexGroup piece then some 1 else if withIpv4 && isIpv4 piece then some 2 else none
  | piece :: pieces => if isHexGroup piece then (groupCount withIpv4 pieces).map (· + 1) else none

def piecesOf (text : List Char) : List (List Char) := if text = [] then [] else text.splitOn ':'

def isIpv6 (text : List Char) : Bool :=
  match position [':', ':'] text with
  | none => groupCount true (piecesOf text) = some 8
  | some i =>
      ((groupCount false (piecesOf (text.take i))).bind fun front =>
        (groupCount true (piecesOf (text.drop (i + 2)))).map fun back => decide (front + back ≤ 7)) = some true

/-- `parse::<IpAddr>().is_ok()`. -/
def isIpAddr (text : List Char) : Bool := isIpv4 text || isIpv6 text

/-! ## Characters of an address -/

theorem isIpv4_chars {text : List Char} (h : isIpv4 text) {c : Char} (hc : c ∈ text) : c.isDigit ∨ c = '.' := by
  refine or_iff_not_imp_right.mpr fun hdot => ?_
  obtain ⟨part, hpart, hmem⟩ := mem_splitOn_of_mem hc hdot
  have hoctets : (text.splitOn '.').all isOctet := (of_decide_eq_true h).2
  have hoctet := of_decide_eq_true (List.all_eq_true.mp hoctets part hpart)
  exact List.all_eq_true.mp hoctet.2.2.1 c hmem

theorem colon_mem_of_isIpv6 {text : List Char} (h : isIpv6 text) : ':' ∈ text := by
  by_contra hcolon
  unfold isIpv6 at h
  cases hposition : position [':', ':'] text with
  | some i =>
      have htext := eq_append_of_position hposition
      exact hcolon (htext ▸ by simp)
  | none =>
      -- Without a colon there is one piece at most, which spells two groups at most.
      rw [hposition] at h
      have hgroups : groupCount true (piecesOf text) = some 8 := of_decide_eq_true h
      have hpiece : text.splitOn ':' = [text] := List.splitOn_eq_singleton hcolon
      unfold piecesOf at hgroups
      rw [hpiece] at hgroups
      by_cases hempty : text = []
      · rw [if_pos hempty] at hgroups
        cases hgroups
      · rw [if_neg hempty, groupCount] at hgroups
        by_cases hhex : isHexGroup text
        · rw [if_pos hhex] at hgroups
          cases hgroups
        · rw [if_neg hhex] at hgroups
          by_cases hv4 : (true && isIpv4 text) = true
          · rw [if_pos hv4] at hgroups
            cases hgroups
          · rw [if_neg hv4] at hgroups
            cases hgroups

theorem isIpv4_of_colon_notMem {text : List Char} (h : isIpAddr text) (hcolon : ':' ∉ text) : isIpv4 text :=
  (Bool.or_eq_true_iff.mp h).resolve_right fun hv6 => hcolon (colon_mem_of_isIpv6 hv6)

example : isIpAddr "127.0.0.1".toList ∧ isIpAddr "::1".toList ∧ isIpAddr "fe80::1:10.0.0.1".toList ∧
    ¬isIpAddr "127.0.0.01".toList ∧ ¬isIpAddr "1:2:3:4:5:6:7".toList := by decide

end HyperTerm.Lib
