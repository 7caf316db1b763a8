import HyperTerm.Lib.Text
import HyperTerm.Lib.Slices

/-!
# Lines and their fields

* `lineEnd` : the place of the first newline; `lineEnd_eq_some`, the line in front of it and the rest;
* `append_cons_inj` : a field and its end mark, in front of anything;
* `splitAsciiWhitespace` : the words of a text, whatever stands between them;
* `splitAsciiWhitespace_word` : a word that something else follows.
-/

namespace HyperTerm.Lib

/-- `iter().position(|byte| *byte == b'\n')`. -/
def lineEnd (bytes : List UInt8) : Option Nat := bytes.findIdx? fun byte => byte == 10

theorem lineEnd_append {line : List UInt8} (h : 10 ∉ line) (rest : List UInt8) :
    lineEnd (line ++ 10 :: rest) = some line.length := by
  unfold lineEnd
  induction line with
  | nil => rfl
  | cons byte line ih =>
      obtain ⟨hbyte, hline⟩ := not_or.1 (mt List.mem_cons.2 h)
      have hne : (byte == 10) = false := beq_eq_false_iff_ne.2 fun heq => hbyte heq.symm
      rw [List.cons_append, List.findIdx?_cons, hne, ih hline]
      rfl

theorem lineEnd_eq_some {bytes : List UInt8} {stop : Nat} :
    lineEnd bytes = some stop ↔ ∃ line rest, bytes = line ++ 10 :: rest ∧ 10 ∉ line ∧ line.length = stop := by
  constructor
  · intro h
    unfold lineEnd at h
    induction bytes generalizing stop with
    | nil => cases h
    | cons byte bytes ih =>
        rw [List.findIdx?_cons] at h
        by_cases hbyte : byte = 10
        · subst hbyte
          cases h
          exact ⟨[], bytes, rfl, List.not_mem_nil, rfl⟩
        · have hne : (byte == 10) = false := beq_eq_false_iff_ne.2 hbyte
          rw [hne] at h
          obtain ⟨stop', hstop', heq⟩ := Option.map_eq_some_iff.1 h
          obtain ⟨line, rest, hbytes, hnew, hlength⟩ := ih hstop'
          refine ⟨byte :: line, rest, by rw [hbytes]; rfl, ?_, by rw [List.length_cons, hlength, heq]⟩
          exact fun hmem => (List.mem_cons.1 hmem).elim (fun h10 => hbyte h10.symm) hnew
  · rintro ⟨line, rest, rfl, hnew, rfl⟩
    exact lineEnd_append hnew rest

/-- What stands in front of the first end mark, and what behind it. -/
theorem append_cons_inj {α : Type} {mark : α} {field field' rest rest' : List α} (h : mark ∉ field) (h' : mark ∉ field')
    (heq : field ++ mark :: rest = field' ++ mark :: rest') : field = field' ∧ rest = rest' := by
  induction field generalizing field' with
  | nil =>
      cases field' with
      | nil => exact ⟨rfl, (List.cons_eq_cons.1 heq).2⟩
      | cons a field' =>
          obtain ⟨rfl, -⟩ := List.cons_eq_cons.1 heq
          exact absurd List.mem_cons_self h'
  | cons a field ih =>
      cases field' with
      | nil =>
          obtain ⟨rfl, -⟩ := List.cons_eq_cons.1 heq
          exact absurd List.mem_cons_self h
      | cons a' field' =>
          obtain ⟨rfl, htail⟩ := List.cons_eq_cons.1 heq
          obtain ⟨rfl, hrest⟩ := ih (fun hmem => h (List.mem_cons_of_mem a hmem))
            (fun hmem => h' (List.mem_cons_of_mem a hmem)) htail
          exact ⟨rfl, hrest⟩

/-- `char::is_ascii_whitespace`. -/
def isAsciiWhitespace (c : Char) : Bool := c = ' ' ∨ c = '\t' ∨ c = '\n' ∨ c = '\x0c' ∨ c = '\r'

def splitAsciiWhitespace (text : List Char) : List (List Char) :=
  (text.splitOnP isAsciiWhitespace).filter fun word => !word.isEmpty

theorem isAsciiWhitespace_eq_false {c : Char} (h : 32 < c.toNat) : isAsciiWhitespace c = false := by
  refine decide_eq_false ?_
  rintro (rfl | rfl | rfl | rfl | rfl) <;> exact absurd h (by decide)

theorem splitAsciiWhitespace_last {word : List Char} (hne : word ≠ []) (h : ∀ c ∈ word, isAsciiWhitespace c = false) :
    splitAsciiWhitespace word = [word] := by
  unfold splitAsciiWhitespace
  rw [List.splitOnP_eq_singleton h]
  simpa using hne

/-- The words of a text that begins with a word. -/
theorem splitAsciiWhitespace_word {word : List Char} (hne : word ≠ []) (h : ∀ c ∈ word, isAsciiWhitespace c = false)
    {separator : Char} (hseparator : isAsciiWhitespace separator = true) (text : List Char) :
    splitAsciiWhitespace (word ++ separator :: text) = word :: splitAsciiWhitespace text := by
  unfold splitAsciiWhitespace
  rw [List.splitOnP_append_cons word text hseparator, List.splitOnP_eq_singleton h]
  have hkeep : (!word.isEmpty) = true := by simpa using hne
  rw [List.singleton_append, List.filter_cons, if_pos hkeep]

end HyperTerm.Lib
