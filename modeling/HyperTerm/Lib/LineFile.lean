import HyperTerm.Lib.Lines
import Mathlib.Data.List.Induction

/-!
# Files of whole lines

`LineCodec.render` writes values one a line, as appending them one after the other does. `fileLines` is
`split(|byte| byte == b'\n')` without the empty pieces.

* `fileLines_wholeLines_append` : what is appended to a file of whole lines adds its own lines;
* `fileLines_render` : a rendered file has the encoded values as its lines;
* `wholeLines_render` : and ends in a newline.
-/

namespace HyperTerm.Lib

variable {α : Type}

/-- The file is empty or ends in a newline. -/
def WholeLines (bytes : List UInt8) : Prop := bytes = [] ∨ bytes.getLast? = some newline

instance (bytes : List UInt8) : Decidable (WholeLines bytes) := inferInstanceAs (Decidable (_ ∨ _))

def fileLines (bytes : List UInt8) : List (List UInt8) := (bytes.splitOn newline).filter fun line => line ≠ []

theorem fileLines_append {body : List UInt8} (hbody : newline ∉ body) (hne : body ≠ []) (rest : List UInt8) :
    fileLines (body ++ newline :: rest) = body :: fileLines rest := by
  unfold fileLines
  rw [List.splitOn_append_cons_self_of_not_mem hbody rest, List.filter_cons_of_pos (by simpa using hne)]

/-- A file of whole lines has its own lines, whatever is appended to it. -/
theorem fileLines_wholeLines_append {bytes : List UInt8} (h : WholeLines bytes) (more : List UInt8) :
    fileLines (bytes ++ more) = fileLines bytes ++ fileLines more := by
  induction hlength : bytes.length using Nat.strong_induction_on generalizing bytes with
  | _ length ih =>
  rcases h with rfl | hlast
  · rfl
  rcases takeLine_cases bytes with ⟨body, rest, hbody, rfl⟩ | hno
  swap
  · exact absurd (List.mem_of_getLast? hlast) hno
  have hrest : WholeLines rest := by
    rcases List.eq_nil_or_concat rest with rfl | ⟨init, last, rfl⟩
    · exact Or.inl rfl
    · right
      rw [List.concat_eq_append, ← List.cons_append, ← List.append_assoc, List.getLast?_concat] at hlast
      rw [List.concat_eq_append, List.getLast?_concat]
      exact hlast
  have hshorter : rest.length < length := by
    rw [← hlength, List.length_append, List.length_cons]
    omega
  have hih := ih _ hshorter hrest rfl
  rw [List.append_assoc, List.cons_append]
  by_cases hne : body = []
  · subst hne
    have hskip (tail : List UInt8) : fileLines ([] ++ newline :: tail) = fileLines tail := by
      unfold fileLines
      rw [List.splitOn_append_cons_self_of_not_mem hbody tail, List.filter_cons_of_neg (by simp)]
    rw [hskip, hskip, hih]
  · rw [fileLines_append hbody hne, fileLines_append hbody hne, hih, List.cons_append]

/-- There are not more lines than bytes. -/
theorem length_fileLines_le (bytes : List UInt8) : (fileLines bytes).length ≤ bytes.length := by
  induction hlength : bytes.length using Nat.strong_induction_on generalizing bytes with
  | _ length ih =>
  rcases takeLine_cases bytes with ⟨body, rest, hbody, rfl⟩ | hno
  · rw [List.length_append, List.length_cons] at hlength
    have hrest := ih rest.length (by omega) rest rfl
    by_cases hne : body = []
    · subst hne
      have hskip : fileLines ([] ++ newline :: rest) = fileLines rest := by
        unfold fileLines
        rw [List.splitOn_append_cons_self_of_not_mem hbody rest, List.filter_cons_of_neg (by simp)]
      rw [hskip]
      omega
    · rw [fileLines_append hbody hne, List.length_cons]
      have := List.length_pos_of_ne_nil hne
      omega
  · unfold fileLines
    rw [List.splitOn_eq_singleton hno]
    by_cases hnil : bytes = []
    · rw [List.filter_cons_of_neg (by simpa using hnil)]
      exact Nat.zero_le _
    · rw [List.filter_cons_of_pos (by simpa using hnil), ← hlength]
      exact List.length_pos_of_ne_nil hnil

/-- What a file of whole lines says after one more line. -/
theorem fileLines_append_line {bytes line : List UInt8} (h : WholeLines bytes) (hline : newline ∉ line)
    (hne : line ≠ []) : fileLines (bytes ++ (line ++ [newline])) = fileLines bytes ++ [line] := by
  rw [fileLines_wholeLines_append h, fileLines_append hline hne]
  rfl

theorem WholeLines.append {bytes more : List UInt8} (h : WholeLines bytes) (hmore : WholeLines more) :
    WholeLines (bytes ++ more) := by
  rcases hmore with rfl | hlast
  · rwa [List.append_nil]
  · right
    rw [List.getLast?_append, hlast]
    rfl

theorem wholeLines_append_line (bytes line : List UInt8) : WholeLines (bytes ++ (line ++ [newline])) := by
  right
  rw [← List.append_assoc, List.getLast?_concat]

namespace LineCodec

variable (c : LineCodec α)

/-- The file that holds the values. -/
def render (values : List α) : List UInt8 := (values.map fun a => c.encode a ++ [newline]).flatten

@[simp] theorem render_nil : c.render [] = [] := rfl

theorem render_cons (a : α) (values : List α) : c.render (a :: values) = c.encode a ++ newline :: c.render values := by
  show (c.encode a ++ [newline]) ++ c.render values = _
  rw [List.append_assoc]
  rfl

theorem render_append (values more : List α) : c.render (values ++ more) = c.render values ++ c.render more := by
  unfold render
  rw [List.map_append, List.flatten_append]

theorem render_singleton (a : α) : c.render [a] = c.encode a ++ [newline] := List.append_nil _

theorem length_render_le {values : List α} {n : Nat} (h : ∀ a ∈ values, (c.encode a).length ≤ n) :
    (c.render values).length ≤ values.length * (n + 1) := by
  induction values with
  | nil => exact Nat.zero_le _
  | cons a values ih =>
      obtain ⟨ha, hrest⟩ := List.forall_mem_cons.mp h
      have hlength := ih hrest
      rw [render_cons, List.length_append, List.length_cons, List.length_cons, Nat.succ_mul]
      omega

theorem fileLines_render (values : List α) : fileLines (c.render values) = values.map c.encode := by
  induction values with
  | nil => rfl
  | cons a values ih =>
      rw [render_cons, fileLines_append (c.newline_notMem a) (c.encode_ne_nil a), ih, List.map_cons]

theorem wholeLines_render (values : List α) : WholeLines (c.render values) := by
  induction values using List.reverseRecOn with
  | nil => exact Or.inl rfl
  | append_singleton values a _ =>
      right
      rw [render_append, render_singleton, ← List.append_assoc, List.getLast?_concat]

end LineCodec

end HyperTerm.Lib
