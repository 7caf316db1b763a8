import HyperTerm.Lib.Text
import Mathlib.Data.List.SplitOn
import Mathlib.Logic.Relation

/-!
# Path texts and their components

A path is a text; what it denotes is the sequence of its components.

* `components` : the components of a text, as a parser of POSIX paths reads them;
* `IsRelative` : every component names an entry, so the path starts at the directory it is taken from;
* `Respells` : two texts that differ in repeated separators, interior `.` pieces and what trails the last name;
* `components_eq_iff` : for relative paths, equal components are one text respelled as the other.
-/

namespace HyperTerm.Lib.Paths

inductive Component where
  | rootDir
  | curDir
  | parentDir
  | normal (name : List Char)
  deriving DecidableEq

def isAbsolute (path : List Char) : Bool := path.head? = some '/'

/-- A piece between separators that denotes nothing: it is empty, or it is the directory it stands in. -/
def IsTrivial (piece : List Char) : Prop := piece = [] ∨ piece = ['.']

instance (piece : List Char) : Decidable (IsTrivial piece) := inferInstanceAs (Decidable (_ ∨ _))

def Component.ofPiece (piece : List Char) : Component := if piece = ['.', '.'] then .parentDir else .normal piece

/-- The pieces that denote something. -/
def meaningful (path : List Char) : List (List Char) := (path.splitOn '/').filter fun piece => ¬IsTrivial piece

/-- `Path::components`: a `.` counts only at the start of a relative path. -/
def components (path : List Char) : List Component :=
  (if isAbsolute path then [.rootDir] else if (path.splitOn '/').head? = some ['.'] then [.curDir] else []) ++
    (meaningful path).map Component.ofPiece

def Component.name? : Component → Option (List Char)
  | .normal name => some name
  | _ => none

/-- The path has a component, and each of them is a name. -/
def IsRelative (path : List Char) : Prop := components path ≠ [] ∧ ∀ c ∈ components path, (c.name?).isSome

theorem Component.ofPiece_injective : Function.Injective Component.ofPiece := by
  intro piece piece' h
  unfold ofPiece at h
  split at h <;> split at h
  · rename_i hparent hparent'
    exact hparent.trans hparent'.symm
  · exact nomatch h
  · exact nomatch h
  · exact Component.normal.inj h

/-! ## Pieces of a text -/

theorem meaningful_append (before after : List Char) :
    meaningful (before ++ '/' :: after) = meaningful before ++ meaningful after := by
  unfold meaningful
  rw [List.splitOn_append_cons_self, List.filter_append]

@[simp] theorem meaningful_nil : meaningful [] = [] := rfl

@[simp] theorem meaningful_dot : meaningful ['.'] = [] := by decide

/-! ## One text respelled as another -/

/-- One respelling that leaves the components as they are. -/
inductive Respelling : List Char → List Char → Prop
  | separators (before after : List Char) : Respelling (before ++ '/' :: '/' :: after) (before ++ '/' :: after)
  | dot (before after : List Char) : Respelling (before ++ '/' :: '.' :: '/' :: after) (before ++ '/' :: after)
  | trailing (before : List Char) : Respelling (before ++ ['/']) before
  | trailingDot (before : List Char) : Respelling (before ++ ['/', '.']) before

def Respells : List Char → List Char → Prop := Relation.EqvGen Respelling

theorem Respelling.meaningful_eq {path path' : List Char} (h : Respelling path path') :
    meaningful path = meaningful path' := by
  cases h with
  | separators before after =>
      rw [meaningful_append, meaningful_append, ← List.nil_append ('/' :: after), meaningful_append]
      simp
  | dot before after =>
      rw [meaningful_append, meaningful_append, ← List.singleton_append, meaningful_append]
      simp
  | trailing => rw [meaningful_append, meaningful_nil, List.append_nil]
  | trailingDot => rw [meaningful_append, meaningful_dot, List.append_nil]

theorem Respells.meaningful_eq {path path' : List Char} (h : Respells path path') :
    meaningful path = meaningful path' := by
  induction h with
  | rel _ _ h => exact h.meaningful_eq
  | refl => rfl
  | symm _ _ _ ih => exact ih.symm
  | trans _ _ _ _ _ ih ih' => exact ih.trans ih'

/-- A trivial piece can be left out, wherever it stands after the first. -/
theorem respells_skip {piece : List Char} (h : IsTrivial piece) (before : List Char) (rest : List (List Char)) :
    Respells (before ++ ('/' :: piece ++ rest.flatMap fun piece => '/' :: piece))
      (before ++ rest.flatMap fun piece => '/' :: piece) := by
  cases rest with
  | nil =>
      rcases h with rfl | rfl
      · rw [List.flatMap_nil, List.append_nil, List.append_nil]
        exact .rel _ _ (.trailing before)
      · rw [List.flatMap_nil, List.append_nil, List.append_nil]
        exact .rel _ _ (.trailingDot before)
  | cons next rest =>
      rcases h with rfl | rfl
      · exact .rel _ _ (.separators before _)
      · exact .rel _ _ (.dot before _)

/-- The text without its trivial pieces is a respelling of it; the induction is on the pieces after `before`. -/
theorem respells_meaningful (before : List Char) (rest : List (List Char)) :
    Respells (before ++ rest.flatMap fun piece => '/' :: piece)
      (before ++ (rest.filter fun piece => ¬IsTrivial piece).flatMap fun piece => '/' :: piece) := by
  induction rest generalizing before with
  | nil => exact .refl _
  | cons piece rest ih =>
      by_cases h : IsTrivial piece
      · rw [List.filter_cons_of_neg (by simpa using h)]
        exact .trans _ _ _ (respells_skip h before rest) (ih before)
      · rw [List.filter_cons_of_pos (by simpa using h)]
        have hnext := ih (before ++ '/' :: piece)
        simp only [List.append_assoc] at hnext
        exact hnext

/-! ## Relative paths -/

theorem IsRelative.head {path first : List Char} {rest : List (List Char)} (h : IsRelative path)
    (hpieces : path.splitOn '/' = first :: rest)
    (hpath : path = first ++ rest.flatMap fun piece => '/' :: piece) : ¬IsTrivial first := by
  obtain ⟨hne, hnames⟩ := h
  rintro (rfl | rfl)
  · cases rest with
    | nil => exact hne (by rw [hpath]; rfl)
    | cons piece rest =>
        refine absurd (hnames .rootDir ?_) (by decide)
        have habs : isAbsolute path = true := by rw [hpath]; rfl
        rw [components, if_pos habs]
        exact List.mem_cons_self
  · refine absurd (hnames .curDir ?_) (by decide)
    have habs : ¬isAbsolute path = true := by rw [hpath]; exact Bool.false_ne_true
    rw [components, if_neg habs, hpieces, List.head?_cons, if_pos rfl]
    exact List.mem_cons_self

/-- A relative path is a respelling of its meaningful pieces, joined. -/
theorem IsRelative.respells {path : List Char} (h : IsRelative path) :
    ∃ first rest, meaningful path = first :: rest ∧
      Respells path (first ++ rest.flatMap fun piece => '/' :: piece) := by
  obtain ⟨first, rest, hpieces, hpath⟩ := exists_pieces '/' path
  have hfirst : ¬IsTrivial first := h.head hpieces hpath
  refine ⟨first, rest.filter fun piece => ¬IsTrivial piece, ?_, ?_⟩
  · rw [meaningful, hpieces, List.filter_cons_of_pos (by simpa using hfirst)]
  · have hrespells := respells_meaningful first rest
    rw [← hpath] at hrespells
    exact hrespells

theorem IsRelative.components_eq {path : List Char} (h : IsRelative path) :
    components path = (meaningful path).map Component.ofPiece := by
  obtain ⟨first, rest, hpieces, hpath⟩ := exists_pieces '/' path
  have hfirst : ¬IsTrivial first := h.head hpieces hpath
  have habs : ¬isAbsolute path = true := by
    intro habs
    exact absurd (h.2 .rootDir (by rw [components, if_pos habs]; exact List.mem_cons_self)) (by decide)
  have hdot : ¬(path.splitOn '/').head? = some ['.'] := by
    rw [hpieces]
    exact fun heq => hfirst (.inr (Option.some.inj heq))
  rw [components, if_neg habs, if_neg hdot, List.nil_append]

/-- **Main result.** Two relative paths have the same components just when one respells the other. -/
theorem components_eq_iff {path path' : List Char} (h : IsRelative path) (h' : IsRelative path') :
    components path = components path' ↔ Respells path path' := by
  rw [h.components_eq, h'.components_eq]
  constructor
  · intro heq
    have heq : meaningful path = meaningful path' := List.map_injective_iff.mpr Component.ofPiece_injective heq
    obtain ⟨first, rest, hmeaningful, hrespells⟩ := h.respells
    obtain ⟨first', rest', hmeaningful', hrespells'⟩ := h'.respells
    obtain ⟨rfl, rfl⟩ := List.cons.inj (hmeaningful.symm.trans (heq.trans hmeaningful'))
    exact .trans _ _ _ hrespells (.symm _ _ hrespells')
  · intro hrespells
    rw [hrespells.meaningful_eq]

end HyperTerm.Lib.Paths
