import HyperTerm.Lib.Paths

/-!
# Normal forms of absolute paths

A normalizer walks over the components of an absolute path and pushes the names it meets. What it leaves out, repeated
separators and `.` pieces, and a name followed by `..` where that is resolved, makes no difference to the result.

* `render` : the absolute path of a list of names; `components_render` reads it back;
* `pushComponents` : the walk, with `pop` for what a parent directory does;
* `pushComponents_render` : a path in normal form is its own normal form;
* `SameForm`, `SameResolved` : absolute paths that are written differently, without and with `..`.
-/

namespace HyperTerm.Lib.Paths

/-- What an entry of a directory may be called. -/
def IsName (name : List Char) : Prop := ¬IsTrivial name ∧ name ≠ ['.', '.'] ∧ '/' ∉ name

/-- The path that `push` makes of the root and the names. -/
def render : List (List Char) → List Char
  | [] => ['/']
  | name :: names => (name :: names).flatMap fun name => '/' :: name

theorem isAbsolute_render (names : List (List Char)) : isAbsolute (render names) = true := by
  cases names <;> rfl

/-! ## Components of a normal form -/

theorem notMem_of_mem_splitOn {path piece : List Char} (h : piece ∈ path.splitOn '/') : '/' ∉ piece := fun hmem => by
  have hfalse := forall_of_mem_splitOnP h '/' hmem
  exact absurd hfalse (by decide)

theorem splitOn_of_notMem {piece : List Char} (h : '/' ∉ piece) : piece.splitOn '/' = [piece] := by
  obtain ⟨first, rest, hpieces, hpath⟩ := exists_pieces '/' piece
  cases rest with
  | nil =>
      rw [hpieces, hpath, List.flatMap_nil, List.append_nil]
  | cons next rest =>
      refine absurd ?_ h
      rw [hpath]
      exact List.mem_append_right _ List.mem_cons_self

theorem IsName.meaningful {name : List Char} (h : IsName name) : meaningful name = [name] := by
  unfold Paths.meaningful
  rw [splitOn_of_notMem h.2.2, List.filter_cons_of_pos (by simpa using h.1)]
  rfl

theorem meaningful_names (before : List Char) {names : List (List Char)} (h : ∀ name ∈ names, IsName name) :
    meaningful (before ++ names.flatMap fun name => '/' :: name) = meaningful before ++ names := by
  induction names generalizing before with
  | nil => rw [List.flatMap_nil, List.append_nil, List.append_nil]
  | cons name names ih =>
      obtain ⟨hname, h⟩ := List.forall_mem_cons.mp h
      rw [List.flatMap_cons, List.cons_append, meaningful_append, ih name h, hname.meaningful]
      rfl

theorem meaningful_render {names : List (List Char)} (h : ∀ name ∈ names, IsName name) :
    meaningful (render names) = names := by
  cases names with
  | nil => decide
  | cons name names => exact meaningful_names [] h

theorem IsName.ofPiece {name : List Char} (h : IsName name) : Component.ofPiece name = .normal name := if_neg h.2.1

theorem components_of_isAbsolute {path : List Char} (h : isAbsolute path = true) :
    components path = .rootDir :: (meaningful path).map Component.ofPiece := by
  rw [components, if_pos h]
  rfl

theorem components_render {names : List (List Char)} (h : ∀ name ∈ names, IsName name) :
    components (render names) = .rootDir :: names.map Component.normal := by
  rw [components_of_isAbsolute (isAbsolute_render names), meaningful_render h]
  exact congrArg _ (List.map_congr_left fun name hname => (h name hname).ofPiece)

/-- The name in a component is one. -/
theorem isName_of_mem_components {path name : List Char} (h : .normal name ∈ components path) : IsName name := by
  have hpiece : ∃ piece ∈ meaningful path, Component.ofPiece piece = .normal name := by
    unfold components at h
    rcases List.mem_append.mp h with h | h
    · split at h
      · simp at h
      · split at h <;> simp at h
    · exact List.mem_map.mp h
  obtain ⟨piece, hmem, hpiece⟩ := hpiece
  obtain ⟨hmem, htrivial⟩ := List.mem_filter.mp hmem
  unfold Component.ofPiece at hpiece
  split at hpiece
  · cases hpiece
  · rename_i hparent
    obtain rfl := Component.normal.inj hpiece
    exact ⟨of_decide_eq_true htrivial, hparent, notMem_of_mem_splitOn hmem⟩

/-! ## The walk over the components -/

/-- The names after the components are pushed; nothing when `pop` does not allow a parent directory. -/
def pushComponents (pop : List (List Char) → Option (List (List Char))) :
    List (List Char) → List Component → Option (List (List Char))
  | names, [] => some names
  | _, .rootDir :: rest => pushComponents pop [] rest
  | names, .curDir :: rest => pushComponents pop names rest
  | names, .normal name :: rest => pushComponents pop (names ++ [name]) rest
  | names, .parentDir :: rest => (pop names).bind fun names => pushComponents pop names rest

variable {pop : List (List Char) → Option (List (List Char))}

theorem pushComponents_rootDir (names : List (List Char)) (rest : List Component) :
    pushComponents pop names (.rootDir :: rest) = pushComponents pop [] rest := rfl

theorem pushComponents_append (names : List (List Char)) (before after : List Component) :
    pushComponents pop names (before ++ after) =
      (pushComponents pop names before).bind fun names => pushComponents pop names after := by
  induction before generalizing names with
  | nil => rfl
  | cons component before ih =>
      cases component with
      | rootDir => exact ih []
      | curDir => exact ih names
      | normal name => exact ih (names ++ [name])
      | parentDir =>
          show (pop names).bind _ = ((pop names).bind _).bind _
          cases pop names with
          | none => rfl
          | some names => exact ih names

theorem pushComponents_normal (names rest : List (List Char)) :
    pushComponents pop names (rest.map Component.normal) = some (names ++ rest) := by
  induction rest generalizing names with
  | nil => rw [List.append_nil]; rfl
  | cons name rest ih =>
      show pushComponents pop (names ++ [name]) _ = _
      rw [ih, List.append_assoc]
      rfl

theorem pushComponents_render {names : List (List Char)} (h : ∀ name ∈ names, IsName name) :
    pushComponents pop [] (components (render names)) = some names := by
  rw [components_render h]
  exact pushComponents_normal [] names

/-- What is pushed are names, when `pop` brings in no others. -/
theorem pushComponents_isName (hpop : ∀ names names', pop names = some names' → ∀ name ∈ names', name ∈ names)
    {names result : List (List Char)} {rest : List Component} (hnames : ∀ name ∈ names, IsName name)
    (hrest : ∀ name, .normal name ∈ rest → IsName name) (h : pushComponents pop names rest = some result) :
    ∀ name ∈ result, IsName name := by
  induction rest generalizing names with
  | nil => rw [← Option.some.inj h]; exact hnames
  | cons component rest ih =>
      have hlater : ∀ name, .normal name ∈ rest → IsName name := fun name hname => hrest name (List.mem_cons_of_mem _ hname)
      cases component with
      | rootDir => exact ih (List.forall_mem_nil _) hlater h
      | curDir => exact ih hnames hlater h
      | normal name =>
          refine ih (fun name' hname' => ?_) hlater h
          rcases List.mem_append.mp hname' with hname' | hname'
          · exact hnames name' hname'
          · rw [List.mem_singleton.mp hname']
            exact hrest name List.mem_cons_self
      | parentDir =>
          obtain ⟨names', hnames', h⟩ := Option.bind_eq_some_iff.mp h
          exact ih (fun name hname => hnames name (hpop names names' hnames' name hname)) hlater h

/-! ## Two ways to write a path -/

/-- Absolute paths, one of them respelled as the other in one step. -/
def AbsoluteRespelling (path path' : List Char) : Prop :=
  isAbsolute path = true ∧ isAbsolute path' = true ∧ Respelling path path'

/-- The same absolute path with separators repeated, `.` pieces or a separator at the end. -/
def SameForm : List Char → List Char → Prop := Relation.EqvGen AbsoluteRespelling

theorem SameForm.absolute_and_components {path path' : List Char} (h : SameForm path path') :
    isAbsolute path = isAbsolute path' ∧ components path = components path' := by
  induction h with
  | rel path path' h =>
      obtain ⟨habs, habs', hrespelling⟩ := h
      refine ⟨habs.trans habs'.symm, ?_⟩
      rw [components_of_isAbsolute habs, components_of_isAbsolute habs', hrespelling.meaningful_eq]
  | refl => exact ⟨rfl, rfl⟩
  | symm _ _ _ ih => exact ⟨ih.1.symm, ih.2.symm⟩
  | trans _ _ _ _ _ ih ih' => exact ⟨ih.1.trans ih'.1, ih.2.trans ih'.2⟩

/-- A name that a parent directory takes back. -/
inductive ParentStep : List Char → List Char → Prop
  | within (before : List Char) {name : List Char} (h : IsName name) (after : List Char) :
      ParentStep (before ++ '/' :: (name ++ '/' :: '.' :: '.' :: '/' :: after)) (before ++ '/' :: after)
  | trailing (before : List Char) {name : List Char} (h : IsName name) :
      ParentStep (before ++ '/' :: (name ++ ['/', '.', '.'])) (before ++ ['/'])

/-- Absolute paths, one of them rewritten to the other in one step. -/
def AbsoluteStep (path path' : List Char) : Prop :=
  isAbsolute path = true ∧ isAbsolute path' = true ∧ (Respelling path path' ∨ ParentStep path path')

/-- The same absolute path, where parent directories are resolved as well. -/
def SameResolved : List Char → List Char → Prop := Relation.EqvGen AbsoluteStep

theorem ParentStep.meaningful {path path' : List Char} (h : ParentStep path path') :
    ∃ before name after, IsName name ∧ meaningful path = before ++ [name, ['.', '.']] ++ after ∧
      meaningful path' = before ++ after := by
  have hdots : Paths.meaningful ['.', '.'] = [['.', '.']] := by decide
  cases h with
  | within before h after =>
      rename_i name
      refine ⟨Paths.meaningful before, name, Paths.meaningful after, h, ?_, meaningful_append before after⟩
      have hafter : Paths.meaningful ('.' :: '.' :: '/' :: after) = ['.', '.'] :: Paths.meaningful after := by
        have happend := meaningful_append ['.', '.'] after
        rw [hdots] at happend
        exact happend
      rw [meaningful_append, meaningful_append, h.meaningful, hafter, List.append_assoc]
      rfl
  | trailing before h =>
      rename_i name
      refine ⟨Paths.meaningful before, name, [], h, ?_, ?_⟩
      · rw [meaningful_append, meaningful_append, h.meaningful, hdots, List.append_nil]
        rfl
      · rw [meaningful_append, meaningful_nil]

/-- A walk that resolves parent directories comes to the same names. -/
theorem SameResolved.pushComponents_eq {path path' : List Char} (h : SameResolved path path')
    (hpop : ∀ names name, pop (names ++ [name]) = some names) :
    isAbsolute path = isAbsolute path' ∧
      pushComponents pop [] (components path) = pushComponents pop [] (components path') := by
  induction h with
  | rel path path' h =>
      obtain ⟨habs, habs', hstep⟩ := h
      refine ⟨habs.trans habs'.symm, ?_⟩
      rw [components_of_isAbsolute habs, components_of_isAbsolute habs']
      rcases hstep with hrespelling | hparent
      · rw [hrespelling.meaningful_eq]
      · obtain ⟨before, name, after, hname, hpath, hpath'⟩ := hparent.meaningful
        rw [pushComponents_rootDir, pushComponents_rootDir, hpath, hpath', List.map_append, List.map_append, List.map_append, pushComponents_append,
          pushComponents_append, pushComponents_append]
        cases pushComponents pop [] (before.map Component.ofPiece) with
        | none => rfl
        | some names =>
            have hparents : Component.ofPiece ['.', '.'] = .parentDir := rfl
            show (pushComponents pop names [Component.ofPiece name, Component.ofPiece ['.', '.']]).bind _ = _
            rw [hname.ofPiece, hparents]
            show ((pop (names ++ [name])).bind _).bind _ = _
            rw [hpop]
            rfl
  | refl => exact ⟨rfl, rfl⟩
  | symm _ _ _ ih => exact ⟨ih.1.symm, ih.2.symm⟩
  | trans _ _ _ _ _ ih ih' => exact ⟨ih.1.trans ih'.1, ih.2.trans ih'.2⟩

end HyperTerm.Lib.Paths
