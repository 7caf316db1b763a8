import HyperTerm.Core.ExecutionContextGuards

/-!
# Two ways to write an execution context

* `SameContext` : the same context with its lists in another order, elements repeated, or absolute paths written in
  another way;
* `canonicalizeSpec_same`, `compileBindings_same` : what such contexts have in common;
* `compileExecutionContext_same_iff` : they are resolved to the same context exactly when the bindings of the environment
  are in another order only.

The path of an environment file is normalized where the file is looked up and nowhere else: it is digested as it is
written.
-/

namespace HyperTerm.Core
open HyperTerm.Protocol HyperTerm.Lib HyperTerm.Lib.Paths

/-! ## Ways to write a part of a context -/

/-- The same absolute path, resolved name by name. -/
def SamePath (path path' : PathBuf) : Prop := SameResolved path.toList path'.toList

/-- The same absolute path, written without `..`. -/
def SamePlainPath (path path' : PathBuf) : Prop := SameForm path.toList path'.toList

inductive RuntimePathStep : List PathBuf → List PathBuf → Prop
  | respelled (before after : List PathBuf) {path path' : PathBuf} (h : SamePath path path') :
      RuntimePathStep (before ++ path :: after) (before ++ path' :: after)
  | repeated (before between after : List PathBuf) {path path' : PathBuf} (h : SamePath path path') :
      RuntimePathStep (before ++ path :: between ++ path' :: after) (before ++ path :: between ++ after)

inductive SameShell : Option ShellContextSpec → Option ShellContextSpec → Prop
  | absent : SameShell none none
  | present {executable executable' : PathBuf} (h : SamePath executable executable') (invocation : String)
      (startupFiles pty : Bool) :
      SameShell (some ⟨executable, invocation, startupFiles, pty⟩) (some ⟨executable', invocation, startupFiles, pty⟩)

inductive SameSandbox : Option SandboxProfile → Option SandboxProfile → Prop
  | absent : SameSandbox none none
  | present {profile profile' : SandboxProfile} (h : SameProfile SamePlainPath profile profile') :
      SameSandbox (some profile) (some profile')

inductive SameBinding : EnvironmentBindingSpec → EnvironmentBindingSpec → Prop
  | refl (binding : EnvironmentBindingSpec) : SameBinding binding binding
  | envFile (binding : EnvironmentBindingSpec) {path path' : PathBuf} (h : SamePath path path') (key : String)
      (expectedSha256 : Option String) :
      SameBinding { binding with source := .envFileKey path key expectedSha256 }
        { binding with source := .envFileKey path' key expectedSha256 }

/-- The same context, written in another way. -/
structure SameContext (spec spec' : ExecutionContextSpec) : Prop where
  schemaVersion : spec'.schemaVersion = spec.schemaVersion
  contextId : spec'.contextId = spec.contextId
  contextRevision : spec'.contextRevision = spec.contextRevision
  mode : spec'.mode = spec.mode
  root : SamePath spec.workspace.root spec'.workspace.root
  workingDirectory : SamePath spec.workspace.workingDirectory spec'.workspace.workingDirectory
  runtimeHome : SamePath spec.workspace.runtimeHome spec'.workspace.runtimeHome
  runtimeTemp : SamePath spec.workspace.runtimeTemp spec'.workspace.runtimeTemp
  runtimePath : Relation.EqvGen RuntimePathStep spec.runtime.path spec'.runtime.path
  locale : spec'.runtime.locale = spec.runtime.locale
  timezone : spec'.runtime.timezone = spec.runtime.timezone
  terminal : spec'.runtime.terminal = spec.runtime.terminal
  shell : SameShell spec.shell spec'.shell
  bindings : ∃ bindings, bindings.Perm spec.environment.bindings ∧
    List.Forall₂ SameBinding bindings spec'.environment.bindings
  collisionPolicy : spec'.environment.collisionPolicy = spec.environment.collisionPolicy
  credentials : spec'.credentials.Perm spec.credentials
  sandbox : SameSandbox spec.sandbox spec'.sandbox

/-! ## Paths -/

theorem SamePath.normalize_iff {path path' : PathBuf} (h : SamePath path path') (normal : PathBuf) :
    normalizeContextPath path = .ok normal ↔ normalizeContextPath path' = .ok normal := by
  have hpop (names : List (List Char)) (name : List Char) : popName (names ++ [name]) = some names := by
    unfold popName
    rw [if_neg (by simp), List.dropLast_concat]
  obtain ⟨habs, hpushed⟩ := h.pushComponents_eq hpop
  unfold normalizeContextPath
  simp only [ite_error_eq_ok, map_eq_ok, okOr_eq_ok, habs, hpushed]

theorem keepsNames_samePlainPath : KeepsNames SamePlainPath := fun _ _ h => normalizeNames_eq_ok_congr h

def pushNew (seen : List PathBuf) (path : PathBuf) : List PathBuf := if path ∈ seen then seen else seen ++ [path]

theorem normalizeRuntimePath_eq_ok {seen paths result : List PathBuf} :
    normalizeRuntimePath seen paths = .ok result ↔
      ∃ normal, paths.mapM normalizeContextPath = .ok normal ∧ normal.foldl pushNew seen = result := by
  induction paths generalizing seen with
  | nil =>
      rw [List.mapM_nil]
      simp only [normalizeRuntimePath, pure_eq_ok, exists_eq_left', List.foldl_nil, Except.ok.injEq]
  | cons path paths ih =>
      simp only [normalizeRuntimePath, List.mapM_cons, bind_eq_ok, pure_eq_ok, ih]
      constructor
      · rintro ⟨first, hfirst, normal, hnormal, rfl⟩
        exact ⟨first :: normal, ⟨first, hfirst, normal, hnormal, rfl⟩, rfl⟩
      · rintro ⟨_, ⟨first, hfirst, normal, hnormal, rfl⟩, rfl⟩
        exact ⟨first, hfirst, normal, hnormal, rfl⟩

theorem mem_foldl_pushNew {paths seen : List PathBuf} {path : PathBuf} (h : path ∈ seen ∨ path ∈ paths) :
    path ∈ paths.foldl pushNew seen := by
  induction paths generalizing seen with
  | nil => exact h.resolve_right List.not_mem_nil
  | cons first paths ih =>
      refine ih ?_
      unfold pushNew
      rcases h with h | h
      · split
        · exact .inl h
        · exact .inl (List.mem_append_left _ h)
      · rcases List.mem_cons.mp h with rfl | h
        · split
          · rename_i hseen
            exact .inl hseen
          · exact .inl (List.mem_append_right _ List.mem_cons_self)
        · exact .inr h

theorem RuntimePathStep.normalize_iff {paths paths' : List PathBuf} (h : RuntimePathStep paths paths')
    (result : List PathBuf) : normalizeRuntimePath [] paths = .ok result ↔ normalizeRuntimePath [] paths' = .ok result := by
  rw [normalizeRuntimePath_eq_ok, normalizeRuntimePath_eq_ok]
  cases h with
  | respelled before after h =>
      simp only [List.mapM_append, List.mapM_cons, bind_eq_ok, pure_eq_ok, h.normalize_iff]
  | repeated before between after h =>
      -- the second one is in the list already when the loop comes to it
      have hseen (first between' after' : List PathBuf) (path : PathBuf) :
          (first ++ path :: between' ++ path :: after').foldl pushNew [] =
            (first ++ path :: between' ++ after').foldl pushNew [] := by
        have hmem : path ∈ (first ++ path :: between').foldl pushNew [] :=
          mem_foldl_pushNew (.inr (List.mem_append_right _ List.mem_cons_self))
        rw [@List.foldl_append _ _ pushNew [] (first ++ path :: between') (path :: after'),
          @List.foldl_append _ _ pushNew [] (first ++ path :: between') after', List.foldl_cons, pushNew, if_pos hmem]
      simp only [List.mapM_append, List.mapM_cons, bind_eq_ok, pure_eq_ok]
      constructor
      · rintro ⟨_, ⟨_, ⟨first, hfirst, _, ⟨normal, hnormal, between', hbetween, rfl⟩, rfl⟩, _,
          ⟨normal', hnormal', after', hafter, rfl⟩, rfl⟩, rfl⟩
        rw [← h.normalize_iff, hnormal] at hnormal'
        obtain rfl := Except.ok.inj hnormal'
        exact ⟨_, ⟨_, ⟨first, hfirst, _, ⟨normal, hnormal, between', hbetween, rfl⟩, rfl⟩, after', hafter, rfl⟩,
          (hseen first between' after' normal).symm⟩
      · rintro ⟨_, ⟨_, ⟨first, hfirst, _, ⟨normal, hnormal, between', hbetween, rfl⟩, rfl⟩, after', hafter, rfl⟩, rfl⟩
        exact ⟨_, ⟨_, ⟨first, hfirst, _, ⟨normal, hnormal, between', hbetween, rfl⟩, rfl⟩, _,
          ⟨normal, (h.normalize_iff normal).mp hnormal, after', hafter, rfl⟩, rfl⟩, hseen first between' after' normal⟩

theorem runtimePath_normalize_iff {paths paths' : List PathBuf} (h : Relation.EqvGen RuntimePathStep paths paths')
    (result : List PathBuf) : normalizeRuntimePath [] paths = .ok result ↔ normalizeRuntimePath [] paths' = .ok result := by
  induction h with
  | rel _ _ h => exact h.normalize_iff result
  | refl => exact Iff.rfl
  | symm _ _ _ ih => exact ih.symm
  | trans _ _ _ _ _ ih ih' => exact ih.trans ih'

/-! ## The canonical spec -/

variable {spec spec' canonical : ExecutionContextSpec} {allowUserMode : Bool}

theorem SameShell.canonicalShell_eq {mode : ExecutionMode} {shell shell' canonical : Option ShellContextSpec}
    (hsame : SameShell shell shell') (h : canonicalShell mode shell = .ok canonical) :
    canonicalShell mode shell' = .ok canonical := by
  cases hsame with
  | absent => exact h
  | present hexecutable invocation startupFiles pty =>
      simp only [canonicalShell, bind_eq_ok, ite_error_eq_ok] at h ⊢
      obtain ⟨executable, hnormal, h⟩ := h
      exact ⟨executable, (hexecutable.normalize_iff executable).mp hnormal, h⟩

theorem SameSandbox.eq_none_iff {sandbox sandbox' : Option SandboxProfile} (h : SameSandbox sandbox sandbox') :
    sandbox' = none ↔ sandbox = none := by
  cases h with
  | absent => rfl
  | present h => simp only [reduceCtorEq]

theorem SameContext.admissible (hsame : SameContext spec spec') (h : SpecAdmissible spec allowUserMode) :
    SpecAdmissible spec' allowUserMode := by
  obtain ⟨bindings, hperm, hbindings⟩ := hsame.bindings
  have hlength : spec'.environment.bindings.length = spec.environment.bindings.length := by
    rw [← hbindings.length_eq, hperm.length_eq]
  unfold SpecAdmissible at h ⊢
  rw [hsame.schemaVersion, hsame.contextRevision, hsame.contextId, hsame.mode, hlength, hsame.locale, hsame.timezone,
    hsame.terminal, hsame.sandbox.eq_none_iff]
  exact h

/-- The canonical specs differ in their lists only. -/
theorem SameContext.canonicalizeSpec_eq (hsame : SameContext spec spec')
    (h : canonicalizeSpec spec allowUserMode = .ok canonical) :
    canonicalizeSpec spec' allowUserMode = .ok { canonical with
      environment := spec'.environment
      credentials := sortCredentials spec'.credentials
      sandbox := spec'.sandbox } := by
  obtain ⟨hadmissible, root, hroot, workingDirectory, hworking, runtimeHome, hhome, runtimeTemp, htemp, hinside, path,
    hpath, hne, shell, hshell, rfl⟩ := canonicalizeSpec_eq_ok.mp h
  have hshell' := hsame.shell.canonicalShell_eq hshell
  rw [← hsame.mode] at hshell'
  refine canonicalizeSpec_eq_ok.mpr ⟨hsame.admissible hadmissible, root, (hsame.root.normalize_iff root).mp hroot,
    workingDirectory, (hsame.workingDirectory.normalize_iff _).mp hworking, runtimeHome,
    (hsame.runtimeHome.normalize_iff _).mp hhome, runtimeTemp, (hsame.runtimeTemp.normalize_iff _).mp htemp, hinside, path,
    (runtimePath_normalize_iff hsame.runtimePath path).mp hpath, hne, shell, hshell', ?_⟩
  rw [hsame.schemaVersion, hsame.contextId, hsame.contextRevision, hsame.mode]
  dsimp only
  rw [hsame.locale, hsame.timezone, hsame.terminal]

/-! ## Bindings, credentials and the sandbox -/

section
variable {digests : ContextDigests} {inputs : ExecutionContextInputs}

/-- Of the parts that are written in another way the loop looks at the collision policy alone. -/
theorem compileBindings_same {environment : EnvironmentPlan} (credentials : List CredentialRequirement)
    (sandbox : Option SandboxProfile) (hpolicy : environment.collisionPolicy = canonical.environment.collisionPolicy)
    (compiled : OrderedMap String CompiledBinding) (bindings : List EnvironmentBindingSpec) :
    compileBindings digests { canonical with environment := environment, credentials := credentials, sandbox := sandbox }
      inputs compiled bindings = compileBindings digests canonical inputs compiled bindings := by
  induction bindings generalizing compiled with
  | nil => rfl
  | cons binding rest ih =>
      rw [compileBindings, compileBindings]
      dsimp only
      rw [hpolicy]
      simp only [ih]

/-- The bindings that were compiled are told apart by the key they are sorted by. -/
theorem sortBindings_perm {base compiled : OrderedMap String CompiledBinding} {bindings bindings' : List EnvironmentBindingSpec}
    (h : Compiled digests canonical inputs base (sortBindings digests bindings) compiled) (hperm : bindings'.Perm bindings) :
    sortBindings digests bindings' = sortBindings digests bindings := by
  refine (insertionSort_congr hperm.symm fun binding hbinding other hother hkey => ?_).symm
  obtain ⟨horigin, hrest⟩ := Prod.mk.inj (toLex.injective hkey)
  exact h.eq_of_same (mem_sortBindings.mpr hbinding) (mem_sortBindings.mpr hother) horigin
    (Prod.mk.inj (toLex.injective hrest)).1

end

theorem nodup_of_validateCredentials {seen : List String} {credentials : List CredentialRequirement}
    (h : validateCredentials seen credentials = .ok ()) :
    (credentials.map (·.bindingId)).Nodup ∧ ∀ credential ∈ credentials, credential.bindingId ∉ seen := by
  induction credentials generalizing seen with
  | nil => exact ⟨List.nodup_nil, List.forall_mem_nil _⟩
  | cons credential rest ih =>
      simp only [validateCredentials, ite_error_eq_ok] at h
      obtain ⟨-, hnew, h⟩ := h
      obtain ⟨hnodup, hseen⟩ := ih h
      refine ⟨List.nodup_cons.mpr ⟨?_, hnodup⟩, List.forall_mem_cons.mpr ⟨hnew, fun later hlater => ?_⟩⟩
      · intro hmem
        obtain ⟨later, hlater, heq⟩ := List.mem_map.mp hmem
        exact hseen later hlater (heq ▸ List.mem_cons_self)
      · exact fun hmem => hseen later hlater (List.mem_cons_of_mem _ hmem)

theorem sortCredentials_perm {credentials credentials' : List CredentialRequirement}
    (h : validateCredentials [] (sortCredentials credentials) = .ok ()) (hperm : credentials'.Perm credentials) :
    sortCredentials credentials' = sortCredentials credentials := by
  have hmem {credential : CredentialRequirement} (hcredential : credential ∈ credentials) :
      credential ∈ sortCredentials credentials := (List.perm_insertionSort _ _).mem_iff.mpr hcredential
  refine (insertionSort_congr hperm.symm fun credential hcredential other hother hkey => ?_).symm
  exact List.inj_on_of_nodup_map (nodup_of_validateCredentials h).1 (hmem hcredential) (hmem hother)
    (Prod.mk.inj (toLex.injective hkey)).1

theorem SameSandbox.canonicalSandbox_eq {sandbox sandbox' result : Option SandboxProfile} {clearInherited : Bool}
    {environmentVariables : StringMap} (hsame : SameSandbox sandbox sandbox')
    (h : canonicalSandbox clearInherited environmentVariables sandbox = .ok result) :
    canonicalSandbox clearInherited environmentVariables sandbox' = .ok result := by
  cases hsame with
  | absent => exact h
  | present hprofile =>
      simp only [canonicalSandbox, bind_eq_ok, mapError_eq_ok, pure_eq_ok] at h ⊢
      obtain ⟨profile, hcanonical, rfl⟩ := h
      refine ⟨profile, SameProfile.canonicalize keepsNames_samePlainPath ?_ hcanonical, rfl⟩
      exact { hprofile with environment := rfl }

/-! ## The resolved context -/

/-- The two contexts are resolved to the same when their bindings are in another order only. -/
theorem SameContext.resolveContext_eq {digests : ContextDigests} {inputs : ExecutionContextInputs}
    {digested : ExecutionContextSpec} {environment : ResolvedEnvironmentPlan} (hsame : SameContext spec spec')
    (hperm : spec'.environment.bindings.Perm spec.environment.bindings)
    (h : resolveContext digests spec inputs = .ok (digested, environment)) :
    resolveContext digests spec' inputs = .ok (digested, environment) := by
  obtain ⟨canonical, hcanonical, runtime, hruntime, base, hbase, compiled, hcompiled, hcredentials, henvironment, hsize,
    sandbox, hsandbox, rfl⟩ := resolveContext_eq_ok.mp h
  obtain ⟨hmode, hplan, hsorted, hkept⟩ := canonicalizeSpec_keeps hcanonical
  have hbindings : sortBindings digests spec'.environment.bindings = sortBindings digests spec.environment.bindings := by
    rw [hplan] at hcompiled
    exact sortBindings_perm (compiled_of_compileBindings hcompiled) hperm
  have hcredentials' : sortCredentials spec'.credentials = canonical.credentials := by
    rw [hsorted] at hcredentials ⊢
    exact sortCredentials_perm hcredentials hsame.credentials
  have hpolicy : spec'.environment.collisionPolicy = canonical.environment.collisionPolicy := by
    rw [hplan]
    exact hsame.collisionPolicy
  rw [hkept] at hsandbox
  refine resolveContext_eq_ok.mpr ⟨_, hsame.canonicalizeSpec_eq hcanonical, runtime, hruntime, base, hbase, compiled, ?_, ?_,
    henvironment, hsize, sandbox, hsame.sandbox.canonicalSandbox_eq hsandbox, ?_⟩
  · dsimp only
    rw [hbindings, compileBindings_same _ _ hpolicy, ← hplan]
    exact hcompiled
  · dsimp only
    rw [hcredentials']
    exact hcredentials
  · dsimp only
    rw [hbindings, hcredentials', hpolicy, hplan]

theorem bindings_of_resolveContext {digests : ContextDigests} {inputs : ExecutionContextInputs}
    {digested : ExecutionContextSpec} {environment : ResolvedEnvironmentPlan}
    (h : resolveContext digests spec inputs = .ok (digested, environment)) :
    digested.environment.bindings = sortBindings digests spec.environment.bindings := by
  obtain ⟨canonical, hcanonical, runtime, -, base, -, compiled, -, -, -, -, sandbox, -, rfl⟩ := resolveContext_eq_ok.mp h
  dsimp only
  rw [(canonicalizeSpec_keeps hcanonical).2.1]

/-- **Main result.** A context that is resolved, and the same context written in another way: it is resolved to the same
exactly when the bindings of the environment are in another order only. `hdistinct` says that SHA-256 does not collide
on the two. -/
theorem compileExecutionContext_same_iff (digests : ContextDigests) (inputs : ExecutionContextInputs)
    {spec spec' : ExecutionContextSpec} {resolved : ResolvedExecutionContext × ContextReceipt}
    (hsame : SameContext spec spec') (h : compileExecutionContext digests spec inputs = .ok resolved)
    (hdistinct : ∀ digested digested' environment environment',
      resolveContext digests spec inputs = .ok (digested, environment) →
      resolveContext digests spec' inputs = .ok (digested', environment') →
      digests.digestContext digested environment.digest = digests.digestContext digested' environment'.digest →
      digested = digested') :
    compileExecutionContext digests spec' inputs = .ok resolved ↔
      spec'.environment.bindings.Perm spec.environment.bindings := by
  unfold compileExecutionContext at h ⊢
  obtain ⟨⟨digested, environment⟩, hresolved, rfl⟩ := map_eq_ok.mp h
  constructor
  · intro h'
    obtain ⟨⟨digested', environment'⟩, hresolved', hresult⟩ := map_eq_ok.mp h'
    have hdigest := congrArg (fun resolved => resolved.1.contextDigest) hresult
    have heq := hdistinct digested digested' environment environment' hresolved hresolved' hdigest.symm
    have hsorted := bindings_of_resolveContext hresolved'
    rw [← heq, bindings_of_resolveContext hresolved] at hsorted
    have hperm (bindings : List EnvironmentBindingSpec) : (sortBindings digests bindings).Perm bindings :=
      List.perm_insertionSort _ bindings
    have hsort := hperm spec.environment.bindings
    rw [hsorted] at hsort
    exact (hperm spec'.environment.bindings).symm.trans hsort
  · intro hperm
    exact map_eq_ok.mpr ⟨_, hsame.resolveContext_eq hperm hresolved, rfl⟩

/-! ## The path of an environment file -/

def urlBinding (path : PathBuf) : EnvironmentBindingSpec :=
  ⟨"API_URL", .envFileKey path "API_TOKEN" none, .toolConfiguration, .invocation, .process, .launch, .deny⟩

def levelBinding : EnvironmentBindingSpec :=
  ⟨"LOG_LEVEL", .literal "info", .toolConfiguration, .builtIn, .process, .launch, .deny⟩

/-- `/work//` for the root, and the bindings in another order. -/
def rewrittenContext : ExecutionContextSpec :=
  { sampleContext [urlBinding ".env", levelBinding] with workspace := ⟨"/work//", "/work", "/work/home", "/work/tmp"⟩ }

theorem samePath_trailing (before : List Char) (h : isAbsolute before = true) :
    SameResolved before (before ++ ['/']) := by
  refine .symm _ _ (.rel _ _ ⟨?_, h, .inl (.trailing before)⟩)
  unfold isAbsolute at h ⊢
  cases before with
  | nil => cases h
  | cons c before => exact h

theorem covers_refl {α : Type} {R : α → α → Prop} (hR : ∀ a, R a a) (l : List α) : Covers R l l :=
  ⟨fun a ha => ⟨a, ha, hR a⟩, fun a ha => ⟨a, ha, hR a⟩⟩

theorem sameSandbox_sample : SameSandbox (some sampleSandbox) (some sampleSandbox) := by
  have hpath (path : PathBuf) : SamePlainPath path path := .refl _
  exact .present ⟨rfl, covers_refl (fun rule => ⟨hpath rule.path, rfl⟩) _, .offline, rfl, covers_refl (fun _ => rfl) _, rfl,
    rfl, covers_refl hpath _, rfl, rfl⟩

theorem rewrittenContext_same :
    (compileExecutionContext sampleContextDigests (sampleContext [levelBinding, urlBinding ".env"]) sampleInputs).toOption.isSome ∧
      compileExecutionContext sampleContextDigests rewrittenContext sampleInputs =
        compileExecutionContext sampleContextDigests (sampleContext [levelBinding, urlBinding ".env"]) sampleInputs := by
  have hperm : [urlBinding ".env", levelBinding].Perm [levelBinding, urlBinding ".env"] := .swap _ _ _
  have hroot : SamePath "/work" "/work//" := by
    have hslash := samePath_trailing "/work".toList (by decide)
    exact hslash.trans _ _ _ (samePath_trailing "/work/".toList (by decide))
  have hsame : SameContext (sampleContext [levelBinding, urlBinding ".env"]) rewrittenContext :=
    ⟨rfl, rfl, rfl, rfl, hroot, .refl _, .refl _, .refl _, .refl _, rfl, rfl, rfl, .absent,
      ⟨_, hperm, List.forall₂_same.mpr fun binding _ => .refl binding⟩, rfl, .refl _, sameSandbox_sample⟩
  have hdigested : (resolveContext sampleContextDigests (sampleContext [levelBinding, urlBinding ".env"]) sampleInputs).map Prod.fst =
      (resolveContext sampleContextDigests rewrittenContext sampleInputs).map Prod.fst := by decide
  have hcompiles : (compileExecutionContext sampleContextDigests (sampleContext [levelBinding, urlBinding ".env"])
      sampleInputs).map (fun _ => ()) = .ok () := by decide
  obtain ⟨resolved, hresolved, -⟩ := map_eq_ok.mp hcompiles
  have hiff := compileExecutionContext_same_iff sampleContextDigests sampleInputs hsame hresolved
    fun digested digested' environment environment' h h' _ => by
      rw [h, h'] at hdigested
      exact Except.ok.inj hdigested
  rw [hresolved, hiff.mpr hperm]
  exact ⟨rfl, rfl⟩

/-- `/work/./.env` names the file that `/work/.env` names, and gives another digest. -/
theorem respelled_file :
    ¬∀ (digests : ContextDigests) (inputs : ExecutionContextInputs) (spec spec' : ExecutionContextSpec)
      (resolved : ResolvedExecutionContext × ContextReceipt), SameContext spec spec' →
      compileExecutionContext digests spec inputs = .ok resolved →
      compileExecutionContext digests spec' inputs = .ok resolved := by
  intro hequal
  have hpath : SamePath "/work/./.env" "/work/.env" :=
    .rel _ _ ⟨by decide, by decide, .inl (.dot "/work".toList ".env".toList)⟩
  have hsame : SameContext (sampleContext [urlBinding "/work/./.env"]) (sampleContext [urlBinding "/work/.env"]) :=
    ⟨rfl, rfl, rfl, rfl, .refl _, .refl _, .refl _, .refl _, .refl _, rfl, rfl, rfl, .absent,
      ⟨_, .refl _, .cons (.envFile (urlBinding "") hpath "API_TOKEN" none) .nil⟩, rfl, .refl _, sameSandbox_sample⟩
  have hcompiles : (compileExecutionContext sampleContextDigests (sampleContext [urlBinding "/work/./.env"]) sampleInputs).map
      (fun _ => ()) = .ok () := by decide
  have hdiffer : (compileExecutionContext sampleContextDigests (sampleContext [urlBinding "/work/./.env"]) sampleInputs).map
        (fun resolved => resolved.1.contextDigest) ≠
      (compileExecutionContext sampleContextDigests (sampleContext [urlBinding "/work/.env"]) sampleInputs).map
        fun resolved => resolved.1.contextDigest := by decide
  obtain ⟨resolved, hresolved, -⟩ := map_eq_ok.mp hcompiles
  rw [hresolved, hequal _ _ _ _ resolved hsame hresolved] at hdiffer
  exact hdiffer rfl

end HyperTerm.Core
