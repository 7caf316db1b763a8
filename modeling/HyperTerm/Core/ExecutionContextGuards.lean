import HyperTerm.Core.ExecutionContext

/-!
# What an environment may hold outside user mode

* `Compiled` : the bindings that were compiled so far, and what became of them; a step keeps it, and so does the loop;
* `validateBinding_guards` : what a binding that was accepted may be;
* `compileBindings_host` : the loop does not look at the environment of the host;
* `guarded_iff` : a compiled environment withholds what it should exactly when the credential bindings that count refer
  to secrets.
-/

namespace HyperTerm.Core
open HyperTerm.Protocol HyperTerm.Lib HyperTerm.Lib.Paths

variable {digests : ContextDigests} {mode : ExecutionMode} {binding : EnvironmentBindingSpec}
  {compiled compiled' result : OrderedMap String CompiledBinding}

/-! ## One binding -/

theorem insertBinding_eq_ok {new : CompiledBinding} {policy : CollisionPolicy} :
    insertBinding compiled new policy = .ok compiled' ↔
      (∀ existing, compiled.get? new.metadata.targetName = some existing → MayReplace policy existing new) ∧
        compiled.insert new.metadata.targetName new = compiled' := by
  have hall : (compiled.get? new.metadata.targetName).all (fun existing => MayReplace policy existing new) = true ↔
      ∀ existing, compiled.get? new.metadata.targetName = some existing → MayReplace policy existing new := by
    cases compiled.get? new.metadata.targetName with
    | none => simp
    | some existing => simp
  unfold insertBinding
  split
  · rename_i h
    rw [Except.ok.injEq]
    exact (and_iff_right (hall.mp h)).symm
  · rename_i h
    constructor
    · intro hok
      cases hok
    · intro hok
      exact absurd (hall.mpr hok.1) h

/-- What a binding that is accepted outside user mode satisfies. -/
structure Accepted (binding : EnvironmentBindingSpec) : Prop where
  noInjection : binding.bindingClass ≠ .shellStartup ∧ binding.bindingClass ≠ .loaderInjection
  network : binding.bindingClass = .networkControl → binding.origin = .authority
  handle : binding.bindingClass = .authorityHandle → binding.origin = .authority ∨ binding.origin = .credentialBroker
  noHost : ∀ name, binding.source ≠ .hostVariable name

theorem validateBinding_guards (hmode : mode ≠ .user) (h : validateBinding mode binding = .ok ()) : Accepted binding := by
  unfold validateBinding at h
  simp only [bind_eq_ok, ite_error_eq_ok] at h
  obtain ⟨_, -, -, -, -, -, hinjection, hnetwork, hhandle, hsource⟩ := h
  rw [not_and, not_or] at hinjection
  rw [not_and, not_not] at hnetwork hhandle
  refine ⟨hinjection hmode, hnetwork, hhandle, ?_⟩
  intro name hname
  unfold validateSource at hsource
  rw [hname] at hsource
  simp only [ite_error_eq_ok] at hsource
  exact hsource.1 hmode

/-- A secret has no value, and every other source gives one. -/
theorem value_of_resolveBindingValue {workspace : WorkspaceContextSpec} {inputs : ExecutionContextInputs}
    {value : Option String} (h : resolveBindingValue digests workspace inputs binding = .ok value) :
    value = none ↔ ∃ reference, binding.source = .secretReference reference := by
  unfold resolveBindingValue at h
  simp only [bind_eq_ok, ite_error_eq_ok] at h
  obtain ⟨value', hvalue, -, hsame⟩ := h
  obtain rfl := Except.ok.inj hsame
  cases hsource : binding.source with
  | secretReference reference =>
      rw [hsource] at hvalue
      obtain rfl := Except.ok.inj hvalue
      exact ⟨fun _ => ⟨reference, rfl⟩, fun _ => rfl⟩
  | literal text =>
      rw [hsource] at hvalue
      obtain rfl := Except.ok.inj hvalue
      simp
  | derived derived =>
      rw [hsource] at hvalue
      obtain rfl := Except.ok.inj hvalue
      simp
  | hostVariable name =>
      rw [hsource] at hvalue
      simp only [sourceValue, bind_eq_ok, pure_eq_ok] at hvalue
      obtain ⟨-, -, text, -, rfl⟩ := hvalue
      simp
  | envFileKey path key expected =>
      rw [hsource] at hvalue
      simp only [sourceValue, bind_eq_ok, pure_eq_ok] at hvalue
      obtain ⟨text, -, rfl⟩ := hvalue
      simp

/-! ## The loop over the bindings -/

section
variable (digests) (canonical : ExecutionContextSpec) (inputs : ExecutionContextInputs)

/-- What the loop makes of a binding. -/
def CompiledFrom (binding : EnvironmentBindingSpec) (new : CompiledBinding) : Prop :=
  validateBinding canonical.mode binding = .ok () ∧
    ∃ value, resolveBindingValue digests canonical.workspace inputs binding = .ok value ∧
      new = ⟨value, resolvedMetadata binding, binding.overridePolicy⟩

/-- What the loop has made of the bindings before it and of those it went through. -/
structure Compiled (base : OrderedMap String CompiledBinding) (done : List EnvironmentBindingSpec)
    (compiled : OrderedMap String CompiledBinding) : Prop where
  /-- An entry is that of the highest binding for its name. -/
  entry : ∀ name new, compiled.get? name = some new →
    (base.get? name = some new ∧ ∀ binding ∈ done, binding.targetName ≠ name) ∨
    ∃ binding ∈ done, binding.targetName = name ∧ CompiledFrom digests canonical inputs binding new ∧
      ∀ other ∈ done, other.targetName = name → other.origin ≤ binding.origin
  total : ∀ binding ∈ done, ∃ new, compiled.get? binding.targetName = some new
  /-- Bindings for one name come from higher and higher origins. -/
  rising : done.Pairwise fun earlier later => earlier.targetName = later.targetName → earlier.origin < later.origin

end

variable {canonical : ExecutionContextSpec} {inputs : ExecutionContextInputs} {base : OrderedMap String CompiledBinding}
  {done rest : List EnvironmentBindingSpec}

theorem compileBindings_cons :
    compileBindings digests canonical inputs compiled (binding :: rest) = .ok result ↔
      ∃ new compiled', CompiledFrom digests canonical inputs binding new ∧
        insertBinding compiled new canonical.environment.collisionPolicy = .ok compiled' ∧
        compileBindings digests canonical inputs compiled' rest = .ok result := by
  rw [compileBindings]
  simp only [bind_eq_ok]
  constructor
  · rintro ⟨⟨⟩, hvalid, value, hvalue, compiled', hinsert, hrest⟩
    exact ⟨_, compiled', ⟨hvalid, value, hvalue, rfl⟩, hinsert, hrest⟩
  · rintro ⟨_, compiled', ⟨hvalid, value, hvalue, rfl⟩, hinsert, hrest⟩
    exact ⟨(), hvalid, value, hvalue, compiled', hinsert, hrest⟩

theorem Compiled.start (base : OrderedMap String CompiledBinding) : Compiled digests canonical inputs base [] base where
  entry := fun _ _ h => .inl ⟨h, List.forall_mem_nil _⟩
  total := List.forall_mem_nil _
  rising := List.Pairwise.nil

/-- One binding more. -/
theorem Compiled.step (h : Compiled digests canonical inputs base done compiled) {new : CompiledBinding}
    (hnew : CompiledFrom digests canonical inputs binding new)
    (hinsert : insertBinding compiled new canonical.environment.collisionPolicy = .ok compiled') :
    Compiled digests canonical inputs base (done ++ [binding]) compiled' := by
  obtain ⟨hreplace, rfl⟩ := insertBinding_eq_ok.mp hinsert
  obtain ⟨-, value, -, hshape⟩ := id hnew
  have htarget : new.metadata.targetName = binding.targetName := by rw [hshape]; rfl
  have horigin : new.metadata.origin = binding.origin := by rw [hshape]; rfl
  rw [htarget] at hreplace ⊢
  -- whatever was compiled for the name comes from a lower origin
  have hlower (other : EnvironmentBindingSpec) (hother : other ∈ done) (hsame : other.targetName = binding.targetName) :
      other.origin < binding.origin := by
    obtain ⟨existing, hexisting⟩ := h.total other hother
    rw [hsame] at hexisting
    have hlt := (hreplace existing hexisting).2.2.2
    rw [horigin] at hlt
    rcases h.entry _ _ hexisting with ⟨-, hnone⟩ | ⟨highest, -, -, ⟨-, _, -, rfl⟩, hmax⟩
    · exact absurd hsame (hnone other hother)
    · exact (hmax other hother hsame).trans_lt hlt
  constructor
  · intro name entry hentry
    rw [OrderedMap.get?_insert] at hentry
    by_cases hname : name = binding.targetName
    · rw [if_pos hname] at hentry
      obtain rfl := Option.some.inj hentry
      refine .inr ⟨binding, List.mem_append_right _ List.mem_cons_self, hname.symm, hnew, ?_⟩
      intro other hother hsame
      rcases List.mem_append.mp hother with hother | hother
      · exact (hlower other hother (hsame.trans hname)).le
      · rw [List.mem_singleton.mp hother]
    · rw [if_neg hname] at hentry
      rcases h.entry name entry hentry with ⟨hbase, hnone⟩ | ⟨highest, hhighest, hsame, hfrom, hmax⟩
      · refine .inl ⟨hbase, fun other hother => ?_⟩
        rcases List.mem_append.mp hother with hother | hother
        · exact hnone other hother
        · rw [List.mem_singleton.mp hother]
          exact Ne.symm hname
      · refine .inr ⟨highest, List.mem_append_left _ hhighest, hsame, hfrom, fun other hother hother' => ?_⟩
        rcases List.mem_append.mp hother with hother | hother
        · exact hmax other hother hother'
        · rw [List.mem_singleton.mp hother] at hother'
          exact absurd hother'.symm hname
  · intro other hother
    rw [OrderedMap.get?_insert]
    by_cases hname : other.targetName = binding.targetName
    · exact ⟨new, if_pos hname⟩
    · rw [if_neg hname]
      rcases List.mem_append.mp hother with hother | hother
      · exact h.total other hother
      · rw [List.mem_singleton.mp hother] at hname
        exact absurd rfl hname
  · rw [List.pairwise_append]
    refine ⟨h.rising, List.pairwise_singleton _ _, fun other hother later hlater hsame => ?_⟩
    rw [List.mem_singleton.mp hlater] at hsame ⊢
    exact hlower other hother hsame

theorem Compiled.run (h : Compiled digests canonical inputs base done compiled)
    (hrun : compileBindings digests canonical inputs compiled rest = .ok result) :
    Compiled digests canonical inputs base (done ++ rest) result := by
  induction rest generalizing done compiled with
  | nil =>
      obtain rfl := Except.ok.inj hrun
      rw [List.append_nil]
      exact h
  | cons binding rest ih =>
      obtain ⟨new, compiled', hnew, hinsert, hrest⟩ := compileBindings_cons.mp hrun
      rw [List.append_cons]
      exact ih (h.step hnew hinsert) hrest

theorem compiled_of_compileBindings (h : compileBindings digests canonical inputs base rest = .ok result) :
    Compiled digests canonical inputs base rest result := (Compiled.start base).run h

/-- One name has one binding of an origin. -/
theorem Compiled.nodup (h : Compiled digests canonical inputs base done compiled) :
    (done.map fun binding => (binding.origin, binding.targetName)).Nodup := by
  refine List.pairwise_map.mpr (h.rising.imp fun {earlier later} hlt heq => ?_)
  obtain ⟨horigin, hname⟩ := Prod.mk.inj heq
  exact absurd horigin (hlt hname).ne

theorem Compiled.eq_of_same (h : Compiled digests canonical inputs base done compiled) {other : EnvironmentBindingSpec}
    (hbinding : binding ∈ done) (hother : other ∈ done) (horigin : binding.origin = other.origin)
    (hname : binding.targetName = other.targetName) : binding = other :=
  List.inj_on_of_nodup_map h.nodup hbinding hother (Prod.ext horigin hname)

/-! ## The environment of the host -/

/-- Outside user mode the loop does not look at the environment of the host. -/
theorem compileBindings_host (hmode : canonical.mode ≠ .user) (host : StringMap)
    (compiled : OrderedMap String CompiledBinding) (bindings : List EnvironmentBindingSpec) :
    compileBindings digests canonical { inputs with hostEnvironment := host } compiled bindings =
      compileBindings digests canonical inputs compiled bindings := by
  induction bindings generalizing compiled with
  | nil => rfl
  | cons binding rest ih =>
      rw [compileBindings, compileBindings]
      cases hvalid : validateBinding canonical.mode binding with
      | error e => rfl
      | ok _ =>
          have hnoHost := (validateBinding_guards hmode hvalid).noHost
          have hvalue : resolveBindingValue digests canonical.workspace { inputs with hostEnvironment := host } binding =
              resolveBindingValue digests canonical.workspace inputs binding := by
            unfold resolveBindingValue
            cases hsource : binding.source with
            | hostVariable name => exact absurd hsource (hnoHost name)
            | _ => rfl
          rw [hvalue]
          simp only [ih]

theorem compileExecutionContext_host {spec : ExecutionContextSpec} (hmode : spec.mode ≠ .user) (host : StringMap) :
    compileExecutionContext digests spec { inputs with hostEnvironment := host } =
      compileExecutionContext digests spec inputs := by
  unfold compileExecutionContext resolveContext
  dsimp only
  cases hcanonical : canonicalizeSpec spec inputs.allowUserMode with
  | error e => rfl
  | ok canonical =>
      have hmode' : canonical.mode ≠ .user := by rwa [(canonicalizeSpec_keeps hcanonical).1]
      simp only [bind, Except.bind, compileBindings_host hmode' host]

/-! ## The resolved environment -/

/-- What the compiled bindings of the runtime are. -/
theorem insertRuntimeBindings_entry {bindings : List CompiledBinding} {p : String → CompiledBinding → Prop}
    (hbase : ∀ name new, compiled.get? name = some new → p name new)
    (hnew : ∀ new ∈ bindings, p new.metadata.targetName new) (h : insertRuntimeBindings compiled bindings = .ok result) :
    ∀ name new, result.get? name = some new → p name new := by
  induction bindings generalizing compiled with
  | nil =>
      obtain rfl := Except.ok.inj h
      exact hbase
  | cons binding bindings ih =>
      obtain ⟨hbinding, hnew⟩ := List.forall_mem_cons.mp hnew
      unfold insertRuntimeBindings at h
      simp only [bind_eq_ok, insertBinding_eq_ok] at h
      obtain ⟨_, ⟨-, rfl⟩, h⟩ := h
      refine ih (fun name new hget => ?_) hnew h
      rw [OrderedMap.get?_insert] at hget
      by_cases hname : name = binding.metadata.targetName
      · rw [if_pos hname] at hget
        obtain rfl := Option.some.inj hget
        rw [hname]
        exact hbinding
      · rw [if_neg hname] at hget
        exact hbase name new hget

/-- No class but the plain one is among the bindings of the runtime. -/
def IsRuntime (name : String) (new : CompiledBinding) : Prop :=
  new.metadata.targetName = name ∧ new.metadata.bindingClass = .runtimeSemantic

theorem isRuntime_of_runtimeBindings {bindings : List CompiledBinding} (h : runtimeBindings canonical = .ok bindings)
    (hbase : insertRuntimeBindings OrderedMap.empty bindings = .ok base) :
    ∀ name new, base.get? name = some new → IsRuntime name new := by
  unfold runtimeBindings at h
  simp only [bind_eq_ok, pure_eq_ok] at h
  obtain ⟨path, -, rfl⟩ := h
  refine insertRuntimeBindings_entry (fun name new hget => by cases hget) (fun new hnew => ?_) hbase
  refine ⟨rfl, ?_⟩
  simp only [List.mem_cons, List.not_mem_nil, or_false] at hnew
  rcases hnew with rfl | rfl | rfl | rfl | rfl | rfl <;> rfl

/-- The environment withholds what code could be injected by, what gives authority and what is secret. -/
structure Guarded (environment : ResolvedEnvironmentPlan) : Prop where
  withheld : ∀ bound ∈ environment.bindings,
    bound.bindingClass = .credential ∨ bound.bindingClass = .shellStartup ∨ bound.bindingClass = .loaderInjection →
    ∀ value, (bound.targetName, value) ∉ environment.environmentVariables
  network : ∀ bound ∈ environment.bindings, bound.bindingClass = .networkControl → bound.origin = .authority
  handle : ∀ bound ∈ environment.bindings, bound.bindingClass = .authorityHandle →
    bound.origin = .authority ∨ bound.origin = .credentialBroker

/-- Of the credential bindings for a name, the one that counts refers to a secret. -/
def CredentialsReferToSecrets (spec : ExecutionContextSpec) : Prop :=
  ∀ binding ∈ spec.environment.bindings, binding.bindingClass = .credential →
    (∀ other ∈ spec.environment.bindings, other.targetName = binding.targetName → other.origin ≤ binding.origin) →
    ∃ reference, binding.source = .secretReference reference

theorem mem_sortBindings {bindings : List EnvironmentBindingSpec} :
    binding ∈ sortBindings digests bindings ↔ binding ∈ bindings := (List.perm_insertionSort _ _).mem_iff

/-- An entry of the compiled environment, from a binding of the spec or from the runtime. -/
theorem mem_bindings_of_compiled {environment : ResolvedEnvironmentPlan} (hruntime : ∀ name new, base.get? name = some new → IsRuntime name new)
    (h : Compiled digests canonical inputs base done compiled)
    (henvironment : environmentPlan digests canonical.mode compiled = environment) (bound : ResolvedEnvironmentBinding)
    (hbound : bound ∈ environment.bindings) :
    ∃ new, compiled.get? bound.targetName = some new ∧ new.metadata = bound ∧
      (bound.bindingClass = .runtimeSemantic ∨
        ∃ binding ∈ done, CompiledFrom digests canonical inputs binding new ∧
          ∀ other ∈ done, other.targetName = binding.targetName → other.origin ≤ binding.origin) := by
  subst henvironment
  obtain ⟨new, hnew, rfl⟩ := List.mem_map.mp hbound
  obtain ⟨⟨name, new⟩, hentry, rfl⟩ := List.mem_map.mp hnew
  have hget : compiled.get? name = some new := OrderedMap.get?_eq_some.mpr hentry
  rcases h.entry name new hget with ⟨hbase, -⟩ | ⟨binding, hbinding, hname, hfrom, hmax⟩
  · obtain ⟨htarget, hclass⟩ := hruntime name new hbase
    exact ⟨new, by rw [htarget]; exact hget, rfl, .inl hclass⟩
  · obtain ⟨-, value, -, hshape⟩ := id hfrom
    have htarget : new.metadata.targetName = name := by rw [hshape]; exact hname
    exact ⟨new, by rw [htarget]; exact hget, rfl, .inr ⟨binding, hbinding, hfrom, by rwa [hname]⟩⟩

theorem mem_environmentVariables {name value : String} :
    (name, value) ∈ compiledVariables compiled ↔ ∃ new, compiled.get? name = some new ∧ new.value = some value := by
  unfold compiledVariables
  simp only [List.mem_filterMap, Option.map_eq_some_iff, Prod.mk.injEq]
  constructor
  · rintro ⟨⟨name', new⟩, hentry, value', hvalue, rfl, rfl⟩
    exact ⟨new, OrderedMap.get?_eq_some.mpr hentry, hvalue⟩
  · rintro ⟨new, hget, hvalue⟩
    exact ⟨(name, new), OrderedMap.get?_eq_some.mp hget, value, hvalue, rfl, rfl⟩

/-- The compiled environment is guarded exactly when the credential bindings that count refer to secrets. -/
theorem guarded_iff {spec digested : ExecutionContextSpec} {environment : ResolvedEnvironmentPlan}
    (hmode : spec.mode ≠ .user) (h : resolveContext digests spec inputs = .ok (digested, environment)) :
    Guarded environment ↔ CredentialsReferToSecrets spec := by
  obtain ⟨canonical, hcanonical, runtime, hruntime, base, hbase, compiled, hcompiled, -, henvironment, -, -⟩ :=
    resolveContext_eq_ok.mp h
  have hmode' : canonical.mode ≠ .user := by rwa [(canonicalizeSpec_keeps hcanonical).1]
  rw [(canonicalizeSpec_keeps hcanonical).2.1] at hcompiled
  have hloop := compiled_of_compileBindings hcompiled
  have hentry := mem_bindings_of_compiled (isRuntime_of_runtimeBindings hruntime hbase) hloop henvironment
  have hvariables : environment.environmentVariables = compiledVariables compiled := by rw [← henvironment]; rfl
  have haccepted {binding : EnvironmentBindingSpec} {new : CompiledBinding}
      (hfrom : CompiledFrom digests canonical inputs binding new) : Accepted binding :=
    validateBinding_guards hmode' hfrom.1
  have hclassOf {binding : EnvironmentBindingSpec} {new : CompiledBinding}
      (hfrom : CompiledFrom digests canonical inputs binding new) :
      new.metadata.bindingClass = binding.bindingClass ∧ new.metadata.origin = binding.origin := by
    obtain ⟨-, value, -, rfl⟩ := hfrom
    exact ⟨rfl, rfl⟩
  constructor
  · intro hguarded binding hbinding hclass hhighest
    have hdone : binding ∈ sortBindings digests spec.environment.bindings := mem_sortBindings.mpr hbinding
    obtain ⟨new, hnew⟩ := hloop.total binding hdone
    rcases hloop.entry _ _ hnew with ⟨-, hnone⟩ | ⟨other, hother, hname, hfrom, hmax⟩
    · exact absurd rfl (hnone binding hdone)
    · have horigin : other.origin = binding.origin :=
        le_antisymm (hhighest other (mem_sortBindings.mp hother) hname) (hmax binding hdone rfl)
      obtain rfl := hloop.eq_of_same hother hdone horigin hname
      obtain ⟨-, value, hvalue, hshape⟩ := id hfrom
      refine (value_of_resolveBindingValue hvalue).mp ?_
      cases value with
      | none => rfl
      | some value =>
          have hbound : new.metadata ∈ environment.bindings := by
            rw [← henvironment]
            exact List.mem_map_of_mem (List.mem_map_of_mem (OrderedMap.get?_eq_some.mp hnew))
          refine absurd ?_ (hguarded.withheld _ hbound (.inl ((hclassOf hfrom).1.trans hclass)) value)
          rw [hvariables, mem_environmentVariables, hshape]
          exact ⟨new, hnew, by rw [hshape]⟩
  · intro hsecrets
    refine ⟨?_, ?_, ?_⟩
    · rintro bound hbound hclass value hvalue
      obtain ⟨new, hget, rfl, hplain | ⟨binding, hbinding, hfrom, hmax⟩⟩ := hentry bound hbound
      · rw [hplain] at hclass
        rcases hclass with hclass | hclass | hclass <;> cases hclass
      · rw [(hclassOf hfrom).1] at hclass
        rcases hclass with hclass | hclass | hclass
        · have hsecret := hsecrets binding (mem_sortBindings.mp hbinding) hclass fun other hother =>
            hmax other (mem_sortBindings.mpr hother)
          rw [hvariables, mem_environmentVariables] at hvalue
          obtain ⟨new', hget', hvalue'⟩ := hvalue
          obtain rfl := Option.some.inj (hget.symm.trans hget')
          obtain ⟨-, value', hresolved, rfl⟩ := hfrom
          obtain rfl := (value_of_resolveBindingValue hresolved).mpr hsecret
          cases hvalue'
        · exact (haccepted hfrom).noInjection.1 hclass
        · exact (haccepted hfrom).noInjection.2 hclass
    · intro bound hbound hclass
      obtain ⟨new, -, rfl, hplain | ⟨binding, -, hfrom, -⟩⟩ := hentry bound hbound
      · rw [hplain] at hclass
        cases hclass
      · rw [(hclassOf hfrom).1] at hclass
        rw [(hclassOf hfrom).2]
        exact (haccepted hfrom).network hclass
    · intro bound hbound hclass
      obtain ⟨new, -, rfl, hplain | ⟨binding, -, hfrom, -⟩⟩ := hentry bound hbound
      · rw [hplain] at hclass
        cases hclass
      · rw [(hclassOf hfrom).1] at hclass
        rw [(hclassOf hfrom).2]
        exact (haccepted hfrom).handle hclass

/-- **Main result.** Outside user mode the environment of the host has no effect; and what is resolved withholds secrets
and injected code, and leaves network and authority to their owners, exactly when of the credential bindings for a name
the highest one refers to a secret. -/
theorem compileExecutionContext_guarded (digests : ContextDigests) (spec : ExecutionContextSpec)
    (inputs : ExecutionContextInputs) (hmode : spec.mode = .hermetic ∨ spec.mode = .project) :
    (∀ host, compileExecutionContext digests spec { inputs with hostEnvironment := host } =
      compileExecutionContext digests spec inputs) ∧
    ∀ context receipt, compileExecutionContext digests spec inputs = .ok (context, receipt) →
      (Guarded context.environment ↔ CredentialsReferToSecrets spec) := by
  have hmode' : spec.mode ≠ .user := by
    rcases hmode with hmode | hmode <;> rw [hmode] <;> decide
  refine ⟨compileExecutionContext_host hmode', fun context receipt h => ?_⟩
  unfold compileExecutionContext at h
  obtain ⟨⟨digested, environment⟩, hresolved, hcontext⟩ := map_eq_ok.mp h
  rw [← (Prod.mk.inj hcontext).1]
  exact guarded_iff hmode' hresolved

/-! ## A credential from an environment file -/

def sampleSandbox : SandboxProfile where
  enforcement := .native
  filesystem := [⟨"/work", .write⟩]
  network := .offline
  environment := ⟨true, []⟩
  macosMachServices := []
  process := ⟨false, false, []⟩
  resources := ⟨none, none, none⟩
  lifetime := .oneOperation

def sampleContext (bindings : List EnvironmentBindingSpec) : ExecutionContextSpec where
  schemaVersion := 1
  contextId := "build"
  contextRevision := 1
  mode := .hermetic
  workspace := ⟨"/work", "/work", "/work/home", "/work/tmp"⟩
  runtime := ⟨["/bin"], "C", "UTC", "dumb"⟩
  shell := none
  environment := ⟨bindings, .deny⟩
  credentials := []
  sandbox := some sampleSandbox

def tokenBinding (source : EnvironmentSource) : EnvironmentBindingSpec :=
  ⟨"API_TOKEN", source, .credential, .invocation, .process, .launch, .deny⟩

def sampleInputs : ExecutionContextInputs := ⟨false, [], [("/work/.env", utf8 "API_TOKEN=abc".toList)]⟩

def sourceText : EnvironmentSource → String
  | .literal value => value
  | .hostVariable name => name
  | .envFileKey path _ _ => path
  | .secretReference reference => reference.secretId
  | .derived binding => derivedValue ⟨"root", "cwd", "home", "tmp"⟩ binding

/-- The digests are the text that tells the inputs apart. -/
def sampleContextDigests : ContextDigests where
  sourceSortKey := sourceText
  digestEnvironment := fun _ environmentVariables _ => String.join (environmentVariables.map Prod.snd)
  digestContext := fun spec digest =>
    String.join (spec.contextId :: digest :: spec.environment.bindings.map fun binding => sourceText binding.source)
  hexDigest := fun _ => ""

def secretContext : ExecutionContextSpec :=
  sampleContext [tokenBinding (.secretReference ⟨"vault", "api", none⟩)]

def fileContext : ExecutionContextSpec := sampleContext [tokenBinding (.envFileKey ".env" "API_TOKEN" none)]

theorem secretContext_guarded : ∃ context receipt,
    compileExecutionContext sampleContextDigests secretContext sampleInputs = .ok (context, receipt) ∧
      Guarded context.environment := by
  have hcompiles : (compileExecutionContext sampleContextDigests secretContext sampleInputs).map (fun _ => ()) = .ok () := by
    decide
  obtain ⟨⟨context, receipt⟩, hcompile, -⟩ := map_eq_ok.mp hcompiles
  refine ⟨context, receipt, hcompile, ?_⟩
  refine ((compileExecutionContext_guarded sampleContextDigests secretContext sampleInputs (.inl rfl)).2 context receipt hcompile).mpr ?_
  intro binding hbinding _ _
  exact ⟨_, congrArg EnvironmentBindingSpec.source (List.mem_singleton.mp hbinding)⟩

/-- The token that the file holds is among the variables, and its class is that of a credential. -/
theorem credential_from_file :
    ¬∀ (digests : ContextDigests) (spec : ExecutionContextSpec) (inputs : ExecutionContextInputs),
      spec.mode = .hermetic ∨ spec.mode = .project → ∀ context receipt,
        compileExecutionContext digests spec inputs = .ok (context, receipt) → Guarded context.environment := by
  intro hguarded
  have hcompiles : (compileExecutionContext sampleContextDigests fileContext sampleInputs).map (fun resolved =>
      decide (("API_TOKEN", "abc") ∈ resolved.1.environment.environmentVariables ∧
        ⟨"API_TOKEN", .credential, .invocation, .process, .launch, "env_file_key"⟩ ∈ resolved.1.environment.bindings)) =
      .ok true := by decide
  obtain ⟨⟨context, receipt⟩, hcompile, hmem⟩ := map_eq_ok.mp hcompiles
  obtain ⟨hvalue, hbound⟩ := of_decide_eq_true hmem
  exact (hguarded sampleContextDigests fileContext sampleInputs (.inl rfl) context receipt hcompile).withheld _ hbound (.inl rfl)
    _ hvalue

end HyperTerm.Core
