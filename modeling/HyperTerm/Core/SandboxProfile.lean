import HyperTerm.Lib.NormalPaths
import HyperTerm.Lib.OrderedMap
import HyperTerm.Lib.Result
import HyperTerm.Lib.SortedSets
import HyperTerm.Lib.Text
import HyperTerm.Protocol.Sandbox
import Mathlib.Data.String.Basic
import Mathlib.Order.Bounds.Defs

/-!
# Canonical sandbox profiles

A profile is brought into a canonical form before it is compiled or digested: its lists become sets in a fixed order,
and of two rules for one path the stricter one counts.

* `normalizeNames`, `normalizeAbsolutePath` : the names that an absolute path goes through, and the path of them;
* `mergeRules` : the rules by path; `canonicalizeSandboxProfile`, `sandboxProfileDigest` : the whole profile;
* `mergeRules_spec` : each path keeps the strictest access that some rule gives it;
* `canonicalizeSandboxProfile_canonical` : the canonical form is a fixed point, does not depend on how the lists are
  written, and has one rule for each path, ancestors first.
-/

namespace HyperTerm.Core
open HyperTerm.Protocol HyperTerm.Lib HyperTerm.Lib.Paths

inductive SandboxError where
  | inheritedEnvironmentNotCleared
  | invalidEnvironmentName (name : String)
  | invalidEnvironmentValue (name : String)
  | zeroResourceLimit
  | anyExecutableRequiresChildProcesses
  | relativePath (path : PathBuf)
  | parentTraversal (path : PathBuf)
  | invalidMacOsMachService (service : String)
  | emptyProxyUrl
  | invalidAllowedHost (host : String)
  deriving DecidableEq

/-! ## Paths -/

/-- `normalize_absolute_path`, as the names below the root; a `..` is refused. Paths compare by these names. -/
def normalizeNames (path : PathBuf) : Except SandboxError (List (List Char)) :=
  if isAbsolute path.toList = false then .error (.relativePath path)
  else okOr (pushComponents (fun _ => none) [] (components path.toList)) (.parentTraversal path)

def pathOf (names : List (List Char)) : PathBuf := String.ofList (render names)

def normalizeAbsolutePath (path : PathBuf) : Except SandboxError PathBuf := (normalizeNames path).map pathOf

/-! ## Rules -/

def accessRank : SandboxPathAccess → Nat
  | .read => 0
  | .write => 1
  | .deny => 2

theorem accessRank_injective : Function.Injective accessRank := by
  intro left right h
  cases left <;> cases right <;> first | rfl | cases h

/-- `Deny` over `Write` over `Read`. -/
instance : LinearOrder SandboxPathAccess := LinearOrder.lift' accessRank accessRank_injective

def stricterAccess (left right : SandboxPathAccess) : SandboxPathAccess :=
  match left, right with
  | .deny, _ | _, .deny => .deny
  | .write, _ | _, .write => .write
  | _, _ => .read

theorem stricterAccess_eq_max (left right : SandboxPathAccess) : stricterAccess left right = max left right := by
  cases left <;> cases right <;> decide

/-- The loop over the rules, with `entry`, `and_modify` and `or_insert`. -/
def mergeRules (rules : OrderedMap (List (List Char)) SandboxPathAccess) :
    List SandboxPathRule → Except SandboxError (OrderedMap (List (List Char)) SandboxPathAccess)
  | [] => .ok rules
  | rule :: rest => do
      let path ← normalizeNames rule.path
      let access := match rules.get? path with
        | some existing => stricterAccess existing rule.access
        | none => rule.access
      mergeRules (rules.insert path access) rest

def writeRules (rules : OrderedMap (List (List Char)) SandboxPathAccess) : List SandboxPathRule :=
  rules.entries.map fun entry => ⟨pathOf entry.1, entry.2⟩

/-! ## The whole profile -/

def checkEnvironment : StringMap → Except SandboxError Unit
  | [] => .ok ()
  | (name, value) :: rest =>
      if name = "" ∨ '=' ∈ name.toList ∨ '\x00' ∈ name.toList then .error (.invalidEnvironmentName name)
      else if '\x00' ∈ value.toList then .error (.invalidEnvironmentValue name)
      else checkEnvironment rest

def checkServices : List String → Except SandboxError Unit
  | [] => .ok ()
  | service :: rest =>
      if service = "" ∨ 128 < service.utf8ByteSize ∨
          !(service.toList.all fun c => c.isAlphanum || c == '.' || c == '-' || c == '_') then
        .error (.invalidMacOsMachService service)
      else checkServices rest

def canonicalHost (host : String) : Except SandboxError String :=
  let host := String.ofList ((trim host.toList).map Char.toLower)
  if host = "" ∨ '/' ∈ host.toList ∨ '\x00' ∈ host.toList then .error (.invalidAllowedHost host) else .ok host

def canonicalNetwork : SandboxNetworkPolicy → Except SandboxError SandboxNetworkPolicy
  | .offline => .ok .offline
  | .proxyOnly proxyUrl allowedHosts allowedUnixSockets =>
      if trim proxyUrl.toList = [] then .error .emptyProxyUrl
      else do
        let hosts ← allowedHosts.mapM canonicalHost
        let sockets ← allowedUnixSockets.mapM normalizeNames
        return .proxyOnly proxyUrl (sortDedup hosts) ((sortDedup sockets).map pathOf)

def canonicalizeSandboxProfile (profile : SandboxProfile) : Except SandboxError SandboxProfile :=
  if profile.environment.clearInherited = false then .error .inheritedEnvironmentNotCleared
  else do
    checkEnvironment profile.environment.environmentVariables
    if profile.resources.wallTimeMs = some 0 ∨ profile.resources.maxProcesses = some 0 ∨
        profile.resources.maxOutputBytes = some 0 then
      .error .zeroResourceLimit
    else if profile.process.allowAnyExecutable ∧ !profile.process.allowChildProcesses then
      .error .anyExecutableRequiresChildProcesses
    else do
      let rules ← mergeRules OrderedMap.empty profile.filesystem
      let executables ← profile.process.allowedExecutables.mapM normalizeNames
      checkServices profile.macosMachServices
      let network ← canonicalNetwork profile.network
      return { profile with
        filesystem := writeRules rules
        process := { profile.process with allowedExecutables := (sortDedup executables).map pathOf }
        macosMachServices := sortDedup profile.macosMachServices
        network := network }

/-- `sha256Json` is SHA-256 of the JSON text, in hexadecimal. -/
def sandboxProfileDigest (sha256Json : SandboxProfile → String) (profile : SandboxProfile) : Except SandboxError String :=
  (canonicalizeSandboxProfile profile).map sha256Json

/-! ## Normal forms -/

theorem normalizeNames_isName {path : PathBuf} {names : List (List Char)} (h : normalizeNames path = .ok names) :
    ∀ name ∈ names, IsName name := by
  unfold normalizeNames at h
  split at h
  · cases h
  · exact pushComponents_isName (fun _ _ hpop => by cases hpop) (List.forall_mem_nil _)
      (fun name hname => isName_of_mem_components hname) (okOr_eq_ok.mp h)

theorem toList_pathOf (names : List (List Char)) : (pathOf names).toList = render names := String.toList_ofList

theorem normalizeNames_pathOf {names : List (List Char)} (h : ∀ name ∈ names, IsName name) :
    normalizeNames (pathOf names) = .ok names := by
  unfold normalizeNames
  rw [toList_pathOf, isAbsolute_render, if_neg (by decide), pushComponents_render h]
  rfl

theorem pathOf_injective {names names' : List (List Char)} (h : ∀ name ∈ names, IsName name)
    (h' : ∀ name ∈ names', IsName name) (heq : pathOf names = pathOf names') : names = names' := by
  have hnormal := normalizeNames_pathOf h
  rw [heq, normalizeNames_pathOf h'] at hnormal
  exact (Except.ok.inj hnormal).symm

/-- Only `.` pieces and separators tell the two paths apart, so they have one normal form. -/
theorem normalizeNames_eq_ok_congr {path path' : PathBuf} (h : SameForm path.toList path'.toList)
    (names : List (List Char)) : normalizeNames path = .ok names ↔ normalizeNames path' = .ok names := by
  obtain ⟨habs, hcomponents⟩ := h.absolute_and_components
  unfold normalizeNames
  rw [habs, hcomponents]
  split
  · exact ⟨fun h => (nomatch h), fun h => (nomatch h)⟩
  · rw [okOr_eq_ok, okOr_eq_ok]

/-! ## The strictest rule for a path -/

/-- Some rule gives the path the access. -/
def GivesAccess (rules : List SandboxPathRule) (names : List (List Char)) (access : SandboxPathAccess) : Prop :=
  ∃ rule ∈ rules, normalizeNames rule.path = .ok names ∧ rule.access = access

variable {rules rules' : List SandboxPathRule} {merged merged' : OrderedMap (List (List Char)) SandboxPathAccess}

/-- The greatest of two elements and others, with the two replaced by the greater of them. -/
theorem isGreatest_max {α : Type} [LinearOrder α] {b c a : α} {others : Set α} :
    IsGreatest {x | x = max b c ∨ x ∈ others} a ↔ IsGreatest {x | x = b ∨ x = c ∨ x ∈ others} a := by
  constructor
  · rintro ⟨hmem, hupper⟩
    have hmax : max b c ≤ a := hupper (.inl rfl)
    refine ⟨?_, ?_⟩
    · rcases hmem with rfl | hmem
      · rcases max_choice b c with h | h
        · exact .inl h
        · exact .inr (.inl h)
      · exact .inr (.inr hmem)
    · rintro x (rfl | rfl | hx)
      · exact (le_max_left _ _).trans hmax
      · exact (le_max_right _ _).trans hmax
      · exact hupper (.inr hx)
  · rintro ⟨hmem, hupper⟩
    have hmax : max b c ≤ a := max_le (hupper (.inl rfl)) (hupper (.inr (.inl rfl)))
    refine ⟨?_, ?_⟩
    · rcases hmem with rfl | rfl | hmem
      · exact .inl (le_antisymm (le_max_left _ _) hmax)
      · exact .inl (le_antisymm (le_max_right _ _) hmax)
      · exact .inr hmem
    · rintro x (rfl | hx)
      · exact hmax
      · exact hupper (.inr (.inr hx))

/-- What the loop leaves at a path is the strictest access that was there or that a rule gives. -/
theorem mergeRules_spec (h : mergeRules merged rules = .ok merged') (names : List (List Char))
    (access : SandboxPathAccess) :
    merged'.get? names = some access ↔
      IsGreatest {a | merged.get? names = some a ∨ GivesAccess rules names a} access := by
  induction rules generalizing merged with
  | nil =>
      obtain rfl := Except.ok.inj h
      constructor
      · intro hget
        refine ⟨.inl hget, ?_⟩
        rintro a (ha | ⟨rule, hrule, -⟩)
        · rw [ha] at hget
          exact (Option.some.inj hget).le
        · cases hrule
      · rintro ⟨hmem | ⟨rule, hrule, -⟩, -⟩
        · exact hmem
        · cases hrule
  | cons rule rules ih =>
      unfold mergeRules at h
      rw [bind_eq_ok] at h
      obtain ⟨path, hpath, h⟩ := h
      rw [ih h]
      have hrule (a : SandboxPathAccess) : GivesAccess (rule :: rules) names a ↔
          (path = names ∧ rule.access = a) ∨ GivesAccess rules names a := by
        unfold GivesAccess
        rw [List.exists_mem_cons_iff, hpath, Except.ok.injEq]
      simp only [hrule, OrderedMap.get?_insert]
      by_cases hnames : names = path
      · subst hnames
        cases hexisting : merged.get? names with
        | none =>
            simp only [if_true, Option.some.injEq, reduceCtorEq, false_or, true_and]
        | some existing =>
            simp only [if_true, Option.some.injEq, true_and, stricterAccess_eq_max]
            have hgreatest := @isGreatest_max _ _ existing rule.access access {a | GivesAccess rules names a}
            simp only [Set.mem_setOf_eq, eq_comm (a := existing), eq_comm (a := rule.access)] at hgreatest ⊢
            simpa only [eq_comm] using hgreatest
      · simp only [if_neg hnames, Ne.symm hnames, false_and, false_or]

theorem mergeRules_isOk (h : ∀ rule ∈ rules, ∃ names, normalizeNames rule.path = .ok names)
    (merged : OrderedMap (List (List Char)) SandboxPathAccess) : ∃ merged', mergeRules merged rules = .ok merged' := by
  induction rules generalizing merged with
  | nil => exact ⟨merged, rfl⟩
  | cons rule rules ih =>
      obtain ⟨⟨names, hnames⟩, hrest⟩ := List.forall_mem_cons.mp h
      unfold mergeRules
      rw [hnames]
      exact ih hrest _

theorem normalizeNames_of_mergeRules (h : mergeRules merged rules = .ok merged') :
    ∀ rule ∈ rules, ∃ names, normalizeNames rule.path = .ok names := by
  induction rules generalizing merged with
  | nil => exact List.forall_mem_nil _
  | cons rule rules ih =>
      unfold mergeRules at h
      rw [bind_eq_ok] at h
      obtain ⟨path, hpath, h⟩ := h
      exact List.forall_mem_cons.mpr ⟨⟨path, hpath⟩, ih h⟩

/-- The merged rules depend on what the rules give to whom, and on nothing else. -/
theorem mergeRules_congr (h : mergeRules OrderedMap.empty rules = .ok merged)
    (htotal : ∀ rule ∈ rules', ∃ names, normalizeNames rule.path = .ok names)
    (hgives : ∀ names access, GivesAccess rules names access ↔ GivesAccess rules' names access) :
    mergeRules OrderedMap.empty rules' = .ok merged := by
  obtain ⟨merged', h'⟩ := mergeRules_isOk htotal OrderedMap.empty
  rw [h']
  refine congrArg Except.ok (OrderedMap.ext_get? fun names => Option.ext fun access => ?_)
  rw [mergeRules_spec h', mergeRules_spec h]
  simp only [hgives]

theorem isName_of_mergeRules (h : mergeRules OrderedMap.empty rules = .ok merged) :
    ∀ entry ∈ merged.entries, ∀ name ∈ entry.1, IsName name := by
  intro entry hentry
  have hgreatest := (mergeRules_spec h entry.1 entry.2).mp (OrderedMap.get?_eq_some.mpr hentry)
  rcases hgreatest.1 with hget | ⟨rule, -, hnames, -⟩
  · cases hget
  · exact normalizeNames_isName hnames

theorem givesAccess_writeRules (hnames : ∀ entry ∈ merged.entries, ∀ name ∈ entry.1, IsName name)
    (names : List (List Char)) (access : SandboxPathAccess) :
    GivesAccess (writeRules merged) names access ↔ merged.get? names = some access := by
  rw [OrderedMap.get?_eq_some]
  constructor
  · rintro ⟨rule, hrule, hnormal, rfl⟩
    obtain ⟨entry, hentry, rfl⟩ := List.mem_map.mp hrule
    rw [normalizeNames_pathOf (hnames entry hentry)] at hnormal
    obtain rfl := Except.ok.inj hnormal
    exact hentry
  · intro hmem
    exact ⟨_, List.mem_map_of_mem hmem, normalizeNames_pathOf (hnames _ hmem), rfl⟩

/-- Merged rules are merged into themselves. -/
theorem mergeRules_writeRules (h : mergeRules OrderedMap.empty rules = .ok merged) :
    mergeRules OrderedMap.empty (writeRules merged) = .ok merged := by
  have hnames := isName_of_mergeRules h
  have htotal (rule : SandboxPathRule) (hrule : rule ∈ writeRules merged) :
      ∃ names, normalizeNames rule.path = .ok names := by
    obtain ⟨entry, hentry, rfl⟩ := List.mem_map.mp hrule
    exact ⟨entry.1, normalizeNames_pathOf (hnames entry hentry)⟩
  obtain ⟨merged', h'⟩ := mergeRules_isOk htotal OrderedMap.empty
  rw [h']
  refine congrArg Except.ok (OrderedMap.ext_get? fun names => Option.ext fun access => ?_)
  rw [mergeRules_spec h']
  simp only [givesAccess_writeRules hnames]
  constructor
  · rintro ⟨hget | hget, -⟩
    · cases hget
    · exact hget
  · intro hget
    refine ⟨.inr hget, ?_⟩
    rintro a (ha | ha)
    · cases ha
    · rw [hget] at ha
      exact (Option.some.inj ha).ge

/-- Two ways to write the same rule. -/
def SameRule (R : PathBuf → PathBuf → Prop) (rule rule' : SandboxPathRule) : Prop :=
  R rule.path rule'.path ∧ rule.access = rule'.access

/-- `R` relates paths with one normal form. -/
def KeepsNames (R : PathBuf → PathBuf → Prop) : Prop :=
  ∀ path path', R path path' → ∀ names, normalizeNames path = .ok names ↔ normalizeNames path' = .ok names

theorem mergeRules_covers {R : PathBuf → PathBuf → Prop} (hR : KeepsNames R) (hcovers : Covers (SameRule R) rules rules')
    (h : mergeRules OrderedMap.empty rules = .ok merged) : mergeRules OrderedMap.empty rules' = .ok merged := by
  refine mergeRules_congr h ?_ ?_
  · intro rule' hrule'
    obtain ⟨rule, hrule, hsame, -⟩ := hcovers.2 rule' hrule'
    obtain ⟨names, hnames⟩ := normalizeNames_of_mergeRules h rule hrule
    exact ⟨names, (hR _ _ hsame names).mp hnames⟩
  · intro names access
    constructor
    · rintro ⟨rule, hrule, hnames, haccess⟩
      obtain ⟨rule', hrule', hsame, heq⟩ := hcovers.1 rule hrule
      exact ⟨rule', hrule', (hR _ _ hsame names).mp hnames, heq.symm.trans haccess⟩
    · rintro ⟨rule', hrule', hnames, haccess⟩
      obtain ⟨rule, hrule, hsame, heq⟩ := hcovers.2 rule' hrule'
      exact ⟨rule, hrule, (hR _ _ hsame names).mpr hnames, heq.trans haccess⟩

/-! ## Lists of paths, services and hosts -/

/-- A set of paths that was normalized is normalized to itself. -/
theorem normalize_sortDedup {paths : List PathBuf} {names : List (List (List Char))}
    (h : paths.mapM normalizeNames = .ok names) :
    ((sortDedup names).map pathOf).mapM normalizeNames = .ok (sortDedup names) := by
  refine mapM_map_eq_ok fun path hpath => normalizeNames_pathOf ?_
  obtain ⟨text, -, htext⟩ := ((mem_of_mapM_eq_ok h).1 path).mp (mem_sortDedup.mp hpath)
  exact normalizeNames_isName htext

theorem sortDedup_sortDedup {α : Type} [LinearOrder α] (l : List α) : sortDedup (sortDedup l) = sortDedup l :=
  sortDedup_eq_self (pairwise_sortDedup l)

/-- Elements that give the same values give the same set of them, in whatever order they come. -/
theorem sortDedup_mapM_covers {ε α β : Type} [LinearOrder β] {f : α → Except ε β} {R : α → α → Prop} {l l' : List α}
    {values : List β} (hR : ∀ a a', R a a' → ∀ b, f a = .ok b ↔ f a' = .ok b) (hcovers : Covers R l l')
    (h : l.mapM f = .ok values) : ∃ values', l'.mapM f = .ok values' ∧ sortDedup values' = sortDedup values := by
  obtain ⟨hvalues, htotal⟩ := mem_of_mapM_eq_ok h
  have htotal' (a' : α) (ha' : a' ∈ l') : ∃ b, f a' = .ok b := by
    obtain ⟨a, ha, hsame⟩ := hcovers.2 a' ha'
    obtain ⟨b, hb⟩ := htotal a ha
    exact ⟨b, (hR a a' hsame b).mp hb⟩
  obtain ⟨values', h'⟩ := exists_mapM_eq_ok htotal'
  refine ⟨values', h', sortDedup_congr fun b => ?_⟩
  rw [(mem_of_mapM_eq_ok h').1, hvalues]
  constructor
  · rintro ⟨a', ha', hb⟩
    obtain ⟨a, ha, hsame⟩ := hcovers.2 a' ha'
    exact ⟨a, ha, (hR a a' hsame b).mpr hb⟩
  · rintro ⟨a, ha, hb⟩
    obtain ⟨a', ha', hsame⟩ := hcovers.1 a ha
    exact ⟨a', ha', (hR a a' hsame b).mp hb⟩

theorem checkServices_eq_ok {services : List String} :
    checkServices services = .ok () ↔ ∀ service ∈ services, checkServices [service] = .ok () := by
  induction services with
  | nil => simp [checkServices]
  | cons service services ih =>
      rw [List.forall_mem_cons, ← ih]
      show (if _ then _ else _) = _ ↔ (if _ then _ else _) = _ ∧ _
      split
      · exact ⟨fun h => (nomatch h), fun h => (nomatch h.1)⟩
      · exact ⟨fun h => ⟨rfl, h⟩, fun h => h.2⟩

theorem checkServices_congr {services services' : List String} (hmem : ∀ service, service ∈ services ↔ service ∈ services')
    (h : checkServices services = .ok ()) : checkServices services' = .ok () :=
  checkServices_eq_ok.mpr fun service hservice => checkServices_eq_ok.mp h service ((hmem service).mpr hservice)

/-! ## Hosts and the network -/

theorem canonicalHost_eq_ok {host host' : String} :
    canonicalHost host = .ok host' ↔ String.ofList ((trim host.toList).map Char.toLower) = host' ∧
      ¬(host' = "" ∨ '/' ∈ host'.toList ∨ '\x00' ∈ host'.toList) := by
  unfold canonicalHost
  dsimp only
  split
  · rename_i hbad
    constructor
    · intro h
      cases h
    · rintro ⟨rfl, hgood⟩
      exact absurd hbad hgood
  · rename_i hgood
    constructor
    · intro h
      obtain rfl := Except.ok.inj h
      exact ⟨rfl, hgood⟩
    · rintro ⟨rfl, -⟩
      rfl

theorem canonicalHost_canonicalHost {host host' : String} (h : canonicalHost host = .ok host') :
    canonicalHost host' = .ok host' := by
  rw [canonicalHost_eq_ok] at h ⊢
  refine ⟨?_, h.2⟩
  have hlower (c : Char) : (Char.toLower ∘ Char.toLower) c = Char.toLower c := toLower_toLower c
  rw [← h.1, String.toList_ofList, trim_map_toLower, trim_trim, List.map_map, funext hlower]

variable {network network' : SandboxNetworkPolicy}

theorem canonicalNetwork_proxyOnly {proxyUrl : String} {hosts : List String} {sockets : List PathBuf} :
    canonicalNetwork (.proxyOnly proxyUrl hosts sockets) = .ok network ↔
      trim proxyUrl.toList ≠ [] ∧ ∃ hosts', hosts.mapM canonicalHost = .ok hosts' ∧
        ∃ sockets', sockets.mapM normalizeNames = .ok sockets' ∧
          SandboxNetworkPolicy.proxyOnly proxyUrl (sortDedup hosts') ((sortDedup sockets').map pathOf) = network := by
  show (if _ then _ else _) = _ ↔ _
  split
  · rename_i hempty
    constructor
    · intro h
      cases h
    · intro h
      exact absurd hempty h.1
  · rename_i hne
    simp only [bind_eq_ok, pure_eq_ok, ne_eq, hne, not_false_eq_true, true_and]

theorem canonicalNetwork_canonicalNetwork (h : canonicalNetwork network = .ok network') :
    canonicalNetwork network' = .ok network' := by
  cases network with
  | offline =>
      obtain rfl := Except.ok.inj h
      rfl
  | proxyOnly proxyUrl hosts sockets =>
      obtain ⟨hurl, hosts', hhosts, sockets', hsockets, rfl⟩ := canonicalNetwork_proxyOnly.mp h
      have hhosts' : (sortDedup hosts').mapM canonicalHost = .ok (sortDedup hosts') := by
        rw [mapM_eq_ok]
        refine List.forall₂_same.mpr fun host' hhost' => ?_
        obtain ⟨host, -, hhost⟩ := ((mem_of_mapM_eq_ok hhosts).1 host').mp (mem_sortDedup.mp hhost')
        exact canonicalHost_canonicalHost hhost
      refine canonicalNetwork_proxyOnly.mpr ⟨hurl, _, hhosts', _, normalize_sortDedup hsockets, ?_⟩
      rw [sortDedup_sortDedup, sortDedup_sortDedup]

/-- The same policy, with its hosts and sockets in another order, repeated, or with the sockets written in another
way. -/
inductive SameNetwork (R : PathBuf → PathBuf → Prop) : SandboxNetworkPolicy → SandboxNetworkPolicy → Prop
  | offline : SameNetwork R .offline .offline
  | proxyOnly (proxyUrl : String) {hosts hosts' : List String} {sockets sockets' : List PathBuf}
      (hhosts : Covers (· = ·) hosts hosts') (hsockets : Covers R sockets sockets') :
      SameNetwork R (.proxyOnly proxyUrl hosts sockets) (.proxyOnly proxyUrl hosts' sockets')

theorem SameNetwork.symm {R : PathBuf → PathBuf → Prop} (h : SameNetwork R network network')
    (hR : ∀ path path', R path path' → R path' path) : SameNetwork R network' network := by
  cases h with
  | offline => exact .offline
  | proxyOnly proxyUrl hhosts hsockets => exact .proxyOnly proxyUrl (hhosts.symm fun _ _ => Eq.symm) (hsockets.symm hR)

theorem SameNetwork.canonicalNetwork_eq {R : PathBuf → PathBuf → Prop} (hR : KeepsNames R) {canonical : SandboxNetworkPolicy}
    (hsame : SameNetwork R network network') (h : canonicalNetwork network = .ok canonical) :
    canonicalNetwork network' = .ok canonical := by
  cases hsame with
  | offline => exact h
  | proxyOnly proxyUrl hhosts hsockets =>
      obtain ⟨hurl, hosts, hhosts', sockets, hsockets', rfl⟩ := canonicalNetwork_proxyOnly.mp h
      obtain ⟨_, hmapped, hsorted⟩ := sortDedup_mapM_covers (fun _ _ heq _ => by rw [heq]) hhosts hhosts'
      obtain ⟨_, hmapped', hsorted'⟩ := sortDedup_mapM_covers hR hsockets hsockets'
      exact canonicalNetwork_proxyOnly.mpr ⟨hurl, _, hmapped, _, hmapped', by rw [hsorted, hsorted']⟩

/-! ## The canonical profile -/

variable {profile profile' canonical : SandboxProfile}

/-- What a profile that is accepted satisfies apart from its lists. -/
def Admissible (profile : SandboxProfile) : Prop :=
  profile.environment.clearInherited = true ∧ checkEnvironment profile.environment.environmentVariables = .ok () ∧
    ¬(profile.resources.wallTimeMs = some 0 ∨ profile.resources.maxProcesses = some 0 ∨
      profile.resources.maxOutputBytes = some 0) ∧
    ¬(profile.process.allowAnyExecutable = true ∧ (!profile.process.allowChildProcesses) = true)

theorem canonicalizeSandboxProfile_eq_ok :
    canonicalizeSandboxProfile profile = .ok canonical ↔
      Admissible profile ∧ ∃ merged, mergeRules OrderedMap.empty profile.filesystem = .ok merged ∧
        ∃ executables, profile.process.allowedExecutables.mapM normalizeNames = .ok executables ∧
          checkServices profile.macosMachServices = .ok () ∧
          ∃ network, canonicalNetwork profile.network = .ok network ∧
            { profile with
              filesystem := writeRules merged
              process := { profile.process with allowedExecutables := (sortDedup executables).map pathOf }
              macosMachServices := sortDedup profile.macosMachServices
              network := network } = canonical := by
  unfold canonicalizeSandboxProfile Admissible
  simp only [ite_error_eq_ok, bind_eq_ok, pure_eq_ok, Bool.not_eq_false]
  constructor
  · rintro ⟨hclear, ⟨⟩, henvironment, hzero, hchildren, merged, hmerged, executables, hexecutables, ⟨⟩, hservices, network,
      hnetwork, hcanonical⟩
    exact ⟨⟨hclear, henvironment, hzero, hchildren⟩, merged, hmerged, executables, hexecutables, hservices, network,
      hnetwork, hcanonical⟩
  · rintro ⟨⟨hclear, henvironment, hzero, hchildren⟩, merged, hmerged, executables, hexecutables, hservices, network,
      hnetwork, hcanonical⟩
    exact ⟨hclear, (), henvironment, hzero, hchildren, merged, hmerged, executables, hexecutables, (), hservices, network,
      hnetwork, hcanonical⟩

/-- A canonical profile is its own canonical form. -/
theorem canonicalizeSandboxProfile_canonicalize (h : canonicalizeSandboxProfile profile = .ok canonical) :
    canonicalizeSandboxProfile canonical = .ok canonical := by
  obtain ⟨hadmissible, merged, hmerged, executables, hexecutables, hservices, network, hnetwork, rfl⟩ :=
    canonicalizeSandboxProfile_eq_ok.mp h
  have hservices' : checkServices (sortDedup profile.macosMachServices) = .ok () :=
    checkServices_congr (fun _ => mem_sortDedup.symm) hservices
  refine canonicalizeSandboxProfile_eq_ok.mpr ⟨hadmissible, _, mergeRules_writeRules hmerged, _,
    normalize_sortDedup hexecutables, hservices', _, canonicalNetwork_canonicalNetwork hnetwork, ?_⟩
  dsimp only
  rw [sortDedup_sortDedup, sortDedup_sortDedup]

/-- The same profile with its lists in another order, elements repeated, or its paths written in another way. -/
structure SameProfile (R : PathBuf → PathBuf → Prop) (profile profile' : SandboxProfile) : Prop where
  enforcement : profile'.enforcement = profile.enforcement
  filesystem : Covers (SameRule R) profile.filesystem profile'.filesystem
  network : SameNetwork R profile.network profile'.network
  environment : profile'.environment = profile.environment
  services : Covers (· = ·) profile.macosMachServices profile'.macosMachServices
  children : profile'.process.allowChildProcesses = profile.process.allowChildProcesses
  anyExecutable : profile'.process.allowAnyExecutable = profile.process.allowAnyExecutable
  executables : Covers R profile.process.allowedExecutables profile'.process.allowedExecutables
  resources : profile'.resources = profile.resources
  lifetime : profile'.lifetime = profile.lifetime

/-- Nothing but the order of the lists, and how often their elements are in them, tells the profiles apart. -/
def Rearranged : SandboxProfile → SandboxProfile → Prop := SameProfile (· = ·)

theorem SameProfile.symm {R : PathBuf → PathBuf → Prop} (h : SameProfile R profile profile')
    (hR : ∀ path path', R path path' → R path' path) : SameProfile R profile' profile where
  enforcement := h.enforcement.symm
  filesystem := h.filesystem.symm fun _ _ hrule => ⟨hR _ _ hrule.1, hrule.2.symm⟩
  network := h.network.symm hR
  environment := h.environment.symm
  services := h.services.symm fun _ _ => Eq.symm
  children := h.children.symm
  anyExecutable := h.anyExecutable.symm
  executables := h.executables.symm hR
  resources := h.resources.symm
  lifetime := h.lifetime.symm

theorem SameProfile.canonicalize {R : PathBuf → PathBuf → Prop} (hR : KeepsNames R) (hsame : SameProfile R profile profile')
    (h : canonicalizeSandboxProfile profile = .ok canonical) : canonicalizeSandboxProfile profile' = .ok canonical := by
  obtain ⟨⟨hclear, henvironment, hzero, hchildren⟩, merged, hmerged, executables, hexecutables, hservices, network,
    hnetwork, rfl⟩ := canonicalizeSandboxProfile_eq_ok.mp h
  have hadmissible : Admissible profile' := by
    unfold Admissible
    rw [hsame.environment, hsame.resources, hsame.anyExecutable, hsame.children]
    exact ⟨hclear, henvironment, hzero, hchildren⟩
  obtain ⟨executables', hexecutables', hsorted⟩ := sortDedup_mapM_covers hR hsame.executables hexecutables
  refine canonicalizeSandboxProfile_eq_ok.mpr ⟨hadmissible, merged, mergeRules_covers hR hsame.filesystem hmerged,
    executables', hexecutables', checkServices_congr hsame.services.mem_iff hservices, network,
    hsame.network.canonicalNetwork_eq hR hnetwork, ?_⟩
  dsimp only
  rw [hsorted, sortDedup_congr fun service => (hsame.services.mem_iff service).symm, hsame.enforcement, hsame.environment,
    hsame.children, hsame.anyExecutable, hsame.resources, hsame.lifetime]

/-! ## The canonical rules -/

/-- The path is a proper ancestor of the other. -/
def IsAncestor (path path' : PathBuf) : Prop :=
  ∃ names names', normalizeNames path = .ok names ∧ normalizeNames path' = .ok names' ∧ names <+: names' ∧ names ≠ names'

/-- The canonical rules of a list of rules. -/
structure CanonicalRules (rules canonical : List SandboxPathRule) : Prop where
  once : (canonical.map (·.path)).Nodup
  complete : ∀ rule ∈ rules, ∃ names, normalizeNames rule.path = .ok names ∧ pathOf names ∈ canonical.map (·.path)
  strictest : ∀ rule ∈ canonical, ∃ names, rule.path = pathOf names ∧ IsGreatest {a | GivesAccess rules names a} rule.access
  ancestorsFirst : canonical.Pairwise fun earlier later => ¬IsAncestor later.path earlier.path

theorem exists_isGreatest {accesses : Set SandboxPathAccess} (h : accesses.Nonempty) :
    ∃ access, IsGreatest accesses access := by
  by_cases hdeny : .deny ∈ accesses
  · exact ⟨.deny, hdeny, fun access _ => by cases access <;> decide⟩
  · by_cases hwrite : .write ∈ accesses
    · refine ⟨.write, hwrite, fun access haccess => ?_⟩
      cases access with
      | deny => exact absurd haccess hdeny
      | _ => decide
    · obtain ⟨access, haccess⟩ := h
      cases access with
      | deny => exact absurd haccess hdeny
      | write => exact absurd haccess hwrite
      | read =>
          refine ⟨.read, haccess, fun access haccess => ?_⟩
          cases access with
          | deny => exact absurd haccess hdeny
          | write => exact absurd haccess hwrite
          | read => decide

theorem canonicalRules_writeRules (h : mergeRules OrderedMap.empty rules = .ok merged) :
    CanonicalRules rules (writeRules merged) := by
  have hnames := isName_of_mergeRules h
  have hget (names : List (List Char)) (access : SandboxPathAccess) :
      merged.get? names = some access ↔ IsGreatest {a | GivesAccess rules names a} access := by
    have hspec := mergeRules_spec h names access
    simpa [OrderedMap.empty, OrderedMap.get?] using hspec
  have hpaths : (writeRules merged).map (·.path) = merged.keys.map pathOf := by
    unfold writeRules OrderedMap.keys
    rw [List.map_map, List.map_map]
    rfl
  constructor
  · rw [hpaths]
    refine merged.nodup_keys.map_on fun names hmem names' hmem' heq => ?_
    obtain ⟨entry, hentry, rfl⟩ := List.mem_map.mp hmem
    obtain ⟨entry', hentry', rfl⟩ := List.mem_map.mp hmem'
    exact pathOf_injective (hnames entry hentry) (hnames entry' hentry') heq
  · intro rule hrule
    obtain ⟨names, hnormal⟩ := normalizeNames_of_mergeRules h rule hrule
    have hgiven : {a | GivesAccess rules names a}.Nonempty := ⟨rule.access, rule, hrule, hnormal, rfl⟩
    obtain ⟨access, haccess⟩ := exists_isGreatest hgiven
    rw [hpaths]
    exact ⟨names, hnormal, List.mem_map_of_mem (OrderedMap.mem_keys.mpr ⟨access, (hget names access).mpr haccess⟩)⟩
  · intro rule hrule
    obtain ⟨entry, hentry, rfl⟩ := List.mem_map.mp hrule
    exact ⟨entry.1, rfl, (hget _ _).mp (OrderedMap.get?_eq_some.mpr hentry)⟩
  · unfold writeRules
    rw [List.pairwise_map]
    refine (List.pairwise_map.mp merged.sorted).imp_of_mem fun {earlier later} hearlier hlater hlt => ?_
    rintro ⟨names, names', hlater', hearlier', hprefix, -⟩
    rw [normalizeNames_pathOf (hnames later hlater)] at hlater'
    rw [normalizeNames_pathOf (hnames earlier hearlier)] at hearlier'
    obtain rfl := Except.ok.inj hlater'
    obtain rfl := Except.ok.inj hearlier'
    exact absurd hlt hprefix.le

theorem keepsNames_eq : KeepsNames (· = ·) := by
  rintro path _ rfl names
  rfl

/-- **Main result.** A canonical profile is its own canonical form; profiles that differ in the order and the repetition
of their lists have one canonical form and one digest; and the canonical rules are the strictest ones, each path once
and ancestors first. -/
theorem canonicalizeSandboxProfile_canonical (sha256Json : SandboxProfile → String) :
    (∀ profile canonical, canonicalizeSandboxProfile profile = .ok canonical →
      canonicalizeSandboxProfile canonical = .ok canonical) ∧
    (∀ profile profile', Rearranged profile profile' →
      (∀ canonical, canonicalizeSandboxProfile profile = .ok canonical ↔ canonicalizeSandboxProfile profile' = .ok canonical) ∧
      ∀ digest, sandboxProfileDigest sha256Json profile = .ok digest ↔ sandboxProfileDigest sha256Json profile' = .ok digest) ∧
    ∀ profile canonical, canonicalizeSandboxProfile profile = .ok canonical →
      CanonicalRules profile.filesystem canonical.filesystem := by
  refine ⟨fun _ _ => canonicalizeSandboxProfile_canonicalize, ?_, ?_⟩
  · intro profile profile' hsame
    have hcanonical (canonical : SandboxProfile) :
        canonicalizeSandboxProfile profile = .ok canonical ↔ canonicalizeSandboxProfile profile' = .ok canonical :=
      ⟨hsame.canonicalize keepsNames_eq, (hsame.symm fun _ _ => Eq.symm).canonicalize keepsNames_eq⟩
    refine ⟨hcanonical, fun digest => ?_⟩
    unfold sandboxProfileDigest
    simp only [map_eq_ok, hcanonical]
  · intro profile canonical h
    obtain ⟨-, merged, hmerged, executables, -, -, network, -, rfl⟩ := canonicalizeSandboxProfile_eq_ok.mp h
    exact canonicalRules_writeRules hmerged

/-- A profile with the rules and no proxy. -/
def ruledProfile (rules : List SandboxPathRule) : SandboxProfile where
  enforcement := .native
  filesystem := rules
  network := .offline
  environment := ⟨true, []⟩
  macosMachServices := []
  process := ⟨false, false, []⟩
  resources := ⟨none, none, none⟩
  lifetime := .oneOperation

def sampleRules : List SandboxPathRule := [⟨"/work/lib", .deny⟩, ⟨"/work", .write⟩, ⟨"/work/./lib/", .read⟩]

theorem ruledProfile_canonical : canonicalizeSandboxProfile
    (ruledProfile [⟨"/work", .write⟩, ⟨"/work/lib", .deny⟩]) =
      .ok (ruledProfile [⟨"/work", .write⟩, ⟨"/work/lib", .deny⟩]) ∧
    CanonicalRules sampleRules [⟨"/work", .write⟩, ⟨"/work/lib", .deny⟩] := by
  have hcanonical : canonicalizeSandboxProfile (ruledProfile sampleRules) =
      .ok (ruledProfile [⟨"/work", .write⟩, ⟨"/work/lib", .deny⟩]) := by decide
  have hmain := canonicalizeSandboxProfile_canonical fun _ => ""
  exact ⟨hmain.1 _ _ hcanonical, hmain.2.2 _ _ hcanonical⟩

/-- The error names the first path that is not absolute, so it depends on the order. -/
theorem order_of_invalid_rules :
    ¬∀ profile profile', Rearranged profile profile' →
      canonicalizeSandboxProfile profile = canonicalizeSandboxProfile profile' := by
  intro hequal
  have hcovers : Covers (SameRule (· = ·)) [⟨"lib", .read⟩, ⟨"bin", .read⟩] [⟨"bin", .read⟩, ⟨"lib", .read⟩] := by
    unfold Covers SameRule
    decide
  have hsame : Rearranged (ruledProfile [⟨"lib", .read⟩, ⟨"bin", .read⟩]) (ruledProfile [⟨"bin", .read⟩, ⟨"lib", .read⟩]) :=
    ⟨rfl, hcovers, .offline, rfl, ⟨List.forall_mem_nil _, List.forall_mem_nil _⟩, rfl, rfl,
      ⟨List.forall_mem_nil _, List.forall_mem_nil _⟩, rfl, rfl⟩
  exact absurd (hequal _ _ hsame) (by decide)

end HyperTerm.Core
