import HyperTerm.Core.SandboxProfile
import HyperTerm.Lib.LastMatch
import HyperTerm.Lib.Text

/-!
# Sandbox profiles as Seatbelt policies

A profile is resolved against the file system and written as a policy, a list of rules of which Seatbelt applies the
last that matches.

* `resolveProfile`, `compilePolicy` : the profile with canonical paths, and the policy of a profile;
* `decision` : what a list of rules says about an operation on a path;
* `decision_filesystemRules` : for rules in the order of their paths this is the access of the last rule that covers it;
* `compilePolicy_decides` : and that is the most specific one.
-/

namespace HyperTerm.Sandbox
open HyperTerm.Core HyperTerm.Protocol HyperTerm.Lib HyperTerm.Lib.Paths

/-- `SandboxError`, with the variant of the backends. -/
inductive SeatbeltError where
  | profile (error : SandboxError)
  | backend (message : String)
  deriving DecidableEq

/-! ## Resolving a profile -/

/-- A path without `.` and `..`, as the names below the root. -/
abbrev CanonicalPath : Type := { names : List (List Char) // ∀ name ∈ names, IsName name }

/-- `fs::canonicalize` and `metadata().is_file()`, with the texts of their errors. -/
structure FileSystem where
  canonicalize : PathBuf → Except String CanonicalPath
  isFile : CanonicalPath → Except String Bool

variable (fs : FileSystem)

/-- The names of an absolute path. -/
def pathNames (path : PathBuf) : List (List Char) := (normalizeNames path).toOption.getD []

/-- The loop of `resolve_path_for_seatbelt`: the names of the ancestor, the last of them first, and those below it. -/
def resolveAncestor (path : PathBuf) : List (List Char) → List (List Char) → Except SeatbeltError (List (List Char))
  | [], _ => .error (.backend ("sandbox path " ++ path ++ " has no existing ancestor"))
  | name :: ancestor, suffix =>
      match fs.canonicalize (pathOf ancestor.reverse) with
      | .ok resolved => .ok (resolved.1 ++ name :: suffix)
      | .error _ => resolveAncestor path ancestor (name :: suffix)

/-- `resolve_path_for_seatbelt`. -/
def resolvePath (path : PathBuf) : Except SeatbeltError (List (List Char)) :=
  match fs.canonicalize path with
  | .ok resolved => .ok resolved.1
  | .error _ => resolveAncestor fs path (pathNames path).reverse []

/-- `resolve_existing_executable`. -/
def resolveExecutable (path : PathBuf) : Except SeatbeltError (List (List Char)) :=
  match fs.canonicalize path with
  | .error error => .error (.backend ("sandbox executable " ++ path ++ " is unavailable: " ++ error))
  | .ok resolved =>
      match fs.isFile resolved with
      | .error error =>
          .error (.backend ("cannot inspect sandbox executable " ++ pathOf resolved.1 ++ ": " ++ error))
      | .ok false => .error (.backend ("sandbox executable " ++ pathOf resolved.1 ++ " is not a regular file"))
      | .ok true => .ok resolved.1

/-- The loop over the rules, with `entry`, `and_modify` and `or_insert`. -/
def resolveRules (rules : OrderedMap (List (List Char)) SandboxPathAccess) :
    List SandboxPathRule → Except SeatbeltError (OrderedMap (List (List Char)) SandboxPathAccess)
  | [] => .ok rules
  | rule :: rest => do
      let path ← resolvePath fs rule.path
      let access := match rules.get? path with
        | some current => stricterAccess current rule.access
        | none => rule.access
      resolveRules (rules.insert path access) rest

def resolveNetwork : SandboxNetworkPolicy → Except SeatbeltError SandboxNetworkPolicy
  | .offline => .ok .offline
  | .proxyOnly proxyUrl allowedHosts allowedUnixSockets => do
      let sockets ← allowedUnixSockets.mapM (resolvePath fs)
      .ok (.proxyOnly proxyUrl allowedHosts ((sortDedup sockets).map pathOf))

/-- `resolve_profile_for_seatbelt`. -/
def resolveProfile (profile : SandboxProfile) : Except SeatbeltError SandboxProfile := do
  let profile ← (canonicalizeSandboxProfile profile).mapError .profile
  let rules ← resolveRules fs OrderedMap.empty profile.filesystem
  let executables ← profile.process.allowedExecutables.mapM (resolveExecutable fs)
  let network ← resolveNetwork fs profile.network
  .ok { profile with
    filesystem := writeRules rules
    process := { profile.process with allowedExecutables := (sortDedup executables).map pathOf }
    network := network }

/-! ## Rules of a policy -/

inductive Action where
  | allow
  | deny
  deriving DecidableEq

/-- The names of operations in the rules on paths. -/
inductive OperationPattern where
  | fileReadAny
  | fileReadMetadata
  | fileTestExistence
  | fileWriteAny
  deriving DecidableEq

inductive Filter where
  | literal (key : String)
  | subpath (key : String)
  | pathAncestors (key : String)
  | requireAny (first second : Filter)
  deriving DecidableEq

structure SeatbeltRule where
  action : Action
  operations : List OperationPattern
  filter : Filter
  deriving DecidableEq

def Action.text : Action → String
  | allow => "allow"
  | deny => "deny"

def OperationPattern.text : OperationPattern → String
  | fileReadAny => "file-read*"
  | fileReadMetadata => "file-read-metadata"
  | fileTestExistence => "file-test-existence"
  | fileWriteAny => "file-write*"

def paramText (key : String) : String := "(param \"" ++ key ++ "\")"

def Filter.text : Filter → String
  | literal key => "(literal " ++ paramText key ++ ")"
  | subpath key => "(subpath " ++ paramText key ++ ")"
  | pathAncestors key => "(path-ancestors " ++ paramText key ++ ")"
  | requireAny first second => "(require-any " ++ first.text ++ " " ++ second.text ++ ")"

def SeatbeltRule.text (rule : SeatbeltRule) : String :=
  "(" ++ rule.action.text ++ " " ++ " ".intercalate (rule.operations.map OperationPattern.text) ++ " " ++
    rule.filter.text ++ ")\n"

/-! ## Compiling a profile -/

/-- `PATH_0`, `PATH_1`, … -/
def pathKey (index : Nat) : String := "PATH_" ++ index.repr

/-- The rules that the loop over the filesystem rules writes for one of them. -/
def pathRules (key : String) (access : SandboxPathAccess) : List SeatbeltRule :=
  let filter := Filter.requireAny (.literal key) (.subpath key)
  ⟨.allow, [.fileReadMetadata, .fileTestExistence], .pathAncestors key⟩ ::
    match access with
    | .read => [⟨.allow, [.fileReadAny], filter⟩, ⟨.deny, [.fileWriteAny], filter⟩]
    | .write => [⟨.allow, [.fileReadAny, .fileWriteAny], filter⟩]
    | .deny => [⟨.deny, [.fileReadAny], filter⟩, ⟨.deny, [.fileWriteAny], filter⟩]

def filesystemRules (index : Nat) : List SandboxPathRule → List SeatbeltRule
  | [] => []
  | rule :: rules => pathRules (pathKey index) rule.access ++ filesystemRules (index + 1) rules

/-- The definitions that a loop makes, with the keys in the order of the paths. -/
def definePaths (key : Nat → String) (definitions : OrderedMap String PathBuf) (index : Nat) :
    List PathBuf → OrderedMap String PathBuf
  | [] => definitions
  | path :: paths => definePaths key (definitions.insert (key index) path) (index + 1) paths

def executableKey (index : Nat) : String := "EXECUTABLE_" ++ index.repr

def socketKey (index : Nat) : String := "UNIX_SOCKET_" ++ index.repr

/-- The port of an endpoint on the loopback address. -/
def proxyLoopbackPort : SandboxNetworkPolicy → Except SeatbeltError (Option Nat)
  | .offline => .ok none
  | .proxyOnly proxyUrl _ _ => do
      let authority ← okOr (proxyUrl.toList.dropPrefix? "http://".toList)
        (.backend "Seatbelt proxy-only networking requires an HTTP loopback endpoint")
      let authority := if authority.getLast? = some '/' then authority.dropLast else authority
      if authority = [] ∨ (authority.any fun c => c ∈ ['/', '?', '#', '@']) ∨ authority.any isWhitespace then
        .error (.backend "Seatbelt proxy endpoint must not contain credentials, paths, queries, or fragments")
      else do
        let (host, port) ← okOr (splitOnce ':' authority)
          (.backend "Seatbelt proxy endpoint requires an explicit port")
        if host ≠ "127.0.0.1".toList ∨ ':' ∈ port then
          .error (.backend "Seatbelt proxy endpoint must use the IPv4 loopback address")
        else do
          let port ← okOr ((parseNat (2 ^ 16) port).filter (· ≠ 0))
            (.backend "Seatbelt proxy endpoint has an invalid port")
          .ok (some port)

def unixSockets : SandboxNetworkPolicy → List PathBuf
  | .offline => []
  | .proxyOnly _ _ allowedUnixSockets => allowedUnixSockets

/-- The files that the source includes. -/
structure PolicyTexts where
  basePolicy : String
  networkSupportPolicy : String

structure SeatbeltPolicyArtifact where
  policy : String
  definitions : OrderedMap String PathBuf

/-- The executables that the policy names. They are canonical, so they compare by their names. -/
def policyExecutables (profile : SandboxProfile) (program : PathBuf) : List PathBuf :=
  if profile.process.allowAnyExecutable then []
  else (sortDedup ((profile.process.allowedExecutables ++ [program]).map pathNames)).map pathOf

/-- The policy before the filesystem rules. -/
def policyHeader (texts : PolicyTexts) (profile : SandboxProfile) (program : PathBuf) (port : Option Nat) : String :=
  texts.basePolicy ++ "\n; operation-bound executable policy\n" ++
  (if profile.process.allowAnyExecutable then "(allow process-exec)\n"
    else String.join ((policyExecutables profile program).mapIdx fun index _ =>
      "(allow process-exec (literal " ++ paramText (executableKey index) ++ "))\n")) ++
  (if profile.process.allowChildProcesses then "(allow process-fork)\n" else "") ++
  (if profile.macosMachServices.isEmpty then ""
    else "\n; exact provider-scoped macOS services\n" ++ String.join (profile.macosMachServices.map fun service =>
      "(allow mach-lookup (global-name \"" ++ service ++ "\"))\n")) ++
  (match port with
    | some port => "\n; exact Rust-owned proxy endpoint\n(allow network-outbound (remote ip \"localhost:" ++ port.repr ++
        "\"))\n" ++ texts.networkSupportPolicy
    | none => "") ++
  (if (unixSockets profile.network).isEmpty then "" else "(allow system-socket (socket-domain AF_UNIX))\n") ++
  String.join ((unixSockets profile.network).mapIdx fun index _ =>
    "(allow network-outbound (remote unix-socket (subpath " ++ paramText (socketKey index) ++ ")))\n") ++
  "\n; canonical filesystem policy\n"

def policyDefinitions (profile : SandboxProfile) (program : PathBuf) : OrderedMap String PathBuf :=
  definePaths pathKey
    (definePaths socketKey (definePaths executableKey OrderedMap.empty 0 (policyExecutables profile program)) 0
      (unixSockets profile.network))
    0 (profile.filesystem.map (·.path))

def compilePolicy (texts : PolicyTexts) (profile : SandboxProfile) (program : PathBuf) :
    Except SeatbeltError SeatbeltPolicyArtifact := do
  let port ← proxyLoopbackPort profile.network
  let policy := policyHeader texts profile program port ++
    String.join ((filesystemRules 0 profile.filesystem).map SeatbeltRule.text)
  if '\x00' ∈ policy.toList then .error (.backend "compiled Seatbelt policy contains NUL")
  else .ok ⟨policy, policyDefinitions profile program⟩

/-! ## What Seatbelt does with the rules -/

/-- An operation on a path that a rule with `file-read*` or `file-write*` may be about: reading data, and the kinds of
writing. -/
inductive FileOperation where
  | readData
  | write (kind : String)
  deriving DecidableEq

def OperationPattern.covers : OperationPattern → FileOperation → Bool
  | fileReadAny, .readData => true
  | fileWriteAny, .write _ => true
  | _, _ => false

variable (definitions : OrderedMap String PathBuf) (path : List (List Char))

/-- What the definition of a parameter satisfies. -/
def param (key : String) (p : List (List Char) → Bool) : Bool :=
  (definitions.get? key).any fun value => p (pathNames value)

def Filter.matches : Filter → Bool
  | literal key => param definitions key fun names => names = path
  | subpath key => param definitions key fun names => names <+: path
  | pathAncestors key => param definitions key fun names => path <+: names ∧ path ≠ names
  | requireAny first second => first.matches || second.matches

def SeatbeltRule.matches (operation : FileOperation) (rule : SeatbeltRule) : Bool :=
  (rule.operations.any fun pattern => pattern.covers operation) && rule.filter.matches definitions path

/-- The action of the last rule that matches, where one does. -/
def decision (operation : FileOperation) (rules : List SeatbeltRule) : Option Action :=
  (lastMatch (SeatbeltRule.matches definitions path operation) rules).map SeatbeltRule.action

/-- What an access means: `Write` allows both, `Read` reading only, `Deny` neither. -/
def accessAction : SandboxPathAccess → FileOperation → Action
  | .write, _ => .allow
  | .read, .readData => .allow
  | .read, .write _ => .deny
  | .deny, _ => .deny

/-! ## Parameters -/

theorem pathKey_injective : Function.Injective pathKey := fun _ _ h => repr_injective ((String.append_right_inj _).mp h)

/-- A loop leaves alone what is not among its keys. -/
theorem get?_definePaths_of_lt {key : Nat → String} (hkey : Function.Injective key) {definitions : OrderedMap String PathBuf}
    {index j : Nat} (hj : j < index) (paths : List PathBuf) :
    (definePaths key definitions index paths).get? (key j) = definitions.get? (key j) := by
  induction paths generalizing definitions index with
  | nil => rfl
  | cons path paths ih =>
      rw [definePaths, ih (by omega), OrderedMap.get?_insert, if_neg fun h => by have := hkey h; omega]

/-- The keys of a loop stand for its paths. -/
theorem get?_definePaths {key : Nat → String} (hkey : Function.Injective key) {definitions : OrderedMap String PathBuf}
    {index k : Nat} {paths : List PathBuf} {path : PathBuf} (h : paths[k]? = some path) :
    (definePaths key definitions index paths).get? (key (index + k)) = some path := by
  induction paths generalizing definitions index k with
  | nil => cases h
  | cons first paths ih =>
      rw [definePaths]
      cases k with
      | zero =>
          rw [get?_definePaths_of_lt hkey (by omega), OrderedMap.get?_insert, if_pos (by rw [Nat.add_zero])]
          exact h
      | succ k =>
          rw [show index + (k + 1) = index + 1 + k by omega]
          exact ih h

/-! ## What the rules decide -/

variable {definitions path}

theorem decision_append (operation : FileOperation) (rules rules' : List SeatbeltRule) :
    decision definitions path operation (rules ++ rules') =
      (decision definitions path operation rules').or (decision definitions path operation rules) := by
  unfold decision
  rw [lastMatch_append, Option.map_or]

theorem decision_cons (operation : FileOperation) (rule : SeatbeltRule) (rules : List SeatbeltRule) :
    decision definitions path operation (rule :: rules) =
      (decision definitions path operation rules).or
        (if rule.matches definitions path operation then some rule.action else none) := by
  unfold decision
  rw [lastMatch_cons, Option.map_or]
  split <;> rfl

theorem subpath_matches {key : String} {value : PathBuf} (h : definitions.get? key = some value) :
    Filter.matches definitions path (.requireAny (.literal key) (.subpath key)) = decide (pathNames value <+: path) := by
  rw [Filter.matches, Filter.matches, Filter.matches, param, param, h]
  show (decide (pathNames value = path) || decide (pathNames value <+: path)) = _
  by_cases hpath : pathNames value <+: path
  · rw [decide_eq_true hpath, Bool.or_true]
  · have hne : pathNames value ≠ path := fun heq => hpath (heq ▸ List.prefix_refl _)
    rw [decide_eq_false hpath, decide_eq_false hne, Bool.or_false]

/-- The rules for one path decide the operations on it and below it, as its access says. What they say about its
ancestors is about other operations. -/
theorem decision_pathRules {key : String} {value : PathBuf} (h : definitions.get? key = some value)
    (access : SandboxPathAccess) (operation : FileOperation) :
    decision definitions path operation (pathRules key access) =
      if pathNames value <+: path then some (accessAction access operation) else none := by
  have hnil : decision definitions path operation [] = none := rfl
  unfold pathRules
  cases access <;> cases operation <;>
    by_cases hpath : pathNames value <+: path <;>
      simp [decision_cons, hnil, SeatbeltRule.matches, subpath_matches h, OperationPattern.covers, accessAction, hpath]

theorem decision_filesystemRules {index : Nat} {rules : List SandboxPathRule}
    (h : ∀ k rule, rules[k]? = some rule → definitions.get? (pathKey (index + k)) = some rule.path)
    (operation : FileOperation) :
    decision definitions path operation (filesystemRules index rules) =
      (lastMatch (fun rule : SandboxPathRule => pathNames rule.path <+: path) rules).map
        fun rule => accessAction rule.access operation := by
  induction rules generalizing index with
  | nil => rfl
  | cons rule rules ih =>
      have hrest := ih fun k rule' hrule' => by
        rw [show index + 1 + k = index + (k + 1) by omega]
        exact h (k + 1) rule' hrule'
      have hfirst : definitions.get? (pathKey index) = some rule.path := h 0 rule rfl
      rw [filesystemRules, decision_append, hrest, decision_pathRules hfirst, lastMatch_cons, Option.map_or]
      by_cases hrule : pathNames rule.path <+: path
      · rw [if_pos hrule, if_pos (decide_eq_true hrule)]
        rfl
      · rw [if_neg hrule, if_neg (by rw [decide_eq_false hrule]; exact Bool.false_ne_true)]
        rfl

/-! ## The rules of a resolved profile -/

variable {fs}

theorem pathNames_pathOf {names : List (List Char)} (h : ∀ name ∈ names, IsName name) : pathNames (pathOf names) = names := by
  rw [pathNames, normalizeNames_pathOf h]
  rfl

theorem isName_pathNames (path : PathBuf) : ∀ name ∈ pathNames path, IsName name := by
  unfold pathNames
  cases hnames : normalizeNames path with
  | error error => exact List.forall_mem_nil _
  | ok names => exact normalizeNames_isName hnames

theorem isName_of_resolveAncestor {path : PathBuf} {above suffix names : List (List Char)}
    (h : resolveAncestor fs path above suffix = .ok names) (habove : ∀ name ∈ above, IsName name)
    (hsuffix : ∀ name ∈ suffix, IsName name) : ∀ name ∈ names, IsName name := by
  induction above generalizing suffix with
  | nil => cases h
  | cons name above ih =>
      obtain ⟨hname, habove⟩ := List.forall_mem_cons.mp habove
      have hbelow : ∀ name' ∈ name :: suffix, IsName name' := List.forall_mem_cons.mpr ⟨hname, hsuffix⟩
      unfold resolveAncestor at h
      split at h
      · next resolved _ =>
          obtain rfl := Except.ok.inj h
          exact List.forall_mem_append.mpr ⟨resolved.2, hbelow⟩
      · exact ih h habove hbelow

theorem isName_of_resolvePath {path : PathBuf} {names : List (List Char)} (h : resolvePath fs path = .ok names) :
    ∀ name ∈ names, IsName name := by
  unfold resolvePath at h
  split at h
  · next resolved _ =>
      obtain rfl := Except.ok.inj h
      exact resolved.2
  · refine isName_of_resolveAncestor h (fun name hname => ?_) (List.forall_mem_nil _)
    exact isName_pathNames path name (List.mem_reverse.mp hname)

theorem isName_of_resolveRules {rules : List SandboxPathRule}
    {merged merged' : OrderedMap (List (List Char)) SandboxPathAccess} (h : resolveRules fs merged rules = .ok merged')
    (hmerged : ∀ entry ∈ merged.entries, ∀ name ∈ entry.1, IsName name) :
    ∀ entry ∈ merged'.entries, ∀ name ∈ entry.1, IsName name := by
  induction rules generalizing merged with
  | nil =>
      obtain rfl := Except.ok.inj h
      exact hmerged
  | cons rule rules ih =>
      obtain ⟨names, hnames, hrest⟩ := bind_eq_ok.mp h
      refine ih hrest fun entry hentry => ?_
      rcases OrderedMap.mem_insert.mp hentry with rfl | ⟨hold, -⟩
      · exact isName_of_resolvePath hnames
      · exact hmerged entry hold

/-- The rules come in the order of their paths, so that an ancestor stands before what is below it. -/
theorem sorted_of_resolveProfile {profile resolved : SandboxProfile} (h : resolveProfile fs profile = .ok resolved) :
    resolved.filesystem.Pairwise fun rule rule' => pathNames rule.path < pathNames rule'.path := by
  simp only [resolveProfile, bind_eq_ok, Except.ok.injEq] at h
  obtain ⟨canonical, -, rules, hrules, executables, -, network, -, rfl⟩ := h
  have hnames := isName_of_resolveRules hrules (List.forall_mem_nil _)
  show (writeRules rules).Pairwise _
  unfold writeRules
  rw [List.pairwise_map]
  refine (List.pairwise_map.mp rules.sorted).imp_of_mem fun {entry entry'} hentry hentry' hlt => ?_
  rw [pathNames_pathOf (hnames entry hentry), pathNames_pathOf (hnames entry' hentry')]
  exact hlt

/-! ## The most specific rule -/

/-- The rule covers the path, and what else covers it is an ancestor of the rule. -/
structure MostSpecific (rules : List SandboxPathRule) (path : List (List Char)) (rule : SandboxPathRule) : Prop where
  mem : rule ∈ rules
  covers : pathNames rule.path <+: path
  longest : ∀ rule' ∈ rules, pathNames rule'.path <+: path → pathNames rule'.path <+: pathNames rule.path

theorem exists_lastCovering {rules : List SandboxPathRule} {rule : SandboxPathRule} (hrule : rule ∈ rules)
    (hcovers : pathNames rule.path <+: path) :
    ∃ last, lastMatch (fun rule : SandboxPathRule => pathNames rule.path <+: path) rules = some last :=
  exists_lastMatch (p := fun rule : SandboxPathRule => pathNames rule.path <+: path) hrule (decide_eq_true hcovers)

theorem mostSpecific_iff {rules : List SandboxPathRule} {rule : SandboxPathRule}
    (hsorted : rules.Pairwise fun rule rule' => pathNames rule.path < pathNames rule'.path) :
    MostSpecific rules path rule ↔
      lastMatch (fun rule : SandboxPathRule => pathNames rule.path <+: path) rules = some rule := by
  have hlongest {last : SandboxPathRule}
      (h : lastMatch (fun rule : SandboxPathRule => pathNames rule.path <+: path) rules = some last) :
      MostSpecific rules path last := by
    obtain ⟨hmem, hcovers⟩ := mem_of_lastMatch h
    exact ⟨hmem, of_decide_eq_true hcovers, fun rule' hrule' hpath =>
      lastMatch_isPrefix (fun _ => decide_eq_true_iff) hsorted h hrule' hpath⟩
  refine ⟨fun h => ?_, hlongest⟩
  obtain ⟨last, hlast⟩ := exists_lastCovering h.mem h.covers
  have hbelow := (hlongest hlast).longest rule h.mem h.covers
  have habove := h.longest last (hlongest hlast).mem (hlongest hlast).covers
  have hsame : pathNames rule.path = pathNames last.path := hbelow.eq_of_length_le habove.length_le
  rcases eq_or_before_of_lastMatch hsorted hlast h.mem (decide_eq_true h.covers) with rfl | hlt
  · exact hlast
  · exact absurd hlt (hsame ▸ lt_irrefl _)

/-! ## No NUL -/

theorem nul_notMem_append {s t : String} : '\x00' ∉ (s ++ t).toList ↔ '\x00' ∉ s.toList ∧ '\x00' ∉ t.toList := by
  rw [String.toList_append, List.mem_append, not_or]

theorem nul_notMem_pathKey (index : Nat) : '\x00' ∉ (pathKey index).toList := by
  refine nul_notMem_append.mpr ⟨by decide, fun h => ?_⟩
  rw [Nat.repr, String.toList_ofList] at h
  exact absurd (isDigit_digits _ h) (by decide)

theorem nul_notMem_operations (operations : List OperationPattern) :
    '\x00' ∉ (" ".intercalate (operations.map OperationPattern.text)).toList := by
  have htext (pattern : OperationPattern) : '\x00' ∉ pattern.text.toList := by cases pattern <;> decide
  rw [String.toList_intercalate]
  induction operations with
  | nil => exact List.not_mem_nil
  | cons pattern operations ih =>
      cases operations with
      | nil =>
          rw [List.map_singleton, List.map_singleton, List.intercalate_singleton]
          exact htext pattern
      | cons next operations =>
          rw [List.map_cons, List.map_cons, List.map_cons, List.map_cons, List.intercalate_cons_cons, List.mem_append,
            List.mem_append]
          rintro ((h | h) | h)
          · exact htext pattern h
          · exact absurd h (by decide)
          · exact ih h

/-- The keys stand for the paths, so whatever a path contains, no rule contains NUL. -/
theorem nul_notMem_pathRules {key : String} (hkey : '\x00' ∉ key.toList) {access : SandboxPathAccess} {rule : SeatbeltRule}
    (hrule : rule ∈ pathRules key access) : '\x00' ∉ rule.text.toList := by
  have hparam : '\x00' ∉ (paramText key).toList :=
    nul_notMem_append.mpr ⟨nul_notMem_append.mpr ⟨by decide, hkey⟩, by decide⟩
  have hancestors : '\x00' ∉ (Filter.pathAncestors key).text.toList :=
    nul_notMem_append.mpr ⟨nul_notMem_append.mpr ⟨by decide, hparam⟩, by decide⟩
  have hliteral : '\x00' ∉ (Filter.literal key).text.toList :=
    nul_notMem_append.mpr ⟨nul_notMem_append.mpr ⟨by decide, hparam⟩, by decide⟩
  have hsubpath : '\x00' ∉ (Filter.subpath key).text.toList :=
    nul_notMem_append.mpr ⟨nul_notMem_append.mpr ⟨by decide, hparam⟩, by decide⟩
  have heither : '\x00' ∉ (Filter.requireAny (.literal key) (.subpath key)).text.toList :=
    nul_notMem_append.mpr ⟨nul_notMem_append.mpr ⟨nul_notMem_append.mpr ⟨nul_notMem_append.mpr ⟨by decide, hliteral⟩,
      by decide⟩, hsubpath⟩, by decide⟩
  have hfilter : '\x00' ∉ rule.filter.text.toList := by
    rcases List.mem_cons.mp hrule with rfl | hrule
    · exact hancestors
    · cases access <;> simp only [List.mem_cons, List.not_mem_nil, or_false] at hrule
      · rcases hrule with rfl | rfl <;> exact heither
      · rw [hrule]; exact heither
      · rcases hrule with rfl | rfl <;> exact heither
  have haction : '\x00' ∉ rule.action.text.toList := by cases rule.action <;> decide
  have hopen := nul_notMem_append.mpr ⟨(by decide : '\x00' ∉ "(".toList), haction⟩
  have hnamed := nul_notMem_append.mpr ⟨nul_notMem_append.mpr ⟨hopen, (by decide : '\x00' ∉ " ".toList)⟩,
    nul_notMem_operations rule.operations⟩
  exact nul_notMem_append.mpr ⟨nul_notMem_append.mpr ⟨nul_notMem_append.mpr ⟨hnamed, by decide⟩, hfilter⟩, by decide⟩

theorem nul_notMem_filesystemRules (index : Nat) (rules : List SandboxPathRule) :
    '\x00' ∉ (String.join ((filesystemRules index rules).map SeatbeltRule.text)).toList := by
  rw [String.toList_join, List.mem_flatMap]
  rintro ⟨text, htext, hmem⟩
  obtain ⟨rule, hrule, rfl⟩ := List.mem_map.mp htext
  clear htext
  induction rules generalizing index with
  | nil => cases hrule
  | cons first rules ih =>
      rcases List.mem_append.mp hrule with hrule | hrule
      · exact nul_notMem_pathRules (nul_notMem_pathKey index) hrule hmem
      · exact ih (index + 1) hrule

/-! ## The policy -/

theorem get?_policyDefinitions {profile : SandboxProfile} {program : PathBuf} {k : Nat} {rule : SandboxPathRule}
    (h : profile.filesystem[k]? = some rule) :
    (policyDefinitions profile program).get? (pathKey (0 + k)) = some rule.path :=
  get?_definePaths pathKey_injective (by rw [List.getElem?_map, h]; rfl)

theorem policy_of_compilePolicy {texts : PolicyTexts} {profile : SandboxProfile} {program : PathBuf}
    {artifact : SeatbeltPolicyArtifact} (h : compilePolicy texts profile program = .ok artifact) :
    (∃ port, artifact.policy = policyHeader texts profile program port ++
      String.join ((filesystemRules 0 profile.filesystem).map SeatbeltRule.text)) ∧
    artifact.definitions = policyDefinitions profile program := by
  obtain ⟨port, -, h⟩ := bind_eq_ok.mp h
  obtain ⟨-, h⟩ := ite_error_eq_ok.mp h
  obtain rfl := Except.ok.inj h
  exact ⟨⟨port, rfl⟩, rfl⟩

/-- Only what stands before the filesystem rules can make the compilation fail. -/
theorem compilePolicy_eq_ok {texts : PolicyTexts} {profile : SandboxProfile} {program : PathBuf} {port : Option Nat}
    (hport : proxyLoopbackPort profile.network = .ok port)
    (hheader : '\x00' ∉ (policyHeader texts profile program port).toList) :
    compilePolicy texts profile program =
      .ok ⟨policyHeader texts profile program port ++
        String.join ((filesystemRules 0 profile.filesystem).map SeatbeltRule.text), policyDefinitions profile program⟩ := by
  unfold compilePolicy
  rewrite [hport]
  exact if_neg fun h => nul_notMem_append.mpr ⟨hheader, nul_notMem_filesystemRules 0 profile.filesystem⟩ h

/-- **The policy does what the profile says.** The text of the policy ends in the filesystem rules. Of the rules of the
profile that cover a path exactly one is the most specific, and reading the data of the path and every kind of writing
it are decided as the access of this rule says. The processes of the profile may have changed since it was resolved. -/
theorem compilePolicy_decides {texts : PolicyTexts} {profile resolved : SandboxProfile} {process : SandboxProcessPolicy}
    {program : PathBuf} {artifact : SeatbeltPolicyArtifact} (hresolve : resolveProfile fs profile = .ok resolved)
    (hcompile : compilePolicy texts { resolved with process := process } program = .ok artifact) :
    (∃ header, artifact.policy = header ++ "\n; canonical filesystem policy\n" ++
      String.join ((filesystemRules 0 resolved.filesystem).map SeatbeltRule.text)) ∧
    ∀ path, (∃ rule ∈ resolved.filesystem, pathNames rule.path <+: path) →
      ∃ rule, (∀ rule', MostSpecific resolved.filesystem path rule' ↔ rule' = rule) ∧
        ∀ operation, decision artifact.definitions path operation (filesystemRules 0 resolved.filesystem) =
          some (accessAction rule.access operation) := by
  obtain ⟨⟨port, hpolicy⟩, hdefinitions⟩ := policy_of_compilePolicy hcompile
  refine ⟨⟨_, hpolicy⟩, ?_⟩
  rintro path ⟨rule, hrule, hcovers⟩
  obtain ⟨last, hlast⟩ := exists_lastCovering hrule hcovers
  refine ⟨last, fun rule' => ?_, fun operation => ?_⟩
  · rw [mostSpecific_iff (sorted_of_resolveProfile hresolve), hlast, Option.some.injEq, eq_comm]
  · rw [hdefinitions, decision_filesystemRules (fun k rule' h => get?_policyDefinitions h), hlast]
    rfl

/-- A file system where every path is canonical and every file is there. -/
def plainFileSystem : FileSystem where
  canonicalize path :=
    match h : normalizeNames path with
    | .ok names => .ok ⟨names, normalizeNames_isName h⟩
    | .error _ => .error "No such file or directory (os error 2)"
  isFile _ := .ok true

/-- The profile with any executable, so that the policy names none. -/
def nestedProfile : SandboxProfile :=
  { ruledProfile [⟨"/work", .write⟩, ⟨"/work/lib", .deny⟩] with process := ⟨true, true, []⟩ }

theorem compilePolicy_decides_nested :
    ∃ artifact, compilePolicy ⟨"(version 1)", ""⟩ nestedProfile "/bin/true" = .ok artifact ∧
      decision artifact.definitions (pathNames "/work/lib/core") (.write "create")
        (filesystemRules 0 nestedProfile.filesystem) = some .deny := by
  have hresolve : resolveProfile plainFileSystem nestedProfile = .ok nestedProfile := by decide
  have hheader : '\x00' ∉ (policyHeader ⟨"(version 1)", ""⟩ nestedProfile "/bin/true" none).toList := by
    rewrite [policyHeader, nul_notMem_append, nul_notMem_append, nul_notMem_append, nul_notMem_append, nul_notMem_append,
      nul_notMem_append, nul_notMem_append, nul_notMem_append]
    decide
  have hcompile := @compilePolicy_eq_ok ⟨"(version 1)", ""⟩ nestedProfile "/bin/true" none rfl hheader
  obtain ⟨rule, hunique, hdecides⟩ := (compilePolicy_decides hresolve hcompile).2 (pathNames "/work/lib/core")
    ⟨⟨"/work/lib", .deny⟩, by decide, by decide⟩
  have hspecific : MostSpecific nestedProfile.filesystem (pathNames "/work/lib/core") ⟨"/work/lib", .deny⟩ :=
    ⟨by decide, by decide, by decide⟩
  obtain rfl := (hunique _).mp hspecific
  exact ⟨_, hcompile, hdecides _⟩

end HyperTerm.Sandbox
