import HyperTerm.Daemon.ProxyRequest
import HyperTerm.Lib.IpAddresses
import Mathlib.Algebra.Group.Nat.Defs
import Mathlib.Data.List.Basic

/-!
# The hosts a sandboxed agent may reach

The proxy opens a tunnel to the hosts of its allowlist. A pattern of the list is a host, or `*.` before a domain whose
subdomains are meant.

* `normalizeHost`, `normalizePattern` : the form in which hosts and patterns are compared;
* `IsHostName`, `Covers` : what a host name is, and which of them a pattern stands for;
* `admits_iff` : the authorities for which a tunnel is opened.
-/

namespace HyperTerm.Daemon.Proxy
open HyperTerm.Lib

/-! ## Normal forms -/

inductive ProxyError where
  | emptyAllowlist
  | invalidHostPattern (pattern : String)
  deriving DecidableEq

/-- `trim().trim_end_matches('.').to_ascii_lowercase()`. -/
def canonical (text : List Char) : List Char := ((trim text).rdropWhile (· = '.')).map Char.toLower

/-- The checks of a label that make `normalize_host` fail. -/
def isBadLabel (label : List Char) : Bool :=
  label = [] ∨ 63 < (utf8 label).length ∨ label.head? = some '-' ∨ label.getLast? = some '-' ∨
    ¬label.all fun c => c.isAlphanum || c = '-'

def normalizeHost (host : List Char) : Option (List Char) :=
  let host := canonical host
  if host = [] ∨ 253 < (utf8 host).length ∨ ¬(host.all fun c => c.toNat < 128) ∨ isIpAddr host then none
  else if (host.splitOn '.').any isBadLabel then none
  else some host

def normalizePattern (pattern : List Char) : Except ProxyError (List Char) :=
  let pattern := canonical pattern
  let invalid := ProxyError.invalidHostPattern (String.ofList pattern)
  if pattern = ['*'] ∨ pattern = [] then .error invalid
  else
    match pattern.dropPrefix? ['*', '.'] with
    | some suffix => (okOr (normalizeHost suffix) invalid).map fun suffix => '*' :: '.' :: suffix
    | none => okOr (normalizeHost pattern) invalid

/-! ## The policy -/

/-- The set of normal forms. Only whether one of them matches is asked of it. -/
structure ProxyPolicy where
  patterns : List (List Char)
  deriving DecidableEq

def ProxyPolicy.new (allowedHosts : List (List Char)) : Except ProxyError ProxyPolicy := do
  let patterns ← allowedHosts.mapM normalizePattern
  if patterns.isEmpty then .error .emptyAllowlist else .ok ⟨patterns⟩

/-- Both texts are ASCII, so that their bytes are their characters. -/
def patternMatches (pattern host : List Char) : Bool :=
  match pattern.dropPrefix? ['*', '.'] with
  | some suffix =>
      suffix.length < host.length ∧ suffix.isSuffixOf host ∧ host[host.length - suffix.length - 1]? = some '.'
  | none => host = pattern

def ProxyPolicy.allows (policy : ProxyPolicy) (host : List Char) : Bool :=
  match normalizeHost host with
  | some host => policy.patterns.any fun pattern => patternMatches pattern host
  | none => false

def allowsPort (port : Nat) : Bool := port = 443

/-- `rsplit_once`. -/
def rsplitOnce (separator : Char) (text : List Char) : Option (List Char × List Char) :=
  (splitOnce separator text.reverse).map fun (after, before) => (before.reverse, after.reverse)

def parseAuthority (authority : List Char) : Option (List Char × Nat) := do
  let (host, port) ← rsplitOnce ':' authority
  if host = [] ∨ ':' ∈ host ∨ isIpAddr host then none
  else
    let host ← normalizeHost host
    let port ← (parseNat (2 ^ 16) port).filter (· ≠ 0)
    some (host, port)

/-- `handle_connection` up to its look-up of the host: the target of the tunnel, or the status of the answer. -/
def connectTarget (expectedAuthorization : String) (policy : ProxyPolicy) (result : Except (Stop IoErrorKind) RequestHead) :
    Except String (List Char × Nat) :=
  match result with
  | .error (.error .permissionDenied) => .error "407 Proxy Authentication Required"
  | .error _ => .error "400 Bad Request"
  | .ok request =>
      if request.authorization ≠ some expectedAuthorization then .error "407 Proxy Authentication Required"
      else if request.method ≠ "CONNECT" then .error "405 Method Not Allowed"
      else
        match parseAuthority request.authority.toList with
        | none => .error "400 Bad Request"
        | some (host, port) =>
            if ¬allowsPort port ∨ ¬policy.allows host then .error "403 Forbidden" else .ok (host, port)

/-- `parse_authority` followed by `allows_port` and `allows`. -/
def ProxyPolicy.admits (policy : ProxyPolicy) (authority : List Char) : Bool :=
  match parseAuthority authority with
  | some (host, port) => allowsPort port && policy.allows host
  | none => false

/-! ## Host names -/

structure IsLabel (label : List Char) : Prop where
  nonempty : label ≠ []
  length : label.length ≤ 63
  first : label.head? ≠ some '-'
  last : label.getLast? ≠ some '-'
  chars : ∀ c ∈ label, c.isAlphanum ∨ c = '-'

/-- The labels of a name are letters, digits and hyphens, and it is no address. -/
structure IsHostName (name : List Char) : Prop where
  length : name.length ≤ 253
  labels : ∀ label ∈ name.splitOn '.', IsLabel label
  notAddress : isIpAddr name = false

/-- The characters of a host name, between its dots. -/
theorem IsHostName.chars {name : List Char} (h : IsHostName name) {c : Char} (hc : c ∈ name) :
    c.isAlphanum ∨ c = '-' ∨ c = '.' := by
  by_cases hdot : c = '.'
  · exact Or.inr (Or.inr hdot)
  · obtain ⟨label, hlabel, hmem⟩ := mem_splitOn_of_mem hc hdot
    exact ((h.labels label hlabel).chars c hmem).imp_right Or.inl

theorem ascii_of_hostChar {c : Char} (h : c.isAlphanum ∨ c = '-' ∨ c = '.') : 45 ≤ c.toNat ∧ c.toNat < 128 := by
  rcases h with h | rfl | rfl
  · have hrange := toNat_of_isAlphanum h
    omega
  · decide
  · decide

theorem isWhitespace_of_ascii {c : Char} (h : 42 ≤ c.toNat ∧ c.toNat < 128) : isWhitespace c = false := by
  refine decide_eq_false ?_
  simp only [List.mem_cons, List.not_mem_nil, or_false]
  omega

/-- A text whose pieces are not empty does not end in a separator. -/
theorem getLast_ne_separator {separator : Char} {text : List Char} (h : ∀ piece ∈ text.splitOn separator, piece ≠ []) :
    text.getLast? ≠ some separator := by
  intro hlast
  obtain ⟨before, rfl⟩ := List.getLast?_eq_some_iff.mp hlast
  refine h [] ?_ rfl
  rw [List.splitOn_append_cons_self]
  exact List.mem_append_right _ (by simp)

theorem head_ne_separator {separator : Char} {text : List Char} (h : ∀ piece ∈ text.splitOn separator, piece ≠ []) :
    text.head? ≠ some separator := by
  intro hhead
  obtain ⟨after, rfl⟩ := List.head?_eq_some_iff.mp hhead
  refine h [] ?_ rfl
  rw [← List.nil_append (separator :: after), List.splitOn_append_cons_self]
  exact List.mem_append_left _ (by simp)

/-! ## Normal forms of normal forms -/

theorem toLower_canonical {text : List Char} {c : Char} (h : c ∈ canonical text) : c.toLower = c := by
  obtain ⟨c', -, rfl⟩ := List.mem_map.mp h
  exact toLower_toLower c'

/-- What has nothing to trim or to lower is in normal form. -/
theorem canonical_eq_self {text : List Char} (hspace : ∀ c ∈ text, isWhitespace c = false)
    (hlast : text.getLast? ≠ some '.') (hlower : ∀ c ∈ text, c.toLower = c) : canonical text = text := by
  have htrim : trim text = text := trim_eq_self hspace
  have hdots : text.rdropWhile (· = '.') = text := by
    rw [List.rdropWhile_eq_self_iff]
    intro hne hdot
    exact hlast (by rw [List.getLast?_eq_some_getLast hne, of_decide_eq_true hdot])
  rw [canonical, htrim, hdots]
  exact (List.map_congr_left hlower).trans (List.map_id _)

theorem canonical_hostName {name : List Char} (h : IsHostName name) (hlower : ∀ c ∈ name, c.toLower = c) :
    canonical name = name :=
  canonical_eq_self (fun _ hc => isWhitespace_of_ascii (by have := ascii_of_hostChar (h.chars hc); omega))
    (getLast_ne_separator fun piece hpiece => (h.labels piece hpiece).nonempty) hlower

theorem isBadLabel_eq_false {label : List Char} (hascii : ∀ c ∈ label, c.toNat < 128) :
    isBadLabel label = false ↔ IsLabel label := by
  unfold isBadLabel
  rw [length_utf8_of_ascii hascii]
  simp only [decide_eq_false_iff_not, not_or, Nat.not_lt, List.all_eq_true, Bool.or_eq_true, decide_eq_true_eq, not_not]
  constructor
  · rintro ⟨hne, hlength, hfirst, hlast, hchars⟩
    exact ⟨hne, hlength, hfirst, hlast, hchars⟩
  · intro h
    exact ⟨h.nonempty, h.length, h.first, h.last, h.chars⟩

theorem normalizeHost_eq_some {host name : List Char} :
    normalizeHost host = some name ↔ name = canonical host ∧ IsHostName name := by
  unfold normalizeHost
  dsimp only
  constructor
  · intro h
    split at h
    · cases h
    · next hguard =>
        split at h
        · cases h
        · next hlabels =>
            obtain rfl : canonical host = name := Option.some.inj h
            simp only [not_or, not_not, Nat.not_lt, List.all_eq_true, decide_eq_true_eq] at hguard
            obtain ⟨-, hlength, hascii, haddress⟩ := hguard
            rw [length_utf8_of_ascii hascii] at hlength
            refine ⟨rfl, hlength, fun label hlabel => ?_, Bool.eq_false_iff.mpr haddress⟩
            refine (isBadLabel_eq_false fun c hc => hascii c (mem_of_mem_splitOn hlabel hc)).mp ?_
            exact Bool.eq_false_iff.mpr fun hbad => hlabels (List.any_eq_true.mpr ⟨label, hlabel, hbad⟩)
  · rintro ⟨rfl, hname⟩
    have hascii : ∀ c ∈ canonical host, c.toNat < 128 := fun c hc => (ascii_of_hostChar (hname.chars hc)).2
    have hne : canonical host ≠ [] := by
      intro hempty
      refine (hname.labels [] ?_).nonempty rfl
      rw [hempty]
      exact List.mem_singleton_self []
    rw [if_neg, if_neg]
    · rw [List.any_eq_true]
      rintro ⟨label, hlabel, hbad⟩
      have hgood := (isBadLabel_eq_false fun c hc => hascii c (mem_of_mem_splitOn hlabel hc)).mpr (hname.labels label hlabel)
      rw [hbad] at hgood
      cases hgood
    · simp only [not_or, not_not, Nat.not_lt, List.all_eq_true, decide_eq_true_eq]
      rw [length_utf8_of_ascii hascii]
      exact ⟨hne, hname.length, hascii, by rw [hname.notAddress]; exact Bool.false_ne_true⟩

/-- **Normalising a host twice is normalising it once.** -/
theorem normalizeHost_normal {host name : List Char} (h : normalizeHost host = some name) :
    normalizeHost name = some name := by
  obtain ⟨rfl, hname⟩ := normalizeHost_eq_some.mp h
  exact normalizeHost_eq_some.mpr ⟨(canonical_hostName hname fun _ => toLower_canonical).symm, hname⟩

/-! ## Patterns -/

/-- The pattern stands for the name: the name lies below the domain after `*.`, or it is the pattern. The form of
patterns is taken twice in the source, before and after the test for `*.`. -/
def Covers (pattern name : List Char) : Prop :=
  (∃ suffix front, canonical pattern = '*' :: '.' :: suffix ∧ front ≠ [] ∧ name = front ++ '.' :: canonical suffix) ∨
    ((∀ suffix, canonical pattern ≠ '*' :: '.' :: suffix) ∧ name = canonical (canonical pattern))

theorem dropPrefix_eq_some {pattern suffix : List Char} :
    pattern.dropPrefix? ['*', '.'] = some suffix ↔ pattern = '*' :: '.' :: suffix := by
  rw [List.dropPrefix?_eq_some_iff]
  constructor
  · rintro ⟨front, rfl, hfront⟩
    rw [eq_of_beq hfront]
    rfl
  · rintro rfl
    exact ⟨['*', '.'], rfl, rfl⟩

theorem dropPrefix_eq_none {pattern : List Char} :
    pattern.dropPrefix? ['*', '.'] = none ↔ ∀ suffix, pattern ≠ '*' :: '.' :: suffix := by
  rw [Option.eq_none_iff_forall_ne_some]
  exact forall_congr' fun suffix => not_congr dropPrefix_eq_some

theorem not_hostName_nil : ¬IsHostName [] := fun h => (h.labels [] (List.mem_singleton_self [])).nonempty rfl

theorem IsHostName.star_notMem {name : List Char} (h : IsHostName name) : '*' ∉ name := fun hmem =>
  absurd (ascii_of_hostChar (h.chars hmem)) (by decide)

theorem normalizePattern_eq_ok {pattern normal : List Char} :
    normalizePattern pattern = .ok normal ↔
      (∃ suffix, canonical pattern = '*' :: '.' :: suffix ∧ IsHostName (canonical suffix) ∧
        normal = '*' :: '.' :: canonical suffix) ∨
      ((∀ suffix, canonical pattern ≠ '*' :: '.' :: suffix) ∧ IsHostName (canonical (canonical pattern)) ∧
        normal = canonical (canonical pattern)) := by
  unfold normalizePattern
  dsimp only
  rw [ite_error_eq_ok]
  cases hsuffix : (canonical pattern).dropPrefix? ['*', '.'] with
  | some suffix =>
      have hpattern := dropPrefix_eq_some.mp hsuffix
      have hguard : ¬(canonical pattern = ['*'] ∨ canonical pattern = []) := by rw [hpattern]; simp
      dsimp only
      rw [and_iff_right hguard, map_eq_ok, hpattern]
      simp only [okOr_eq_ok, normalizeHost_eq_some, List.cons.injEq, true_and]
      constructor
      · rintro ⟨_, ⟨rfl, hname⟩, rfl⟩
        exact Or.inl ⟨suffix, rfl, hname, rfl⟩
      · rintro (⟨_, rfl, hname, rfl⟩ | ⟨hno, -⟩)
        · exact ⟨_, ⟨rfl, hname⟩, rfl⟩
        · exact absurd rfl (hno suffix)
  | none =>
      have hno := dropPrefix_eq_none.mp hsuffix
      simp only [okOr_eq_ok, normalizeHost_eq_some]
      constructor
      · rintro ⟨-, rfl, hname⟩
        exact Or.inr ⟨hno, hname, rfl⟩
      · rintro (⟨suffix, hpattern, -⟩ | ⟨-, hname, rfl⟩)
        · exact absurd hpattern (hno suffix)
        · refine ⟨?_, rfl, hname⟩
          rintro (hstar | hempty)
          · rw [hstar] at hname
            exact hname.star_notMem (by decide)
          · rw [hempty] at hname
            exact not_hostName_nil hname

theorem canonical_wildcard {name : List Char} (h : IsHostName name) (hlower : ∀ c ∈ name, c.toLower = c) :
    canonical ('*' :: '.' :: name) = '*' :: '.' :: name := by
  have hchars : ∀ c ∈ '*' :: '.' :: name, 42 ≤ c.toNat ∧ c.toNat < 128 := by
    intro c hc
    rcases List.mem_cons.mp hc with rfl | hc
    · decide
    rcases List.mem_cons.mp hc with rfl | hc
    · decide
    · have hrange := ascii_of_hostChar (h.chars hc)
      omega
  refine canonical_eq_self (fun c hc => isWhitespace_of_ascii (hchars c hc)) ?_ fun c hc => ?_
  · have hlast := getLast_ne_separator fun piece hpiece => (h.labels piece hpiece).nonempty
    cases name with
    | nil => exact absurd h not_hostName_nil
    | cons c name => rwa [List.getLast?_cons_cons, List.getLast?_cons_cons]
  · rcases List.mem_cons.mp hc with rfl | hc
    · decide
    rcases List.mem_cons.mp hc with rfl | hc
    · decide
    · exact hlower c hc

/-- **Normalising a pattern twice is normalising it once.** -/
theorem normalizePattern_normal {pattern normal : List Char} (h : normalizePattern pattern = .ok normal) :
    normalizePattern normal = .ok normal := by
  rw [normalizePattern_eq_ok] at h ⊢
  rcases h with ⟨suffix, -, hname, rfl⟩ | ⟨-, hname, rfl⟩
  · have hsuffix := canonical_hostName hname fun _ => toLower_canonical
    refine Or.inl ⟨canonical suffix, canonical_wildcard hname fun _ => toLower_canonical, ?_, ?_⟩
    · rwa [hsuffix]
    · rw [hsuffix]
  · have hnormal := canonical_hostName hname fun _ => toLower_canonical
    refine Or.inr ⟨fun suffix hsuffix => ?_, ?_, ?_⟩
    · rw [hnormal] at hsuffix
      exact hname.star_notMem (hsuffix ▸ List.mem_cons_self)
    · rwa [hnormal, hnormal]
    · rw [hnormal, hnormal]

/-- The arithmetic on lengths finds the dot before the domain. -/
theorem suffix_after_dot {suffix name : List Char} :
    (suffix.length < name.length ∧ suffix.isSuffixOf name ∧ name[name.length - suffix.length - 1]? = some '.') ↔
      ∃ front, name = front ++ '.' :: suffix := by
  constructor
  · rintro ⟨hlength, hsuffix, hdot⟩
    obtain ⟨before, rfl⟩ := List.isSuffixOf_iff_suffix.mp hsuffix
    rw [List.length_append] at hlength hdot
    rw [Nat.add_sub_cancel, List.getElem?_append_left (by omega), ← List.getLast?_eq_getElem?] at hdot
    obtain ⟨front, rfl⟩ := List.getLast?_eq_some_iff.mp hdot
    exact ⟨front, by rw [List.append_assoc]; rfl⟩
  · rintro ⟨front, rfl⟩
    refine ⟨by simp; omega, List.isSuffixOf_iff_suffix.mpr ⟨front ++ ['.'], by simp⟩, ?_⟩
    have hplace : (front ++ '.' :: suffix).length - suffix.length - 1 = front.length := by
      rw [List.length_append, List.length_cons]
      omega
    rw [hplace, List.getElem?_append_right (Nat.le_refl _), Nat.sub_self]
    rfl

theorem patternMatches_iff {pattern normal name : List Char} (h : normalizePattern pattern = .ok normal)
    (hname : IsHostName name) : patternMatches normal name ↔ Covers pattern name := by
  unfold patternMatches Covers
  rcases normalizePattern_eq_ok.mp h with ⟨suffix, hpattern, -, rfl⟩ | ⟨hno, hpattern, rfl⟩
  · rw [dropPrefix_eq_some.mpr rfl, hpattern]
    dsimp only
    rw [decide_eq_true_iff, suffix_after_dot]
    constructor
    · rintro ⟨front, rfl⟩
      refine Or.inl ⟨suffix, front, rfl, ?_, rfl⟩
      rintro rfl
      exact head_ne_separator (fun label hlabel => (hname.labels label hlabel).nonempty) rfl
    · rintro (⟨suffix', front, hsame, -, hfront⟩ | ⟨hno, -⟩)
      · obtain rfl : suffix = suffix' := by simpa using hsame
        exact ⟨front, hfront⟩
      · exact absurd rfl (hno suffix)
  · have hnone : (canonical (canonical pattern)).dropPrefix? ['*', '.'] = none :=
      dropPrefix_eq_none.mpr fun suffix hsuffix => hpattern.star_notMem (hsuffix ▸ List.mem_cons_self)
    rw [hnone]
    dsimp only
    rw [decide_eq_true_iff]
    constructor
    · exact fun hsame => Or.inr ⟨hno, hsame⟩
    · rintro (⟨suffix, front, hwildcard, -⟩ | ⟨-, hsame⟩)
      · exact absurd hwildcard (hno suffix)
      · exact hsame

theorem allows_iff {allowedHosts : List (List Char)} {policy : ProxyPolicy} (h : ProxyPolicy.new allowedHosts = .ok policy)
    {host : List Char} :
    policy.allows host ↔ IsHostName (canonical host) ∧ ∃ pattern ∈ allowedHosts, Covers pattern (canonical host) := by
  obtain ⟨patterns, hpatterns, hpolicy⟩ := bind_eq_ok.mp h
  rw [ite_error_eq_ok] at hpolicy
  cases hpolicy.2
  obtain ⟨hmem, htotal⟩ := mem_of_mapM_eq_ok hpatterns
  unfold ProxyPolicy.allows
  cases hhost : normalizeHost host with
  | none =>
      refine iff_of_false Bool.false_ne_true ?_
      rintro ⟨hname, -⟩
      rw [normalizeHost_eq_some.mpr ⟨rfl, hname⟩] at hhost
      cases hhost
  | some name =>
      obtain ⟨rfl, hname⟩ := normalizeHost_eq_some.mp hhost
      dsimp only
      rw [and_iff_right hname, List.any_eq_true]
      constructor
      · rintro ⟨normal, hnormal, hmatch⟩
        obtain ⟨pattern, hpattern, hok⟩ := (hmem normal).mp hnormal
        exact ⟨pattern, hpattern, (patternMatches_iff hok hname).mp hmatch⟩
      · rintro ⟨pattern, hpattern, hcovers⟩
        obtain ⟨normal, hok⟩ := htotal pattern hpattern
        exact ⟨normal, (hmem normal).mpr ⟨pattern, hpattern, hok⟩, (patternMatches_iff hok hname).mpr hcovers⟩

/-! ## Authorities -/

/-- An address in four numbers is in normal form. -/
theorem canonical_ipv4 {host : List Char} (h : isIpv4 host) : canonical host = host := by
  have hchars : ∀ c ∈ host, 42 ≤ c.toNat ∧ c.toNat < 65 := by
    intro c hc
    rcases isIpv4_chars h hc with hdigit | rfl
    · have hrange := toNat_of_isDigit hdigit
      omega
    · decide
  refine canonical_eq_self (fun c hc => isWhitespace_of_ascii (by have := hchars c hc; omega)) ?_ fun c hc => ?_
  · have hoctets : (host.splitOn '.').all isOctet := (of_decide_eq_true h).2
    exact getLast_ne_separator fun piece hpiece =>
      (of_decide_eq_true (List.all_eq_true.mp hoctets piece hpiece)).1
  · have hrange := hchars c hc
    refine Char.toNat_inj.mp ?_
    rw [toNat_toLower, if_neg (by omega)]

theorem rsplitOnce_eq_some {separator : Char} {text before after : List Char} :
    rsplitOnce separator text = some (before, after) ↔ text = before ++ separator :: after ∧ separator ∉ after := by
  unfold rsplitOnce
  simp only [Option.map_eq_some_iff, Prod.exists, Prod.mk.injEq, splitOnce_eq_some]
  constructor
  · rintro ⟨after', before', ⟨htext, hafter⟩, rfl, rfl⟩
    refine ⟨?_, by rwa [List.mem_reverse]⟩
    rw [← List.reverse_reverse text, htext]
    simp
  · rintro ⟨rfl, hafter⟩
    exact ⟨after.reverse, before.reverse, ⟨by simp, by rwa [List.mem_reverse]⟩, List.reverse_reverse _,
      List.reverse_reverse _⟩

theorem parseAuthority_eq_some {authority name : List Char} {port : Nat} :
    parseAuthority authority = some (name, port) ↔
      ∃ host text, authority = host ++ ':' :: text ∧ ':' ∉ host ∧ ':' ∉ text ∧ name = canonical host ∧
        IsHostName (canonical host) ∧ parseNat (2 ^ 16) text = some port ∧ port ≠ 0 := by
  unfold parseAuthority
  simp only [Option.bind_eq_bind, Option.bind_eq_some_iff, Prod.exists, rsplitOnce_eq_some]
  refine exists_congr fun host => exists_congr fun text => ?_
  constructor
  · rintro ⟨⟨hauthority, htext⟩, h⟩
    split at h
    · cases h
    · next hguard =>
        simp only [Option.bind_eq_some_iff, normalizeHost_eq_some, Option.filter_eq_some_iff, decide_eq_true_eq] at h
        obtain ⟨_, ⟨rfl, hname⟩, _, ⟨hport, hzero⟩, hsame⟩ := h
        cases hsame
        exact ⟨hauthority, fun hcolon => hguard (Or.inr (Or.inl hcolon)), htext, rfl, hname, hport, hzero⟩
  · rintro ⟨hauthority, hcolon, htext, rfl, hname, hport, hzero⟩
    refine ⟨⟨hauthority, htext⟩, ?_⟩
    rw [if_neg]
    · simp only [Option.bind_eq_some_iff, normalizeHost_eq_some, Option.filter_eq_some_iff, decide_eq_true_eq]
      exact ⟨_, ⟨rfl, hname⟩, port, ⟨hport, hzero⟩, rfl⟩
    · rintro (rfl | hmem | haddress)
      · exact not_hostName_nil hname
      · exact hcolon hmem
      · -- Only the four numbers of IPv4 are an address without colons, and they are their own form.
        have hnot := hname.notAddress
        rw [canonical_ipv4 (isIpv4_of_colon_notMem haddress hcolon), haddress] at hnot
        cases hnot

/-- A host with a colon is none, so an authority has one colon. -/
theorem colon_notMem_of_append {host port host' port' : List Char} (h : host ++ ':' :: port = host' ++ ':' :: port')
    (hhost' : ':' ∉ host') (hport' : ':' ∉ port') : host = host' := by
  have hcount := congrArg (List.count ':') h
  simp only [List.count_append, List.count_cons_self, List.count_eq_zero_of_not_mem hhost',
    List.count_eq_zero_of_not_mem hport'] at hcount
  have hhost : ':' ∉ host := List.count_eq_zero.mp (by omega)
  have hsplit := splitOnce_append hhost port
  rw [h, splitOnce_append hhost' port'] at hsplit
  exact (congrArg Prod.fst (Option.some.inj hsplit)).symm

theorem admits_authority {allowedHosts : List (List Char)} {policy : ProxyPolicy}
    (h : ProxyPolicy.new allowedHosts = .ok policy) {authority : List Char} :
    policy.admits authority ↔
      ∃ host port, authority = host ++ ':' :: port ∧ ':' ∉ host ∧ ':' ∉ port ∧ parseNat (2 ^ 16) port = some 443 ∧
        IsHostName (canonical host) ∧ ∃ pattern ∈ allowedHosts, Covers pattern (canonical host) := by
  unfold ProxyPolicy.admits
  constructor
  · intro hadmits
    cases hparse : parseAuthority authority with
    | none => rw [hparse] at hadmits; cases hadmits
    | some target =>
        obtain ⟨name, number⟩ := target
        rw [hparse] at hadmits
        obtain ⟨host, port, rfl, hhost, hcolon, rfl, hname, hport, -⟩ := parseAuthority_eq_some.mp hparse
        obtain ⟨hnumber, hallows⟩ := Bool.and_eq_true_iff.mp hadmits
        rw [of_decide_eq_true hnumber] at hport
        have hcovers := ((allows_iff h).mp hallows).2
        rw [canonical_hostName hname fun _ => toLower_canonical] at hcovers
        exact ⟨host, port, rfl, hhost, hcolon, hport, hname, hcovers⟩
  · rintro ⟨host, port, rfl, hhost, hcolon, hport, hname, hcovers⟩
    have hparse : parseAuthority (host ++ ':' :: port) = some (canonical host, 443) :=
      parseAuthority_eq_some.mpr ⟨host, port, rfl, hhost, hcolon, rfl, hname, hport, by decide⟩
    rw [hparse]
    refine Bool.and_eq_true_iff.mpr ⟨rfl, (allows_iff h).mpr ?_⟩
    rw [canonical_hostName hname fun _ => toLower_canonical]
    exact ⟨hname, hcovers⟩

/-- A tunnel is opened for an authenticated CONNECT request with an admitted authority. -/
theorem connectTarget_eq_ok {expectedAuthorization : String} {policy : ProxyPolicy}
    {result : Except (Stop IoErrorKind) RequestHead} {target : List Char × Nat} :
    connectTarget expectedAuthorization policy result = .ok target ↔
      ∃ request, result = .ok request ∧ request.authorization = some expectedAuthorization ∧ request.method = "CONNECT" ∧
        parseAuthority request.authority.toList = some target ∧ policy.admits request.authority.toList := by
  cases result with
  | error stop =>
      refine iff_of_false ?_ fun ⟨_, h, _⟩ => nomatch h
      rcases stop with _ | ⟨_ | _ | _ | _⟩ <;> exact fun h => nomatch h
  | ok request =>
      unfold connectTarget ProxyPolicy.admits
      simp only [Except.ok.injEq, exists_eq_left', ite_error_eq_ok, not_not]
      refine and_congr_right fun _ => and_congr_right fun _ => ?_
      cases hparse : parseAuthority request.authority.toList with
      | none => exact iff_of_false (fun h => nomatch h) fun h => nomatch h.1
      | some parsed =>
          obtain ⟨host, port⟩ := parsed
          simp only [ite_error_eq_ok, not_or, not_not, Except.ok.injEq, Option.some.injEq, Bool.and_eq_true]
          exact and_comm

/-- An address is never admitted, in whatever notation. -/
theorem not_admits_address {allowedHosts : List (List Char)} {policy : ProxyPolicy}
    (h : ProxyPolicy.new allowedHosts = .ok policy) {host : List Char} (haddress : isIpAddr host) (port : List Char) :
    ¬policy.admits (host ++ ':' :: port) := by
  intro hadmits
  obtain ⟨host', port', hsame, hhost', hport', -, hname, -⟩ := (admits_authority h).mp hadmits
  obtain rfl := colon_notMem_of_append hsame hhost' hport'
  have hnot := hname.notAddress
  rw [canonical_ipv4 (isIpv4_of_colon_notMem haddress hhost'), haddress] at hnot
  cases hnot

/-- **Which authorities are admitted.** A host and port 443, where the host is a host name for which a pattern of the
list stands; an address is none. Hosts and patterns are compared in normal form, and a normal form is its own. -/
theorem admits_iff {allowedHosts : List (List Char)} {policy : ProxyPolicy}
    (h : ProxyPolicy.new allowedHosts = .ok policy) :
    (∀ authority, policy.admits authority ↔
      ∃ host port, authority = host ++ ':' :: port ∧ ':' ∉ host ∧ ':' ∉ port ∧ parseNat (2 ^ 16) port = some 443 ∧
        IsHostName (canonical host) ∧ ∃ pattern ∈ allowedHosts, Covers pattern (canonical host)) ∧
    (∀ host port, isIpAddr host → ¬policy.admits (host ++ ':' :: port)) ∧
    (∀ host, (normalizeHost host).bind normalizeHost = normalizeHost host) ∧
    (∀ pattern, (normalizePattern pattern >>= normalizePattern) = normalizePattern pattern) := by
  refine ⟨fun authority => admits_authority h, fun host port haddress => not_admits_address h haddress port, fun host => ?_,
    fun pattern => ?_⟩
  · cases hhost : normalizeHost host with
    | none => rfl
    | some name => exact normalizeHost_normal hhost
  · cases hpattern : normalizePattern pattern with
    | error e => rfl
    | ok normal => exact normalizePattern_normal hpattern

theorem admits_iff_subdomain :
    ∃ policy, ProxyPolicy.new ["*.Example.com".toList] = .ok policy ∧ policy.admits "A.example.COM.:443".toList := by
  have hpolicy : ProxyPolicy.new ["*.Example.com".toList] = .ok ⟨["*.example.com".toList]⟩ := by decide
  have hhost : normalizeHost "A.example.COM.".toList = some "a.example.com".toList := by decide
  obtain ⟨hcanonical, hname⟩ := normalizeHost_eq_some.mp hhost
  refine ⟨_, hpolicy, ((admits_iff hpolicy).1 _).mpr ⟨"A.example.COM.".toList, "443".toList, by decide,
    by decide, by decide, by decide, hcanonical ▸ hname, _, List.mem_singleton_self _, ?_⟩⟩
  exact Or.inl ⟨"example.com".toList, ['a'], by decide, by decide, by decide⟩

/-- The text without its trailing dots, in lower case. -/
def folded (text : List Char) : List Char := (text.rdropWhile (· = '.')).map Char.toLower

/-- Letter case and trailing dots aside, the host is a plain pattern or lies below the domain of a pattern. Nothing is
asked of the host itself. -/
def NamedBy (allowedHosts : List (List Char)) (host : List Char) : Prop :=
  ∃ pattern ∈ allowedHosts,
    (∃ suffix front, folded pattern = '*' :: '.' :: suffix ∧ front ≠ [] ∧ folded host = front ++ '.' :: suffix) ∨
      ((∀ suffix, folded pattern ≠ '*' :: '.' :: suffix) ∧ folded host = folded pattern)

/-- A name with an underscore is refused, though it lies below the domain: it is no host name. White space before a host
is dropped. -/
theorem underscore_refused_tab_dropped :
    ∃ policy, ProxyPolicy.new ["*.example.com".toList, "example.org".toList] = .ok policy ∧
      (NamedBy ["*.example.com".toList, "example.org".toList] "_dmarc.example.com".toList ∧
        policy.admits "_dmarc.example.com:443".toList = false) ∧
      ¬NamedBy ["*.example.com".toList, "example.org".toList] "\texample.org".toList ∧
      policy.admits "\texample.org:443".toList = true := by
  have hpolicy : ProxyPolicy.new ["*.example.com".toList, "example.org".toList] =
      .ok ⟨["*.example.com".toList, "example.org".toList]⟩ := by decide
  have hdomain : folded "*.example.com".toList = '*' :: '.' :: "example.com".toList := by decide
  have hplain : (folded "example.org".toList).head? ≠ some '*' := by decide
  refine ⟨_, hpolicy, ⟨⟨_, List.mem_cons_self, Or.inl ⟨"example.com".toList, "_dmarc".toList, hdomain,
    by decide, by decide⟩⟩, by decide⟩, ?_, by decide⟩
  rintro ⟨pattern, hpattern, hnamed⟩
  rcases List.mem_cons.mp hpattern with rfl | hpattern
  · rw [hdomain] at hnamed
    rcases hnamed with ⟨suffix, front, hsuffix, -, hhost⟩ | ⟨hno, -⟩
    · rw [← List.tail_eq_of_cons_eq (List.tail_eq_of_cons_eq hsuffix)] at hhost
      have hends : '.' :: "example.com".toList <:+ folded "\texample.org".toList := ⟨front, hhost.symm⟩
      revert hends
      decide
    · exact hno _ rfl
  · obtain rfl := List.mem_singleton.mp hpattern
    rcases hnamed with ⟨suffix, front, hsuffix, -⟩ | ⟨-, hsame⟩
    · exact hplain (hsuffix ▸ rfl)
    · revert hsame
      decide

end HyperTerm.Daemon.Proxy
