import HyperTerm.Daemon.RuntimeTraceReplay

/-!
# What a runtime trace does not record

Two payloads that differ only in what is under sensitive keys are the same once those values are left out
(`withoutSecrets`). Nothing that is done with an input looks at more of it than that.

* `prepareInput_withoutSecrets`, `append_congr` : an input and a batch are taken as if nothing were under sensitive keys;
* `sanitizeValue_ok`, `sanitizeValue_of_fits` : when a value is sanitized, and to what;
* `redaction` : inputs that are alike but for their secrets have the same result, and sanitizing twice is sanitizing once.
-/

namespace HyperTerm.Daemon.RuntimeTrace
open HyperTerm.Protocol HyperTerm.Lib

variable {E : TraceEncodings} {depth : Nat} {s : Sanitizing}

/-! ## Values without their secrets -/

mutual

/-- The value, with null under every sensitive key. -/
def withoutSecrets : Value → Value
  | .null => .null
  | .bool b => .bool b
  | .number n => .number n
  | .string text => .string text
  | .array items => .array (itemsWithoutSecrets items)
  | .object members => .object (membersWithoutSecrets members)

def itemsWithoutSecrets : List Value → List Value
  | [] => []
  | value :: items => withoutSecrets value :: itemsWithoutSecrets items

def membersWithoutSecrets : List (String × Value) → List (String × Value)
  | [] => []
  | (key, value) :: members =>
      (key, if sensitiveKey key then .null else withoutSecrets value) :: membersWithoutSecrets members

end

example : withoutSecrets (.object [("id", .bool true), ("api-token", .array [.null])]) =
    .object [("id", .bool true), ("api-token", .null)] := by
  simp [withoutSecrets, membersWithoutSecrets, show sensitiveKey "id" = false by decide,
    show sensitiveKey "api-token" = true by decide]

theorem sanitizeItems_withoutSecrets {items : List Value}
    (h : ∀ value ∈ items, ∀ depth s, sanitizeValue depth s (withoutSecrets value) = sanitizeValue depth s value) :
    sanitizeItems depth s (itemsWithoutSecrets items) = sanitizeItems depth s items := by
  induction items generalizing s with
  | nil => rw [itemsWithoutSecrets]
  | cons value items ih =>
      obtain ⟨hvalue, hitems⟩ := List.forall_mem_cons.mp h
      rw [itemsWithoutSecrets, sanitizeItems, sanitizeItems, hvalue]
      refine bind_congr fun sanitized => ?_
      dsimp only
      rw [ih hitems]

theorem sanitizeMembers_withoutSecrets {members : List (String × Value)}
    (h : ∀ member ∈ members, ∀ depth s,
      sanitizeValue depth s (withoutSecrets member.2) = sanitizeValue depth s member.2) :
    sanitizeMembers depth s (membersWithoutSecrets members) = sanitizeMembers depth s members := by
  induction members generalizing s with
  | nil => rw [membersWithoutSecrets]
  | cons member members ih =>
      obtain ⟨key, value⟩ := member
      obtain ⟨hvalue, hmembers⟩ := List.forall_mem_cons.mp h
      rw [membersWithoutSecrets, sanitizeMembers, sanitizeMembers]
      by_cases hkey : sensitiveKey key = true
      · rw [if_pos hkey, if_pos hkey, ih hmembers]
      · rw [if_neg hkey, if_neg hkey, if_neg hkey, hvalue]
        congr 1
        refine bind_congr fun sanitized => ?_
        dsimp only
        rw [ih hmembers]

/-- Sanitizing does not look at secrets. -/
theorem sanitizeValue_withoutSecrets (value : Value) :
    ∀ depth s, sanitizeValue depth s (withoutSecrets value) = sanitizeValue depth s value := by
  induction value using Value.induction with
  | null => intro depth s; rw [withoutSecrets]
  | bool b => intro depth s; rw [withoutSecrets]
  | number n => intro depth s; rw [withoutSecrets]
  | string text => intro depth s; rw [withoutSecrets]
  | array items ih =>
      intro depth s
      rw [withoutSecrets, sanitizeValue, sanitizeValue]
      refine bind_congr fun visited => ?_
      rw [sanitizeItems_withoutSecrets ih]
  | object members ih =>
      intro depth s
      rw [withoutSecrets, sanitizeValue, sanitizeValue]
      refine bind_congr fun visited => ?_
      rw [sanitizeMembers_withoutSecrets ih]

/-! ## Inputs without their secrets -/

def GenUiRuntimeTraceInput.withoutSecrets (input : GenUiRuntimeTraceInput) : GenUiRuntimeTraceInput :=
  { input with payload := RuntimeTrace.withoutSecrets input.payload }

theorem membersWithoutSecrets_eq_map (members : List (String × Value)) :
    membersWithoutSecrets members =
      members.map fun member => (member.1, if sensitiveKey member.1 then .null else withoutSecrets member.2) := by
  induction members with
  | nil => rw [membersWithoutSecrets, List.map_nil]
  | cons member members ih => rw [membersWithoutSecrets, ih, List.map_cons]

/-- What is under a key that is not sensitive is there without its secrets. -/
theorem get_withoutSecrets {key : String} (hkey : sensitiveKey key = false) (value : Value) :
    (withoutSecrets value).get key = (value.get key).map withoutSecrets := by
  cases value with
  | object members =>
      rw [withoutSecrets, membersWithoutSecrets_eq_map]
      show List.lookup key _ = (List.lookup key members).map withoutSecrets
      induction members with
      | nil => rfl
      | cons member members ih =>
          rw [List.map_cons, List.lookup_cons, List.lookup_cons]
          by_cases hsame : key == member.1
          · have hmember : sensitiveKey member.1 = false := eq_of_beq hsame ▸ hkey
            rw [hsame, hmember]
            rfl
          · rw [Bool.eq_false_iff.mpr hsame]
            exact ih
  | null => rw [withoutSecrets]; rfl
  | bool b => rw [withoutSecrets]; rfl
  | number n => rw [withoutSecrets]; rfl
  | string text => rw [withoutSecrets]; rfl
  | array items => rw [withoutSecrets]; rfl

theorem asStr_withoutSecrets (value : Value) : (withoutSecrets value).asStr = value.asStr := by
  cases value <;> rw [withoutSecrets] <;> rfl

/-- The shape of a receipt has no sensitive keys. -/
theorem validateEffectReceipt_withoutSecrets (value : Value) :
    validateEffectReceipt (withoutSecrets value) = validateEffectReceipt value := by
  have hinput := get_withoutSecrets (show sensitiveKey "input" = false by decide) value
  have houtcome := get_withoutSecrets (show sensitiveKey "outcome" = false by decide) value
  have houtput := get_withoutSecrets (show sensitiveKey "output" = false by decide) value
  have herror := get_withoutSecrets (show sensitiveKey "error" = false by decide) value
  have hstr (found : Option Value) : (found.map withoutSecrets).bind Value.asStr = found.bind Value.asStr := by
    cases found with
    | none => rfl
    | some value => exact asStr_withoutSecrets value
  cases value with
  | object members =>
      have hnames : (membersWithoutSecrets members).any
          (fun member => !(["input", "outcome", "output", "error"].contains member.1)) =
            members.any (fun member => !(["input", "outcome", "output", "error"].contains member.1)) := by
        rw [membersWithoutSecrets_eq_map, List.any_map]
        rfl
      rw [withoutSecrets] at hinput houtcome houtput herror ⊢
      unfold validateEffectReceipt
      dsimp only
      rw [hinput, houtcome, houtput, herror, hnames, hstr, hstr]
      simp only [Option.isNone_map, Option.isSome_map]
  | null => rw [withoutSecrets]
  | bool b => rw [withoutSecrets]
  | number n => rw [withoutSecrets]
  | string text => rw [withoutSecrets]
  | array items => rw [withoutSecrets]; rfl

theorem checkInput_withoutSecrets (input : GenUiRuntimeTraceInput) : checkInput input.withoutSecrets = checkInput input := by
  unfold checkInput GenUiRuntimeTraceInput.withoutSecrets
  dsimp only
  rw [validateEffectReceipt_withoutSecrets]

/-- Nothing of an input but what is left without its secrets decides what it becomes. -/
theorem prepareInput_withoutSecrets (input : GenUiRuntimeTraceInput) :
    prepareInput E input.withoutSecrets = prepareInput E input := by
  unfold prepareInput
  rw [checkInput_withoutSecrets]
  show (_ >>= fun _ => sanitizeValue 0 ⟨0, false⟩ (withoutSecrets input.payload) >>= _) = _
  rw [sanitizeValue_withoutSecrets]
  rfl

theorem prepareInput_congr {input input' : GenUiRuntimeTraceInput} (h : input.withoutSecrets = input'.withoutSecrets) :
    prepareInput E input = prepareInput E input' := by
  rw [← prepareInput_withoutSecrets input, h, prepareInput_withoutSecrets]

/-- The inputs of two batches are alike but for their secrets, and are read at the same times. -/
def AlikeBatches (inputs inputs' : List (GenUiRuntimeTraceInput × Option Nat)) : Prop :=
  inputs.map (fun input => (input.1.withoutSecrets, input.2)) = inputs'.map fun input => (input.1.withoutSecrets, input.2)

theorem acceptInputs_congr {key : TraceKey} {checks : TraceChecks} {inputs inputs' : List (GenUiRuntimeTraceInput × Option Nat)}
    (h : AlikeBatches inputs inputs') : acceptInputs E key checks inputs = acceptInputs E key checks inputs' := by
  unfold AlikeBatches at h
  induction inputs generalizing checks inputs' with
  | nil =>
      obtain rfl := List.map_eq_nil_iff.mp h.symm
      rfl
  | cons input inputs ih =>
      cases inputs' with
      | nil => cases h
      | cons input' inputs' =>
          obtain ⟨hhead, htail⟩ := List.cons.inj h
          obtain ⟨hinput, hclock⟩ := Prod.mk.inj hhead
          have haccept : acceptInput E key input.2 checks input.1 = acceptInput E key input'.2 checks input'.1 := by
            unfold acceptInput
            rw [prepareInput_congr hinput, hclock]
          rw [acceptInputs, acceptInputs, haccept]
          refine bind_congr fun result => ?_
          cases result with
          | none => exact ih htail
          | some stored =>
              dsimp only
              rw [ih htail]

theorem append_congr {key : TraceKey} {inputs inputs' : List (GenUiRuntimeTraceInput × Option Nat)}
    (h : AlikeBatches inputs inputs') : append E key inputs = append E key inputs' := by
  have hlength : inputs.length = inputs'.length := by
    have hmapped := congrArg List.length h
    rwa [List.length_map, List.length_map] at hmapped
  have hempty : inputs = [] ↔ inputs' = [] := by
    rw [← List.length_eq_zero_iff, hlength, List.length_eq_zero_iff]
  have hinvalid : (key.sourceRevision = 0 ∨ inputs = [] ∨ maxTraceEventsPerAppend < inputs.length) ↔
      (key.sourceRevision = 0 ∨ inputs' = [] ∨ maxTraceEventsPerAppend < inputs'.length) := by
    rw [hempty, hlength]
  unfold append
  rw [InPlace.refuseIf_congr hinvalid]
  simp only [acceptInputs_congr h]

/-! ## Sanitizing as a function and a check -/

mutual

/-- What a value becomes. -/
def sanitized : Value → Value
  | .null => .null
  | .bool b => .bool b
  | .number n => .number n
  | .string text => .string text
  | .array items => .array (sanitizedItems items)
  | .object members => .object (sortByKey Prod.fst (sanitizedMembers members))

def sanitizedItems : List Value → List Value
  | [] => []
  | value :: items => sanitized value :: sanitizedItems items

def sanitizedMembers : List (String × Value) → List (String × Value)
  | [] => []
  | (key, value) :: members =>
      (key, if sensitiveKey key then .string redactedValue else sanitized value) :: sanitizedMembers members

end

mutual

/-- How many values are visited. -/
def visits : Value → Nat
  | .null | .bool _ | .number _ | .string _ => 1
  | .array items => 1 + itemsVisits items
  | .object members => 1 + membersVisits members

def itemsVisits : List Value → Nat
  | [] => 0
  | value :: items => visits value + itemsVisits items

def membersVisits : List (String × Value) → Nat
  | [] => 0
  | (key, value) :: members => (if sensitiveKey key then 0 else visits value) + membersVisits members

end

mutual

/-- No bound but that on the number of values is passed. -/
def Fits (depth : Nat) : Value → Prop
  | .null | .bool _ | .number _ => depth ≤ maxTraceValueDepth
  | .string text => depth ≤ maxTraceValueDepth ∧ text.utf8ByteSize ≤ maxTraceStringBytes
  | .array items => depth ≤ maxTraceValueDepth ∧ ItemsFit depth items
  | .object members => depth ≤ maxTraceValueDepth ∧ MembersFit depth members

def ItemsFit (depth : Nat) : List Value → Prop
  | [] => True
  | value :: items => Fits (depth + 1) value ∧ ItemsFit depth items

def MembersFit (depth : Nat) : List (String × Value) → Prop
  | [] => True
  | (key, value) :: members =>
      (key.isEmpty = false ∧ key.utf8ByteSize ≤ maxTraceNameBytes ∧ (sensitiveKey key = false → Fits (depth + 1) value)) ∧
        MembersFit depth members

end

theorem visit_eq_ok {s₁ : Sanitizing} :
    sanitizeValue.visit depth s = .ok s₁ ↔
      (depth ≤ maxTraceValueDepth ∧ s.nodes + 1 ≤ maxTraceValueNodes) ∧ s₁ = ⟨s.nodes + 1, s.redacted⟩ := by
  unfold sanitizeValue.visit
  by_cases h : maxTraceValueDepth < depth ∨ maxTraceValueNodes < s.nodes + 1
  · rw [if_pos h]
    refine iff_of_false (fun herror => nomatch herror) fun hok => ?_
    omega
  · rw [if_neg h, Except.ok.injEq, eq_comm, not_or, Nat.not_lt, Nat.not_lt] at *
    exact (and_iff_right h).symm

/-- What a pass that succeeds has found. -/
structure Passed {α : Type} (s : Sanitizing) (fits : Prop) (visits : Nat) (value value' : α) (s' : Sanitizing) : Prop where
  fits : fits
  value : value' = value
  nodes : s'.nodes = s.nodes + visits
  bounded : s'.nodes ≤ maxTraceValueNodes

theorem sanitizeItems_ok {items items' : List Value} {s' : Sanitizing}
    (ih : ∀ value ∈ items, ∀ depth s value' s', sanitizeValue depth s value = .ok (value', s') →
      Passed s (Fits depth value) (visits value) (sanitized value) value' s')
    (hs : s.nodes ≤ maxTraceValueNodes) (h : sanitizeItems depth s items = .ok (items', s')) :
    Passed s (ItemsFit depth items) (itemsVisits items) (sanitizedItems items) items' s' := by
  induction items generalizing s items' with
  | nil =>
      rw [sanitizeItems] at h
      obtain ⟨rfl, rfl⟩ := Prod.mk.inj (Except.ok.inj h)
      rw [ItemsFit, itemsVisits, sanitizedItems]
      exact ⟨trivial, rfl, rfl, hs⟩
  | cons value items iht =>
      obtain ⟨hvalue, hitems⟩ := List.forall_mem_cons.mp ih
      rw [sanitizeItems] at h
      obtain ⟨⟨value', s₁⟩, hone, h⟩ := bind_eq_ok.mp h
      obtain ⟨⟨rest, s₂⟩, hrest, h⟩ := bind_eq_ok.mp h
      obtain ⟨rfl, rfl⟩ := Prod.mk.inj (Except.ok.inj h)
      have hfirst := hvalue _ _ _ _ hone
      have hlast := iht hitems hfirst.bounded hrest
      rw [ItemsFit, itemsVisits, sanitizedItems]
      refine ⟨⟨hfirst.fits, hlast.fits⟩, ?_, ?_, hlast.bounded⟩
      · rw [hfirst.value, hlast.value]
      · rw [hlast.nodes, hfirst.nodes, Nat.add_assoc]

theorem sanitizeMembers_ok {members members' : List (String × Value)} {s' : Sanitizing}
    (ih : ∀ member ∈ members, ∀ depth s value' s', sanitizeValue depth s member.2 = .ok (value', s') →
      Passed s (Fits depth member.2) (visits member.2) (sanitized member.2) value' s')
    (hs : s.nodes ≤ maxTraceValueNodes) (h : sanitizeMembers depth s members = .ok (members', s')) :
    Passed s (MembersFit depth members) (membersVisits members) (sanitizedMembers members) members' s' := by
  induction members generalizing s members' with
  | nil =>
      rw [sanitizeMembers] at h
      obtain ⟨rfl, rfl⟩ := Prod.mk.inj (Except.ok.inj h)
      rw [MembersFit, membersVisits, sanitizedMembers]
      exact ⟨trivial, rfl, rfl, hs⟩
  | cons member members iht =>
      obtain ⟨key, value⟩ := member
      obtain ⟨hvalue, hmembers⟩ := List.forall_mem_cons.mp ih
      rw [sanitizeMembers] at h
      split at h
      · cases h
      rename_i hname
      rw [not_or, Bool.not_eq_true, Nat.not_lt] at hname
      rw [MembersFit, membersVisits, sanitizedMembers]
      by_cases hkey : sensitiveKey key = true
      · rw [if_pos hkey] at h
        obtain ⟨⟨rest, s₂⟩, hrest, h⟩ := bind_eq_ok.mp h
        obtain ⟨rfl, rfl⟩ := Prod.mk.inj (Except.ok.inj h)
        have hlast := iht (s := ⟨s.nodes, true⟩) hmembers hs hrest
        rw [if_pos hkey, if_pos hkey, Nat.zero_add]
        refine ⟨⟨⟨hname.1, hname.2, fun hfalse => ?_⟩, hlast.fits⟩, ?_, hlast.nodes, hlast.bounded⟩
        · rw [hkey] at hfalse
          cases hfalse
        · rw [hlast.value]
      · rw [if_neg hkey] at h
        obtain ⟨⟨value', s₁⟩, hone, h⟩ := bind_eq_ok.mp h
        obtain ⟨⟨rest, s₂⟩, hrest, h⟩ := bind_eq_ok.mp h
        obtain ⟨rfl, rfl⟩ := Prod.mk.inj (Except.ok.inj h)
        have hfirst := hvalue _ _ _ _ hone
        have hlast := iht hmembers hfirst.bounded hrest
        rw [if_neg hkey, if_neg hkey]
        refine ⟨⟨⟨hname.1, hname.2, fun _ => hfirst.fits⟩, hlast.fits⟩, ?_, ?_, hlast.bounded⟩
        · rw [hfirst.value, hlast.value]
        · rw [hlast.nodes, hfirst.nodes, Nat.add_assoc]

/-- A value that is sanitized fits, and becomes what it should. -/
theorem sanitizeValue_ok (value : Value) : ∀ depth s value' s', sanitizeValue depth s value = .ok (value', s') →
    Passed s (Fits depth value) (visits value) (sanitized value) value' s' := by
  induction value using Value.induction with
  | null | bool b | number n =>
      intro depth s value' s' h
      rw [sanitizeValue] at h
      obtain ⟨s₁, hvisit, h⟩ := bind_eq_ok.mp h
      obtain ⟨rfl, rfl⟩ := Prod.mk.inj (Except.ok.inj h)
      obtain ⟨hbounds, rfl⟩ := visit_eq_ok.mp hvisit
      rw [Fits, visits, sanitized]
      exact ⟨hbounds.1, rfl, rfl, hbounds.2⟩
  | string text =>
      intro depth s value' s' h
      rw [sanitizeValue] at h
      obtain ⟨s₁, hvisit, h⟩ := bind_eq_ok.mp h
      obtain ⟨hbounds, rfl⟩ := visit_eq_ok.mp hvisit
      split at h
      · cases h
      rename_i hsize
      obtain ⟨rfl, rfl⟩ := Prod.mk.inj (Except.ok.inj h)
      rw [Fits, visits, sanitized]
      exact ⟨⟨hbounds.1, Nat.le_of_not_lt hsize⟩, rfl, rfl, hbounds.2⟩
  | array items ih =>
      intro depth s value' s' h
      rw [sanitizeValue] at h
      obtain ⟨s₁, hvisit, h⟩ := bind_eq_ok.mp h
      obtain ⟨hbounds, rfl⟩ := visit_eq_ok.mp hvisit
      obtain ⟨⟨items', s₂⟩, hitems, h⟩ := bind_eq_ok.mp h
      obtain ⟨rfl, rfl⟩ := Prod.mk.inj (Except.ok.inj h)
      have hpassed := sanitizeItems_ok ih hbounds.2 hitems
      rw [Fits, visits, sanitized]
      exact ⟨⟨hbounds.1, hpassed.fits⟩, congrArg Value.array hpassed.value, hpassed.nodes.trans (Nat.add_assoc ..),
        hpassed.bounded⟩
  | object members ih =>
      intro depth s value' s' h
      rw [sanitizeValue] at h
      obtain ⟨s₁, hvisit, h⟩ := bind_eq_ok.mp h
      obtain ⟨hbounds, rfl⟩ := visit_eq_ok.mp hvisit
      obtain ⟨⟨members', s₂⟩, hmembers, h⟩ := bind_eq_ok.mp h
      obtain ⟨rfl, rfl⟩ := Prod.mk.inj (Except.ok.inj h)
      have hpassed := sanitizeMembers_ok ih hbounds.2 hmembers
      rw [Fits, visits, sanitized]
      exact ⟨⟨hbounds.1, hpassed.fits⟩, congrArg (fun members => Value.object (sortByKey Prod.fst members)) hpassed.value,
        hpassed.nodes.trans (Nat.add_assoc ..), hpassed.bounded⟩

theorem sanitizeItems_of_fits {items : List Value}
    (ih : ∀ value ∈ items, ∀ depth s, Fits depth value → s.nodes + visits value ≤ maxTraceValueNodes →
      ∃ redacted, sanitizeValue depth s value = .ok (sanitized value, ⟨s.nodes + visits value, redacted⟩))
    (hfits : ItemsFit depth items) (hnodes : s.nodes + itemsVisits items ≤ maxTraceValueNodes) :
    ∃ redacted, sanitizeItems depth s items = .ok (sanitizedItems items, ⟨s.nodes + itemsVisits items, redacted⟩) := by
  induction items generalizing s with
  | nil =>
      rw [sanitizeItems, sanitizedItems, itemsVisits]
      exact ⟨s.redacted, rfl⟩
  | cons value items iht =>
      obtain ⟨hvalue, hitems⟩ := List.forall_mem_cons.mp ih
      rw [ItemsFit] at hfits
      rw [itemsVisits, ← Nat.add_assoc] at hnodes
      obtain ⟨redacted, hone⟩ := hvalue _ s hfits.1 (Nat.le_of_add_right_le hnodes)
      obtain ⟨redacted', hrest⟩ := iht (s := ⟨s.nodes + visits value, redacted⟩) hitems hfits.2 hnodes
      refine ⟨redacted', ?_⟩
      rw [sanitizeItems, sanitizedItems, itemsVisits, hone]
      simp only [bind, Except.bind, hrest, Nat.add_assoc]
      rfl

theorem sanitizeMembers_of_fits {members : List (String × Value)}
    (ih : ∀ member ∈ members, ∀ depth s, Fits depth member.2 → s.nodes + visits member.2 ≤ maxTraceValueNodes →
      ∃ redacted, sanitizeValue depth s member.2 = .ok (sanitized member.2, ⟨s.nodes + visits member.2, redacted⟩))
    (hfits : MembersFit depth members) (hnodes : s.nodes + membersVisits members ≤ maxTraceValueNodes) :
    ∃ redacted, sanitizeMembers depth s members =
      .ok (sanitizedMembers members, ⟨s.nodes + membersVisits members, redacted⟩) := by
  induction members generalizing s with
  | nil =>
      rw [sanitizeMembers, sanitizedMembers, membersVisits]
      exact ⟨s.redacted, rfl⟩
  | cons member members iht =>
      obtain ⟨key, value⟩ := member
      obtain ⟨hvalue, hmembers⟩ := List.forall_mem_cons.mp ih
      rw [MembersFit] at hfits
      obtain ⟨⟨hempty, hlength, hfits⟩, hrestFits⟩ := hfits
      have hname : ¬(key.isEmpty = true ∨ maxTraceNameBytes < key.utf8ByteSize) := by
        rw [hempty, not_or]
        exact ⟨Bool.false_ne_true, Nat.not_lt.mpr hlength⟩
      rw [membersVisits] at hnodes
      rw [sanitizeMembers, sanitizedMembers, membersVisits, if_neg hname]
      by_cases hkey : sensitiveKey key = true
      · rw [if_pos hkey, Nat.zero_add] at hnodes
        obtain ⟨redacted, hrest⟩ := iht (s := ⟨s.nodes, true⟩) hmembers hrestFits hnodes
        refine ⟨redacted, ?_⟩
        rw [if_pos hkey, if_pos hkey, if_pos hkey, hrest, Nat.zero_add]
        rfl
      · rw [if_neg hkey, ← Nat.add_assoc] at hnodes
        obtain ⟨redacted, hone⟩ := hvalue _ s (hfits (Bool.eq_false_iff.mpr hkey)) (Nat.le_of_add_right_le hnodes)
        obtain ⟨redacted', hrest⟩ := iht (s := ⟨s.nodes + visits value, redacted⟩) hmembers hrestFits hnodes
        refine ⟨redacted', ?_⟩
        dsimp only at hone
        rw [if_neg hkey, if_neg hkey, if_neg hkey, hone]
        simp only [bind, Except.bind, hrest, Nat.add_assoc]
        rfl

/-- A value that fits is sanitized. -/
theorem sanitizeValue_of_fits (value : Value) : ∀ depth s, Fits depth value → s.nodes + visits value ≤ maxTraceValueNodes →
    ∃ redacted, sanitizeValue depth s value = .ok (sanitized value, ⟨s.nodes + visits value, redacted⟩) := by
  induction value using Value.induction with
  | null | bool b | number n =>
      intro depth s hfits hnodes
      rw [Fits] at hfits
      rw [visits] at hnodes
      rw [sanitizeValue, sanitized, visits, visit_eq_ok.mpr ⟨⟨hfits, hnodes⟩, rfl⟩]
      exact ⟨s.redacted, rfl⟩
  | string text =>
      intro depth s hfits hnodes
      rw [Fits] at hfits
      rw [visits] at hnodes
      rw [sanitizeValue, sanitized, visits, visit_eq_ok.mpr ⟨⟨hfits.1, hnodes⟩, rfl⟩]
      exact ⟨s.redacted, if_neg (Nat.not_lt.mpr hfits.2)⟩
  | array items ih =>
      intro depth s hfits hnodes
      rw [Fits] at hfits
      rw [visits, ← Nat.add_assoc] at hnodes
      rw [sanitizeValue, sanitized, visits, visit_eq_ok.mpr ⟨⟨hfits.1, Nat.le_of_add_right_le hnodes⟩, rfl⟩]
      obtain ⟨redacted, hitems⟩ := sanitizeItems_of_fits (s := ⟨s.nodes + 1, s.redacted⟩) ih hfits.2 hnodes
      refine ⟨redacted, ?_⟩
      simp only [bind, Except.bind, hitems, Nat.add_assoc]
      rfl
  | object members ih =>
      intro depth s hfits hnodes
      rw [Fits] at hfits
      rw [visits, ← Nat.add_assoc] at hnodes
      rw [sanitizeValue, sanitized, visits, visit_eq_ok.mpr ⟨⟨hfits.1, Nat.le_of_add_right_le hnodes⟩, rfl⟩]
      obtain ⟨redacted, hmembers⟩ := sanitizeMembers_of_fits (s := ⟨s.nodes + 1, s.redacted⟩) ih hfits.2 hnodes
      refine ⟨redacted, ?_⟩
      simp only [bind, Except.bind, hmembers, Nat.add_assoc]
      rfl

/-! ## Sanitizing twice -/

/-- What one member becomes. -/
def sanitizedMember (member : String × Value) : String × Value :=
  (member.1, if sensitiveKey member.1 then .string redactedValue else sanitized member.2)

def memberVisits (member : String × Value) : Nat := if sensitiveKey member.1 then 0 else visits member.2

def MemberFits (depth : Nat) (member : String × Value) : Prop :=
  member.1.isEmpty = false ∧ member.1.utf8ByteSize ≤ maxTraceNameBytes ∧
    (sensitiveKey member.1 = false → Fits (depth + 1) member.2)

theorem sanitizedMembers_eq_map (members : List (String × Value)) :
    sanitizedMembers members = members.map sanitizedMember := by
  induction members with
  | nil => rw [sanitizedMembers, List.map_nil]
  | cons member members ih => rw [sanitizedMembers, ih, List.map_cons]; rfl

theorem membersVisits_eq_sum (members : List (String × Value)) : membersVisits members = (members.map memberVisits).sum := by
  induction members with
  | nil => rw [membersVisits, List.map_nil, List.sum_nil]
  | cons member members ih => rw [membersVisits, ih, List.map_cons, List.sum_cons]; rfl

theorem membersFit_iff {members : List (String × Value)} :
    MembersFit depth members ↔ ∀ member ∈ members, MemberFits depth member := by
  induction members with
  | nil => simp [MembersFit]
  | cons member members ih => rw [MembersFit, ih, List.forall_mem_cons]; rfl

/-- What is sanitized already stays as it is, and is no larger. -/
structure Stable (value : Value) : Prop where
  again : sanitized (sanitized value) = sanitized value
  visits : visits (sanitized value) = visits value
  fits : ∀ depth, Fits depth value → Fits depth (sanitized value)

theorem sanitizedMember_stable {member : String × Value} (h : Stable member.2) :
    sanitizedMember (sanitizedMember member) = sanitizedMember member ∧
      memberVisits (sanitizedMember member) = memberVisits member ∧
      ∀ depth, MemberFits depth member → MemberFits depth (sanitizedMember member) := by
  unfold sanitizedMember memberVisits MemberFits
  dsimp only
  by_cases hkey : sensitiveKey member.1 = true
  · simp only [hkey, if_true]
    exact ⟨trivial, trivial, fun depth hfits => ⟨hfits.1, hfits.2.1, fun hfalse => (nomatch hfalse)⟩⟩
  · simp only [hkey, if_false, Bool.false_eq_true]
    refine ⟨by rw [h.again], h.visits, fun depth hfits => ⟨hfits.1, hfits.2.1, fun hfalse => ?_⟩⟩
    exact h.fits _ (hfits.2.2 hfalse)

theorem stable (value : Value) : Stable value := by
  induction value using Value.induction with
  | null | bool b | number n | string text =>
      constructor
      · rw [sanitized, sanitized]
      · rw [sanitized]
      · intro depth hfits
        rw [sanitized]
        exact hfits
  | array items ih =>
      have hitems : sanitizedItems (sanitizedItems items) = sanitizedItems items ∧
          itemsVisits (sanitizedItems items) = itemsVisits items ∧
          ∀ depth, ItemsFit depth items → ItemsFit depth (sanitizedItems items) := by
        induction items with
        | nil => simp [sanitizedItems, itemsVisits]
        | cons value items iht =>
            obtain ⟨hvalue, hitems⟩ := List.forall_mem_cons.mp ih
            obtain ⟨htwice, hvisits, hfits⟩ := iht hitems
            rw [sanitizedItems, sanitizedItems, itemsVisits, itemsVisits, htwice, hvisits, hvalue.again, hvalue.visits]
            refine ⟨rfl, rfl, fun depth hfit => ?_⟩
            rw [ItemsFit] at hfit ⊢
            exact ⟨hvalue.fits _ hfit.1, hfits _ hfit.2⟩
      constructor
      · rw [sanitized, sanitized, hitems.1]
      · rw [sanitized, visits, visits, hitems.2.1]
      · intro depth hfits
        rw [sanitized]
        rw [Fits] at hfits ⊢
        exact ⟨hfits.1, hitems.2.2 depth hfits.2⟩
  | object members ih =>
      have hperm : (sortByKey Prod.fst (sanitizedMembers members)).Perm (members.map sanitizedMember) := by
        rw [← sanitizedMembers_eq_map]
        exact sortByKey_perm _ _
      have hmembers (member) (hmem : member ∈ sortByKey Prod.fst (sanitizedMembers members)) :
          ∃ original ∈ members, member = sanitizedMember original := by
        obtain ⟨original, horiginal, hsame⟩ := List.mem_map.mp (hperm.mem_iff.mp hmem)
        exact ⟨original, horiginal, hsame.symm⟩
      constructor
      · -- every member is one that sanitizing leaves as it is, and they are sorted
        have hsame : sanitizedMembers (sortByKey Prod.fst (sanitizedMembers members)) =
            sortByKey Prod.fst (sanitizedMembers members) := by
          rw [sanitizedMembers_eq_map (sortByKey _ _)]
          refine (List.map_congr_left fun member hmem => ?_).trans (List.map_id _)
          obtain ⟨original, horiginal, rfl⟩ := hmembers member hmem
          exact (sanitizedMember_stable (ih original horiginal)).1
        rw [sanitized, sanitized, hsame, sortByKey_sortByKey]
      · have hsum : (members.map (memberVisits ∘ sanitizedMember)).sum = (members.map memberVisits).sum := by
          congr 1
          exact List.map_congr_left fun member hmem => (sanitizedMember_stable (ih member hmem)).2.1
        rw [sanitized, visits, visits, membersVisits_eq_sum, membersVisits_eq_sum, (hperm.map memberVisits).sum_nat,
          List.map_map, hsum]
      · intro depth hfits
        rw [sanitized]
        rw [Fits] at hfits ⊢
        refine ⟨hfits.1, membersFit_iff.mpr fun member hmem => ?_⟩
        obtain ⟨original, horiginal, rfl⟩ := hmembers member hmem
        exact (sanitizedMember_stable (ih original horiginal)).2.2 depth (membersFit_iff.mp hfits.2 original horiginal)

/-- What was sanitized is sanitized to itself. -/
theorem sanitizeValue_again {value value' : Value} {s' : Sanitizing}
    (h : sanitizeValue depth s value = .ok (value', s')) :
    ∃ redacted, sanitizeValue depth s value' = .ok (value', ⟨s'.nodes, redacted⟩) := by
  have hpassed := sanitizeValue_ok value depth s value' s' h
  have hstable := stable value
  have hnodes : s.nodes + visits (sanitized value) = s'.nodes := by rw [hstable.visits, hpassed.nodes]
  obtain ⟨redacted, hagain⟩ := sanitizeValue_of_fits (sanitized value) depth s (hstable.fits depth hpassed.fits)
    (hnodes.trans_le hpassed.bounded)
  rw [hpassed.value]
  rw [hstable.again, hnodes] at hagain
  exact ⟨redacted, hagain⟩

/-- **Main result.** Inputs that are alike but for their secrets are prepared alike, batches of them do the same to every
journal, and a payload that was sanitized stays as it is. -/
theorem redaction (E : TraceEncodings) :
    (∀ input input' : GenUiRuntimeTraceInput, input.withoutSecrets = input'.withoutSecrets →
      prepareInput E input = prepareInput E input') ∧
    (∀ key inputs inputs', AlikeBatches inputs inputs' → append E key inputs = append E key inputs') ∧
    ∀ depth s value value' s', sanitizeValue depth s value = .ok (value', s') →
      ∃ redacted, sanitizeValue depth s value' = .ok (value', ⟨s'.nodes, redacted⟩) :=
  ⟨fun _ _ h => prepareInput_congr h, fun _ _ _ h => append_congr h, fun _ _ _ _ _ h => sanitizeValue_again h⟩

/-- An action with a password. -/
def loginInput (password : String) : GenUiRuntimeTraceInput where
  schemaVersion := runtimeTraceSchemaVersion
  streamId := 4
  clientSequence := 1
  kind := .action
  name := "login"
  payload := .object [("user", .string "ada"), ("login-password", .string password)]

theorem redaction_login :
    prepareInput windowEncodings (loginInput "one") = prepareInput windowEncodings (loginInput "another") ∧
      append windowEncodings windowKey [(loginInput "one", some 0)] =
        append windowEncodings windowKey [(loginInput "another", some 0)] ∧
      ∃ redacted, sanitizeValue 0 ⟨0, false⟩ (.bool true) = .ok (.bool true, ⟨1, redacted⟩) := by
  have hkey : sensitiveKey "login-password" = true := by decide
  have hsame : (loginInput "one").withoutSecrets = (loginInput "another").withoutSecrets := by
    simp [GenUiRuntimeTraceInput.withoutSecrets, loginInput, withoutSecrets, membersWithoutSecrets, hkey]
  have hbool : sanitizeValue 0 ⟨0, false⟩ (.bool true) = .ok (.bool true, ⟨1, false⟩) := by
    rw [sanitizeValue]
    rfl
  obtain ⟨hprepare, happend, hagain⟩ := redaction windowEncodings
  exact ⟨hprepare _ _ hsame, happend _ _ _ (congrArg (fun input => [(input, some 0)]) hsame), hagain _ _ _ _ _ hbool⟩

end HyperTerm.Daemon.RuntimeTrace
