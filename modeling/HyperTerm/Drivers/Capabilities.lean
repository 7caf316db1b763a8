import HyperTerm.Drivers.AcpRequests
import HyperTerm.Lib.CharBoundary
import HyperTerm.Lib.Result

/-!
# The capabilities of a session

What a provider advertises of a session is kept for the composer, within bounds. Updates and responses replace the options,
select a mode, and change the title and the usage.

* `normalizeConfigOptions`, `normalizeSessionModes` : the options, and the modes as an option of their own;
* `CapabilityEvent`, `apply` : what changes the capabilities, with what is returned;
* `Sound` : few options under distinct identifiers, the mode first, selections among the choices, usage within the window;
* `Clear` : no two options have one identifier, and what is refused is refused before something is changed;
* `capabilities_sound` : then the capabilities are sound, and what is refused leaves them as they are.
-/

namespace HyperTerm.Drivers.Capabilities
open HyperTerm.Lib

def acpSessionModeConfigId : String := "acp.session_mode"

def maxSessionConfigOptions : Nat := 24

def maxSessionConfigChoices : Nat := 96

def maxCapabilityIdBytes : Nat := 128

def maxCapabilityLabelBytes : Nat := 256

def maxCapabilityDescriptionBytes : Nat := 2048

def maxSessionTitleBytes : Nat := 256

def maxSessionUpdatedAtBytes : Nat := 64

/-! ## The capabilities -/

structure AgentSessionConfigChoice where
  value : String
  name : String
  description : Option String
  group : Option String
  deriving DecidableEq

inductive AgentSessionConfigKind where
  | select (currentValue : String)
  | boolean (currentValue : Bool)
  deriving DecidableEq

structure AgentSessionConfigOption where
  id : String
  name : String
  description : Option String
  category : Option String
  kind : AgentSessionConfigKind
  choices : List AgentSessionConfigChoice
  deriving DecidableEq

structure AgentSessionUsage where
  used : Nat
  size : Nat
  deriving DecidableEq

structure AgentSessionCapabilities where
  title : Option String
  updatedAt : Option String
  usage : Option AgentSessionUsage
  configOptions : List AgentSessionConfigOption
  deriving DecidableEq

/-- `AgentSessionCapabilities::default`. -/
def AgentSessionCapabilities.start : AgentSessionCapabilities := ⟨none, none, none, []⟩

/-! ## What a provider sends -/

structure SessionMode where
  id : String
  name : String
  description : Option String

structure SessionModeState where
  currentModeId : String
  availableModes : List SessionMode

structure SessionConfigSelectOption where
  value : String
  name : String
  description : Option String

structure SessionConfigSelectGroup where
  name : String
  options : List SessionConfigSelectOption

inductive SessionConfigSelectOptions where
  | ungrouped (options : List SessionConfigSelectOption)
  | grouped (groups : List SessionConfigSelectGroup)
  | unsupported

inductive SessionConfigKind where
  | select (currentValue : String) (options : SessionConfigSelectOptions)
  | boolean (currentValue : Bool)
  | unsupported

inductive SessionConfigOptionCategory where
  | mode
  | model
  | modelConfig
  | thoughtLevel
  | other (value : String)
  | unknown

structure SessionConfigOption where
  id : String
  name : String
  description : Option String
  category : Option SessionConfigOptionCategory
  kind : SessionConfigKind

inductive MaybeUndefined where
  | undefined
  | null
  | value (text : String)

inductive SessionUpdate where
  | configOptionUpdate (configOptions : List SessionConfigOption)
  | currentModeUpdate (currentModeId : String)
  | sessionInfoUpdate (title updatedAt : MaybeUndefined)
  | usageUpdate (used size : Nat)
  | other

/-! ## Texts -/

/-- `char::is_control`. -/
def isControl (c : Char) : Bool := c.toNat < 32 ∨ (127 ≤ c.toNat ∧ c.toNat < 160)

/-- `str::trim`. -/
def trimmed (text : String) : String := String.ofList (trim text.toList)

def applyOptionalText (target : Option String) (update : MaybeUndefined) (maximum : Nat) (label : String) :
    Except AcpError (Option String) :=
  match update with
  | .undefined => .ok target
  | .null => .ok none
  | .value text =>
      if (trimmed text).toList.any isControl then .error (.invalidMessage (label ++ " contains control characters"))
      else if trimmed text = "" then .ok none
      else (boundedText (trimmed text) maximum).map some

def applyOptionalDisplayText (target : Option String) (update : MaybeUndefined) (maximum : Nat) (label : String) :
    Except AcpError (Option String) :=
  match update with
  | .undefined => .ok target
  | .null => .ok none
  | .value text =>
      if (trimmed text).toList.any isControl then .error (.invalidMessage (label ++ " contains control characters"))
      else
        let value := (trimmed text).toList
        let stop := boundaryBelow value (min (utf8 value).length maximum)
        if stop = 0 then .ok none
        else .ok (some (String.ofList (((splitAtByte value stop).map Prod.fst).getD [])))

def boundedOption (text : Option String) (maximum : Nat) : Except AcpError (Option String) :=
  match text with
  | none => .ok none
  | some text => (boundedText text maximum).map some

/-! ## Options -/

def normalizeConfigChoice (group : Option String) (option : SessionConfigSelectOption) :
    Except AcpError AgentSessionConfigChoice := do
  let value ← boundedText option.value maxCapabilityIdBytes
  let name ← boundedText option.name maxCapabilityLabelBytes
  let description ← boundedOption option.description maxCapabilityDescriptionBytes
  .ok ⟨value, name, description, group⟩

def normalizeGroup (group : SessionConfigSelectGroup) : Except AcpError (List AgentSessionConfigChoice) := do
  let groupName ← boundedText group.name maxCapabilityLabelBytes
  group.options.mapM (normalizeConfigChoice (some groupName))

def normalizeConfigChoices (options : SessionConfigSelectOptions) : Except AcpError (List AgentSessionConfigChoice) := do
  let choices ← match options with
    | .ungrouped options => options.mapM (normalizeConfigChoice none)
    | .grouped groups => (groups.mapM normalizeGroup).map List.flatten
    | .unsupported => .error (.invalidMessage "ACP session configuration uses unsupported choice grouping")
  if maxSessionConfigChoices < choices.length then
    .error (.invalidMessage "ACP session configuration exceeded its choice bound")
  else .ok choices

def normalizeCategory : SessionConfigOptionCategory → Option String
  | .mode => some "mode"
  | .model => some "model"
  | .modelConfig => some "model_config"
  | .thoughtLevel => some "thought_level"
  | .other value => (boundedText value maxCapabilityIdBytes).toOption
  | .unknown => none

def hasValue (choices : List AgentSessionConfigChoice) (value : String) : Bool := choices.any fun choice => choice.value = value

def normalizeKind (id : String) (kind : SessionConfigKind) :
    Except AcpError (AgentSessionConfigKind × List AgentSessionConfigChoice) :=
  match kind with
  | .select currentValue options => do
      let currentValue ← boundedText currentValue maxCapabilityIdBytes
      let choices ← normalizeConfigChoices options
      if hasValue choices currentValue then .ok (.select currentValue, choices)
      else .error (.invalidMessage ("ACP session configuration " ++ id ++ " selected an unavailable value"))
  | .boolean currentValue => .ok (.boolean currentValue, [])
  | .unsupported => .error (.invalidMessage ("ACP session configuration " ++ id ++ " has an unsupported kind"))

def normalizeConfigOption (option : SessionConfigOption) : Except AcpError AgentSessionConfigOption := do
  let id ← boundedText option.id maxCapabilityIdBytes
  if id = acpSessionModeConfigId then
    .error (.invalidMessage "ACP session configuration used Hyper Term's reserved mode ID")
  else do
    let name ← boundedText option.name maxCapabilityLabelBytes
    let description ← boundedOption option.description maxCapabilityDescriptionBytes
    let (kind, choices) ← normalizeKind id option.kind
    .ok ⟨id, name, description, option.category.bind normalizeCategory, kind, choices⟩

def normalizeConfigOptions (options : List SessionConfigOption) : Except AcpError (List AgentSessionConfigOption) :=
  if maxSessionConfigOptions < options.length then
    .error (.invalidMessage "ACP session configuration exceeded its option bound")
  else options.mapM normalizeConfigOption

/-! ## Modes -/

/-- The loop of `normalize_session_modes`, with the identifiers it has seen. -/
def normalizeModes : List String → List SessionMode → Except AcpError (List AgentSessionConfigChoice)
  | _, [] => .ok []
  | seen, mode :: modes => do
      let value ← boundedText mode.id maxCapabilityIdBytes
      if value ∈ seen then .error (.invalidMessage ("ACP repeated session mode " ++ value))
      else do
        let name ← boundedText mode.name maxCapabilityLabelBytes
        let description ← boundedOption mode.description maxCapabilityDescriptionBytes
        let choices ← normalizeModes (value :: seen) modes
        .ok (⟨value, name, description, none⟩ :: choices)

def normalizeSessionModes (modes : SessionModeState) : Except AcpError AgentSessionConfigOption :=
  if modes.availableModes.length = 0 ∨ maxSessionConfigChoices < modes.availableModes.length then
    .error (.invalidMessage "ACP session modes exceeded their choice bound")
  else do
    let currentValue ← boundedText modes.currentModeId maxCapabilityIdBytes
    let choices ← normalizeModes [] modes.availableModes
    if hasValue choices currentValue then
      .ok ⟨acpSessionModeConfigId, "Mode", some "Agent behavior and tool access for the next turn", some "mode",
        .select currentValue, choices⟩
    else .error (.invalidMessage ("ACP current session mode " ++ currentValue ++ " is unavailable"))

/-- The mode goes in front of the options, as far as there is room for it. -/
def insertMode (mode : Option AgentSessionConfigOption) (normalized : List AgentSessionConfigOption) :
    Except AcpError (List AgentSessionConfigOption) :=
  match mode with
  | none => .ok normalized
  | some mode =>
      if normalized.length = maxSessionConfigOptions then
        .error (.invalidMessage "ACP session controls exceeded their option bound")
      else .ok (mode :: normalized)

def normalizeMode : Option SessionModeState → Except AcpError (Option AgentSessionConfigOption)
  | none => .ok none
  | some modes => (normalizeSessionModes modes).map some

def normalizeSessionCapabilities (modes : Option SessionModeState) (options : List SessionConfigOption) :
    Except AcpError (List AgentSessionConfigOption) := do
  let normalized ← normalizeConfigOptions options
  let mode ← normalizeMode modes
  insertMode mode normalized

def isMode (option : AgentSessionConfigOption) : Bool := option.id = acpSessionModeConfigId

/-! ## Changes -/

def replaceConfigOptionsPreservingMode (c : AgentSessionCapabilities) (options : List SessionConfigOption) :
    AgentSessionCapabilities × Except AcpError Unit :=
  match (normalizeConfigOptions options).bind (insertMode (c.configOptions.find? isMode)) with
  | .error error => (c, .error error)
  | .ok configOptions => ({ c with configOptions }, .ok ())

def selecting (currentValue : String) (option : AgentSessionConfigOption) : AgentSessionConfigOption :=
  { option with kind := .select currentValue }

def updateSessionMode (c : AgentSessionCapabilities) (currentModeId : String) :
    AgentSessionCapabilities × Except AcpError Unit :=
  match boundedText currentModeId maxCapabilityIdBytes with
  | .error error => (c, .error error)
  | .ok currentModeId =>
      match c.configOptions.find? isMode with
      | none => (c, .error (.invalidMessage "ACP current_mode_update arrived without advertised modes"))
      | some mode =>
          if hasValue mode.choices currentModeId then
            ({ c with configOptions := updateFirst isMode (selecting currentModeId) c.configOptions }, .ok ())
          else (c, .error (.invalidMessage ("ACP selected unavailable session mode " ++ currentModeId)))

def updateSessionInfo (c : AgentSessionCapabilities) (title updatedAt : MaybeUndefined) :
    AgentSessionCapabilities × Except AcpError Unit :=
  match applyOptionalDisplayText c.title title maxSessionTitleBytes "ACP session title" with
  | .error error => (c, .error error)
  | .ok title =>
      match applyOptionalText c.updatedAt updatedAt maxSessionUpdatedAtBytes "ACP session timestamp" with
      | .error error => ({ c with title }, .error error)
      | .ok updatedAt => ({ c with title, updatedAt }, .ok ())

def updateUsage (c : AgentSessionCapabilities) (used size : Nat) : AgentSessionCapabilities × Except AcpError Unit :=
  if size = 0 ∨ size < used then
    (c, .error (.invalidMessage "ACP context usage must fit a non-empty context window"))
  else ({ c with usage := some ⟨used, size⟩ }, .ok ())

def applySessionCapabilityUpdate (c : AgentSessionCapabilities) (update : SessionUpdate) :
    AgentSessionCapabilities × Except AcpError (Option String) :=
  match update with
  | .configOptionUpdate configOptions =>
      (replaceConfigOptionsPreservingMode c configOptions).map id (Except.map fun _ => some "config_option_update")
  | .currentModeUpdate currentModeId =>
      (updateSessionMode c currentModeId).map id (Except.map fun _ => some "current_mode_update")
  | .sessionInfoUpdate title updatedAt =>
      (updateSessionInfo c title updatedAt).map id (Except.map fun _ => some "session_info_update")
  | .usageUpdate used size => (updateUsage c used size).map id (Except.map fun _ => some "usage_update")
  | .other => (c, .ok none)

/-- The end of `start_session`, with what is in the response. -/
def startSession (c : AgentSessionCapabilities) (modes : Option SessionModeState) (options : List SessionConfigOption)
    (sessionId : String) : AgentSessionCapabilities × Except AcpError String :=
  match normalizeSessionCapabilities modes options with
  | .error error => (c, .error error)
  | .ok configOptions => ({ c with configOptions }, boundedText sessionId 4096)

/-! ## Runs -/

/-- An update, or a response of the provider. -/
inductive CapabilityEvent where
  | update (update : SessionUpdate)
  | started (modes : Option SessionModeState) (options : List SessionConfigOption) (sessionId : String)
  /-- `set_session_config_option` of the mode. -/
  | modeSet (currentModeId : String)
  /-- `set_session_config_option` of another option. -/
  | optionSet (options : List SessionConfigOption)

/-- The capabilities after an event, and the error that is returned. -/
def apply (c : AgentSessionCapabilities) : CapabilityEvent → AgentSessionCapabilities × Except AcpError Unit
  | .update update => (applySessionCapabilityUpdate c update).map id (Except.map fun _ => ())
  | .started modes options sessionId => (startSession c modes options sessionId).map id (Except.map fun _ => ())
  | .modeSet currentModeId => updateSessionMode c currentModeId
  | .optionSet options => replaceConfigOptionsPreservingMode c options

/-- The runs all of whose steps meet a condition. -/
inductive Reached (condition : AgentSessionCapabilities → CapabilityEvent → Prop) : AgentSessionCapabilities → Prop where
  | start : Reached condition .start
  | step {c : AgentSessionCapabilities} {event : CapabilityEvent} (before : Reached condition c) (meets : condition c event) :
      Reached condition (apply c event).1

structure OptionsSound (options : List AgentSessionConfigOption) : Prop where
  few : options.length ≤ maxSessionConfigOptions
  distinct : (options.map AgentSessionConfigOption.id).Nodup
  /-- No mode comes after the first option. -/
  modeFirst : ∀ option ∈ options.drop 1, option.id ≠ acpSessionModeConfigId
  selected : ∀ option ∈ options, ∀ value, option.kind = .select value → hasValue option.choices value = true

structure Sound (c : AgentSessionCapabilities) : Prop where
  options : OptionsSound c.configOptions
  usage : ∀ usage, c.usage = some usage → usage.used ≤ usage.size

/-- The list is refused, or no two of its options have one identifier. -/
def Distinct (mode : Option AgentSessionConfigOption) (options : List SessionConfigOption) : Prop :=
  ∀ normalized, (normalizeConfigOptions options).bind (insertMode mode) = .ok normalized →
    (options.map SessionConfigOption.id).Nodup

/-- The time of a session has control characters, or is too long. -/
def RefusedTime : MaybeUndefined → Prop
  | .value text =>
      (trimmed text).toList.any isControl = true ∨ maxSessionUpdatedAtBytes < (trimmed text).utf8ByteSize
  | _ => False

/-- Options have distinct identifiers, a time that is refused comes with no other title, and a session that is accepted has
a short identifier. -/
def Clear (c : AgentSessionCapabilities) : CapabilityEvent → Prop
  | .update (.configOptionUpdate options) => Distinct (c.configOptions.find? isMode) options
  | .update (.sessionInfoUpdate title updatedAt) =>
      RefusedTime updatedAt → ∀ title',
        applyOptionalDisplayText c.title title maxSessionTitleBytes "ACP session title" = .ok title' → title' = c.title
  | .started modes options sessionId =>
      ∀ normalized, normalizeSessionCapabilities modes options = .ok normalized →
        (options.map SessionConfigOption.id).Nodup ∧ sessionId.utf8ByteSize ≤ 4096
  | .optionSet options => Distinct (c.configOptions.find? isMode) options
  | _ => True

/-! ## What is normalized -/

theorem boundedText_eq_ok {value bounded : String} {maximum : Nat} (h : boundedText value maximum = .ok bounded) :
    bounded = value ∧ value.utf8ByteSize ≤ maximum := by
  obtain ⟨hsize, heq⟩ := ite_error_eq_ok.1 h
  exact ⟨(Except.ok.inj heq).symm, Nat.not_lt.1 hsize⟩

theorem normalizeKind_selected {id value : String} {kind : SessionConfigKind} {normalized : AgentSessionConfigKind}
    {choices : List AgentSessionConfigChoice} (h : normalizeKind id kind = .ok (normalized, choices))
    (hselect : normalized = .select value) : hasValue choices value = true := by
  subst hselect
  cases kind with
  | select currentValue options =>
      simp only [normalizeKind, bind_eq_ok] at h
      obtain ⟨current, -, choices', -, h⟩ := h
      split_ifs at h with hvalue
      cases h
      exact hvalue
  | boolean currentValue => cases h
  | unsupported => cases h

/-- An option keeps its identifier, which is not the one of the mode, and selects one of its choices. -/
theorem normalizeConfigOption_eq_ok {option : SessionConfigOption} {normalized : AgentSessionConfigOption}
    (h : normalizeConfigOption option = .ok normalized) :
    normalized.id = option.id ∧ normalized.id ≠ acpSessionModeConfigId ∧
      ∀ value, normalized.kind = .select value → hasValue normalized.choices value = true := by
  simp only [normalizeConfigOption, bind_eq_ok, ite_error_eq_ok] at h
  obtain ⟨id, hid, hmode, name, -, description, -, ⟨kind, choices⟩, hkind, h⟩ := h
  cases h
  exact ⟨(boundedText_eq_ok hid).1, hmode, fun value hselect => normalizeKind_selected hkind hselect⟩

theorem normalizeConfigOptions_eq_ok {options : List SessionConfigOption} {normalized : List AgentSessionConfigOption}
    (h : normalizeConfigOptions options = .ok normalized) :
    normalized.length ≤ maxSessionConfigOptions ∧
      normalized.map AgentSessionConfigOption.id = options.map SessionConfigOption.id ∧
      ∀ option ∈ normalized, option.id ≠ acpSessionModeConfigId ∧
        ∀ value, option.kind = .select value → hasValue option.choices value = true := by
  obtain ⟨hfew, hall⟩ := ite_error_eq_ok.1 h
  have hforall := mapM_eq_ok.1 hall
  refine ⟨hforall.length_eq ▸ Nat.not_lt.1 hfew, ?_, ?_⟩
  · clear hfew hall h
    induction hforall with
    | nil => rfl
    | cons hhead _ ih => rw [List.map_cons, List.map_cons, ih, (normalizeConfigOption_eq_ok hhead).1]
  · intro option hmem
    obtain ⟨source, -, hsource⟩ := ((mem_of_mapM_eq_ok hall).1 option).1 hmem
    exact (normalizeConfigOption_eq_ok hsource).2

theorem normalizeSessionModes_eq_ok {modes : SessionModeState} {mode : AgentSessionConfigOption}
    (h : normalizeSessionModes modes = .ok mode) :
    mode.id = acpSessionModeConfigId ∧ ∀ value, mode.kind = .select value → hasValue mode.choices value = true := by
  obtain ⟨-, hchecked⟩ := ite_error_eq_ok.1 h
  simp only [bind_eq_ok] at hchecked
  obtain ⟨currentValue, -, choices, -, hchecked⟩ := hchecked
  split_ifs at hchecked with hvalue
  cases hchecked
  refine ⟨rfl, fun value hselect => ?_⟩
  cases hselect
  exact hvalue

/-- The options are sound, with the mode in front where there is one. -/
theorem optionsSound_insertMode {options : List SessionConfigOption} {normalized inserted : List AgentSessionConfigOption}
    {mode : Option AgentSessionConfigOption} (hnormalized : normalizeConfigOptions options = .ok normalized)
    (hdistinct : (options.map SessionConfigOption.id).Nodup)
    (hmode : ∀ option ∈ mode, option.id = acpSessionModeConfigId ∧
      ∀ value, option.kind = .select value → hasValue option.choices value = true)
    (h : insertMode mode normalized = .ok inserted) : OptionsSound inserted := by
  obtain ⟨hfew, hids, hoptions⟩ := normalizeConfigOptions_eq_ok hnormalized
  rw [← hids] at hdistinct
  cases mode with
  | none =>
      obtain rfl := Except.ok.inj h
      exact ⟨hfew, hdistinct, fun option hmem => (hoptions option (List.mem_of_mem_drop hmem)).1,
        fun option hmem => (hoptions option hmem).2⟩
  | some mode =>
      obtain ⟨hroom, heq⟩ := ite_error_eq_ok.1 h
      obtain rfl := Except.ok.inj heq
      obtain ⟨hid, hselected⟩ := hmode mode rfl
      refine ⟨Nat.lt_of_le_of_ne hfew hroom, ?_, ?_, ?_⟩
      · refine List.nodup_cons.2 ⟨?_, hdistinct⟩
        intro hmem
        obtain ⟨option, hoption, heq⟩ := List.mem_map.1 hmem
        exact (hoptions option hoption).1 (heq.trans hid)
      · exact fun option hmem => (hoptions option hmem).1
      · exact List.forall_mem_cons.2 ⟨hselected, fun option hmem => (hoptions option hmem).2⟩

/-! ## Each change -/

variable {c : AgentSessionCapabilities}

theorem OptionsSound.mode {options : List AgentSessionConfigOption} (h : OptionsSound options) :
    ∀ option ∈ options.find? isMode, option.id = acpSessionModeConfigId ∧
      ∀ value, option.kind = .select value → hasValue option.choices value = true := by
  intro option hfind
  have hmode := List.find?_some hfind
  exact ⟨of_decide_eq_true hmode, h.selected option (List.mem_of_find?_eq_some hfind)⟩

theorem sound_replace {options : List SessionConfigOption} (h : Sound c)
    (hdistinct : Distinct (c.configOptions.find? isMode) options) :
    Sound (replaceConfigOptionsPreservingMode c options).1 := by
  unfold replaceConfigOptionsPreservingMode
  cases hinsert : (normalizeConfigOptions options).bind (insertMode (c.configOptions.find? isMode)) with
  | error error => exact h
  | ok inserted =>
      obtain ⟨normalized, hnormalized, hinserted⟩ := bind_eq_ok.1 hinsert
      exact ⟨optionsSound_insertMode hnormalized (hdistinct inserted hinsert) h.options.mode hinserted, h.usage⟩

theorem sound_updateSessionMode (h : Sound c) (currentModeId : String) : Sound (updateSessionMode c currentModeId).1 := by
  unfold updateSessionMode
  cases boundedText currentModeId maxCapabilityIdBytes with
  | error error => exact h
  | ok current =>
      dsimp only
      cases hfind : c.configOptions.find? isMode with
      | none => exact h
      | some mode =>
          dsimp only
          by_cases hvalue : hasValue mode.choices current = true
          · rw [if_pos hvalue]
            obtain ⟨hfew, hdistinct, hfirst, hselected⟩ := h.options
            have hmap : updateFirst isMode (selecting current) c.configOptions =
                c.configOptions.map fun option =>
                  if option.id = acpSessionModeConfigId then selecting current option else option :=
              updateFirst_eq_map hdistinct acpSessionModeConfigId (selecting current)
            have hid : ∀ option : AgentSessionConfigOption,
                (if option.id = acpSessionModeConfigId then selecting current option else option).id = option.id := by
              intro option
              split_ifs <;> rfl
            refine ⟨?_, h.usage⟩
            show OptionsSound (updateFirst isMode (selecting current) c.configOptions)
            rw [hmap]
            refine ⟨?_, ?_, ?_, ?_⟩
            · rw [List.length_map]
              exact hfew
            · rw [List.map_map]
              exact (List.map_congr_left fun option _ => hid option) ▸ hdistinct
            · intro option hmem
              rw [← List.map_drop] at hmem
              obtain ⟨source, hsource, rfl⟩ := List.mem_map.1 hmem
              rw [hid]
              exact hfirst source hsource
            · intro option hmem value
              obtain ⟨source, hsource, rfl⟩ := List.mem_map.1 hmem
              split_ifs with hsourceId
              · intro hselect
                cases hselect
                have hsame : mode = source := by
                  obtain ⟨hmem', hid'⟩ := (find?_key_eq_some hdistinct).1
                    (show c.configOptions.find? (fun b => b.id = acpSessionModeConfigId) = some mode from hfind)
                  exact List.inj_on_of_nodup_map hdistinct hmem' hsource (hid'.trans hsourceId.symm)
                rw [← hsame]
                exact hvalue
              · exact hselected source hsource value
          · rw [if_neg hvalue]
            exact h

theorem sound_updateSessionInfo (h : Sound c) (title updatedAt : MaybeUndefined) :
    Sound (updateSessionInfo c title updatedAt).1 := by
  unfold updateSessionInfo
  cases applyOptionalDisplayText c.title title maxSessionTitleBytes "ACP session title" with
  | error error => exact h
  | ok title =>
      dsimp only
      cases applyOptionalText c.updatedAt updatedAt maxSessionUpdatedAtBytes "ACP session timestamp" with
      | error error => exact ⟨h.options, h.usage⟩
      | ok updatedAt => exact ⟨h.options, h.usage⟩

theorem sound_updateUsage (h : Sound c) (used size : Nat) : Sound (updateUsage c used size).1 := by
  unfold updateUsage
  by_cases hwindow : size = 0 ∨ size < used
  · rw [if_pos hwindow]
    exact h
  · rw [if_neg hwindow]
    refine ⟨h.options, fun usage husage => ?_⟩
    cases husage
    show used ≤ size
    omega

theorem sound_startSession (h : Sound c) {modes : Option SessionModeState} {options : List SessionConfigOption}
    (sessionId : String) (hdistinct : ∀ normalized, normalizeSessionCapabilities modes options = .ok normalized →
      (options.map SessionConfigOption.id).Nodup) : Sound (startSession c modes options sessionId).1 := by
  unfold startSession
  cases hnormalize : normalizeSessionCapabilities modes options with
  | error error => exact h
  | ok inserted =>
      refine ⟨?_, h.usage⟩
      show OptionsSound inserted
      have hids := hdistinct inserted hnormalize
      unfold normalizeSessionCapabilities at hnormalize
      obtain ⟨normalized, hnormalized, hrest⟩ := bind_eq_ok.1 hnormalize
      obtain ⟨mode, hmode, hinserted⟩ := bind_eq_ok.1 hrest
      refine optionsSound_insertMode hnormalized hids ?_ hinserted
      cases modes with
      | none =>
          cases hmode
          intro option hoption
          cases hoption
      | some modes =>
          obtain ⟨normalizedMode, hmodes, rfl⟩ := map_eq_ok.1 hmode
          intro option hoption
          cases hoption
          exact normalizeSessionModes_eq_ok hmodes

/-- A time that is not accepted is one that is refused. -/
theorem refusedTime_of_error {target : Option String} {updatedAt : MaybeUndefined} {label : String} {error : AcpError}
    (h : applyOptionalText target updatedAt maxSessionUpdatedAtBytes label = .error error) : RefusedTime updatedAt := by
  cases updatedAt with
  | undefined => cases h
  | null => cases h
  | value text =>
      unfold applyOptionalText at h
      dsimp only at h
      split_ifs at h with hcontrol hempty
      · exact Or.inl hcontrol
      · unfold boundedText at h
        split_ifs at h with hlong
        · exact Or.inr hlong
        · cases h

/-! ## Main result -/

theorem sound_apply {event : CapabilityEvent} (h : Sound c) (hclear : Clear c event) : Sound (apply c event).1 := by
  cases event with
  | update update =>
      cases update with
      | configOptionUpdate options => exact sound_replace h hclear
      | currentModeUpdate currentModeId => exact sound_updateSessionMode h currentModeId
      | sessionInfoUpdate title updatedAt => exact sound_updateSessionInfo h title updatedAt
      | usageUpdate used size => exact sound_updateUsage h used size
      | other => exact h
  | started modes options sessionId =>
      exact sound_startSession h sessionId fun normalized hnormalize => (hclear normalized hnormalize).1
  | modeSet currentModeId => exact sound_updateSessionMode h currentModeId
  | optionSet options => exact sound_replace h hclear

/-- An error leaves the capabilities as they are. -/
def Steady {α : Type} (c : AgentSessionCapabilities) (result : AgentSessionCapabilities × Except AcpError α) : Prop :=
  ∀ error, result.2 = .error error → result.1 = c

theorem steady_same {α : Type} (result : Except AcpError α) : Steady c (c, result) := fun _ _ => rfl

theorem steady_ok {α : Type} (c' : AgentSessionCapabilities) (a : α) : Steady c (c', (.ok a : Except AcpError α)) := by
  intro error h
  cases h

theorem Steady.map {α β : Type} {result : AgentSessionCapabilities × Except AcpError α} (h : Steady c result) (f : α → β) :
    Steady c (result.map id (Except.map f)) := by
  obtain ⟨c', outcome⟩ := result
  cases outcome with
  | ok a => exact steady_ok c' (f a)
  | error error =>
      obtain rfl := h error rfl
      exact steady_same _

theorem steady_replace (options : List SessionConfigOption) : Steady c (replaceConfigOptionsPreservingMode c options) := by
  unfold replaceConfigOptionsPreservingMode
  cases (normalizeConfigOptions options).bind (insertMode (c.configOptions.find? isMode)) with
  | error error => exact steady_same _
  | ok inserted => exact steady_ok _ _

theorem steady_updateSessionMode (currentModeId : String) : Steady c (updateSessionMode c currentModeId) := by
  unfold updateSessionMode
  cases boundedText currentModeId maxCapabilityIdBytes with
  | error error => exact steady_same _
  | ok current =>
      dsimp only
      cases c.configOptions.find? isMode with
      | none => exact steady_same _
      | some mode =>
          dsimp only
          split_ifs
          · exact steady_ok _ _
          · exact steady_same _

theorem steady_updateSessionInfo {title updatedAt : MaybeUndefined} (hclear : RefusedTime updatedAt → ∀ title',
    applyOptionalDisplayText c.title title maxSessionTitleBytes "ACP session title" = .ok title' → title' = c.title) :
    Steady c (updateSessionInfo c title updatedAt) := by
  unfold updateSessionInfo
  cases htitle : applyOptionalDisplayText c.title title maxSessionTitleBytes "ACP session title" with
  | error error => exact steady_same _
  | ok title' =>
      dsimp only
      cases htime : applyOptionalText c.updatedAt updatedAt maxSessionUpdatedAtBytes "ACP session timestamp" with
      | error error =>
          obtain rfl := hclear (refusedTime_of_error htime) title' htitle
          exact steady_same _
      | ok time => exact steady_ok _ _

theorem steady_updateUsage (used size : Nat) : Steady c (updateUsage c used size) := by
  unfold updateUsage
  split_ifs
  · exact steady_same _
  · exact steady_ok _ _

theorem steady_startSession {modes : Option SessionModeState} {options : List SessionConfigOption} {sessionId : String}
    (hclear : ∀ normalized, normalizeSessionCapabilities modes options = .ok normalized → sessionId.utf8ByteSize ≤ 4096) :
    Steady c (startSession c modes options sessionId) := by
  unfold startSession
  cases hnormalize : normalizeSessionCapabilities modes options with
  | error error => exact steady_same _
  | ok normalized =>
      dsimp only
      unfold boundedText
      rw [if_neg (Nat.not_lt.2 (hclear normalized hnormalize))]
      exact steady_ok _ _

theorem steady_apply {event : CapabilityEvent} (hclear : Clear c event) : Steady c (apply c event) := by
  cases event with
  | update update =>
      refine Steady.map ?_ _
      cases update with
      | configOptionUpdate options => exact (steady_replace options).map _
      | currentModeUpdate currentModeId => exact (steady_updateSessionMode currentModeId).map _
      | sessionInfoUpdate title updatedAt => exact (steady_updateSessionInfo hclear).map _
      | usageUpdate used size => exact (steady_updateUsage used size).map _
      | other => exact steady_same _
  | started modes options sessionId =>
      exact (steady_startSession fun normalized hnormalize => (hclear normalized hnormalize).2).map _
  | modeSet currentModeId => exact steady_updateSessionMode currentModeId
  | optionSet options => exact steady_replace options

theorem sound_of_reached (h : Reached Clear c) : Sound c := by
  induction h with
  | start =>
      exact ⟨⟨Nat.zero_le _, List.nodup_nil, fun _ hmem => absurd hmem List.not_mem_nil,
        fun _ hmem => absurd hmem List.not_mem_nil⟩, fun _ husage => (by cases husage)⟩
  | step before meets ih => exact sound_apply ih meets

/-- **The capabilities are sound.** In a run whose events are clear there are at most 24 options under distinct identifiers,
the mode comes first, every selection is one of the choices, the usage is within the window, and an event that is refused
leaves all as it is. -/
theorem capabilities_sound (h : Reached Clear c) :
    Sound c ∧ ∀ event error, Clear c event → (apply c event).2 = .error error → (apply c event).1 = c :=
  ⟨sound_of_reached h, fun _ error hclear => steady_apply hclear error⟩

/-! ## Examples -/

/-- A switch. -/
def webOption : SessionConfigOption := ⟨"web", "Web", none, none, .boolean true⟩

/-- A session with one switch. -/
theorem capabilities_sound_web :
    Sound (apply .start (.update (.configOptionUpdate [webOption]))).1 := by
  refine (capabilities_sound (.step .start ?_)).1
  intro normalized _
  exact List.nodup_singleton _

/-- Two options under one identifier are accepted, and a title is changed though the time is refused. -/
theorem repeated_option_accepted :
    (∃ c, Reached (fun _ _ => True) c ∧ ¬Sound c) ∧
    ∃ error, (apply .start (.update (.sessionInfoUpdate (.value "New") (.value "\x01")))).2 = .error error ∧
      (apply .start (.update (.sessionInfoUpdate (.value "New") (.value "\x01")))).1 ≠ .start := by
  constructor
  · refine ⟨(apply .start (.update (.configOptionUpdate [webOption, webOption]))).1, .step .start trivial, ?_⟩
    intro hsound
    have hdistinct := hsound.options.distinct
    revert hdistinct
    decide
  · refine ⟨.invalidMessage "ACP session timestamp contains control characters", ?_, by decide⟩
    rfl

end HyperTerm.Drivers.Capabilities
