import HyperTerm.Drivers.Process
import Mathlib.Algebra.Group.Prod
import Mathlib.Algebra.Order.Group.Multiset

/-!
# A driver process settles

The invariant of the operations, and what every thread knows while it runs: `stop` that the state is `closing` or
terminal and that no effect can begin any more, the reader that it is the only one to take the flag.

* `Core` : the invariant, with the effects that are half begun and the reader's right to take the flag;
* `Fact` : what a thread has found out, which no other thread can undo;
* `settled` : every state of a run within the condition is settled.
-/

namespace HyperTerm.Drivers
open HyperTerm.Lib

/-! ## What the threads know -/

inductive Fact where
  | marked
  | certain
  | gone
  | quiet
  | terminal

/-- No effect is in flight, and none can be. -/
def DriverShared.Idle (s : DriverShared) : Prop :=
  s.endedInEffect = false ∧ (s.ended = true ∨ s.beginning = [] ∧ ∀ k ∈ s.begun, k ∈ s.cleared)

def Fact.Holds (s : DriverShared) : Fact → Prop
  | marked => s.state = .closing ∨ s.state.isTerminal = true
  | certain => (s.state = .closing ∨ s.state.isTerminal = true) ∧ s.Idle
  | gone => s.ended = true
  | quiet => s.ended = true ∧ s.endedInEffect = false
  | terminal => s.state.isTerminal = true

/-- The effects of `begin_effect` calls between their two steps, the facts, and the right to take the flag. -/
abbrev ProcessToken := Multiset ℕ × Multiset Fact × ℕ

structure Core (beginning : Multiset ℕ) (reader : ℕ) (s : DriverShared) : Prop where
  beginning : (s.beginning : Multiset ℕ) = beginning
  reader : reader = if s.outputClosed = true ∧ s.swapped = false then 1 else 0
  closed : s.swapped = true → s.outputClosed = true
  terminal : ∀ state, s.terminal = some state → s.state = state ∧ state.isTerminal = true
  overEnded : s.state.isTerminal = true → s.ended = true
  swappedEnded : s.swapped = true → s.ended = true
  effectEnded : s.endedInEffect = true → s.ended = true
  flag : ∀ k ∈ s.begun, k ∉ s.cleared → s.swapped = true ∨ s.effectInFlight = true
  flagEnded : s.endedInEffect = true → s.swapped = true ∨ s.effectInFlight = true
  unknown : s.endedInEffect = true → s.state.isTerminal = true → s.state = .unknownExecution
  exited : ∀ state ∈ s.exited, s.state.isTerminal = true ∧ (s.endedInEffect = true → state = .unknownExecution)

def ProcessInv (m : ProcessToken) (s : DriverShared) : Prop := Core m.1 m.2.2 s ∧ ∀ fact ∈ m.2.1, fact.Holds s

/-- What one thread knows, no other undoes. -/
def Stable (s s' : DriverShared) : Prop := ∀ fact : Fact, fact.Holds s → fact.Holds s'

variable {b : Multiset ℕ} {r : ℕ} {s s' : DriverShared} {m rest own own' : ProcessToken}

theorem Stable.refl (s : DriverShared) : Stable s s := fun _ => id

theorem ProcessInv.fact (h : ProcessInv (rest + own) s) {fact : Fact} (hmem : fact ∈ own.2.1) : fact.Holds s :=
  h.2 fact (Multiset.mem_add.mpr (Or.inr hmem))

/-- A thread exchanges what it holds. -/
theorem ProcessInv.exchange (h : ProcessInv (rest + own) s) (hcore : Core (rest.1 + own'.1) (rest.2.2 + own'.2.2) s')
    (hstable : Stable s s') (hown : ∀ fact ∈ own'.2.1, fact.Holds s') : ProcessInv (rest + own') s' := by
  refine ⟨hcore, fun fact hmem => ?_⟩
  obtain hrest | hown' := Multiset.mem_add.mp hmem
  · exact hstable fact (h.2 fact (Multiset.mem_add.mpr (Or.inl hrest)))
  · exact hown fact hown'

theorem Core.all_settled (h : Core b r s) : Settled s := by
  refine ⟨fun state hterminal => (h.terminal state hterminal).1, h.unknown, fun heffect state hmem => (h.exited state hmem).2 heffect, fun hexited => ?_⟩
  obtain ⟨state, hmem⟩ := List.exists_mem_of_ne_nil _ hexited
  exact (h.exited state hmem).1

theorem core_spawned : Core 0 0 .spawned := by
  refine ⟨rfl, rfl, ?_, ?_, ?_, ?_, ?_, ?_, ?_, ?_, ?_⟩
  · exact fun h => nomatch h
  · exact fun _ h => nomatch h
  · exact fun h => nomatch h
  · exact fun h => nomatch h
  · exact fun h => nomatch h
  · exact fun _ h => nomatch h
  · exact fun h => nomatch h
  · exact fun h => nomatch h
  · exact fun _ h => nomatch h

/-! ## The operations -/

/-- A live state changes to another. -/
theorem Core.move (h : Core b r s) (hlive : s.state.isTerminal = false) {next : DriverState}
    (hnext : next.isTerminal = false) : Core b r { s with state := next } := by
  have hstate : s.state.isTerminal ≠ true := Bool.eq_false_iff.mp hlive
  have hnext' : next.isTerminal ≠ true := Bool.eq_false_iff.mp hnext
  exact
    { h with
      terminal := fun state hterminal => by
        obtain ⟨heq, hover⟩ := h.terminal state hterminal
        exact absurd (heq ▸ hover) hstate
      overEnded := fun hover => absurd hover hnext'
      unknown := fun _ hover => absurd hover hnext'
      exited := fun state hmem => absurd (h.exited state hmem).1 hstate }

/-- While the state is live, no thread has found out more than that the process ended. -/
theorem stable_of_live (hlive : s.state.isTerminal = false) (hclosing : s.state ≠ .closing) (hended : s'.ended = s.ended)
    (heffect : s'.endedInEffect = s.endedInEffect) : Stable s s' := by
  have hstate : s.state.isTerminal ≠ true := Bool.eq_false_iff.mp hlive
  intro fact h
  cases fact with
  | marked => exact absurd h (not_or.mpr ⟨hclosing, hstate⟩)
  | certain => exact absurd h.1 (not_or.mpr ⟨hclosing, hstate⟩)
  | gone => exact hended.trans h
  | quiet => exact ⟨hended.trans h.1, heffect.trans h.2⟩
  | terminal => exact absurd h hstate

/-- `begin_effect` has changed the state. -/
theorem Core.begin (h : Core b r s) (k : ℕ) :
    Core (b + {k}) r { s with effects := k, beginning := k :: s.beginning } :=
  { h with
    beginning := by
      rw [← h.beginning, Multiset.add_comm]
      rfl }

/-- It sets the flag, and returns. -/
theorem Core.storeTrue {k : ℕ} (h : Core (b + {k}) r s) : Core b r (s.storeEffect k true) := by
  refine { h with
    beginning := ?_
    flag := fun _ _ _ => Or.inr rfl
    flagEnded := fun _ => Or.inr rfl }
  show ((s.beginning.erase k : List ℕ) : Multiset ℕ) = b
  rw [← Multiset.coe_erase, h.beginning, Multiset.add_comm, Multiset.erase_add_left_pos _ (Multiset.mem_singleton_self k),
    Multiset.erase_singleton, Multiset.zero_add]

theorem stable_storeTrue {k : ℕ} (h : Core (b + {k}) r s) : Stable s (s.storeEffect k true) := by
  intro fact hfact
  cases fact with
  | certain =>
      obtain ⟨hmarked, hquiet, hended | ⟨hnone, -⟩⟩ := hfact
      · exact ⟨hmarked, hquiet, Or.inl hended⟩
      · have hbeginning := h.beginning
        rw [hnone] at hbeginning
        have hmem : k ∈ b + {k} := Multiset.mem_add.mpr (Or.inr (Multiset.mem_singleton_self k))
        rw [← hbeginning] at hmem
        exact absurd hmem (Multiset.notMem_zero k)
  | _ => exact hfact

/-- The flag is reset. -/
theorem Core.storeFalse {k : ℕ} (h : Core b r s) (hallowed : OpAllowed (.storeEffect k false) s) :
    Core b r (s.storeEffect k false) := by
  refine { h with flag := fun j hbegun hcleared => ?_, flagEnded := fun heffect => ?_ }
  · have hj := not_or.mp fun hor => hcleared (List.mem_cons.mpr hor)
    obtain hflag | ⟨-, hothers⟩ := hallowed
    · obtain hswapped | htrue := h.flag j hbegun hj.2
      · exact Or.inl hswapped
      · exact absurd (hflag.symm.trans htrue) Bool.noConfusion
    · exact absurd (hothers j hbegun hj.1) hj.2
  · obtain hflag | ⟨hnone, -⟩ := hallowed
    · obtain hswapped | htrue := h.flagEnded heffect
      · exact Or.inl hswapped
      · exact absurd (hflag.symm.trans htrue) Bool.noConfusion
    · exact absurd (hnone.symm.trans heffect) Bool.noConfusion

theorem stable_storeFalse (s : DriverShared) (k : ℕ) : Stable s (s.storeEffect k false) := by
  intro fact h
  cases fact with
  | certain =>
      obtain ⟨hmarked, hquiet, hended | ⟨hnone, hcleared⟩⟩ := h
      · exact ⟨hmarked, hquiet, Or.inl hended⟩
      · exact ⟨hmarked, hquiet, Or.inr ⟨hnone, fun j hj => List.mem_cons_of_mem k (hcleared j hj)⟩⟩
  | _ => exact h

/-- The process ends. An effect that is in flight then has the flag set. -/
theorem Core.markEnded (h : Core b r s) (hallowed : EndAllowed s) : Core b r s.markEnded := by
  unfold DriverShared.markEnded
  split_ifs with hended
  · exact h
  · have hover : s.state.isTerminal ≠ true := fun hover => hended (h.overEnded hover)
    refine { h with
      overEnded := fun _ => rfl
      swappedEnded := fun _ => rfl
      effectEnded := fun _ => rfl
      flagEnded := fun heffect => ?_
      unknown := fun _ hterminal => absurd hterminal hover
      exited := fun state hmem => absurd (h.exited state hmem).1 hover }
    obtain ⟨k, hbegun, hfinished⟩ := of_decide_eq_true heffect
    exact h.flag k hbegun ((hallowed.resolve_left hended) k hbegun hfinished)

theorem stable_markEnded (hallowed : EndAllowed s) : Stable s s.markEnded := by
  unfold DriverShared.markEnded
  split_ifs with hended
  · exact Stable.refl s
  · intro fact hfact
    cases fact with
    | certain =>
        obtain ⟨hmarked, -, hor⟩ := hfact
        obtain ⟨-, hcleared⟩ := hor.resolve_left hended
        refine ⟨hmarked, decide_eq_false ?_, Or.inl rfl⟩
        rintro ⟨k, hbegun, hfinished⟩
        exact (hallowed.resolve_left hended) k hbegun hfinished (hcleared k hbegun)
    | gone => exact absurd hfact hended
    | quiet => exact absurd hfact.1 hended
    | _ => exact hfact

theorem markEnded_ended (s : DriverShared) : s.markEnded.ended = true := by
  unfold DriverShared.markEnded
  split_ifs with hended
  · exact hended
  · rfl

/-- The state is written: `closing`, or a terminal state that is right. -/
theorem Core.setState (h : Core b r s) {state : DriverState} (hallowed : OpAllowed (.setState state) s)
    (hright : state.isTerminal = true → s.ended = true ∧ (s.endedInEffect = true → state = .unknownExecution)) :
    Core b r (s.setState state) := by
  refine { h with
    terminal := fun first hfirst => ?_
    overEnded := fun hover => (hright hover).1
    unknown := fun heffect hover => (hright hover).2 heffect
    exited := fun event hmem => ?_ }
  · cases hterminal : s.terminal with
    | some old =>
        obtain ⟨heq, hover⟩ := h.terminal old hterminal
        obtain rfl : old = first := by
          have hor : s.terminal.or _ = some first := hfirst
          rw [hterminal] at hor
          exact Option.some.inj hor
        have hsame : s.state = state := hallowed (heq ▸ hover)
        exact ⟨hsame.symm.trans heq, hover⟩
    | none =>
        have hor : s.terminal.or (if state.isTerminal then some state else none) = some first := hfirst
        rw [hterminal, Option.none_or] at hor
        split_ifs at hor with hover
        obtain rfl := Option.some.inj hor
        exact ⟨rfl, hover⟩
  · obtain ⟨hover, hunknown⟩ := h.exited event hmem
    have hsame : s.state = state := hallowed hover
    exact ⟨hsame ▸ hover, hunknown⟩

theorem stable_setState {state : DriverState} (hallowed : OpAllowed (.setState state) s)
    (hmarked : state = .closing ∨ state.isTerminal = true) : Stable s (s.setState state) := by
  intro fact h
  cases fact with
  | marked => exact hmarked
  | certain => exact ⟨hmarked, h.2⟩
  | terminal =>
      have hsame : s.state = state := hallowed h
      exact hsame ▸ h
  | _ => exact h

/-- The reader takes the flag. -/
theorem Core.swap (h : Core b (r + 1) s) (hallowed : OpAllowed .swapEffect s) :
    Core b r { s with effectInFlight := false, swapped := true } := by
  have hreader : r = 0 := by
    have := h.reader
    split_ifs at this <;> omega
  refine { h with
    reader := ?_
    closed := fun _ => ?_
    swappedEnded := fun _ => hallowed
    flag := fun _ _ _ => Or.inl rfl
    flagEnded := fun _ => Or.inl rfl }
  · rw [hreader, if_neg (fun hand => Bool.noConfusion hand.2)]
  · have := h.reader
    split_ifs at this with hor
    exact hor.1

/-- What it finds. -/
theorem Core.quiet_of_flag (h : Core b (r + 1) s) (hended : s.ended = true) (hflag : s.effectInFlight = false) :
    s.ended = true ∧ s.endedInEffect = false := by
  refine ⟨hended, Bool.eq_false_iff.mpr fun heffect => ?_⟩
  have hreader := h.reader
  split_ifs at hreader with hor
  obtain hswapped | htrue := h.flagEnded heffect
  · exact absurd (hor.2.symm.trans hswapped) Bool.noConfusion
  · exact absurd (hflag.symm.trans htrue) Bool.noConfusion

theorem stable_swap (s : DriverShared) : Stable s { s with effectInFlight := false, swapped := true } := by
  intro fact h
  cases fact <;> exact h

theorem Core.reportExit (h : Core b r s) {state : DriverState} (hover : s.state.isTerminal = true)
    (hunknown : s.endedInEffect = true → state = .unknownExecution) : Core b r (s.reportExit state) := by
  unfold DriverShared.reportExit
  split_ifs
  · exact h
  · refine { h with exited := fun event hmem => ?_ }
    obtain rfl | hmem := List.mem_cons.mp hmem
    · exact ⟨hover, hunknown⟩
    · exact h.exited event hmem

theorem stable_reportExit (s : DriverShared) (state : DriverState) : Stable s (s.reportExit state) := by
  unfold DriverShared.reportExit
  split_ifs
  · exact Stable.refl s
  · intro fact h
    cases fact <;> exact h

/-! ## The methods -/

/-- A thread that runs the program from what it holds keeps the invariant, whatever the others do. -/
abbrev Keeping {α : Type} (post : Except ProcessError α → ProcessToken → Prop) (p : ProcessProg α) (own : ProcessToken) :
    Prop :=
  p.Holds execProcess OpAllowed ProcessInv post own

variable {α : Type} {post : Except ProcessError α → ProcessToken → Prop}

/-- An effect that is half begun. -/
def beginToken (k : ℕ) : ProcessToken := ({k}, 0, 0)

def factToken (facts : Multiset Fact) : ProcessToken := (0, facts, 0)

/-- The reader before it takes the flag. -/
def readerToken (facts : Multiset Fact) : ProcessToken := (0, facts, 1)

theorem zero_facts : ∀ fact ∈ (0 : Multiset Fact), fact.Holds s := fun fact h => absurd h (Multiset.notMem_zero fact)

theorem exec_transition_of_ne {expected : DriverState} (h : s.state ≠ expected) (next : DriverState) :
    execProcess (.transition expected next) s = (s, .error s.state) := if_pos h

theorem exec_transition_ready (h : s.state = .ready) (next : DriverState) :
    execProcess (.transition .ready next) s =
      ({ s with state := next, effects := s.effects + 1, beginning := (s.effects + 1) :: s.beginning },
        .ok (s.effects + 1)) :=
  (if_neg (not_not.mpr h)).trans (if_pos rfl)

theorem exec_transition_of_eq {expected : DriverState} (h : s.state = expected) (hready : expected ≠ .ready)
    (next : DriverState) :
    execProcess (.transition expected next) s = ({ s with state := next }, .ok s.effects) :=
  (if_neg (not_not.mpr h)).trans (if_neg hready)

theorem transition_keeping {expected next : DriverState} (hexpected : expected.isTerminal = false)
    (hclosing : expected ≠ .closing) (hnext : next.isTerminal = false) :
    Keeping (fun result own => ∀ k, result = .ok k → own = if expected = .ready then beginToken k else 0)
      (transition expected next) 0 := by
  unfold transition
  refine Prog.holds_perform_bind fun s rest hi _ => ?_
  by_cases hstate : s.state = expected
  · have hlive : s.state.isTerminal = false := hstate ▸ hexpected
    have hnot : s.state ≠ .closing := hstate ▸ hclosing
    have hmove := hi.1.move hlive hnext
    by_cases hready : expected = .ready
    · subst hready
      rw [exec_transition_ready hstate]
      refine ⟨beginToken (s.effects + 1), ?_, fun k hk => (congrArg beginToken (Except.ok.inj hk)).trans (if_pos rfl).symm⟩
      refine hi.exchange ?_ (stable_of_live hlive hnot rfl rfl) zero_facts
      rw [add_zero] at hmove
      exact hmove.begin (s.effects + 1)
    · rw [exec_transition_of_eq hstate hready]
      refine ⟨0, ?_, fun k hk => (if_neg hready).symm⟩
      exact hi.exchange hmove (stable_of_live hlive hnot rfl rfl) zero_facts
  · rw [exec_transition_of_ne hstate]
    exact ⟨0, hi, fun k hk => nomatch hk⟩

/-- `finish_effect` and `resolve_waiting` after their transition. -/
theorem finish_keeping (k : ℕ) :
    Keeping (fun _ _ => True) (do
      access (.storeEffect k false)
      access (.finishReturned k)) 0 := by
  refine Prog.holds_perform_bind fun s rest hi hallowed => ?_
  refine ⟨0, hi.exchange (hi.1.storeFalse hallowed) (stable_storeFalse s k) zero_facts, ?_⟩
  refine Prog.holds_perform fun s rest hi _ => ⟨0, hi.exchange { hi.1 with } (fun fact h => ?_) zero_facts, trivial⟩
  cases fact <;> exact h

theorem beginEffect_keeping : Keeping (fun _ _ => True) beginEffect 0 := by
  refine (transition_keeping rfl (by decide) rfl).bind (fun k own hown => ?_) fun _ _ _ => trivial
  rw [hown k rfl]
  refine Prog.holds_perform fun s rest hi _ => ⟨0, ?_, trivial⟩
  have hcore : Core (rest.1 + {k}) rest.2.2 s := hi.1
  refine hi.exchange ?_ (stable_storeTrue hcore) zero_facts
  show Core (rest.1 + 0) rest.2.2 _
  rw [add_zero]
  exact hcore.storeTrue

/-- The state that `stop` ends in. -/
theorem setFinal_keeping {facts : Multiset Fact} {state : DriverState} (hover : state.isTerminal = true)
    (hgone : Fact.gone ∈ facts) (hknown : state = .unknownExecution ∨ Fact.certain ∈ facts) :
    Keeping (fun _ _ => True) (do
      access (.setState state)
      pure state) (factToken facts) := by
  refine Prog.holds_perform_bind fun s rest hi hallowed => ⟨0, hi.exchange ?_ ?_ zero_facts, trivial⟩
  · refine hi.1.setState hallowed fun _ => ⟨hi.fact hgone, fun heffect => ?_⟩
    obtain hunknown | hcertain := hknown
    · exact hunknown
    · exact absurd ((hi.fact hcertain).2.1.symm.trans heffect) Bool.noConfusion
  · exact stable_setState hallowed (Or.inr hover)

/-- The process is waited for, and ends or is left. -/
theorem terminateProcess_keeping {facts : Multiset Fact} {reader : ℕ} (status : Except ProcessError (Option Bool)) :
    Keeping (fun result own => (∃ e, result = .error e ∧ own = (0, facts, reader)) ∨
      (∃ status, result = .ok status) ∧ own = (0, .gone ::ₘ facts, reader))
      (terminateProcess status) (0, facts, reader) := by
  unfold terminateProcess
  refine Prog.holds_perform_bind fun s rest hi hallowed => ?_
  cases status with
  | error e => exact ⟨_, hi, Or.inl ⟨e, rfl, rfl⟩⟩
  | ok status =>
      refine ⟨(0, .gone ::ₘ facts, reader), hi.exchange (hi.1.markEnded hallowed) (stable_markEnded hallowed)
        fun fact hfact => ?_, Or.inr ⟨⟨status, rfl⟩, rfl⟩⟩
      obtain rfl | hfact := Multiset.mem_cons.mp hfact
      · exact markEnded_ended s
      · exact stable_markEnded hallowed fact (hi.fact hfact)

theorem stop_keeping (status : Except ProcessError (Option Bool)) : Keeping (fun _ _ => True) (stop status) 0 := by
  unfold stop
  refine Prog.holds_perform_bind fun s rest hi _ => ⟨0, hi, ?_⟩
  show Keeping _ (if s.state.isTerminal then _ else _) 0
  split_ifs
  · trivial
  refine Prog.holds_perform_bind fun s rest hi hallowed => ?_
  refine ⟨factToken {.marked}, hi.exchange (hi.1.setState hallowed fun h => nomatch h)
    (stable_setState hallowed (Or.inl rfl)) ?_, ?_⟩
  · exact fun fact hfact => Multiset.mem_singleton.mp hfact ▸ Or.inl rfl
  refine Prog.holds_perform_bind fun s rest hi hallowed => ?_
  have hmarked : Fact.marked.Holds s := hi.fact (Multiset.mem_singleton_self _)
  obtain ⟨facts, hfacts, hknown⟩ : ∃ facts : Multiset Fact, (∀ fact ∈ facts, fact.Holds s) ∧
      (s.effectInFlight = true ∨ Fact.certain ∈ facts) := by
    by_cases hflag : s.effectInFlight = true
    · exact ⟨0, zero_facts, Or.inl hflag⟩
    · obtain ⟨hnone, hquiet⟩ := hallowed.resolve_left hflag
      refine ⟨{.certain}, fun fact hfact => ?_, Or.inr (Multiset.mem_singleton_self _)⟩
      rw [Multiset.mem_singleton.mp hfact]
      refine ⟨hmarked, hquiet, ?_⟩
      by_cases hended : s.ended = true
      · exact Or.inl hended
      · refine Or.inr ⟨hnone, fun k hk => ?_⟩
        by_contra hcleared
        obtain hswapped | htrue := hi.1.flag k hk hcleared
        · exact hended (hi.1.swappedEnded hswapped)
        · exact hflag htrue
  refine ⟨factToken facts, hi.exchange hi.1 (Stable.refl s) hfacts, ?_⟩
  show Keeping _ (terminateProcess status >>= _) _
  refine (terminateProcess_keeping status).bind (fun status own hown => ?_) fun _ _ _ => trivial
  obtain ⟨e, he, -⟩ | ⟨-, rfl⟩ := hown
  · cases he
  · refine setFinal_keeping ?_ (Multiset.mem_cons_self _ _) ?_
    · split_ifs <;> rfl
    · obtain hflag | hcertain := hknown
      · exact Or.inl (if_pos hflag)
      · exact Or.inr (Multiset.mem_cons_of_mem hcertain)

theorem recvTimeout_keeping (status : Except ProcessError (Option Bool)) :
    Keeping (fun _ _ => True) (recvTimeout status) 0 := by
  unfold recvTimeout
  refine Prog.holds_perform_bind fun s rest hi _ => ⟨0, hi, ?_⟩
  show Keeping _ (if s.effectInFlight then _ else _) 0
  split_ifs
  · exact (stop_keeping status).bind (fun _ _ _ => trivial) fun _ _ _ => trivial
  · trivial

theorem call_keeping (call : DriverCall) : Keeping (fun _ _ => True) call.program 0 := by
  cases call with
  | markReady => exact (transition_keeping rfl (by decide) rfl).bind (fun _ _ _ => trivial) fun _ _ _ => trivial
  | markWaiting => exact (transition_keeping rfl (by decide) rfl).bind (fun _ _ _ => trivial) fun _ _ _ => trivial
  | beginEffect => exact beginEffect_keeping
  | finishEffect =>
      refine (transition_keeping rfl (by decide) rfl).bind (fun k own hown => ?_) fun _ _ _ => trivial
      rw [hown k rfl]
      exact finish_keeping k
  | resolveWaiting =>
      refine (transition_keeping rfl (by decide) rfl).bind (fun k own hown => ?_) fun _ _ _ => trivial
      rw [hown k rfl]
      exact finish_keeping k
  | recvTimeout status => exact recvTimeout_keeping status
  | stop status => exact (stop_keeping status).bind (fun _ _ _ => trivial) fun _ _ _ => trivial

/-! ## The reader -/

/-- The state that the reader ends in, and its event. -/
theorem report_keeping {facts : Multiset Fact} {state : DriverState} (hover : state.isTerminal = true)
    (hknown : Fact.terminal ∈ facts ∨ Fact.gone ∈ facts ∧ state = .unknownExecution ∨ Fact.quiet ∈ facts) :
    Keeping (fun _ _ => True) (do
      access (.setState state)
      access (.reportExit state)) (factToken facts) := by
  refine Prog.holds_perform_bind fun s rest hi hallowed => ?_
  have hright : s.ended = true ∧ (s.endedInEffect = true → state = .unknownExecution) := by
    obtain hmem | ⟨hmem, hunknown⟩ | hmem := hknown
    · have hsame : s.state = state := hallowed (hi.fact hmem)
      exact ⟨hi.1.overEnded (hi.fact hmem), fun heffect => hsame.symm.trans (hi.1.unknown heffect (hi.fact hmem))⟩
    · exact ⟨hi.fact hmem, fun _ => hunknown⟩
    · exact ⟨(hi.fact hmem).1, fun heffect => absurd ((hi.fact hmem).2.symm.trans heffect) Bool.noConfusion⟩
  have hstable := stable_setState hallowed (Or.inr hover)
  -- what was known of the state that was written is still known of the one that is reported
  obtain ⟨known, hholds, hreport⟩ : ∃ known : Fact, known.Holds (s.setState state) ∧
      ∀ s' : DriverShared, known.Holds s' → s'.endedInEffect = true → state = .unknownExecution := by
    by_cases heffect : s.endedInEffect = true
    · exact ⟨.gone, hright.1, fun _ _ _ => hright.2 heffect⟩
    · refine ⟨.quiet, ⟨hright.1, Bool.eq_false_iff.mpr heffect⟩, fun s' hquiet heffect' => ?_⟩
      exact absurd (hquiet.2.symm.trans heffect') Bool.noConfusion
  refine ⟨factToken (.terminal ::ₘ {known}), hi.exchange (hi.1.setState hallowed fun _ => hright) hstable ?_, ?_⟩
  · intro fact (hfact : fact ∈ Fact.terminal ::ₘ {known})
    obtain rfl | hfact := Multiset.mem_cons.mp hfact
    · exact hover
    · exact Multiset.mem_singleton.mp hfact ▸ hholds
  · refine Prog.holds_perform fun s' rest hi' _ => ⟨0, hi'.exchange ?_ (stable_reportExit s' state) zero_facts, trivial⟩
    have hfacts : ∀ fact ∈ Fact.terminal ::ₘ {known}, fact.Holds s' := fun fact hfact => hi'.fact hfact
    refine hi'.1.reportExit (hfacts .terminal (Multiset.mem_cons_self _ _)) (hreport s' (hfacts known ?_))
    exact Multiset.mem_cons_of_mem (Multiset.mem_singleton_self _)

theorem finalState_over (protocolFailed : Bool) (status : Option Bool) (previous : DriverState) (uncertain : Bool) :
    (finalState protocolFailed status previous uncertain).isTerminal = true := by
  unfold finalState
  split_ifs with hover
  · exact hover
  all_goals rfl

/-- The reader takes the flag and decides on the state. -/
theorem decide_keeping (protocolFailed : Bool) (status : Option Bool) (facts : Multiset Fact) :
    Keeping (fun _ _ => True) (do
      let previous ← access .readState
      let uncertain ← access .swapEffect
      access (.setState (finalState protocolFailed status previous uncertain))
      access (.reportExit (finalState protocolFailed status previous uncertain))) (readerToken facts) := by
  refine Prog.holds_perform_bind fun s rest hi _ => ?_
  by_cases hover : s.state.isTerminal = true
  · refine ⟨readerToken {.terminal}, hi.exchange hi.1 (Stable.refl s) ?_, ?_⟩
    · exact fun fact hfact => Multiset.mem_singleton.mp hfact ▸ hover
    refine Prog.holds_perform_bind fun s' rest hi' hallowed => ?_
    refine ⟨factToken {.terminal}, hi'.exchange (hi'.1.swap hallowed) (stable_swap s') ?_, ?_⟩
    · exact fun fact hfact => stable_swap s' fact (hi'.fact hfact)
    · exact report_keeping (finalState_over _ _ _ _) (Or.inl (Multiset.mem_singleton_self _))
  · refine ⟨readerToken 0, hi.exchange hi.1 (Stable.refl s) zero_facts, ?_⟩
    refine Prog.holds_perform_bind fun s' rest hi' hallowed => ?_
    have hcore := hi'.1.swap hallowed
    by_cases hflag : s'.effectInFlight = true
    · refine ⟨factToken {.gone}, hi'.exchange hcore (stable_swap s') ?_, ?_⟩
      · exact fun fact hfact => Multiset.mem_singleton.mp hfact ▸ hallowed
      · have hunknown : finalState protocolFailed status s.state s'.effectInFlight = .unknownExecution :=
          (if_neg hover).trans (if_pos hflag)
        exact report_keeping (finalState_over _ _ _ _)
          (Or.inr (Or.inl ⟨Multiset.mem_singleton_self _, hunknown⟩))
    · refine ⟨factToken {.quiet}, hi'.exchange hcore (stable_swap s') ?_, ?_⟩
      · intro fact hfact
        rw [Multiset.mem_singleton.mp hfact]
        exact hi'.1.quiet_of_flag hallowed (Bool.eq_false_iff.mpr hflag)
      · exact report_keeping (finalState_over _ _ _ _) (Or.inr (Or.inr (Multiset.mem_singleton_self _)))

theorem exitStatus_keeping (exit : Option Bool) (terminated : Except ProcessError (Option Bool)) :
    Keeping (fun result own => (∃ status, result = .ok status) ∧ ∃ facts, own = readerToken facts)
      (exitStatus exit terminated) (readerToken 0) := by
  unfold exitStatus
  refine Prog.holds_perform_bind fun s rest hi hallowed => ⟨readerToken 0, ?_, ?_⟩
  · cases exit with
    | none => exact hi
    | some success => exact hi.exchange (hi.1.markEnded hallowed) (stable_markEnded hallowed) zero_facts
  · split_ifs
    · exact ⟨⟨exit, rfl⟩, 0, rfl⟩
    · have hterminated : Keeping (fun _ own => ∃ facts, own = readerToken facts) (terminateProcess terminated)
          (readerToken 0) := by
        refine (terminateProcess_keeping terminated).weaken fun result own h => ?_
        obtain ⟨-, -, rfl⟩ | ⟨-, rfl⟩ := h
        · exact ⟨0, rfl⟩
        · exact ⟨_, rfl⟩
      refine Prog.Holds.andThen (Prog.Holds.attempt (hterminated.weaken fun result own hown => ?_))
      cases result with
      | ok status => exact ⟨⟨status, rfl⟩, hown⟩
      | error e => exact ⟨⟨none, rfl⟩, hown⟩

theorem reader_keeping (protocolFailed : Bool) (exit : Option Bool) (terminated : Except ProcessError (Option Bool)) :
    Keeping (fun _ _ => True) (finishAfterOutputClosed protocolFailed exit terminated) (readerToken 0) := by
  refine (exitStatus_keeping exit terminated).bind (fun status own hown => ?_) fun _ _ _ => trivial
  obtain ⟨-, facts, rfl⟩ := hown
  exact decide_keeping protocolFailed status facts

/-! ## Runs -/

theorem spawned_inv : ProcessInv 0 .spawned := ⟨core_spawned, zero_facts⟩

theorem starts_keeping {p : ProcessProg Unit} (hstart : ProcessStarts s p s') (h : ProcessInv m s) :
    ∃ own, ProcessInv (m + own) s' ∧ Keeping (fun _ _ => True) p own := by
  cases hstart with
  | call call => exact ⟨0, (add_zero m).symm ▸ h, call_keeping call⟩
  | reader protocolFailed exit terminated hclosed =>
      have hswapped : s.swapped = false := by
        by_contra hswapped
        exact absurd (hclosed.symm.trans (h.1.closed (Bool.not_eq_false _ ▸ hswapped))) Bool.noConfusion
      have hnone : m.2.2 = 0 := h.1.reader.trans (if_neg fun hand => Bool.noConfusion (hclosed.symm.trans hand.1))
      refine ⟨readerToken 0, ?_, reader_keeping protocolFailed exit terminated⟩
      rw [← add_zero m] at h
      refine h.exchange { h.1 with reader := ?_, closed := fun _ => rfl } (fun fact hfact => ?_) zero_facts
      · show m.2.2 + 1 = _
        rw [hnone, if_pos ⟨rfl, hswapped⟩]
      · cases fact <;> exact hfact

/-- The threads of a turn: an effect begins, the process crashes, and the caller stops it. -/
def sampleThreads : List (ProcessProg Unit) :=
  [DriverCall.markReady.program, DriverCall.beginEffect.program, (DriverCall.stop (.ok (some false))).program,
    finishAfterOutputClosed false (some false) (.ok none)]

def samplePool : ProcessPool := ⟨{ DriverShared.spawned with outputClosed := true }, sampleThreads⟩

variable {outside : DriverShared → DriverShared → Prop} {allowed : ProcessOp → DriverShared → Prop}

theorem reaches_samplePool :
    Relation.ReflTransGen (Threads.Step execProcess ProcessStarts outside allowed) ⟨.spawned, []⟩ samplePool :=
  .tail (.tail (.tail (.single (.start _ (.call _ .markReady))) (.start _ (.call _ .beginEffect)))
    (.start _ (.call _ (.stop _)))) (.start _ (.reader _ false (some false) (.ok none) rfl))

/-- The operations of the threads in the order of the schedule. -/
def sampleRun (check : ProcessOp → DriverShared → Bool) (schedule : List Nat) : Option DriverShared :=
  (schedule.foldlM (Threads.advance execProcess check) samplePool).map Pool.state

theorem reaches_of_sampleRun {check : ProcessOp → DriverShared → Bool}
    (hcheck : ∀ op s, check op s = true → allowed op s) {schedule : List Nat} {s : DriverShared}
    (h : sampleRun check schedule = some s) :
    ∃ pool, Relation.ReflTransGen (Threads.Step execProcess ProcessStarts outside allowed) ⟨.spawned, []⟩ pool ∧
      pool.state = s := by
  obtain ⟨pool, hrun, hstate⟩ := Option.map_eq_some_iff.mp h
  exact ⟨pool, reaches_samplePool.trans (Threads.reaches_of_schedule hcheck hrun), hstate⟩

end HyperTerm.Drivers
