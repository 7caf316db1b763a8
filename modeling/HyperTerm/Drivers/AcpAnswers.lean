import HyperTerm.Drivers.AcpRequests
import Mathlib.Algebra.Group.Prod
import Mathlib.Algebra.Order.Group.Multiset

/-!
# Every request is answered once

A request that was filed is answered or still pending. While a call is between its answer and its removal the request
is its own, and while a cancellation runs all that is pending is on its list or answered.

* `AcpCore` : the invariant, with the requests that calls have answered and the right to cancel;
* `answeredOnce` : every state of a run within the condition is as asked.
-/

namespace HyperTerm.Drivers
open HyperTerm.Lib

/-! ## The invariant -/

/-- The requests that a cancellation has still to answer. -/
abbrev Windows := (kind : RequestKind) → Option (List (Pending kind))

/-- A request that the thread has answered and not yet removed, and the right to cancel. -/
abbrev AcpToken := Multiset (Sigma Pending) × Multiset Windows

/-- The request is in its table. -/
def AcpShared.Has (s : AcpShared) (kind : RequestKind) (request : Pending kind) : Prop :=
  (s.pending kind).get? request.requestId = some request

structure AcpCore (held : Multiset (Sigma Pending)) (rights : Multiset Windows) (s : AcpShared) : Prop where
  gates : rights = if s.gate then {s.cancelling} else 0
  idle : s.gate = false → ∀ kind, s.cancelling kind = none
  filed : ∀ kind request, s.Has kind request → ⟨kind, request⟩ ∈ s.filed
  pending : ∀ kind request, ⟨kind, request⟩ ∈ s.filed → s.Answered request.number ∨ s.Has kind request
  filedBelow : ∀ kind request, (⟨kind, request⟩ : Sigma Pending) ∈ s.filed → request.number < s.next
  answeredBelow : ∀ number, s.Answered number → number < s.next
  unique : ∀ kind request kind' request', (⟨kind, request⟩ : Sigma Pending) ∈ s.filed →
    (⟨kind', request'⟩ : Sigma Pending) ∈ s.filed → request.number = request'.number →
    (⟨kind, request⟩ : Sigma Pending) = ⟨kind', request'⟩
  answering : ∀ kind request, s.Has kind request → s.Answered request.number → request.number ∈ s.answering
  resolving : ∀ kind request, (⟨kind, request⟩ : Sigma Pending) ∈ held →
    s.Has kind request ∧ s.Answered request.number ∧ request.number ∈ s.answering ∧ s.cancelling kind = none
  resolvingNodup : (held.map fun request => request.2.number).Nodup
  windowNodup : ∀ kind requests, s.cancelling kind = some requests → (requests.map Pending.number).Nodup
  window : ∀ kind requests, s.cancelling kind = some requests → ∀ request ∈ requests,
    s.Has kind request ∧ ¬s.Answered request.number
  windowAll : ∀ kind requests, s.cancelling kind = some requests → ∀ request, s.Has kind request →
    request ∈ requests ∨ s.Answered request.number
  once : (s.answers.map Prod.fst).Nodup
  kept : s.replaced = []
  missed : s.missed = []

def AcpInv (m : AcpToken) (s : AcpShared) : Prop := AcpCore m.1 m.2 s

variable {R : Multiset (Sigma Pending)} {G : Multiset Windows} {s : AcpShared} {kind kind' : RequestKind}
  {request : Pending kind} {request' : Pending kind'}

namespace AcpCore

theorem start : AcpCore 0 0 .start := by
  refine ⟨rfl, fun _ _ => rfl, ?_, ?_, ?_, ?_, ?_, ?_, ?_, Multiset.nodup_zero, ?_, ?_, ?_, List.nodup_nil, rfl, rfl⟩
  · exact fun _ _ h => nomatch h
  · exact fun _ _ h => absurd h List.not_mem_nil
  · exact fun _ _ h => absurd h List.not_mem_nil
  · exact fun _ h => absurd h List.not_mem_nil
  · exact fun _ _ _ _ h => absurd h List.not_mem_nil
  · exact fun _ _ h => nomatch h
  · exact fun _ _ h => absurd h (Multiset.notMem_zero _)
  · exact fun _ _ h => nomatch h
  · exact fun _ _ h => nomatch h
  · exact fun _ _ h => nomatch h

theorem once_and_all (h : AcpCore R G s) : AnsweredOnce s := by
  refine ⟨h.once, fun number answer hcancelled hanswer => ?_, h.kept, h.missed⟩
  exact (congrArg Prod.snd (List.inj_on_of_nodup_map h.once hcancelled hanswer rfl)).symm

/-- Requests in the tables have numbers of their own. -/
theorem number_inj (h : AcpCore R G s) (hrequest : s.Has kind request) (hrequest' : s.Has kind' request')
    (heq : request.number = request'.number) : (⟨kind, request⟩ : Sigma Pending) = ⟨kind', request'⟩ :=
  h.unique _ _ _ _ (h.filed _ _ hrequest) (h.filed _ _ hrequest') heq

/-- What is pending and not being answered has no answer. -/
theorem unanswered (h : AcpCore R G s) (hrequest : s.Has kind request) (hanswering : request.number ∉ s.answering) :
    ¬s.Answered request.number :=
  fun hanswered => hanswering (h.answering _ _ hrequest hanswered)

/-- The holder of the right to cancel is the only one, and knows the lists. -/
theorem window_eq {w : Windows} (h : AcpCore R (G + {w}) s) : G = 0 ∧ s.gate = true ∧ s.cancelling = w := by
  have hgates := h.gates
  have hcard := congrArg Multiset.card hgates
  rw [Multiset.card_add, Multiset.card_singleton] at hcard
  split_ifs at hcard hgates with hgate
  · have hzero : G = 0 := by
      rw [Multiset.card_singleton] at hcard
      exact Multiset.card_eq_zero.mp (by omega)
    rw [hzero, Multiset.zero_add] at hgates
    exact ⟨hzero, hgate, (Multiset.singleton_inj.mp hgates).symm⟩
  · rw [Multiset.card_zero] at hcard
    omega

end AcpCore

/-! ## Tables and answers -/

theorem has_setPending_self {table : Table kind} :
    (s.setPending kind table).Has kind request ↔ table.get? request.requestId = some request := by
  show (Function.update s.pending kind table kind).get? request.requestId = some request ↔ _
  rw [Function.update_self]

theorem has_setPending_of_ne (hne : kind' ≠ kind) {table : Table kind} :
    (s.setPending kind table).Has kind' request' ↔ s.Has kind' request' := by
  show (Function.update s.pending kind table kind').get? request'.requestId = some request' ↔ _
  rw [Function.update_of_ne hne]
  rfl

theorem answered_cons {number n : Nat} {answer : AcpAnswer} {s' : AcpShared}
    (h : s'.answers = (n, answer) :: s.answers) : s'.Answered number ↔ number = n ∨ s.Answered number := by
  unfold AcpShared.Answered
  rw [h, List.map_cons, List.mem_cons]

/-- A request of another kind, or under another identifier, is another request. -/
theorem sigma_ne (hne : kind' ≠ kind) : (⟨kind', request'⟩ : Sigma Pending) ≠ ⟨kind, request⟩ :=
  fun heq => hne (congrArg Sigma.fst heq)

namespace AcpCore

/-! ## A request comes in -/

/-- The request is filed under an identifier that is free. -/
theorem insert (h : AcpCore R G s) {requestId : ExternalRequestId} {body : RequestBody kind}
    (hallowed : AcpCondition (.insert kind requestId body) s) :
    AcpCore R G (s.insert kind requestId body).1 := by
  unfold AcpShared.insert
  dsimp only
  split_ifs with hfull
  · exact h
  obtain ⟨hidle, hfree⟩ := hallowed.resolve_left hfull
  rw [hfree]
  dsimp only
  -- what was pending still is, and besides there is only the new request
  have hhas : ∀ kind' (request' : Pending kind'), s.Has kind' request' →
      (s.setPending kind ((s.pending kind).put ⟨s.next, requestId, body⟩)).Has kind' request' := by
    intro kind' request' hrequest'
    by_cases hkind : kind' = kind
    · subst hkind
      rw [has_setPending_self, Keyed.get?_put_of_ne]
      · exact hrequest'
      · intro heq
        have hget : (s.pending kind').get? request'.requestId = some request' := hrequest'
        rw [heq, hfree] at hget
        cases hget
    · exact (has_setPending_of_ne hkind).mpr hrequest'
  have hcases : ∀ kind' (request' : Pending kind'),
      (s.setPending kind ((s.pending kind).put ⟨s.next, requestId, body⟩)).Has kind' request' →
      (⟨kind', request'⟩ : Sigma Pending) = ⟨kind, ⟨s.next, requestId, body⟩⟩ ∨ s.Has kind' request' := by
    intro kind' request' hrequest'
    by_cases hkind : kind' = kind
    · subst hkind
      rw [has_setPending_self, Keyed.get?_put] at hrequest'
      split_ifs at hrequest' with hid
      · rw [Option.some.inj hrequest']
        exact Or.inl rfl
      · exact Or.inr hrequest'
    · exact Or.inr ((has_setPending_of_ne hkind).mp hrequest')
  have hnew : ¬s.Answered s.next := fun hanswered => lt_irrefl _ (h.answeredBelow _ hanswered)
  refine { h with
    filed := fun kind' request' hrequest' => ?_
    pending := fun kind' request' hmem => ?_
    filedBelow := fun kind' request' hmem => ?_
    answeredBelow := fun number hanswered => (h.answeredBelow number hanswered).trans (Nat.lt_succ_self _)
    unique := fun k₁ r₁ k₂ r₂ h₁ h₂ heq => ?_
    answering := fun kind' request' hrequest' hanswered => ?_
    resolving := fun kind' request' hmem => ?_
    window := fun kind' requests hwindow request' hmem => ?_
    windowAll := fun kind' requests hwindow request' hrequest' => ?_ }
  · obtain heq | hold := hcases kind' request' hrequest'
    · exact heq ▸ List.mem_cons_self
    · exact List.mem_cons_of_mem _ (h.filed _ _ hold)
  · obtain heq | hmem := List.mem_cons.mp hmem
    · cases heq
      refine Or.inr (has_setPending_self.mpr ?_)
      exact Keyed.get?_put_self (s.pending kind) ⟨s.next, requestId, body⟩
    · exact (h.pending _ _ hmem).imp id (hhas _ _)
  · obtain heq | hmem := List.mem_cons.mp hmem
    · cases heq
      exact Nat.lt_succ_self _
    · exact (h.filedBelow _ _ hmem).trans (Nat.lt_succ_self _)
  · have hbelow : ∀ k (r : Pending k), (⟨k, r⟩ : Sigma Pending) ∈ s.filed → r.number ≠ s.next := fun k r hmem =>
      (h.filedBelow k r hmem).ne
    obtain heq₁ | h₁ := List.mem_cons.mp h₁
    · cases heq₁
      obtain heq₂ | h₂ := List.mem_cons.mp h₂
      · exact heq₂.symm
      · exact absurd heq.symm (hbelow _ _ h₂)
    · obtain heq₂ | h₂ := List.mem_cons.mp h₂
      · cases heq₂
        exact absurd heq (hbelow _ _ h₁)
      · exact h.unique _ _ _ _ h₁ h₂ heq
  · obtain heq | hold := hcases kind' request' hrequest'
    · cases heq
      exact absurd hanswered hnew
    · exact h.answering _ _ hold hanswered
  · obtain ⟨hhad, hrest⟩ := h.resolving kind' request' hmem
    exact ⟨hhas _ _ hhad, hrest⟩
  · obtain ⟨hhad, hrest⟩ := h.window kind' requests hwindow request' hmem
    exact ⟨hhas _ _ hhad, hrest⟩
  · obtain heq | hold := hcases kind' request' hrequest'
    · cases heq
      exact absurd (hidle.symm.trans hwindow) (fun h => nomatch h)
    · exact h.windowAll kind' requests hwindow request' hold

/-- A brokered call is answered at once. -/
theorem sendConsent (h : AcpCore R G s) (optionId : String) :
    AcpCore R G { s with next := s.next + 1, answers := (s.next, .selected optionId) :: s.answers } := by
  have hanswered : ∀ number, ({ s with
      next := s.next + 1
      answers := (s.next, .selected optionId) :: s.answers } : AcpShared).Answered number ↔
        number = s.next ∨ s.Answered number := fun number => answered_cons rfl
  have hbelow : ∀ kind (request : Pending kind), s.Has kind request → request.number ≠ s.next := fun kind request hrequest =>
    (h.filedBelow _ _ (h.filed _ _ hrequest)).ne
  refine { h with
    pending := fun kind request hmem => (h.pending kind request hmem).imp (fun h => (hanswered _).mpr (Or.inr h)) id
    filedBelow := fun kind request hmem => (h.filedBelow kind request hmem).trans (Nat.lt_succ_self _)
    answeredBelow := fun number hnumber => ?_
    answering := fun kind request hrequest hnumber => ?_
    resolving := fun kind request hmem => ?_
    window := fun kind requests hwindow request hmem => ?_
    windowAll := fun kind requests hwindow request hrequest => ?_
    once := ?_ }
  · obtain rfl | hold := (hanswered number).mp hnumber
    · exact Nat.lt_succ_self _
    · exact (h.answeredBelow number hold).trans (Nat.lt_succ_self _)
  · exact h.answering kind request hrequest (((hanswered _).mp hnumber).resolve_left (hbelow _ _ hrequest))
  · obtain ⟨hhas, hold, hrest⟩ := h.resolving kind request hmem
    exact ⟨hhas, (hanswered _).mpr (Or.inr hold), hrest⟩
  · obtain ⟨hhas, hold⟩ := h.window kind requests hwindow request hmem
    exact ⟨hhas, fun hnumber => ((hanswered _).mp hnumber).elim (hbelow _ _ hhas) hold⟩
  · exact (h.windowAll kind requests hwindow request hrequest).imp id fun hold => (hanswered _).mpr (Or.inr hold)
  · exact List.nodup_cons.mpr ⟨fun hmem => lt_irrefl _ (h.answeredBelow _ hmem), h.once⟩

/-! ## A request is answered -/

/-- A pending request that nobody is answering gets its answer. -/
theorem sendAnswer (h : AcpCore R G s) {answer : AcpAnswer} {u : Unit}
    (hallowed : AcpCondition (.sendAnswer kind request answer (.ok u)) s) :
    AcpCore (R + {⟨kind, request⟩}) G (s.sendAnswer request.number answer) := by
  obtain ⟨hidle, hhas, hfree⟩ := hallowed
  have hunanswered := h.unanswered hhas hfree
  have hanswered : ∀ number, (s.sendAnswer request.number answer).Answered number ↔
      number = request.number ∨ s.Answered number := fun number => answered_cons rfl
  refine { h with
    pending := fun kind' request' hmem => (h.pending kind' request' hmem).imp (fun h => (hanswered _).mpr (Or.inr h)) id
    answeredBelow := fun number hnumber => ?_
    answering := fun kind' request' hrequest' hnumber => ?_
    resolving := fun kind' request' hmem => ?_
    resolvingNodup := ?_
    window := fun kind' requests hwindow request' hmem => ?_
    windowAll := fun kind' requests hwindow request' hrequest' => ?_
    once := List.nodup_cons.mpr ⟨hunanswered, h.once⟩ }
  · obtain rfl | hold := (hanswered number).mp hnumber
    · exact h.filedBelow _ _ (h.filed _ _ hhas)
    · exact h.answeredBelow number hold
  · obtain heq | hold := (hanswered _).mp hnumber
    · exact heq ▸ List.mem_cons_self
    · exact List.mem_cons_of_mem _ (h.answering _ _ hrequest' hold)
  · obtain hold | hnew := Multiset.mem_add.mp hmem
    · obtain ⟨hhas', hanswered', hanswering', hidle'⟩ := h.resolving kind' request' hold
      exact ⟨hhas', (hanswered _).mpr (Or.inr hanswered'), List.mem_cons_of_mem _ hanswering', hidle'⟩
    · cases Multiset.mem_singleton.mp hnew
      exact ⟨hhas, (hanswered _).mpr (Or.inl rfl), List.mem_cons_self, hidle⟩
  · rw [Multiset.map_add, Multiset.map_singleton]
    refine (Multiset.nodup_add.mpr ⟨h.resolvingNodup, Multiset.nodup_singleton _, ?_⟩)
    refine Multiset.disjoint_singleton.mpr fun hmem => ?_
    obtain ⟨⟨kind', request'⟩, hheld, heq⟩ := Multiset.mem_map.mp hmem
    exact hfree (heq ▸ (h.resolving kind' request' hheld).2.2.1)
  · obtain ⟨hhas', hold⟩ := h.window kind' requests hwindow request' hmem
    refine ⟨hhas', fun hnumber => ?_⟩
    obtain heq | hanswered' := (hanswered _).mp hnumber
    · cases h.number_inj hhas' hhas heq
      exact absurd (hidle.symm.trans hwindow) (fun h => nomatch h)
    · exact hold hanswered'
  · exact (h.windowAll kind' requests hwindow request' hrequest').imp id fun hold => (hanswered _).mpr (Or.inr hold)

/-- The answered request is removed by the call that answered it. -/
theorem remove (h : AcpCore (R + {⟨kind, request⟩}) G s) : AcpCore R G (s.remove kind request.requestId) := by
  have hself : (⟨kind, request⟩ : Sigma Pending) ∈ R + {⟨kind, request⟩} :=
    Multiset.mem_add.mpr (Or.inr (Multiset.mem_singleton_self _))
  obtain ⟨hhas, hanswered, hanswering, hidle⟩ := h.resolving kind request hself
  have hget : (s.pending kind).get? request.requestId = some request := hhas
  unfold AcpShared.remove
  rw [hget]
  dsimp only
  -- another request in a table has another number
  have hcases : ∀ kind' (request' : Pending kind'),
      (s.setPending kind ((s.pending kind).erase request.requestId)).Has kind' request' →
        s.Has kind' request' ∧ request'.number ≠ request.number := by
    intro kind' request' hrequest'
    by_cases hkind : kind' = kind
    · subst hkind
      obtain ⟨hget', hid⟩ := Keyed.get?_erase_eq_some.mp (has_setPending_self.mp hrequest')
      refine ⟨hget', fun heq => hid ?_⟩
      cases h.number_inj hget' hhas heq
      rfl
    · have hhas' := (has_setPending_of_ne hkind).mp hrequest'
      exact ⟨hhas', fun heq => sigma_ne hkind (h.number_inj hhas' hhas heq)⟩
  have hstill : ∀ kind' (request' : Pending kind'), s.Has kind' request' → request'.number ≠ request.number →
      (s.setPending kind ((s.pending kind).erase request.requestId)).Has kind' request' := by
    intro kind' request' hrequest' hne
    by_cases hkind : kind' = kind
    · subst hkind
      refine has_setPending_self.mpr (Keyed.get?_erase_eq_some.mpr ⟨hrequest', fun hid => hne ?_⟩)
      have hget' : (s.pending kind').get? request'.requestId = some request' := hrequest'
      rw [hid, hget] at hget'
      rw [Option.some.inj hget']
    · exact (has_setPending_of_ne hkind).mpr hrequest'
  have hnodup := h.resolvingNodup
  rw [Multiset.map_add, Multiset.map_singleton, Multiset.nodup_add] at hnodup
  obtain ⟨hR, -, hdisjoint⟩ := hnodup
  refine { h with
    filed := fun kind' request' hrequest' => h.filed _ _ (hcases _ _ hrequest').1
    pending := fun kind' request' hmem => ?_
    answering := fun kind' request' hrequest' hnumber => ?_
    resolving := fun kind' request' hmem => ?_
    resolvingNodup := hR
    window := fun kind' requests hwindow request' hmem => ?_
    windowAll := fun kind' requests hwindow request' hrequest' =>
      h.windowAll kind' requests hwindow request' (hcases _ _ hrequest').1 }
  · obtain hold | hhas' := h.pending kind' request' hmem
    · exact Or.inl hold
    · by_cases heq : request'.number = request.number
      · exact Or.inl (heq ▸ hanswered)
      · exact Or.inr (hstill _ _ hhas' heq)
  · obtain ⟨hhas', hne⟩ := hcases _ _ hrequest'
    exact (List.mem_erase_of_ne hne).mpr (h.answering _ _ hhas' hnumber)
  · obtain ⟨hhas', hanswered', hanswering', hidle'⟩ := h.resolving kind' request' (Multiset.mem_add.mpr (Or.inl hmem))
    have hne : request'.number ≠ request.number := fun heq =>
      Multiset.disjoint_singleton.mp hdisjoint (heq ▸ Multiset.mem_map_of_mem (fun r => r.2.number) hmem)
    exact ⟨hstill _ _ hhas' hne, hanswered', (List.mem_erase_of_ne hne).mpr hanswering', hidle'⟩
  · obtain ⟨hhas', hunanswered⟩ := h.window kind' requests hwindow request' hmem
    exact ⟨hstill _ _ hhas' fun heq => hunanswered (heq ▸ hanswered), hunanswered⟩

/-! ## A cancellation -/

/-- The gate is taken. -/
theorem lockGate (h : AcpCore R G s) (hgate : s.gate = false) :
    AcpCore R (G + {fun _ => none}) { s with gate := true } := by
  have hnone : G = 0 := h.gates.trans (if_neg (by rw [hgate]; exact Bool.false_ne_true))
  have hidle : s.cancelling = fun _ => none := funext (h.idle hgate)
  refine { h with gates := ?_, idle := fun hfalse => nomatch hfalse }
  rw [hnone, Multiset.zero_add, if_pos rfl, hidle]

variable {w : Windows}

/-- What is pending is copied. -/
theorem copy (h : AcpCore R (G + {w}) s) (hallowed : AcpCondition (.copy kind) s) :
    AcpCore R (G + {Function.update w kind (some (s.pending kind).values)}) (s.copy kind) := by
  obtain ⟨hG, hgate, hw⟩ := h.window_eq
  have hunanswered : ∀ request ∈ (s.pending kind).values, s.Has kind request ∧ ¬s.Answered request.number := by
    intro request hmem
    have hhas : s.Has kind request := Keyed.mem_values.mp hmem
    exact ⟨hhas, h.unanswered hhas (hallowed request hmem)⟩
  have hwindow : ∀ kind' requests, (s.copy kind).cancelling kind' = some requests →
      (∃ heq : kind' = kind, requests = heq ▸ (s.pending kind).values) ∨ s.cancelling kind' = some requests := by
    intro kind' requests hsome
    by_cases hkind : kind' = kind
    · subst hkind
      have hself : Function.update s.cancelling kind' (some (s.pending kind').values) kind' = some requests := hsome
      rw [Function.update_self] at hself
      exact Or.inl ⟨rfl, (Option.some.inj hself).symm⟩
    · have hother : Function.update s.cancelling kind (some (s.pending kind).values) kind' = some requests := hsome
      rw [Function.update_of_ne hkind] at hother
      exact Or.inr hother
  refine { h with
    gates := ?_
    idle := fun hfalse => absurd (hgate.symm.trans hfalse) Bool.noConfusion
    resolving := fun kind' request' hmem => ?_
    windowNodup := fun kind' requests hsome => ?_
    window := fun kind' requests hsome request' hmem => ?_
    windowAll := fun kind' requests hsome request' hrequest' => ?_ }
  · show G + _ = if s.gate = true then {Function.update s.cancelling kind _} else 0
    rw [hG, if_pos hgate, hw, Multiset.zero_add]
  · obtain ⟨hhas, hanswered, hanswering, hidle⟩ := h.resolving kind' request' hmem
    refine ⟨hhas, hanswered, hanswering, ?_⟩
    by_cases hkind : kind' = kind
    · subst hkind
      exact absurd hanswering (hallowed request' (Keyed.mem_values.mpr hhas))
    · exact (Function.update_of_ne hkind _ _).trans hidle
  · obtain ⟨rfl, rfl⟩ | hold := hwindow kind' requests hsome
    · refine List.Nodup.map_on (fun request hmem request' hmem' heq => ?_) (s.pending kind').nodup_values.of_map
      cases h.number_inj (hunanswered _ hmem).1 (hunanswered _ hmem').1 heq
      rfl
    · exact h.windowNodup kind' requests hold
  · obtain ⟨rfl, rfl⟩ | hold := hwindow kind' requests hsome
    · exact hunanswered request' hmem
    · exact h.window kind' requests hold request' hmem
  · obtain ⟨rfl, rfl⟩ | hold := hwindow kind' requests hsome
    · exact Or.inl (Keyed.mem_values.mpr hrequest')
    · exact h.windowAll kind' requests hold request' hrequest'

/-- The first request of the list is answered. -/
theorem sendCancelled {requests : List (Pending kind)} (h : AcpCore R (G + {w}) s) (hw : w kind = some (request :: requests)) :
    AcpCore R (G + {Function.update w kind (some requests)}) (s.sendCancelled kind request) := by
  obtain ⟨hG, hgate, rfl⟩ := h.window_eq
  obtain ⟨hhas, hunanswered⟩ := h.window kind _ hw request List.mem_cons_self
  have hnodup := List.nodup_cons.mp (List.map_cons ▸ h.windowNodup kind _ hw)
  have hanswered : ∀ number, (s.sendCancelled kind request).Answered number ↔
      number = request.number ∨ s.Answered number := fun number => answered_cons rfl
  have hcancelling : (s.sendCancelled kind request).cancelling = Function.update s.cancelling kind (some requests) := by
    show Function.update s.cancelling kind ((s.cancelling kind).map List.tail) = _
    rw [hw]
    rfl
  -- a list of the cancellation is what is left of this one, or the other one
  have hwindow : ∀ kind' requests', (s.sendCancelled kind request).cancelling kind' = some requests' →
      ∃ before, s.cancelling kind' = some before ∧ requests'.Sublist before ∧
        (∀ r ∈ requests', r.number ≠ request.number) ∧ ∀ r ∈ before, r ∈ requests' ∨ r.number = request.number := by
    intro kind' requests' hsome
    rw [hcancelling] at hsome
    by_cases hkind : kind' = kind
    · subst hkind
      rw [Function.update_self] at hsome
      obtain rfl := Option.some.inj hsome
      refine ⟨_, hw, List.sublist_cons_self _ _, fun r hr heq => hnodup.1 (heq ▸ List.mem_map_of_mem hr), fun r hr => ?_⟩
      exact (List.mem_cons.mp hr).symm.imp id (congrArg Pending.number)
    · rw [Function.update_of_ne hkind] at hsome
      refine ⟨_, hsome, List.Sublist.refl _, fun r hr heq => ?_, fun r hr => Or.inl hr⟩
      exact sigma_ne hkind (h.number_inj (h.window kind' _ hsome r hr).1 hhas heq)
  refine { h with
    gates := ?_
    idle := fun hfalse => absurd (hgate.symm.trans hfalse) Bool.noConfusion
    pending := fun kind' request' hmem => (h.pending kind' request' hmem).imp (fun h => (hanswered _).mpr (Or.inr h)) id
    answeredBelow := fun number hnumber => ?_
    answering := fun kind' request' hrequest' hnumber => ?_
    resolving := fun kind' request' hmem => ?_
    windowNodup := fun kind' requests' hsome => ?_
    window := fun kind' requests' hsome request' hmem => ?_
    windowAll := fun kind' requests' hsome request' hrequest' => ?_
    once := List.nodup_cons.mpr ⟨hunanswered, h.once⟩ }
  · rw [hcancelling, hG, Multiset.zero_add]
    exact (if_pos hgate).symm
  · obtain rfl | hold := (hanswered number).mp hnumber
    · exact h.filedBelow _ _ (h.filed _ _ hhas)
    · exact h.answeredBelow number hold
  · obtain heq | hold := (hanswered _).mp hnumber
    · exact heq ▸ List.mem_cons_self
    · exact List.mem_cons_of_mem _ (h.answering _ _ hrequest' hold)
  · obtain ⟨hhas', hanswered', hanswering', hidle'⟩ := h.resolving kind' request' hmem
    refine ⟨hhas', (hanswered _).mpr (Or.inr hanswered'), List.mem_cons_of_mem _ hanswering', ?_⟩
    rw [hcancelling]
    by_cases hkind : kind' = kind
    · subst hkind
      exact absurd (hidle'.symm.trans hw) (fun h => nomatch h)
    · exact (Function.update_of_ne hkind _ _).trans hidle'
  · obtain ⟨before, hbefore, hsub, -⟩ := hwindow kind' requests' hsome
    exact (h.windowNodup kind' before hbefore).sublist (hsub.map _)
  · obtain ⟨before, hbefore, hsub, hne, -⟩ := hwindow kind' requests' hsome
    obtain ⟨hhas', hold⟩ := h.window kind' before hbefore request' (hsub.subset hmem)
    exact ⟨hhas', fun hnumber => ((hanswered _).mp hnumber).elim (hne request' hmem) hold⟩
  · obtain ⟨before, hbefore, -, -, hall⟩ := hwindow kind' requests' hsome
    obtain hmem | hold := h.windowAll kind' before hbefore request' hrequest'
    · exact (hall request' hmem).imp id fun heq => (hanswered _).mpr (Or.inl heq)
    · exact Or.inr ((hanswered _).mpr (Or.inr hold))

/-- All are answered, and the table is cleared. -/
theorem clear (h : AcpCore R (G + {w}) s) (hw : w kind = some []) : AcpCore R (G + {w}) (s.clear kind) := by
  obtain ⟨-, -, rfl⟩ := h.window_eq
  have hcases : ∀ kind' (request' : Pending kind'), (s.clear kind).Has kind' request' →
      kind' ≠ kind ∧ s.Has kind' request' := by
    intro kind' request' hrequest'
    by_cases hkind : kind' = kind
    · subst hkind
      have hempty : (Keyed.empty : Table kind').get? request'.requestId = some request' :=
        has_setPending_self.mp hrequest'
      cases hempty
    · exact ⟨hkind, (has_setPending_of_ne hkind).mp hrequest'⟩
  have hstill : ∀ kind' (request' : Pending kind'), kind' ≠ kind → s.Has kind' request' →
      (s.clear kind).Has kind' request' ∧ (request'.number ∈ s.answering → request'.number ∈ (s.clear kind).answering) := by
    intro kind' request' hkind hrequest'
    refine ⟨(has_setPending_of_ne hkind).mpr hrequest', fun hmem => List.mem_filter.mpr ⟨hmem, decide_eq_true ?_⟩⟩
    intro hnumber
    obtain ⟨request, hrequest, heq⟩ := List.mem_map.mp hnumber
    exact sigma_ne hkind (h.number_inj hrequest' (Keyed.mem_values.mp hrequest) heq.symm)
  refine { h with
    filed := fun kind' request' hrequest' => h.filed _ _ (hcases _ _ hrequest').2
    pending := fun kind' request' hmem => ?_
    answering := fun kind' request' hrequest' hnumber => ?_
    resolving := fun kind' request' hmem => ?_
    window := fun kind' requests hsome request' hmem => ?_
    windowAll := fun kind' requests hsome request' hrequest' =>
      h.windowAll kind' requests hsome request' (hcases _ _ hrequest').2 }
  · obtain hold | hhas := h.pending kind' request' hmem
    · exact Or.inl hold
    · by_cases hkind : kind' = kind
      · subst hkind
        exact Or.inl ((h.windowAll kind' [] hw request' hhas).resolve_left List.not_mem_nil)
      · exact Or.inr (hstill _ _ hkind hhas).1
  · obtain ⟨hkind, hhas⟩ := hcases _ _ hrequest'
    exact (hstill _ _ hkind hhas).2 (h.answering _ _ hhas hnumber)
  · obtain ⟨hhas, hanswered, hanswering, hidle⟩ := h.resolving kind' request' hmem
    have hkind : kind' ≠ kind := by
      rintro rfl
      exact absurd (hidle.symm.trans hw) (fun h => nomatch h)
    exact ⟨(hstill _ _ hkind hhas).1, hanswered, (hstill _ _ hkind hhas).2 hanswering, hidle⟩
  · obtain ⟨hhas, hold⟩ := h.window kind' requests hsome request' hmem
    have hkind : kind' ≠ kind := by
      rintro rfl
      obtain rfl := Option.some.inj (hw.symm.trans hsome)
      exact absurd hmem List.not_mem_nil
    exact ⟨(hstill _ _ hkind hhas).1, hold⟩

/-- The cancellation returns. If it was successful, every request that was filed has its answer. -/
theorem releaseGate (h : AcpCore R (G + {w}) s) {ok : Bool} (hok : ok = true → ∀ kind, w kind = some []) :
    AcpCore R G (s.releaseGate ok) := by
  obtain ⟨hG, -, rfl⟩ := h.window_eq
  refine { h with
    gates := hG
    idle := fun _ _ => rfl
    resolving := fun kind' request' hmem => ?_
    windowNodup := fun _ _ hsome => nomatch hsome
    window := fun _ _ hsome => nomatch hsome
    windowAll := fun _ _ hsome => nomatch hsome
    missed := ?_ }
  · obtain ⟨hhas, hanswered, hanswering, -⟩ := h.resolving kind' request' hmem
    exact ⟨hhas, hanswered, hanswering, rfl⟩
  · show (if ok = true then _ ++ s.missed else s.missed) = []
    split_ifs with hreturned
    · rw [h.missed, List.append_nil, List.filter_eq_nil_iff]
      intro number hmem hunanswered
      obtain ⟨⟨kind', request'⟩, hfiled, rfl⟩ := List.mem_map.mp hmem
      refine of_decide_eq_true hunanswered ?_
      obtain hanswered | hhas := h.pending kind' request' hfiled
      · exact hanswered
      · exact (h.windowAll kind' [] (hok hreturned kind') request' hhas).resolve_left List.not_mem_nil
    · exact h.missed

end AcpCore

/-! ## The methods -/

/-- A thread that runs the program from what it holds keeps the invariant, whatever the others do. -/
abbrev AcpKeeping {α : Type} (post : Except AcpError α → AcpToken → Prop) (p : AcpProg α) (own : AcpToken) : Prop :=
  p.Holds execAcp AcpAllowed AcpInv post own

/-- The call has answered the request. -/
def answeredToken (kind : RequestKind) (request : Pending kind) : AcpToken := ({⟨kind, request⟩}, 0)

def cancelToken (w : Windows) : AcpToken := (0, {w})

theorem AcpCore.prompt {R : Multiset (Sigma Pending)} {G : Multiset Windows} {s : AcpShared} (h : AcpCore R G s)
    (prompt : Option PendingPrompt) : AcpCore R G { s with pendingPrompt := prompt } := { h with }

theorem orDriverError_keeping {own : AcpToken} {post : Except AcpError Unit → AcpToken → Prop}
    {sent : Except ProcessError Unit} (hok : sent = .ok () → post (.ok ()) own)
    (herr : ∀ e, sent = .error e → post (.error (.driver e)) own) : AcpKeeping post (orDriverError sent) own := by
  cases sent with
  | ok u => exact hok rfl
  | error e => exact herr e rfl

theorem fileRequest_keeping (kind : RequestKind) (requestId : ExternalRequestId) (body : RequestBody kind) :
    AcpKeeping (fun _ _ => True) (fileRequest kind requestId body) 0 := by
  unfold fileRequest
  refine Prog.holds_perform_bind fun s rest hi hallowed => ⟨0, hi.insert hallowed.2, ?_⟩
  cases (execAcp (.insert kind requestId body) s).2 <;> trivial

theorem permissionRequest_keeping (requestId : ExternalRequestId) (consent : Option (String × Except ProcessError Unit))
    (normalized : Option PendingPrompt → Except AcpError PendingApproval) :
    AcpKeeping (fun _ _ => True) (permissionRequest requestId consent normalized) 0 := by
  unfold permissionRequest
  cases consent with
  | some consent =>
      obtain ⟨optionId, sent⟩ := consent
      refine Prog.holds_perform_bind fun s rest hi _ => ⟨0, ?_, orDriverError_keeping (fun _ => trivial) fun _ _ => trivial⟩
      cases sent with
      | ok u => exact AcpCore.sendConsent hi optionId
      | error e => exact hi
  | none =>
      refine Prog.holds_perform_bind fun s rest hi _ => ⟨0, hi, ?_⟩
      show AcpKeeping _ (Prog.ret (normalized s.pendingPrompt) >>= _) 0
      cases normalized s.pendingPrompt with
      | error e => trivial
      | ok body =>
          refine Prog.holds_perform_bind fun s rest hi _ => ⟨0, hi, ?_⟩
          show AcpKeeping _ (if ((s.pending .host).get? requestId).isSome then _ else _) 0
          split_ifs
          · trivial
          · exact fileRequest_keeping .permission requestId body

theorem hostRequest_keeping (requestId : ExternalRequestId)
    (normalized : PendingPrompt → Except AcpError AgentHostRequest) :
    AcpKeeping (fun _ _ => True) (hostRequest requestId normalized) 0 := by
  unfold hostRequest
  refine Prog.holds_perform_bind fun s rest hi _ => ⟨0, hi, ?_⟩
  show AcpKeeping _ (if ((s.pending .permission).get? requestId).isSome then _ else _) 0
  split_ifs
  · trivial
  · refine Prog.holds_perform_bind fun s rest hi _ => ⟨0, hi, ?_⟩
    show AcpKeeping _ (match s.pendingPrompt with | none => _ | some prompt => _) 0
    cases s.pendingPrompt with
    | none => trivial
    | some prompt =>
        show AcpKeeping _ (Prog.ret (normalized prompt) >>= _) 0
        cases normalized prompt with
        | error e => trivial
        | ok body => exact fileRequest_keeping .host requestId body

/-- The answer to a request is read, sent and removed. -/
theorem resolve_keeping (kind : RequestKind) (requestId : ExternalRequestId)
    (answer : RequestBody kind → Except AcpError AcpAnswer) (sent : Except ProcessError Unit) :
    AcpKeeping (fun _ _ => True) (resolve kind requestId answer sent) 0 := by
  unfold resolve
  refine Prog.holds_perform_bind fun s rest hi _ => ⟨0, hi, ?_⟩
  cases hget : (execAcp (.read kind requestId) s).2 with
  | none => trivial
  | some request =>
      obtain rfl : request.requestId = requestId := Keyed.key_eq_of_get? hget
      show AcpKeeping _ (Prog.ret (answer request.body) >>= _) 0
      cases answer request.body with
      | error e => trivial
      | ok answer =>
          refine Prog.holds_perform_bind fun s rest hi hallowed => ?_
          cases sent with
          | error e => exact ⟨0, hi, trivial⟩
          | ok u =>
              refine ⟨answeredToken kind request, ?_, ?_⟩
              · have hcore : AcpCore rest.1 rest.2 s := by
                  rw [add_zero] at hi
                  exact hi
                show AcpCore (rest.1 + {⟨kind, request⟩}) (rest.2 + 0) _
                rw [add_zero]
                exact hcore.sendAnswer hallowed.2
              · refine Prog.holds_perform fun s rest hi _ => ⟨0, ?_, trivial⟩
                have hcore : AcpCore (rest.1 + {⟨kind, request⟩}) rest.2 s := by
                  rw [← add_zero rest.2]
                  exact hi
                rw [add_zero]
                exact hcore.remove

/-- The requests of a list are answered. -/
theorem sendCancelled_keeping (kind : RequestKind) (sends : Nat → Except ProcessError Unit)
    (requests : List (Pending kind)) (w : Windows) (hw : w kind = some requests) :
    AcpKeeping (fun result own => ∃ w', own = cancelToken w' ∧
        (result = .ok () → w' kind = some [] ∧ ∀ kind' ≠ kind, w' kind' = w kind'))
      (sendCancelled kind sends requests) (cancelToken w) := by
  induction requests generalizing w with
  | nil => exact ⟨w, rfl, fun _ => ⟨hw, fun _ _ => rfl⟩⟩
  | cons request requests ih =>
      unfold sendCancelled
      refine Prog.holds_perform_bind fun s rest hi _ => ?_
      cases hsent : sends request.number with
      | error e => exact ⟨cancelToken w, hi, w, rfl, fun h => nomatch h⟩
      | ok u =>
          refine ⟨cancelToken (Function.update w kind (some requests)), AcpCore.sendCancelled hi hw, ?_⟩
          refine (ih _ (Function.update_self _ _ _)).weaken fun result own hown => ?_
          obtain ⟨w', rfl, hdone⟩ := hown
          refine ⟨w', rfl, fun hok => ⟨(hdone hok).1, fun kind' hkind => ?_⟩⟩
          exact ((hdone hok).2 kind' hkind).trans (Function.update_of_ne hkind _ _)

theorem cancelAll_keeping (kind : RequestKind) (sends : Nat → Except ProcessError Unit) (w : Windows) :
    AcpKeeping (fun result own => ∃ w', own = cancelToken w' ∧
        (result = .ok () → w' kind = some [] ∧ ∀ kind' ≠ kind, w' kind' = w kind'))
      (cancelAll kind sends) (cancelToken w) := by
  unfold cancelAll
  refine Prog.holds_perform_bind fun s rest hi hallowed => ?_
  refine ⟨cancelToken (Function.update w kind (some (s.pending kind).values)), AcpCore.copy hi hallowed.2, ?_⟩
  refine (sendCancelled_keeping kind sends _ _ (Function.update_self _ _ _)).bind (fun u own hown => ?_) fun e own hown => ?_
  · obtain ⟨w', rfl, hdone⟩ := hown
    obtain ⟨hnone, hothers⟩ := hdone rfl
    refine Prog.holds_perform fun s' rest hi' _ => ⟨cancelToken w', AcpCore.clear hi' hnone, w', rfl, fun _ => ⟨hnone, ?_⟩⟩
    exact fun kind' hkind => (hothers kind' hkind).trans (Function.update_of_ne hkind _ _)
  · obtain ⟨w', rfl, -⟩ := hown
    exact ⟨w', rfl, fun h => nomatch h⟩

theorem cancelLocked_keeping (sessionId : String) (sends : Nat → Except ProcessError Unit)
    (notified : Except ProcessError Unit) (w : Windows) :
    AcpKeeping (fun result own => ∃ w', own = cancelToken w' ∧ (result = .ok () → ∀ kind, w' kind = some []))
      (cancelLocked sessionId sends notified) (cancelToken w) := by
  unfold cancelLocked
  refine Prog.holds_perform_bind fun s rest hi _ => ⟨cancelToken w, hi, ?_⟩
  show AcpKeeping _ (match s.pendingPrompt with | none => _ | some prompt => _) _
  cases s.pendingPrompt with
  | none => exact ⟨w, rfl, fun h => nomatch h⟩
  | some prompt =>
      dsimp only
      split_ifs
      · exact ⟨w, rfl, fun h => nomatch h⟩
      refine (cancelAll_keeping .permission sends w).bind (fun u own hown => ?_) fun e own hown => ?_
      · obtain ⟨w₁, rfl, hdone₁⟩ := hown
        refine (cancelAll_keeping .host sends w₁).bind (fun u own hown => ?_) fun e own hown => ?_
        · obtain ⟨w₂, rfl, hdone₂⟩ := hown
          obtain ⟨hhost, hothers⟩ := hdone₂ rfl
          have hall : ∀ kind, w₂ kind = some [] := fun kind => by
            cases kind with
            | permission => exact (hothers .permission (by decide)).trans (hdone₁ rfl).1
            | host => exact hhost
          refine Prog.holds_perform_bind fun s rest hi _ => ⟨cancelToken w₂, hi, orDriverError_keeping ?_ ?_⟩
          · exact fun _ => ⟨w₂, rfl, fun _ => hall⟩
          · exact fun e _ => ⟨w₂, rfl, fun h => nomatch h⟩
        · obtain ⟨w₂, rfl, -⟩ := hown
          exact ⟨w₂, rfl, fun h => nomatch h⟩
      · obtain ⟨w₁, rfl, -⟩ := hown
        exact ⟨w₁, rfl, fun h => nomatch h⟩

theorem cancelTurn_keeping (sessionId : String) (sends : Nat → Except ProcessError Unit)
    (notified : Except ProcessError Unit) : AcpKeeping (fun _ _ => True) (cancelTurn sessionId sends notified) 0 := by
  unfold cancelTurn
  cases boundedText sessionId 4096 with
  | error e => trivial
  | ok sessionId =>
      refine Prog.holds_perform_bind fun s rest hi hallowed => ?_
      refine ⟨cancelToken fun _ => none, ?_, ?_⟩
      · have hcore : AcpCore rest.1 rest.2 s := by
          rw [add_zero] at hi
          exact hi
        show AcpCore (rest.1 + 0) (rest.2 + {fun _ => none}) _
        rw [add_zero]
        exact hcore.lockGate hallowed.1
      · refine Prog.Holds.andThen (Prog.Holds.attempt ((cancelLocked_keeping sessionId sends notified _).weaken ?_))
        rintro result own ⟨w, rfl, hdone⟩
        have hrelease : ∀ (s : AcpShared) (rest : AcpToken) (ok : Bool), (ok = true → ∀ kind, w kind = some []) →
            AcpInv (rest + cancelToken w) s → AcpInv (rest + 0) (s.releaseGate ok) := by
          intro s rest ok hok hi
          have hcore : AcpCore rest.1 (rest.2 + {w}) s := by
            rw [← add_zero rest.1]
            exact hi
          rw [add_zero]
          exact hcore.releaseGate hok
        cases result with
        | ok u =>
            refine Prog.holds_perform fun s rest hi _ => ⟨0, hrelease s rest true (fun _ => hdone rfl) hi, trivial⟩
        | error e =>
            refine Prog.holds_perform_bind fun s rest hi _ => ⟨0, hrelease s rest false (fun h => nomatch h) hi, trivial⟩

theorem startTurn_keeping (prompt : PendingPrompt) (started : Except AcpError Unit) :
    AcpKeeping (fun _ _ => True) (startTurn prompt started) 0 := by
  unfold startTurn
  refine Prog.holds_perform_bind fun s rest hi _ => ⟨0, ?_, trivial⟩
  show AcpInv _ (if s.pendingPrompt.isSome then _ else _ : AcpShared × Except AcpError Unit).1
  split_ifs
  · exact hi
  · cases started with
    | error e => exact hi
    | ok u => exact AcpCore.prompt hi (some prompt)

theorem completePrompt_keeping : AcpKeeping (fun _ _ => True) completePrompt 0 := by
  unfold completePrompt
  refine Prog.holds_perform_bind fun s rest hi _ => ⟨0, AcpCore.prompt hi none, ?_⟩
  cases (execAcp .takePrompt s).2 <;> trivial

theorem acpCall_keeping (call : AcpCall) : AcpKeeping (fun _ _ => True) call.program 0 := by
  cases call with
  | permissionRequest requestId consent normalized => exact permissionRequest_keeping requestId consent normalized
  | hostRequest requestId normalized => exact hostRequest_keeping requestId normalized
  | resolveEffect requestId authorization sent =>
      show AcpKeeping _ (if authorization.operationRevision = 0 then _ else _) 0
      split_ifs
      · trivial
      · exact resolve_keeping .permission requestId (permissionAnswer authorization) sent
  | resolveHostRequest requestId wire sent => 
      exact resolve_keeping .host requestId (fun request => (wire request.operation).map .host) sent
  | cancelTurn sessionId sends notified => exact cancelTurn_keeping sessionId sends notified
  | startTurn prompt started => exact startTurn_keeping prompt started
  | completePrompt => exact completePrompt_keeping

/-! ## Runs -/

/-- The states of a client's runs: calls come at any time and work in any order. -/
abbrev AcpReaches (allowed : AcpOp → AcpShared → Prop) (pool : AcpPool) : Prop :=
  Relation.ReflTransGen (Threads.Step execAcp AcpStarts (fun _ _ => False) allowed) ⟨.start, []⟩ pool

theorem acpStarts_keeping {p : AcpProg Unit} {s s' : AcpShared} {m : AcpToken} (hstart : AcpStarts s p s')
    (h : AcpInv m s) : ∃ own, AcpInv (m + own) s' ∧ AcpKeeping (fun _ _ => True) p own := by
  cases hstart with
  | call call => exact ⟨0, (add_zero m).symm ▸ h, acpCall_keeping call⟩

/-- **Main result.** In a run whose steps are all within the condition every request is answered once, none is replaced,
and none is without an answer when a cancellation has returned. -/
theorem answeredOnce {pool : AcpPool} (hrun : AcpReaches AcpAllowed pool) : AnsweredOnce pool.state := by
  obtain ⟨tokens, hheld⟩ := Threads.reachable (fun _ _ _ h => h.elim) (fun _ _ _ _ hstart h => acpStarts_keeping hstart h)
    AcpCore.start hrun
  exact AcpCore.once_and_all hheld.1

/-! ### An approval while the turn is cancelled -/

def sampleApproval : PendingApproval where
  proposal := ⟨0, .acp, .string "1", "session/request_permission", .shell, "cargo test", [], "", some "session",
    some "acp-turn-1", none⟩
  options := [⟨"allow", .allowOnce⟩]

def sampleHostRequest : AgentHostRequest := ⟨"terminal/kill", "", "session", "acp-turn-1", .terminalKill "terminal"⟩

/-- A turn with a permission request and a host request. The user approves the first, and the turn is cancelled. -/
def sampleCalls : List AcpCall :=
  [.startTurn ⟨"session", "acp-turn-1"⟩ (.ok ()),
    .permissionRequest (.string "1") none fun _ => .ok sampleApproval,
    .hostRequest (.string "2") fun _ => .ok sampleHostRequest,
    .resolveEffect (.string "1") ⟨⟨1⟩, 1, "", .allowOnce⟩ (.ok ()),
    .cancelTurn "session" (fun _ => .ok ()) (.ok ())]

/-- The operations of the calls in the order of the schedule. -/
def sampleAnswers (check : AcpOp → AcpShared → Bool) (schedule : List Nat) : Option AcpShared :=
  (schedule.foldlM (Threads.advance execAcp check) ⟨.start, sampleCalls.map AcpCall.program⟩).map Pool.state

theorem reaches_of_sampleAnswers {allowed : AcpOp → AcpShared → Prop} {check : AcpOp → AcpShared → Bool}
    (hcheck : ∀ op s, check op s = true → allowed op s) {schedule : List Nat} {s : AcpShared}
    (h : sampleAnswers check schedule = some s) : ∃ pool, AcpReaches allowed pool ∧ pool.state = s := by
  obtain ⟨pool, hrun, hstate⟩ := Option.map_eq_some_iff.mp h
  refine ⟨pool, (Threads.reaches_started fun p hp => ?_).trans (Threads.reaches_of_schedule hcheck hrun), hstate⟩
  obtain ⟨call, -, rfl⟩ := List.mem_map.mp hp
  exact .call _ call

/-- The approval is sent and removed before the cancellation begins. -/
theorem answeredOnce_sample : ∃ pool : AcpPool, AcpReaches AcpAllowed pool ∧
    pool.state.answers.map Prod.fst = [1, 0] ∧ AnsweredOnce pool.state := by
  have hsome : (sampleAnswers (fun op s => decide (AcpAllowed op s))
      [0, 1, 1, 1, 2, 2, 2, 3, 3, 3, 4, 4, 4, 4, 4, 4, 4, 4, 4]).map (fun s => s.answers.map Prod.fst) = some [1, 0] := by
    decide
  obtain ⟨s, hrun, hs⟩ := Option.map_eq_some_iff.mp hsome
  obtain ⟨pool, hreach, rfl⟩ := reaches_of_sampleAnswers (fun _ _ => of_decide_eq_true) hrun
  exact ⟨pool, hreach, hs, answeredOnce hreach⟩

/-- The approval has been read when the cancellation answers the request, and is sent after it. -/
theorem sample_answered_twice : ¬∀ pool : AcpPool, AcpReaches AcpEnabled pool → AnsweredOnce pool.state := by
  intro hall
  have hsome : (sampleAnswers (fun op s => decide (AcpEnabled op s)) [0, 1, 1, 1, 3, 4, 4, 4, 4, 3]).map
      (fun s => s.answers.map Prod.fst) = some [0, 0] := by decide
  obtain ⟨s, hrun, hs⟩ := Option.map_eq_some_iff.mp hsome
  obtain ⟨pool, hreach, rfl⟩ := reaches_of_sampleAnswers (fun _ _ => of_decide_eq_true) hrun
  have honce := (hall pool hreach).once
  rw [hs] at honce
  exact absurd honce (by decide)

end HyperTerm.Drivers
