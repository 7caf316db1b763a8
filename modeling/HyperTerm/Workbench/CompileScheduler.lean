import HyperTerm.Lib.Runs
import Mathlib.Data.List.Perm.Basic
import Mathlib.Data.List.Nodup
import Mathlib.Tactic.SplitIfs

/-!
# The scheduler of compilations

`LatestCompileScheduler` compiles one request at a time and keeps the latest one that arrives meanwhile. A request that
waits and is replaced is answered as superseded, and the arrival of a request asks to cancel what is being compiled.

* `Scheduler`, `Scheduler.step` : the fields of the source, the calls of `#run` that are suspended, and the requests to
  cancel that have not settled; a step runs to the next suspension point;
* `SchedulerSound` : what holds in every run;
* `Fair`, `answered` : every compilation resolves, every request to cancel settles, and so every request is answered;
* `every_request_answered_once` : both over every order of arrivals and completions.
-/

namespace HyperTerm.Workbench
open HyperTerm.Lib

structure CompileRequest where
  requestId : String
  sourceRevision : Nat
  entrypoint : String
  files : List (String × String)
  deriving DecidableEq

inductive CompileResponse (C D : Type) where
  | compiled (requestId : String) (sourceRevision : Nat) (candidate : C)
  | compileFailed (requestId : String) (sourceRevision : Nat) (diagnostics : D)
  | compileSuperseded (requestId : String) (sourceRevision : Nat) (supersededByRequestId : String)
      (supersededBySourceRevision : Nat)

variable {C D : Type}

def superseded (request replacement : CompileRequest) : CompileResponse C D :=
  .compileSuperseded request.requestId request.sourceRevision replacement.requestId replacement.sourceRevision

/-- A request as an object: every message brings a new one. -/
structure RequestObject where
  id : Nat
  request : CompileRequest
  deriving DecidableEq

/-- A call of `#run`, at `await this.compile(request)` or at `await this.#cancellation`. -/
inductive SchedulerRun where
  | compiling (object : RequestObject)
  | awaiting (cancellation : Option Nat)
  deriving DecidableEq

def SchedulerRun.object? : SchedulerRun → Option RequestObject
  | compiling object => some object
  | awaiting _ => none

/-- `replacement` is the object because of which the request was superseded. -/
structure Posted (C D : Type) where
  answers : Nat
  replacement : Option Nat
  response : CompileResponse C D

/-- `cancellation` names a promise, and `inFlight` are the promises of `cancel` that have not settled. `arrived`,
`posted` and `started` are the history: every compilation with what was in flight when it started. -/
structure Scheduler (C D : Type) where
  running : Bool
  queued : Option RequestObject
  cancellation : Option Nat
  runs : List SchedulerRun
  cancels : Nat
  inFlight : List Nat
  arrived : List CompileRequest
  posted : List (Posted C D)
  started : List (Nat × List Nat)

inductive SchedulerEvent (C D : Type) where
  | enqueue (request : CompileRequest)
  | compiled (i : Nat) (response : CompileResponse C D)
  | settled (cancellation : Nat)
  | resume (i : Nat)

namespace Scheduler

def new : Scheduler C D := ⟨false, none, none, [], 0, [], [], [], []⟩

/-- The awaited promise has settled, or there was none. -/
def Settled (scheduler : Scheduler C D) (cancellation : Option Nat) : Prop :=
  ∀ id ∈ scheduler.inFlight, cancellation ≠ some id

instance (scheduler : Scheduler C D) (cancellation : Option Nat) : Decidable (scheduler.Settled cancellation) :=
  inferInstanceAs (Decidable (∀ id ∈ scheduler.inFlight, cancellation ≠ some id))

/-- A continuation is in the queue of microtasks. -/
def Ready (scheduler : Scheduler C D) : SchedulerRun → Prop
  | .compiling _ => False
  | .awaiting cancellation => scheduler.Settled cancellation

instance (scheduler : Scheduler C D) : DecidablePred scheduler.Ready := fun run =>
  match run with
  | .compiling _ => inferInstanceAs (Decidable False)
  | .awaiting cancellation => inferInstanceAs (Decidable (scheduler.Settled cancellation))

/-- `this.compile(request)`, in a call of `#run`. -/
def startCompile (scheduler : Scheduler C D) (object : RequestObject) : Scheduler C D :=
  { scheduler with
    runs := scheduler.runs ++ [.compiling object]
    started := scheduler.started ++ [(object.id, scheduler.inFlight)] }

def enqueue (scheduler : Scheduler C D) (request : CompileRequest) : Scheduler C D :=
  let object : RequestObject := ⟨scheduler.arrived.length, request⟩
  let scheduler := { scheduler with arrived := scheduler.arrived ++ [request] }
  if scheduler.running = false then { scheduler with running := true }.startCompile object
  else
    let scheduler := { scheduler with
      posted := match scheduler.queued with
        | some queued => scheduler.posted ++ [Posted.mk queued.id (some object.id) (superseded queued.request request)]
        | none => scheduler.posted
      queued := some object }
    match scheduler.cancellation with
    | some _ => scheduler
    | none => { scheduler with
        cancellation := some scheduler.cancels
        cancels := scheduler.cancels + 1
        inFlight := scheduler.cancels :: scheduler.inFlight }

/-- What follows `await this.#cancellation`. -/
def afterCancellation (scheduler : Scheduler C D) : Scheduler C D :=
  let next := scheduler.queued
  let scheduler := { scheduler with cancellation := none, queued := none }
  match next with
  | some object => scheduler.startCompile object
  | none => { scheduler with running := false }

/-- A message is only taken when no continuation is ready. -/
def step (scheduler : Scheduler C D) : SchedulerEvent C D → Option (Scheduler C D)
  | .enqueue request =>
      if ∃ run ∈ scheduler.runs, scheduler.Ready run then none else some (scheduler.enqueue request)
  | .compiled i response =>
      match scheduler.runs[i]? with
      | some (.compiling object) => some { scheduler with
          posted := scheduler.posted ++ [⟨object.id, none, response⟩]
          runs := scheduler.runs.set i (.awaiting scheduler.cancellation) }
      | _ => none
  | .settled cancellation =>
      if cancellation ∈ scheduler.inFlight then
        some { scheduler with inFlight := scheduler.inFlight.erase cancellation }
      else none
  | .resume i =>
      match scheduler.runs[i]? with
      | some (.awaiting cancellation) =>
          if scheduler.Settled cancellation then
            some { scheduler with runs := scheduler.runs.eraseIdx i }.afterCancellation
          else none
      | _ => none

/-- The requests that have not been answered: what is being compiled, and what waits. -/
def outstanding (scheduler : Scheduler C D) : List RequestObject :=
  scheduler.runs.filterMap SchedulerRun.object? ++ scheduler.queued.toList

end Scheduler

/-! ## What holds in every run -/

/-- At most one call of `#run` exists, and what is in flight is the cancellation it will wait for. -/
inductive RunShape (scheduler : Scheduler C D) : Prop where
  | idle (runs : scheduler.runs = []) (running : scheduler.running = false) (queued : scheduler.queued = none)
      (cancellation : scheduler.cancellation = none) (inFlight : scheduler.inFlight = [])
  | busy (run : SchedulerRun) (runs : scheduler.runs = [run]) (running : scheduler.running = true)
      (awaited : ∀ cancellation, run = .awaiting cancellation → scheduler.cancellation = cancellation)
      (queued : scheduler.cancellation = none → scheduler.queued = none)
      (inFlight : scheduler.inFlight = [] ∨ ∃ id, scheduler.inFlight = [id] ∧ scheduler.cancellation = some id)

structure SchedulerSound (scheduler : Scheduler C D) : Prop where
  shape : RunShape scheduler
  /-- Every request is answered once or still outstanding. -/
  accounted : (scheduler.posted.map Posted.answers ++ scheduler.outstanding.map RequestObject.id).Perm
    (List.range scheduler.arrived.length)
  objects : ∀ object ∈ scheduler.outstanding, scheduler.arrived[object.id]? = some object.request
  later : ∀ p ∈ scheduler.posted, ∀ j, p.replacement = some j →
    p.answers < j ∧ ∃ request replacement, scheduler.arrived[p.answers]? = some request ∧
      scheduler.arrived[j]? = some replacement ∧ p.response = superseded request replacement
  started : ∀ entry ∈ scheduler.started, entry.2 = []

namespace SchedulerSound

variable {scheduler scheduler' : Scheduler C D} {request : CompileRequest}

theorem getElem?_concat {α : Type} {l : List α} {i : Nat} {a : α} (h : l[i]? = some a) (b : α) :
    (l ++ [b])[i]? = some a := by
  obtain ⟨hi, -⟩ := List.getElem?_eq_some_iff.mp h
  rw [List.getElem?_append_left hi, h]

theorem new : SchedulerSound (Scheduler.new : Scheduler C D) where
  shape := .idle rfl rfl rfl rfl rfl
  accounted := List.Perm.refl _
  objects _ hmem := absurd hmem List.not_mem_nil
  later _ hmem := absurd hmem List.not_mem_nil
  started _ hmem := absurd hmem List.not_mem_nil

/-- What is answered as superseded stays so when more requests arrive. -/
theorem later_concat (hsound : SchedulerSound scheduler) {p : Posted C D} (hp : p ∈ scheduler.posted) {j : Nat}
    (hj : p.replacement = some j) : p.answers < j ∧ ∃ first replacement,
      (scheduler.arrived ++ [request])[p.answers]? = some first ∧
        (scheduler.arrived ++ [request])[j]? = some replacement ∧ p.response = superseded first replacement := by
  obtain ⟨hlt, first, replacement, hfirst, hreplacement, hresponse⟩ := hsound.later p hp j hj
  exact ⟨hlt, first, replacement, getElem?_concat hfirst _, getElem?_concat hreplacement _, hresponse⟩

theorem enqueue_idle (hsound : SchedulerSound scheduler) (hruns : scheduler.runs = [])
    (hrunning : scheduler.running = false) (hqueued : scheduler.queued = none) (hinFlight : scheduler.inFlight = []) :
    SchedulerSound (scheduler.enqueue request) := by
  have henqueue : scheduler.enqueue request = { scheduler with
      arrived := scheduler.arrived ++ [request]
      running := true
      runs := [.compiling ⟨scheduler.arrived.length, request⟩]
      started := scheduler.started ++ [(scheduler.arrived.length, [])] } := by
    unfold Scheduler.enqueue Scheduler.startCompile
    dsimp only
    rw [if_pos hrunning, hruns, hinFlight]
    rfl
  have hnothing : scheduler.outstanding = [] := by
    unfold Scheduler.outstanding
    rw [hruns, hqueued]
    rfl
  have houtstanding : (scheduler.enqueue request).outstanding = [⟨scheduler.arrived.length, request⟩] := by
    rw [henqueue]
    unfold Scheduler.outstanding
    dsimp only
    rw [hqueued]
    rfl
  have haccounted := hsound.accounted
  rw [hnothing] at haccounted
  refine ⟨?_, ?_, ?_, ?_, ?_⟩
  · rw [henqueue]
    exact .busy _ rfl rfl (fun _ h => (nomatch h)) (fun _ => hqueued) (Or.inl hinFlight)
  · rw [houtstanding, henqueue]
    dsimp only
    rw [List.length_append, List.length_singleton, List.range_succ]
    simpa using haccounted.append_right [scheduler.arrived.length]
  · rw [houtstanding, henqueue]
    intro object hobject
    rw [List.mem_singleton.mp hobject]
    exact List.getElem?_concat_length
  · rw [henqueue]
    exact fun p hp j hj => hsound.later_concat hp hj
  · rw [henqueue]
    intro entry hentry
    rcases List.mem_append.mp hentry with hold | hnew
    · exact hsound.started entry hold
    · rw [List.mem_singleton.mp hnew]

/-- What an arrival does while a call of `#run` exists. -/
theorem enqueue_eq (request : CompileRequest) {run : SchedulerRun} (hrunning : scheduler.running = true)
    (hready : ¬scheduler.Ready run)
    (hawaited : ∀ cancellation, run = .awaiting cancellation → scheduler.cancellation = cancellation)
    (hinFlight : scheduler.inFlight = [] ∨ ∃ id, scheduler.inFlight = [id] ∧ scheduler.cancellation = some id)
    (hnone : scheduler.cancellation = none → scheduler.inFlight = []) :
    ∃ id cancels inFlight, scheduler.enqueue request = { scheduler with
        arrived := scheduler.arrived ++ [request]
        posted := match scheduler.queued with
          | some queued => scheduler.posted ++
              [Posted.mk queued.id (some scheduler.arrived.length) (superseded queued.request request)]
          | none => scheduler.posted
        queued := some ⟨scheduler.arrived.length, request⟩
        cancellation := some id
        cancels
        inFlight } ∧ (inFlight = [] ∨ inFlight = [id]) ∧
      ∀ cancellation, run = .awaiting cancellation → some id = cancellation := by
  unfold Scheduler.enqueue
  dsimp only
  rw [if_neg (by rw [hrunning]; exact Bool.noConfusion)]
  cases hcancellation : scheduler.cancellation with
  | some id =>
      rw [hcancellation] at hawaited hinFlight
      refine ⟨id, scheduler.cancels, scheduler.inFlight, rfl, ?_, hawaited⟩
      refine hinFlight.imp_right ?_
      rintro ⟨id', hid, heq⟩
      rw [hid, Option.some.inj heq]
  | none =>
      refine ⟨scheduler.cancels, scheduler.cancels + 1, [scheduler.cancels], ?_, Or.inr rfl, ?_⟩
      · rw [hnone hcancellation]
      · rintro _ rfl
        have hpromise := hawaited _ rfl
        rw [hcancellation] at hpromise
        subst hpromise
        exact absurd (fun _ _ h => nomatch h) hready

/-- An arrival meanwhile: the one that waited is superseded, and a cancellation is in flight or has been. -/
theorem enqueue_busy (hsound : SchedulerSound scheduler) {run : SchedulerRun} (hruns : scheduler.runs = [run])
    (hrunning : scheduler.running = true) (hready : ¬scheduler.Ready run)
    (hawaited : ∀ cancellation, run = .awaiting cancellation → scheduler.cancellation = cancellation)
    (hinFlight : scheduler.inFlight = [] ∨ ∃ id, scheduler.inFlight = [id] ∧ scheduler.cancellation = some id) :
    SchedulerSound (scheduler.enqueue request) := by
  have hnone : scheduler.cancellation = none → scheduler.inFlight = [] := by
    rintro hcancellation
    rcases hinFlight with hinFlight | ⟨id, -, hid⟩
    · exact hinFlight
    · rw [hcancellation] at hid
      exact nomatch hid
  obtain ⟨id, cancels, inFlight, henqueue, hflight, hpromise⟩ :=
    enqueue_eq request hrunning hready hawaited hinFlight hnone
  have haccounted := hsound.accounted
  have hobjects := hsound.objects
  unfold Scheduler.outstanding at haccounted hobjects
  rw [henqueue]
  refine ⟨?_, ?_, ?_, ?_, hsound.started⟩
  · refine .busy run hruns hrunning hpromise (fun h => nomatch h) ?_
    exact hflight.imp_right fun h => ⟨id, h, rfl⟩
  · unfold Scheduler.outstanding
    dsimp only
    rw [List.length_append, List.length_singleton, List.range_succ]
    cases hqueued : scheduler.queued with
    | none =>
        rw [hqueued] at haccounted
        simpa using haccounted.append_right [scheduler.arrived.length]
    | some queued =>
        rw [hqueued] at haccounted
        rw [List.perm_iff_count] at haccounted ⊢
        intro a
        have hcount := haccounted a
        simp only [List.map_append, List.count_append, Option.toList_some, List.map_singleton] at hcount ⊢
        omega
  · intro object hobject
    unfold Scheduler.outstanding at hobject
    rcases List.mem_append.mp hobject with hold | hnew
    · exact getElem?_concat (hobjects object (List.mem_append_left _ hold)) _
    · rw [List.mem_singleton.mp hnew]
      exact List.getElem?_concat_length
  · intro p hp j hj
    cases hqueued : scheduler.queued with
    | none =>
        rw [hqueued] at hp
        exact hsound.later_concat hp hj
    | some queued =>
        rw [hqueued] at hp hobjects
        rcases List.mem_append.mp hp with hold | hnew
        · exact hsound.later_concat hold hj
        · rw [List.mem_singleton.mp hnew] at hj ⊢
          have hobject := hobjects queued (List.mem_append_right _ (List.mem_singleton_self _))
          obtain rfl := Option.some.inj hj
          exact ⟨(List.getElem?_eq_some_iff.mp hobject).1, queued.request, request, getElem?_concat hobject _,
            List.getElem?_concat_length, rfl⟩

theorem compiled (hsound : SchedulerSound scheduler) {object : RequestObject} {response : CompileResponse C D}
    (hruns : scheduler.runs = [.compiling object]) (hrunning : scheduler.running = true)
    (hqueued : scheduler.cancellation = none → scheduler.queued = none)
    (hinFlight : scheduler.inFlight = [] ∨ ∃ id, scheduler.inFlight = [id] ∧ scheduler.cancellation = some id) :
    SchedulerSound { scheduler with
      posted := scheduler.posted ++ [⟨object.id, none, response⟩]
      runs := [.awaiting scheduler.cancellation] } := by
  have haccounted := hsound.accounted
  have hobjects := hsound.objects
  unfold Scheduler.outstanding at haccounted hobjects
  rw [hruns] at haccounted hobjects
  refine ⟨.busy _ rfl hrunning (fun _ h => SchedulerRun.awaiting.inj h) hqueued hinFlight, ?_, ?_, ?_, hsound.started⟩
  · have hsame : (scheduler.posted ++ [(⟨object.id, none, response⟩ : Posted C D)]).map Posted.answers ++
        scheduler.queued.toList.map RequestObject.id = scheduler.posted.map Posted.answers ++
          ([SchedulerRun.compiling object].filterMap SchedulerRun.object? ++ scheduler.queued.toList).map RequestObject.id := by
      rw [List.map_append, List.append_assoc, List.map_append]
      rfl
    exact hsame ▸ haccounted
  · exact fun object hobject => hobjects object (List.mem_append_right _ hobject)
  · intro p hp j hj
    rcases List.mem_append.mp hp with hold | hnew
    · exact hsound.later p hold j hj
    · rw [List.mem_singleton.mp hnew] at hj
      exact nomatch hj

/-- The continuation takes what waits, and nothing is in flight. -/
theorem resume (hsound : SchedulerSound scheduler) {cancellation : Option Nat}
    (hruns : scheduler.runs = [.awaiting cancellation]) (hsettled : scheduler.Settled cancellation)
    (hawaited : scheduler.cancellation = cancellation) (hrunning : scheduler.running = true)
    (hinFlight : scheduler.inFlight = [] ∨ ∃ id, scheduler.inFlight = [id] ∧ scheduler.cancellation = some id) :
    SchedulerSound ({ scheduler with runs := [] } : Scheduler C D).afterCancellation := by
  have hflight : scheduler.inFlight = [] := by
    rcases hinFlight with hinFlight | ⟨id, hinFlight, hid⟩
    · exact hinFlight
    · refine absurd (hawaited.symm.trans hid) (hsettled id ?_)
      rw [hinFlight]
      exact List.mem_singleton_self id
  have haccounted := hsound.accounted
  have hobjects := hsound.objects
  unfold Scheduler.outstanding at haccounted hobjects
  rw [hruns] at haccounted hobjects
  unfold Scheduler.afterCancellation Scheduler.startCompile
  dsimp only
  cases hqueued : scheduler.queued with
  | none =>
      rw [hqueued] at haccounted hobjects
      exact ⟨.idle rfl rfl rfl rfl hflight, haccounted, hobjects, hsound.later, hsound.started⟩
  | some object =>
      rw [hqueued] at haccounted hobjects
      refine ⟨.busy _ rfl hrunning (fun _ h => nomatch h) (fun _ => rfl) (Or.inl hflight), haccounted, hobjects,
        hsound.later, ?_⟩
      intro entry hentry
      rcases List.mem_append.mp hentry with hold | hnew
      · exact hsound.started entry hold
      · rw [List.mem_singleton.mp hnew]
        exact hflight

theorem settlePromise (hsound : SchedulerSound scheduler) {id : Nat} (hmem : id ∈ scheduler.inFlight) :
    SchedulerSound { scheduler with inFlight := scheduler.inFlight.erase id } := by
  refine ⟨?_, hsound.accounted, hsound.objects, hsound.later, hsound.started⟩
  cases hsound.shape with
  | idle _ _ _ _ hinFlight =>
      rw [hinFlight] at hmem
      exact absurd hmem List.not_mem_nil
  | busy run hruns hrunning hawaited hqueued hinFlight =>
      refine .busy run hruns hrunning hawaited hqueued (Or.inl ?_)
      rcases hinFlight with hinFlight | ⟨id', hinFlight, -⟩
      · rw [hinFlight] at hmem
        exact absurd hmem List.not_mem_nil
      · rw [hinFlight] at hmem
        dsimp only
        rw [hinFlight, List.mem_singleton.mp hmem, List.erase_cons_head]

theorem step {event : SchedulerEvent C D} (hsound : SchedulerSound scheduler)
    (h : scheduler.step event = some scheduler') : SchedulerSound scheduler' := by
  cases hsound.shape with
  | idle hruns hrunning hqueued _ hinFlight =>
      cases event with
      | enqueue request =>
          simp only [Scheduler.step] at h
          split_ifs at h
          exact Option.some.inj h ▸ hsound.enqueue_idle hruns hrunning hqueued hinFlight
      | settled id => simp [Scheduler.step, hinFlight] at h
      | compiled i response => simp [Scheduler.step, hruns] at h
      | resume i => simp [Scheduler.step, hruns] at h
  | busy run hruns hrunning hawaited hqueued hinFlight =>
      cases event with
      | enqueue request =>
          simp only [Scheduler.step] at h
          split_ifs at h with hready
          refine Option.some.inj h ▸ hsound.enqueue_busy hruns hrunning (fun hrun => hready ⟨run, ?_, hrun⟩) hawaited hinFlight
          rw [hruns]
          exact List.mem_singleton_self run
      | settled id =>
          simp only [Scheduler.step] at h
          split_ifs at h with hmem
          exact Option.some.inj h ▸ hsound.settlePromise hmem
      | compiled i response =>
          simp only [Scheduler.step, hruns] at h
          cases i with
          | succ i => simp at h
          | zero =>
              cases run with
              | awaiting cancellation => simp at h
              | compiling object =>
                  simp only [List.getElem?_cons_zero, List.set_cons_zero, Option.some.injEq] at h
                  exact h ▸ hsound.compiled hruns hrunning hqueued hinFlight
      | resume i =>
          simp only [Scheduler.step, hruns] at h
          cases i with
          | succ i => simp at h
          | zero =>
              cases run with
              | compiling object => simp at h
              | awaiting cancellation =>
                  simp only [List.getElem?_cons_zero, List.eraseIdx_cons_zero] at h
                  split_ifs at h with hsettled
                  exact Option.some.inj h ▸ hsound.resume hruns hsettled (hawaited _ rfl) hrunning hinFlight

theorem length_runs (hsound : SchedulerSound scheduler) : scheduler.runs.length ≤ 1 := by
  cases hsound.shape with
  | idle hruns => simp [hruns]
  | busy run hruns => simp [hruns]

/-- A request is either outstanding or answered. -/
theorem answered_or_outstanding (hsound : SchedulerSound scheduler) {id : Nat} (hid : id < scheduler.arrived.length) :
    id ∈ scheduler.posted.map Posted.answers ∨ ∃ object ∈ scheduler.outstanding, object.id = id := by
  have hmem := hsound.accounted.mem_iff.mpr (List.mem_range.mpr hid)
  rcases List.mem_append.mp hmem with hposted | houtstanding
  · exact Or.inl hposted
  · exact Or.inr (List.mem_map.mp houtstanding)

theorem answered_once (hsound : SchedulerSound scheduler) : (scheduler.posted.map Posted.answers).Nodup :=
  (List.nodup_append.mp (hsound.accounted.nodup_iff.mpr List.nodup_range)).1

theorem answers_lt (hsound : SchedulerSound scheduler) {p : Posted C D} (hp : p ∈ scheduler.posted) :
    p.answers < scheduler.arrived.length :=
  List.mem_range.mp (hsound.accounted.mem_iff.mp (List.mem_append_left _ (List.mem_map_of_mem hp)))

end SchedulerSound

/-! ## Every request is answered -/

/-- Every compilation resolves, every request to cancel settles, and a continuation that is ready runs. -/
structure Fair (run : Execution (Scheduler.step (C := C) (D := D))) : Prop where
  compiles : ∀ n object, .compiling object ∈ (run.state n).runs → ∃ m, n ≤ m ∧ ∃ i response,
    run.event m = some (.compiled i response) ∧ (run.state m).runs[i]? = some (.compiling object)
  cancels : ∀ n id, id ∈ (run.state n).inFlight → ∃ m, n ≤ m ∧ run.event m = some (.settled id)
  continues : ∀ n cancellation, .awaiting cancellation ∈ (run.state n).runs → (run.state n).Settled cancellation →
    ∃ m, n ≤ m ∧ ∃ i, run.event m = some (.resume i)

/-- The request with this number has its response. -/
def Answered (id : Nat) (scheduler : Scheduler C D) : Prop := id ∈ scheduler.posted.map Posted.answers

/-- What waits has been answered, or its compilation has started. -/
def Taken (queued : RequestObject) (scheduler : Scheduler C D) : Prop :=
  Answered queued.id scheduler ∨ .compiling queued ∈ scheduler.runs

/-- A request waits behind this call of `#run`. -/
structure Waits (queued : RequestObject) (run : SchedulerRun) (scheduler : Scheduler C D) : Prop where
  sound : SchedulerSound scheduler
  queued : scheduler.queued = some queued
  runs : scheduler.runs = [run]

section Liveness

variable {scheduler scheduler' : Scheduler C D} {queued object : RequestObject} {call : SchedulerRun}
  {event : SchedulerEvent C D} {c : Nat}

theorem answered_of_compiled {i : Nat} {response : CompileResponse C D}
    (hcall : scheduler.runs[i]? = some (.compiling object))
    (h : scheduler.step (.compiled i response) = some scheduler') : Answered object.id scheduler' := by
  simp only [Scheduler.step, hcall, Option.some.injEq] at h
  subst h
  exact List.mem_map_of_mem (List.mem_append_right _ (List.mem_singleton_self _))

theorem waits_or_answered_of_enqueue {request : CompileRequest} (hwaits : Waits queued call scheduler)
    (h : scheduler.step (.enqueue request) = some scheduler') : Answered queued.id scheduler' := by
  simp only [Scheduler.step] at h
  split_ifs at h
  obtain rfl := Option.some.inj h
  have hrunning : scheduler.running = true := by
    cases hwaits.sound.shape with
    | idle _ _ hqueued =>
        rw [hwaits.queued] at hqueued
        exact nomatch hqueued
    | busy _ _ hrunning => exact hrunning
  have hposted : (scheduler.enqueue request).posted = scheduler.posted ++
      [Posted.mk queued.id (some scheduler.arrived.length) (superseded queued.request request)] := by
    unfold Scheduler.enqueue
    dsimp only
    rw [if_neg (by rw [hrunning]; exact Bool.noConfusion), hwaits.queued]
    cases scheduler.cancellation with
    | some _ => rfl
    | none => rfl
  unfold Answered
  rw [hposted]
  exact List.mem_map_of_mem (List.mem_append_right _ (List.mem_singleton_self _))

/-- What a step can do to a request that waits. -/
theorem Waits.step (hwaits : Waits queued call scheduler) (h : scheduler.step event = some scheduler') :
    Answered queued.id scheduler' ∨
      (∃ id, event = .settled id ∧ scheduler' = { scheduler with inFlight := scheduler.inFlight.erase id }) ∨
      (∃ object, call = .compiling object ∧ ∃ c, Waits queued (.awaiting (some c)) scheduler') ∨
      (∃ cancellation, call = .awaiting cancellation ∧ .compiling queued ∈ scheduler'.runs) := by
  have hsound := hwaits.sound.step h
  cases event with
  | enqueue request => exact Or.inl (waits_or_answered_of_enqueue hwaits h)
  | settled id =>
      simp only [Scheduler.step] at h
      split_ifs at h
      exact Or.inr (Or.inl ⟨id, rfl, (Option.some.inj h).symm⟩)
  | compiled i response =>
      simp only [Scheduler.step, hwaits.runs] at h
      cases i with
      | succ i => simp at h
      | zero =>
          cases call with
          | awaiting cancellation => simp at h
          | compiling object =>
              simp only [List.getElem?_cons_zero, List.set_cons_zero, Option.some.injEq] at h
              subst h
              refine Or.inr (Or.inr (Or.inl ⟨object, rfl, ?_⟩))
              cases hwaits.sound.shape with
              | idle _ _ hqueued =>
                  rw [hwaits.queued] at hqueued
                  exact nomatch hqueued
              | busy _ _ _ _ hqueued =>
                  cases hcancellation : scheduler.cancellation with
                  | none =>
                      rw [hwaits.queued] at hqueued
                      exact nomatch hqueued hcancellation
                  | some c =>
                      rw [hcancellation] at hsound
                      exact ⟨c, hsound, hwaits.queued, rfl⟩
  | resume i =>
      simp only [Scheduler.step, hwaits.runs] at h
      cases i with
      | succ i => simp at h
      | zero =>
          cases call with
          | compiling object => simp at h
          | awaiting cancellation =>
              simp only [List.getElem?_cons_zero, List.eraseIdx_cons_zero] at h
              split_ifs at h
              refine Or.inr (Or.inr (Or.inr ⟨cancellation, rfl, ?_⟩))
              rw [← Option.some.inj h]
              unfold Scheduler.afterCancellation Scheduler.startCompile
              dsimp only
              rw [hwaits.queued]
              exact List.mem_singleton_self _

/-- A settled promise leaves the request where it is. -/
theorem Waits.settlePromise (hwaits : Waits queued call scheduler) {id : Nat}
    (hsound : SchedulerSound { scheduler with inFlight := scheduler.inFlight.erase id }) :
    Waits queued call { scheduler with inFlight := scheduler.inFlight.erase id } :=
  ⟨hsound, hwaits.queued, hwaits.runs⟩

/-- Once the awaited cancellation has settled nothing is in flight. -/
theorem Waits.settled_of_settled (hwaits : Waits queued (.awaiting (some c)) scheduler)
    (h : scheduler.step (.settled c) = some scheduler') : scheduler'.Settled (some c) := by
  simp only [Scheduler.step] at h
  split_ifs at h with hmem
  obtain rfl := Option.some.inj h
  cases hwaits.sound.shape with
  | idle _ _ _ _ hinFlight =>
      rw [hinFlight] at hmem
      exact absurd hmem List.not_mem_nil
  | busy _ _ _ _ _ hinFlight =>
      rcases hinFlight with hinFlight | ⟨id, hinFlight, -⟩
      · rw [hinFlight] at hmem
        exact absurd hmem List.not_mem_nil
      · rw [hinFlight] at hmem
        unfold Scheduler.Settled
        dsimp only
        rw [hinFlight, List.mem_singleton.mp hmem, List.erase_cons_head]
        exact fun _ hnot => absurd hnot List.not_mem_nil

variable {run : Execution (Scheduler.step (C := C) (D := D))} {n : Nat}

theorem compiling_answered (hfair : Fair run) (hcompiling : .compiling object ∈ (run.state n).runs) :
    ∃ m, n ≤ m ∧ Answered object.id (run.state m) := by
  obtain ⟨m, hle, i, response, hevent, hcall⟩ := hfair.compiles n object hcompiling
  exact ⟨m + 1, Nat.le_succ_of_le hle, answered_of_compiled hcall (run.step_of_event hevent)⟩

theorem ready_taken (hfair : Fair run) (hwaits : Waits queued (.awaiting (some c)) (run.state n))
    (hsettled : (run.state n).Settled (some c)) : ∃ m, n ≤ m ∧ Taken queued (run.state m) := by
  refine run.leads (fun s => Waits queued (.awaiting (some c)) s ∧ s.Settled (some c)) (Taken queued)
    (fun _ event => ∃ i, event = .resume i) ?_ ?_ ⟨hwaits, hsettled⟩ ?_
  · rintro s event s' ⟨hw, hs⟩ hstep
    rcases hw.step hstep with hanswered | ⟨id, -, rfl⟩ | ⟨_, hcall, -⟩ | ⟨_, -, hcompiling⟩
    · exact Or.inr (Or.inl hanswered)
    · exact Or.inl ⟨hw.settlePromise (hw.sound.step hstep), fun id' hid' => hs id' (List.mem_of_mem_erase hid')⟩
    · exact nomatch hcall
    · exact Or.inr (Or.inr hcompiling)
  · rintro s _ s' ⟨hw, -⟩ ⟨i, rfl⟩ hstep
    rcases hw.step hstep with hanswered | ⟨_, hevent, -⟩ | ⟨_, hcall, -⟩ | ⟨_, -, hcompiling⟩
    · exact Or.inl hanswered
    · exact nomatch hevent
    · exact nomatch hcall
    · exact Or.inr hcompiling
  · obtain ⟨m, hle, i, hevent⟩ := hfair.continues n (some c) (by rw [hwaits.runs]; exact List.mem_singleton_self _) hsettled
    exact ⟨m, hle, _, hevent, i, rfl⟩

theorem awaiting_taken (hfair : Fair run) (hwaits : Waits queued (.awaiting (some c)) (run.state n)) :
    ∃ m, n ≤ m ∧ Taken queued (run.state m) := by
  by_cases hsettled : (run.state n).Settled (some c)
  · exact ready_taken hfair hwaits hsettled
  · have hflight : c ∈ (run.state n).inFlight := by
      unfold Scheduler.Settled at hsettled
      push Not at hsettled
      obtain ⟨id, hmem, heq⟩ := hsettled
      exact Option.some.inj heq ▸ hmem
    suffices hreached : ∃ m, n ≤ m ∧ (Taken queued (run.state m) ∨
        (Waits queued (.awaiting (some c)) (run.state m) ∧ (run.state m).Settled (some c))) by
      obtain ⟨m, hle, htaken | ⟨hw, hs⟩⟩ := hreached
      · exact ⟨m, hle, htaken⟩
      · obtain ⟨m', hle', htaken⟩ := ready_taken hfair hw hs
        exact ⟨m', Nat.le_trans hle hle', htaken⟩
    refine run.leads (Waits queued (.awaiting (some c)))
      (fun s => Taken queued s ∨ (Waits queued (.awaiting (some c)) s ∧ s.Settled (some c)))
      (fun _ event => event = .settled c) ?_ ?_ hwaits ?_
    · intro s event s' hw hstep
      rcases hw.step hstep with hanswered | ⟨id, -, rfl⟩ | ⟨_, hcall, -⟩ | ⟨_, -, hcompiling⟩
      · exact Or.inr (Or.inl (Or.inl hanswered))
      · exact Or.inl (hw.settlePromise (hw.sound.step hstep))
      · exact nomatch hcall
      · exact Or.inr (Or.inl (Or.inr hcompiling))
    · rintro s _ s' hw rfl hstep
      have hs := hw.settled_of_settled hstep
      rcases hw.step hstep with hanswered | ⟨id, -, rfl⟩ | ⟨_, hcall, -⟩ | ⟨_, -, hcompiling⟩
      · exact Or.inl (Or.inl hanswered)
      · exact Or.inr ⟨hw.settlePromise (hw.sound.step hstep), hs⟩
      · exact nomatch hcall
      · exact Or.inl (Or.inr hcompiling)
    · obtain ⟨m, hle, hevent⟩ := hfair.cancels n c hflight
      exact ⟨m, hle, _, hevent, rfl⟩

theorem waiting_taken (hfair : Fair run) (hwaits : Waits queued call (run.state n)) :
    ∃ m, n ≤ m ∧ Taken queued (run.state m) := by
  cases call with
  | awaiting cancellation =>
      cases hwaits.sound.shape with
      | idle _ _ hqueued =>
          rw [hwaits.queued] at hqueued
          exact nomatch hqueued
      | busy call' hruns _ hawaited hqueued =>
          cases cancellation with
          | some c => exact awaiting_taken hfair hwaits
          | none =>
              have hcall := List.singleton_inj.mp (hwaits.runs.symm.trans hruns)
              have hnone := hqueued (hawaited none hcall.symm)
              rw [hwaits.queued] at hnone
              exact nomatch hnone
  | compiling object =>
      suffices hreached : ∃ m, n ≤ m ∧ (Taken queued (run.state m) ∨
          ∃ c, Waits queued (.awaiting (some c)) (run.state m)) by
        obtain ⟨m, hle, htaken | ⟨c, hw⟩⟩ := hreached
        · exact ⟨m, hle, htaken⟩
        · obtain ⟨m', hle', htaken⟩ := awaiting_taken hfair hw
          exact ⟨m', Nat.le_trans hle hle', htaken⟩
      refine run.leads (Waits queued (.compiling object))
        (fun s => Taken queued s ∨ ∃ c, Waits queued (.awaiting (some c)) s)
        (fun _ event => ∃ i response, event = .compiled i response) ?_ ?_ hwaits ?_
      · intro s event s' hw hstep
        rcases hw.step hstep with hanswered | ⟨id, -, rfl⟩ | ⟨_, -, hnext⟩ | ⟨_, hcall, -⟩
        · exact Or.inr (Or.inl (Or.inl hanswered))
        · exact Or.inl (hw.settlePromise (hw.sound.step hstep))
        · exact Or.inr (Or.inr hnext)
        · exact nomatch hcall
      · rintro s _ s' hw ⟨i, response, rfl⟩ hstep
        rcases hw.step hstep with hanswered | ⟨_, hevent, -⟩ | ⟨_, -, hnext⟩ | ⟨_, hcall, -⟩
        · exact Or.inl (Or.inl hanswered)
        · exact nomatch hevent
        · exact Or.inr hnext
        · exact nomatch hcall
      · obtain ⟨m, hle, i, response, hevent, -⟩ := hfair.compiles n object (by
          rw [hwaits.runs]
          exact List.mem_singleton_self _)
        exact ⟨m, hle, _, hevent, i, response, rfl⟩

theorem answered (hfair : Fair run) (hsound : SchedulerSound (run.state n)) {id : Nat}
    (hid : id < (run.state n).arrived.length) : ∃ m, n ≤ m ∧ Answered id (run.state m) := by
  rcases hsound.answered_or_outstanding hid with hanswered | ⟨object, hobject, rfl⟩
  · exact ⟨n, Nat.le_refl n, hanswered⟩
  · rcases List.mem_append.mp hobject with hruns | hqueued
    · obtain ⟨call, hcall, hobject?⟩ := List.mem_filterMap.mp hruns
      cases call with
      | awaiting cancellation => exact nomatch hobject?
      | compiling object' =>
          obtain rfl := Option.some.inj hobject?
          exact compiling_answered hfair hcall
    · have hqueued' : (run.state n).queued = some object := by
        rwa [Option.mem_toList] at hqueued
      cases hsound.shape with
      | idle _ _ hnone =>
          rw [hqueued'] at hnone
          exact nomatch hnone
      | busy call hruns =>
          obtain ⟨m, hle, htaken⟩ := waiting_taken hfair ⟨hsound, hqueued', hruns⟩
          rcases htaken with hanswered | hcompiling
          · exact ⟨m, hle, hanswered⟩
          · obtain ⟨m', hle', hanswered⟩ := compiling_answered hfair hcompiling
            exact ⟨m', Nat.le_trans hle hle', hanswered⟩

end Liveness

/-- **Main result.** In every run at most one compilation is under way, no request is answered twice, a request is only
answered as superseded by one that arrived later, so not the last one, and no cancellation is in flight when a
compilation starts. Where every compilation resolves and every cancellation settles, every request is answered. -/
theorem every_request_answered_once :
    (∀ (events : List (SchedulerEvent C D)) (scheduler : Scheduler C D),
      runFrom Scheduler.step .new events = some scheduler →
        scheduler.runs.length ≤ 1 ∧ (scheduler.posted.map Posted.answers).Nodup ∧
        (∀ p ∈ scheduler.posted, p.answers < scheduler.arrived.length ∧
          (p.answers + 1 = scheduler.arrived.length → p.replacement = none) ∧
          ∀ j, p.replacement = some j → p.answers < j ∧ ∃ request replacement,
            scheduler.arrived[p.answers]? = some request ∧ scheduler.arrived[j]? = some replacement ∧
              p.response = superseded request replacement) ∧
        ∀ entry ∈ scheduler.started, entry.2 = []) ∧
    ∀ run : Execution (Scheduler.step (C := C) (D := D)), run.state 0 = .new → Fair run →
      ∀ n id, id < (run.state n).arrived.length → ∃ m, n ≤ m ∧ ∃ p ∈ (run.state m).posted, p.answers = id := by
  refine ⟨fun events scheduler hrun => ?_, fun run hstart hfair n id hid => ?_⟩
  · have hsound := invariant_run (fun _ _ _ hs hstep => SchedulerSound.step hs hstep) SchedulerSound.new hrun
    refine ⟨hsound.length_runs, hsound.answered_once, fun p hp => ⟨hsound.answers_lt hp, fun hlast => ?_, ?_⟩,
      hsound.started⟩
    · cases hreplacement : p.replacement with
      | none => rfl
      | some j =>
          obtain ⟨hlt, _, replacement, -, hj, -⟩ := hsound.later p hp j hreplacement
          have hjlt := (List.getElem?_eq_some_iff.mp hj).1
          omega
    · exact hsound.later p hp
  · have hsound : SchedulerSound (run.state n) :=
      run.invariant (fun _ _ _ hs hstep => SchedulerSound.step hs hstep) (hstart ▸ SchedulerSound.new) n
    obtain ⟨m, hle, hanswered⟩ := answered hfair hsound hid
    exact ⟨m, hle, List.mem_map.mp hanswered⟩

def loneRequest : CompileRequest := ⟨"1", 1, "/App.tsx", []⟩

def loneResponse : CompileResponse Unit Unit := .compileFailed "1" 1 ()

/-- One request that is compiled, and then nothing. -/
def loneRun : Execution (Scheduler.step (C := Unit) (D := Unit)) where
  state
    | 0 => .new
    | 1 => ⟨true, none, none, [.compiling ⟨0, loneRequest⟩], 0, [], [loneRequest], [], [(0, [])]⟩
    | 2 => ⟨true, none, none, [.awaiting none], 0, [], [loneRequest], [⟨0, none, loneResponse⟩], [(0, [])]⟩
    | _ => ⟨false, none, none, [], 0, [], [loneRequest], [⟨0, none, loneResponse⟩], [(0, [])]⟩
  event
    | 0 => some (.enqueue loneRequest)
    | 1 => some (.compiled 0 loneResponse)
    | 2 => some (.resume 0)
    | _ => none
  next
    | 0 => rfl
    | 1 => rfl
    | 2 => rfl
    | _ + 3 => rfl

theorem fair_loneRun : Fair loneRun where
  compiles
    | 0, _, h => absurd h List.not_mem_nil
    | 1, _, h => ⟨1, Nat.le_refl 1, 0, loneResponse, rfl, congrArg some (List.mem_singleton.mp h).symm⟩
    | 2, _, h => nomatch List.mem_singleton.mp h
    | _ + 3, _, h => absurd h List.not_mem_nil
  cancels
    | 0, _, h => absurd h List.not_mem_nil
    | 1, _, h => absurd h List.not_mem_nil
    | 2, _, h => absurd h List.not_mem_nil
    | _ + 3, _, h => absurd h List.not_mem_nil
  continues
    | 0, _, h, _ => absurd h List.not_mem_nil
    | 1, _, h, _ => nomatch List.mem_singleton.mp h
    | 2, _, _, _ => ⟨2, Nat.le_refl 2, 0, rfl⟩
    | _ + 3, _, h, _ => absurd h List.not_mem_nil

theorem every_request_answered_once_lone :
    (loneRun.state 3).runs.length ≤ 1 ∧ ∃ m, 1 ≤ m ∧ ∃ p ∈ (loneRun.state m).posted, p.answers = 0 :=
  ⟨(every_request_answered_once.1 [.enqueue loneRequest, .compiled 0 loneResponse, .resume 0] (loneRun.state 3) rfl).1,
    every_request_answered_once.2 loneRun rfl fair_loneRun 1 0 Nat.one_pos⟩

end HyperTerm.Workbench
