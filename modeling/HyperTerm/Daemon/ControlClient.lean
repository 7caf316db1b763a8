import HyperTerm.Protocol.WireStream

/-!
# The client of the control plane

A reader puts the frames of the stream into a channel. A request takes frames out of it until its response comes, and puts
the others aside for `recv_timeout`.

* `ClientState`, `step` : the channel, the frames that are put aside, and the request that waits, with what was delivered;
* `numbered` : the frames of the stream with their places in it;
* `Roomy` : no frame comes for another than the request that waits while the queue is full;
* `frames_delivered` : then every frame is a response, or is delivered by `recv_timeout` in the order of the stream.
-/

namespace HyperTerm.Daemon.ControlClient
open HyperTerm.Protocol HyperTerm.Protocol.Wire

/-- `CLIENT_PENDING_CAPACITY`. -/
def clientPendingCapacity : Nat := 512

structure ControlResponseEnvelope (Response : Type) where
  requestId : Option Uuid
  response : Response

section Client

variable {Request Response Error : Type}

abbrev ClientFrame (Request Response : Type) : Type := Frame Request (ControlResponseEnvelope Response)

/-- The frame is the response to the request. -/
def answers (requestId : Uuid) : ClientFrame Request Response → Bool
  | .response envelope => envelope.requestId = some requestId
  | _ => false

/-- A request that waits for its response, with the frames it has deferred. -/
structure Call (Request Response : Type) where
  requestId : Uuid
  deferred : List (Nat × ClientFrame Request Response)

/-- A frame that a request returned, with its place in the stream. -/
structure Answer (Request Response : Type) where
  requestId : Uuid
  number : Nat
  frame : ClientFrame Request Response

/-- The client, and below it what has come in and what was delivered. -/
structure ClientState (Request Response Error : Type) where
  /-- What the reader has read, and was not taken. -/
  frames : List (Except Error (Nat × ClientFrame Request Response))
  pending : List (Nat × ClientFrame Request Response)
  call : Option (Call Request Response)
  arrived : List (ClientFrame Request Response)
  /-- What `recv_timeout` has returned. -/
  received : List (Nat × ClientFrame Request Response)
  answered : List (Answer Request Response)

def ClientState.connected : ClientState Request Response Error := ⟨[], [], none, [], [], []⟩

inductive ClientEvent (Request Response Error : Type) where
  | arrives (frame : ClientFrame Request Response)
  /-- The reader fails, and stops. -/
  | fails (error : Error)
  /-- A call of `request` with a timeout, and whether it could be written. -/
  | request (requestId : Uuid) (zero written : Bool)
  /-- The request that waits takes what is next in the channel. -/
  | takes
  /-- The time of the request is over, or the channel is closed. -/
  | ends
  | recvTimeout (zero : Bool)

/-- The request returns, and what it has deferred is pending again. -/
def ClientState.finish (s : ClientState Request Response Error) (call : Call Request Response)
    (frames : List (Except Error (Nat × ClientFrame Request Response))) : ClientState Request Response Error :=
  { s with frames, pending := call.deferred, call := none }

/-- A round of `wait_for_response`. -/
def ClientState.take (s : ClientState Request Response Error) (call : Call Request Response) :
    ClientState Request Response Error :=
  match s.frames with
  | [] => s
  | .error _ :: rest => s.finish call rest
  | .ok (number, frame) :: rest =>
      if answers call.requestId frame then
        { s.finish call rest with answered := s.answered ++ [⟨call.requestId, number, frame⟩] }
      else if call.deferred.length = clientPendingCapacity then s.finish call rest
      else { s with frames := rest, call := some { call with deferred := call.deferred ++ [(number, frame)] } }

/-- `next_frame`. -/
def ClientState.nextFrame (s : ClientState Request Response Error) : ClientState Request Response Error :=
  match s.pending with
  | frame :: pending => { s with pending, received := s.received ++ [frame] }
  | [] =>
      match s.frames with
      | [] => s
      | .error _ :: rest => { s with frames := rest }
      | .ok frame :: rest => { s with frames := rest, received := s.received ++ [frame] }

/-- While a request waits, no other call is made. -/
def ClientState.step (s : ClientState Request Response Error) :
    ClientEvent Request Response Error → ClientState Request Response Error
  | .arrives frame => { s with frames := s.frames ++ [.ok (s.arrived.length, frame)], arrived := s.arrived ++ [frame] }
  | .fails error => { s with frames := s.frames ++ [.error error] }
  | .request requestId zero written =>
      if s.call.isSome ∨ zero ∨ ¬written then s else { s with pending := [], call := some ⟨requestId, s.pending⟩ }
  | .takes =>
      match s.call with
      | some call => s.take call
      | none => s
  | .ends =>
      match s.call with
      | some call => s.finish call s.frames
      | none => s
  | .recvTimeout zero => if s.call.isSome ∨ zero then s else s.nextFrame

/-- The runs all of whose steps meet a condition. -/
inductive Reached (condition : ClientState Request Response Error → ClientEvent Request Response Error → Prop) :
    ClientState Request Response Error → Prop where
  | start : Reached condition .connected
  | step {s : ClientState Request Response Error} {event : ClientEvent Request Response Error}
      (before : Reached condition s) (meets : condition s event) : Reached condition (s.step event)

/-! ## What is delivered -/

/-- The frames with their places in the stream. -/
def numbered (arrived : List (ClientFrame Request Response)) : List (Nat × ClientFrame Request Response) :=
  arrived.zipIdx.map Prod.swap

/-- What is put aside. -/
def ClientState.aside (s : ClientState Request Response Error) : List (Nat × ClientFrame Request Response) :=
  s.pending ++ (s.call.map Call.deferred).getD []

/-- The frames in the channel. -/
def queued (frames : List (Except Error (Nat × ClientFrame Request Response))) :
    List (Nat × ClientFrame Request Response) := frames.filterMap Except.toOption

/-- A frame of the stream that no request has returned. -/
def ClientState.isOpen (s : ClientState Request Response Error) (frame : Nat × ClientFrame Request Response) : Bool :=
  frame.1 ∉ s.answered.map Answer.number

/-- Every frame was returned by the request that it answers, or it was received, or will be, in its turn. -/
structure Delivered (s : ClientState Request Response Error) : Prop where
  inOrder : s.received ++ s.aside ++ queued s.frames = (numbered s.arrived).filter s.isOpen
  answered : ∀ answer ∈ s.answered, (answer.number, answer.frame) ∈ numbered s.arrived ∧
    answers answer.requestId answer.frame = true
  once : (s.answered.map Answer.number).Nodup

/-- Where the queue is full, the request takes no frame but its response. -/
def Roomy (s : ClientState Request Response Error) (event : ClientEvent Request Response Error) : Prop :=
  event = .takes → ∀ call number frame rest, s.call = some call → s.frames = .ok (number, frame) :: rest →
    answers call.requestId frame = false → call.deferred.length ≠ clientPendingCapacity

theorem numbered_concat (arrived : List (ClientFrame Request Response)) (frame : ClientFrame Request Response) :
    numbered (arrived ++ [frame]) = numbered arrived ++ [(arrived.length, frame)] := by
  unfold numbered
  rw [List.zipIdx_append, List.map_append, Nat.zero_add]
  rfl

theorem numbers_numbered (arrived : List (ClientFrame Request Response)) :
    (numbered arrived).map Prod.fst = List.range arrived.length := by
  unfold numbered
  rw [List.map_map]
  show arrived.zipIdx.map Prod.snd = _
  rw [List.zipIdx_map_snd, List.range_eq_range']

theorem lt_of_mem_numbered {arrived : List (ClientFrame Request Response)} {number : Nat}
    {frame : ClientFrame Request Response} (h : (number, frame) ∈ numbered arrived) : number < arrived.length := by
  have hmem := List.mem_map_of_mem (f := Prod.fst) h
  rw [numbers_numbered] at hmem
  exact List.mem_range.1 hmem

theorem delivered_connected : Delivered (.connected : ClientState Request Response Error) where
  inOrder := rfl
  answered answer h := absurd h List.not_mem_nil
  once := List.nodup_nil

variable {s : ClientState Request Response Error}

/-- A frame that comes in is the last one, and no request has returned it. -/
theorem delivered_arrives (h : Delivered s) (frame : ClientFrame Request Response) : Delivered (s.step (.arrives frame)) where
  inOrder := by
    have hopen : s.isOpen (s.arrived.length, frame) = true := by
      refine decide_eq_true fun hmem => ?_
      obtain ⟨answer, hanswer, heq⟩ := List.mem_map.1 hmem
      exact absurd (lt_of_mem_numbered (h.answered answer hanswer).1) (by omega)
    show s.received ++ s.aside ++ queued (s.frames ++ [.ok (s.arrived.length, frame)]) =
      (numbered (s.arrived ++ [frame])).filter s.isOpen
    unfold queued
    rw [List.filterMap_append, ← List.append_assoc, numbered_concat, List.filter_append, List.filter_cons_of_pos hopen]
    exact congrArg (· ++ [(s.arrived.length, frame)]) h.inOrder
  answered answer hanswer := by
    obtain ⟨hmem, hid⟩ := h.answered answer hanswer
    refine ⟨?_, hid⟩
    show _ ∈ numbered (s.arrived ++ [frame])
    rw [numbered_concat]
    exact List.mem_append_left _ hmem
  once := h.once

/-- What moves frames on without a change of their order. -/
theorem Delivered.move {s' : ClientState Request Response Error} (h : Delivered s) (harrived : s'.arrived = s.arrived)
    (hanswered : s'.answered = s.answered)
    (horder : s'.received ++ s'.aside ++ queued s'.frames = s.received ++ s.aside ++ queued s.frames) : Delivered s' where
  inOrder := by
    have hopen : s'.isOpen = s.isOpen := by
      unfold ClientState.isOpen
      rw [hanswered]
    rw [horder, harrived, hopen]
    exact h.inOrder
  answered := by
    rw [hanswered, harrived]
    exact h.answered
  once := by
    rw [hanswered]
    exact h.once

theorem delivered_finish (h : Delivered s) {call : Call Request Response} (hcall : s.call = some call)
    {frames : List (Except Error (Nat × ClientFrame Request Response))} (hpending : s.pending = [])
    (hframes : queued frames = queued s.frames) : Delivered (s.finish call frames) := by
  refine h.move rfl rfl ?_
  show s.received ++ (call.deferred ++ []) ++ queued frames = _
  rw [hframes, ClientState.aside, hpending, hcall, List.append_nil]
  rfl

/-- The response that is returned is taken out of the frames, and nothing else. -/
theorem delivered_answer (h : Delivered s) {call : Call Request Response} {number : Nat}
    {frame : ClientFrame Request Response} {rest : List (Except Error (Nat × ClientFrame Request Response))}
    (hcall : s.call = some call) (hpending : s.pending = []) (hframes : s.frames = .ok (number, frame) :: rest)
    (hanswer : answers call.requestId frame = true) :
    Delivered { s.finish call rest with answered := s.answered ++ [⟨call.requestId, number, frame⟩] } := by
  have horder : s.received ++ call.deferred ++ (number, frame) :: queued rest = (numbered s.arrived).filter s.isOpen := by
    rw [← h.inOrder, ClientState.aside, hpending, hcall, hframes]
    rfl
  have hmem : (number, frame) ∈ (numbered s.arrived).filter s.isOpen := by
    rw [← horder]
    exact List.mem_append_right _ List.mem_cons_self
  have hnodup : ((s.received ++ call.deferred ++ (number, frame) :: queued rest).map Prod.fst).Nodup := by
    rw [horder]
    refine List.Nodup.sublist (List.filter_sublist.map Prod.fst) ?_
    rw [numbers_numbered]
    exact List.nodup_range
  have hfresh : ∀ other ∈ s.received ++ call.deferred ++ queued rest, other.1 ≠ number := by
    rw [List.map_append, List.map_cons, List.nodup_middle, List.nodup_cons] at hnodup
    intro other hother heq
    have hnumber := List.mem_map_of_mem (f := Prod.fst) hother
    rw [heq, List.map_append] at hnumber
    exact hnodup.1 hnumber
  refine ⟨?_, ?_, ?_⟩
  · show s.received ++ (call.deferred ++ []) ++ queued rest = (numbered s.arrived).filter _
    have hsplit : ∀ other : Nat × ClientFrame Request Response,
        ClientState.isOpen { s.finish call rest with answered := s.answered ++ [⟨call.requestId, number, frame⟩] } other =
          (decide (other.1 ≠ number) && s.isOpen other) := by
      intro other
      unfold ClientState.isOpen
      rw [List.map_append, ← Bool.decide_and]
      refine decide_eq_decide.2 ?_
      rw [List.mem_append, not_or, and_comm]
      exact and_congr_left fun _ => not_congr List.mem_singleton
    rw [List.append_nil, funext hsplit, ← List.filter_filter, ← horder, List.filter_append, List.filter_cons_of_neg (by simp),
      ← List.filter_append]
    exact (List.filter_eq_self.2 fun other hother => decide_eq_true (hfresh other hother)).symm
  · intro answer hmem'
    rcases List.mem_append.1 hmem' with hold | hnew
    · exact h.answered answer hold
    · obtain rfl := List.mem_singleton.1 hnew
      exact ⟨(List.mem_filter.1 hmem).1, hanswer⟩
  · show ((s.answered ++ [(⟨call.requestId, number, frame⟩ : Answer Request Response)]).map Answer.number).Nodup
    rw [List.map_append]
    have hopen : number ∉ s.answered.map Answer.number := of_decide_eq_true (List.mem_filter.1 hmem).2
    exact h.once.append (List.nodup_singleton _) (List.disjoint_singleton.2 hopen)

/-- The frames are delivered, and while a request waits nothing but what it has deferred is put aside. -/
structure Held (s : ClientState Request Response Error) : Prop where
  delivered : Delivered s
  deferred : s.call.isSome → s.pending = []

theorem held_take (h : Held s) {call : Call Request Response} (hcall : s.call = some call)
    (hroomy : ∀ number frame rest, s.frames = .ok (number, frame) :: rest → answers call.requestId frame = false →
      call.deferred.length ≠ clientPendingCapacity) : Held (s.take call) := by
  have hpending : s.pending = [] := h.deferred (by rw [hcall]; rfl)
  unfold ClientState.take
  cases hframes : s.frames with
  | nil => exact h
  | cons next rest =>
      cases next with
      | error error =>
          refine ⟨delivered_finish h.delivered hcall hpending ?_, fun hsome => by cases hsome⟩
          rw [hframes]
          rfl
      | ok numberedFrame =>
          obtain ⟨number, frame⟩ := numberedFrame
          dsimp only
          cases hanswer : answers call.requestId frame with
          | true =>
              rw [if_pos rfl]
              exact ⟨delivered_answer h.delivered hcall hpending hframes hanswer, fun hsome => by cases hsome⟩
          | false =>
              rw [if_neg Bool.false_ne_true, if_neg (hroomy number frame rest hframes hanswer)]
              refine ⟨h.delivered.move rfl rfl ?_, fun _ => hpending⟩
              show s.received ++ (s.pending ++ (call.deferred ++ [(number, frame)])) ++ queued rest = _
              rw [ClientState.aside, hpending, hcall, hframes]
              show s.received ++ (call.deferred ++ [(number, frame)]) ++ queued rest =
                s.received ++ call.deferred ++ (number, frame) :: queued rest
              simp only [List.append_assoc, List.cons_append, List.nil_append]

theorem held_nextFrame (h : Held s) (hcall : s.call = none) : Held s.nextFrame := by
  have hidle : ∀ s' : ClientState Request Response Error, s'.call = s.call → s'.call.isSome → s'.pending = [] := by
    intro s' hsame hsome
    rw [hsame, hcall] at hsome
    cases hsome
  unfold ClientState.nextFrame
  cases hpending : s.pending with
  | cons frame pending =>
      refine ⟨h.delivered.move rfl rfl ?_, hidle _ rfl⟩
      show s.received ++ [frame] ++ (pending ++ (s.call.map Call.deferred).getD []) ++ queued s.frames = _
      rw [ClientState.aside, hpending]
      simp only [List.append_assoc, List.cons_append, List.nil_append]
  | nil =>
      dsimp only
      cases hframes : s.frames with
      | nil => exact h
      | cons next rest =>
          cases next with
          | error error =>
              refine ⟨h.delivered.move rfl rfl ?_, hidle _ rfl⟩
              show s.received ++ ([] ++ (s.call.map Call.deferred).getD []) ++ queued rest = _
              rw [ClientState.aside, hpending, hframes]
              rfl
          | ok frame =>
              refine ⟨h.delivered.move rfl rfl ?_, hidle _ rfl⟩
              show s.received ++ [frame] ++ ([] ++ (s.call.map Call.deferred).getD []) ++ queued rest = _
              rw [ClientState.aside, hpending, hcall, hframes]
              show s.received ++ [frame] ++ [] ++ queued rest = s.received ++ [] ++ frame :: queued rest
              simp only [List.append_assoc, List.cons_append, List.nil_append]

theorem held_step (h : Held s) {event : ClientEvent Request Response Error} (hroomy : Roomy s event) :
    Held (s.step event) := by
  cases event with
  | arrives frame => exact ⟨delivered_arrives h.delivered frame, h.deferred⟩
  | fails error =>
      refine ⟨h.delivered.move rfl rfl ?_, h.deferred⟩
      show s.received ++ s.aside ++ queued (s.frames ++ [.error error]) = _
      unfold queued
      rw [List.filterMap_append]
      exact congrArg (s.received ++ s.aside ++ ·) (List.append_nil _)
  | request requestId zero written =>
      show Held (if s.call.isSome ∨ zero ∨ ¬written then s else { s with pending := [], call := some ⟨requestId, s.pending⟩ })
      by_cases hrefused : s.call.isSome ∨ zero ∨ ¬written
      · rw [if_pos hrefused]
        exact h
      · rw [if_neg hrefused]
        have hcall : s.call = none := Option.not_isSome_iff_eq_none.1 fun hsome => hrefused (Or.inl hsome)
        refine ⟨h.delivered.move rfl rfl ?_, fun _ => rfl⟩
        show s.received ++ ([] ++ s.pending) ++ queued s.frames = _
        rw [ClientState.aside, hcall, List.nil_append]
        exact congrArg (s.received ++ · ++ queued s.frames) (List.append_nil _).symm
  | takes =>
      unfold ClientState.step
      cases hcall : s.call with
      | none => exact h
      | some call => exact held_take h hcall fun number frame rest => hroomy rfl call number frame rest hcall
  | ends =>
      unfold ClientState.step
      cases hcall : s.call with
      | none => exact h
      | some call =>
          have hpending : s.pending = [] := h.deferred (by rw [hcall]; rfl)
          exact ⟨delivered_finish h.delivered hcall hpending rfl, fun hsome => by cases hsome⟩
  | recvTimeout zero =>
      show Held (if s.call.isSome ∨ zero then s else s.nextFrame)
      by_cases hrefused : s.call.isSome ∨ zero
      · rw [if_pos hrefused]
        exact h
      · rw [if_neg hrefused]
        exact held_nextFrame h (Option.not_isSome_iff_eq_none.1 fun hsome => hrefused (Or.inl hsome))

theorem held_of_reached (h : Reached Roomy s) : Held s := by
  induction h with
  | start => exact ⟨delivered_connected, fun hsome => by cases hsome⟩
  | step before meets ih => exact held_step ih meets

/-- **No frame is lost or overtaken.** What `recv_timeout` has returned, what is put aside and what is in the channel make up
the frames of the stream in their order, but for those that were returned, once, by the request they answer. -/
theorem frames_delivered (h : Reached Roomy s) :
    s.received ++ s.aside ++ queued s.frames =
      (numbered s.arrived).filter (fun frame => frame.1 ∉ s.answered.map Answer.number) ∧
    (∀ answer ∈ s.answered, (answer.number, answer.frame) ∈ numbered s.arrived ∧
      answers answer.requestId answer.frame = true) ∧
    (s.answered.map Answer.number).Nodup :=
  have hdelivered := (held_of_reached h).delivered
  ⟨hdelivered.inOrder, hdelivered.answered, hdelivered.once⟩

end Client

/-! ## Examples -/

/-- Frames that answer no request. -/
def sampleFrame : ClientFrame Unit Unit := .request ()

/-- A request is made, and a frame comes that is not its response. -/
def sampleClient : ClientState Unit Unit Unit := (ClientState.connected.step (.arrives sampleFrame)).step (.request 0 false true)

theorem frames_delivered_deferred :
    (sampleClient.step .takes).aside = (numbered (sampleClient.step .takes).arrived).filter
      fun frame => frame.1 ∉ (sampleClient.step .takes).answered.map Answer.number := by
  have hreached : Reached Roomy (sampleClient.step .takes) := by
    refine .step (.step (.step .start ?_) ?_) ?_
    · intro hevent
      cases hevent
    · intro hevent
      cases hevent
    · intro _ call number frame rest hcall _ _
      cases hcall
      decide
  exact (frames_delivered hreached).1

/-- A frame comes in while a request waits and the channel is empty. -/
theorem step_other {s : ClientState Unit Unit Unit} {call : Call Unit Unit} (hcall : s.call = some call)
    (hframes : s.frames = []) :
    (s.step (.arrives sampleFrame)).step .takes =
      if call.deferred.length = clientPendingCapacity then
        { s with arrived := s.arrived ++ [sampleFrame], pending := call.deferred, call := none }
      else
        { s with
          arrived := s.arrived ++ [sampleFrame]
          call := some { call with deferred := call.deferred ++ [(s.arrived.length, sampleFrame)] } } := by
  obtain ⟨frames, pending, waiting, arrived, received, answered⟩ := s
  obtain rfl : waiting = some call := hcall
  obtain rfl : frames = [] := hframes
  rfl

/-- As many frames come in as fit, and are deferred. -/
theorem reached_deferred (count : Nat) (hcount : count ≤ clientPendingCapacity) :
    ∃ s : ClientState Unit Unit Unit, Reached (fun _ _ => True) s ∧ s.frames = [] ∧ s.received = [] ∧ s.answered = [] ∧
      s.arrived.length = count ∧ ∃ call, s.call = some call ∧ call.deferred.length = count := by
  induction count with
  | zero => exact ⟨ClientState.connected.step (.request 0 false true), .step .start trivial, rfl, rfl, rfl, rfl, _, rfl, rfl⟩
  | succ count ih =>
      obtain ⟨s, hreached, hframes, hreceived, hanswered, harrived, call, hcall, hdeferred⟩ :=
        ih (Nat.le_of_succ_le hcount)
      refine ⟨(s.step (.arrives sampleFrame)).step .takes, .step (.step hreached trivial) trivial, ?_⟩
      rw [step_other hcall hframes, if_neg (hdeferred ▸ Nat.ne_of_lt hcount)]
      refine ⟨hframes, hreceived, hanswered, ?_, _, rfl, ?_⟩
      · show (s.arrived ++ [sampleFrame]).length = _
        rw [List.length_append, harrived]
        rfl
      · show (call.deferred ++ [_]).length = _
        rw [List.length_append, hdeferred]
        rfl

/-- The frame that comes when as many are deferred as fit is lost. -/
theorem frame_lost_at_capacity :
    ∃ s : ClientState Unit Unit Unit, Reached (fun _ _ => True) s ∧
      s.received ++ s.aside ++ queued s.frames ≠
        (numbered s.arrived).filter (fun frame => frame.1 ∉ s.answered.map Answer.number) := by
  obtain ⟨s, hreached, hframes, hreceived, hanswered, harrived, call, hcall, hdeferred⟩ :=
    reached_deferred clientPendingCapacity (Nat.le_refl _)
  refine ⟨(s.step (.arrives sampleFrame)).step .takes, .step (.step hreached trivial) trivial, ?_⟩
  rw [step_other hcall hframes, if_pos hdeferred]
  intro heq
  have hlength := congrArg List.length heq
  have hleft : (s.received ++ (call.deferred ++ []) ++ queued s.frames).length = clientPendingCapacity := by
    rw [hreceived, hframes, List.append_nil, List.nil_append]
    exact (congrArg List.length (List.append_nil _)).trans hdeferred
  have hall : (numbered (s.arrived ++ [sampleFrame])).filter (fun frame => frame.1 ∉ s.answered.map Answer.number) =
      numbered (s.arrived ++ [sampleFrame]) := by
    rw [hanswered]
    exact List.filter_eq_self.2 fun _ _ => decide_eq_true List.not_mem_nil
  have hright : (numbered (s.arrived ++ [sampleFrame])).length = clientPendingCapacity + 1 := by
    unfold numbered
    rw [List.length_map, List.length_zipIdx, List.length_append, harrived]
    rfl
  have hsame : clientPendingCapacity = clientPendingCapacity + 1 :=
    hleft.symm.trans (hlength.trans ((congrArg List.length hall).trans hright))
  exact absurd hsame (Nat.succ_ne_self _).symm

end HyperTerm.Daemon.ControlClient
