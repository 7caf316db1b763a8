import HyperTerm.Drivers.Events

/-!
# Waiting for a response

`request_raw` of the two adapters: the client has sent its request `id` and takes events from the process until the
response is there. What it does not want it sets aside for `next_event`.

* `acpReceived`, `codexReceived` : the body of the loop, for one event;
* `requestRaw` : the loop. `Clear` is what must hold at each event;
* `keeps_iff` : no request is lost, none is taken for the response, and the order is kept, if and only if it does.
-/

namespace HyperTerm.Drivers
open HyperTerm.Protocol

inductive AdapterError where
  | timeout (requestId : Fin (2 ^ 64))
  | remote (requestId : Fin (2 ^ 64)) (error : Value)
  | protocol (message : String)
  | exited (state : DriverState)
  | inboxOverflow
  | driver (error : ProcessError)

/-- `ACP_FRAME_BYTES`. -/
def acpFrameBytes : Nat := 2 * 1024 * 1024

/-- An event, and the state in which the process is when it is handled. -/
structure Arrival where
  event : DriverEvent
  process : ProcessInput

/-- The inbox of a client, with what it has received and what it has written since the wait began. -/
structure Client where
  inbox : BoundedDriverInbox
  received : List DriverEvent
  sent : List Value

def Client.start (inbox : BoundedDriverInbox) : Client := ⟨inbox, [], []⟩

/-- `payload.get("id") == Some(&Value::from(id))`. -/
def hasResponseId (id : Fin (2 ^ 64)) (payload : Value) : Bool :=
  match payload.get "id" with
  | some (.number (.unsigned n)) => n = id
  | _ => false

theorem unsupported_lt : 32600 < 9223372036854775808 := by decide

/-- The answer of `reject_unsupported_request`. -/
def unsupportedAnswer (payload : Value) : Value :=
  .object [
    ("error", .object [("code", .number (.negative ⟨32600, unsupported_lt⟩)), ("message", .string "unsupported by Hyper Term")]),
    ("id", (payload.get "id").getD .null),
    ("jsonrpc", .string "2.0")]

/-! ## The loop -/

abbrev Step := Client × Option (Except AdapterError Value)

def takeResponse (id : Fin (2 ^ 64)) (client : Client) (payload : Value) : Step :=
  match payload.get "error" with
  | some error => (client, some (.error (.remote id error)))
  | none => (client, some (.ok payload))

def setAside (client : Client) (event : DriverEvent) : Step :=
  match client.inbox.pushBack event with
  | .error _ => (client, some (.error .inboxOverflow))
  | .ok inbox => ({ client with inbox }, none)

def acpReceived (id : Fin (2 ^ 64)) (client : Client) (arrival : Arrival) : Step :=
  let client := { client with received := client.received ++ [arrival.event] }
  match arrival.event with
  | .message _ payload =>
      if hasResponseId id payload then takeResponse id client payload
      else if (payload.get "id").isSome ∧ (payload.get "method").isSome then
        match sendJson acpFrameBytes arrival.process (unsupportedAnswer payload) with
        | .error e => (client, some (.error (.driver e)))
        | .ok () => ({ client with sent := client.sent ++ [unsupportedAnswer payload] }, none)
      else setAside client arrival.event
  | .protocolError message => (client, some (.error (.protocol message)))
  | .exited _ state => (client, some (.error (.exited state)))

def codexReceived (id : Fin (2 ^ 64)) (client : Client) (arrival : Arrival) : Step :=
  let client := { client with received := client.received ++ [arrival.event] }
  match arrival.event with
  | .message _ payload =>
      if hasResponseId id payload then takeResponse id client payload
      else setAside client arrival.event
  | .protocolError message => (client, some (.error (.protocol message)))
  | .exited _ state => (client, some (.error (.exited state)))

inductive Adapter where
  | acp
  | codex
  deriving DecidableEq

def Adapter.received : Adapter → Fin (2 ^ 64) → Client → Arrival → Step
  | acp => acpReceived
  | codex => codexReceived

/-- No event has arrived when the deadline is over, or `recv_timeout` fails. -/
def notArrived (id : Fin (2 ^ 64)) : Option ProcessError → AdapterError
  | none => .timeout id
  | some e => .driver e

/-- The events that arrive, until the response is there or one ends the wait. -/
def requestRaw (adapter : Adapter) (id : Fin (2 ^ 64)) (ending : Option ProcessError) :
    Client → List Arrival → Client × Except AdapterError Value
  | client, [] => (client, .error (notArrived id ending))
  | client, arrival :: arrivals =>
      match adapter.received id client arrival with
      | (client, some result) => (client, result)
      | (client, none) => requestRaw adapter id ending client arrivals

/-- The event that `next_event` gives to `normalize_message`: the oldest of the inbox, or else the next of the process. -/
def nextEvent (inbox : BoundedDriverInbox) (events : List DriverEvent) :
    Option (DriverEvent × BoundedDriverInbox × List DriverEvent) :=
  match inbox.popFront with
  | some (event, inbox) => some (event, inbox, events)
  | none =>
      match events with
      | [] => none
      | event :: events => some (event, inbox, events)

/-- What so many calls of `next_event` give, with the events that are still to come from the process. -/
def nextEvents : Nat → BoundedDriverInbox → List DriverEvent → List DriverEvent
  | 0, _, _ => []
  | n + 1, inbox, events =>
      match nextEvent inbox events with
      | none => []
      | some (event, inbox, events) => event :: nextEvents n inbox events

/-! ## What is asked of the loop -/

def DriverEvent.hasMethod : DriverEvent → Bool
  | .message _ payload => (payload.get "method").isSome
  | _ => false

def DriverEvent.isRequest : DriverEvent → Bool
  | .message _ payload => (payload.get "id").isSome && (payload.get "method").isSome
  | _ => false

def DriverEvent.answer : DriverEvent → Value
  | .message _ payload => unsupportedAnswer payload
  | _ => .null

/-- The wait ended with a response. -/
def isResponse : Except AdapterError Value → Bool
  | .ok _ | .error (.remote _ _) => true
  | _ => false

/-- Every request is answered or set aside, and `next_event` gives what was set aside after what was there before, in
the order in which it was received. -/
def Served (inbox : BoundedDriverInbox) (client : Client) : Prop :=
  ∃ answered aside,
    (client.received.filter DriverEvent.isRequest).Perm (answered ++ aside.filter DriverEvent.isRequest) ∧
      client.sent = answered.map DriverEvent.answer ∧ aside.Sublist client.received ∧
      ∀ n events, nextEvents n client.inbox events = (inbox.pending ++ aside ++ events).take n

structure Keeps (adapter : Adapter) (id : Fin (2 ^ 64)) (ending : Option ProcessError) (inbox : BoundedDriverInbox)
    (arrivals : List Arrival) : Prop where
  response : isResponse (requestRaw adapter id ending (.start inbox) arrivals).2 →
    ∀ event, (requestRaw adapter id ending (.start inbox) arrivals).1.received.getLast? = some event →
      event.hasMethod = false
  served : Served inbox (requestRaw adapter id ending (.start inbox) arrivals).1

/-- No request has the id of the client's own; the ACP client can write its answer, and the other has room. -/
def Admissible (adapter : Adapter) (id : Fin (2 ^ 64)) (client : Client) (arrival : Arrival) : Prop :=
  match arrival.event with
  | .message _ payload =>
      (payload.get "id").isSome → (payload.get "method").isSome →
        hasResponseId id payload = false ∧
          match adapter with
          | .acp => sendJson acpFrameBytes arrival.process (unsupportedAnswer payload) = .ok ()
          | .codex => client.inbox.HasRoom arrival.event
  | _ => True

/-- Every event that the wait takes is admissible. -/
def Clear (adapter : Adapter) (id : Fin (2 ^ 64)) : Client → List Arrival → Prop
  | _, [] => True
  | client, arrival :: arrivals =>
      Admissible adapter id client arrival ∧
        ∀ client', adapter.received id client arrival = (client', none) → Clear adapter id client' arrivals

/-! ## What `next_event` gives -/

theorem nextEvents_eq (n : Nat) (inbox : BoundedDriverInbox) (events : List DriverEvent) :
    nextEvents n inbox events = (inbox.pending ++ events).take n := by
  induction n generalizing inbox events with
  | zero => rfl
  | succ n ih =>
      unfold nextEvents nextEvent
      cases hpop : inbox.popFront with
      | some popped =>
          obtain ⟨event, inbox'⟩ := popped
          show event :: nextEvents n inbox' events = _
          rw [ih, BoundedDriverInbox.pending_of_popFront hpop]
          rfl
      | none =>
          rw [BoundedDriverInbox.popFront_eq_none hpop]
          cases events with
          | nil => rfl
          | cons event events =>
              show event :: nextEvents n inbox events = _
              rw [ih, BoundedDriverInbox.popFront_eq_none hpop]
              rfl

/-! ## One event -/

/-- What the loop does with an event: it ends with the response, goes on, or ends with an error. -/
inductive Handled (id : Fin (2 ^ 64)) (client : Client) (event : DriverEvent) : Step → Prop
  | response (sequence : Nat) (payload : Value) (result : Except AdapterError Value) (hevent : event = .message sequence payload)
      (hid : hasResponseId id payload = true) (hresult : isResponse result = true) :
      Handled id client event ({ client with received := client.received ++ [event] }, some result)
  | answered (hrequest : event.isRequest = true) :
      Handled id client event ({ client with
        received := client.received ++ [event]
        sent := client.sent ++ [event.answer] }, none)
  | aside (inbox : BoundedDriverInbox) (hpush : client.inbox.pushBack event = .ok inbox) :
      Handled id client event ({ client with received := client.received ++ [event], inbox }, none)
  | failed (error : AdapterError) (herror : isResponse (.error error) = false) :
      Handled id client event ({ client with received := client.received ++ [event] }, some (.error error))

theorem takeResponse_handled {id : Fin (2 ^ 64)} {client : Client} {sequence : Nat} {payload : Value}
    (hid : hasResponseId id payload = true) :
    Handled id client (.message sequence payload)
      (takeResponse id { client with received := client.received ++ [.message sequence payload] } payload) := by
  unfold takeResponse
  cases payload.get "error" with
  | some error => exact .response sequence payload _ rfl hid rfl
  | none => exact .response sequence payload _ rfl hid rfl

theorem setAside_handled (id : Fin (2 ^ 64)) (client : Client) (event : DriverEvent) :
    Handled id client event (setAside { client with received := client.received ++ [event] } event) := by
  unfold setAside
  dsimp only
  cases hpush : client.inbox.pushBack event with
  | error _ => exact .failed _ rfl
  | ok inbox => exact .aside inbox hpush

theorem received_handled (adapter : Adapter) (id : Fin (2 ^ 64)) (client : Client) (arrival : Arrival) :
    Handled id client arrival.event (adapter.received id client arrival) := by
  obtain ⟨event, process⟩ := arrival
  cases adapter with
  | acp =>
      show Handled id client event (acpReceived id client ⟨event, process⟩)
      unfold acpReceived
      cases event with
      | message sequence payload =>
          dsimp only
          split_ifs with hid hrequest
          · exact takeResponse_handled hid
          · cases hsend : sendJson acpFrameBytes process (unsupportedAnswer payload) with
            | error e => exact .failed _ rfl
            | ok u =>
                refine .answered ?_
                show ((payload.get "id").isSome && (payload.get "method").isSome) = true
                rw [hrequest.1, hrequest.2]
                rfl
          · exact setAside_handled id client _
      | protocolError message => exact .failed _ rfl
      | exited code state => exact .failed _ rfl
  | codex =>
      show Handled id client event (codexReceived id client ⟨event, process⟩)
      unfold codexReceived
      cases event with
      | message sequence payload =>
          dsimp only
          split_ifs with hid
          · exact takeResponse_handled hid
          · exact setAside_handled id client _
      | protocolError message => exact .failed _ rfl
      | exited code state => exact .failed _ rfl

/-- A request ends the wait if and only if it is not admissible. -/
theorem admissible_iff {adapter : Adapter} {id : Fin (2 ^ 64)} {client : Client} {arrival : Arrival}
    (hrequest : arrival.event.isRequest = true) :
    Admissible adapter id client arrival ↔ (adapter.received id client arrival).2 = none := by
  obtain ⟨event, process⟩ := arrival
  cases event with
  | message sequence payload =>
      obtain ⟨hid, hmethod⟩ := Bool.and_eq_true_iff.mp hrequest
      unfold Admissible
      dsimp only
      rw [imp_iff_right hid, imp_iff_right hmethod]
      have htake : ∀ client, (takeResponse id client payload).2 ≠ none := by
        intro client
        unfold takeResponse
        cases payload.get "error" <;> exact Option.some_ne_none _
      cases adapter with
      | acp =>
          show _ ↔ (acpReceived id client ⟨.message sequence payload, process⟩).2 = none
          unfold acpReceived
          dsimp only
          by_cases hresponse : hasResponseId id payload = true
          · rw [if_pos hresponse, hresponse]
            exact iff_of_false (fun h => Bool.noConfusion h.1) (htake _)
          · rw [if_neg hresponse, if_pos ⟨hid, hmethod⟩, and_iff_right (Bool.eq_false_iff.mpr hresponse)]
            cases sendJson acpFrameBytes process (unsupportedAnswer payload) with
            | error e => exact iff_of_false (fun h => nomatch h) (Option.some_ne_none _)
            | ok u => exact iff_of_true rfl rfl
      | codex =>
          show _ ↔ (codexReceived id client ⟨.message sequence payload, process⟩).2 = none
          unfold codexReceived
          dsimp only
          by_cases hresponse : hasResponseId id payload = true
          · rw [if_pos hresponse, hresponse]
            exact iff_of_false (fun h => Bool.noConfusion h.1) (htake _)
          · rw [if_neg hresponse, and_iff_right (Bool.eq_false_iff.mpr hresponse)]
            unfold setAside
            dsimp only
            cases hpush : client.inbox.pushBack (.message sequence payload) with
            | error refused => exact iff_of_false (BoundedDriverInbox.not_hasRoom_of_pushBack hpush) (Option.some_ne_none _)
            | ok inbox => exact iff_of_true (BoundedDriverInbox.hasRoom_of_pushBack hpush) rfl
  | protocolError message => exact absurd hrequest Bool.false_ne_true
  | exited code state => exact absurd hrequest Bool.false_ne_true

theorem admissible_of_not_request {adapter : Adapter} {id : Fin (2 ^ 64)} {client : Client} {arrival : Arrival}
    (hrequest : arrival.event.isRequest = false) : Admissible adapter id client arrival := by
  obtain ⟨event, process⟩ := arrival
  unfold Admissible
  cases event with
  | message sequence payload =>
      intro hid hmethod
      have htrue : ((payload.get "id").isSome && (payload.get "method").isSome) = true := by
        rw [hid, hmethod]
        rfl
      exact absurd (htrue.symm.trans hrequest) Bool.noConfusion
  | protocolError message => trivial
  | exited code state => trivial

theorem isRequest_of_hasMethod {id : Fin (2 ^ 64)} {sequence : Nat} {payload : Value}
    (hid : hasResponseId id payload = true) :
    (DriverEvent.message sequence payload).isRequest = (DriverEvent.message sequence payload).hasMethod := by
  show ((payload.get "id").isSome && (payload.get "method").isSome) = (payload.get "method").isSome
  have hsome : (payload.get "id").isSome = true := by
    unfold hasResponseId at hid
    cases hget : payload.get "id" with
    | none =>
        rw [hget] at hid
        exact Bool.noConfusion hid
    | some v => rfl
  rw [hsome, Bool.true_and]

/-! ## The balance of the requests -/

/-- `Served`, with the inbox itself in place of what `next_event` gives. -/
structure Balance (inbox : BoundedDriverInbox) (client : Client) (answered aside : List DriverEvent) : Prop where
  requests : (client.received.filter DriverEvent.isRequest).Perm (answered ++ aside.filter DriverEvent.isRequest)
  sent : client.sent = answered.map DriverEvent.answer
  order : aside.Sublist client.received
  pending : client.inbox.pending = inbox.pending ++ aside

variable {inbox : BoundedDriverInbox} {client : Client} {answered aside : List DriverEvent} {event : DriverEvent}

theorem served_iff : Served inbox client ↔ ∃ answered aside, Balance inbox client answered aside := by
  refine exists_congr fun answered => exists_congr fun aside => ?_
  constructor
  · rintro ⟨hrequests, hsent, haside, hnext⟩
    refine ⟨hrequests, hsent, haside, ?_⟩
    have hlong := hnext (client.inbox.pending.length + (inbox.pending ++ aside).length) []
    rw [nextEvents_eq, List.append_nil, List.append_nil, List.take_of_length_le (by omega),
      List.take_of_length_le (by omega)] at hlong
    exact hlong
  · rintro ⟨hrequests, hsent, haside, hpending⟩
    exact ⟨hrequests, hsent, haside, fun n events => by rw [nextEvents_eq, hpending]⟩

namespace Balance

theorem start (inbox : BoundedDriverInbox) : Balance inbox (.start inbox) [] [] :=
  ⟨List.Perm.nil, rfl, List.nil_sublist _, (List.append_nil _).symm⟩

/-- An event that is no request may be dropped. -/
theorem drop (h : Balance inbox client answered aside) (hrequest : event.isRequest = false) :
    Balance inbox { client with received := client.received ++ [event] } answered aside := by
  refine ⟨?_, h.sent, h.order.trans (List.sublist_append_left _ _), h.pending⟩
  rw [List.filter_append, List.filter_cons_of_neg (by rw [hrequest]; exact Bool.false_ne_true), List.filter_nil,
    List.append_nil]
  exact h.requests

theorem answer (h : Balance inbox client answered aside) (hrequest : event.isRequest = true) :
    Balance inbox { client with received := client.received ++ [event], sent := client.sent ++ [event.answer] }
      (answered ++ [event]) aside := by
  refine ⟨?_, ?_, h.order.trans (List.sublist_append_left _ _), h.pending⟩
  · rw [List.filter_append, List.filter_cons_of_pos hrequest, List.filter_nil, List.append_assoc]
    refine (h.requests.append_right [event]).trans ?_
    rw [List.append_assoc]
    exact List.Perm.append_left _ List.perm_append_comm
  · rw [List.map_append, ← h.sent]
    rfl

theorem setAside (h : Balance inbox client answered aside) {inbox' : BoundedDriverInbox}
    (hpush : client.inbox.pushBack event = .ok inbox') :
    Balance inbox { client with received := client.received ++ [event], inbox := inbox' } answered
      (aside ++ [event]) := by
  refine ⟨?_, h.sent, h.order.append (List.Sublist.refl _), ?_⟩
  · rw [List.filter_append, List.filter_append, ← List.append_assoc]
    exact h.requests.append_right _
  · show inbox'.pending = _
    rw [BoundedDriverInbox.pending_of_pushBack hpush, h.pending, List.append_assoc]

/-- A request that is neither answered nor set aside is missing. -/
theorem not_drop (h : Balance inbox client answered aside) (hrequest : event.isRequest = true) :
    ¬Served inbox { client with received := client.received ++ [event] } := by
  intro hserved
  obtain ⟨answered', aside', h'⟩ := served_iff.mp hserved
  obtain rfl : aside = aside' := List.append_cancel_left (h.pending.symm.trans h'.pending)
  have hlength := h.requests.length_eq
  have hlength' := h'.requests.length_eq
  have hsent := congrArg List.length (h.sent.symm.trans h'.sent)
  rw [List.length_map, List.length_map] at hsent
  rw [List.filter_append, List.filter_cons_of_pos hrequest, List.filter_nil] at hlength'
  rw [List.length_append] at hlength
  rw [List.length_append, List.length_append, List.length_singleton] at hlength'
  omega

end Balance

/-! ## The whole wait -/

/-- The wait ended with this client and this result, and kept what it should. -/
def Kept (inbox : BoundedDriverInbox) (outcome : Client × Except AdapterError Value) : Prop :=
  (isResponse outcome.2 → ∀ event, outcome.1.received.getLast? = some event → event.hasMethod = false) ∧
    Served inbox outcome.1

theorem not_isResponse_notArrived (id : Fin (2 ^ 64)) (ending : Option ProcessError) :
    isResponse (.error (notArrived id ending)) = false := by
  cases ending <;> rfl

/-- The event with which the wait ends is kept unless it is a request. -/
theorem Balance.kept_iff (h : Balance inbox client answered aside) {result : Except AdapterError Value}
    (hresponse : isResponse result = true → event.hasMethod = event.isRequest) :
    Kept inbox ({ client with received := client.received ++ [event] }, result) ↔ event.isRequest = false := by
  constructor
  · rintro ⟨-, hserved⟩
    by_contra hrequest
    exact h.not_drop (Bool.not_eq_false _ ▸ hrequest) hserved
  · intro hrequest
    refine ⟨fun hresult last hlast => ?_, served_iff.mpr ⟨_, _, h.drop hrequest⟩⟩
    obtain rfl : event = last := Option.some.inj (List.getLast?_concat.symm.trans hlast)
    rw [hresponse hresult, hrequest]

theorem kept_iff_clear {adapter : Adapter} {id : Fin (2 ^ 64)} {ending : Option ProcessError} {arrivals : List Arrival}
    (h : Balance inbox client answered aside) :
    Kept inbox (requestRaw adapter id ending client arrivals) ↔ Clear adapter id client arrivals := by
  induction arrivals generalizing client answered aside with
  | nil =>
      refine iff_of_true ⟨fun hresponse => ?_, served_iff.mpr ⟨_, _, h⟩⟩ trivial
      exact absurd ((not_isResponse_notArrived id ending).symm.trans hresponse) Bool.noConfusion
  | cons arrival arrivals ih =>
      -- an event that ends the wait is kept if it is admissible, and one that does not always is
      have hends : ∀ hresult : (adapter.received id client arrival).2 ≠ none,
          Admissible adapter id client arrival ↔ arrival.event.isRequest = false := by
        intro hresult
        constructor
        · intro hadmissible
          by_contra hrequest
          exact hresult ((admissible_iff (Bool.not_eq_false _ ▸ hrequest)).mp hadmissible)
        · exact admissible_of_not_request
      have hgoes : (adapter.received id client arrival).2 = none → Admissible adapter id client arrival := by
        intro hnone
        by_cases hrequest : arrival.event.isRequest = true
        · exact (admissible_iff hrequest).mpr hnone
        · exact admissible_of_not_request (Bool.eq_false_iff.mpr hrequest)
      have hhandled := received_handled adapter id client arrival
      unfold requestRaw Clear
      generalize adapter.received id client arrival = step at hhandled hends hgoes ⊢
      cases hhandled with
      | response sequence payload result hevent hid hresult =>
          rw [hends (Option.some_ne_none _)]
          refine (h.kept_iff fun _ => ?_).trans (and_iff_left ?_).symm
          · rw [hevent]
            exact (isRequest_of_hasMethod hid).symm
          · intro client' hstep
            cases (Prod.mk.inj hstep).2
      | failed error herror =>
          rw [hends (Option.some_ne_none _)]
          refine (h.kept_iff fun hresult => ?_).trans (and_iff_left ?_).symm
          · exact absurd (herror.symm.trans hresult) Bool.noConfusion
          · intro client' hstep
            cases (Prod.mk.inj hstep).2
      | answered hrequest =>
          refine (ih (h.answer hrequest)).trans ⟨fun hclear => ⟨hgoes rfl, ?_⟩, fun hclear => hclear.2 _ rfl⟩
          intro client' hstep
          obtain rfl := (Prod.mk.inj hstep).1
          exact hclear
      | aside inbox' hpush =>
          refine (ih (h.setAside hpush)).trans ⟨fun hclear => ⟨hgoes rfl, ?_⟩, fun hclear => hclear.2 _ rfl⟩
          intro client' hstep
          obtain rfl := (Prod.mk.inj hstep).1
          exact hclear

/-- **Main result.** A wait loses no request, takes none for its response and keeps the order if and only if every
event that it takes is admissible. -/
theorem keeps_iff_clear (adapter : Adapter) (id : Fin (2 ^ 64)) (ending : Option ProcessError)
    (inbox : BoundedDriverInbox) (arrivals : List Arrival) :
    Keeps adapter id ending inbox arrivals ↔ Clear adapter id (.start inbox) arrivals := by
  have hkept : Kept inbox (requestRaw adapter id ending (.start inbox) arrivals) ↔ Clear adapter id (.start inbox) arrivals :=
    kept_iff_clear (Balance.start inbox)
  refine Iff.trans ?_ hkept
  exact ⟨fun h => ⟨h.response, h.served⟩, fun h => ⟨h.1, h.2⟩⟩

/-- A request of the provider, which numbers its requests from 1 on like the client. -/
def sampleRequest (method : String) : DriverEvent :=
  .message 1 (.object [("id", .ofU64 ⟨1, by decide⟩), ("jsonrpc", .string "2.0"), ("method", .string method),
    ("params", .object [])])

def sampleArrival (method : String) : Arrival := ⟨sampleRequest method, ⟨.ready, true, true⟩⟩

/-- The client takes the request for the response to its own first request: it is neither answered nor set aside. -/
theorem sample_taken :
    ¬Keeps .acp ⟨1, by decide⟩ none (.new 512 (8 * 1024 * 1024)) [sampleArrival "session/request_permission"] ∧
      ¬Keeps .codex ⟨1, by decide⟩ none (.new 512 (8 * 1024 * 1024))
        [sampleArrival "item/commandExecution/requestApproval"] := by
  constructor
  · intro h
    exact absurd (h.response rfl _ rfl) (by decide)
  · intro h
    exact absurd (h.response rfl _ rfl) (by decide)

end HyperTerm.Drivers
