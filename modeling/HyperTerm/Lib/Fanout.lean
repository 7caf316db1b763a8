import Mathlib.Data.List.Infix

/-!
# Fan-out to bounded queues

Each subscriber has a bounded queue. A message is offered to every queue in turn, and a subscriber whose
queue is full is dropped. A subscriber that is still there has got every message since it joined: what it
received and what is queued for it is a suffix of all that was sent (`FedBy`).
-/

namespace HyperTerm.Lib

variable {μ : Type}

/-- The receiving end of a channel: the messages taken from it so far, and those still in its queue. -/
structure Subscriber (μ : Type) where
  received : List μ
  queue : List μ

namespace Subscriber

def fresh : Subscriber μ := ⟨[], []⟩

def messages (s : Subscriber μ) : List μ := s.received ++ s.queue

/-- `try_send` : the message, unless the queue is full. -/
def offer (capacity : Nat) (m : μ) (s : Subscriber μ) : Option (Subscriber μ) :=
  if s.queue.length < capacity then some { s with queue := s.queue ++ [m] } else none

def receive (s : Subscriber μ) : Subscriber μ :=
  match s.queue with
  | [] => s
  | m :: queue => ⟨s.received ++ [m], queue⟩

@[simp] theorem messages_fresh : (fresh : Subscriber μ).messages = [] := rfl

theorem messages_offer {capacity : Nat} {m : μ} {s s' : Subscriber μ} (h : s.offer capacity m = some s') :
    s'.messages = s.messages ++ [m] := by
  unfold offer at h
  split_ifs at h
  obtain rfl := Option.some.inj h
  simp [messages]

@[simp] theorem messages_receive (s : Subscriber μ) : s.receive.messages = s.messages := by
  obtain ⟨received, queue⟩ := s
  cases queue <;> simp [receive, messages]

end Subscriber

/-- One message to every subscriber; those that cannot take it are dropped. -/
def fanOut (capacity : Nat) (m : μ) (subscribers : List (Subscriber μ)) : List (Subscriber μ) :=
  subscribers.filterMap (Subscriber.offer capacity m)

/-- Every subscriber has got all that was sent since it joined. -/
def FedBy (sent : List μ) (subscribers : List (Subscriber μ)) : Prop := ∀ s ∈ subscribers, s.messages <:+ sent

variable {sent : List μ} {subscribers : List (Subscriber μ)}

theorem FedBy.fanOut (h : FedBy sent subscribers) (capacity : Nat) (m : μ) :
    FedBy (sent ++ [m]) (fanOut capacity m subscribers) := by
  intro s' hs'
  obtain ⟨s, hs, hoffer⟩ := List.mem_filterMap.mp hs'
  rw [Subscriber.messages_offer hoffer]
  obtain ⟨before, hbefore⟩ := h s hs
  exact ⟨before, by rw [← List.append_assoc, hbefore]⟩

theorem FedBy.join (h : FedBy sent subscribers) : FedBy sent (subscribers ++ [.fresh]) := by
  intro s hs
  rcases List.mem_append.mp hs with hs | hs
  · exact h s hs
  · rw [List.mem_singleton.mp hs]
    exact List.nil_suffix

theorem FedBy.leave (h : FedBy sent subscribers) (i : Nat) : FedBy sent (subscribers.eraseIdx i) :=
  fun s hs => h s (List.mem_of_mem_eraseIdx hs)

theorem FedBy.receive (h : FedBy sent subscribers) (i : Nat) :
    FedBy sent (subscribers.modify i Subscriber.receive) := by
  intro s hs
  obtain ⟨k, hk⟩ := List.mem_iff_getElem?.mp hs
  rw [List.getElem?_modify] at hk
  cases hget : subscribers[k]? with
  | none => simp [hget] at hk
  | some s₀ =>
      have hs₀ := h s₀ (List.mem_of_getElem? hget)
      rw [hget, Option.map_eq_map, Option.map_some, Option.some_inj] at hk
      split_ifs at hk
      · rw [← hk, Subscriber.messages_receive]
        exact hs₀
      · exact hk ▸ hs₀

end HyperTerm.Lib
