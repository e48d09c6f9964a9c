import QfwSlurm.Gateway.Effects

/-!
# Reading a trace

What the trace of a handler says about the QPMs, whatever the gateway made of it: which services
were contacted, which reservations were granted, which were given back, and which calls failed.
The projections below read events one by one, so they distribute over concatenation.
-/

namespace QfwSlurm

/-! ### Projections of one event -/

namespace Event

/-- The event is a call to the adapter. -/
def isAdapter : Event → Bool
  | ⟨.call c, _⟩ => !c.isVerification
  | ⟨.transaction _, _⟩ => false

/-- The service of an `adapter.resolve` call. -/
def contacted : Event → Option String
  | ⟨.call (.resolve serviceId), _⟩ => some serviceId
  | _ => none

/-- The service of an `adapter.reserve` call. -/
def asked : Event → Option String
  | ⟨.call (.reserve binding _ _), _⟩ => some binding.serviceId
  | _ => none

/-- The service and decision of an `adapter.reserve` call that returned. -/
def decided : Event → Option (String × AdmissionDecision)
  | ⟨.call (.reserve binding _ _), .ok reply⟩ => some (binding.serviceId, reply.val.decision)
  | _ => none

/-- The service and id of a reservation that a QPM granted: an `adapter.reserve` call that returned
`ACCEPTED`. -/
def granted : Event → Option (String × ℤ)
  | ⟨.call (.reserve binding _ _), .ok reply⟩ =>
    if reply.val.decision = .accepted then
      reply.val.reservationId.map fun id => (binding.serviceId, id)
    else none
  | _ => none

/-- The service and id of an `adapter.release` call, whatever it returned. -/
def returned : Event → Option (String × Option ℤ)
  | ⟨.call (.release binding reservationId _), _⟩ => some (binding.serviceId, reservationId)
  | _ => none

/-- The service and id of an `adapter.release` call that returned a confirming status. -/
def confirmed : Event → Option (String × ℤ)
  | ⟨.call (.release binding reservationId _), .ok reply⟩ =>
    if reply.confirms then reservationId.map fun id => (binding.serviceId, id) else none
  | _ => none

/-- The reservation of an `adapter.release` call, whatever it returned. -/
def relinquished (event : Event) : Option (String × ℤ) :=
  (returned event).bind fun pair => pair.2.map fun id => (pair.1, id)

/-- The question was answered by an exception. -/
def failed : Event → Bool
  | ⟨.transaction _, .error _⟩ => true
  | ⟨.call (.verifyReserve ..), .error _⟩ => true
  | ⟨.call (.verifyRelease ..), .error _⟩ => true
  | ⟨.call (.verifyLookup ..), .error _⟩ => true
  | ⟨.call (.resolve ..), .error _⟩ => true
  | ⟨.call (.evaluate ..), .error _⟩ => true
  | ⟨.call (.reserve ..), .error _⟩ => true
  | ⟨.call (.release ..), .error _⟩ => true
  | _ => false

/-- The event is the journal transaction that a rollback begins with. -/
def startsRollback : Event → Bool
  | ⟨.transaction (.setAllocationState _ .rollingBack), _⟩ => true
  | _ => false

end Event

/-! ### Projections of a trace -/

/-- The calls to the adapter. -/
def adapterCalls (events : List Event) : List Event := events.filter Event.isAdapter

/-- The services that were resolved, in order. -/
def contacted (events : List Event) : List String := events.filterMap Event.contacted

/-- The services that were asked for a reservation, in order. -/
def asked (events : List Event) : List String := events.filterMap Event.asked

/-- The decisions that QPMs returned, in order. -/
def decided (events : List Event) : List (String × AdmissionDecision) :=
  events.filterMap Event.decided

/-- The reservations that were granted, in order. -/
def granted (events : List Event) : List (String × ℤ) := events.filterMap Event.granted

/-- The reservations passed to `adapter.release`, in order. -/
def returned (events : List Event) : List (String × Option ℤ) := events.filterMap Event.returned

/-- The reservations whose release was confirmed, in order. -/
def confirmed (events : List Event) : List (String × ℤ) := events.filterMap Event.confirmed

/-- The part of an attempt's trace from the start of its rollback. -/
def rollbackPart (events : List Event) : List Event :=
  events.dropWhile fun event => !event.startsRollback

section Projections

variable (events more : List Event)

@[simp] lemma adapterCalls_append :
    adapterCalls (events ++ more) = adapterCalls events ++ adapterCalls more :=
  List.filter_append _ _

@[simp] lemma contacted_append : contacted (events ++ more) = contacted events ++ contacted more :=
  List.filterMap_append

@[simp] lemma asked_append : asked (events ++ more) = asked events ++ asked more :=
  List.filterMap_append

@[simp] lemma decided_append : decided (events ++ more) = decided events ++ decided more :=
  List.filterMap_append

@[simp] lemma granted_append : granted (events ++ more) = granted events ++ granted more :=
  List.filterMap_append

@[simp] lemma returned_append : returned (events ++ more) = returned events ++ returned more :=
  List.filterMap_append

@[simp] lemma confirmed_append : confirmed (events ++ more) = confirmed events ++ confirmed more :=
  List.filterMap_append

/-- A projection that reads calls to the adapter alone. -/
lemma filterMap_adapterCalls {α : Type} {f : Event → Option α}
    (hf : ∀ event : Event, f event ≠ none → event.isAdapter = true) :
    (adapterCalls events).filterMap f = events.filterMap f := by
  rw [adapterCalls, List.filterMap_filter]
  refine List.filterMap_congr fun event _ => ?_
  by_cases hevent : f event = none
  · simp [hevent]
  · simp [hf event hevent]

@[simp] lemma contacted_adapterCalls : contacted (adapterCalls events) = contacted events := by
  refine filterMap_adapterCalls events ?_
  rintro ⟨_ | c, answer⟩ h
  · exact absurd rfl h
  · cases c <;> first | rfl | exact absurd rfl h

@[simp] lemma asked_adapterCalls : asked (adapterCalls events) = asked events := by
  refine filterMap_adapterCalls events ?_
  rintro ⟨_ | c, answer⟩ h
  · exact absurd rfl h
  · cases c <;> first | rfl | exact absurd rfl h

@[simp] lemma decided_adapterCalls : decided (adapterCalls events) = decided events := by
  refine filterMap_adapterCalls events ?_
  rintro ⟨_ | c, answer⟩ h
  · exact absurd rfl h
  · cases c <;> first | rfl | exact absurd rfl h

@[simp] lemma granted_adapterCalls : granted (adapterCalls events) = granted events := by
  refine filterMap_adapterCalls events ?_
  rintro ⟨_ | c, answer⟩ h
  · exact absurd rfl h
  · cases c <;> first | rfl | exact absurd rfl h

@[simp] lemma returned_adapterCalls : returned (adapterCalls events) = returned events := by
  refine filterMap_adapterCalls events ?_
  rintro ⟨_ | c, answer⟩ h
  · exact absurd rfl h
  · cases c <;> first | rfl | exact absurd rfl h

@[simp] lemma confirmed_adapterCalls : confirmed (adapterCalls events) = confirmed events := by
  refine filterMap_adapterCalls events ?_
  rintro ⟨_ | c, answer⟩ h
  · exact absurd rfl h
  · cases c <;> first | rfl | exact absurd rfl h

end Projections

/-! ### How a procedure ends -/

open Interaction

/-- From the world `w`, the procedure `x` ends with a value or an exception, a journal and calls to
the adapter that satisfy `P`. -/
def Ends (w : GatewayWorld) (E : Environment Journal Query Answer) {α : Type} (x : Gateway α)
    (P : Except PyError α → Journal → List Event → Prop) : Prop :=
  ∃ events, (Procedure.exec E x w).2.trace = w.trace ++ events ∧
    P (Procedure.exec E x w).1 (Procedure.exec E x w).2.state (adapterCalls events)

namespace Ends

variable {w : GatewayWorld} {E : Environment Journal Query Answer} {α β : Type}
  {P : Except PyError α → Journal → List Event → Prop}

lemma of_exec {x : Gateway α} {result : Except PyError α} {w' : GatewayWorld}
    {events : List Event} (h : Procedure.exec E x w = (result, w'))
    (htrace : w'.trace = w.trace ++ events) (hP : P result w'.state (adapterCalls events)) :
    Ends w E x P :=
  ⟨events, by rw [h, htrace], by rw [h]; exact hP⟩

lemma mono {x : Gateway α} {Q : Except PyError α → Journal → List Event → Prop}
    (h : Ends w E x P) (hPQ : ∀ result j calls, P result j calls → Q result j calls) :
    Ends w E x Q := by
  obtain ⟨events, htrace, hP⟩ := h
  exact ⟨events, htrace, hPQ _ _ _ hP⟩

/-- A sequence whose first statement returned. -/
lemma bind_calls {x : Gateway β} {f : β → Gateway α} {b : β} {w' : GatewayWorld}
    {events : List Event} (h : Procedure.exec E x w = (.ok b, w'))
    (htrace : w'.trace = w.trace ++ events)
    (hf : Ends w' E (f b) fun result j calls => P result j (adapterCalls events ++ calls)) :
    Ends w E (x >>= f) P := by
  obtain ⟨more, hmore, hP⟩ := hf
  refine ⟨events ++ more, ?_, ?_⟩
  · rw [Procedure.exec_bind_ok h f, hmore, htrace, List.append_assoc]
  · rw [Procedure.exec_bind_ok h f, adapterCalls_append]
    exact hP

/-- A sequence whose first statement returned without a call to the adapter. -/
lemma bind {x : Gateway β} {f : β → Gateway α} {b : β} {w' : GatewayWorld} {events : List Event}
    (h : Procedure.exec E x w = (.ok b, w')) (htrace : w'.trace = w.trace ++ events)
    (hcalls : adapterCalls events = []) (hf : Ends w' E (f b) P) : Ends w E (x >>= f) P := by
  refine bind_calls h htrace ?_
  rw [hcalls]
  exact hf

end Ends

end QfwSlurm
