import ChatFeed.Proofs.Hub.Audience
import ChatFeed.Proofs.Multiplexer.Schedule

/-!
# What operations do to the multiplexer

What an operation sends is decided by the rooms and who is typing, and not by who listens. Every
operation is a schedule of the hub's multiplexer: it sends its deliveries one after another, or
registers, polls or gives up a listener, or lets time pass, or fires the signal of the end. None
closes the multiplexer, so that of a hub is always open, and agrees with its chronicle.

## Main definitions

* `Hub.deliveries`, `Hub.Routes`: what an operation sends, and to whom
* `Hub.actions`: what an operation does to the multiplexer

## Main results

* `Hub.mux_perform`: the multiplexer after an operation
* `Hub.isOpen_perform`, `Hub.hasFired_run_iff`: no operation closes it, and one fires the signal
* `Hub.exists_agrees_run`: the multiplexer of a hub is open and agrees with a chronicle
-/

namespace ChatFeed

open Multiplexer (Action Occurrence Agrees)

/-! ### What closes and fires -/

namespace Multiplexer

variable {m : Multiplexer}

theorem isOpen_act {action : Action} (goes_on : action ≠ .close) :
    (m.act action).isOpen = m.isOpen := by
  cases action with
  | listen user signal => exact isOpen_listen m user signal
  | poll ticket timeout =>
    rw [act]
    obtain dropped | ⟨listeners, kept⟩ := m.poll_cases ticket timeout
    · rw [dropped, isOpen_drop]
    · rw [kept]
  | drop ticket => exact isOpen_drop m ticket
  | fire signal => exact isOpen_fire m signal
  | send recipients item => exact isOpen_send recipients
  | elapse span => rfl
  | close => contradiction

theorem isOpen_run {schedule : List Action} (goes_on : .close ∉ schedule) :
    (m.run schedule).isOpen = m.isOpen := by
  induction schedule generalizing m with
  | nil => rfl
  | cons action rest ih =>
    rw [List.mem_cons, not_or] at goes_on
    exact (ih goes_on.2).trans (isOpen_act (Ne.symm goes_on.1))

/-- A signal has fired if it had before, or is fired now. -/
theorem hasFired_act_iff {action : Action} {signal : SignalName} :
    (m.act action).hasFired signal = true ↔ m.hasFired signal = true ∨ .fire signal = action := by
  cases action with
  | listen user other => simp [act, hasFired_listen]
  | poll ticket timeout =>
    rw [act]
    obtain dropped | ⟨listeners, kept⟩ := m.poll_cases ticket timeout
    · simp [dropped, hasFired_drop]
    · simp [kept, hasFired]
  | drop ticket => simp [act, hasFired_drop]
  | fire other =>
    rw [act, hasFired_fire, Bool.or_eq_true, decide_eq_true_iff, Action.fire.injEq,
      @eq_comm _ signal]
  | send recipients item => simp [act, hasFired_send]
  | elapse span => simp [act, elapse, hasFired]
  | close => simp [act, close, hasFired]

theorem hasFired_run_iff {schedule : List Action} {signal : SignalName} :
    (m.run schedule).hasFired signal = true ↔
      m.hasFired signal = true ∨ .fire signal ∈ schedule := by
  induction schedule generalizing m with
  | nil => simp [run]
  | cons action rest ih =>
    rw [List.mem_cons, ← or_assoc, ← hasFired_act_iff]
    exact ih

end Multiplexer

/-- The action that sends a delivery. -/
def Delivery.action (delivery : Delivery) : Action :=
  .send delivery.recipients delivery.item

namespace Hub

variable {hub : Hub} {room : RoomId}

/-! ### Deliveries -/

/-- The delivery that goes out when a piece of state is set, unless it is refused. -/
def stateDelivery? (hub : Hub) (stamp : Stamp) (sender : UserId) (room : RoomId)
    (content : StateContent) (key : String) : Option Delivery :=
  match hub.rooms.rooms.get? room, RoomStore.target content key with
  | some state, .ok target =>
    some ((hub.settled stamp sender room content key state target).eventDelivery room
      (RoomStore.stateEvent stamp room sender content key state))
  | _, _ => none

/-- The deliveries that go out during an operation, the first one first. -/
def deliveries (hub : Hub) : Operation → List Delivery
  | .createRoom first second room creator =>
    if hub.rooms.hasRoom room then []
    else
      let made := hub.afterCreation room
      let created := (made.setState first creator room (.create creator) "").2
      (made.stateDelivery? first creator room (.create creator) "").toList ++
        (created.stateDelivery? second creator room (.member .join none) creator.text).toList
  | .setState stamp sender room content key =>
    (hub.stateDelivery? stamp sender room content key).toList
  | .sendMessage stamp sender room messageType body =>
    match hub.writeError? sender room with
    | some _ => []
    | none => [hub.eventDelivery room (messageEvent stamp sender room messageType body)]
  | .setTyping now user room isTyping =>
    match hub.writeError? user room with
    | some _ => []
    | none => [hub.typingDelivery now user room isTyping]
  | .setAvailability now user status statusMessage =>
    [hub.presenceDelivery now.timestamp user fun presence =>
      { presence with availability := status, statusMessage := statusMessage }]
  | .setProfile now user profile =>
    [hub.presenceDelivery now.timestamp user fun presence =>
      { presence with displayName := profile.displayName, avatarUrl := profile.avatarUrl }]
  | .sync _ _ _ _ | .resume _ _ | .abandon _ | .elapse _ | .shutDown => []

/-- Whether an operation sends an event to a user. -/
def Routes (hub : Hub) (operation : Operation) (user : UserId) : Prop :=
  ∃ delivery ∈ hub.deliveries operation, user ∈ delivery.recipients

/-! ### Actions -/

/-- What an operation does to the multiplexer. A sync registers a listener, and gives it up or polls
it at once. -/
def actions (hub : Hub) : Operation → List Action
  | .sync clock user token timeout =>
    match hub.since token with
    | .error _ => []
    | .ok since =>
      match hub.collect clock user since with
      | .error _ => [.listen user shutdownSignal, .drop hub.dispatcher.mux.nextTicket]
      | .ok response =>
        if !response.isEmpty || hub.limits.timeout timeout = 0 ||
            hub.dispatcher.mux.hasFired shutdownSignal then
          [.listen user shutdownSignal, .drop hub.dispatcher.mux.nextTicket]
        else
          [.listen user shutdownSignal,
            .poll hub.dispatcher.mux.nextTicket (some (hub.limits.timeout timeout))]
  | .resume _ sync => [.poll sync.ticket (some sync.timeout)]
  | .abandon sync => [.drop sync.ticket]
  | .elapse span => [.elapse span]
  | .shutDown => [.fire shutdownSignal]
  | operation => (hub.deliveries operation).map Delivery.action

theorem mux_setState (hub : Hub) (stamp : Stamp) (sender : UserId) (room : RoomId)
    (content : StateContent) (key : String) :
    (hub.setState stamp sender room content key).2.dispatcher.mux =
      hub.dispatcher.mux.run
        ((hub.stateDelivery? stamp sender room content key).toList.map Delivery.action) := by
  unfold stateDelivery?
  split
  next state target found named =>
    rw [setState_eq found named]
    exact (hands_enter _ room _).woken
  next unset =>
    obtain ⟨e, refused⟩ | ⟨state, target, found, named, -⟩ :=
      hub.setState_cases stamp sender room content key
    · rw [refused]
      rfl
    · exact (unset state target found named).elim

/-- A resumed sync polls its listener. -/
theorem mux_resume (hub : Hub) (clock : RoomId → Instant) (sync : PendingSync) :
    (hub.resume clock sync).2.dispatcher.mux =
      (hub.dispatcher.mux.poll sync.ticket (some sync.timeout)).2 := by
  unfold resume
  split <;> simp_all [setMux]

theorem mux_sync (hub : Hub) (clock : RoomId → Instant) (user : UserId) (token : Option String)
    (timeout : Option Nat) :
    (hub.sync clock user token timeout).2.dispatcher.mux =
      hub.dispatcher.mux.run (hub.actions (.sync clock user token timeout)) := by
  cases read : hub.since token with
  | error e =>
    rw [actions, sync, read]
    rfl
  | ok since =>
    rw [actions, sync, read]
    simp only [collect_setMux, Multiplexer.hasFired_listen]
    cases hub.collect clock user since with
    | error e => rfl
    | ok response =>
      simp only
      split
      next => rfl
      next =>
        rw [mux_resume]
        rfl

/-- The multiplexer after an operation. -/
theorem mux_perform (hub : Hub) (operation : Operation) :
    (hub.perform operation).dispatcher.mux =
      hub.dispatcher.mux.run (hub.actions operation) := by
  cases operation with
  | createRoom first second room creator =>
    have sends : hub.actions (.createRoom first second room creator) =
        (hub.deliveries (.createRoom first second room creator)).map Delivery.action := rfl
    rw [sends, perform, deliveries]
    cases new : hub.rooms.hasRoom room with
    | true =>
      rw [createRoom_of_hasRoom new]
      rfl
    | false =>
      -- Making the room sends nothing, and then two pieces of state are set.
      rw [createRoom_eq new, mux_setState, mux_setState, if_neg Bool.false_ne_true, List.map_append]
      exact List.foldl_append.symm
  | setState stamp sender room content key => exact hub.mux_setState stamp sender room content key
  | sendMessage stamp sender room messageType body =>
    have sends : hub.actions (.sendMessage stamp sender room messageType body) =
        (hub.deliveries (.sendMessage stamp sender room messageType body)).map Delivery.action :=
      rfl
    rw [sends, perform, deliveries]
    cases allowed : hub.writeError? sender room with
    | some e =>
      rw [sendMessage, allowed]
      rfl
    | none =>
      rw [sendMessage_eq allowed]
      exact (hands_enter hub room _).woken
  | setTyping now user room isTyping =>
    have sends : hub.actions (.setTyping now user room isTyping) =
        (hub.deliveries (.setTyping now user room isTyping)).map Delivery.action := rfl
    rw [sends, perform, deliveries]
    cases allowed : hub.writeError? user room with
    | some e =>
      rw [setTyping, allowed]
      rfl
    | none =>
      rw [setTyping_eq allowed]
      rfl
  | setAvailability now user status statusMessage =>
    rw [perform, setAvailability_eq]
    exact Dispatcher.mux_dispatch _ _ _
  | setProfile now user profile =>
    rw [perform, setProfile_eq]
    exact Dispatcher.mux_dispatch _ _ _
  | sync clock user token timeout => exact hub.mux_sync clock user token timeout
  | resume clock sync => exact hub.mux_resume clock sync
  | abandon sync => rfl
  | elapse span => rfl
  | shutDown => rfl

/-! ### The multiplexer of a hub -/

/-- No operation closes the multiplexer, and only the end fires a signal. -/
theorem endings_mem_actions (hub : Hub) (operation : Operation) :
    .close ∉ hub.actions operation ∧
      (.fire shutdownSignal ∈ hub.actions operation ↔ .shutDown = operation) := by
  have sends (deliveries : List Delivery) : .close ∉ deliveries.map Delivery.action ∧
      .fire shutdownSignal ∉ deliveries.map Delivery.action := by
    simp [Delivery.action]
  cases operation with
  | sync clock user token timeout =>
    rw [actions]
    split
    next => simp
    next =>
      split
      next => simp
      next => split <;> simp
  | resume clock sync => simp [actions]
  | abandon sync => simp [actions]
  | elapse span => simp [actions]
  | shutDown => simp [actions]
  | _ => exact ⟨(sends _).1, iff_of_false (sends _).2 nofun⟩

/-- Whatever is done to a hub, its multiplexer stays open. -/
theorem isOpen_perform (hub : Hub) (operation : Operation) :
    (hub.perform operation).dispatcher.mux.isOpen = hub.dispatcher.mux.isOpen := by
  rw [mux_perform]
  exact Multiplexer.isOpen_run (hub.endings_mem_actions operation).1

/-- A hub has been shut down if it had been before, or is now. -/
theorem hasFired_perform_iff {operation : Operation} :
    (hub.perform operation).dispatcher.mux.hasFired shutdownSignal = true ↔
      hub.dispatcher.mux.hasFired shutdownSignal = true ∨ .shutDown = operation := by
  rw [mux_perform, Multiplexer.hasFired_run_iff, (hub.endings_mem_actions operation).2]

theorem hasFired_run_iff {operations : List Operation} :
    (hub.run operations).dispatcher.mux.hasFired shutdownSignal = true ↔
      hub.dispatcher.mux.hasFired shutdownSignal = true ∨ .shutDown ∈ operations := by
  induction operations generalizing hub with
  | nil => simp [run]
  | cons operation rest ih =>
    rw [List.mem_cons, ← or_assoc, ← hasFired_perform_iff]
    exact ih

/-- The multiplexer of a hub is open, and agrees with what has been seen of it. -/
theorem exists_agrees_run (config : Config) (sink : Option Sink) (operations : List Operation) :
    ((ofConfig config sink).run operations).dispatcher.mux.isOpen = true ∧
      ∃ history, Agrees history ((ofConfig config sink).run operations).dispatcher.mux := by
  induction operations using List.reverseRecOn with
  | nil => exact ⟨rfl, [], Multiplexer.agrees_initial⟩
  | append_singleton front last ih =>
    obtain ⟨is_open, history, agrees⟩ := ih
    rw [run_concat, isOpen_perform, mux_perform]
    exact ⟨is_open, _, agrees.run _⟩

end Hub

end ChatFeed
