import ChatFeed.Proofs.Hub.Answer
import ChatFeed.Proofs.Hub.Page
import ChatFeed.Proofs.Hub.Reader

/-!
# Events that are passed over

Where to go on after a page is inferred from its length: a full page may have been cut short, and
any other holds all of its window. A page of size zero is always full, but as there is no last event
after which to go on, it is taken to hold all of its window. Whatever is in the window is passed
over. A configuration may have zero as the default page size, and whoever asks for a page may ask
for that size; with any other size nothing is passed over.

## Main definitions

* `Hub.PassesOver`: an event between two positions is missing from what is given

## Main results

* `Hub.IsSound.passesOver_missedEvents_iff`, `Hub.IsSound.passesOver_page_iff`: when an event is
  passed over
* `Hub.passed_over_iff_sizeless`: the same for everything that has come about
* `Hub.exists_passed_over`: this does happen
-/

namespace ChatFeed

/-! ### Page sizes -/

/-- A configuration that has been accepted bounds no page size by zero. -/
theorem Config.maxLimit_pos_of_validate (config : Config)
    (accepted : config.validate = .ok config) : 0 < config.limits.maxLimit := by
  unfold validate at accepted
  split at accepted
  next => contradiction
  next =>
    split at accepted
    next => contradiction
    next positive => exact Nat.pos_of_ne_zero positive

/-- A page has size zero only if that is asked for, or is the default. -/
theorem Limits.limit_eq_zero_iff {limits : Limits} (bounded : 0 < limits.maxLimit)
    (requested : Option Nat) :
    limits.limit requested = 0 ↔ requested.getD limits.defaultLimit = 0 := by
  rw [limit]
  omega

namespace Hub

variable {hub : Hub} {user : UserId} {room : RoomId} {direction : Direction} {near far : Nat}

/-- Whether one of the events `wanted` stands at an index in the stretch, and is not among the
events that are given. -/
def PassesOver (hub : Hub) (stretch : Nat → Prop) (wanted : Event → Prop)
    (given : List (Indexed Event)) : Prop :=
  ∃ index event, stretch index ∧ hub.eventAt? index = some event ∧ wanted event ∧
    ⟨index, event⟩ ∉ given

/-! ### Syncing -/

/-- A reader passes over an event only if pages have size zero, and then over all that they could
see. -/
theorem IsSound.passesOver_missedEvents_iff (sound : hub.IsSound) (user : UserId) (since : Nat) :
    hub.PassesOver
        (fun index => since ≤ index ∧ index < hub.nextMessage since (hub.missedEvents user since))
        (hub.CanSee user) (hub.missedEvents user since) ↔
      hub.limits.limit none = 0 ∧ ∃ index event, since ≤ index ∧
        hub.eventAt? index = some event ∧ hub.CanSee user event := by
  by_cases sizeless : hub.limits.limit none = 0
  · have nothing : hub.missedEvents user since = [] := by
      rw [missedEvents_eq_take, sizeless, List.take_zero]
    have to_end : hub.nextMessage since [] = max hub.messageCounter.current since := rfl
    rw [nothing, to_end, and_iff_right sizeless]
    constructor
    · rintro ⟨index, event, ⟨above, -⟩, at_index, seen, -⟩
      exact ⟨index, event, above, at_index, seen⟩
    · rintro ⟨index, event, above, at_index, seen⟩
      have below := Nat.lt_of_lt_of_le (sound.lt_of_eventAt? at_index) (Nat.le_max_left _ since)
      exact ⟨index, event, ⟨above, below⟩, at_index, seen, List.not_mem_nil⟩
  · obtain ⟨-, shows⟩ := sound.shows_missedEvents (Nat.pos_of_ne_zero sizeless) user since
    refine iff_of_false ?_ (fun passed => sizeless passed.1)
    rintro ⟨index, event, ⟨above, below⟩, at_index, seen, missing⟩
    exact missing ((shows.mem_iff index event).mpr ⟨above, below, at_index, seen⟩)

/-! ### Paging -/

/-- Of the events in a room, a page shows those that the reader can see. -/
theorem isShown_iff_canSee {event : Event} :
    IsShown (hub.rooms.members.isMember room user) user room event ↔
      event.room = some room ∧ hub.CanSee user event := by
  refine and_congr_right fun in_room => or_congr_left ?_
  rw [in_room]
  simp only [Option.some.injEq, exists_eq_left']

/-- An index between the bounds of a page at which an event stands is in the window of the page. -/
theorem IsSound.between_entry_iff (sound : hub.IsSound) {index : Nat} {event : Event}
    (at_index : hub.eventAt? index = some event) :
    direction.Between (direction.entry near hub.messageCounter.current) far index ↔
      direction.Between near far index := by
  have below := sound.lt_of_eventAt? at_index
  cases direction with
  | forward => rfl
  | backward =>
    simp only [Direction.Between, Direction.entry]
    omega

/-- So is one at which an event stands below the bound at which the window ends. -/
theorem IsSound.between_close_iff (sound : hub.IsSound) {index : Nat} {event : Event}
    (at_index : hub.eventAt? index = some event) :
    direction.Between near (direction.close near far hub.messageCounter.current) index ↔
      direction.Between near far index := by
  have below := sound.lt_of_eventAt? at_index
  rw [← sound.between_entry_iff at_index, Direction.between_close_iff,
    sound.between_entry_iff at_index]
  cases direction with
  | forward =>
    simp only [Direction.Between, Direction.exit]
    omega
  | backward => rfl

/-- A page passes over an event only if it has size zero, and then over all that it could show. -/
theorem IsSound.passesOver_page_iff (sound : hub.IsSound) {start stop limit : Option Nat}
    {page : Page} (paged : hub.page user room start stop direction limit = .ok page) :
    hub.PassesOver (direction.Between page.start page.stop)
        (fun event => event.room = some room ∧ hub.CanSee user event) page.events ↔
      hub.limits.limit limit = 0 ∧ ∃ index event,
        direction.Between (hub.nearBound direction start) (hub.farBound direction stop) index ∧
          hub.eventAt? index = some event ∧ event.room = some room ∧ hub.CanSee user event := by
  obtain ⟨found, near, far, accepted⟩ : hub.rooms.hasRoom room = true ∧ ∃ near far,
      hub.pageBounds direction start stop = .ok (near, far) := by
    unfold Hub.page at paged
    split at paged
    next => contradiction
    next found =>
      split at paged
      next => contradiction
      next near far accepted => exact ⟨by simpa using found, near, far, accepted⟩
  obtain ⟨rfl, rfl, -⟩ := pageBounds_eq_ok_iff.mp accepted
  by_cases sizeless : hub.limits.limit limit = 0
  · -- Nothing is visited, so the page ends where the window does.
    have empty : page = ⟨[], hub.nearBound direction start, direction.close
        (hub.nearBound direction start) (hub.farBound direction stop)
        hub.messageCounter.current⟩ := by
      rw [page_eq found rfl accepted, sizeless, visited, List.take_zero] at paged
      obtain rfl := Except.ok.inj paged
      cases direction <;> rfl
    rw [empty, and_iff_right sizeless]
    constructor
    · rintro ⟨index, event, between, at_index, ⟨in_room, seen⟩, -⟩
      exact ⟨index, event, (sound.between_close_iff at_index).mp between, at_index, in_room, seen⟩
    · rintro ⟨index, event, between, at_index, in_room, seen⟩
      exact ⟨index, event, (sound.between_close_iff at_index).mpr between, at_index,
        ⟨in_room, seen⟩, List.not_mem_nil⟩
  · obtain ⟨same_page, paged_too, fills⟩ :=
      sound.exists_page found rfl accepted (Nat.pos_of_ne_zero sizeless)
    obtain rfl : page = same_page := Except.ok.inj (paged.symm.trans paged_too)
    refine iff_of_false ?_ (fun passed => sizeless passed.1)
    rintro ⟨index, event, between, at_index, wanted, missing⟩
    rw [fills.start] at between
    exact missing ((fills.reaches.covers.mem_iff index event).mpr
      ⟨(sound.between_entry_iff at_index).mpr between, at_index, isShown_iff_canSee.mpr wanted⟩)

/-! ### All answers and pages -/

/-- An answer to a sync passes over an event only if the default page size is zero, and a page only
if zero is the page size that is asked for, or the default if none is. All that could have been
given is passed over then. -/
theorem passed_over_iff_sizeless (config : Config) (sink : Option Sink)
    (operations : List Operation) (accepted : config.validate = .ok config) :
    let hub := (ofConfig config sink).run operations
    (∀ user token timeout collected response,
      hub.Answers user token timeout collected response →
      ∃ since next, hub.since token = .ok since ∧ hub.since (some response.nextBatch) = .ok next ∧
        (collected.hub.PassesOver (fun index => since.messages ≤ index ∧ index < next.messages)
            (collected.hub.CanSee user) response.events ↔
          config.limits.defaultLimit = 0 ∧ ∃ index event, since.messages ≤ index ∧
            collected.hub.eventAt? index = some event ∧ collected.hub.CanSee user event)) ∧
    ∀ user room start stop direction limit page,
      hub.page user room start stop direction limit = .ok page →
      (hub.PassesOver (direction.Between page.start page.stop)
          (fun event => event.room = some room ∧ hub.CanSee user event) page.events ↔
        limit.getD config.limits.defaultLimit = 0 ∧ ∃ index event,
          direction.Between (hub.nearBound direction start) (hub.farBound direction stop) index ∧
            hub.eventAt? index = some event ∧ event.room = some room ∧ hub.CanSee user event) := by
  intro hub
  have grows : (ofConfig config sink).Grows hub := (changes_run _ operations).grows
  have sound : hub.IsSound := grows.sound (isSound_ofConfig config sink)
  have sized (limit : Option Nat) :
      hub.limits.limit limit = 0 ↔ limit.getD config.limits.defaultLimit = 0 := by
    have same_limits : hub.limits = config.limits := grows.limits
    rw [same_limits]
    exact Limits.limit_eq_zero_iff (config.maxLimit_pos_of_validate accepted) limit
  constructor
  · intro user token timeout collected response answers
    obtain ⟨⟨more, reached⟩, since, read, gives⟩ := answers.exists_collect
    have grown : hub.Grows collected.hub := by
      rw [reached]
      exact (changes_run hub more).grows
    have read_next := since_nextBatch gives
    rw [since_eq_of_shard grown.shard] at read_next
    refine ⟨since, _, read, read_next, ?_⟩
    rw [events_of_collect gives, ← Option.getD_none (a := config.limits.defaultLimit), ← sized,
      ← grown.limits]
    exact (grown.sound sound).passesOver_missedEvents_iff user since.messages
  · intro user room start stop direction limit page paged
    rw [← sized]
    exact sound.passesOver_page_iff paged

section Sizeless

open Reader

/-- A configuration in which pages have size zero unless another is asked for. -/
def sizeless : Config where
  limits := { defaultLimit := 0 }

/-- A hub so configured, in which the host has made a room. -/
def founded : Hub :=
  (ofConfig sizeless none).run [.createRoom (drawn 0) (drawn 1) lobby host]

theorem exists_event_founded : ∃ event, founded.eventAt? 0 = some event ∧
    event.room = some lobby ∧ founded.CanSee host event := by
  have there : ((founded.eventAt? 0).any fun event => event.room = some lobby) = true ∧
      founded.rooms.members.isMember lobby host = true := by
    decide +kernel
  obtain ⟨found, joined⟩ := there
  obtain ⟨event, at_first, in_room⟩ := (Option.any_eq_true ..).mp found
  have in_lobby := of_decide_eq_true in_room
  exact ⟨event, at_first, in_lobby, .inl ⟨lobby, in_lobby, joined⟩⟩

theorem exists_collect_founded : ∃ response, founded.collect stopped host {} = .ok response :=
  exists_of_isSome_toOption (by decide +kernel)

theorem exists_page_founded (direction : Direction) (limit : Option Nat) :
    ∃ page, founded.page host lobby none none direction limit = .ok page := by
  have found : founded.rooms.hasRoom lobby = true := by decide +kernel
  have in_order : ¬direction.Precedes (founded.farBound direction none)
      (founded.nearBound direction none) := by
    cases direction <;> exact Nat.not_lt_zero _
  exact ⟨_, page_eq found rfl (pageBounds_eq_ok_iff.mpr ⟨rfl, rfl, in_order⟩)⟩

/-- The host's sync passes over the first event, and a page of size one passes over nothing. -/
theorem passed_over_iff_sizeless_founded :
    sizeless.validate = .ok sizeless ∧
    (∃ response next, (founded.sync stopped host none (some 0)).1 = .ok (.done response) ∧
      founded.since (some response.nextBatch) = .ok next ∧
      founded.PassesOver (fun index => 0 ≤ index ∧ index < next.messages) (founded.CanSee host)
        response.events) ∧
    ∃ page, founded.page host lobby none none .forward (some 1) = .ok page ∧
      ¬founded.PassesOver (Direction.forward.Between page.start page.stop)
        (fun event => event.room = some lobby ∧ founded.CanSee host event) page.events := by
  have accepted : sizeless.validate = .ok sizeless := by decide
  obtain ⟨synced, turned⟩ :=
    passed_over_iff_sizeless sizeless none [.createRoom (drawn 0) (drawn 1) lobby host] accepted
  refine ⟨accepted, ?_, ?_⟩
  · obtain ⟨response, collected⟩ := exists_collect_founded
    obtain ⟨event, at_first, -, seen⟩ := exists_event_founded
    have done : (founded.sync stopped host none (some 0)).1 = .ok (.done response) :=
      sync_without_wait rfl collected
    obtain ⟨since, next, read, read_next, passes_iff⟩ :=
      synced host none (some 0) ⟨founded, stopped⟩ response (.atOnce done)
    obtain rfl : {} = since := Except.ok.inj read
    exact ⟨response, next, done, read_next,
      passes_iff.mpr ⟨rfl, 0, event, Nat.le_refl 0, at_first, seen⟩⟩
  · obtain ⟨page, paged⟩ := exists_page_founded .forward (some 1)
    refine ⟨page, paged, fun passes => ?_⟩
    have sized := (turned host lobby none none .forward (some 1) page paged).mp passes
    exact absurd sized.1 Nat.one_ne_zero

/-- The configuration is accepted, but whoever syncs passes over an event, and so does whoever asks
for a page of size zero, in either direction. -/
theorem exists_passed_over :
    sizeless.validate = .ok sizeless ∧
    (∃ response next, (founded.sync stopped host none (some 0)).1 = .ok (.done response) ∧
      founded.since (some response.nextBatch) = .ok next ∧
      founded.PassesOver (fun index => 0 ≤ index ∧ index < next.messages) (founded.CanSee host)
        response.events) ∧
    ∀ direction, ∃ page, founded.page host lobby none none direction (some 0) = .ok page ∧
      founded.PassesOver (direction.Between page.start page.stop)
        (fun event => event.room = some lobby ∧ founded.CanSee host event) page.events := by
  have sound : founded.IsSound :=
    (changes_run _ _).grows.sound (isSound_ofConfig sizeless none)
  obtain ⟨event, at_first, in_room, seen⟩ := exists_event_founded
  refine ⟨by decide, ?_, ?_⟩
  · obtain ⟨response, collected⟩ := exists_collect_founded
    refine ⟨response, _, sync_without_wait rfl collected, since_nextBatch collected, ?_⟩
    rw [events_of_collect collected]
    exact (sound.passesOver_missedEvents_iff host 0).mpr
      ⟨rfl, 0, event, Nat.le_refl 0, at_first, seen⟩
  · intro direction
    obtain ⟨page, paged⟩ := exists_page_founded direction (some 0)
    refine ⟨page, paged, (sound.passesOver_page_iff paged).mpr ⟨rfl, 0, event, ?_⟩⟩
    -- The timeline holds the two events that make a room, and the first lies between its ends.
    have inside : direction.Between (founded.nearBound direction none)
        (founded.farBound direction none) 0 := by
      cases direction <;> exact ⟨Nat.le_refl 0, by decide +kernel⟩
    exact ⟨inside, at_first, in_room, seen⟩

end Sizeless

end Hub

end ChatFeed
