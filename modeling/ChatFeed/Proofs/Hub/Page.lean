import ChatFeed.Hub.Pages
import ChatFeed.Proofs.Hub.Permanence

/-!
# What a page shows

A page shows a stretch of a room's timeline, from the bound at which it was asked for to the bound
at which it ends, in the order of paging and without a gap. It is filled before the events of other
rooms are left out, but its end is that of what it was filled with, so nothing is passed over.

Both directions are treated alike: a stretch has a near bound, where paging starts, and a far one,
and of the two the lower one is part of it.

## Main definitions

* `Direction.Precedes`, `Direction.Between`: the order of paging, and the indices between bounds
* `Hub.IsShown`: the events of a room that a reader is shown
* `Hub.Covers`: a list is what is shown between two bounds
* `Hub.Fills`: a page shows its part of a window, and leaves it exhausted or goes on in it
* `Hub.Reaches`: what is shown goes up to where another page can follow

## Main results

* `Hub.pageBounds_eq_ok_iff`: which bounds are accepted
* `Hub.IsSound.exists_page`: a page fills its window
* `Hub.Reaches.append`, `Hub.Reaches.changes`: the next page goes on, whatever is done meanwhile
-/

namespace ChatFeed

namespace Direction

/-- Whether `a` comes before `b` when paging in the direction. -/
def Precedes : Direction → Nat → Nat → Prop
  | forward, a, b => a < b
  | backward, a, b => b < a

/-- Whether an index lies between two bounds. -/
def Between : Direction → Nat → Nat → Nat → Prop
  | forward, near, far, index => near ≤ index ∧ index < far
  | backward, near, far, index => far ≤ index ∧ index < near

/-- The near bound of a window. Backward it is cut to the end of the timeline. -/
def entry : Direction → Nat → Nat → Nat
  | forward, near, _ => near
  | backward, near, latest => min near latest

/-- The far bound of a window. Forward it is cut to the end of the timeline. -/
def exit : Direction → Nat → Nat → Nat
  | forward, far, latest => min far latest
  | backward, far, _ => far

/-- The bound right beyond an index. -/
def beyond : Direction → Nat → Nat
  | forward, index => index + 1
  | backward, index => index

/-- The bound at which a window ends, or at which it was asked for if it would end before that. -/
def close : Direction → Nat → Nat → Nat → Nat
  | forward, near, far, latest => max (min far latest) near
  | backward, _, far, _ => far

theorem Precedes.asymm {direction : Direction} {a b : Nat} (before : direction.Precedes a b) :
    ¬direction.Precedes b a := by
  cases direction <;> exact Nat.lt_asymm before

variable {direction : Direction} {near far latest index : Nat}

/-- Bounds that follow one another divide what is between the outer two. -/
theorem between_iff_or {mid : Nat} (onward : ¬direction.Precedes mid near)
    (further : ¬direction.Precedes far mid) : direction.Between near far index ↔
      direction.Between near mid index ∨ direction.Between mid far index := by
  cases direction with
  | forward =>
    simp only [Between, Precedes] at onward further ⊢
    omega
  | backward =>
    simp only [Between, Precedes] at onward further ⊢
    omega

/-- A window up to an index in it is the part of the window that is not beyond the index. -/
theorem between_beyond_iff {last : Nat}
    (inside : direction.Between (direction.entry near latest) (direction.exit far latest) last) :
    direction.Between (direction.entry near latest) (direction.beyond last) index ↔
      direction.Between (direction.entry near latest) (direction.exit far latest) index ∧
        ¬direction.Precedes last index := by
  cases direction with
  | forward =>
    simp only [Between, entry, exit, beyond, Precedes] at inside ⊢
    omega
  | backward =>
    simp only [Between, entry, exit, beyond, Precedes] at inside ⊢
    omega

/-- A window that is closed at the bound from which it was asked for is empty. -/
theorem between_close_iff :
    direction.Between (direction.entry near latest) (direction.close near far latest) index ↔
      direction.Between (direction.entry near latest) (direction.exit far latest) index := by
  cases direction with
  | forward =>
    simp only [Between, entry, exit, close]
    omega
  | backward => rfl

end Direction

namespace Hub

variable {hub : Hub} {user : UserId} {room : RoomId} {direction : Direction} {near far : Nat}

/-! ### Bounds -/

/-- The near bound of a page that is asked for. -/
def nearBound (hub : Hub) (direction : Direction) (start : Option Nat) : Nat :=
  start.getD (match direction with
    | .forward => 0
    | .backward => hub.messageCounter.current)

/-- The far bound of a page that is asked for. -/
def farBound (hub : Hub) (direction : Direction) (stop : Option Nat) : Nat :=
  stop.getD (match direction with
    | .forward => hub.messageCounter.current
    | .backward => 0)

/-- Bounds are accepted unless they are the wrong way round. -/
theorem pageBounds_eq_ok_iff {start stop : Option Nat} :
    hub.pageBounds direction start stop = .ok (near, far) ↔
      hub.nearBound direction start = near ∧ hub.farBound direction stop = far ∧
        ¬direction.Precedes far near := by
  have refused (crossed : direction.Precedes (hub.farBound direction stop)
      (hub.nearBound direction start)) : ∃ e, hub.pageBounds direction start stop = .error e := by
    cases direction <;> exact ⟨_, if_pos crossed⟩
  have taken (in_order : ¬direction.Precedes (hub.farBound direction stop)
      (hub.nearBound direction start)) : hub.pageBounds direction start stop =
      .ok (hub.nearBound direction start, hub.farBound direction stop) := by
    cases direction <;> exact if_neg in_order
  constructor
  · intro accepted
    by_cases crossed : direction.Precedes (hub.farBound direction stop)
        (hub.nearBound direction start)
    · obtain ⟨e, error⟩ := refused crossed
      rw [error] at accepted
      contradiction
    · rw [taken crossed, Except.ok.injEq, Prod.mk.injEq] at accepted
      obtain ⟨rfl, rfl⟩ := accepted
      exact ⟨rfl, rfl, crossed⟩
  · rintro ⟨rfl, rfl, in_order⟩
    exact taken in_order

/-- A bound that a window reaches to is within the window that is asked for later. -/
theorem Grows.within {later : Hub} (grows : hub.Grows later) {stop : Option Nat} {bound : Nat}
    (within : ¬direction.Precedes (hub.farBound direction stop) bound) :
    ¬direction.Precedes (later.farBound direction stop) bound := by
  cases direction with
  | backward => exact within
  | forward =>
    cases stop with
    | some stop => exact within
    -- The far bound is the end of the timeline, which only moves on.
    | none => exact fun beyond => within (Nat.lt_of_le_of_lt grows.messages beyond)

/-! ### Stretches -/

/-- Whether an event of the timeline is shown to a reader who pages through a room: to one who has
joined it if it is of the room, and otherwise only if it also concerns them by itself. -/
def IsShown (joined : Bool) (user : UserId) (room : RoomId) (event : Event) : Prop :=
  event.room = some room ∧ (joined = true ∨ event.extraRecipient = some user)

/-- Whether `events` is, in the order of paging, what a reader is shown between two bounds. -/
structure Covers (hub : Hub) (joined : Bool) (user : UserId) (room : RoomId)
    (direction : Direction) (near far : Nat) (events : List (Indexed Event)) : Prop where
  ordered : events.Pairwise fun a b => direction.Precedes a.index b.index
  mem_iff : ∀ index event, ⟨index, event⟩ ∈ events ↔
    direction.Between near far index ∧ hub.eventAt? index = some event ∧
      IsShown joined user room event

variable {joined : Bool} {events more : List (Indexed Event)} {mid : Nat}

theorem Covers.eq_nil (covers : hub.Covers joined user room direction near far events)
    (empty : ∀ index, ¬direction.Between near far index) : events = [] := by
  refine List.eq_nil_iff_forall_not_mem.mpr fun item mem => ?_
  exact empty item.index ((covers.mem_iff item.index item.item).mp mem).1

/-- Two stretches that meet are one. -/
theorem Covers.append (first : hub.Covers joined user room direction near mid events)
    (second : hub.Covers joined user room direction mid far more)
    (onward : ¬direction.Precedes mid near) (further : ¬direction.Precedes far mid) :
    hub.Covers joined user room direction near far (events ++ more) where
  ordered := by
    refine List.pairwise_append.mpr ⟨first.ordered, second.ordered, ?_⟩
    intro a mem_a b mem_b
    have before := ((first.mem_iff a.index a.item).mp mem_a).1
    have after := ((second.mem_iff b.index b.item).mp mem_b).1
    cases direction with
    | forward => exact Nat.lt_of_lt_of_le before.2 after.1
    | backward => exact Nat.lt_of_lt_of_le after.2 before.1
  mem_iff index event := by
    rw [List.mem_append, first.mem_iff, second.mem_iff, Direction.between_iff_or onward further,
      or_and_right]

/-- Where the timeline is the same, so is what is shown of it. -/
theorem Covers.of_eventAt?_eq {later : Hub}
    (covers : hub.Covers joined user room direction near far events)
    (same : ∀ index, direction.Between near far index → later.eventAt? index = hub.eventAt? index) :
    later.Covers joined user room direction near far events where
  ordered := covers.ordered
  mem_iff index event := by
    rw [covers.mem_iff]
    refine and_congr_right fun between => ?_
    rw [same index between]

/-! ### Windows -/

/-- What a page can be filled with: for a reader who has joined the room all that is in it, and for
others all that concerns them by itself, in whatever room. -/
def viewed (hub : Hub) (joined : Bool) (user : UserId) (room : RoomId) (low high : Nat) :
    List (Indexed Event) :=
  hub.messages.window (if joined then none else some user) (if joined then [room] else []) low high

/-- All of that, in the order of paging. -/
def unpaged (hub : Hub) (joined : Bool) (user : UserId) (room : RoomId) (direction : Direction)
    (near far : Nat) : List (Indexed Event) :=
  match direction with
  | .forward => hub.viewed joined user room near (min far hub.messageCounter.current)
  | .backward => (hub.viewed joined user room far (min near hub.messageCounter.current)).reverse

theorem IsSound.mem_viewed_iff (sound : hub.IsSound) {low high index : Nat} {event : Event} :
    ⟨index, event⟩ ∈ hub.viewed joined user room low high ↔
      (low ≤ index ∧ index < high) ∧ hub.eventAt? index = some event ∧
        if joined = true then event.room = some room else event.extraRecipient = some user := by
  have visible {posting : Posting} (found : hub.messages.postings.get? index = some posting) :
      Timeline.isVisible (if joined then none else some user) (if joined then [room] else [])
          posting = true ↔
        if joined = true then posting.event.room = some room
        else posting.event.extraRecipient = some user := by
    rw [sound.timeline.room index posting found, sound.timeline.extraRecipient index posting found]
    cases joined <;> simp [Timeline.isVisible]
  rw [viewed, sound.timeline.mem_window_iff, eventAt?, Option.map_eq_some_iff]
  constructor
  · rintro ⟨above, below, posting, found, rfl, seen⟩
    exact ⟨⟨above, below⟩, ⟨posting, found, rfl⟩, (visible found).mp seen⟩
  · rintro ⟨⟨above, below⟩, ⟨posting, found, rfl⟩, shown⟩
    exact ⟨above, below, posting, found, rfl, (visible found).mpr shown⟩

theorem IsSound.mem_unpaged_iff (sound : hub.IsSound) {index : Nat} {event : Event} :
    ⟨index, event⟩ ∈ hub.unpaged joined user room direction near far ↔
      direction.Between (direction.entry near hub.messageCounter.current)
          (direction.exit far hub.messageCounter.current) index ∧
        hub.eventAt? index = some event ∧
        if joined = true then event.room = some room else event.extraRecipient = some user := by
  cases direction with
  | forward => exact sound.mem_viewed_iff
  | backward => exact List.mem_reverse.trans sound.mem_viewed_iff

theorem IsSound.ordered_unpaged (sound : hub.IsSound) :
    (hub.unpaged joined user room direction near far).Pairwise fun a b =>
      direction.Precedes a.index b.index := by
  cases direction with
  | forward => exact sound.timeline.ascending_window
  | backward => exact List.pairwise_reverse.mpr sound.timeline.ascending_window

/-- A part of what a page can be filled with, up to some index, shows a stretch of the room once
the events of other rooms are left out. -/
theorem IsSound.covers_filter (sound : hub.IsSound) {stop : Nat} {visited : List (Indexed Event)}
    (kept : Nat → Prop)
    (sublist : visited.Sublist (hub.unpaged joined user room direction near far))
    (mem_iff : ∀ item, item ∈ visited ↔
      item ∈ hub.unpaged joined user room direction near far ∧ kept item.index)
    (between : ∀ index, direction.Between (direction.entry near hub.messageCounter.current) stop
        index ↔
      direction.Between (direction.entry near hub.messageCounter.current)
        (direction.exit far hub.messageCounter.current) index ∧ kept index) :
    hub.Covers joined user room direction (direction.entry near hub.messageCounter.current) stop
      (visited.filter fun event => event.item.room = some room) where
  ordered := (sound.ordered_unpaged.sublist sublist).filter _
  mem_iff index event := by
    have shown : IsShown joined user room event ↔
        (if joined = true then event.room = some room else event.extraRecipient = some user) ∧
          event.room = some room := by
      cases joined <;> simp [IsShown, and_comm]
    -- Both sides are the same four conditions, in another order.
    rw [List.mem_filter, mem_iff, sound.mem_unpaged_iff, between, shown, decide_eq_true_eq]
    tauto

/-! ### Pages -/

/-- The events that a page is filled with. -/
def visited (hub : Hub) (joined : Bool) (user : UserId) (room : RoomId) (direction : Direction)
    (near far size : Nat) : List (Indexed Event) :=
  (hub.unpaged joined user room direction near far).take size

theorem range_eq_take (viewer : Option UserId) (rooms : List RoomId) (size : Nat)
    (in_order : ¬direction.Precedes far near) :
    hub.messages.range hub.messageCounter viewer rooms near far size =
      (match direction with
        | .forward =>
          hub.messages.window viewer rooms near (min far hub.messageCounter.current)
        | .backward =>
          (hub.messages.window viewer rooms far (min near hub.messageCounter.current)).reverse).take
        size := by
  cases direction with
  | forward => exact if_neg in_order
  | backward =>
    by_cases apart : far < near
    · exact if_pos apart
    -- A window between equal bounds is empty, whichever way it is read.
    · have same : far = near := Nat.le_antisymm (Nat.le_of_not_lt in_order) (Nat.le_of_not_lt apart)
      subst same
      rw [Timeline.range, if_neg apart, Timeline.window_eq_nil (Nat.min_le_left _ _)]
      rfl

/-- The page that a reader gets for bounds that are accepted. -/
theorem page_eq {start stop limit : Option Nat} (found : hub.rooms.hasRoom room = true)
    (standing : hub.rooms.members.isMember room user = joined)
    (accepted : hub.pageBounds direction start stop = .ok (near, far)) :
    hub.page user room start stop direction limit =
      .ok
        { events := (hub.visited joined user room direction near far
            (hub.limits.limit limit)).filter fun event => event.item.room = some room
          start := near
          stop := hub.pageEnd direction near far (hub.limits.limit limit)
            (hub.visited joined user room direction near far (hub.limits.limit limit)) } := by
  obtain ⟨-, -, in_order⟩ := pageBounds_eq_ok_iff.mp accepted
  have filled : (if hub.rooms.members.isMember room user then
        hub.messages.range hub.messageCounter none [room] near far (hub.limits.limit limit)
      else hub.messages.range hub.messageCounter (some user) [] near far
        (hub.limits.limit limit)) =
      hub.visited joined user room direction near far (hub.limits.limit limit) := by
    rw [standing, range_eq_take _ _ _ in_order, range_eq_take _ _ _ in_order]
    cases joined <;> cases direction <;> rfl
  rw [page, found, accepted]
  simp only [filled]
  rfl

theorem pageEnd_of_full {size : Nat} {visited : List (Indexed Event)} {last : Indexed Event}
    (full : visited.length = size) (is_last : visited.getLast? = some last) :
    hub.pageEnd direction near far size visited = direction.beyond last.index := by
  cases direction <;> simp [pageEnd, Direction.beyond, is_last, full]

theorem pageEnd_of_short {size : Nat} {visited : List (Indexed Event)}
    (short : visited.length ≠ size) :
    hub.pageEnd direction near far size visited =
      direction.close near far hub.messageCounter.current := by
  cases last : visited.getLast? <;> cases direction <;>
    simp [pageEnd, Direction.close, last, short]

/-- Whether what is shown from `entry` on goes up to `next`, so that another page can follow. -/
structure Reaches (hub : Hub) (joined : Bool) (user : UserId) (room : RoomId)
    (direction : Direction) (entry far next : Nat) (events : List (Indexed Event)) : Prop where
  /-- The next page starts further on, unless backward there was nothing to show at all. -/
  entered : ¬direction.Precedes next entry ∨ direction = .backward ∧ next = far
  /-- Nothing that is entered later comes between the bounds. -/
  settled : ∀ index, direction.Between entry next index → index < hub.messageCounter.current
  covers : hub.Covers joined user room direction entry next events

/-- Whether a page shows its part of a window, ends within the window, and leaves the window
exhausted or goes on in it. -/
structure Fills (hub : Hub) (joined : Bool) (user : UserId) (room : RoomId) (direction : Direction)
    (near far : Nat) (page : Page) : Prop where
  start : page.start = near
  onward : ¬direction.Precedes page.stop near
  within : ¬direction.Precedes far page.stop
  advances : ¬direction.Precedes page.stop (direction.exit far hub.messageCounter.current) ∨
    direction.Precedes near page.stop
  reaches : hub.Reaches joined user room direction
    (direction.entry near hub.messageCounter.current) far page.stop page.events

/-- A full page ends at its last event, whether that is of the room or not. -/
theorem IsSound.fills_of_full (sound : hub.IsSound) {size : Nat} {last : Indexed Event}
    (is_last : (hub.visited joined user room direction near far size).getLast? = some last) :
    hub.Fills joined user room direction near far
      ⟨(hub.visited joined user room direction near far size).filter
        fun event => event.item.room = some room, near, direction.beyond last.index⟩ := by
  have last_mem : ⟨last.index, last.item⟩ ∈ hub.unpaged joined user room direction near far :=
    List.mem_of_mem_take (List.mem_of_getLast? is_last)
  have inside := (sound.mem_unpaged_iff.mp last_mem).1
  have mem_iff (item : Indexed Event) :
      item ∈ hub.visited joined user room direction near far size ↔
        item ∈ hub.unpaged joined user room direction near far ∧
          ¬direction.Precedes last.index item.index :=
    mem_take_iff_of_pairwise (fun _ _ => Direction.Precedes.asymm) sound.ordered_unpaged is_last
  have covers := sound.covers_filter (¬direction.Precedes last.index ·) (List.take_sublist _ _)
    mem_iff fun index => Direction.between_beyond_iff inside
  clear mem_iff
  -- What is left are comparisons of bounds, in which the last event lies inside the window.
  refine ⟨rfl, ?_, ?_, ?_, ?_, ?_, covers⟩
  all_goals
    cases direction <;>
      simp only [Direction.Between, Direction.entry, Direction.exit, Direction.beyond,
        Direction.Precedes, reduceCtorEq, false_and, true_and, or_false] at * <;>
      omega

/-- A page that is not full ends with its window. -/
theorem IsSound.fills_of_short (sound : hub.IsSound) {size : Nat}
    (in_order : ¬direction.Precedes far near)
    (short : (hub.visited joined user room direction near far size).length ≠ size) :
    hub.Fills joined user room direction near far
      ⟨(hub.visited joined user room direction near far size).filter
        fun event => event.item.room = some room, near,
        direction.close near far hub.messageCounter.current⟩ := by
  have everything : hub.visited joined user room direction near far size =
      hub.unpaged joined user room direction near far := take_eq_self_of_length_ne short
  have mem_iff (item : Indexed Event) :
      item ∈ hub.unpaged joined user room direction near far ↔
        item ∈ hub.unpaged joined user room direction near far ∧ True :=
    (and_iff_left trivial).symm
  have covers := sound.covers_filter (fun _ => True) (List.Sublist.refl _) mem_iff fun index =>
    Direction.between_close_iff.trans (and_iff_left trivial).symm
  clear mem_iff
  rw [everything]
  -- What is left are comparisons of bounds that are the right way round.
  refine ⟨rfl, ?_, ?_, ?_, ?_, ?_, covers⟩
  all_goals
    cases direction <;>
      simp only [Direction.Between, Direction.entry, Direction.exit, Direction.close,
        Direction.Precedes, reduceCtorEq, false_and, and_self, or_false, or_true] at * <;>
      omega

/-- A page of a room that exists, for bounds that are accepted, fills its window. -/
theorem IsSound.exists_page (sound : hub.IsSound) {start stop limit : Option Nat}
    (found : hub.rooms.hasRoom room = true)
    (standing : hub.rooms.members.isMember room user = joined)
    (accepted : hub.pageBounds direction start stop = .ok (near, far))
    (sized : 0 < hub.limits.limit limit) :
    ∃ page, hub.page user room start stop direction limit = .ok page ∧
      hub.Fills joined user room direction near far page := by
  obtain ⟨-, -, in_order⟩ := pageBounds_eq_ok_iff.mp accepted
  refine ⟨_, page_eq found standing accepted, ?_⟩
  generalize hub.limits.limit limit = size at sized
  by_cases full : (hub.visited joined user room direction near far size).length = size
  · cases is_last : (hub.visited joined user room direction near far size).getLast? with
    | none =>
      rw [List.getLast?_eq_none_iff.mp is_last] at full
      exact absurd full (Nat.ne_of_lt sized)
    | some last =>
      rw [pageEnd_of_full full is_last]
      exact sound.fills_of_full is_last
  · rw [pageEnd_of_short full]
    exact sound.fills_of_short in_order full

/-- A page that is asked for from where the last one ended goes on from there. -/
theorem Reaches.append {entry next : Nat} {page : Page}
    (reaches : hub.Reaches joined user room direction entry far next events)
    (cut : direction = .backward → entry ≤ hub.messageCounter.current)
    (fills : hub.Fills joined user room direction next far page) :
    hub.Reaches joined user room direction entry far page.stop (events ++ page.events) := by
  obtain ⟨entered, settled, covers⟩ := fills.reaches
  rcases reaches.entered with reached | ⟨rfl, rfl⟩
  · have same_entry : direction.entry next hub.messageCounter.current = next := by
      cases direction with
      | forward => rfl
      | backward => exact Nat.min_eq_left (Nat.le_trans (Nat.le_of_not_lt reached) (cut rfl))
    rw [same_entry] at settled covers
    constructor
    case entered =>
      left
      have onward := fills.onward
      cases direction <;> simp only [Direction.Precedes] at reached onward ⊢ <;> omega
    case settled =>
      intro index between
      rcases (Direction.between_iff_or reached fills.onward).mp between with before | after
      · exact reaches.settled index before
      · exact settled index after
    case covers => exact reaches.covers.append covers reached fills.onward
  -- Backward the next page starts at the far bound only if there is nothing left to show.
  · have stays : page.stop = next :=
      Nat.le_antisymm (Nat.le_of_not_lt fills.onward) (Nat.le_of_not_lt fills.within)
    have nothing : page.events = [] := by
      refine covers.eq_nil fun index between => ?_
      simp only [Direction.Between, Direction.entry] at between
      omega
    rw [stays, nothing, List.append_nil]
    exact reaches

/-- No addition changes what has been shown. -/
theorem Reaches.additions {later : Hub} {stop : Option Nat} {entry next : Nat}
    (reaches :
      hub.Reaches joined user room direction entry (hub.farBound direction stop) next events)
    (additions : hub.Additions later) :
    later.Reaches joined user room direction entry (later.farBound direction stop) next events where
  entered := by
    refine reaches.entered.imp_right ?_
    rintro ⟨rfl, at_far⟩
    exact ⟨rfl, at_far⟩
  settled index between :=
    Nat.lt_of_lt_of_le (reaches.settled index between) additions.changes.grows.messages
  covers := reaches.covers.of_eventAt?_eq fun index between =>
    additions.eventAt?_eq (reaches.settled index between)

end Hub

end ChatFeed
