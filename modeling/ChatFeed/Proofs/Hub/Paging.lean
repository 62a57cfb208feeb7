import ChatFeed.Proofs.Hub.Page
import ChatFeed.Proofs.Hub.Reader

/-!
# Paging through a room

A reader asks for one page after another, each from where the last one ended, while anything else
may be done to the hub between the pages. As long as it does not change whether the reader has
joined the room, and no two events have the same identity, the pages together show one stretch of
the room's timeline, in the order of paging and without a gap, even if some of them are empty
because they were filled with the events of other rooms.

## Main definitions

* `Paging`: what is paged through
* `Pager`, `Turn`, `Pager.run`: a reader who pages, and what can happen meanwhile
* `Pager.Tracks`: the pages so far show the stretch up to where the next one starts

## Main results

* `Pager.Tracks.other`, `Pager.Tracks.page`: whatever happens, this remains so
* `Pager.pages_cover_window`: what a reader is shown by paging
-/

namespace ChatFeed

/-- What a reader pages through: a room, in a direction, up to a bound. -/
structure Paging where
  user : UserId
  room : RoomId
  direction : Direction
  stop : Option Nat

/-- A call for a page: the hub it was made to, and what it gave. -/
structure Call where
  hub : Hub
  outcome : Except HubError Page

/-- A reader who pages, and the hub they read from. -/
structure Pager where
  hub : Hub
  /-- The bound from which the next page is asked for. -/
  start : Option Nat
  /-- The calls made, oldest first. -/
  calls : List Call := []

/-- What can happen while a reader pages: anything that others do, and the next page. -/
inductive Turn where
  | other (operation : Hub.Operation)
  | page (limit : Option Nat)

/-- What others do in a turn, if it is theirs. -/
def Turn.operation? : Turn → Option Hub.Operation
  | other operation => some operation
  | page _ => none

namespace Pager

/-- The pager after a turn. Each page is asked for from where the one before ended. -/
def step (paging : Paging) (pager : Pager) : Turn → Pager
  | .other operation => { pager with hub := pager.hub.perform operation }
  | .page limit =>
    let outcome :=
      pager.hub.page paging.user paging.room pager.start paging.stop paging.direction limit
    { pager with
      start :=
        match outcome with
        | .ok page => some page.stop
        | .error _ => pager.start
      calls := pager.calls ++ [⟨pager.hub, outcome⟩] }

/-- The pager after a sequence of turns. -/
def run (paging : Paging) (pager : Pager) (turns : List Turn) : Pager :=
  turns.foldl (step paging) pager

variable {paging : Paging} {pager : Pager} {first : Hub} {joined : Bool} {near next : Nat}
  {pages : List Page} {ids : List EventId}

theorem mem_calls_run {call : Call} (mem : call ∈ pager.calls) (turns : List Turn) :
    call ∈ (pager.run paging turns).calls := by
  induction turns generalizing pager with
  | nil => exact mem
  | cons turn rest ih =>
    apply ih
    cases turn with
    | other operation => exact mem
    | page limit => exact List.mem_append_left _ mem

/-- Whether the pages so far show the stretch from `near` up to `next`, where the next page starts,
when the first of them was asked for in `first`, and the events of the timeline have identities
among `ids`. -/
structure Tracks (pager : Pager) (paging : Paging) (first : Hub) (joined : Bool) (near : Nat)
    (pages : List Page) (next : Nat) (ids : List EventId) : Prop where
  only : pager.hub.HasOnly ids
  grows : first.Grows pager.hub
  found : pager.hub.rooms.hasRoom paging.room = true
  start : pager.start = some next
  outcomes : pager.calls.map (·.outcome) = pages.map .ok
  chained : pages.map (·.start) ++ [next] = near :: pages.map (·.stop)
  /-- Each page leaves its window exhausted or goes on in it. -/
  advances : ∀ call ∈ pager.calls, ∀ page, call.outcome = .ok page →
    ¬paging.direction.Precedes page.stop
        (paging.direction.exit (call.hub.farBound paging.direction paging.stop)
          call.hub.messageCounter.current) ∨
      paging.direction.Precedes page.start page.stop
  within : ¬paging.direction.Precedes (pager.hub.farBound paging.direction paging.stop) next
  reaches : pager.hub.Reaches joined paging.user paging.room paging.direction
    (paging.direction.entry near first.messageCounter.current)
    (pager.hub.farBound paging.direction paging.stop) next (pages.flatMap (·.events))

/-- The first page. -/
theorem tracks_first {start limit : Option Nat} {far : Nat} (only : first.HasOnly ids)
    (found : first.rooms.hasRoom paging.room = true)
    (standing : first.rooms.members.isMember paging.room paging.user = joined)
    (accepted : first.pageBounds paging.direction start paging.stop = .ok (near, far))
    (sized : 0 < first.limits.limit limit) :
    ∃ page, (step paging ⟨first, start, []⟩ (.page limit)).Tracks paging first joined near [page]
      page.stop ids := by
  obtain ⟨page, given, fills⟩ := only.sound.exists_page found standing accepted sized
  obtain ⟨-, rfl, -⟩ := Hub.pageBounds_eq_ok_iff.mp accepted
  refine ⟨page, ?_⟩
  constructor
  case only => exact only
  case grows => exact .refl first
  case found => exact found
  case start => rw [step, given]
  case outcomes => rw [step, given]; rfl
  case chained => rw [List.map_singleton, fills.start]; rfl
  case advances =>
    intro call mem given_page same
    rw [step, given, List.nil_append, List.mem_singleton] at mem
    subst mem
    obtain rfl := Except.ok.inj same
    rw [fills.start]
    exact fills.advances
  case within => exact fills.within
  case reaches =>
    rw [List.flatMap_singleton]
    exact fills.reaches

namespace Tracks

/-- What others do to the hub makes no difference. -/
theorem other (tracks : pager.Tracks paging first joined near pages next ids)
    {operation : Hub.Operation} (distinct : (ids ++ operation.made).Nodup) :
    (pager.step paging (.other operation)).Tracks paging first joined near pages next
      (ids ++ operation.made) := by
  have makes := pager.hub.makes_perform operation
  have changes := pager.hub.changes_perform operation
  have grows := pager.hub.grows_perform operation
  constructor
  case only => exact makes.hasOnly ids tracks.only
  case grows => exact tracks.grows.trans grows
  case found => exact changes.preserve (fun _ _ => Hub.Change.hasRoom) tracks.found
  case start => exact tracks.start
  case outcomes => exact tracks.outcomes
  case chained => exact tracks.chained
  case advances => exact tracks.advances
  case within => exact grows.within tracks.within
  case reaches => exact tracks.reaches.additions (makes.additions ids tracks.only distinct)

/-- The next page. -/
theorem page {limit : Option Nat} (tracks : pager.Tracks paging first joined near pages next ids)
    (standing : pager.hub.rooms.members.isMember paging.room paging.user = joined)
    (sized : 0 < pager.hub.limits.limit limit) :
    ∃ page, (pager.step paging (.page limit)).Tracks paging first joined near (pages ++ [page])
      page.stop ids := by
  have accepted : pager.hub.pageBounds paging.direction pager.start paging.stop =
      .ok (next, pager.hub.farBound paging.direction paging.stop) := by
    rw [tracks.start]
    exact Hub.pageBounds_eq_ok_iff.mpr ⟨rfl, rfl, tracks.within⟩
  obtain ⟨page, given, fills⟩ :=
    tracks.only.sound.exists_page tracks.found standing accepted sized
  have stepped : pager.step paging (.page limit) =
      ⟨pager.hub, some page.stop, pager.calls ++ [⟨pager.hub, .ok page⟩]⟩ := by
    rw [step, given]
  refine ⟨page, ?_⟩
  rw [stepped]
  constructor
  case only => exact tracks.only
  case grows => exact tracks.grows
  case found => exact tracks.found
  case start => rfl
  case outcomes =>
    rw [List.map_append, tracks.outcomes, List.map_append]
    rfl
  case chained =>
    rw [List.map_append, List.map_singleton, fills.start, tracks.chained, List.map_append]
    rfl
  case advances =>
    intro call mem given_page same
    rcases List.mem_append.mp mem with earlier | last
    · exact tracks.advances call earlier given_page same
    · rw [List.mem_singleton] at last
      subst last
      obtain rfl := Except.ok.inj same
      rw [fills.start]
      exact fills.advances
  case within => exact fills.within
  case reaches =>
    rw [List.flatMap_append, List.flatMap_singleton]
    -- Backward paging started below the end of the timeline, and the end only moves on.
    refine tracks.reaches.append (fun backward => ?_) fills
    rw [backward]
    exact Nat.le_trans (Nat.min_le_right _ _) tracks.grows.messages

/-- So it remains however the reader pages. -/
theorem run (tracks : pager.Tracks paging first joined near pages next ids) (turns : List Turn)
    (distinct : (ids ++ (turns.filterMap Turn.operation?).flatMap Hub.Operation.made).Nodup)
    (sized : ∀ limit, Turn.page limit ∈ turns → 0 < first.limits.limit limit)
    (standing : ∀ call ∈ (pager.run paging turns).calls,
      call.hub.rooms.members.isMember paging.room paging.user = joined) :
    ∃ pages next ids, (pager.run paging turns).Tracks paging first joined near pages next ids := by
  induction turns generalizing pager pages next ids with
  | nil => exact ⟨pages, next, ids, tracks⟩
  | cons turn rest ih =>
    have sized_rest (limit : Option Nat) (mem : Turn.page limit ∈ rest) :=
      sized limit (List.mem_cons_of_mem _ mem)
    cases turn with
    | other operation =>
      -- The identities it is given are new to all that the reader has seen so far.
      have others : (Turn.other operation :: rest).filterMap Turn.operation? =
          operation :: rest.filterMap Turn.operation? := rfl
      rw [others, List.flatMap_cons, ← List.append_assoc] at distinct
      have now_distinct := distinct.sublist (List.sublist_append_left _ _)
      exact ih (tracks.other now_distinct) distinct sized_rest standing
    | page limit =>
      -- The call for this page is among those made in the end.
      have made : ⟨pager.hub, pager.hub.page paging.user paging.room pager.start paging.stop
          paging.direction limit⟩ ∈ ((pager.step paging (.page limit)).run paging rest).calls :=
        mem_calls_run (List.mem_append_right _ (List.mem_singleton_self _)) rest
      have sized_now : 0 < pager.hub.limits.limit limit := by
        rw [tracks.grows.limits]
        exact sized limit List.mem_cons_self
      obtain ⟨page, still_tracks⟩ := tracks.page (standing _ made) sized_now
      exact ih still_tracks distinct sized_rest standing

end Tracks

/-- A reader pages through a room that exists, from bounds that are accepted, while anything else
is done to the hub that does not change whether they have joined the room, and no two events have
the same identity. They get every page they ask for, each from where the one before ended, and each
page leaves its window exhausted or ends further on. Together the pages show, each once and in the
order of paging, the events of the room that the reader may see, from the bound of the first page up
to the end of the last. -/
theorem pages_cover_window (config : Config) (sink : Option Sink) (operations : List Hub.Operation)
    (paging : Paging) (start limit : Option Nat) (turns : List Turn) (near far : Nat)
    (found : ((Hub.ofConfig config sink).run operations).rooms.hasRoom paging.room = true)
    (accepted : ((Hub.ofConfig config sink).run operations).pageBounds paging.direction start
      paging.stop = .ok (near, far))
    (distinct : Hub.MakeDistinct (operations ++ turns.filterMap Turn.operation?))
    (sized : ∀ limit', Turn.page limit' ∈ Turn.page limit :: turns → 0 < config.limits.limit limit')
    (standing : ∀ call ∈ (run paging ⟨(Hub.ofConfig config sink).run operations, start, []⟩
        (.page limit :: turns)).calls,
      call.hub.rooms.members.isMember paging.room paging.user =
        ((Hub.ofConfig config sink).run operations).rooms.members.isMember paging.room
          paging.user) :
    let hub := (Hub.ofConfig config sink).run operations
    let pager := run paging ⟨hub, start, []⟩ (.page limit :: turns)
    ∃ (pages : List Page) (last : Nat),
      pager.calls.map (·.outcome) = pages.map .ok ∧
      pages.map (·.start) ++ [last] = near :: pages.map (·.stop) ∧
      (∀ call ∈ pager.calls, ∀ page, call.outcome = .ok page →
        ¬paging.direction.Precedes page.stop
            (paging.direction.exit (call.hub.farBound paging.direction paging.stop)
              call.hub.messageCounter.current) ∨
          paging.direction.Precedes page.start page.stop) ∧
      pager.hub.Covers (hub.rooms.members.isMember paging.room paging.user) paging.user paging.room
        paging.direction (paging.direction.entry near hub.messageCounter.current) last
        (pages.flatMap (·.events)) := by
  intro hub pager
  have only := Hub.hasOnly_run config sink operations
  rw [Hub.MakeDistinct, List.flatMap_append] at distinct
  have limits : hub.limits = config.limits :=
    (Hub.changes_run (Hub.ofConfig config sink) operations).grows.limits
  have sized_hub (limit' : Option Nat) (mem : Turn.page limit' ∈ Turn.page limit :: turns) :
      0 < hub.limits.limit limit' := by
    rw [limits]
    exact sized limit' mem
  obtain ⟨page, tracks⟩ :=
    tracks_first only found rfl accepted (sized_hub limit List.mem_cons_self)
  obtain ⟨pages, last, _, tracks⟩ := tracks.run turns distinct
    (fun limit' mem => sized_hub limit' (List.mem_cons_of_mem _ mem)) standing
  exact ⟨pages, last, tracks.outcomes, tracks.chained, tracks.advances, tracks.reaches.covers⟩

section Invited

open Reader

/-- Another room. -/
def study : RoomId := Id.ofParts .room "study" "example.org"

/-- A guest is invited to a room, and to another one after that. -/
def invitations : List Hub.Operation :=
  [.createRoom (drawn 0) (drawn 1) lobby host,
    .setState (drawn 2) host lobby (.member .invite none) guest.text,
    .createRoom (drawn 3) (drawn 4) study host,
    .setState (drawn 5) host study (.member .invite none) guest.text]

/-- The host welcomes whoever is in the room. -/
def welcome : Hub.Operation :=
  .sendMessage (drawn 6) host lobby "m.text" "welcome"

/-- The guest, who has joined neither, pages back through the first room, one event a page. -/
def lookingBack : Paging :=
  ⟨guest, lobby, .backward, none⟩

/-- The first page is filled with the other invitation and shows nothing, and the second goes on
from there. -/
theorem pages_cover_window_invited :
    let hub := (Hub.ofConfig smallPages none).run invitations
    let pager := run lookingBack ⟨hub, none, []⟩ [.page (some 1), .other welcome, .page (some 1)]
    ∃ (pages : List Page) (last : Nat),
      pager.calls.map (·.outcome) = pages.map .ok ∧
      pages.map (·.start) ++ [last] = 6 :: pages.map (·.stop) ∧
      pager.hub.Covers false guest lobby .backward 6 last (pages.flatMap (·.events)) := by
  have accepted : ((Hub.ofConfig smallPages none).run invitations).pageBounds .backward none none =
      .ok (6, 0) := by
    decide +kernel
  have found : ((Hub.ofConfig smallPages none).run invitations).rooms.hasRoom lobby = true := by
    decide +kernel
  have outside : ((Hub.ofConfig smallPages none).run invitations).rooms.members.isMember lobby
      guest = false := by
    decide +kernel
  have end_of_timeline :
      ((Hub.ofConfig smallPages none).run invitations).messageCounter.current = 6 := by
    decide +kernel
  have standing : ∀ call ∈ (run lookingBack
      ⟨(Hub.ofConfig smallPages none).run invitations, none, []⟩
      [.page (some 1), .other welcome, .page (some 1)]).calls,
      call.hub.rooms.members.isMember lobby guest = false := by
    decide +kernel
  have distinct : Hub.MakeDistinct (invitations ++
      [Turn.other welcome, .page (some 1)].filterMap Turn.operation?) := by
    decide +kernel
  have sized : ∀ limit', Turn.page limit' ∈ [.page (some 1), .other welcome, .page (some 1)] →
      0 < smallPages.limits.limit limit' := by
    intro limit' mem
    simp only [List.mem_cons, Turn.page.injEq, reduceCtorEq, List.not_mem_nil, or_false,
      false_or, or_self] at mem
    rw [mem]
    decide
  obtain ⟨pages, last, outcomes, chained, -, covers⟩ := pages_cover_window smallPages none
    invitations lookingBack none (some 1) _ 6 0 found accepted distinct sized
    (fun call mem => (standing call mem).trans outside.symm)
  refine ⟨pages, last, outcomes, chained, ?_⟩
  rw [lookingBack] at covers
  rw [outside, end_of_timeline] at covers
  exact covers

end Invited

end Pager

end ChatFeed
