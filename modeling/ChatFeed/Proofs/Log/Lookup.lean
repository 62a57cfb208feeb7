import ChatFeed.Proofs.Collection.Standing
import ChatFeed.Proofs.Log.History

/-!
# Looking up one event

An event is looked up by its identity, which leads to an index and from there to the event, and a
timeline is read by its indices, which never look at identities. Told along with what has been sent,
both come to the same: the last event sent with the identity, if it is in one of the user's rooms or
names the user. Only who asks for it by its identity and is named by it is told without any
directory.

## Main definitions

* `Timeline.visible?`: the last event sent with an identity, if a user can see it

## Main results

* `Timeline.Records.posting?_eq`: an identity leads to the last event sent with it
* `Timeline.Records.event?_eq`, `Timeline.Records.filter_range_eq`: what is looked up, and what is
  read, of one identity
* `Timeline.lookup_agrees_with_reading`: looking up and reading come to the same
-/

namespace ChatFeed.Timeline

variable {feed : Feed Timeline} {sent : List (Indexed Posting)} {posted : Indexed Posting}
  {directory : Directory} {user : UserId} {rooms : List RoomId} {id : EventId}

/-! ### What stands -/

/-- What stands in a timeline was sent last with its identity. -/
theorem Records.get?_postings_iff (records : Records feed sent) {index : Nat} {posting : Posting} :
    feed.log.postings.get? index = some posting ↔
      latest? sentId sent posting.event.id = some ⟨index, posting⟩ := by
  rw [← records.sound.sorted.mem_entries_iff, records.entries, List.mem_map]
  constructor
  · rintro ⟨posted, mem, ⟨⟩⟩
    exact of_decide_eq_true (List.mem_filter.mp mem).2
  · intro last
    exact ⟨_, List.mem_filter.mpr ⟨(mem_of_latest? last).1, decide_eq_true last⟩, rfl⟩

/-- An identity leads to the last event sent with it. -/
theorem Records.posting?_eq (records : Records feed sent) (id : EventId) :
    feed.log.posting? id = (latest? sentId sent id).map (·.item) := by
  rw [posting?]
  cases last : latest? sentId sent id with
  | some posted =>
    have named : posted.item.event.id = id := (mem_of_latest? last).2
    have stands : feed.log.postings.get? posted.index = some posted.item :=
      records.get?_postings_iff.mpr (named ▸ last)
    have leads := (records.sound.indexed id posted.index).mpr ⟨posted.item, stands, named⟩
    simp only [leads]
    exact stands
  | none =>
    cases leads : feed.log.indices.get? id with
    | none => rfl
    | some index =>
      obtain ⟨posting, stands, named⟩ := (records.sound.indexed id index).mp leads
      rw [records.get?_postings_iff, named, last] at stands
      contradiction

/-- What was settled when an event was sent is what the event says. -/
theorem Records.settled (records : Records feed sent)
    (last : latest? sentId sent id = some posted) :
    posted.item.event.room = some posted.item.room ∧
      posted.item.event.extraRecipient = posted.item.extraRecipient := by
  have named : posted.item.event.id = id := (mem_of_latest? last).2
  have stands : feed.log.postings.get? posted.index = some posted.item :=
    records.get?_postings_iff.mpr (named ▸ last)
  exact ⟨records.sound.room _ _ stands, records.sound.extraRecipient _ _ stands⟩

/-! ### Looking up and reading -/

theorem isVisible_some_iff {posting : Posting} : isVisible (some user) rooms posting = true ↔
    posting.room ∈ rooms ∨ posting.extraRecipient = some user := by
  simp [isVisible]

/-- The last event sent with an identity, if it is in one of `rooms` or concerns the user by
itself. -/
def visible? (sent : List (Indexed Posting)) (user : UserId) (rooms : List RoomId) (id : EventId) :
    Option (Indexed Event) :=
  ((latest? sentId sent id).filter fun posted => isVisible (some user) rooms posted.item).map
    fun posted => ⟨posted.index, posted.item.event⟩

theorem visible?_eq_some_iff {item : Indexed Event} : visible? sent user rooms id = some item ↔
    ∃ posted, latest? sentId sent id = some posted ∧
      (posted.item.room ∈ rooms ∨ posted.item.extraRecipient = some user) ∧
      ⟨posted.index, posted.item.event⟩ = item := by
  simp only [visible?, Option.map_eq_some_iff, Option.filter_eq_some_iff, isVisible_some_iff,
    and_assoc]

theorem isSome_visible?_iff (last : latest? sentId sent id = some posted) :
    (visible? sent user rooms id).isSome ↔
      posted.item.room ∈ rooms ∨ posted.item.extraRecipient = some user := by
  rw [visible?, last, Option.isSome_map, Option.isSome_filter, Option.any_some, isVisible_some_iff]

/-- A user who is named by an event finds it whatever the directory says. -/
theorem Records.event?_of_named (records : Records feed sent)
    (last : latest? sentId sent id = some posted)
    (named : posted.item.extraRecipient = some user) (directory : Directory) :
    feed.log.event? directory user id = .ok (some posted.item.event) := by
  rw [event?, records.posting?_eq, last]
  exact if_pos named

/-- What is looked up is the event that is visible. -/
theorem Records.event?_eq (records : Records feed sent)
    (answered : directory.rooms user = .ok rooms) (id : EventId) :
    feed.log.event? directory user id = .ok ((visible? sent user rooms id).map (·.item)) := by
  cases last : latest? sentId sent id with
  | none =>
    rw [event?, records.posting?_eq, visible?, last]
    rfl
  | some posted =>
    by_cases named : posted.item.extraRecipient = some user
    · have visible : visible? sent user rooms id = some ⟨posted.index, posted.item.event⟩ :=
        visible?_eq_some_iff.mpr ⟨posted, last, .inr named, rfl⟩
      rw [records.event?_of_named last named, visible]
      rfl
    · have by_room : isVisible (some user) rooms posted.item =
          rooms.contains posted.item.room := by
        rw [isVisible, decide_eq_false named, Bool.and_false, Bool.or_false]
      rw [event?, records.posting?_eq, visible?, last]
      simp only [Option.map_some, if_neg named, answered, Option.filter_some, by_room]
      cases rooms.contains posted.item.room <;> rfl

/-- Of what is shown to a user, the event that is visible has the identity, and no other. -/
theorem Records.filter_shown (records : Records feed sent) (user : UserId) (rooms : List RoomId)
    (id : EventId) :
    (shown sent (some user) rooms 0 feed.counter.current).filter (fun item => item.item.id = id) =
      (visible? sent user rooms id).toList := by
  rw [shown, List.filter_map, List.filter_filter, visible?, Option.toList_map,
    Option.toList_filter, ← filter_latest records.nodup, List.filter_filter]
  refine congrArg _ (List.filter_congr fun posted mem => ?_)
  have below := records.below posted (List.mem_filter.mp mem).1
  have same : decide (sentId posted = id) = true ↔ posted.item.event.id = id := decide_eq_true_iff
  rw [Bool.eq_iff_iff]
  simp [below, same, isVisible_some_iff, and_comm]

/-- What is read of an identity is the event that is visible. -/
theorem Records.filter_range_eq (records : Records feed sent) (user : UserId)
    (rooms : List RoomId) (id : EventId) {limit : Nat} (unlimited : sent.length ≤ limit) :
    (feed.log.range feed.counter (some user) rooms 0 feed.counter.current limit).filter
        (fun item => item.item.id = id) = (visible? sent user rooms id).toList := by
  have all : (shown sent (some user) rooms 0 feed.counter.current).length ≤ limit :=
    Nat.le_trans (length_shown_le sent) unlimited
  rw [records.range_eq, Nat.zero_min, Nat.max_eq_right (Nat.zero_le _), Nat.min_self]
  simp only [Nat.not_lt_zero, if_false]
  rw [List.take_of_length_le all, records.filter_shown]

/-- In a timeline that has been written from the start, from whatever index and while other logs
took indices from its counter, whether or not a directory answered when an event was sent: a user
whose rooms the directory names looks up an event by its identity, and gets just what an unlimited
reading of all there is for them has of that identity, which is at most one event. It is the last
one that was sent with the identity, and they get it if it is in one of their rooms or names them;
so if it is in none of their rooms, they get it exactly if it named them when it was sent. A user it
named then gets it by its identity even if the directory does not answer. -/
theorem lookup_agrees_with_reading (counter : Counter) (dispatcher : Dispatcher)
    (steps : List Step) :
    let feed := run { log := {}, counter, dispatcher } steps
    let sent := history counter.current steps
    (∀ (directory : Directory) (user : UserId) (rooms : List RoomId) (id : EventId) (limit : Nat),
      directory.rooms user = .ok rooms → sent.length ≤ limit →
      let reading := feed.log.range feed.counter (some user) rooms 0 feed.counter.current limit
      ∃ found : Option (Indexed Event),
        feed.log.event? directory user id = .ok (found.map (·.item)) ∧
        reading.filter (fun item => item.item.id = id) = found.toList ∧
        (∀ item, found = some item → ∃ posted, latest? sentId sent id = some posted ∧
          ⟨posted.index, posted.item.event⟩ = item) ∧
        ∀ posted, latest? sentId sent id = some posted →
          ∃ room, posted.item.event.room = some room ∧
            (room ∈ rooms → found.isSome) ∧
            (room ∉ rooms → (found.isSome ↔ posted.item.event.extraRecipient = some user))) ∧
    ∀ directory user id posted, latest? sentId sent id = some posted →
      posted.item.event.extraRecipient = some user →
      feed.log.event? directory user id = .ok (some posted.item.event) := by
  intro feed sent
  have records : Records feed sent := records_run counter dispatcher steps
  refine ⟨fun directory user rooms id limit answered unlimited => ?_,
    fun directory user id posted last named => ?_⟩
  · refine ⟨visible? sent user rooms id, records.event?_eq answered id,
      records.filter_range_eq user rooms id unlimited, fun item found => ?_, fun posted last => ?_⟩
    · obtain ⟨posted, last, -, same⟩ := visible?_eq_some_iff.mp found
      exact ⟨posted, last, same⟩
    · obtain ⟨in_room, named⟩ := records.settled last
      refine ⟨posted.item.room, in_room, fun inside => ?_, fun outside => ?_⟩
      · rw [isSome_visible?_iff last]
        exact .inl inside
      · rw [isSome_visible?_iff last, or_iff_right outside, named]
  · rw [(records.settled last).2] at named
    exact records.event?_of_named last named directory

section Invited

/-- The guest is invited to the lobby. -/
def invitation : Event :=
  { greeting "invitation" "" with
    content := .state (Id.ofParts .user "guest" "example.org").text (.member .invite none) none }

/-- The guest is invited between a message and the message as it is sent again, and another log
takes an index. -/
def invited : List Step :=
  [.send (Roster.directory {}) (greeting "first" "hello"), .pass,
    .send (Roster.directory { outage := some "offline" }) invitation,
    .send (Roster.directory {}) (greeting "first" "hello again")]

/-- The host gets the message as it was sent again, and so does whoever reads the lobby. The guest,
who is in no room, does not get it at all, but gets the invitation, with and without a directory. -/
theorem lookup_agrees_with_reading_invited :
    let feed := run { log := {}, counter := ⟨7⟩, dispatcher := {} } invited
    let lobby : RoomId := Id.ofParts .room "lobby" "example.org"
    let host : UserId := Id.ofParts .user "host" "example.org"
    let guest : UserId := Id.ofParts .user "guest" "example.org"
    let first := (greeting "first" "hello").id
    let directory := Roster.directory { rooms := [(lobby, [host])] }
    feed.log.event? directory host first = .ok (some (greeting "first" "hello again")) ∧
    (feed.log.range feed.counter (some host) [lobby] 0 feed.counter.current 3).filter
      (fun item => item.item.id = first) = [⟨10, greeting "first" "hello again"⟩] ∧
    feed.log.event? directory guest first = .ok none ∧
    feed.log.event? directory guest invitation.id = .ok (some invitation) ∧
    feed.log.event? (Roster.directory { outage := some "offline" }) guest invitation.id =
      .ok (some invitation) := by
  intro feed lobby host guest first directory
  obtain ⟨answered, reached⟩ := lookup_agrees_with_reading ⟨7⟩ {} invited
  have again : latest? sentId (history 7 invited) first =
      some ⟨10, greeting "first" "hello again", lobby, none⟩ := by decide +kernel
  have asked : latest? sentId (history 7 invited) invitation.id =
      some ⟨9, invitation, lobby, some guest⟩ := by decide +kernel
  obtain ⟨forHost, looked, read, last, seen⟩ :=
    answered directory host [lobby] first 3 (by decide +kernel) (by decide +kernel)
  obtain ⟨forGuest, unseen, -, -, hidden⟩ :=
    answered directory guest [] first 3 (by decide +kernel) (by decide +kernel)
  have found : forHost = some ⟨10, greeting "first" "hello again"⟩ := by
    obtain ⟨room, in_room, inside, -⟩ := seen _ again
    obtain rfl : lobby = room := Option.some.inj in_room
    obtain ⟨item, rfl⟩ := Option.isSome_iff_exists.mp (inside (List.mem_singleton_self lobby))
    obtain ⟨posted, sentLast, rfl⟩ := last item rfl
    obtain rfl := Option.some.inj (again.symm.trans sentLast)
    rfl
  have notFound : forGuest = none := by
    obtain ⟨room, -, -, outside⟩ := hidden _ again
    rw [← Option.not_isSome_iff_eq_none, outside List.not_mem_nil]
    decide +kernel
  subst found notFound
  exact ⟨looked, read, unseen, reached directory guest _ _ asked (by decide +kernel),
    reached (Roster.directory { outage := some "offline" }) guest _ _ asked (by decide +kernel)⟩

end Invited

end ChatFeed.Timeline
