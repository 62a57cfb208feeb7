import ChatFeed.Log.Timeline
import ChatFeed.Proofs.Collection.Sorted

/-!
# Timelines as they come about

What is entered in a timeline gets an index above all others, takes out the event
with its identity, and is filed under the event's own room and target. Such a
timeline is read in order and as a whole: a window is an ascending list of just the
visible events in it, and a page is the part of a window up to its last event.

## Main definitions

* `Timeline.IsSound`: the timeline is as entering events leaves it

## Main results

* `Timeline.IsSound.send`: entering an event keeps it so
* `Timeline.IsSound.mem_window_iff`, `Timeline.IsSound.ascending_window`: what a window is
* `Timeline.IsSound.window_record`, `Timeline.IsSound.window_record_of_hidden`: a window grows by
  what is entered, if that is visible
* `mem_take_iff_of_pairwise`: what a page of an ordered list is
-/

namespace ChatFeed

/-! ### Pages of ordered lists -/

/-- A page of an ordered list is the part that is not beyond the last item of the page. -/
theorem mem_take_iff_of_pairwise {α : Type} {R : α → α → Prop} (asymm : ∀ a b, R a b → ¬R b a)
    {items : List α} {size : Nat} {item last : α} (ordered : items.Pairwise R)
    (is_last : (items.take size).getLast? = some last) :
    item ∈ items.take size ↔ item ∈ items ∧ ¬R last item := by
  -- The list is cut after the page, and the page before its last item.
  obtain ⟨front, page⟩ := List.getLast?_eq_some_iff.mp is_last
  have cut := List.take_append_drop size items
  rw [← cut, page, List.pairwise_append, List.pairwise_append] at ordered
  obtain ⟨⟨-, -, before_last⟩, -, before_rest⟩ := ordered
  constructor
  · intro mem
    refine ⟨List.mem_of_mem_take mem, ?_⟩
    rw [page] at mem
    rcases List.mem_append.mp mem with earlier | same
    · exact asymm _ _ (before_last item earlier last (List.mem_singleton_self last))
    · rw [List.mem_singleton.mp same]
      exact fun beyond => asymm last last beyond beyond
  · rintro ⟨mem, not_beyond⟩
    rw [← cut] at mem
    rcases List.mem_append.mp mem with taken | later
    · exact taken
    · have beyond := before_rest last (List.mem_append_right _ (List.mem_singleton_self last))
        item later
      exact absurd beyond not_beyond

/-- A page of an ascending list is the part up to the last item of the page. -/
theorem Indexed.mem_take_iff {α : Type} {items : List (Indexed α)} {size : Nat}
    {item last : Indexed α} (ascending : items.Pairwise (·.index < ·.index))
    (is_last : (items.take size).getLast? = some last) :
    item ∈ items.take size ↔ item ∈ items ∧ item.index ≤ last.index := by
  rw [mem_take_iff_of_pairwise (fun _ _ => Nat.lt_asymm) ascending is_last, Nat.not_lt]

/-- A page that is not full is all there is. -/
theorem take_eq_self_of_length_ne {α : Type} {items : List α} {size : Nat}
    (short : (items.take size).length ≠ size) : items.take size = items := by
  rw [List.length_take] at short
  exact List.take_of_length_le (by omega)

namespace Timeline

/-- A timeline as entering events leaves it, when `next` is the index to be given out next. -/
structure IsSound (timeline : Timeline) (next : Nat) : Prop where
  sorted : timeline.postings.IsSorted
  below : ∀ index posting, timeline.postings.get? index = some posting → index < next
  /-- An event is found under its identity. -/
  indexed : ∀ id index, timeline.indices.get? id = some index ↔
    ∃ posting, timeline.postings.get? index = some posting ∧ posting.event.id = id
  room : ∀ index posting, timeline.postings.get? index = some posting →
    posting.event.room = some posting.room
  extraRecipient : ∀ index posting, timeline.postings.get? index = some posting →
    posting.event.extraRecipient = posting.extraRecipient

variable {timeline : Timeline} {next : Nat}

theorem isSound_empty : IsSound {} next where
  sorted := Table.isSorted_empty
  below _ _ found := nomatch found
  indexed _ _ := by simp
  room _ _ found := nomatch found
  extraRecipient _ _ found := nomatch found

theorem IsSound.mono (sound : timeline.IsSound next) {later : Nat} (le : next ≤ later) :
    timeline.IsSound later where
  sorted := sound.sorted
  below index posting found := Nat.lt_of_lt_of_le (sound.below index posting found) le
  indexed := sound.indexed
  room := sound.room
  extraRecipient := sound.extraRecipient

/-! ### Entering -/

section Record

variable (timeline) (index : Nat) (posting : Posting)

theorem get?_indices_record (id : EventId) : (timeline.record index posting).indices.get? id =
    if posting.event.id = id then some index else timeline.indices.get? id := by
  rw [record]
  exact Table.get?_insert _ _ _ _

/-- A new posting stands at its index, and the one with its identity is gone. -/
theorem get?_postings_record (i : Nat) : (timeline.record index posting).postings.get? i =
    if index = i then some posting
    else if timeline.indices.get? posting.event.id = some i then none
    else timeline.postings.get? i := by
  rw [record, Table.get?_insert]
  congr 1
  cases timeline.indices.get? posting.event.id with
  | none => simp
  | some old => simp [Table.get?_erase]

end Record

/-- What stands in a timeline after entering was entered now, or stood there before. -/
theorem eq_or_get?_of_get?_record {index i : Nat} {posting found : Posting}
    (get : (timeline.record index posting).postings.get? i = some found) :
    i = index ∧ found = posting ∨ timeline.postings.get? i = some found := by
  rw [get?_postings_record] at get
  split at get
  next same => exact .inl ⟨same.symm, (Option.some.inj get).symm⟩
  next =>
    split at get
    next => contradiction
    next => exact .inr get

/-- An event with an identity of its own takes nothing out. -/
theorem postings_record_of_fresh {posting : Posting} (index : Nat)
    (fresh : timeline.indices.get? posting.event.id = none) :
    (timeline.record index posting).postings = timeline.postings.insert index posting := by
  rw [record, fresh]

theorem IsSound.record (sound : timeline.IsSound next) {posting : Posting}
    (room : posting.event.room = some posting.room)
    (extraRecipient : posting.event.extraRecipient = posting.extraRecipient) :
    (timeline.record next posting).IsSound (next + 1) := by
  constructor
  case sorted =>
    rw [Timeline.record]
    cases timeline.indices.get? posting.event.id with
    | none => exact sound.sorted.insert _ _
    | some old => exact (sound.sorted.erase old).insert _ _
  case below =>
    intro index found get
    rcases eq_or_get?_of_get?_record get with ⟨rfl, -⟩ | old
    · exact Nat.lt_succ_self _
    · exact Nat.lt_succ_of_lt (sound.below index found old)
  case indexed =>
    intro id index
    rw [get?_indices_record, get?_postings_record]
    by_cases newest : next = index
    -- No identity has led to the new index before.
    · subst newest
      have unused : timeline.indices.get? id ≠ some next := by
        intro found
        obtain ⟨other, get, -⟩ := (sound.indexed id next).mp found
        exact Nat.lt_irrefl _ (sound.below next other get)
      by_cases same : posting.event.id = id <;> simp [same, unused]
    · rw [if_neg newest]
      by_cases same : posting.event.id = id
      -- The identity of the new event leads nowhere else any more.
      · rw [if_pos same, same]
        refine iff_of_false (fun found => newest (Option.some.inj found)) ?_
        rintro ⟨other, get, named⟩
        split at get
        next => contradiction
        next not_there => exact not_there ((sound.indexed id index).mpr ⟨other, get, named⟩)
      -- Any other identity leads where it did, since the posting taken out is not its own.
      · rw [if_neg same, sound.indexed id index]
        split
        next replaced =>
          obtain ⟨old, old_get, old_named⟩ := (sound.indexed _ index).mp replaced
          constructor
          · rintro ⟨other, get, named⟩
            rw [old_get, Option.some.injEq] at get
            exact absurd (by rw [← old_named, get, named]) same
          · rintro ⟨other, get, -⟩
            cases get
        next => rfl
  case room =>
    intro index found get
    rcases eq_or_get?_of_get?_record get with ⟨-, rfl⟩ | old
    · exact room
    · exact sound.room index found old
  case extraRecipient =>
    intro index found get
    rcases eq_or_get?_of_get?_record get with ⟨-, rfl⟩ | old
    · exact extraRecipient
    · exact sound.extraRecipient index found old

/-- What is entered at the next index comes after everything else. -/
theorem IsSound.entries_insert (sound : timeline.IsSound next) (posting : Posting) :
    (timeline.postings.insert next posting).entries =
      timeline.postings.entries ++ [(next, posting)] := by
  refine Table.place_of_forall_lt fun entry mem => ?_
  exact sound.below entry.1 entry.2 (sound.sorted.mem_entries_iff.mp mem)

/-- Sending gives out an index exactly if the event happens in a room. -/
theorem log_send (directory : Directory) (event : Event) (feed : Feed Timeline) :
    (send directory event feed).2.log = feed.log ∧
        (send directory event feed).2.counter = feed.counter ∨
      ∃ room, event.room = some room ∧
        (send directory event feed).2.log =
          feed.log.record feed.counter.current ⟨event, room, event.extraRecipient⟩ ∧
        (send directory event feed).2.counter = feed.counter.advance := by
  unfold send
  split
  next => exact .inl ⟨rfl, rfl⟩
  next room in_room =>
    refine .inr ⟨room, in_room, ?_⟩
    cases directory.users room <;> exact ⟨rfl, rfl⟩

theorem IsSound.send {feed : Feed Timeline} (sound : feed.log.IsSound feed.counter.current)
    (directory : Directory) (event : Event) :
    (send directory event feed).2.log.IsSound (send directory event feed).2.counter.current := by
  obtain ⟨same_log, same_counter⟩ | ⟨room, in_room, entered, advanced⟩ :=
    log_send directory event feed
  · rw [same_log, same_counter]
    exact sound
  · rw [entered, advanced]
    exact sound.record in_room rfl

/-! ### Windows -/

section Window

variable {viewer : Option UserId} {rooms : List RoomId} {low high : Nat}

theorem IsSound.mem_window_iff (sound : timeline.IsSound next) {index : Nat} {event : Event} :
    ⟨index, event⟩ ∈ timeline.window viewer rooms low high ↔
      low ≤ index ∧ index < high ∧ ∃ posting, timeline.postings.get? index = some posting ∧
        posting.event = event ∧ isVisible viewer rooms posting = true := by
  simp only [window, List.mem_map, List.mem_filter]
  constructor
  · rintro ⟨⟨_, posting⟩, ⟨mem, inside⟩, ⟨⟩⟩
    obtain ⟨above, below, visible⟩ := of_decide_eq_true inside
    exact ⟨above, below, posting, sound.sorted.mem_entries_iff.mp mem, rfl, visible⟩
  · rintro ⟨above, below, posting, found, rfl, visible⟩
    exact ⟨(index, posting),
      ⟨sound.sorted.mem_entries_iff.mpr found, decide_eq_true ⟨above, below, visible⟩⟩, rfl⟩

/-- There is nothing between bounds that leave no room. -/
theorem window_eq_nil (empty : high ≤ low) : timeline.window viewer rooms low high = [] := by
  rw [window, List.map_eq_nil_iff, List.filter_eq_nil_iff]
  intro entry mem inside
  obtain ⟨above, below, -⟩ := of_decide_eq_true inside
  omega

theorem IsSound.ascending_window (sound : timeline.IsSound next) :
    (timeline.window viewer rooms low high).Pairwise (·.index < ·.index) := by
  rw [window, List.pairwise_map]
  exact (List.pairwise_map.mp sound.sorted).filter _

/-- A window that reaches to the end of a timeline grows by what is entered, if that is visible. -/
theorem IsSound.window_record (sound : timeline.IsSound next) {posting : Posting}
    (fresh : timeline.indices.get? posting.event.id = none) (inside : low ≤ next) :
    (timeline.record next posting).window viewer rooms low (next + 1) =
      timeline.window viewer rooms low next ++
        if isVisible viewer rooms posting then [⟨next, posting.event⟩] else [] := by
  rw [window, postings_record_of_fresh next fresh, sound.entries_insert, List.filter_append,
    List.map_append, window]
  congr 1
  · congr 1
    refine List.filter_congr fun entry mem => ?_
    have below := sound.below entry.1 entry.2 (sound.sorted.mem_entries_iff.mp mem)
    simp [below, Nat.lt_succ_of_lt below]
  · by_cases visible : isVisible viewer rooms posting = true <;> simp [visible, inside]

/-- What is entered and not visible leaves a window as it is. -/
theorem IsSound.window_record_of_hidden (sound : timeline.IsSound next) {posting : Posting}
    (fresh : timeline.indices.get? posting.event.id = none)
    (hidden : isVisible viewer rooms posting = false) :
    (timeline.record next posting).window viewer rooms low high =
      timeline.window viewer rooms low high := by
  rw [window, postings_record_of_fresh next fresh, sound.entries_insert, List.filter_append,
    List.map_append, window]
  simp [hidden]

/-- A window is not changed by cutting it to the end of the timeline. -/
theorem IsSound.window_min (sound : timeline.IsSound next) :
    timeline.window viewer rooms low (min high next) = timeline.window viewer rooms low high := by
  rw [window, window]
  congr 1
  refine List.filter_congr fun entry mem => ?_
  have below := sound.below entry.1 entry.2 (sound.sorted.mem_entries_iff.mp mem)
  have cut : entry.1 < min high next ↔ entry.1 < high := by omega
  simp only [cut]

/-- So a range does not depend on where the timeline ends. -/
theorem IsSound.range_eq {counter : Counter} (sound : timeline.IsSound counter.current)
    (viewer : Option UserId) (rooms : List RoomId) (start stop limit : Nat) :
    timeline.range counter viewer rooms start stop limit =
      (if stop < start then (timeline.window viewer rooms stop start).reverse
        else timeline.window viewer rooms start stop).take limit := by
  rw [range, sound.window_min, sound.window_min]
  split <;> rfl

end Window

end Timeline

end ChatFeed
