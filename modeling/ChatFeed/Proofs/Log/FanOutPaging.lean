import ChatFeed.Proofs.Log.FanOut
import ChatFeed.Proofs.Log.Timeline

/-!
# Paging through a fan-out log

A recipient asks for one page after another, each from where the last one ended and up to the
highest bound there is, while the log is written to. An entry that is sent again between two pages
leaves its index for one that the recipient has not come to, wherever it stood before. So what
stands below the cursor has stood there when it was passed: it has been given as it is, and nothing
is given twice.

## Main definitions

* `FanOutLog.Turn`, `FanOutLog.Pager`, `FanOutLog.Pager.run`: a recipient who pages, and what can
  happen meanwhile
* `FanOutLog.Pager.Tracks`: the pages so far hold what stands below the cursor

## Main results

* `FanOutLog.Records.held_of_held_perform`: what is written stands at the end
* `FanOutLog.Pager.page_spec`: what a page gives, and where it ends
* `FanOutLog.Pager.Tracks.other`, `FanOutLog.Pager.Tracks.page`: whatever happens, the pages keep
  track
* `FanOutLog.Pager.pages_miss_nothing`: what a recipient gets by paging
-/

namespace ChatFeed.FanOutLog

/-- The highest bound there is. -/
def highestBound : Nat := UInt64.size - 1

/-- What can happen while a recipient pages: anything that is done to the log or its counter, and
the next page. -/
inductive Turn where
  | other (operation : Operation)
  | page (limit : Nat)

/-- A recipient who pages, and the log they read from. -/
structure Pager where
  numbered : Numbered
  /-- Where the next page starts. -/
  cursor : Nat
  /-- What the calls for pages gave, oldest first. -/
  answers : List (Except BoundsError Selection) := []
  /-- The entries that the pages are made of, with their indices. -/
  pages : List (List (Indexed Envelope)) := []

namespace Pager

/-- What a recipient has still to come to. -/
def ahead (recipient : Key) (pager : Pager) : List (Indexed Envelope) :=
  pager.numbered.log.window recipient pager.cursor
    (min highestBound pager.numbered.counter.current)

/-- The entries that the next page is made of. -/
def next (recipient : Key) (pager : Pager) (limit : Nat) : List (Indexed Envelope) :=
  (sortByIndex (pager.ahead recipient)).take limit

/-- The pager after a turn. Each page is asked for from where the one before ended. -/
def step (recipient : Key) (pager : Pager) : Turn → Pager
  | .other operation => { pager with numbered := (perform pager.numbered operation).2 }
  | .page limit =>
    let answer := pager.numbered.log.range pager.numbered.counter recipient pager.cursor
      highestBound limit
    { pager with
      cursor :=
        match answer with
        | .ok selection => selection.stop
        | .error _ => pager.cursor
      answers := pager.answers ++ [answer]
      pages := pager.pages ++ [pager.next recipient limit] }

/-- The pager after a sequence of turns. -/
def run (recipient : Key) (pager : Pager) (turns : List Turn) : Pager :=
  turns.foldl (step recipient) pager

end Pager

variable {numbered : Numbered} {sent : List (Indexed Sending)} {recipient : Key} {first limit : Nat}

/-! ### Writing between pages -/

theorem Operation.le_index_of_mem_sent {operation : Operation} {next : Nat}
    {sending : Indexed Sending} (mem : sending ∈ operation.sent next) : next ≤ sending.index := by
  cases operation with
  | send envelope recipients => exact Nat.le_of_eq (List.mem_singleton.mp mem ▸ rfl)
  | pass => contradiction
  | sendMany batch =>
    obtain ⟨⟨sending, index⟩, at_index, rfl⟩ := List.mem_map.mp mem
    exact List.le_snd_of_mem_zipIdx at_index

/-- What is written stands beyond all that stood before, so what is held below the counter has been
held. -/
theorem Records.held_of_held_perform (records : Records numbered sent) {operation : Operation}
    {entry : Indexed Envelope}
    (held : entry ∈ (FanOutLog.perform numbered operation).2.log.segments.held recipient)
    (below : entry.index < numbered.counter.current) :
    entry ∈ numbered.log.segments.held recipient := by
  rw [(records.perform operation).held, mem_standing_iff, sentTo, List.filterMap_append,
    latest?_append] at held
  rw [records.held, mem_standing_iff]
  refine (Option.or_eq_some_iff.mp held).elim (fun new => ?_) And.right
  -- Had it been sent just now, it would not be below where the counter was.
  obtain ⟨sending, mem, same⟩ := mem_of_mem_sentTo (mem_of_latest? new).1
  have above := Operation.le_index_of_mem_sent mem
  omega

theorem le_current_perform (numbered : Numbered) (operation : Operation) :
    numbered.counter.current ≤ (perform numbered operation).2.counter.current := by
  rw [(perform_numbers numbered operation).2]
  cases operation <;> exact Nat.le_add_right _ _

namespace Pager

variable {pager : Pager} {turn : Turn}

theorem run_append (recipient : Key) (pager : Pager) (earlier later : List Turn) :
    run recipient pager (earlier ++ later) = run recipient (run recipient pager earlier) later :=
  List.foldl_append

theorem le_current_run (recipient : Key) (pager : Pager) (turns : List Turn) :
    pager.numbered.counter.current ≤ (run recipient pager turns).numbered.counter.current := by
  induction turns generalizing pager with
  | nil => exact Nat.le_refl _
  | cons turn rest ih =>
    refine Nat.le_trans ?_ (ih (pager.step recipient turn))
    cases turn with
    | other operation => exact le_current_perform pager.numbered operation
    | page limit => exact Nat.le_refl _

/-! ### Pages -/

section Page

variable (inside : pager.cursor ≤ pager.numbered.counter.current)
  (bounded : pager.numbered.counter.current ≤ highestBound)

include bounded

theorem mem_ahead_iff {entry : Indexed Envelope} : entry ∈ pager.ahead recipient ↔
    entry ∈ pager.numbered.log.segments.held recipient ∧ pager.cursor ≤ entry.index ∧
      entry.index < pager.numbered.counter.current := by
  rw [ahead, window, Nat.min_eq_right bounded, List.mem_filter, decide_eq_true_eq]

include inside

/-- A page that has room for everything ahead gives it and ends at the counter. -/
theorem page_of_length_le (positive : 0 < limit) (room : (pager.ahead recipient).length ≤ limit) :
    pager.next recipient limit = sortByIndex (pager.ahead recipient) ∧
    ∃ start, pager.numbered.log.range pager.numbered.counter recipient pager.cursor highestBound
      limit = .ok ⟨(pager.next recipient limit).map (·.item), start,
        pager.numbered.counter.current⟩ := by
  have ordered : pager.cursor ≤ highestBound := Nat.le_trans inside bounded
  have all : pager.next recipient limit = sortByIndex (pager.ahead recipient) :=
    List.take_of_length_le (by rwa [(sortByIndex_perm _).length_eq])
  have to_counter : (covered pager.numbered.counter pager.cursor highestBound).2 =
      pager.numbered.counter.current := by
    rw [covered]
    split
    next same => exact Nat.le_antisymm inside (same ▸ bounded)
    next => exact Nat.min_eq_right bounded
  have room_there : (pager.numbered.log.window recipient pager.cursor
      (min highestBound pager.numbered.counter.current)).length ≤ limit := room
  have answer := range_of_length_le ordered positive room_there
  rw [to_counter] at answer
  rw [all]
  exact ⟨rfl, _, answer⟩

/-- A page that leaves something out ends right after its last entry. -/
theorem page_of_lt_length (positive : 0 < limit) (cut : limit < (pager.ahead recipient).length) :
    ∃ last, (pager.next recipient limit).getLast? = some last ∧
      pager.numbered.log.range pager.numbered.counter recipient pager.cursor highestBound limit =
        .ok ⟨(pager.next recipient limit).map (·.item), pager.cursor, last.index + 1⟩ := by
  have ordered : pager.cursor ≤ highestBound := Nat.le_trans inside bounded
  have some_taken : pager.next recipient limit ≠ [] := by
    rw [next, Ne, List.take_eq_nil_iff, ← List.length_eq_zero_iff, (sortByIndex_perm _).length_eq]
    omega
  have is_last := List.getLast?_eq_some_getLast some_taken
  exact ⟨_, is_last, range_of_lt_length ordered cut is_last⟩

/-- A page gives what is held between the cursor and where it ends. It ends at the counter unless it
leaves something out, and then it moves past an entry at least. -/
theorem page_spec (records : Records pager.numbered sent) (positive : 0 < limit) :
    (∃ start, pager.numbered.log.range pager.numbered.counter recipient pager.cursor highestBound
      limit = .ok ⟨(pager.next recipient limit).map (·.item), start,
        (pager.step recipient (.page limit)).cursor⟩) ∧
    pager.cursor ≤ (pager.step recipient (.page limit)).cursor ∧
    (pager.step recipient (.page limit)).cursor ≤ pager.numbered.counter.current ∧
    (∀ entry, entry ∈ pager.next recipient limit ↔
      entry ∈ pager.ahead recipient ∧
        entry.index < (pager.step recipient (.page limit)).cursor) ∧
    ((pager.step recipient (.page limit)).cursor = pager.numbered.counter.current ∨
      pager.next recipient limit ≠ []) := by
  rcases Nat.lt_or_ge limit (pager.ahead recipient).length with cut | room
  · obtain ⟨last, is_last, answer⟩ := page_of_lt_length inside bounded positive cut
    have moved : (pager.step recipient (.page limit)).cursor = last.index + 1 := by
      rw [step, answer]
    have last_taken : last ∈ pager.next recipient limit := List.mem_of_getLast? is_last
    have last_ahead : last ∈ pager.ahead recipient :=
      mem_sortByIndex_iff.mp (List.mem_of_mem_take last_taken)
    obtain ⟨-, above, below⟩ := (mem_ahead_iff bounded).mp last_ahead
    have ascending : (sortByIndex (pager.ahead recipient)).Pairwise (·.index < ·.index) := by
      rw [ahead, records.sortByIndex_window]
      exact records.ascending_latestBetween
    rw [moved]
    refine ⟨⟨_, answer⟩, by omega, below, fun entry => ?_, .inr (List.ne_nil_of_mem last_taken)⟩
    rw [next, Indexed.mem_take_iff ascending is_last, mem_sortByIndex_iff, Nat.lt_succ_iff]
  · obtain ⟨all, start, answer⟩ := page_of_length_le inside bounded positive room
    have moved : (pager.step recipient (.page limit)).cursor = pager.numbered.counter.current := by
      rw [step, answer]
    rw [moved]
    refine ⟨⟨start, answer⟩, inside, Nat.le_refl _, fun entry => ?_, .inl rfl⟩
    rw [all, mem_sortByIndex_iff]
    exact ⟨fun mem => ⟨mem, ((mem_ahead_iff bounded).mp mem).2.2⟩, And.left⟩

end Page

/-! ### Keeping track -/

/-- Whether the pages that a recipient has got since the cursor was at `first` hold what stands
below the cursor, and nothing twice. -/
structure Tracks (recipient : Key) (first : Nat) (pager : Pager) : Prop where
  records : ∃ sent, Records pager.numbered sent
  inside : pager.cursor ≤ pager.numbered.counter.current
  answers : pager.answers.map (Except.map (·.events)) =
    pager.pages.map fun page => .ok (page.map (·.item))
  passed : ∀ entry ∈ pager.pages.flatten, entry.index < pager.cursor
  ascending : pager.pages.flatten.Pairwise (·.index < ·.index)
  complete : ∀ entry ∈ pager.numbered.log.segments.held recipient,
    first ≤ entry.index → entry.index < pager.cursor → entry ∈ pager.pages.flatten

/-- What is written goes beyond the cursor. -/
theorem Tracks.other (tracks : Tracks recipient first pager) (operation : Operation) :
    Tracks recipient first (pager.step recipient (.other operation)) := by
  obtain ⟨sent, records⟩ := tracks.records
  have inside := Nat.le_trans tracks.inside (le_current_perform pager.numbered operation)
  refine { tracks with records := ⟨_, records.perform operation⟩, inside, complete := ?_ }
  intro entry held from_first below
  have held_before := records.held_of_held_perform held (Nat.lt_of_lt_of_le below tracks.inside)
  exact tracks.complete entry held_before from_first below

/-- A page takes in what stands between the cursor and where it ends. -/
theorem Tracks.page (tracks : Tracks recipient first pager)
    (bounded : pager.numbered.counter.current ≤ highestBound) (positive : 0 < limit) :
    Tracks recipient first (pager.step recipient (.page limit)) := by
  obtain ⟨sent, records⟩ := tracks.records
  obtain ⟨⟨start, answer⟩, forward, inside, mem_next, -⟩ :=
    page_spec tracks.inside bounded records positive
  have pages : (pager.step recipient (.page limit)).pages.flatten =
      pager.pages.flatten ++ pager.next recipient limit := by
    rw [step, List.flatten_append, List.flatten_singleton]
  constructor
  case records => exact ⟨sent, records⟩
  case inside => exact inside
  case answers =>
    rw [step, List.map_append, List.map_append, tracks.answers, List.map_singleton, answer]
    rfl
  case passed =>
    rw [pages]
    intro entry mem
    rcases List.mem_append.mp mem with earlier | now
    · exact Nat.lt_of_lt_of_le (tracks.passed entry earlier) forward
    · exact ((mem_next entry).mp now).2
  case ascending =>
    rw [pages, List.pairwise_append]
    refine ⟨tracks.ascending, ?_, fun entry earlier later now => ?_⟩
    · rw [next, ahead, records.sortByIndex_window]
      exact records.ascending_latestBetween.take
    · have passed := tracks.passed entry earlier
      have above := ((mem_ahead_iff bounded).mp ((mem_next later).mp now).1).2.1
      omega
  case complete =>
    rw [pages]
    intro entry held from_first below
    rw [List.mem_append]
    -- Nothing is written by a page, so what stands below the old cursor has been given before.
    rcases Nat.lt_or_ge entry.index pager.cursor with passed | above
    · exact .inl (tracks.complete entry held from_first passed)
    · have is_ahead : entry ∈ pager.ahead recipient :=
        (mem_ahead_iff bounded).mpr ⟨held, above, Nat.lt_of_lt_of_le below inside⟩
      exact .inr ((mem_next entry).mpr ⟨is_ahead, below⟩)

/-- The cursor does not go back while the recipient keeps track. -/
theorem Tracks.le_cursor_step (tracks : Tracks recipient first pager)
    (bounded : pager.numbered.counter.current ≤ highestBound)
    (positive : ∀ limit, turn = .page limit → 0 < limit) :
    pager.cursor ≤ (pager.step recipient turn).cursor := by
  obtain ⟨sent, records⟩ := tracks.records
  cases turn with
  | other operation => exact Nat.le_refl _
  | page limit => exact (page_spec tracks.inside bounded records (positive limit rfl)).2.1

/-- Whatever is done and however the recipient pages, they keep track, and the cursor does not go
back. -/
theorem Tracks.run (tracks : Tracks recipient first pager) (turns : List Turn)
    (positive : ∀ limit, .page limit ∈ turns → 0 < limit)
    (bounded : (pager.run recipient turns).numbered.counter.current ≤ highestBound) :
    Tracks recipient first (pager.run recipient turns) ∧
      pager.cursor ≤ (pager.run recipient turns).cursor := by
  induction turns generalizing pager with
  | nil => exact ⟨tracks, Nat.le_refl _⟩
  | cons turn rest ih =>
    -- The counter does not go back, so it has been within the bound all along.
    have bounded_now : pager.numbered.counter.current ≤ highestBound :=
      Nat.le_trans (le_current_run recipient pager (turn :: rest)) bounded
    have tracks_now : Tracks recipient first (pager.step recipient turn) := by
      cases turn with
      | other operation => exact tracks.other operation
      | page limit => exact tracks.page bounded_now (positive limit List.mem_cons_self)
    have forward : pager.cursor ≤ (pager.step recipient turn).cursor :=
      tracks.le_cursor_step bounded_now fun limit same =>
        positive limit (same ▸ List.mem_cons_self)
    obtain ⟨later, forward_later⟩ := ih tracks_now
      (fun limit mem => positive limit (List.mem_cons_of_mem _ mem)) bounded
    exact ⟨later, Nat.le_trans forward forward_later⟩

/-- A page that does not reach the counter leaves less ahead. -/
theorem Tracks.ahead_step (tracks : Tracks recipient first pager)
    (bounded : pager.numbered.counter.current ≤ highestBound) (positive : 0 < limit) :
    (pager.step recipient (.page limit)).cursor = pager.numbered.counter.current ∨
      ((pager.step recipient (.page limit)).ahead recipient).length <
        (pager.ahead recipient).length := by
  obtain ⟨sent, records⟩ := tracks.records
  obtain ⟨-, forward, -, mem_next, ends⟩ := page_spec tracks.inside bounded records positive
  refine ends.imp_right fun some_given => ?_
  obtain ⟨entry, given⟩ := List.exists_mem_of_ne_nil _ some_given
  obtain ⟨was_ahead, below⟩ := (mem_next entry).mp given
  -- What is ahead after the page is what was ahead and lies from its end on.
  have fewer : (pager.step recipient (.page limit)).ahead recipient =
      (pager.ahead recipient).filter fun entry =>
        (pager.step recipient (.page limit)).cursor ≤ entry.index := by
    rw [ahead, ahead, window, window, List.filter_filter]
    refine List.filter_congr fun entry _ => ?_
    rw [← Bool.decide_and]
    refine decide_eq_decide.mpr ?_
    change _ ∧ _ < min highestBound pager.numbered.counter.current ↔ _
    omega
  rw [fewer, List.length_filter_lt_length_iff_exists]
  refine ⟨entry, was_ahead, fun above => ?_⟩
  have not_below := of_decide_eq_true above
  omega

/-- Paging writes nothing. -/
theorem numbered_run_pages (recipient : Key) (pager : Pager) (limits : List Nat) :
    (pager.run recipient (limits.map .page)).numbered = pager.numbered := by
  induction limits generalizing pager with
  | nil => rfl
  | cons limit rest ih => exact ih (pager.step recipient (.page limit))

/-- Paging reaches the counter once there are more pages than entries ahead. -/
theorem Tracks.reaches_counter (tracks : Tracks recipient first pager)
    (bounded : pager.numbered.counter.current ≤ highestBound) (limits : List Nat)
    (positive : ∀ limit ∈ limits, 0 < limit)
    (enough : (pager.ahead recipient).length < limits.length) :
    (pager.run recipient (limits.map .page)).cursor = pager.numbered.counter.current := by
  induction limits generalizing pager with
  | nil => contradiction
  | cons limit rest ih =>
    have tracks_now := tracks.page bounded (positive limit List.mem_cons_self)
    have positive_later : ∀ limit ∈ rest, 0 < limit :=
      fun limit mem => positive limit (List.mem_cons_of_mem _ mem)
    rcases tracks.ahead_step bounded (positive limit List.mem_cons_self) with reached | fewer
    -- At the counter the cursor stays where it is.
    · have unwritten := numbered_run_pages recipient (pager.step recipient (.page limit)) rest
      have positive_pages : ∀ limit, Turn.page limit ∈ rest.map .page → 0 < limit := by
        intro limit mem
        obtain ⟨_, mem, ⟨⟩⟩ := List.mem_map.mp mem
        exact positive_later limit mem
      obtain ⟨later, forward⟩ := tracks_now.run (rest.map .page) positive_pages
        (by rwa [unwritten])
      have inside := later.inside
      rw [unwritten] at inside
      rw [reached] at forward
      exact Nat.le_antisymm inside forward
    · rw [List.length_cons] at enough
      exact ih tracks_now bounded positive_later (by omega)

theorem tracks_start {cursor : Nat} (records : Records numbered sent)
    (inside : cursor ≤ numbered.counter.current) :
    Tracks recipient cursor { numbered, cursor } where
  records := ⟨sent, records⟩
  inside := inside
  answers := rfl
  passed _ mem := absurd mem List.not_mem_nil
  ascending := List.Pairwise.nil
  complete _ _ from_first below := absurd below (Nat.not_lt.mpr from_first)

/-- A recipient starts paging through a log that has been written from the start, at some cursor
that is not above its counter. Whatever is sent meanwhile, as long as the counter does not go beyond
the highest bound, every call gives the events of its page; the cursor never goes back and never
above the counter; what the recipient holds from where they started up to below the cursor is on
their pages, as it is; and over all pages indices ascend, so nothing comes twice. If nothing more is
written, the cursor comes to the counter once there are more pages than entries ahead. -/
theorem pages_miss_nothing (start : Counter) (operations : List Operation) (recipient : Key)
    (first : Nat) (turns : List Turn)
    (inside : first ≤ (FanOutLog.run { counter := start } operations).2.counter.current)
    (positive : ∀ limit, .page limit ∈ turns → 0 < limit) :
    let opened : Pager :=
      { numbered := (FanOutLog.run { counter := start } operations).2, cursor := first }
    let pager := opened.run recipient turns
    pager.numbered.counter.current ≤ highestBound →
    pager.answers.map (Except.map (·.events)) =
      pager.pages.map (fun page => .ok (page.map (·.item))) ∧
    (∀ earlier later, turns = earlier ++ later →
      (opened.run recipient earlier).cursor ≤ pager.cursor) ∧
    pager.cursor ≤ pager.numbered.counter.current ∧
    (∀ entry ∈ pager.numbered.log.segments.held recipient,
      first ≤ entry.index → entry.index < pager.cursor → ∃ page ∈ pager.pages, entry ∈ page) ∧
    pager.pages.flatten.Pairwise (·.index < ·.index) ∧
    ∀ limits : List Nat, (∀ limit ∈ limits, 0 < limit) →
      (pager.ahead recipient).length < limits.length →
      (pager.run recipient (limits.map .page)).cursor = pager.numbered.counter.current := by
  intro opened pager bounded
  have tracks_opened : Tracks recipient first opened :=
    tracks_start (records_run start operations) inside
  have tracks : Tracks recipient first pager := (tracks_opened.run turns positive bounded).1
  refine ⟨tracks.answers, ?_, tracks.inside, ?_, tracks.ascending, ?_⟩
  · rintro earlier later rfl
    have resumed : pager = (opened.run recipient earlier).run recipient later :=
      run_append recipient opened earlier later
    have bounded_earlier :
        (opened.run recipient earlier).numbered.counter.current ≤ highestBound := by
      rw [resumed] at bounded
      exact Nat.le_trans (le_current_run recipient _ later) bounded
    have tracks_earlier := tracks_opened.run earlier
      (fun limit mem => positive limit (List.mem_append_left _ mem)) bounded_earlier
    have forward := tracks_earlier.1.run later
      (fun limit mem => positive limit (List.mem_append_right _ mem)) (resumed ▸ bounded)
    rw [resumed]
    exact forward.2
  · intro entry held from_first below
    exact List.mem_flatten.mp (tracks.complete entry held from_first below)
  · exact tracks.reaches_counter bounded

section Overtaken

/-- Two notes that are sent to a recipient. -/
def notes : List Operation :=
  [.send (note "first" "draft") ["ann"], .send (note "second" "final") ["ann"]]

/-- The first note has been given when it is sent again. -/
def overtaken : List Turn :=
  [.page 1, .other (.send (note "first" "final") ["ann"])]

theorem positive_of_mem_overtaken {limit : Nat}
    (mem : .page limit ∈ overtaken ++ [5, 5, 5].map .page) : 0 < limit := by
  simp only [overtaken, List.map_cons, List.map_nil, List.cons_append, List.nil_append,
    List.mem_cons, Turn.page.injEq, reduceCtorEq, List.not_mem_nil, or_false, false_or] at mem
  omega

/-- In the end both notes are on the pages as they stand. -/
theorem pages_miss_nothing_overtaken :
    let opened : Pager := { numbered := (FanOutLog.run { counter := ⟨5⟩ } notes).2, cursor := 0 }
    let pager := opened.run "ann" (overtaken ++ [5, 5, 5].map .page)
    pager.cursor = 8 ∧ (∃ page ∈ pager.pages, ⟨7, note "first" "final"⟩ ∈ page) ∧
      ∃ page ∈ pager.pages, ⟨6, note "second" "final"⟩ ∈ page := by
  intro opened pager
  have meanwhile := pages_miss_nothing ⟨5⟩ notes "ann" 0 overtaken (by decide +kernel)
    (fun limit mem => positive_of_mem_overtaken (List.mem_append_left _ mem)) (by decide +kernel)
  obtain ⟨-, -, -, -, -, reaches⟩ := meanwhile
  have few_ahead : ((opened.run "ann" overtaken).ahead "ann").length < [5, 5, 5].length :=
    Nat.lt_of_le_of_lt (List.length_filter_le _ _) (by decide +kernel)
  have at_counter : pager.cursor = 8 := by
    rw [show pager = _ from run_append "ann" opened overtaken _]
    exact (reaches [5, 5, 5] (by decide) few_ahead).trans (by decide +kernel)
  have at_the_end := pages_miss_nothing ⟨5⟩ notes "ann" 0 (overtaken ++ [5, 5, 5].map .page)
    (by decide +kernel) (fun limit => positive_of_mem_overtaken) (by decide +kernel)
  obtain ⟨-, -, -, complete, -, -⟩ := at_the_end
  refine ⟨at_counter, complete _ (by decide +kernel) (by decide) ?_,
    complete _ (by decide +kernel) (by decide) ?_⟩
  · exact at_counter ▸ (by decide : 7 < 8)
  · exact at_counter ▸ (by decide : 6 < 8)

end Overtaken

end Pager

end ChatFeed.FanOutLog
