import ChatFeed.Proofs.Log.FanIn
import Mathlib.Algebra.GroupWithZero.Nat

/-!
# Paging back through a fan-in log

A recipient who goes back through what has been sent to them counts from the oldest entry. What is
sent meanwhile goes to the end, so no entry ever changes its number, and a page that does not go
beyond what was there stays what it is. Paging from the end down to the first entry gives all that
was there when it began, newest first, and nothing that came later. The numbers count the same
entries that the indices tell apart: the longest page back is the longest window forward, reversed.

## Main definitions

* `FanInLog.Turn`, `FanInLog.Pager`, `FanInLog.Pager.run`: a recipient who pages back, and what can
  happen meanwhile
* `FanInLog.Pager.Tracks`: the pages so far hold what stands from the cursor on

## Main results

* `FanInLog.backwards_eq`: what a page back gives, and where it ends
* `FanInLog.backwards_run`: a page of what was there stays the same
* `FanInLog.Pager.page_spec`: what a page gives of what was there when paging began
* `FanInLog.Pager.Tracks.run`: however the recipient pages, and whatever is sent, they keep track
* `FanInLog.pages_keep_their_places`: what pages back give
-/

namespace ChatFeed.FanInLog

/-- What can happen while a recipient pages back: anything that is done to the log or its counter,
and the next page. -/
inductive Turn where
  | other (operation : Operation)
  | page (size : Nat)

/-- How many entries a turn asks for. -/
def Turn.size : Turn → Nat
  | other _ => 0
  | page size => size

/-- A recipient who pages back, and the log they read from. -/
structure Pager where
  numbered : Numbered
  /-- Where the next page starts. -/
  cursor : Nat
  /-- What the calls for pages gave, newest entries first. -/
  answers : List (Except BoundsError Selection) := []

namespace Pager

/-- The pager after a turn. Each page is asked for from where the one before ended. -/
def step (recipient : Key) (pager : Pager) : Turn → Pager
  | .other operation => { pager with numbered := perform pager.numbered operation }
  | .page size =>
    let answer := pager.numbered.log.backwards recipient pager.cursor (pager.cursor - size)
    { pager with
      cursor :=
        match answer with
        | .ok selection => selection.stop
        | .error _ => pager.cursor
      answers := pager.answers ++ [answer] }

/-- The pager after a sequence of turns. -/
def run (recipient : Key) (pager : Pager) (turns : List Turn) : Pager :=
  turns.foldl (step recipient) pager

end Pager

variable {log : FanInLog} {numbered : Numbered} {sent : List (Indexed Sending)}
  {recipient : Key} {start stop : Nat}

/-! ### Pages by number -/

/-- The entries of a page back, by their numbers. -/
theorem getElem?_page {α : Type} {items : List α} (inside : start ≤ items.length) {offset : Nat}
    (within : offset < start - stop) :
    ((items.take start).drop stop).reverse[offset]? = items[start - 1 - offset]? := by
  have length : ((items.take start).drop stop).length = start - stop := by
    rw [List.length_drop, List.length_take, Nat.min_eq_left inside]
  have number : stop + (start - stop - 1 - offset) = start - 1 - offset := by omega
  rw [List.getElem?_reverse (length ▸ within), length, List.getElem?_drop, number,
    List.getElem?_take_of_lt (by omega)]

/-- What stands from the end of a page on is what stands from its start on, and the page. -/
theorem reverse_drop_eq_append {α : Type} {items : List α} (ordered : stop ≤ start) :
    (items.drop (min items.length stop)).reverse =
      (items.drop start).reverse ++ ((items.take start).drop stop).reverse := by
  -- To leave out more than there is leaves out all.
  have cut : items.drop (min items.length stop) = items.drop stop := by
    rcases Nat.le_total items.length stop with beyond | inside
    · rw [Nat.min_eq_left beyond, List.drop_length, List.drop_of_length_le beyond]
    · rw [Nat.min_eq_right inside]
  have parts := List.take_append_drop (start - stop) (items.drop stop)
  rw [List.drop_drop, Nat.add_sub_cancel' ordered, ← List.drop_take] at parts
  rw [cut, ← parts, List.reverse_append]

/-- Whoever holds something has a segment. -/
theorem get?_segments_of_ne_nil (some_held : log.held recipient ≠ []) :
    log.segments.get? recipient = some (log.held recipient) := by
  cases known : log.segments.get? recipient with
  | none => exact absurd (held_of_get?_eq_none known) some_held
  | some segment => rw [held_of_get?_eq_some known]

/-- A page back gives what a recipient holds at the numbers from `stop` up to below `start`, or
below the number of all entries if that is lower. -/
theorem backwards_eq (log : FanInLog) (recipient : Key) (ordered : stop ≤ start) :
    log.backwards recipient start stop =
      .ok ⟨(((log.held recipient).take start).drop stop).reverse.map (·.item),
        min start (log.held recipient).length,
        min (min start (log.held recipient).length) stop⟩ := by
  rw [backwards, if_neg (Nat.not_lt.mpr ordered)]
  cases known : log.segments.get? recipient with
  | none =>
    rw [held_of_get?_eq_none known, List.length_nil, Nat.min_zero, Nat.zero_min, List.take_nil,
      List.drop_nil]
    rfl
  | some segment =>
    rw [held_of_get?_eq_some known]
    simp only
    split
    next beyond =>
      have nothing : (segment.take start).drop stop = [] := by
        rw [List.drop_eq_nil_iff, List.length_take]
        exact beyond
      rw [nothing, Nat.min_eq_left beyond]
      rfl
    next enclose => rw [Nat.min_eq_right (Nat.le_of_not_le enclose), ← List.take_eq_take_min]

/-- A page back whose bounds leave no room is empty. -/
theorem backwards_of_le (ordered : stop ≤ start)
    (beyond : min start (log.held recipient).length ≤ stop) :
    log.backwards recipient start stop = .ok (.empty (min start (log.held recipient).length)
      (min start (log.held recipient).length)) := by
  have nothing : ((log.held recipient).take start).drop stop = [] := by
    rw [List.drop_eq_nil_iff, List.length_take]
    exact beyond
  rw [backwards_eq _ _ ordered, nothing, Nat.min_eq_left beyond]
  rfl

/-- A page back has the entries with the numbers between its bounds, and there is a segment in which
they all are. -/
theorem backwards_of_lt (ordered : stop ≤ start)
    (enclose : stop < min start (log.held recipient).length) :
    ∃ events segment, log.backwards recipient start stop =
        .ok ⟨events, min start (log.held recipient).length, stop⟩ ∧
      events.length = min start (log.held recipient).length - stop ∧
      (∀ offset < min start (log.held recipient).length - stop, events[offset]? =
        (log.held recipient)[min start (log.held recipient).length - 1 - offset]?.map (·.item)) ∧
      log.segments.get? recipient = some segment ∧
      min start (log.held recipient).length ≤ segment.length := by
  have some_held : log.held recipient ≠ [] := by
    rw [Ne, ← List.length_eq_zero_iff]
    omega
  have answer := backwards_eq log recipient ordered
  rw [Nat.min_eq_right (Nat.le_of_lt enclose), List.take_eq_take_min] at answer
  refine ⟨_, log.held recipient, answer, ?_, fun offset within => ?_,
    get?_segments_of_ne_nil some_held, Nat.min_le_right _ _⟩
  · rw [List.length_map, List.length_reverse, List.length_drop, List.length_take,
      Nat.min_eq_left (Nat.min_le_right _ _)]
  · rw [List.getElem?_map, getElem?_page (Nat.min_le_right _ _) within]

/-- What is sent goes to the end of what a recipient holds. -/
theorem prefix_perform (numbered : Numbered) (operation : Operation) (recipient : Key) :
    numbered.log.held recipient <+: (perform numbered operation).log.held recipient := by
  cases operation with
  | pass => exact List.prefix_refl _
  | send envelope other =>
    have entered := held_send numbered.log numbered.counter envelope other recipient
    exact ⟨_, entered.symm⟩

theorem prefix_run (numbered : Numbered) (later : List Operation) (recipient : Key) :
    numbered.log.held recipient <+: (run numbered later).log.held recipient := by
  induction later generalizing numbered with
  | nil => exact List.prefix_refl _
  | cons operation rest ih => exact (prefix_perform numbered operation recipient).trans (ih _)

/-- So a page of what was there stays the same. -/
theorem backwards_run (numbered : Numbered) (later : List Operation)
    (inside : start ≤ (numbered.log.held recipient).length) (stop : Nat) :
    (run numbered later).log.backwards recipient start stop =
      numbered.log.backwards recipient start stop := by
  obtain ⟨more, longer⟩ := prefix_run numbered later recipient
  rcases Nat.lt_or_ge start stop with reversed | ordered
  · rw [backwards, if_pos reversed, backwards, if_pos reversed]
  · have still_inside : start ≤ (numbered.log.held recipient ++ more).length := by
      rw [List.length_append]
      exact Nat.le_add_right_of_le inside
    rw [backwards_eq _ _ ordered, backwards_eq _ _ ordered, ← longer,
      List.take_append_of_le_length inside, Nat.min_eq_left inside, Nat.min_eq_left still_inside]

/-! ### Keeping track -/

namespace Pager

variable {pager : Pager} {received : List (Indexed Envelope)}

/-- A page gives the next part of what was received when paging began, going back from the cursor,
unless there is more than that and the cursor is beyond it. -/
theorem page_spec (kept : received <+: pager.numbered.log.held recipient)
    (known : pager.cursor ≤ received.length ∨ pager.numbered.log.held recipient = received)
    (size : Nat) :
    ∃ page start, pager.numbered.log.backwards recipient pager.cursor (pager.cursor - size) =
      .ok ⟨page.map (·.item), start, min received.length (pager.cursor - size)⟩ ∧
      (received.drop (min received.length (pager.cursor - size))).reverse =
        (received.drop pager.cursor).reverse ++ page := by
  obtain ⟨more, longer⟩ := kept
  have reached : (pager.numbered.log.held recipient).take pager.cursor =
      received.take pager.cursor := by
    rcases known with inside | same
    · rw [← longer, List.take_append_of_le_length inside]
    · rw [same]
  have ends : min (min pager.cursor (pager.numbered.log.held recipient).length)
      (pager.cursor - size) = min received.length (pager.cursor - size) := by
    have no_shorter : received.length ≤ (pager.numbered.log.held recipient).length := by
      rw [← longer, List.length_append]
      exact Nat.le_add_right _ _
    rcases known with inside | same
    · omega
    · rw [same]
      omega
  have answer := backwards_eq pager.numbered.log recipient (Nat.sub_le pager.cursor size)
  rw [reached, ends] at answer
  exact ⟨_, _, answer, reverse_drop_eq_append (Nat.sub_le _ _)⟩

/-- Whether the pages so far are what stands from the cursor on, newest first. -/
def Gives (received : List (Indexed Envelope)) (pager : Pager) : Prop :=
  ∃ pages : List (List (Indexed Envelope)),
    pager.answers.map (Except.map (·.events)) = pages.map (fun page => .ok (page.map (·.item))) ∧
      pages.flatten = (received.drop pager.cursor).reverse

/-- Whether a recipient who had received some entries when they began to page has got just those
from the cursor on. -/
structure Tracks (recipient : Key) (received : List (Indexed Envelope)) (pager : Pager) : Prop where
  kept : received <+: pager.numbered.log.held recipient
  inside : pager.cursor ≤ received.length
  gives : Gives received pager

/-- A page goes on where the pages so far end. -/
theorem tracks_step_page (kept : received <+: pager.numbered.log.held recipient)
    (known : pager.cursor ≤ received.length ∨ pager.numbered.log.held recipient = received)
    (gives : Gives received pager) (size : Nat) :
    Tracks recipient received (pager.step recipient (.page size)) ∧
      (pager.step recipient (.page size)).cursor = min received.length (pager.cursor - size) := by
  obtain ⟨page, start, answer, goes_on⟩ := page_spec kept known size
  obtain ⟨pages, answers, given⟩ := gives
  have moved : (pager.step recipient (.page size)).cursor =
      min received.length (pager.cursor - size) := by
    rw [step, answer]
  refine ⟨⟨kept, ?_, pages ++ [page], ?_, ?_⟩, moved⟩
  · rw [moved]
    exact Nat.min_le_left _ _
  · rw [step, List.map_append, List.map_append, answers, List.map_singleton, answer]
    rfl
  · rw [moved, goes_on, List.flatten_append, List.flatten_singleton, given]

/-- Whatever happens, the pages keep track, and each one moves the cursor by its size. -/
theorem Tracks.step (tracks : Tracks recipient received pager) (turn : Turn) :
    Tracks recipient received (pager.step recipient turn) ∧
      (pager.step recipient turn).cursor = pager.cursor - turn.size := by
  cases turn with
  | other operation =>
    have longer := prefix_perform pager.numbered operation recipient
    exact ⟨{ tracks with kept := tracks.kept.trans longer }, rfl⟩
  | page size =>
    obtain ⟨later, moved⟩ := tracks_step_page tracks.kept (.inl tracks.inside) tracks.gives size
    refine ⟨later, moved.trans (Nat.min_eq_right ?_)⟩
    exact Nat.le_trans (Nat.sub_le _ _) tracks.inside

theorem Tracks.run (tracks : Tracks recipient received pager) (turns : List Turn) :
    Tracks recipient received (pager.run recipient turns) ∧
      (pager.run recipient turns).cursor = pager.cursor - (turns.map Turn.size).sum := by
  induction turns generalizing pager with
  | nil => exact ⟨tracks, rfl⟩
  | cons turn rest ih =>
    obtain ⟨now, moved⟩ := tracks.step turn
    obtain ⟨later, reached⟩ := ih now
    refine ⟨later, reached.trans ?_⟩
    rw [moved, List.map_cons, List.sum_cons, Nat.sub_sub]

end Pager

/-- The longest window forward of one recipient holds all that has been sent to them. -/
theorem Records.merged_singleton (records : Records numbered sent) (recipient : Key) :
    merged sent [recipient] 0 numbered.counter.current = sentTo recipient sent := by
  have all : between sent 0 numbered.counter.current = sent :=
    List.filter_eq_self.mpr fun sending mem =>
      decide_eq_true ⟨Nat.zero_le _, records.below sending mem⟩
  rw [merged, all, sentTo_eq_flatMap]
  refine List.flatMap_congr fun sending _ => ?_
  by_cases mine : sending.item.2 = recipient
  · rw [if_pos mine, mine, List.count_singleton_self]
    rfl
  · rw [if_neg mine, List.count_singleton, if_neg fun same => mine (beq_iff_eq.mp same).symm]
    rfl

/-- The longest page back is the longest window forward, reversed. -/
theorem Records.backwards_eq_reverse (records : Records numbered sent) (recipient : Key) :
    let count := (numbered.log.held recipient).length
    ∃ window, numbered.log.forwards numbered.counter [recipient] 0 numbered.counter.current =
        .ok window ∧
      numbered.log.backwards recipient count 0 = .ok ⟨window.events.reverse, count, 0⟩ := by
  intro count
  have page : numbered.log.backwards recipient count 0 =
      .ok ⟨((numbered.log.held recipient).map (·.item)).reverse, count, 0⟩ := by
    rw [backwards_eq _ _ (Nat.zero_le _), List.drop_zero, List.take_length, Nat.min_self,
      Nat.min_zero, List.map_reverse]
  have window := records.forwards_eq (Nat.zero_le numbered.counter.current) [recipient]
  simp only [Nat.min_self, records.merged_singleton, ← records.held] at window
  rw [page]
  split at window
  next unused =>
    -- If no index has been given out, nothing has been sent.
    have nothing : numbered.log.held recipient = [] := by
      rw [records.held, ← records.merged_singleton, Nat.le_zero.mp unused]
      refine List.eq_nil_iff_forall_not_mem.mpr fun entry mem => ?_
      obtain ⟨sending, -, -, below, -⟩ := mem_merged_iff.mp mem
      exact Nat.not_lt_zero _ below
    exact ⟨_, window, by rw [nothing]; rfl⟩
  next => exact ⟨_, window, rfl⟩

/-- A recipient pages back in a log that has been written from the start, from whatever index and
while other logs took indices from its counter. A page gives the entries they were sent at the
numbers from its upper bound, or the number of all entries if that is lower, down to its lower
bound, all of which there are. If the bounds leave no room it gives nothing. A page that does not go
beyond what was there stays the same whatever is sent. Paging from the end, with pages of any sizes
and whatever is sent meanwhile, gives every entry from the cursor on that was there at the first
page, newest first and each once, and moves the cursor down by the sizes, to 0 in the end. The
longest page is the longest window forward, reversed. -/
theorem pages_keep_their_places (start : Counter) (operations : List Operation)
    (recipient : Key) :
    let done := run { counter := start } operations
    let received := sentTo recipient (history start.current operations)
    let count := received.length
    (∀ start stop, stop ≤ start →
      (min start count ≤ stop → done.log.backwards recipient start stop =
        .ok (.empty (min start count) (min start count))) ∧
      (stop < min start count → ∃ events segment,
        done.log.backwards recipient start stop = .ok ⟨events, min start count, stop⟩ ∧
        events.length = min start count - stop ∧
        (∀ offset < min start count - stop,
          events[offset]? = received[min start count - 1 - offset]?.map (·.item)) ∧
        done.log.segments.get? recipient = some segment ∧ min start count ≤ segment.length)) ∧
    (done.log.segments.get? recipient = none → ∀ start stop, stop ≤ start →
      done.log.backwards recipient start stop = .ok (.empty 0 0)) ∧
    (∀ start stop later, start ≤ count →
      (run done later).log.backwards recipient start stop =
        done.log.backwards recipient start stop) ∧
    (∀ first size turns, count ≤ first →
      let pager := Pager.run recipient { numbered := done, cursor := first } (.page size :: turns)
      pager.cursor = min count (first - size) - (turns.map Turn.size).sum ∧
      received.Pairwise (·.index < ·.index) ∧
      ∃ pages : List (List (Indexed Envelope)), pager.answers.map (Except.map (·.events)) =
          pages.map (fun page => .ok (page.map (·.item))) ∧
        pages.flatten = (received.drop pager.cursor).reverse) ∧
    ∃ window, done.log.forwards done.counter [recipient] 0 done.counter.current = .ok window ∧
      done.log.backwards recipient count 0 = .ok ⟨window.events.reverse, count, 0⟩ := by
  intro done received count
  have records : Records done (history start.current operations) := records_run start operations
  have held : done.log.held recipient = received := records.held recipient
  refine ⟨fun start stop ordered => ?_, fun unknown start stop ordered => ?_,
    fun start stop later inside => ?_, fun first size turns from_end => ?_, ?_⟩
  · rw [show count = (done.log.held recipient).length by rw [held], ← held]
    exact ⟨backwards_of_le ordered, backwards_of_lt ordered⟩
  · rw [backwards, if_neg (Nat.not_lt.mpr ordered), unknown]
  · exact backwards_run done later (held ▸ inside) stop
  · have gives : Pager.Gives received { numbered := done, cursor := first } :=
      ⟨[], rfl, by rw [List.drop_of_length_le from_end]; rfl⟩
    have kept : received <+: done.log.held recipient := held ▸ List.prefix_refl _
    obtain ⟨began, moved⟩ := Pager.tracks_step_page kept (.inr held) gives size
    obtain ⟨tracks, reached⟩ := began.run turns
    rw [moved] at reached
    exact ⟨reached, held ▸ records.ascending_held recipient, tracks.gives⟩
  · have reversed := records.backwards_eq_reverse recipient
    rw [held] at reversed
    exact reversed

section Meanwhile

/-- A fourth note is sent while its recipient pages back. -/
def fourth : Operation :=
  .send (note "fourth") "ann"

/-- The fourth note is on none of the pages, and moves none of the others. -/
theorem pages_keep_their_places_meanwhile :
    let done := run { counter := ⟨5⟩ } interleaved
    let pager := Pager.run "ann" { numbered := done, cursor := 10 }
      [.page 9, .other fourth, .page 5]
    done.log.backwards "ann" 10 1 = .ok ⟨[note "third"], 2, 1⟩ ∧
    done.log.backwards "eve" 4 2 = .ok (.empty 0 0) ∧
    (run done [fourth]).log.backwards "ann" 2 1 = done.log.backwards "ann" 2 1 ∧
    pager.cursor = 0 ∧
    ∃ pages : List (List (Indexed Envelope)), pager.answers.map (Except.map (·.events)) =
        pages.map (fun page => .ok (page.map (·.item))) ∧
      pages.flatten = [⟨8, note "third"⟩, ⟨5, note "first"⟩] := by
  intro done pager
  obtain ⟨reads, -, stays, paging, -⟩ := pages_keep_their_places ⟨5⟩ interleaved "ann"
  obtain ⟨-, unknown, -⟩ := pages_keep_their_places ⟨5⟩ interleaved "eve"
  obtain ⟨events, segment, answer, length, numbers, -⟩ :=
    (reads 10 1 (by decide)).2 (by decide +kernel)
  obtain ⟨cursor, -, pages, answers, given⟩ :=
    paging 10 9 [.other fourth, .page 5] (by decide +kernel)
  have at_start : pager.cursor = 0 := cursor.trans (by decide +kernel)
  refine ⟨?_, unknown (by decide +kernel) 4 2 (by decide),
    stays 2 1 [fourth] (by decide +kernel), at_start, pages, answers, ?_⟩
  · obtain ⟨event, rfl⟩ := List.length_eq_one_iff.mp (length.trans (by decide +kernel))
    have third : some event = some (note "third") :=
      (numbers 0 (by decide +kernel)).trans (by decide +kernel)
    rw [answer, Option.some.inj third]
    decide +kernel
  · rw [given]
    change ((sentTo "ann" (history 5 interleaved)).drop pager.cursor).reverse = _
    rw [at_start]
    decide +kernel

end Meanwhile

end ChatFeed.FanInLog
