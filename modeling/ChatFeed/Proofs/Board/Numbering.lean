import ChatFeed.Directory.Roster
import ChatFeed.Proofs.Board.Entering
import ChatFeed.Proofs.Collection.Sorted

/-!
# How a board numbers its entries

The logs of a board may share a counter, and each write takes its indices from there, in its turn.
So the indices that are taken from a counter follow one another without a gap, whichever log takes
them, and no two logs keep anything at the same index.

## Main definitions

* `Board.Stores`: something is kept in a log of the board at an index
* `Board.taken`, `Board.takenAlong`: the indices that operations take from a counter
* `Board.IsNumbered`: a board on which no two logs collide

## Main results

* `Board.exists_taken_eq`, `Board.IsNumbered.perform`: what an operation takes and leaves
* `Board.write_takes`: what a write takes, by what it gives
* `Board.logs_never_collide`: what any sequence of operations takes and leaves
-/

namespace ChatFeed

namespace Board

/-! ### Indices taken -/

/-- The name of the counter that a log uses. -/
def counterOf? (board : Board) (name : String) : Option String :=
  (board.logs.get? name).map (·.counter)

/-- The end of a log: where its counter stands. -/
def max? (board : Board) (name : String) : Option Nat :=
  (board.counterOf? name).map fun counterName => (board.counter counterName).current

/-- Whether a log keeps anything at an index. -/
def Stores (board : Board) (name : String) (index : Nat) : Prop :=
  ∃ placed, board.logs.get? name = some placed ∧ placed.log.Stores index

/-- The index at which a timeline or a presence log keeps what an entry is about. -/
def placeOf? (board : Board) (name : String) (entry : Entry) : Option Nat :=
  (board.logs.get? name).bind fun placed => placed.log.placeOf? entry

/-- The indices that a write takes: those it gives back, or if it fails because the directory does
not answer, the one at which the entry stands all the same. -/
def takenBy (board : Board) (name : String) (entry : Entry) : List Nat :=
  match board.write name entry with
  | (.ok receipt, _) => receipt.given
  | (.error (.log (.membership _)), after) => (after.placeOf? name entry).toList
  | (.error _, _) => []

/-- The indices that an operation takes from a counter. An increment gives where the counter then
stands, one beyond the index taken. -/
def taken (board : Board) (counterName : String) : Operation → List Nat
  | .write name entry =>
    if board.counterOf? name = some counterName then board.takenBy name entry else []
  | .increment other => if other = counterName then [(board.increment other).1 - 1] else []
  | .direct _ | .act _ => []

/-- The indices that a sequence of operations takes from a counter, in order. -/
def takenAlong (board : Board) (counterName : String) : List Operation → List Nat
  | [] => []
  | operation :: rest =>
    board.taken counterName operation ++ (board.perform operation).2.takenAlong counterName rest

variable {board : Board} {name counterName : String} {entry : Entry}

theorem counterOf?_of_get? {placed : PlacedLog} (found : board.logs.get? name = some placed) :
    board.counterOf? name = some placed.counter := by
  rw [counterOf?, found]
  rfl

theorem max?_of_get? {placed : PlacedLog} (found : board.logs.get? name = some placed) :
    board.max? name = some (board.counter placed.counter).current := by
  rw [max?, counterOf?_of_get? found]
  rfl

/-- A write is turned away by the board, which stays as it is, or is entered in its log. -/
theorem write_enters (board : Board) (name : String) (entry : Entry) :
    (∃ e, (∀ cause, e ≠ .log cause) ∧ board.write name entry = (.error e, board)) ∨
    ∃ placed result feed count, board.logs.get? name = some placed ∧
      AnyLog.Enters entry (board.feed placed) feed result count ∧
      board.write name entry =
        (result.mapError .log, board.putFeed name id placed.counter feed) := by
  obtain ⟨e, refused, written⟩ | ⟨placed, result, feed, found, entered, written⟩ :=
    board.write_cases name entry
  · refine .inl ⟨e, ?_, written⟩
    rcases refused with rfl | rfl <;> exact fun _ => nofun
  · obtain ⟨count, enters⟩ := AnyLog.enters_of_enter? entered
    exact .inr ⟨placed, result, feed, count, found, enters, written⟩

/-- A write takes as many indices as its log counts, the next ones. -/
theorem takenBy_eq {placed : PlacedLog} {result : Except LogError Receipt} {feed : Feed AnyLog}
    {count : Nat} (enters : AnyLog.Enters entry (board.feed placed) feed result count)
    (written : board.write name entry =
      (result.mapError .log, board.putFeed name id placed.counter feed)) :
    board.takenBy name entry =
      List.range' (board.counter placed.counter).current count := by
  rw [takenBy, written]
  cases enters.numbers with
  | given receipt indices => exact indices
  | kept cause kept_at =>
    have place : (board.putFeed name id placed.counter feed).placeOf? name entry =
        some (board.counter placed.counter).current := by
      rw [placeOf?, get?_logs_putFeed, if_pos rfl]
      exact kept_at
    change ((board.putFeed name id placed.counter feed).placeOf? name entry).toList = _
    rw [place]
    rfl
  | refused id unchanged => rfl

/-- An operation takes the next indices from a counter, as many as it counts. -/
theorem exists_taken_eq (board : Board) (counterName : String) (operation : Operation) :
    ∃ count, board.taken counterName operation =
        List.range' (board.counter counterName).current count ∧
      ((board.perform operation).2.counter counterName).current =
        (board.counter counterName).current + count := by
  cases operation with
  | direct directory => exact ⟨0, rfl, rfl⟩
  | act action => exact ⟨0, rfl, rfl⟩
  | increment other =>
    by_cases same : other = counterName
    · subst same
      refine ⟨1, ?_, ?_⟩
      · rw [taken, if_pos rfl]
        rfl
      · rw [perform, increment, counter, Table.getD, Table.get?_insert_self]
        rfl
    · refine ⟨0, ?_, ?_⟩
      · rw [taken, if_neg same]
        rfl
      · rw [perform, increment, counter, Table.getD, Table.get?_insert_of_ne _ same]
        rfl
  | write name entry =>
    rw [taken, perform]
    obtain ⟨e, not_log, refused⟩ | ⟨placed, result, feed, count, found, enters, written⟩ :=
      board.write_enters name entry
    · refine ⟨0, ?_, ?_⟩
      · have none_taken : board.takenBy name entry = [] := by
          rw [takenBy, refused]
          cases e with
          | log cause => exact absurd rfl (not_log cause)
          | unknownLog name => rfl
          | wrongKind name => rfl
        rw [none_taken, ite_self]
        rfl
      · rw [refused]
        rfl
    · rw [counterOf?_of_get? found, written, takenBy_eq enters written]
      -- A write takes nothing from any counter but that of its log.
      by_cases same : placed.counter = counterName
      · subst same
        refine ⟨count, if_pos rfl, ?_⟩
        simp only [counter_putFeed, if_true]
        exact enters.counter
      · refine ⟨0, ?_, ?_⟩
        · rw [if_neg fun equal => same (Option.some.inj equal)]
          rfl
        · simp only [counter_putFeed, if_neg same]
          rfl

/-- Along any operations the indices taken from a counter follow one another. -/
theorem exists_takenAlong_eq (board : Board) (counterName : String)
    (operations : List Operation) :
    ∃ count, board.takenAlong counterName operations =
        List.range' (board.counter counterName).current count ∧
      ((board.run operations).2.counter counterName).current =
        (board.counter counterName).current + count := by
  induction operations generalizing board with
  | nil => exact ⟨0, rfl, rfl⟩
  | cons operation rest ih =>
    obtain ⟨first, taken, counted⟩ := board.exists_taken_eq counterName operation
    obtain ⟨later, taken_later, counted_later⟩ := ih (board.perform operation).2
    refine ⟨first + later, ?_, ?_⟩
    · rw [takenAlong, taken, taken_later, counted, List.range'_append_1]
    · rw [run_cons, counted_later, counted, Nat.add_assoc]

/-! ### No collisions -/

/-- A board on which everything stands from where the counters started up to below where they stand
now, and at no index in two logs with the same counter. -/
structure IsNumbered (starts : String → Nat) (board : Board) : Prop where
  started : ∀ counterName, starts counterName ≤ (board.counter counterName).current
  within : ∀ name placed index, board.logs.get? name = some placed → placed.log.Stores index →
    starts placed.counter ≤ index ∧ index < (board.counter placed.counter).current
  apart : ∀ name other placed beside index, board.logs.get? name = some placed →
    board.logs.get? other = some beside → placed.counter = beside.counter →
    placed.log.Stores index → beside.log.Stores index → name = other

variable {starts : String → Nat} {placed : PlacedLog} {feed : Feed AnyLog}
  {result : Except LogError Receipt} {count : Nat}

/-- No write sets a counter back. -/
theorem le_counter_putFeed (name : String)
    (enters : AnyLog.Enters entry (board.feed placed) feed result count) (other : String) :
    (board.counter other).current ≤
      ((board.putFeed name id placed.counter feed).counter other).current := by
  rw [counter_putFeed]
  split
  next same =>
    subst same
    rw [enters.counter]
    exact Nat.le_add_right _ _
  next => exact Nat.le_refl _

/-- What is entered stands where its log had nothing yet, nor any other log with its counter. -/
theorem IsNumbered.putFeed (numbered : board.IsNumbered starts)
    (found : board.logs.get? name = some placed)
    (enters : AnyLog.Enters entry (board.feed placed) feed result count) :
    (board.putFeed name id placed.counter feed).IsNumbered starts := by
  have grown (other : String) := le_counter_putFeed name enters other
  have reached : ((board.putFeed name id placed.counter feed).counter placed.counter).current =
      (board.counter placed.counter).current + count := by
    rw [counter_putFeed, if_pos rfl, enters.counter]
    rfl
  have below_before {other : String} {beside : PlacedLog} {index : Nat}
      (at_other : board.logs.get? other = some beside) (stores : beside.log.Stores index)
      (same : placed.counter = beside.counter) :
      index < (board.counter placed.counter).current :=
    same ▸ (numbered.within other beside index at_other stores).2
  constructor
  case started => exact fun other => Nat.le_trans (numbered.started other) (grown other)
  case within =>
    -- What is new was numbered between the two positions of the counter.
    intro other beside index at_other stores
    rw [get?_logs_putFeed] at at_other
    split at at_other
    next =>
      obtain rfl := Option.some.inj at_other
      have started := numbered.started placed.counter
      rcases enters.stores index stores with old | ⟨above, below⟩
      · obtain ⟨above, below⟩ := numbered.within name placed index found old
        exact ⟨above, Nat.lt_of_lt_of_le below (grown _)⟩
      · exact ⟨Nat.le_trans started above, reached ▸ below⟩
    next =>
      obtain ⟨above, below⟩ := numbered.within other beside index at_other stores
      exact ⟨above, Nat.lt_of_lt_of_le below (grown _)⟩
  case apart =>
    -- At most one of two logs has just been written to. What is new in it stands where the counter
    -- was or beyond, and what the other one keeps stands below.
    intro first second one two index at_first at_second same stores_one stores_two
    rw [get?_logs_putFeed] at at_first at_second
    split at at_first
    next is_first =>
      split at at_second
      next is_second => exact is_first.symm.trans is_second
      next =>
        obtain rfl := Option.some.inj at_first
        rcases enters.stores index stores_one with old | ⟨above, -⟩
        · exact is_first ▸ numbered.apart name second placed two index found at_second same old
            stores_two
        · exact absurd above (Nat.not_le.mpr (below_before at_second stores_two same))
    next =>
      split at at_second
      next is_second =>
        obtain rfl := Option.some.inj at_second
        rcases enters.stores index stores_two with old | ⟨above, -⟩
        · exact is_second ▸ numbered.apart first name one placed index at_first found same
            stores_one old
        · exact absurd above (Nat.not_le.mpr (below_before at_first stores_one same.symm))
      next =>
        exact numbered.apart first second one two index at_first at_second same stores_one
          stores_two

theorem IsNumbered.perform (numbered : board.IsNumbered starts) (operation : Operation) :
    (board.perform operation).2.IsNumbered starts := by
  cases operation with
  | direct directory => exact ⟨numbered.started, numbered.within, numbered.apart⟩
  | act action => exact ⟨numbered.started, numbered.within, numbered.apart⟩
  | increment counterName =>
    have grown (other : String) : (board.counter other).current ≤
        ((board.perform (.increment counterName)).2.counter other).current := by
      obtain ⟨count, -, counted⟩ := board.exists_taken_eq other (.increment counterName)
      rw [counted]
      exact Nat.le_add_right _ _
    refine ⟨fun other => Nat.le_trans (numbered.started other) (grown other), ?_, numbered.apart⟩
    intro name placed index found stores
    obtain ⟨above, below⟩ := numbered.within name placed index found stores
    exact ⟨above, Nat.lt_of_lt_of_le below (grown _)⟩
  | write name entry =>
    rw [Board.perform]
    obtain ⟨e, -, refused⟩ | ⟨placed, result, feed, count, found, enters, written⟩ :=
      board.write_enters name entry
    · rw [refused]
      exact numbered
    · rw [written]
      exact numbered.putFeed found enters

theorem IsNumbered.run (numbered : board.IsNumbered starts) (operations : List Operation) :
    (board.run operations).2.IsNumbered starts := by
  induction operations generalizing board with
  | nil => exact numbered
  | cons operation rest ih => exact ih (numbered.perform operation)

/-- A board on which nothing has been entered yet. -/
theorem isNumbered_of_unused (unused : ∀ entry ∈ board.logs.entries, entry.2.log ∈ AnyLog.unused) :
    board.IsNumbered fun counterName => (board.counter counterName).current where
  started _ := Nat.le_refl _
  within _ _ index found stores :=
    absurd stores (AnyLog.not_stores_of_mem_unused (unused _ (Table.mem_of_lookup found)) index)
  apart _ _ _ _ index found _ _ stores _ :=
    absurd stores (AnyLog.not_stores_of_mem_unused (unused _ (Table.mem_of_lookup found)) index)

/-- No log is moved to another counter. -/
theorem counterOf?_perform (board : Board) (operation : Operation) (name : String) :
    (board.perform operation).2.counterOf? name = board.counterOf? name := by
  cases operation with
  | direct directory => rfl
  | act action => rfl
  | increment counterName => rfl
  | write other entry =>
    rw [perform]
    obtain ⟨e, -, refused⟩ | ⟨placed, result, feed, count, found, -, written⟩ :=
      board.write_enters other entry
    · rw [refused]
    · rw [written, counterOf?, get?_logs_putFeed]
      split
      next same =>
        subst same
        exact (counterOf?_of_get? found).symm
      next => rfl

theorem counterOf?_run (board : Board) (operations : List Operation) (name : String) :
    (board.run operations).2.counterOf? name = board.counterOf? name := by
  induction operations generalizing board with
  | nil => rfl
  | cons operation rest ih => exact (ih _).trans (board.counterOf?_perform operation name)

/-- What a write takes from the counter of its log, by what it gives: an index for everything the
entry has to be numbered if it succeeds, one if the directory does not answer, and none if the entry
is turned away, when nothing is written either. -/
theorem write_takes (uses : board.counterOf? name = some counterName) (entry : Entry) :
    match board.write name entry with
    | (.ok receipt, after) => receipt.given.length = entry.size ∧
      (after.counter counterName).current = (board.counter counterName).current + entry.size
    | (.error (.log (.membership _)), after) =>
      board.takenBy name entry = [(board.counter counterName).current] ∧
        (after.counter counterName).current = (board.counter counterName).current + 1
    | (.error _, after) => after.counter counterName = board.counter counterName ∧
      ∀ other, after.logs.get? other = board.logs.get? other := by
  obtain ⟨e, not_log, refused⟩ | ⟨placed, result, feed, count, found, enters, written⟩ :=
    board.write_enters name entry
  · rw [refused]
    cases e with
    | log cause => exact absurd rfl (not_log cause)
    | unknownLog name => exact ⟨rfl, fun _ => rfl⟩
    | wrongKind name => exact ⟨rfl, fun _ => rfl⟩
  · obtain rfl := Option.some.inj ((counterOf?_of_get? found).symm.trans uses)
    have taken := takenBy_eq enters written
    have counted : (board.putFeed name id placed.counter feed).counter placed.counter =
        feed.counter := by rw [counter_putFeed, if_pos rfl]
    rw [written]
    cases enters.numbers with
    | given receipt indices =>
      refine ⟨?_, ?_⟩
      · rw [indices, List.length_range']
      · rw [counted, enters.counter]
        rfl
    | kept cause kept_at =>
      refine ⟨taken, ?_⟩
      rw [counted, enters.counter]
      rfl
    | refused id unchanged =>
      refine ⟨counted.trans (congrArg Feed.counter unchanged), fun other => ?_⟩
      rw [get?_logs_putFeed, unchanged]
      split
      next same =>
        subst same
        exact found.symm
      next => rfl

/-- Nothing has been entered in the logs of a board, whose counters stand anywhere. Whatever is then
done to it, the indices taken from a counter are those from where it stood to where it stands, in
order. A write that succeeds takes one for everything it has to number, one that fails because the
directory does not answer takes one, and one that is turned away takes none and leaves no trace.
Every log ends where its counter stands, keeps nothing outside of what has been taken from there,
and keeps nothing at an index at which another log with the same counter does. -/
theorem logs_never_collide (board : Board)
    (unused : ∀ entry ∈ board.logs.entries, entry.2.log ∈ AnyLog.unused)
    (operations : List Operation) (counterName : String) :
    let start := (board.counter counterName).current
    let done := (board.run operations).2
    let current := (done.counter counterName).current
    (∃ count, board.takenAlong counterName operations = List.range' start count ∧
      current = start + count) ∧
    (∀ name entry, done.counterOf? name = some counterName →
      match done.write name entry with
      | (.ok receipt, after) => receipt.given.length = entry.size ∧
        (after.counter counterName).current = current + entry.size
      | (.error (.log (.membership _)), after) => done.takenBy name entry = [current] ∧
        (after.counter counterName).current = current + 1
      | (.error _, after) => after.counter counterName = done.counter counterName ∧
        ∀ other, after.logs.get? other = done.logs.get? other) ∧
    (∀ name, board.counterOf? name = some counterName → done.max? name = some current ∧
      ∀ index, done.Stores name index → start ≤ index ∧ index < current) ∧
    ∀ name other index, done.counterOf? name = some counterName →
      done.counterOf? other = some counterName →
      done.Stores name index → done.Stores other index → name = other := by
  intro start done current
  have numbered := (isNumbered_of_unused unused).run operations
  have placed_on {name : String} {placed : PlacedLog} (found : done.logs.get? name = some placed)
      (uses : done.counterOf? name = some counterName) : placed.counter = counterName := by
    rw [counterOf?, found] at uses
    exact Option.some.inj uses
  refine ⟨board.exists_takenAlong_eq counterName operations,
    fun name entry uses => write_takes uses entry, fun name uses => ?_, ?_⟩
  · have still_uses : done.counterOf? name = some counterName :=
      (board.counterOf?_run operations name).trans uses
    refine ⟨?_, ?_⟩
    · rw [max?, still_uses]
      rfl
    · rintro index ⟨placed, found, stores⟩
      have within := numbered.within name placed index found stores
      rwa [placed_on found still_uses] at within
  · rintro name other index uses uses_other ⟨placed, found, stores⟩ ⟨beside, at_other, stores_other⟩
    have same : placed.counter = beside.counter :=
      (placed_on found uses).trans (placed_on at_other uses_other).symm
    exact numbered.apart name other placed beside index found at_other same stores stores_other

section Shared

/-- Something that is said in a room, or in none. -/
def saying (room : Option RoomId) : Event where
  id := Id.ofParts .event "hello" "example.org"
  room := room
  sender := Id.ofParts .user "host" "example.org"
  time := default
  content := .message "m.text" "hello"

/-- A fan-out log and a timeline that share a counter, and a directory that does not answer. -/
def shared : Board where
  counters := (∅ : Table String Counter).insert "shared" ⟨5⟩
  logs := ((∅ : Table String PlacedLog).insert "notes" ⟨.fanOut {}, "shared"⟩).insert "lobby"
    ⟨.timeline {}, "shared"⟩
  directory := Roster.directory { outage := some "offline" }

/-- A batch of two is sent, a message is recorded for nobody, an index is taken, and a message of no
room is turned away. -/
def mixed : List Operation :=
  [.write "notes" (.fanOutBatch
      [((saying none).envelope, ["ann"]), ((saying none).envelope, ["bob"])]),
    .write "lobby" (.event (saying (some (Id.ofParts .room "lobby" "example.org")))),
    .increment "shared", .write "lobby" (.event (saying none))]

theorem logs_never_collide_shared :
    let done := (shared.run mixed).2
    shared.takenAlong "shared" mixed = [5, 6, 7, 8] ∧ done.max? "lobby" = some 9 ∧
      (∀ index, done.Stores "lobby" index → 5 ≤ index ∧ index < 9) ∧
      ∀ index, done.Stores "lobby" index → ¬done.Stores "notes" index := by
  intro done
  obtain ⟨⟨count, taken, counted⟩, -, ends, apart⟩ :=
    logs_never_collide shared (by decide +kernel) mixed "shared"
  obtain ⟨ends_at, within⟩ := ends "lobby" (by decide +kernel)
  have reached : ((shared.run mixed).2.counter "shared").current = 9 := by decide +kernel
  have started : (shared.counter "shared").current = 5 := by decide +kernel
  have four : count = 4 := by omega
  rw [reached] at ends_at within
  rw [started, four] at taken
  rw [started] at within
  refine ⟨taken, ends_at, within, fun index in_lobby in_notes => ?_⟩
  have same := apart "lobby" "notes" index (by decide +kernel) (by decide +kernel) in_lobby in_notes
  exact absurd same (by decide)

end Shared

end Board

end ChatFeed
