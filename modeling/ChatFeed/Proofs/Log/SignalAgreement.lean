import ChatFeed.Proofs.Log.FanOut

/-!
# Signals beside a fan-out log

A signal log is written as a fan-out log is: what is pushed goes into the segment of each recipient,
over what has its identity. The two part where they are read. A fan-out log cuts the window to its
counter, tells how far it has covered it, and refuses bounds in the wrong order; a signal log takes
the window as it is and tells the highest index in it. As nothing stands at the counter or beyond,
the cut leaves nothing out, and both give the same.

## Main definitions

* `SignalLog.Operation`, `SignalLog.run`: what happens to a signal log and its counter
* `SignalLog.Operation.asSend`, `SignalLog.Numbered.asFanOut`: the same for a fan-out log

## Main results

* `SignalLog.run_asSend`: both are written alike
* `SignalLog.agrees_with_fan_out`: and give the same
-/

namespace ChatFeed

/-- The highest index among some items, or 0 without any. -/
theorem foldl_max_index {α : Type} (items : List (Indexed α)) :
    items.foldl (fun highest item => max highest item.index) 0 =
      (items.map (·.index)).max?.getD 0 := by
  cases items with
  | nil => rfl
  | cons first rest =>
    rw [List.foldl_cons, Nat.zero_max, List.map_cons, List.max?_cons', Option.getD_some,
      List.foldl_map]

namespace SignalLog

/-! ### What is pushed -/

/-- What happens to a signal log: a signal is pushed, or another log takes an index from the
counter. -/
inductive Operation where
  | push (envelope : Envelope) (recipients : List Key)
  | pass

/-- A signal log with the counter that numbers its signals. -/
structure Numbered where
  log : SignalLog := {}
  counter : Counter

/-- The indices that an operation gives back, and what it leaves. -/
def perform (numbered : Numbered) : Operation → List Nat × Numbered
  | .push envelope recipients =>
    let (index, log, counter) := numbered.log.push numbered.counter envelope recipients
    ([index], ⟨log, counter⟩)
  | .pass => ([], { numbered with counter := numbered.counter.advance })

/-- The indices that a sequence of operations gives back, and what it leaves. -/
def run (numbered : Numbered) : List Operation → List Nat × Numbered
  | [] => ([], numbered)
  | operation :: rest =>
    let (indices, numbered) := perform numbered operation
    let (later, numbered) := run numbered rest
    (indices ++ later, numbered)

/-- What happens to a fan-out log where a signal that is pushed is sent. -/
def Operation.asSend : Operation → FanOutLog.Operation
  | push envelope recipients => .send envelope recipients
  | pass => .pass

/-- A fan-out log with the same segments, and the same counter. -/
def Numbered.asFanOut (numbered : Numbered) : FanOutLog.Numbered :=
  ⟨⟨numbered.log.segments⟩, numbered.counter⟩

/-! ### Writing alike -/

theorem perform_asSend (numbered : Numbered) (operation : Operation) :
    FanOutLog.perform numbered.asFanOut operation.asSend =
      ((perform numbered operation).1, (perform numbered operation).2.asFanOut) := by
  cases operation <;> rfl

/-- A fan-out log that is sent what a signal log is pushed gives the same indices and comes to keep
the same segments. -/
theorem run_asSend (numbered : Numbered) (operations : List Operation) :
    FanOutLog.run numbered.asFanOut (operations.map Operation.asSend) =
      ((run numbered operations).1, (run numbered operations).2.asFanOut) := by
  induction operations generalizing numbered with
  | nil => rfl
  | cons operation rest ih =>
    rw [List.map_cons, FanOutLog.run_cons, perform_asSend, ih]
    rfl

/-! ### Reading alike -/

/-- A signal log and a fan-out log have been empty, with counters that stand alike, and one has been
pushed what the other has been sent since, while other logs took indices from both counters. Each
push gave the index that the send did. What a recipient reads from the signal log are the last with
each identity of what they have been sent, if its index is between the bounds, in the order in which
the identities first reached them, and the highest index among them, or 0 without any; and the
fan-out log gives them the same, although it cuts the upper bound to its counter. Where the bounds
are in the wrong order the signal log gives nothing and the fan-out log refuses. -/
theorem agrees_with_fan_out (start : Counter) (operations : List Operation) :
    let signals := run { counter := start } operations
    let sends := FanOutLog.run { counter := start } (operations.map Operation.asSend)
    let sent := FanOutLog.history start.current (operations.map Operation.asSend)
    signals.1 = sends.1 ∧ signals.2.counter = sends.2.counter ∧
    (∀ recipient low high, low ≤ high →
      let entries := FanOutLog.standsBetween sent recipient low high
      signals.2.log.range recipient low high =
        (entries.map (·.item), (entries.map (·.index)).max?.getD 0) ∧
      (sends.2.log.forwards sends.2.counter recipient low high).map (·.events) =
        .ok (signals.2.log.range recipient low high).1) ∧
    ∀ recipient low high, high < low →
      signals.2.log.range recipient low high = ([], 0) ∧
      sends.2.log.forwards sends.2.counter recipient low high =
        .error (.startAboveStop low high) := by
  intro signals sends sent
  have alike : sends = (signals.1, signals.2.asFanOut) :=
    run_asSend { counter := start } operations
  have records : FanOutLog.Records sends.2 sent :=
    FanOutLog.records_run start (operations.map Operation.asSend)
  refine ⟨by rw [alike], by rw [alike]; rfl, fun recipient low high ordered => ?_,
    fun recipient low high reversed => ⟨?_, ?_⟩⟩
  · intro entries
    have held : sends.2.log.window recipient low high = entries := records.window_eq
    have read : signals.2.log.range recipient low high =
        (entries.map (·.item), (entries.map (·.index)).max?.getD 0) := by
      rw [range_eq_entries, ← foldl_max_index, ← held, alike]
      rfl
    refine ⟨read, ?_⟩
    rw [FanOutLog.forwards_eq ordered, records.window_min, held, read]
    rfl
  · rw [range, if_pos (Nat.le_of_lt reversed)]
  · rw [FanOutLog.forwards, if_pos reversed]

section Repushed

/-- A signal is pushed to two recipients and one of another identity to the first of them, another
log takes an index, and the first signal is pushed again to the first recipient. -/
def repushed : List Operation :=
  [.push (FanOutLog.note "typing" "on") ["ann", "bob"], .push (FanOutLog.note "other" "on") ["ann"],
    .pass, .push (FanOutLog.note "typing" "off") ["ann"]]

/-- The signal that was pushed again stands first and has the highest index. -/
theorem agrees_with_fan_out_repushed :
    let signals := run { counter := ⟨5⟩ } repushed
    let sends := FanOutLog.run { counter := ⟨5⟩ } (repushed.map Operation.asSend)
    signals.1 = sends.1 ∧
    signals.2.log.range "ann" 0 100 =
      ([FanOutLog.note "typing" "off", FanOutLog.note "other" "on"], 8) ∧
    (sends.2.log.forwards sends.2.counter "ann" 0 100).map (·.events) =
      .ok [FanOutLog.note "typing" "off", FanOutLog.note "other" "on"] ∧
    signals.2.log.range "ann" 8 5 = ([], 0) ∧
    sends.2.log.forwards sends.2.counter "ann" 8 5 = .error (.startAboveStop 8 5) := by
  intro signals sends
  obtain ⟨indices, -, ordered, reversed⟩ := agrees_with_fan_out ⟨5⟩ repushed
  obtain ⟨read, same⟩ := ordered "ann" 0 100 (by decide)
  obtain ⟨nothing, refused⟩ := reversed "ann" 8 5 (by decide)
  have given : signals.2.log.range "ann" 0 100 =
      ([FanOutLog.note "typing" "off", FanOutLog.note "other" "on"], 8) :=
    read.trans (by decide +kernel)
  refine ⟨indices, given, same.trans ?_, nothing, refused⟩
  rw [show (run { counter := ⟨5⟩ } repushed).2.log.range "ann" 0 100 = _ from given]

end Repushed

end SignalLog

end ChatFeed
