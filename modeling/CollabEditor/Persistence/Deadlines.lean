import CollabEditor.Persistence.RowCount
import Mathlib.Algebra.Order.Ring.Unbundled.Rat
import Mathlib.Tactic.Linarith

/-!
Owns a `DocumentWriter` on a clock: how long an update can stay in `pending`
while the flush timer is shared by successive updates, cancelled by flushes and
armed again by failed writes.

Assumes that a timer runs once it is due: time does not go past that before it
has.
-/

set_option autoImplicit false

namespace CollabEditor.Persistence

open CollabEditor.Library CollabEditor.Yjs

universe u v

variable {Op : Type u} {Entry : Type v} [DecidableEq Op]

/-! ### What a call does to the buffer -/

namespace DocumentWriter

/-- What a call or an event can do to `pending`, its size and the timer. -/
inductive Buffers (options : WriterOptions) (byteLength : Update Op → ℕ)
    (writer writer' : DocumentWriter Op) : Prop where
  | keeps (pending : writer'.pending = writer.pending)
      (bytes : writer'.pendingBytes = writer.pendingBytes) (timer : writer'.timer = writer.timer)
  /-- One more update waits, for the timer that is armed now. -/
  | adds (update : Update Op) (pending : writer'.pending = writer.pending ++ [update])
      (bytes : writer'.pendingBytes = writer.pendingBytes + byteLength update)
      (timer : writer'.timer = some (writer.timer.getD options.debounceMs))
  /-- All that waits is queued, with the update that made the batch full. -/
  | flushes (last : List (Update Op)) (pending : writer'.pending = [])
      (queued : writer'.queued = writer.queued ++ [writer.pending ++ last])
      (bytes : writer'.pendingBytes = 0) (timer : writer'.timer = none)
  /-- There was nothing to flush. -/
  | idles (empty : writer.pending = []) (pending : writer'.pending = [])
      (bytes : writer'.pendingBytes = writer.pendingBytes) (timer : writer'.timer = none)

variable {options : WriterOptions} {byteLength : Update Op → ℕ}
  {writer writer' : DocumentWriter Op}

section

omit [DecidableEq Op]

theorem flush_of_pending (writer : DocumentWriter Op) (waiting : writer.pending ≠ []) :
    writer.flush = { writer with
      timer := none
      pending := []
      pendingBytes := 0
      queued := writer.queued ++ [writer.pending] } := by
  unfold flush
  split
  · next empty => exact absurd empty waiting
  · rfl

/-- A flush, by the timer or by `close`. -/
theorem buffers_flush (writer : DocumentWriter Op) (timer : Option ℕ) (closed : Bool) :
    Buffers options byteLength writer { writer with timer := timer, closed := closed }.flush := by
  by_cases empty : writer.pending = []
  · rw [flush_of_empty]
    · exact .idles empty empty rfl rfl
    · exact empty
  · rw [flush_of_pending]
    · exact .flushes [] rfl (by rw [List.append_nil]) rfl rfl
    · exact empty

/-- An armed timer is not armed again. -/
theorem timer_schedule (isOpen : writer.closed = false) :
    (writer.schedule options).timer = some (writer.timer.getD options.debounceMs) := by
  unfold schedule
  cases armed : writer.timer with
  | none => simp [isOpen]
  | some delay => simp [armed]

/-- `schedule` changes nothing but the timer. -/
theorem schedule_pendingBytes (options : WriterOptions) (writer : DocumentWriter Op) :
    (writer.schedule options).pendingBytes = writer.pendingBytes := by
  unfold schedule
  split <;> rfl

private theorem buffers_push (isOpen : writer.closed = false) (update : Update Op) :
    Buffers options byteLength writer ({ writer with
      pending := writer.pending ++ [update]
      pendingBytes := writer.pendingBytes + byteLength update }.schedule options) := by
  refine .adds update ?_ ?_ ?_
  · rw [(schedule_queue options _).2.2]
  · rw [schedule_pendingBytes]
  · rw [timer_schedule]
    exact isOpen

/-- The end of a write leaves the buffer alone. -/
theorem Buffers.finish (moved : Buffers options byteLength writer writer') :
    Buffers options byteLength writer writer'.finish := by
  cases moved with
  | keeps pending bytes timer => exact .keeps pending bytes timer
  | adds update pending bytes timer => exact .adds update pending bytes timer
  | flushes last pending queued bytes timer => exact .flushes last pending queued bytes timer
  | idles empty pending bytes timer => exact .idles empty pending bytes timer

theorem buffers_record (isOpen : writer.closed = false) (update : Update Op) :
    Buffers options byteLength writer (writer.record options byteLength update) := by
  unfold record
  dsimp only
  split
  · rw [flush_of_pending]
    · exact .flushes [update] rfl rfl rfl rfl
    · exact List.append_ne_nil_of_right_ne_nil _ (List.cons_ne_nil _ _)
  · exact buffers_push isOpen update

end

variable {store : DocumentStore Op Entry} {entry entry' : Entry} {event : WriterEvent}

theorem buffers_step
    (stepped : writer.step store options byteLength entry event = some (writer', entry')) :
    Buffers options byteLength writer writer' := by
  cases fires_of_step stepped with
  | timerFired armed => exact buffers_flush writer none writer.closed
  | retried batch writing isOpen => exact (buffers_push isOpen (mergeParts batch)).finish
  | _ => exact .keeps rfl rfl rfl

/-- A closed writer stays closed. -/
theorem closed_of_handle {held after : DocumentWriter Op × Entry} {call : WriterCall Op}
    (handled : handle store options byteLength held call = some after)
    (isOpen : after.1.closed = false) : held.1.closed = false := by
  cases call with
  | record update =>
      cases handled
      rw [record_closed] at isOpen
      exact isOpen
  | close =>
      cases handled
      have closed : held.1.close.closed = true := flush_closed
      rw [closed] at isOpen
      cases isOpen
  | runs event => exact (step_closed handled).symm.trans isOpen

private theorem buffers_handle {held after : DocumentWriter Op × Entry} {call : WriterCall Op}
    (handled : handle store options byteLength held call = some after)
    (isOpen : held.1.closed = false) : Buffers options byteLength held.1 after.1 := by
  cases call with
  | record update =>
      cases handled
      exact buffers_record isOpen update
  | close =>
      cases handled
      exact buffers_flush held.1 _ _
  | runs event => exact buffers_step handled

end DocumentWriter

/-! ### The clock -/

/-- A writer and its document's entry on a clock. -/
structure ClockedWriter (Op : Type u) (Entry : Type v) where
  writer : DocumentWriter Op
  entry : Entry
  now : ℚ
  /-- When the armed timer fires. -/
  due : Option ℚ
  /-- When each update of `pending` was recorded or queued again. -/
  since : List ℚ

inductive ClockedEvent (Op : Type u) where
  | handles (call : WriterCall Op)
  | elapses (milliseconds : ℚ)

namespace ClockedWriter

open DocumentWriter

/-- `new DocumentWriter(..)` at some time. -/
def start (held : DocumentWriter Op × Entry) (now : ℚ) : ClockedWriter Op Entry :=
  ⟨held.1, held.2, now, none, []⟩

/-- After a call: a timer that was armed keeps its due time, one that is armed
now counts from now, and so does an update that has come to wait. -/
def moveTo (clocked : ClockedWriter Op Entry) (held : DocumentWriter Op × Entry) :
    ClockedWriter Op Entry :=
  { clocked with
    writer := held.1
    entry := held.2
    due := held.1.timer.map fun delay : ℕ => clocked.due.getD (clocked.now + delay)
    since := if held.1.pending = [] then [] else clocked.since ++
      List.replicate (held.1.pending.length - clocked.since.length) clocked.now }

/-- The timer fires when it is due, and nothing else waits for a time. -/
def allows (clocked : ClockedWriter Op Entry) : WriterCall Op → Bool
  | .runs .timerFired => clocked.due.any fun due => due ≤ clocked.now
  | _ => true

/-- A call, an event, or time that passes, up to when the timer is due. -/
def step (store : DocumentStore Op Entry) (options : WriterOptions)
    (byteLength : Update Op → ℕ) (clocked : ClockedWriter Op Entry) :
    ClockedEvent Op → Option (ClockedWriter Op Entry)
  | .handles call =>
      if clocked.allows call then
        (handle store options byteLength (clocked.writer, clocked.entry) call).map clocked.moveTo
      else none
  | .elapses milliseconds =>
      if 0 ≤ milliseconds ∧ clocked.due.all fun due => clocked.now + milliseconds ≤ due then
        some { clocked with now := clocked.now + milliseconds }
      else none

/-- What holds of the buffer of an open writer at any time. -/
structure Timely (options : WriterOptions) (byteLength : Update Op → ℕ)
    (clocked : ClockedWriter Op Entry) : Prop where
  armed : clocked.writer.pending ≠ [] → clocked.writer.timer.isSome
  due : clocked.due.isSome = clocked.writer.timer.isSome
  soon : ∀ due ∈ clocked.due, clocked.now ≤ due ∧ due ≤ clocked.now + options.debounceMs
  dated : clocked.since.length = clocked.writer.pending.length
  leaves : ∀ due ∈ clocked.due, ∀ time ∈ clocked.since, due ≤ time + options.debounceMs
  bytes : clocked.writer.pendingBytes = (clocked.writer.pending.map byteLength).sum

variable {store : DocumentStore Op Entry} {options : WriterOptions} {byteLength : Update Op → ℕ}
  {clocked after : ClockedWriter Op Entry}

section

omit [DecidableEq Op]

/-- A timer that stays as it is keeps its due time. -/
theorem Timely.due_moveTo (timely : clocked.Timely options byteLength)
    {held : DocumentWriter Op × Entry} (timer : held.1.timer = clocked.writer.timer) :
    (clocked.moveTo held).due = clocked.due := by
  have both := timely.due
  unfold moveTo
  dsimp only
  rw [timer]
  cases due : clocked.due with
  | none =>
      have unarmed : clocked.writer.timer = none := by simpa [due] using both.symm
      rw [unarmed]
      rfl
  | some time =>
      rw [due, Option.isSome_some] at both
      obtain ⟨delay, armed⟩ := Option.isSome_iff_exists.mp both.symm
      rw [armed]
      rfl

/-- Updates that stay as they are keep their times. -/
theorem Timely.since_moveTo (timely : clocked.Timely options byteLength)
    {held : DocumentWriter Op × Entry} (pending : held.1.pending = clocked.writer.pending) :
    (clocked.moveTo held).since = clocked.since := by
  have dated := timely.dated
  show ite _ _ _ = _
  rw [pending]
  split
  · next empty =>
      rw [empty] at dated
      exact (List.eq_nil_of_length_eq_zero dated).symm
  · rw [dated, Nat.sub_self, List.replicate_zero, List.append_nil]

/-- An update that comes to wait is dated now. -/
theorem Timely.since_moveTo_adds (timely : clocked.Timely options byteLength)
    {held : DocumentWriter Op × Entry} {update : Update Op}
    (pending : held.1.pending = clocked.writer.pending ++ [update]) :
    (clocked.moveTo held).since = clocked.since ++ [clocked.now] := by
  have one : held.1.pending.length - clocked.since.length = 1 := by
    rw [pending, List.length_append, timely.dated, List.length_singleton]
    omega
  show ite _ _ _ = _
  rw [if_neg (by simp [pending]), one]
  rfl

/-- The timer an update waits for: the armed one, or the one that is armed now. -/
theorem Timely.due_moveTo_adds (timely : clocked.Timely options byteLength)
    {held : DocumentWriter Op × Entry}
    (timer : held.1.timer = some (clocked.writer.timer.getD options.debounceMs)) :
    (clocked.moveTo held).due =
      some (clocked.due.getD (clocked.now + options.debounceMs)) := by
  have both := timely.due
  unfold moveTo
  dsimp only
  rw [timer, Option.map_some]
  cases due : clocked.due with
  | none =>
      have unarmed : clocked.writer.timer = none := by simpa [due] using both.symm
      rw [unarmed]
      rfl
  | some time => rfl

/-- A timer armed now is due soon, as one that was armed is. -/
theorem Timely.soon_getD (timely : clocked.Timely options byteLength) :
    clocked.now ≤ clocked.due.getD (clocked.now + options.debounceMs) ∧
      clocked.due.getD (clocked.now + options.debounceMs) ≤ clocked.now + options.debounceMs := by
  cases due : clocked.due with
  | none =>
      have positive : (0 : ℚ) ≤ options.debounceMs := Nat.cast_nonneg _
      exact ⟨le_add_of_nonneg_right positive, le_rfl⟩
  | some time => exact timely.soon time due

/-- While an update waits the timer is armed. -/
theorem Timely.exists_due (timely : clocked.Timely options byteLength) {time : ℚ}
    (member : time ∈ clocked.since) : ∃ due, clocked.due = some due := by
  have waiting : clocked.writer.pending ≠ [] := by
    intro empty
    have dated := timely.dated
    rw [empty, List.length_nil, List.length_eq_zero_iff] at dated
    rw [dated] at member
    cases member
  exact Option.isSome_iff_exists.mp (timely.due.trans (timely.armed waiting))

/-- An empty buffer with no timer. -/
theorem timely_of_empty {held : DocumentWriter Op × Entry} (bytes : held.1.pendingBytes = 0)
    (pending : held.1.pending = []) (timer : held.1.timer = none) :
    (clocked.moveTo held).Timely options byteLength := by
  have due : (clocked.moveTo held).due = none := by
    unfold moveTo
    rw [timer]
    rfl
  have since : (clocked.moveTo held).since = [] := if_pos pending
  refine ⟨fun some => absurd pending some, ?_, ?_, ?_, ?_, ?_⟩
  · rw [due]
    show _ = held.1.timer.isSome
    rw [timer]
    rfl
  · rw [due]
    intro time isDue
    cases isDue
  · rw [since]
    show _ = held.1.pending.length
    rw [pending]
    rfl
  · rw [due]
    intro time isDue
    cases isDue
  · show held.1.pendingBytes = (held.1.pending.map byteLength).sum
    rw [bytes, pending]
    rfl

private theorem timely_moveTo {held : DocumentWriter Op × Entry}
    (timely : clocked.Timely options byteLength)
    (moved : Buffers options byteLength clocked.writer held.1) :
    (clocked.moveTo held).Timely options byteLength := by
  cases moved with
  | keeps pending bytes timer =>
      have due := timely.due_moveTo timer
      have since := timely.since_moveTo pending
      refine ⟨?_, ?_, ?_, ?_, ?_, ?_⟩
      · intro some
        show held.1.timer.isSome
        rw [timer]
        exact timely.armed (pending ▸ some)
      · rw [due, timely.due, ← timer]
        rfl
      · rw [due]
        exact timely.soon
      · rw [since, timely.dated, ← pending]
        rfl
      · rw [due, since]
        exact timely.leaves
      · show held.1.pendingBytes = (held.1.pending.map byteLength).sum
        rw [bytes, pending, timely.bytes]
  | adds update pending bytes timer =>
      have since := timely.since_moveTo_adds pending
      have due := timely.due_moveTo_adds timer
      have soon := timely.soon_getD
      refine ⟨?_, ?_, ?_, ?_, ?_, ?_⟩
      · intro _
        show held.1.timer.isSome
        rw [timer, Option.isSome_some]
      · rw [due, Option.isSome_some]
        show _ = held.1.timer.isSome
        rw [timer, Option.isSome_some]
      · rw [due]
        rintro time ⟨⟩
        exact soon
      · show _ = held.1.pending.length
        rw [since, pending, List.length_append, List.length_append, timely.dated]
        rfl
      · rw [due, since]
        rintro time ⟨⟩ recorded member
        rcases List.mem_append.mp member with before | now
        · obtain ⟨due, isDue⟩ := timely.exists_due before
          rw [isDue, Option.getD_some]
          exact timely.leaves due isDue recorded before
        · rw [List.mem_singleton.mp now]
          exact soon.2
      · show held.1.pendingBytes = (held.1.pending.map byteLength).sum
        rw [bytes, pending, timely.bytes, List.map_append, List.sum_append]
        rfl
  | flushes last pending queued bytes timer =>
      refine timely_of_empty ?_ pending timer
      rw [bytes]
  | idles empty pending bytes timer =>
      refine timely_of_empty ?_ pending timer
      rw [bytes, timely.bytes, empty]
      rfl

/-- Time that passes before the timer is due. -/
theorem timely_elapses (timely : clocked.Timely options byteLength) {milliseconds : ℚ}
    (forward : 0 ≤ milliseconds)
    (before : ∀ due ∈ clocked.due, clocked.now + milliseconds ≤ due) :
    Timely options byteLength { clocked with now := clocked.now + milliseconds } := by
  refine ⟨timely.armed, timely.due, fun due isDue => ⟨before due isDue, ?_⟩, timely.dated,
    timely.leaves, timely.bytes⟩
  have soon := (timely.soon due isDue).2
  show due ≤ clocked.now + milliseconds + _
  linarith

end

private theorem step_cases {event : ClockedEvent Op}
    (stepped : clocked.step store options byteLength event = some after) :
    (∃ call held, event = .handles call ∧ clocked.allows call ∧
      handle store options byteLength (clocked.writer, clocked.entry) call = some held ∧
        after = clocked.moveTo held) ∨
    ∃ milliseconds, event = .elapses milliseconds ∧ 0 ≤ milliseconds ∧
      (∀ due ∈ clocked.due, clocked.now + milliseconds ≤ due) ∧
        after = { clocked with now := clocked.now + milliseconds } := by
  cases event with
  | handles call =>
      obtain ⟨allowed, taken⟩ := Option.ite_none_right_eq_some.mp stepped
      obtain ⟨held, handled, rfl⟩ := Option.map_eq_some_iff.mp taken
      exact Or.inl ⟨call, held, rfl, allowed, handled, rfl⟩
  | elapses milliseconds =>
      obtain ⟨⟨forward, before⟩, taken⟩ := Option.ite_none_right_eq_some.mp stepped
      cases taken
      refine Or.inr ⟨milliseconds, rfl, forward, fun due isDue => ?_, rfl⟩
      rw [Option.mem_def.mp isDue] at before
      exact of_decide_eq_true before

private theorem timely_step {event : ClockedEvent Op}
    (timely : clocked.writer.closed = false → clocked.Timely options byteLength)
    (stepped : clocked.step store options byteLength event = some after)
    (isOpen : after.writer.closed = false) : after.Timely options byteLength := by
  rcases step_cases stepped with ⟨call, held, -, -, handled, rfl⟩ | ⟨_, -, forward, before, rfl⟩
  · have wasOpen := closed_of_handle handled isOpen
    exact timely_moveTo (timely wasOpen) (buffers_handle handled wasOpen)
  · exact timely_elapses (timely isOpen) forward before

private theorem timely_start (stored : Entry) (origin : ℚ) :
    (start (fromStore store stored) origin).Timely options byteLength where
  armed some := absurd rfl some
  due := rfl
  soon _ isDue := nomatch isDue
  dated := rfl
  leaves _ isDue := nomatch isDue
  bytes := rfl

/-- The clock can reach the due time, and the timer can fire there. -/
theorem Timely.fires (timely : clocked.Timely options byteLength)
    (waiting : clocked.writer.pending ≠ []) : ∃ due waited flushed,
    clocked.step store options byteLength (.elapses (due - clocked.now)) = some waited ∧
    waited.step store options byteLength (.handles (.runs .timerFired)) = some flushed ∧
    flushed.writer.pending = [] ∧
    flushed.writer.queued = clocked.writer.queued ++ [clocked.writer.pending] := by
  have armed := timely.armed waiting
  obtain ⟨due, isDue⟩ := Option.isSome_iff_exists.mp (timely.due.trans armed)
  have soon := (timely.soon due isDue).1
  have arrives : clocked.now + (due - clocked.now) = due := add_sub_cancel _ _
  have elapses : clocked.step store options byteLength (.elapses (due - clocked.now)) =
      some { clocked with now := due } := by
    have allowed : 0 ≤ due - clocked.now ∧
        clocked.due.all (fun due' => clocked.now + (due - clocked.now) ≤ due') := by
      rw [isDue, arrives]
      exact ⟨by linarith, by simp⟩
    rw [step, if_pos allowed, arrives]
  have handled : handle store options byteLength (clocked.writer, clocked.entry)
      (.runs .timerFired) = some ({ clocked.writer with timer := none }.flush, clocked.entry) :=
    if_pos armed
  have fires : step store options byteLength { clocked with now := due }
      (.handles (.runs .timerFired)) = some (moveTo { clocked with now := due }
        ({ clocked.writer with timer := none }.flush, clocked.entry)) := by
    have allowed : allows { clocked with now := due } (.runs .timerFired) = true := by
      show clocked.due.any (fun due' => due' ≤ due) = true
      rw [isDue]
      simp
    rw [step, if_pos allowed]
    exact congrArg _ handled
  have flushed := flush_of_pending { clocked.writer with timer := none } waiting
  refine ⟨due, _, _, elapses, fires, ?_, ?_⟩
  · exact flush_pending
  · exact congrArg queued flushed

/-! ### Every run -/

/-- How long updates wait in an open writer, and for what. -/
structure BoundedWait (store : DocumentStore Op Entry) (options : WriterOptions)
    (byteLength : Update Op → ℕ) (clocked : ClockedWriter Op Entry) : Prop where
  armed : clocked.writer.pending ≠ [] → clocked.writer.timer.isSome
  bytes : clocked.writer.pendingBytes = (clocked.writer.pending.map byteLength).sum
  dated : clocked.since.length = clocked.writer.pending.length
  waits : ∀ time ∈ clocked.since, clocked.now ≤ time + options.debounceMs
  /-- Updates leave together, and only for the write queue. -/
  leaves : ∀ call held,
    handle store options byteLength (clocked.writer, clocked.entry) call = some held →
    (∃ more, held.1.pending = clocked.writer.pending ++ more) ∨
      ∃ last, held.1.pending = [] ∧
        held.1.queued = clocked.writer.queued ++ [clocked.writer.pending ++ last]
  /-- The clock gets to the due time, and there the timer queues what waits. -/
  fires : clocked.writer.pending ≠ [] → ∃ due waited flushed,
    clocked.step store options byteLength (.elapses (due - clocked.now)) = some waited ∧
    waited.step store options byteLength (.handles (.runs .timerFired)) = some flushed ∧
    flushed.writer.pending = [] ∧
    flushed.writer.queued = clocked.writer.queued ++ [clocked.writer.pending]

/-- As long as a writer is not closed, what waits in it has an armed timer and
leaves for the write queue within `debounceMs`. -/
theorem leaves_in_time (store : DocumentStore Op Entry) (options : WriterOptions)
    (byteLength : Update Op → ℕ) (stored : Entry) (origin : ℚ)
    (reached : Reached (step store options byteLength)
      (· = start (fromStore store stored) origin) clocked)
    (isOpen : clocked.writer.closed = false) :
    clocked.BoundedWait store options byteLength := by
  have timely : clocked.Timely options byteLength := by
    refine reached.invariant
      (fun clocked => clocked.writer.closed = false → clocked.Timely options byteLength) ?_
      (fun clocked event after holds _ stepped => timely_step holds stepped) isOpen
    rintro clocked rfl -
    exact timely_start stored origin
  refine ⟨timely.armed, timely.bytes, timely.dated, fun time member => ?_,
    fun call held handled => ?_, fun waiting => ?_⟩
  · obtain ⟨due, isDue⟩ := timely.exists_due member
    exact (timely.soon due isDue).1.trans (timely.leaves due isDue time member)
  · cases buffers_handle handled isOpen with
    | keeps pending bytes timer => exact Or.inl ⟨[], by rw [pending, List.append_nil]⟩
    | adds update pending bytes timer => exact Or.inl ⟨[update], pending⟩
    | flushes last pending queued bytes timer => exact Or.inr ⟨last, pending, queued⟩
    | idles empty pending bytes timer => exact Or.inl ⟨[], by rw [pending, List.append_nil, empty]⟩
  · exact timely.fires waiting

/-- Two updates share a timer; their write fails after 300 milliseconds, and
what is queued again has waited for 400 of them. -/
theorem leaves_in_time_retried :
    ∃ clocked : ClockedWriter ℕ (Option (MemoryDocumentStore.Entry ℕ)),
      clocked.writer.pending = [{7, 8}] ∧ clocked.since = [800] ∧ clocked.now = 1200 ∧
        clocked.BoundedWait MemoryDocumentStore.store ⟨500, 64 * 1024, 200⟩ Finset.card := by
  let options : WriterOptions := ⟨500, 64 * 1024, 200⟩
  let start : ClockedWriter ℕ (Option (MemoryDocumentStore.Entry ℕ)) :=
    start (fromStore MemoryDocumentStore.store none) 0
  let events : List (ClockedEvent ℕ) :=
    [.handles (.record {7}), .elapses 200, .handles (.record {8}), .elapses 300,
      .handles (.runs .timerFired), .handles (.runs .startWrite), .elapses 300,
      .handles (.runs .appendRejected), .elapses 400]
  let ends := (run (step MemoryDocumentStore.store options Finset.card) start events).getD start
  have reached : Reached (step MemoryDocumentStore.store options Finset.card)
      (· = ClockedWriter.start (fromStore MemoryDocumentStore.store none) 0) ends :=
    reachedWhen_getD start events start (by decide +kernel)
  have waiting : ends.writer.pending = [{7, 8}] := by decide +kernel
  have since : ends.since = [800] := by decide +kernel
  have now : ends.now = 1200 := by decide +kernel
  exact ⟨ends, waiting, since, now,
    leaves_in_time MemoryDocumentStore.store options Finset.card none 0 reached
      (by decide +kernel)⟩

end ClockedWriter

end CollabEditor.Persistence
