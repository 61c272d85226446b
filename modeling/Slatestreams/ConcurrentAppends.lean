import Mathlib.Data.List.Nodup
import Slatestreams.AppendRuns

/-! # Concurrent appends to one stream

However the appends to one name are interleaved, they are executed in the order
of the queue, and the numbers they return are the positions in that order. -/

namespace Slatestreams

open Foundation

/-- No call to the storage fails, the server does not restart, and a client can be dropped
where it waits. -/
abbrev SharedServer.reliable : Environment server ServerCall ServerResult SharedServer :=
  SharedServer.environment (fun _ => False) ServerOp.Waits False

namespace AppendLine

/-! ## Servers at rest -/

/-- The stream of the name goes on from `tail`: it is not there yet, it is in the stores, or
its actor waits for a command. -/
inductive Continues (line : AppendLine) (server : SharedServer) : Prop where
  | resting (uncached : server.Uncached line.name) (first : line.earlier = [])
      (rests : server.stores.Rests line.name line.tail line.log)
  | running {handle : StreamHandle} {actor : StreamActor} {stream : Stream}
      (cached : server.Cached line.name handle)
      (present : server.actors[handle.tx]? = some actor) (waits : actor.code = .done stream)
      (taken : actor.taken = line.earlier)
      (named : server.stores.named line.name.1 line.name.2 = some stream.metadata)
      (ready : stream.Ready server.stores.recordStorage line.tail line.log)

/-- No call is under way, and no actor has anything to do. -/
structure AtRest (line : AppendLine) (server : SharedServer) : Prop where
  owned : server.NamesOwned
  unlocked (lock : Lock) : server.locks lock = none
  quiet {tx : Nat} {actor : StreamActor} : server.actors[tx]? = some actor → actor.Quiet
  unanswered {replyRx : ReplyId} : server.nextReply ≤ replyRx → server.replies replyRx = none
  decodes : server.stores.metaStorage.get (Basin.constructMetadataKey line.name.1) = none ∨
    ∃ basinId, server.stores.basinId line.name.1 = some basinId
  keys : server.stores.KeysDrawn
  continues : line.Continues server

variable {line : AppendLine} {server : SharedServer}

theorem AtRest.holds (atRest : line.AtRest server)
    (bound : line.tail ≤ 2 ^ 64 - 2 * DEFAULT_BLOCK_SIZE.toNat) :
    line.Holds ⟨[], server⟩ where
  owned := atRest.owned
  queued := ⟨bound, fun member => absurd member List.not_mem_nil, .nil, fun _ => Nat.le_refl 0⟩
  quiet present _ := atRest.quiet present
  unanswered := atRest.unanswered
  decodes := atRest.decodes
  keys := atRest.keys
  unsubmitted uncached := by
    cases atRest.continues with
    | resting _ first => exact ⟨rfl, first⟩
    | running cached => exact absurd cached (uncached _)
  resting uncached _ := by
    cases atRest.continues with
    | resting _ _ rests => exact rests
    | running cached => exact absurd cached (uncached _)
  serving {stream} found := by
    cases atRest.continues with
    | resting uncached => exact absurd found (uncached _)
    | running cached present waits taken named ready =>
        cases cached_unique cached found
        have empty := (atRest.quiet present).2
        refine ⟨0, 0, _, _, present, named, ⟨Nat.le_refl 0, ?_, empty, ?_⟩,
          fun found => nomatch found⟩
        · exact taken.trans (List.append_nil _).symm
        · rw [waits]
          refine .idle rfl ?_
          simpa [numbered] using ready
  reports := ⟨.nil, fun split => by simp at split⟩

theorem AtRest.orderly {pool : ServerPool} (atRest : line.AtRest pool.shared)
    (idle : ∀ id, pool.tasks id = none)
    (bound : line.tail ≤ 2 ^ 64 - 2 * DEFAULT_BLOCK_SIZE.toNat) :
    line.discipline.Orderly [] pool where
  holds := atRest.holds bound
  follows found := by
    rw [idle] at found
    cases found
  idle _ lock held := by
    rw [atRest.unlocked lock] at held
    cases held

/-! ## Execution in the order of the queue -/

/-- The first `count` of the submissions have been executed, each once and in order, and the
actor has at most one more in hand. -/
structure Executes (line : AppendLine) (submitted : List Submission) (server : SharedServer)
    (actor : StreamActor) (metadata : StreamMetadata) (count : Nat) : Prop where
  present : ∃ handle, server.Cached line.name handle ∧ server.actors[handle.tx]? = some actor
  named : server.stores.named line.name.1 line.name.2 = some metadata
  order : actor.taken ++ actor.queue = line.earlier ++ submitted.map Submission.command
  within : count ≤ submitted.length
  taken : line.earlier.length + count ≤ actor.taken.length ∧
    actor.taken.length ≤ line.earlier.length + count + 1
  stored : StoresLog server.stores.recordStorage metadata
    (line.log ++ numbered line.tail (submitted.take count))

theorem Serving.executes {history : ServerHistory} {handle : StreamHandle}
    {actor : StreamActor} {metadata : StreamMetadata} {taken answered : Nat}
    (cached : history.shared.Cached line.name handle)
    (serving : line.Serving history handle.tx taken answered actor metadata) :
    ∃ count, answered ≤ count ∧
      line.Executes (submissions history.past) history.shared actor metadata count := by
  have serves := serving.serves
  have length := congrArg List.length serves.commands
  rw [List.length_append, List.length_map, List.length_take,
    Nat.min_eq_left serves.within] at length
  rcases serves.storesLog with ⟨count, done, fewer, _, stored⟩
  have last := serves.answered_le.2
  refine ⟨count, done, ⟨handle, cached, serving.present⟩, serving.named, ?_,
    Nat.le_trans fewer serves.within, ⟨by omega, by omega⟩, stored⟩
  rw [serves.commands, serves.queue, List.append_assoc, ← List.map_append, List.take_append_drop]

theorem Holds.executed {history : ServerHistory} (holds : line.Holds history) :
    submissions history.past = [] ∨ ∃ actor metadata count,
      line.Executes (submissions history.past) history.shared actor metadata count := by
  by_cases cached : ∃ handle, history.shared.Cached line.name handle
  · rcases cached with ⟨handle, cached⟩
    rcases holds.serving cached with ⟨taken, answered, actor, metadata, serving⟩
    rcases serving.executes cached with ⟨count, _, executes⟩
    exact .inr ⟨actor, metadata, count, executes⟩
  · exact .inl (holds.unsubmitted fun handle found => cached ⟨handle, found⟩).1

section Finish

variable {handle : StreamHandle}
  {tasks : Nat → Option (Task Slatestreams.server ServerCall ServerResult)}

/-- The actor alone executes all that is in its queue. -/
theorem Holds.finishes {history : ServerHistory} (holds : line.Holds history)
    (cached : history.shared.Cached line.name handle) {actor : StreamActor}
    (present : history.shared.actors[handle.tx]? = some actor) {pending : Nat}
    (waits : actor.pending = pending) :
    ∃ moves shared final, Run (Pool.Step SharedServer.reliable) ⟨history.shared, tasks⟩ moves
        ⟨shared, tasks⟩ ∧ (∀ event ∈ moves, event = .moved) ∧
      line.Holds ⟨history.past ++ moves, shared⟩ ∧ shared.Cached line.name handle ∧
      shared.actors[handle.tx]? = some final ∧ final.pending = 0 := by
  induction pending generalizing history actor with
  | zero =>
      refine ⟨[], history.shared, actor, .nil, nofun, ?_, cached, present, waits⟩
      rw [List.append_nil]
      exact holds
  | succ pending induction =>
      rcases holds.serving cached with ⟨taken, answered, served, metadata, serving⟩
      have same := Option.some.inj (serving.present.symm.trans present)
      subst same
      rcases serving.serves.proceeds (by rw [waits]; exact Nat.succ_ne_zero _) with
        ⟨effect, stores, next, step⟩
      rcases serving.moved holds step with ⟨⟨_, _, nextServing⟩, less, _⟩
      rcases induction (holds.moved present step).1 cached nextServing.present (by omega) with
        ⟨moves, shared, final, run, silent, after, still, there, done⟩
      have first : Pool.Step SharedServer.reliable ⟨history.shared, tasks⟩ .moved
          ⟨(AppendLine.moved history handle.tx next effect stores).shared, tasks⟩ :=
        .moved (.actor present step)
      refine ⟨.moved :: moves, shared, final, (Run.single first).trans run,
        fun event member => ?_, ?_, still, there, done⟩
      · rcases List.mem_cons.mp member with rfl | later
        · rfl
        · exact silent event later
      · rw [List.append_cons]
        exact after

theorem submissions_moves {moves : List ServerEvent} (silent : ∀ event ∈ moves, event = .moved) :
    submissions moves = [] :=
  List.filterMap_eq_nil_iff.mpr fun event member => silent event member ▸ rfl

end Finish

/-! ## What runs of appends come to -/

/-- The commands in the queue are executed once each and in order, and the actor is never
stuck with one. What an append returns is its place in that order. -/
structure Linearised (line : AppendLine) (events : List ServerEvent) (last : ServerPool) :
    Prop where
  executed : submissions events = [] ∨ ∃ actor metadata count,
    line.Executes (submissions events) last.shared actor metadata count
  finishes : submissions events = [] ∨ ∃ moves shared actor metadata,
    Run (Pool.Step SharedServer.reliable) last moves ⟨shared, last.tasks⟩ ∧
      (∀ event ∈ moves, event = .moved) ∧
      line.Executes (submissions events) shared actor metadata (submissions events).length ∧
      actor.queue = []
  answered {id : Nat} {call : ServerCall} {value : ServerResult} :
    .returned id call value ∈ events →
      (∃ seqNum, value = .appended (.ok seqNum)) ∨ line.Rejected value
  distinct : (numbers events).Nodup
  complete : (numbers events).length = (starts events).length →
    ((numbers events).map UInt64.toNat).Perm
      (List.range' (line.tail + 1) (starts events).length)
  stored {id : Nat} {data : Bytes} {seqNum : UInt64} :
    .returned id (.append line.name.1 line.name.2 data) (.appended (.ok seqNum)) ∈ events →
      ∃ metadata, last.shared.stores.named line.name.1 line.name.2 = some metadata ∧
        last.shared.stores.recordStorage.get (metadata.recordKey (seqNum - 1)) =
          some (Record.serialise ⟨seqNum - 1, data⟩)
  ordered {before between during after : List ServerEvent} {id other : Nat}
      {call issued ended : ServerCall} {seqNum next : UInt64} :
    events = before ++ .returned id call (.appended (.ok seqNum)) :: between ++
        .started other issued :: during ++ .returned other ended (.appended (.ok next)) :: after →
      seqNum < next

section Results

variable {events : List ServerEvent} {shared : SharedServer}

/-- The call that returned a number made the submission the number is for. -/
theorem Holds.completed (holds : line.Holds ⟨events, shared⟩) {before after : List ServerEvent}
    {id : Nat} {call : ServerCall} {seqNum : UInt64}
    (split : events = before ++ .returned id call (.appended (.ok seqNum)) :: after) :
    ∃ k submission, seqNum = line.number k ∧ (submissions before)[k]? = some submission ∧
      call = .append line.name.1 line.name.2 submission.data ∧ IssuedBy before id k ∧
      (shared.replies submission.replyTx).isSome := by
  rcases holds.reports.ended split with completed | ⟨error, rejected, _⟩
  · rcases completed with ⟨k, submission, found, _, append, value, issued, replied⟩
    cases value
    exact ⟨k, submission, rfl, found, append, issued, replied⟩
  · cases rejected

theorem Holds.finished {pool : ServerPool} (holds : line.Holds ⟨events, pool.shared⟩) :
    submissions events = [] ∨ ∃ moves shared actor metadata,
      Run (Pool.Step SharedServer.reliable) pool moves ⟨shared, pool.tasks⟩ ∧
        (∀ event ∈ moves, event = .moved) ∧
        line.Executes (submissions events) shared actor metadata (submissions events).length ∧
        actor.queue = [] := by
  by_cases cached : ∃ handle, pool.shared.Cached line.name handle
  · rcases cached with ⟨handle, cached⟩
    rcases holds.serving cached with ⟨_, _, actor, _, serving⟩
    rcases @Holds.finishes _ handle pool.tasks _ holds cached _ serving.present _ rfl with
      ⟨moves, shared, final, run, silent, after, still, there, done⟩
    rcases after.serving still with ⟨taken, answered, served, metadata, serving⟩
    have same := Option.some.inj (serving.present.symm.trans there)
    subst same
    have past : submissions (events ++ moves) = submissions events := by
      rw [submissions_append, submissions_moves silent, List.append_nil]
    rcases serving.executes still with ⟨count, fewer, executes⟩
    have all := serving.serves.finished done
    have within := executes.within
    simp only [past] at all executes within
    have count : count = (submissions events).length := by omega
    exact .inr ⟨moves, shared, served, metadata, run, silent, count ▸ executes,
      StreamActor.queue_of_pending done⟩
  · exact .inl (holds.unsubmitted fun handle found => cached ⟨handle, found⟩).1

theorem Holds.complete (holds : line.Holds ⟨events, shared⟩)
    (all : (numbers events).length = (starts events).length) :
    ((numbers events).map UInt64.toNat).Perm
      (List.range' (line.tail + 1) (starts events).length) := by
  have distinct : ((numbers events).map UInt64.toNat).Nodup :=
    List.Nodup.map (fun _ _ => UInt64.toNat_inj.mp) holds.reports.distinct
  have fewer : (submissions events).length ≤ (starts events).length :=
    submissions_length_le holds.queued.counted
  have within : (numbers events).map UInt64.toNat ⊆
      List.range' (line.tail + 1) (submissions events).length := by
    intro number member
    rcases List.mem_map.mp member with ⟨seqNum, returned, rfl⟩
    rcases holds.reports.submitted returned with ⟨k, submission, rfl, found⟩
    have before : k < (submissions events).length := (List.getElem?_eq_some_iff.mp found).1
    rw [line.number_toNat holds.queued.bound before, List.mem_range'_1]
    omega
  have subperm := List.subperm_of_subset distinct within
  have most := subperm.length_le
  rw [List.length_map, List.length_range', all] at most
  have same : (submissions events).length = (starts events).length := Nat.le_antisymm fewer most
  rw [same] at subperm
  refine subperm.perm_of_length_le (Nat.le_of_eq ?_)
  rw [List.length_range', List.length_map, all]

theorem Holds.stored_of_returned (holds : line.Holds ⟨events, shared⟩) {id : Nat} {data : Bytes}
    {seqNum : UInt64}
    (member : .returned id (.append line.name.1 line.name.2 data) (.appended (.ok seqNum)) ∈
      events) :
    ∃ metadata, shared.stores.named line.name.1 line.name.2 = some metadata ∧
      shared.stores.recordStorage.get (metadata.recordKey (seqNum - 1)) =
        some (Record.serialise ⟨seqNum - 1, data⟩) := by
  rcases List.append_of_mem member with ⟨before, after, split⟩
  rcases holds.completed split with ⟨k, submission, rfl, found, append, _, replied⟩
  cases append
  have submitted : (submissions events)[k]? = some submission := by
    rw [split, submissions_append]
    exact (List.getElem?_append_left (List.getElem?_eq_some_iff.mp found).1).trans found
  by_cases cached : ∃ handle, shared.Cached line.name handle
  · rcases cached with ⟨handle, cached⟩
    rcases holds.serving cached with ⟨taken, answered, actor, metadata, serving⟩
    have reply := serving.replies submitted
    have answeredBefore : k < answered := by
      by_contra unanswered
      rw [AppendLine.reply, if_neg unanswered] at reply
      rw [reply] at replied
      cases replied
    refine ⟨metadata, serving.named, ?_⟩
    rw [line.number_sub_one]
    exact serving.serves.stored submitted answeredBefore
  · have empty := (holds.unsubmitted fun handle found => cached ⟨handle, found⟩).1
    rw [empty] at submitted
    cases submitted

theorem Holds.ordered (holds : line.Holds ⟨events, shared⟩)
    {before between during after : List ServerEvent} {id other : Nat}
    {call issued ended : ServerCall} {seqNum next : UInt64}
    (split : events = before ++ .returned id call (.appended (.ok seqNum)) :: between ++
        .started other issued :: during ++ .returned other ended (.appended (.ok next)) :: after) :
    seqNum < next := by
  have first : events = before ++ .returned id call (.appended (.ok seqNum)) ::
      (between ++ .started other issued :: during ++
        .returned other ended (.appended (.ok next)) :: after) := by
    rw [split]
    simp
  rcases holds.completed first with ⟨k, _, rfl, found, _⟩
  rcases holds.completed split with ⟨l, _, rfl, foundLater, _, issuedBy, _⟩
  have earlier := issuedBy.after List.mem_cons_self
  have kWithin := (List.getElem?_eq_some_iff.mp found).1
  have lWithin := (List.getElem?_eq_some_iff.mp foundLater).1
  have bound : line.tail + (submissions events).length ≤ _ := holds.queued.bound
  have total : (submissions events).length = _ := congrArg (List.length ∘ submissions) split
  simp only [Function.comp, submissions_append, List.length_append] at total earlier lWithin
  rw [UInt64.lt_iff_toNat_lt, line.number_toNat bound (by omega),
    line.number_toNat bound (by omega)]
  omega

end Results

/-! ## At rest again -/

/-- Where the stream goes on from, once the submissions have been executed. -/
def after (line : AppendLine) (submitted : List Submission) : AppendLine where
  name := line.name
  tail := line.tail + submitted.length
  log := line.log ++ numbered line.tail submitted
  earlier := line.earlier ++ submitted.map Submission.command

theorem after_nil (line : AppendLine) : line.after [] = line := by
  simp [after, numbered]

theorem Serving.continues {history : ServerHistory} {handle : StreamHandle} {actor : StreamActor}
    {metadata : StreamMetadata} {taken answered : Nat} (quiet : actor.Quiet)
    (cached : history.shared.Cached line.name handle)
    (serving : line.Serving history handle.tx taken answered actor metadata) :
    (line.after (submissions history.past)).Continues history.shared := by
  rcases quiet with ⟨⟨stream, waits⟩, empty⟩
  rcases serving with ⟨present, named, ⟨within, commands, queue, phase⟩, _⟩
  rw [empty] at queue
  have all : (submissions history.past).length ≤ taken :=
    List.drop_eq_nil_iff.mp (List.map_eq_nil_iff.mp queue.symm)
  have complete := Nat.le_antisymm within all
  rw [waits] at phase
  cases phase with
  | idle is ready =>
      rw [complete, List.take_length] at commands ready
      subst is
      exact .running cached present waits commands named ready

/-- Once no call is under way and no actor has anything to do, the server is at rest. -/
theorem atRest_again {events : List ServerEvent} {pool : ServerPool}
    (orderly : line.discipline.Orderly events pool) (idle : ∀ id, pool.tasks id = none)
    (quiet : ∀ actor ∈ pool.shared.actors, actor.Quiet) :
    (line.after (submissions events)).AtRest pool.shared := by
  have holds : line.Holds ⟨events, pool.shared⟩ := orderly.holds
  have unlocked (lock : Lock) : pool.shared.locks lock = none :=
    Option.eq_none_iff_forall_ne_some.mpr fun id => orderly.idle (idle id) lock
  refine ⟨holds.owned, unlocked, fun found => quiet _ (List.mem_of_getElem? found),
    holds.unanswered, holds.decodes, holds.keys, ?_⟩
  by_cases cached : ∃ handle, pool.shared.Cached line.name handle
  · rcases cached with ⟨handle, cached⟩
    rcases holds.serving cached with ⟨taken, answered, actor, metadata, serving⟩
    exact serving.continues (quiet _ (List.mem_of_getElem? serving.present)) cached
  · have uncached : pool.shared.Uncached line.name := fun handle found => cached ⟨handle, found⟩
    rcases holds.unsubmitted uncached with ⟨none_, first⟩
    change submissions events = [] at none_
    rw [none_, after_nil]
    exact .resting uncached first (holds.resting uncached fun basin _ => unlocked _)

end AppendLine

namespace AppendLine

variable {line : AppendLine} {stores : Stores}

/-- In stores where the name leads to nothing, its stream has yet to be made. -/
theorem rests_of_unnamed (sound : stores.Sound) {name : String × String}
    (unnamed : stores.named name.1 name.2 = none) : stores.Rests name 0 [] := by
  have drawn : stores.RecordsDrawn := by
    intro metadata n undrawn
    by_contra found
    rcases Option.ne_none_iff_exists'.mp found with ⟨value, found⟩
    exact undrawn (sound.record_drawn found)
  unfold Stores.Rests
  unfold Stores.named at unnamed
  cases found : stores.basinId name.1 with
  | none => exact ⟨rfl, rfl, drawn⟩
  | some basinId =>
      rw [found, Option.bind_some] at unnamed
      refine .inl ⟨?_, rfl, rfl, drawn⟩
      rw [sound.stream, unnamed, Option.map_none]

/-- A server that has been started on its stores is at rest. -/
theorem atRest_start (sound : stores.Sound) (once : stores.WrittenOnce)
    (rests : stores.Rests line.name line.tail line.log) (first : line.earlier = []) :
    line.AtRest (.start stores) where
  owned := .start ⟨sound.basin_drawn, sound.basin_injective⟩ once
  unlocked _ := rfl
  quiet found := nomatch found
  unanswered _ := rfl
  decodes := by
    cases found : stores.basinId line.name.1 with
    | none => exact .inl (by rw [SharedServer.start, sound.basin, found, Option.map_none])
    | some basinId => exact .inr ⟨basinId, found⟩
  keys basinId streamName undrawn := by
    rw [SharedServer.start, sound.stream, Option.map_eq_none_iff, Option.eq_none_iff_forall_ne_some]
    exact fun metadata found => undrawn (sound.stream_drawn found).2.1
  continues := .resting (SharedServer.uncached_of_basin rfl) first rests

end AppendLine

namespace ServerPool

theorem orderly_appends {line : AppendLine} {first last : ServerPool} {events : List ServerEvent}
    (atRest : line.AtRest first.shared) (idle : ∀ id, first.tasks id = none)
    (calls : ∀ id call, .started id call ∈ events →
      ∃ data, call = .append line.name.1 line.name.2 data)
    (bound : line.tail + (submissions events).length ≤ 2 ^ 64 - 2 * DEFAULT_BLOCK_SIZE.toNat)
    (run : Run (Pool.Step SharedServer.reliable) first events last) :
    line.discipline.Orderly events last :=
  (atRest.orderly idle (Nat.le_trans (Nat.le_add_right _ _) bound)).run line.keeps
    AppendLine.Within.earlier run ⟨calls, bound⟩

/-- Once the appends have ended and been executed, more of them can follow. -/
theorem appends_rest {line : AppendLine} {first last : ServerPool} {events : List ServerEvent}
    (atRest : line.AtRest first.shared) (idle : ∀ id, first.tasks id = none)
    (calls : ∀ id call, .started id call ∈ events →
      ∃ data, call = .append line.name.1 line.name.2 data)
    (bound : line.tail + (submissions events).length ≤ 2 ^ 64 - 2 * DEFAULT_BLOCK_SIZE.toNat)
    (run : Run (Pool.Step SharedServer.reliable) first events last)
    (ended : ∀ id, last.tasks id = none) (quiet : ∀ actor ∈ last.shared.actors, actor.Quiet) :
    (line.after (submissions events)).AtRest last.shared :=
  AppendLine.atRest_again (orderly_appends atRest idle calls bound run) ended quiet

/-- Two appends race for a new stream. One waits for the lock and is dropped. A third is queued
behind the first, and returns before it. -/
theorem race_returns :
    ∃ events pool,
      Run (Pool.Step SharedServer.reliable) (start .opened) events pool ∧
        numbers events = [2, 1] ∧ (submissions events).length = 2 ∧
        (∀ id call, .started id call ∈ events →
          ∃ data, call = .append "orders" "events" data) ∧
        (∀ id, pool.tasks id = none) ∧
        pool.shared.Opened ("orders", "events") ⟨0, 1⟩ ⟨0⟩ ⟨⟨2, ⟨0, 4096⟩⟩, ⟨1, 2⟩⟩ := by
  let data : Nat → Bytes := fun id => if id = 2 then [98] else [97]
  let origin : Nat → ServerCall := fun id => .append "orders" "events" (data id)
  let handle : BasinHandle := ⟨0, 1⟩
  let metadata : StreamMetadata := ⟨1, 2⟩
  let stream : Stream := ⟨SequenceAllocator.default, metadata⟩
  let Reached : Nat → ServerPool → Prop := fun count pool => ∃ events,
    Run (Pool.Step SharedServer.reliable) (start .opened) events pool ∧ numbers events = [] ∧
      (submissions events).length = count ∧
      ∀ id call, .started id call ∈ events → ∃ data, call = .append "orders" "events" data
  have next {count : Nat} {pool after : ServerPool} {event : ServerEvent}
      (reached : Reached count pool)
      (taken : Pool.Step SharedServer.reliable pool event after)
      (silent : ServerEvent.number event = none)
      (starts : ∀ id call, .started id call = event →
        ∃ data, call = .append "orders" "events" data) :
      Reached (count + (submissions [event]).length) after := by
    rcases reached with ⟨events, run, none_, length, calls⟩
    refine ⟨_, run.snoc taken, (numbers_snoc_of_none silent).trans none_, ?_,
      fun id call member => ?_⟩
    · rw [submissions_append, List.length_append, length]
    · rcases List.mem_append.mp member with earlier | now
      · exact calls id call earlier
      · exact starts id call (List.mem_singleton.mp now)
  have begin {count : Nat} {pool : ServerPool} (id : Nat) (reached : Reached count pool)
      (absent : pool.tasks id = none) :
      Reached count (pool.set id pool.shared (some ⟨origin id, (origin id).code⟩)) :=
    next reached (.started absent (.request rfl)) rfl fun _ _ same => by
      cases same
      exact ⟨data id, rfl⟩
  have call {count : Nat} {pool : ServerPool} {after : SharedServer} (id : Nat) (op : ServerOp)
      (answer : op.Answer) {rest : op.Answer → Program server ServerResult}
      (reached : Reached count pool) (running : pool.tasks id = some ⟨origin id, .call op rest⟩)
      (answers : pool.shared.Answers (fun _ => False) id (origin id).name op answer after) :
      Reached (count + (submissions [.called id op answer]).length)
        (pool.set id after (some ⟨origin id, rest answer⟩)) :=
    next reached (.called running answers) rfl fun _ _ same => by cases same
  have move {count : Nat} {pool : ServerPool} {actor after : StreamActor} {effect : ActorEffect}
      {stores : Stores} (reached : Reached count pool)
      (present : pool.shared.actors[0]? = some actor)
      (taken : ActorStep (fun _ => False) pool.shared.stores actor effect stores after) :
      Reached count
        { pool with shared := { pool.shared with
          stores
          actors := pool.shared.actors.set 0 after
          replies := effect.deliver pool.shared.replies } } :=
    next reached (.moved (.actor present taken)) rfl fun _ _ same => by cases same
  have draws : stream.Draws none ⟨1, ⟨0, 4096⟩⟩ := by decide
  have drawsNext : (stream.moved ⟨1, ⟨0, 4096⟩⟩).Draws none ⟨2, ⟨0, 4096⟩⟩ := by decide
  have first := begin 0 ⟨[], .nil, rfl, rfl, nofun⟩ rfl
  have second := begin 1 first rfl
  have read := call 0 (.readBasins "orders") none second rfl ⟨rfl, rfl⟩
  have locked := call 0 .lockBasinInit () read rfl ⟨rfl, rfl⟩
  have other := call 1 (.readBasins "orders") none locked rfl ⟨rfl, rfl⟩
  have dropped := next other (@Pool.Step.dropped _ _ _ _ _ _ 1 (origin 1) _ rfl trivial) rfl
    fun _ _ same => by cases same
  have missed := call 0 (.readBasins "orders") none dropped rfl ⟨rfl, rfl⟩
  have loaded := call 0 (.storage (.get .metaStorage (Basin.constructMetadataKey "orders")))
    (.ok none) missed rfl ⟨_, ⟨rfl, rfl⟩, rfl⟩
  have drawn := call 0 (.storage .newV4) (1 : U128) loaded rfl ⟨_, ⟨List.not_mem_nil, rfl⟩, rfl⟩
  have written := call 0 (.storage (.apply .metaStorage [Basin.metadataRecord "orders" 1]))
    (.ok ()) drawn rfl ⟨_, rfl, rfl⟩
  have handled := call 0 (.newBasinHandle ⟨1, "orders"⟩) handle written rfl ⟨rfl, rfl⟩
  have placed := call 0 (.insertBasin "orders" handle) () handled rfl rfl
  have unlocked := call 0 .unlockBasinInit () placed rfl rfl
  have looked := call 0 (.readStreams handle "events") none unlocked rfl ⟨rfl, rfl⟩
  have claimed := call 0 (.lockStreamInit handle) () looked rfl ⟨rfl, rfl⟩
  have again := call 0 (.readStreams handle "events") none claimed rfl ⟨rfl, rfl⟩
  have sought := call 0 (.storage (.get .metaStorage (Stream.constructMetadataKey 1 "events")))
    (.ok none) again rfl ⟨_, ⟨rfl, rfl⟩, rfl⟩
  have chosen := call 0 (.storage .newV4) (2 : U128) sought rfl ⟨_, ⟨by decide, rfl⟩, rfl⟩
  have named := call 0 (.storage (.apply .metaStorage
    [⟨Stream.constructMetadataKey 1 "events", metadata.serialise⟩])) (.ok ()) chosen rfl
    ⟨_, rfl, rfl⟩
  have reserved := call 0 (.storage (.apply .recordStorage
    [⟨metadata.blockKey, SequenceAllocator.default.allocation.serialise⟩])) (.ok ()) named rfl
    ⟨_, rfl, rfl⟩
  have spawned := call 0 (.spawn stream) ⟨0⟩ reserved rfl ⟨rfl, rfl⟩
  have cached := call 0 (.insertStream handle "events" ⟨0⟩) () spawned rfl rfl
  have opened := call 0 (.unlockStreamInit handle) () cached rfl rfl
  have third := begin 2 opened rfl
  have known := call 2 (.readBasins "orders") (some handle) third rfl ⟨rfl, rfl⟩
  have shared := call 2 (.readStreams handle "events") (some ⟨0⟩) known rfl ⟨rfl, rfl⟩
  have sent := call 0 (.send ⟨0⟩ (.append [97])) (some 0) shared rfl
    ⟨_, rfl, rfl, by decide, rfl, rfl⟩
  have queued := call 2 (.send ⟨0⟩ (.append [98])) (some 1) sent rfl
    ⟨_, rfl, rfl, by decide, rfl, rfl⟩
  have took := move queued rfl (.recv rfl rfl)
  have stored := move took rfl (.writes (ActorPhase.handle_append draws [97] 0))
  have announced := move stored rfl (.broadcast rfl)
  have replied := move announced rfl (.reply rfl)
  have tookNext := move replied rfl (.recv rfl rfl)
  have storedNext := move tookNext rfl (.writes (ActorPhase.handle_append drawsNext [98] 1))
  have announcedNext := move storedNext rfl (.broadcast rfl)
  have repliedNext := move announcedNext rfl (.reply rfl)
  have received := call 0 (.receive .append 0) (some (.ok ⟨⟨0, [97]⟩, 1⟩)) repliedNext rfl
    ⟨rfl, rfl⟩
  have receivedNext := call 2 (.receive .append 1) (some (.ok ⟨⟨1, [98]⟩, 2⟩)) received rfl
    ⟨rfl, rfl⟩
  rcases receivedNext with ⟨events, run, none_, length, calls⟩
  have returned := (run.snoc
    (@Pool.Step.returned _ _ _ _ _ _ 2 (origin 2) (.appended (.ok 2)) rfl rfl)).snoc
      (@Pool.Step.returned _ _ _ _ _ _ 0 (origin 0) (.appended (.ok 1)) rfl rfl)
  refine ⟨_, _, returned, ?_, ?_, fun id call member => ?_, fun id => ?_,
    ⟨rfl, rfl, _, _, _, rfl⟩⟩
  · rw [numbers_append, numbers_append, none_]
    rfl
  · rw [submissions_snoc_of_none rfl, submissions_snoc_of_none rfl, length]
    rfl
  · rcases List.mem_append.mp member with earlier | now
    · rcases List.mem_append.mp earlier with earlier | now
      · exact calls id call earlier
      · cases List.mem_singleton.mp now
    · cases List.mem_singleton.mp now
  · rcases id with _ | _ | _ | id <;> rfl

/-- However the appends to one name are interleaved, from a server at rest: what has been put
into the queue is executed in the order of the queue and each once, the numbers returned are
distinct and are all of those after `tail` once every call has returned, a record is stored
under the number before the one returned, and a later call has a greater number. -/
theorem appends_linearise {line : AppendLine} {first last : ServerPool}
    {events : List ServerEvent} (atRest : line.AtRest first.shared)
    (idle : ∀ id, first.tasks id = none)
    (calls : ∀ id call, .started id call ∈ events →
      ∃ data, call = .append line.name.1 line.name.2 data)
    (bound : line.tail + (submissions events).length ≤ 2 ^ 64 - 2 * DEFAULT_BLOCK_SIZE.toNat)
    (run : Run (Pool.Step SharedServer.reliable) first events last) :
    line.Linearised events last := by
  have holds : line.Holds ⟨events, last.shared⟩ :=
    (orderly_appends atRest idle calls bound run).holds
  exact
    { executed := holds.executed
      finishes := holds.finished
      answered := fun member => by
        rcases List.append_of_mem member with ⟨before, after, split⟩
        rcases holds.reports.ended split with completed | rejected
        · rcases completed with ⟨k, _, _, _, _, value, _⟩
          exact .inl ⟨_, value⟩
        · exact .inr rejected
      distinct := holds.reports.distinct
      complete := holds.complete
      stored := holds.stored_of_returned
      ordered := holds.ordered }

/-- After a race for a new stream has ended, another append begins and returns. -/
theorem appends_linearise_dropped :
    ∃ race later last,
      Run (Pool.Step SharedServer.reliable) (start .opened)
        (race ++ .started 3 (.append "orders" "events" [99]) :: later) last ∧
      numbers race = [2, 1] ∧ numbers later = [3] ∧
      AppendLine.Linearised ⟨("orders", "events"), 0, [], []⟩
        (race ++ .started 3 (.append "orders" "events" [99]) :: later) last := by
  have draws : Stream.Draws ⟨⟨2, ⟨0, 4096⟩⟩, ⟨1, 2⟩⟩ none ⟨3, ⟨0, 4096⟩⟩ := by decide
  rcases race_returns with ⟨race, pool, run, returned, length, calls, idle, opened⟩
  rcases appends_alone opened (idle 3) (by decide) (by decide) draws [99] with
    ⟨later, last, appends, silent, one, noStart, _⟩
  have whole : Run (Pool.Step SharedServer.reliable) (start .opened)
      (race ++ .started 3 (.append "orders" "events" [99]) :: (later ++
        [.returned 3 (.append "orders" "events" [99]) (.appended (.ok 3))])) last :=
    run.trans appends
  refine ⟨race, _, last, whole, returned, ?_, appends_linearise ?_ (fun _ => rfl)
    (fun id call member => ?_) ?_ whole⟩
  · rw [numbers_append, silent]
    rfl
  · exact AppendLine.atRest_start Stores.sound_opened (.of_new rfl)
      (AppendLine.rests_of_unnamed Stores.sound_opened rfl) rfl
  · rcases List.mem_append.mp member with earlier | now
    · exact calls id call earlier
    · rcases List.mem_cons.mp now with same | after
      · cases same
        exact ⟨[99], rfl⟩
      · rcases List.mem_append.mp after with asking | ended
        · cases List.filterMap_eq_nil_iff.mp noStart _ asking
        · cases List.mem_singleton.mp ended
  · have more : submissions (.started 3 (.append "orders" "events" [99]) :: (later ++
        [.returned 3 (.append "orders" "events" [99]) (.appended (.ok 3))])) = submissions later :=
      submissions_snoc_of_none rfl
    rw [submissions_append, more, List.length_append, length, one]
    decide

end ServerPool

end Slatestreams
