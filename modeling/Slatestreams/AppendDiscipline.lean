import Slatestreams.AppendEvents
import Slatestreams.OneIdentity

/-! # Appends to one name

What holds while any number of tasks append to one stream: of the stores until
the stream has its actor, of the actor from then on, and of each task. -/

namespace Slatestreams

open Foundation

/-! ## The stream of a name in the stores -/

namespace Stores

/-- The records are those of streams whose ids have been drawn. -/
def RecordsDrawn (self : Stores) : Prop :=
  ∀ (metadata : StreamMetadata) (n : UInt64), metadata.streamId ∉ self.drawn →
    self.recordStorage.get (metadata.recordKey n) = none

/-- A task that finds the stream under a basin's id, or makes it, gets a stream that goes on
from `tail`. -/
def Opens (self : Stores) (basinId : U128) (streamName : String) (tail : Nat)
    (log : List Record) : Prop :=
  (self.metaStorage.get (Stream.constructMetadataKey basinId streamName) = none ∧ tail = 0 ∧
    log = [] ∧ self.RecordsDrawn) ∨
  ∃ (metadata : StreamMetadata) (block : Option SeqBlock) (allocator : SequenceAllocator),
    metadata.basinId = basinId ∧
      self.metaStorage.get (Stream.constructMetadataKey basinId streamName) =
        some metadata.serialise ∧
      self.recordStorage.get metadata.blockKey = block.map SeqBlock.serialise ∧
      SequenceAllocator.resume block = some allocator ∧
      Stream.Ready self.recordStorage ⟨allocator, metadata⟩ tail log

/-- The same for a name. -/
def Rests (self : Stores) (name : String × String) (tail : Nat) (log : List Record) : Prop :=
  match self.basinId name.1 with
  | none => tail = 0 ∧ log = [] ∧ self.RecordsDrawn
  | some basinId => self.Opens basinId name.2 tail log

/-- The ids in the keys of streams have been drawn. -/
def KeysDrawn (self : Stores) : Prop :=
  ∀ (basinId : U128) (streamName : String), basinId ∉ self.drawn →
    self.metaStorage.get (Stream.constructMetadataKey basinId streamName) = none

end Stores

/-! ## What holds at every moment -/

/-- The name that is appended to, where its stream goes on from, the stream's log and the
commands that its actor has taken so far. -/
structure AppendLine where
  name : String × String
  tail : Nat
  log : List Record
  earlier : List StreamCommand

/-- The actor has nothing to do. -/
def StreamActor.Quiet (actor : StreamActor) : Prop :=
  (∃ stream, actor.code = .done stream) ∧ actor.queue = []

namespace SharedServer

/-- The stream of a name has no actor in the cache. -/
def Uncached (server : SharedServer) (name : String × String) : Prop :=
  ∀ stream, ¬server.Cached name stream

/-- No task holds the lock under which the stream of a name is opened. -/
def Unclaimed (server : SharedServer) (name : String × String) : Prop :=
  ∀ basin, server.basins name.1 = some basin → server.locks (.streamInit basin.address) = none

end SharedServer

namespace AppendLine

variable (line : AppendLine)

def Within (past : List ServerEvent) : Prop :=
  (∀ id call, .started id call ∈ past → ∃ data, call = .append line.name.1 line.name.2 data) ∧
    line.tail + (submissions past).length ≤ 2 ^ 64 - 2 * DEFAULT_BLOCK_SIZE.toNat

/-- What the `k`-th submission is answered with. -/
def number (k : Nat) : UInt64 := UInt64.ofNat (line.tail + k + 1)

theorem number_toNat {k count : Nat}
    (bound : line.tail + count ≤ 2 ^ 64 - 2 * DEFAULT_BLOCK_SIZE.toNat) (within : k < count) :
    (line.number k).toNat = line.tail + k + 1 := by
  have positive : 0 < DEFAULT_BLOCK_SIZE.toNat := by decide
  refine UInt64.toNat_ofNat_of_lt' ?_
  change _ < 2 ^ 64
  omega

theorem number_sub_one (k : Nat) : line.number k - 1 = UInt64.ofNat (line.tail + k) := by
  rw [number, UInt64.ofNat_add]
  exact UInt64.add_sub_cancel _ _

theorem number_injective {k l count : Nat}
    (bound : line.tail + count ≤ 2 ^ 64 - 2 * DEFAULT_BLOCK_SIZE.toNat) (left : k < count)
    (right : l < count) (equal : line.number k = line.number l) : k = l := by
  have same := congrArg UInt64.toNat equal
  rw [line.number_toNat bound left, line.number_toNat bound right] at same
  omega

/-- The reply to the `k`-th submission, once there have been `answered` replies. -/
def reply (answered k : Nat) (submission : Submission) : Option (Sigma ReplyKind.Value) :=
  if k < answered then some ⟨.append, .ok (submission.ack (line.tail + k))⟩ else none

/-- The stream's actor serves the submissions, and their replies are its answers. -/
structure Serving (history : ServerHistory) (tx taken answered : Nat) (actor : StreamActor)
    (metadata : StreamMetadata) : Prop where
  present : history.shared.actors[tx]? = some actor
  named : history.shared.stores.named line.name.1 line.name.2 = some metadata
  serves : ServesQueue history.shared.stores.recordStorage metadata line.tail line.log line.earlier
    (submissions history.past) taken answered actor
  replies {k : Nat} {submission : Submission} :
    (submissions history.past)[k]? = some submission →
      history.shared.replies submission.replyTx = line.reply answered k submission

/-- A call has come to its end with the number of its submission. -/
def Completed (replies : Replies) (before : List ServerEvent) (id : Nat) (call : ServerCall)
    (value : ServerResult) : Prop :=
  ∃ k submission, (submissions before)[k]? = some submission ∧ submission.task = id ∧
    call = .append line.name.1 line.name.2 submission.data ∧
    value = .appended (.ok (line.number k)) ∧ IssuedBy before id k ∧
    (replies submission.replyTx).isSome

/-- A call has come to its end because of its names. -/
def Rejected (value : ServerResult) : Prop :=
  ∃ error, value = .appended (.error error) ∧
    (validateName "basin_name" line.name.1 = .error error ∨
      validateName "stream_name" line.name.2 = .error error)

structure Reports (past : List ServerEvent) (replies : Replies) : Prop where
  distinct : (numbers past).Nodup
  ended {before after : List ServerEvent} {id : Nat} {call : ServerCall} {value : ServerResult} :
    past = before ++ .returned id call value :: after →
      line.Completed replies before id call value ∨ line.Rejected value

/-- Each submission has a reply of its own, and a task that was started for it. -/
structure Queued (past : List ServerEvent) (nextReply : ReplyId) : Prop where
  bound : line.tail + (submissions past).length ≤ 2 ^ 64 - 2 * DEFAULT_BLOCK_SIZE.toNat
  given {submission : Submission} : submission ∈ submissions past →
    submission.replyTx < nextReply
  apart : ((submissions past).map Submission.replyTx).Nodup
  counted (id : Nat) : submittedBy past id ≤ startedBy past id

structure Holds (history : ServerHistory) : Prop where
  owned : history.shared.NamesOwned
  queued : line.Queued history.past history.shared.nextReply
  quiet {tx : Nat} {actor : StreamActor} : history.shared.actors[tx]? = some actor →
    ¬history.shared.Cached line.name ⟨tx⟩ → actor.Quiet
  unanswered {replyRx : ReplyId} : history.shared.nextReply ≤ replyRx →
    history.shared.replies replyRx = none
  decodes : history.shared.stores.metaStorage.get (Basin.constructMetadataKey line.name.1) = none ∨
    ∃ basinId, history.shared.stores.basinId line.name.1 = some basinId
  keys : history.shared.stores.KeysDrawn
  unsubmitted : history.shared.Uncached line.name →
    submissions history.past = [] ∧ line.earlier = []
  resting : history.shared.Uncached line.name → history.shared.Unclaimed line.name →
    history.shared.stores.Rests line.name line.tail line.log
  serving {stream : StreamHandle} : history.shared.Cached line.name stream →
    ∃ taken answered actor metadata,
      line.Serving history stream.tx taken answered actor metadata
  reports : line.Reports history.past history.shared.replies

/-! ## What a task knows -/

/-- The task has been started once more than it has submitted. -/
structure Unsent (history : ServerHistory) (id : Nat) : Prop where
  issued : IssuedBy history.past id (submissions history.past).length
  fewer : submittedBy history.past id + 1 ≤ startedBy history.past id

/-- The task's append is the `k`-th in the queue, and has not returned. -/
structure Sent (history : ServerHistory) (id : Nat) (call : ServerCall) (k : Nat)
    (submission : Submission) : Prop where
  found : (submissions history.past)[k]? = some submission
  task : submission.task = id
  append : call = .append line.name.1 line.name.2 submission.data
  issued : IssuedBy history.past id k
  unreturned : line.number k ∉ numbers history.past

def BasinStageHolds (history : ServerHistory) : BasinStage → Prop
  | .drawn basinId =>
      ∀ streamName, history.shared.stores.metaStorage.get
        (Stream.constructMetadataKey basinId streamName) = none
  | .failed => False
  | _ => True

/-- The stores lead from the stream's name to the metadata. -/
structure Leads (history : ServerHistory) (handle : BasinHandle) (metadata : StreamMetadata) :
    Prop where
  basin : metadata.basinId = handle.basinId
  stored : history.shared.stores.metaStorage.get
    (Stream.constructMetadataKey handle.basinId line.name.2) = some metadata.serialise

def StreamStageHolds (history : ServerHistory) (handle : BasinHandle) : StreamStage → Prop
  | .locked =>
      history.shared.streams handle.address line.name.2 = none →
        history.shared.stores.Opens handle.basinId line.name.2 line.tail line.log
  | .uncached =>
      history.shared.stores.Opens handle.basinId line.name.2 line.tail line.log
  | .missing => line.tail = 0 ∧ line.log = [] ∧ history.shared.stores.RecordsDrawn
  | .drawn streamId =>
      line.tail = 0 ∧ line.log = [] ∧
        StoresLog history.shared.stores.recordStorage ⟨handle.basinId, streamId⟩ []
  | .named metadata =>
      line.Leads history handle metadata ∧ ∃ block allocator,
        history.shared.stores.recordStorage.get metadata.blockKey =
          block.map SeqBlock.serialise ∧
        SequenceAllocator.resume block = some allocator ∧
        Stream.Ready history.shared.stores.recordStorage ⟨allocator, metadata⟩ line.tail line.log
  | .created metadata =>
      line.Leads history handle metadata ∧ line.tail = 0 ∧ line.log = [] ∧
        StoresLog history.shared.stores.recordStorage metadata []
  | .loaded stream =>
      line.Leads history handle stream.metadata ∧
        stream.Ready history.shared.stores.recordStorage line.tail line.log
  | .spawned stream =>
      ∃ actor metadata, line.Leads history handle metadata ∧
        history.shared.actors[stream.tx]? = some actor ∧
        ServesQueue history.shared.stores.recordStorage metadata line.tail line.log [] [] 0 0 actor
  | .cached _ => True
  | .failed => False

def Stands (history : ServerHistory) (id : Nat) (call : ServerCall) : Standing → Prop
  | .free _ _ => Unsent history id
  | .atBasin stage => Unsent history id ∧ BasinStageHolds history stage
  | .atStream handle stage => Unsent history id ∧ line.StreamStageHolds history handle stage
  | .waiting _ kind replyRx =>
      kind = .append ∧ ∃ k submission, line.Sent history id call k submission ∧
        submission.replyTx = replyRx
  | .acknowledged replyRx ack =>
      ∃ k submission, line.Sent history id call k submission ∧
        submission.replyTx = replyRx ∧ ack = submission.ack (line.tail + k) ∧
        (history.shared.replies replyRx).isSome
  | .failed => False

structure Knows (id : Nat) (call : ServerCall) (standing : Standing) (history : ServerHistory) :
    Prop where
  append : ∃ data, call = .append line.name.1 line.name.2 data
  holds : standing.Holds id history.shared
  facts : standing.Facts line.name history.shared
  stands : line.Stands history id call standing

/-! ## What a task leaves alone -/

structure Changes (id : Nat) (before after : ServerHistory) : Prop where
  leaves : before.shared.Leaves id after.shared
  past : ∃ event, after.past = before.past ++ [event] ∧
    ∀ other, event.task = some other → other = id
  numbers {seqNum : UInt64} : seqNum ∈ numbers after.past → seqNum ∈ numbers before.past ∨
    ∃ k submission, seqNum = line.number k ∧
      (submissions before.past)[k]? = some submission ∧ submission.task = id
  records : before.shared.Uncached line.name →
    (∀ basin, before.shared.basins line.name.1 = some basin →
      before.shared.locks (.streamInit basin.address) ≠ some id) →
    after.shared.stores.recordStorage = before.shared.stores.recordStorage
  actors {tx : Nat} {actor : StreamActor} : before.shared.actors[tx]? = some actor →
    ¬before.shared.Cached line.name ⟨tx⟩ → after.shared.actors[tx]? = some actor
  keys : before.shared.basins line.name.1 = none → ∀ basinId streamName,
    after.shared.stores.metaStorage.get (Stream.constructMetadataKey basinId streamName) =
      before.shared.stores.metaStorage.get (Stream.constructMetadataKey basinId streamName)
  replies {replyRx : ReplyId} : (before.shared.replies replyRx).isSome →
    (after.shared.replies replyRx).isSome

end AppendLine

/-! ## Stability -/

namespace Stores

variable {before after : Stores} {basinId : U128} {streamName : String} {tail : Nat}
  {log : List Record}

theorem RecordsDrawn.same (drawn : before.RecordsDrawn)
    (records : after.recordStorage = before.recordStorage)
    (grows : ∀ id ∈ before.drawn, id ∈ after.drawn) : after.RecordsDrawn := by
  intro metadata n undrawn
  rw [records]
  exact drawn metadata n fun member => undrawn (grows _ member)

theorem Opens.same (opens : before.Opens basinId streamName tail log)
    (key : after.metaStorage.get (Stream.constructMetadataKey basinId streamName) =
      before.metaStorage.get (Stream.constructMetadataKey basinId streamName))
    (records : after.recordStorage = before.recordStorage)
    (grows : ∀ id ∈ before.drawn, id ∈ after.drawn) :
    after.Opens basinId streamName tail log := by
  rcases opens with ⟨missing, new, empty, drawn⟩ | ⟨metadata, block, allocator, basin, found, rest⟩
  · exact .inl ⟨key.trans missing, new, empty, drawn.same records grows⟩
  · exact .inr ⟨metadata, block, allocator, basin, key.trans found, records ▸ rest⟩

end Stores

namespace SharedServer

variable {server : SharedServer} {name : String × String}

theorem uncached_of_basin (none_ : server.basins name.1 = none) : server.Uncached name := by
  intro stream cached
  rcases cached with ⟨basin, found, _⟩
  rw [none_] at found
  cases found

theorem uncached_of_stream {handle : BasinHandle} (basin : server.basins name.1 = some handle)
    (none_ : server.streams handle.address name.2 = none) : server.Uncached name := by
  intro stream cached
  rcases cached with ⟨other, found, placed⟩
  rw [basin] at found
  cases found
  rw [none_] at placed
  cases placed

end SharedServer

namespace AppendLine.Changes

variable {line : AppendLine} {id other : Nat} {history after : ServerHistory}

section Past

variable (changes : line.Changes id history after)

include changes

theorem found {k : Nat} {submission : Submission}
    (found : (submissions history.past)[k]? = some submission) :
    (submissions after.past)[k]? = some submission := by
  rcases changes.past with ⟨event, past, _⟩
  rw [past, submissions_append]
  exact (List.getElem?_append_left (List.getElem?_eq_some_iff.mp found).1).trans found

theorem length_le :
    (submissions history.past).length ≤ (submissions after.past).length := by
  rcases changes.past with ⟨event, past, _⟩
  rw [past, submissions_append, List.length_append]
  exact Nat.le_add_right _ _

theorem issued (different : other ≠ id) {k : Nat} (issued : IssuedBy history.past other k) :
    IssuedBy after.past other k := by
  rcases changes.past with ⟨event, past, alone⟩
  rw [past]
  exact issued.snoc fun start => different (alone other (start_task start))

theorem unsent (different : other ≠ id) (unsent : Unsent history other) :
    Unsent after other := by
  rcases changes.past with ⟨event, past, alone⟩
  have task : event.task ≠ some other := fun same => different (alone other same)
  refine ⟨(changes.issued different unsent.issued).mono changes.length_le, ?_⟩
  rw [past, submittedBy_snoc_of_ne task, startedBy_snoc_of_ne task]
  exact unsent.fewer

end Past

theorem sent (changes : line.Changes id history after) (holds : line.Holds history)
    (different : other ≠ id) {call : ServerCall} {k : Nat} {submission : Submission}
    (sent : line.Sent history other call k submission) :
    line.Sent after other call k submission := by
  refine ⟨changes.found sent.found, sent.task, sent.append,
    changes.issued different sent.issued, fun returned => ?_⟩
  rcases changes.numbers returned with before | ⟨l, submission', same, found, task⟩
  · exact sent.unreturned before
  · have index := line.number_injective holds.queued.bound
      (List.getElem?_eq_some_iff.mp sent.found).1 (List.getElem?_eq_some_iff.mp found).1 same
    subst index
    have equal := Option.some.inj (sent.found.symm.trans found)
    exact different (sent.task.symm.trans (equal ▸ task))

theorem basinStage (changes : line.Changes id history after) {stage : BasinStage}
    (knows : stage.Knows line.name.1 history.shared)
    (holds : BasinStageHolds history stage) : BasinStageHolds after stage := by
  cases stage with
  | drawn basinId =>
      intro streamName
      exact (changes.keys knows.1 basinId streamName).trans (holds streamName)
  | _ => exact holds

/-- What a task knows of the stream it opens, under the stream's lock. -/
theorem streamStage (changes : line.Changes id history after) {handle : BasinHandle}
    (basin : history.shared.basins line.name.1 = some handle)
    (free : history.shared.locks (.streamInit handle.address) ≠ some id) {stage : StreamStage}
    (knows : stage.Knows handle line.name history.shared)
    (holds : line.StreamStageHolds history handle stage) :
    line.StreamStageHolds after handle stage := by
  have key := changes.leaves.streamKeys basin free line.name.2
  have drawn : ∀ id ∈ history.shared.stores.drawn, id ∈ after.shared.stores.drawn :=
    fun _ member => changes.leaves.drawn member
  have records (uncached : history.shared.streams handle.address line.name.2 = none) :
      after.shared.stores.recordStorage = history.shared.stores.recordStorage :=
    changes.records (SharedServer.uncached_of_stream basin uncached) fun other found =>
      Option.some.inj (basin.symm.trans found) ▸ free
  have leads {metadata : StreamMetadata} (leads : line.Leads history handle metadata) :
      line.Leads after handle metadata := ⟨leads.basin, key.trans leads.stored⟩
  cases stage with
  | locked =>
      intro uncached
      have before := (congrFun (changes.leaves.streams_kept free) _).symm.trans uncached
      exact (holds before).same key (records before) drawn
  | uncached => exact Stores.Opens.same holds key (records knows) drawn
  | missing => exact ⟨holds.1, holds.2.1, holds.2.2.same (records knows.1) drawn⟩
  | drawn streamId =>
      refine ⟨holds.1, holds.2.1, ?_⟩
      rw [records knows.1]
      exact holds.2.2
  | named metadata =>
      rcases holds with ⟨named, found⟩
      refine ⟨leads named, ?_⟩
      rw [records knows]
      exact found
  | created metadata =>
      refine ⟨leads holds.1, holds.2.1, holds.2.2.1, ?_⟩
      rw [records knows]
      exact holds.2.2.2
  | loaded stream =>
      refine ⟨leads holds.1, ?_⟩
      rw [records knows]
      exact holds.2
  | spawned stream =>
      rcases holds with ⟨actor, metadata, named, present, serves⟩
      have uncached := SharedServer.uncached_of_stream basin knows.1
      refine ⟨actor, metadata, leads named, changes.actors present (uncached _), ?_⟩
      rw [records knows.1]
      exact serves
  | cached stream => trivial
  | failed => exact holds

theorem knows (changes : line.Changes id history after) (holds : line.Holds history)
    (different : other ≠ id) {call : ServerCall} {standing : Standing}
    (knows : line.Knows other call standing history) : line.Knows other call standing after := by
  have apart {lock : Lock} (is : standing.lock = some lock) :
      history.shared.locks lock ≠ some id := fun same =>
    different (Option.some.inj (((knows.holds lock).mpr is).symm.trans same))
  have stands := knows.stands
  have facts := knows.facts
  refine ⟨knows.append, changes.leaves.holds different knows.holds,
    changes.leaves.facts different knows.holds facts, ?_⟩
  cases standing with
  | free basin stream => exact changes.unsent different stands
  | atBasin stage =>
      exact ⟨changes.unsent different stands.1, changes.basinStage facts stands.2⟩
  | atStream handle stage =>
      exact ⟨changes.unsent different stands.1,
        changes.streamStage facts.1 (apart rfl) facts.2 stands.2⟩
  | waiting stream kind replyRx =>
      rcases stands with ⟨append, k, submission, sent, reply⟩
      exact ⟨append, k, submission, changes.sent holds different sent, reply⟩
  | acknowledged replyRx ack =>
      rcases stands with ⟨k, submission, sent, reply, acknowledged, replied⟩
      exact ⟨k, submission, changes.sent holds different sent, reply, acknowledged,
        changes.replies replied⟩
  | failed => exact stands

end AppendLine.Changes

end Slatestreams
