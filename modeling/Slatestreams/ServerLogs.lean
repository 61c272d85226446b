import Slatestreams.AppendCalls
import Slatestreams.Foundation.PoolLayers
import Slatestreams.ReadFollowLog
import Slatestreams.ReplyDiscipline
import Slatestreams.StoredLogs

/-! # The logs of a server

Over the discipline of replies: the actor of each name that is in the cache holds the log
of its stream, and each name that is not leads to a stream that can be gone on with. -/

namespace Slatestreams

open Foundation

/-! ## Numbers in replies -/

/-- An append is replied to with a number from the bound on. -/
def ActorOp.RepliesFrom (bound : Nat) : ActorOp → Prop
  | .reply .append _ (.ok ack) => bound ≤ ack.record.number
  | _ => True

theorem ActorPhase.repliesFrom_handle {bound : Nat} {stream : Stream}
    (reached : bound ≤ stream.nextSeqNum.toNat) (command : StreamCommand) :
    (StreamActor.handle stream command).Only (ActorOp.RepliesFrom bound) := by
  rcases handle_begins stream command with ⟨phase, is, begins⟩
  rw [is]
  cases begins with
  | append draws =>
      refine ⟨trivial, fun answer => ?_⟩
      cases answer with
      | ok => exact ⟨trivial, fun _ => ⟨reached, fun _ => trivial⟩⟩
      | error error => exact ⟨trivial, fun _ => trivial⟩
  | overflow => trivial
  | read =>
      refine ⟨trivial, fun answer => ⟨?_, fun _ => trivial⟩⟩
      trivial
  | subscribe => exact ⟨trivial, fun _ => ⟨trivial, fun _ => trivial⟩⟩

/-! ## What holds at every moment -/

namespace SharedServer

/-- The command has been put into the queue of the actor. -/
def Given (self : SharedServer) (tx : Nat) (command : StreamCommand) : Prop :=
  ∃ actor, self.actors[tx]? = some actor ∧ command ∈ actor.taken ++ actor.queue

theorem Given.sent {self : SharedServer} {tx : Nat} {command : StreamCommand}
    (given : self.Given tx command) : self.Sent command := by
  rcases given with ⟨actor, present, member⟩
  exact ⟨tx, actor, present, member⟩

/-- The actor has replied with the subscription. -/
def Heard (self : SharedServer) (tx : Nat) (subscription : Subscription) : Prop :=
  subscription.receiver.broadcaster = tx ∧
    ∃ replyRx, self.replies replyRx = some ⟨.subscribe, subscription⟩

/-- The task is the one that may open the stream of the name. -/
def OpenedBy (self : SharedServer) (id : Nat) (name : String × String) : Prop :=
  ∃ basin, self.basins name.1 = some basin ∧
    self.locks (.streamInit basin.address) = some id

/-- The actor goes on from the log of its name, what it has replied agrees with the log, and
it has not replied to what it has still to do. -/
structure Serves (MayFail : StorageOp → Prop) (server : SharedServer) (name : String × String)
    (tx : Nat) (metadata : StreamMetadata) (base log : List Record) (actor : StreamActor)
    (phase : ActorPhase) : Prop where
  present : server.actors[tx]? = some actor
  named : server.stores.named name.1 name.2 = some metadata
  actorLog : ActorLog (.consistent MayFail) metadata server.stores base log actor phase
  heard {subscription : Subscription} : server.Heard tx subscription →
    Subscribed base log actor phase subscription
  inHand {command : StreamCommand} : phase.command = some command → command ∈ actor.taken
  distinct : ((actor.taken ++ actor.queue).map StreamCommand.replyTx).Nodup
  owed {command : StreamCommand} : phase.command = some command ∨ command ∈ actor.queue →
    server.replies command.replyTx = none
  acknowledged {data : Bytes} {replyTx : ReplyId} {ack : AppendResult} :
    .append data replyTx ∈ actor.taken → server.replies replyTx = some ⟨.append, .ok ack⟩ →
      ack.record ∈ log ∧ ack.record.data = data ∧
        ack.nextSeqNum.toNat = ack.record.number + 1 ∧
        phase.AtLeast ack.nextSeqNum.toNat ∧
        actor.code.Only (ActorOp.RepliesFrom ack.nextSeqNum.toNat)

/-- Each log goes on from what it was at first, and as long as a name is not in the cache its
stream can be gone on with. -/
structure Logged (MayFail : StorageOp → Prop) (initial : String × String → List Record)
    (server : SharedServer) : Prop where
  separate : server.stores.Separate
  apart {tx other : Nat} {command latter : StreamCommand} : server.Given tx command →
    server.Given other latter → command.replyTx = latter.replyTx → tx = other ∧ command = latter
  idle {tx : Nat} {actor : StreamActor} : server.actors[tx]? = some actor →
    actor.broadcaster = tx ∧ (actor.taken = [] → ∃ stream, actor.code = .done stream)
  heard {tx : Nat} {subscription : Subscription} : server.Heard tx subscription →
    ∃ actor, server.actors[tx]? = some actor ∧ actor.taken ≠ []
  uncached {name : String × String} : server.Uncached name →
    server.stores.LoadsPastRecords name ∧ server.stores.log name = initial name
  serves {name : String × String} {stream : StreamHandle} : server.Cached name stream →
    ∃ metadata log actor phase,
      server.Serves MayFail name stream.tx metadata (initial name) log actor phase

theorem Logged.pastRecords {MayFail : StorageOp → Prop} {initial : String × String → List Record}
    {server : SharedServer} (logged : server.Logged MayFail initial) {name : String × String}
    (uncached : server.Uncached name) : server.stores.LoadsPastRecords name :=
  (logged.uncached uncached).1

theorem Serves.log_eq {MayFail : StorageOp → Prop} {server : SharedServer} {name : String × String}
    {tx : Nat} {metadata : StreamMetadata} {base log : List Record} {actor : StreamActor}
    {phase : ActorPhase} (serves : server.Serves MayFail name tx metadata base log actor phase) :
    server.stores.log name = log := by
  rw [Stores.log_of_named serves.named]
  exact StoresLog.log_eq serves.actorLog.stored serves.actorLog.ascending

end SharedServer

/-! ## What a task knows -/

/-- Nothing has been stored under the id that a basin is about to get. -/
def BasinStage.Logged (server : SharedServer) : BasinStage → Prop
  | .drawn basinId =>
      ∀ streamName, server.stores.streamMetadata basinId streamName = none
  | _ => True

/-- The name leads to the stream that the task is opening, once it leads anywhere. -/
def StreamStage.Logged (handle : BasinHandle) (name : String × String) (server : SharedServer) :
    StreamStage → Prop
  | .drawn streamId =>
      streamId ∈ server.stores.drawn ∧
        (∀ other, server.stores.streamMetadata handle.basinId other ≠
          some ⟨handle.basinId, streamId⟩) ∧
        Blank server.stores.recordStorage ⟨handle.basinId, streamId⟩
  | .named metadata => server.stores.named name.1 name.2 = some metadata
  | .created metadata =>
      server.stores.named name.1 name.2 = some metadata ∧
        Blank server.stores.recordStorage metadata
  | .loaded stream =>
      server.stores.named name.1 name.2 = some stream.metadata ∧
        ∃ log, Consistent server.stores.recordStorage stream log
  | .spawned handle =>
      ∃ stream, server.actors[handle.tx]? = some (.spawn handle.tx stream) ∧
        server.stores.named name.1 name.2 = some stream.metadata ∧
        ∃ log, Consistent server.stores.recordStorage stream log
  | _ => True

def Standing.Logged (name : String × String) (server : SharedServer) : Standing → Prop
  | .atBasin stage => stage.Logged server
  | .atStream handle stage => stage.Logged handle name server
  | _ => True

/-! ## What a task leaves alone -/

namespace SharedServer

/-- Logs grow, and by records that those who have subscribed have not been told of. The keys
of a stream stay as they are until its name is in the cache, but for the task that opens
the stream. -/
structure KeepsLogs (id : Nat) (before after : SharedServer) : Prop where
  records {metadata : StreamMetadata} :
    (∀ name : String × String, before.stores.named name.1 name.2 = some metadata →
      before.Uncached name ∧ ¬before.OpenedBy id name) →
      SameRecords metadata before.stores.recordStorage after.stores.recordStorage
  keys {basinId : U128} : (∀ other, before.stores.basinId other ≠ some basinId) →
    ∀ streamName, after.stores.streamMetadata basinId streamName =
      before.stores.streamMetadata basinId streamName
  named {name : String × String} {metadata : StreamMetadata} :
    before.stores.named name.1 name.2 = some metadata →
      after.stores.named name.1 name.2 = some metadata
  logs (name : String × String) : ∃ added,
    after.stores.log name = before.stores.log name ++ added ∧
      ∀ stream subscription, before.Cached name stream → before.Heard stream.tx subscription →
        ∀ record ∈ added, subscription.nextSeqNum.toNat ≤ record.number
  actors {tx : Nat} {actor : StreamActor} : before.actors[tx]? = some actor →
    ∃ next, after.actors[tx]? = some next ∧ actor.sent <+: next.sent ∧
      ((∀ name, ¬before.Cached name ⟨tx⟩) → next = actor)
  replies {replyRx : ReplyId} {value : Sigma ReplyKind.Value} :
    before.replies replyRx = some value → after.replies replyRx = some value
  ordered {tx : Nat} {data later : Bytes} {replyTx replyRx : ReplyId} {ack next : AppendResult} :
    before.Given tx (.append data replyTx) →
      before.replies replyTx = some ⟨.append, .ok ack⟩ → before.replies replyRx = none →
        after.Given tx (.append later replyRx) →
          after.replies replyRx = some ⟨.append, .ok next⟩ →
            ack.nextSeqNum.toNat ≤ next.record.number
  alone {left right : ReplyId} : before.replies left = none → before.replies right = none →
    (after.replies left).isSome → (after.replies right).isSome → left = right

theorem KeepsLogs.heard {id : Nat} {before after : SharedServer}
    (keeps : KeepsLogs id before after) {tx : Nat} {subscription : Subscription}
    (heard : before.Heard tx subscription) : after.Heard tx subscription := by
  rcases heard with ⟨same, replyRx, replied⟩
  exact ⟨same, replyRx, keeps.replies replied⟩

end SharedServer

/-- What the server holds of its logs, and what the tasks know of the streams they open. -/
def logging (MayFail : StorageOp → Prop) (initial : String × String → List Record) :
    Discipline.Layer server ServerCall ServerResult SharedServer Standing where
  Holds history := history.shared.Logged MayFail initial
  Knows _ call standing history := standing.Logged call.name history.shared
  Changes id before after := before.shared.KeepsLogs id after.shared

/-! ## Stability -/

namespace SharedServer

variable {MayFail : StorageOp → Prop} {id other : Nat} {server after : SharedServer}
  {name : String × String}

/-- The stream that another task opens is left alone. -/
theorem KeepsLogs.opening (keeps : KeepsLogs id server after) (owned : server.NamesOwned)
    (separate : server.stores.Separate) {handle : BasinHandle} {metadata : StreamMetadata}
    (basin : server.basins name.1 = some handle)
    (missing : server.streams handle.address name.2 = none)
    (free : server.locks (.streamInit handle.address) ≠ some id)
    (named : server.stores.named name.1 name.2 = some metadata) :
    after.stores.named name.1 name.2 = some metadata ∧
      SameRecords metadata server.stores.recordStorage after.stores.recordStorage := by
  refine ⟨keeps.named named, keeps.records fun other leads => ?_⟩
  have same := separate.named_injective owned.distinct named leads
  subst same
  refine ⟨uncached_of_stream basin missing, ?_⟩
  rintro ⟨found, placed, locked⟩
  rw [basin] at placed
  cases placed
  exact free locked

theorem KeepsLogs.consistent {stream : Stream}
    (same : SameRecords stream.metadata server.stores.recordStorage after.stores.recordStorage)
    (consistent : ∃ log, Consistent server.stores.recordStorage stream log) :
    ∃ log, Consistent after.stores.recordStorage stream log := by
  rcases consistent with ⟨log, consistent⟩
  exact ⟨log, consistent.kept same.record⟩

theorem KeepsLogs.stage (keeps : KeepsLogs id server after) (leaves : Leaves id server after)
    (owned : server.NamesOwned) (separate : server.stores.Separate) {handle : BasinHandle}
    {stage : StreamStage} (basin : server.basins name.1 = some handle)
    (free : server.locks (.streamInit handle.address) ≠ some id)
    (knows : stage.Knows handle name server) (logged : stage.Logged handle name server) :
    stage.Logged handle name after := by
  cases stage with
  | drawn streamId =>
      rcases logged with ⟨drawn, unused, blank⟩
      have streams (streamName : String) : after.stores.streamMetadata handle.basinId streamName =
          server.stores.streamMetadata handle.basinId streamName := by
        rw [Stores.streamMetadata, leaves.streamKeys basin free, ← Stores.streamMetadata]
      refine ⟨leaves.drawn drawn, fun other => ?_, ?_⟩
      · rw [streams]
        exact unused other
      · refine (keeps.records fun other leads => ?_).blank blank
        rcases Stores.named_eq_some.mp leads with ⟨basinId, _, stream⟩
        have same : handle.basinId = basinId := separate.basin stream
        subst same
        exact absurd stream (unused _)
  | named metadata => exact keeps.named logged
  | created metadata =>
      rcases keeps.opening owned separate basin knows free logged.1 with ⟨named, same⟩
      exact ⟨named, same.blank logged.2⟩
  | loaded stream =>
      rcases keeps.opening owned separate basin knows free logged.1 with ⟨named, same⟩
      exact ⟨named, KeepsLogs.consistent same logged.2⟩
  | spawned placed =>
      rcases logged with ⟨stream, present, named, consistent⟩
      rcases keeps.opening owned separate basin knows.1 free named with ⟨kept, same⟩
      rcases keeps.actors present with ⟨next, found, _, idle⟩
      have uncached (other : String × String) : ¬server.Cached other ⟨placed.tx⟩ := by
        intro cached
        have owner := owned.names_of_cached cached
        rw [knows.2] at owner
        cases owner
        exact uncached_of_stream basin knows.1 _ cached
      rw [idle uncached] at found
      exact ⟨stream, found, kept, KeepsLogs.consistent same consistent⟩
  | _ => trivial

theorem KeepsLogs.standing (keeps : KeepsLogs id server after) (leaves : Leaves id server after)
    (owned : server.NamesOwned) (separate : server.stores.Separate) {standing : Standing}
    (different : other ≠ id) (holds : standing.Holds other server)
    (facts : standing.Facts name server) (logged : standing.Logged name server) :
    standing.Logged name after := by
  cases standing with
  | atBasin stage =>
      cases stage with
      | drawn basinId =>
          intro streamName
          exact (keeps.keys facts.2.2.2 streamName).trans (logged streamName)
      | _ => trivial
  | atStream handle stage =>
      have locked := (holds (.streamInit handle.address)).mpr rfl
      have free : server.locks (.streamInit handle.address) ≠ some id := by
        intro same
        rw [locked] at same
        exact different (Option.some.inj same)
      exact keeps.stage leaves owned separate facts.1 free facts.2 logged
  | _ => trivial

end SharedServer

end Slatestreams
