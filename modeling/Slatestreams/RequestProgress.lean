import Mathlib.Data.List.Nodup
import Mathlib.Data.List.Perm.Subperm
import Mathlib.Logic.Relation
import Slatestreams.ReplyDiscipline

/-! # No request is stuck

Whatever has happened to a server, its requests can all come to an end: the holder
of a lock gives it back, an actor serves its queue, and every command gets the reply
that is waited for. -/

namespace Slatestreams

open Foundation

/-! ## What requests cost -/

/-- The ids that a call may need: its own, or that of the task whose lock it waits for. -/
def ServerOp.cost : ServerOp → Option Nat
  | .storage .newV4 | .lockBasinInit | .lockStreamInit _ => some 1
  | .recv _ => none
  | _ => some 0

namespace ServerCall

variable {α : Type}

theorem costs_call {op : ServerOp} {budget : Nat} {next : op.Answer → Program server α}
    (free : op.cost = some 0) (rest : ∀ answer, (next answer).Costs ServerOp.cost budget) :
    (Program.call (S := server) op next).Costs ServerOp.cost budget :=
  ⟨0, budget, free, (Nat.zero_add _).symm, rest⟩

theorem costs_paid (budget : Nat) {op : ServerOp} {next : op.Answer → Program server α}
    (paid : op.cost = some 1) (rest : ∀ answer, (next answer).Costs ServerOp.cost budget) :
    (Program.call (S := server) op next).Costs ServerOp.cost (budget + 1) :=
  ⟨1, budget, paid, Nat.add_comm _ _, rest⟩

theorem costs_reads {program : Program storage α} (reads : program.Only StorageOp.Reads) :
    (storageCalls program).Costs ServerOp.cost 0 := by
  induction program with
  | done value => trivial
  | panic message => trivial
  | call op next induction =>
      have free : (ServerOp.storage op).cost = some 0 := by
        cases op with
        | newV4 => exact reads.1.elim
        | _ => rfl
      exact costs_call free fun answer => induction answer (reads.2 answer)

theorem costs_onServer {ε : Type} {wrap : ε → ControllerError} {budget : Nat}
    {program : ExceptT ε (Program storage) α}
    (costs : (storageCalls program.run).Costs ServerOp.cost budget) :
    (onServer wrap program).run.Costs ServerOp.cost budget := by
  rw [onServer, run_orThrow]
  refine costs.bind budget 0 fun result => ?_
  cases result <;> trivial

theorem costs_andThen {β : Type} {budget : Nat} {result : Except ControllerError α}
    {next : α → Program server (Except ControllerError β)}
    (costs : ∀ value, (next value).Costs ServerOp.cost budget) :
    (StreamController.andThen next result).Costs ServerOp.cost budget := by
  cases result with
  | ok value => exact costs value
  | error error => trivial

theorem costs_placeBasin (basinName : String) (basin : Basin) :
    (StreamController.placeBasin basinName basin).Costs ServerOp.cost 0 :=
  costs_call rfl fun _ => costs_call rfl fun _ => trivial

theorem costs_getBasin (basinName : String) {missing : Request Basin} (budget : Nat)
    (costs : missing.run.Costs ServerOp.cost budget) :
    (StreamController.getBasin basinName missing).run.Costs ServerOp.cost (budget + 1) := by
  rw [StreamController.getBasin_eq]
  refine costs_call rfl fun found => ?_
  cases found with
  | some basin => trivial
  | none =>
      refine costs_paid _ rfl fun _ => costs_call rfl fun found => ?_
      cases found with
      | some basin => exact costs_call rfl fun _ => trivial
      | none =>
          refine Program.Costs.bind _ 0 ?_ fun result => costs_call rfl fun _ => trivial
          rw [StreamController.openBasin, Basin.load_eq]
          refine costs_call rfl fun answer => ?_
          change (StreamController.loadedBasin basinName missing
            (Basin.loadResult basinName answer)).Costs ServerOp.cost budget
          rcases Basin.loadResult basinName answer with error | _ | basin
          · trivial
          · refine costs.bind budget 0 fun found => ?_
            cases found with
            | ok basin => exact costs_placeBasin basinName basin
            | error error => trivial
          · exact (costs_placeBasin basinName basin).mono (Nat.zero_le _)

theorem costs_newBasin (basinName : String) :
    (onServer .basin (Basin.new basinName)).run.Costs ServerOp.cost 1 := by
  apply costs_onServer
  rw [Basin.new_eq]
  refine costs_paid 0 rfl fun basinId => costs_call rfl fun answer => ?_
  cases answer <;> trivial

theorem costs_placeStream (handle : BasinHandle) (streamName : String) (stream : Stream) :
    (handle.placeStream streamName stream).Costs ServerOp.cost 0 :=
  costs_call rfl fun _ => costs_call rfl fun _ => trivial

theorem costs_newStream (handle : BasinHandle) (streamName : String) :
    ((storageCalls (Stream.new handle.basinId streamName).run).bind
      (handle.createdStream streamName)).Costs ServerOp.cost 1 := by
  rw [Stream.new_eq]
  refine costs_paid 0 rfl fun streamId => costs_call rfl fun answer => ?_
  rcases answer with error | ⟨⟩
  · trivial
  · refine costs_call rfl fun answer => ?_
    rcases answer with error | ⟨⟩
    · trivial
    · exact costs_placeStream handle streamName _

theorem only_load (basinId : U128) (streamName : String) :
    (Stream.load basinId streamName).run.Only StorageOp.Reads := by
  rw [Stream.load_eq]
  refine ⟨trivial, fun answer => ?_⟩
  unfold Stream.loadNamed
  split
  · trivial
  · trivial
  · split
    · trivial
    · refine ⟨trivial, fun answer => ?_⟩
      unfold Stream.loadResult
      split
      · trivial
      · trivial
      · split
        · trivial
        · split <;> trivial

theorem costs_loadedStream (handle : BasinHandle) (streamName : String) (create : Bool)
    (loaded : Except StreamError Stream) :
    (handle.loadedStream streamName create loaded).Costs ServerOp.cost 1 := by
  unfold BasinHandle.loadedStream
  split
  · exact (costs_placeStream handle streamName _).mono (Nat.zero_le _)
  · split
    · exact costs_newStream handle streamName
    · trivial
  · trivial

theorem costs_getStream (handle : BasinHandle) (streamName : String) (create : Bool) :
    (handle.getStream streamName create).run.Costs ServerOp.cost 2 := by
  rw [BasinHandle.getStream_eq]
  refine costs_call rfl fun found => ?_
  cases found with
  | some stream => trivial
  | none =>
      refine costs_paid _ rfl fun _ => costs_call rfl fun found => ?_
      cases found with
      | some stream => exact costs_call rfl fun _ => trivial
      | none =>
          refine Program.Costs.bind _ 0 ?_ fun result => costs_call rfl fun _ => trivial
          exact (costs_reads (only_load _ _)).bind 0 1 (costs_loadedStream handle streamName create)

theorem costs_appendTo (stream : StreamHandle) (data : Bytes) :
    (StreamController.appendTo stream data).Costs ServerOp.cost 0 := by
  refine costs_call rfl fun sent => ?_
  cases sent with
  | none => trivial
  | some replyRx =>
      refine costs_call rfl fun answer => ?_
      rcases answer with _ | error | ack <;> trivial

theorem costs_followStream (stream : StreamHandle) (startSeqNum : UInt64) :
    (StreamController.followStream stream startSeqNum).run.Costs ServerOp.cost 0 := by
  refine costs_call rfl fun sent => ?_
  cases sent with
  | none => trivial
  | some replyRx =>
      refine costs_call rfl fun answer => ?_
      cases answer with
      | none => trivial
      | some subscription => exact costs_call rfl fun _ => trivial

/-- The code of a client's request costs no more than two ids and two locks. -/
theorem costs_code (call : ServerCall) (client : call.isFollow = false) :
    call.code.Costs ServerOp.cost 4 := by
  have missing {basinName : String} (error : ControllerError) :
      (StreamController.getBasin basinName (throw error)).run.Costs ServerOp.cost 1 :=
    costs_getBasin basinName 0 trivial
  cases call with
  | append basinName streamName data =>
      refine Program.Costs.bind 4 0 ?_ fun _ => trivial
      rw [StreamController.append_eq]
      refine costs_andThen fun _ => costs_andThen fun _ => ?_
      refine (costs_getBasin basinName 1 (costs_newBasin basinName)).bind 2 2 fun basin => ?_
      refine costs_andThen fun basin => ?_
      refine (costs_getStream basin streamName true).bind 2 0 fun stream => ?_
      exact costs_andThen fun stream => costs_appendTo stream data
  | readFollow basinName streamName startSeqNum =>
      refine Program.Costs.bind 4 0 ?_ fun _ => trivial
      rw [StreamController.readFollow_eq]
      refine costs_andThen fun _ => costs_andThen fun _ => ?_
      refine ((missing _).bind 1 2 fun basin => ?_).mono (Nat.le_succ 3)
      refine costs_andThen fun basin => ?_
      refine (costs_getStream basin streamName false).bind 2 0 fun stream => ?_
      exact costs_andThen fun stream => costs_followStream stream startSeqNum
  | listStreams basinName =>
      refine Program.Costs.bind 4 0 ?_ fun _ => trivial
      rw [StreamController.listStreams_eq]
      refine costs_andThen fun _ => ?_
      refine ((missing _).bind 1 0 fun basin => ?_).mono (by decide)
      exact costs_andThen fun basin => costs_onServer (costs_reads (Stream.only_list _))
  | listBasins =>
      refine Program.Costs.bind 4 0 ?_ fun _ => trivial
      exact (costs_onServer (costs_reads Basin.only_list)).mono (Nat.zero_le _)
  | follow basinName streamName follower => cases client

end ServerCall

/-! ## Storage that does not fail -/

/-- The ids that a storage call draws. -/
def StorageOp.draws : StorageOp → Nat
  | .newV4 => 1
  | _ => 0

theorem exists_undrawn {drawn : List U128} (fewer : drawn.length < 2 ^ 128) :
    ∃ id, id ∉ drawn := by
  by_contra none_
  have all (id : U128) : id ∈ drawn := by
    by_contra undrawn
    exact none_ ⟨id, undrawn⟩
  let some_ : List U128 := (List.range (drawn.length + 1)).map (BitVec.ofNat 128)
  have distinct : some_.Nodup := by
    apply List.Nodup.map_on _ List.nodup_range
    intro left leftMember right rightMember same
    have small {n : Nat} (member : n ∈ List.range (drawn.length + 1)) : n < 2 ^ 128 := by
      have := List.mem_range.mp member
      omega
    have equal := congrArg BitVec.toNat same
    rw [BitVec.toNat_ofNat, BitVec.toNat_ofNat, Nat.mod_eq_of_lt (small leftMember),
      Nat.mod_eq_of_lt (small rightMember)] at equal
    exact equal
  have within := (distinct.subperm fun id _ => all id).length_le
  rw [List.length_map, List.length_range] at within
  exact Nat.not_succ_le_self _ within

/-- Every storage call can be answered, as long as there is an id left to draw. -/
theorem StorageOp.answerable (op : StorageOp) {stores : Stores}
    (left : op = .newV4 → stores.drawn.length < 2 ^ 128) :
    ∃ answer after, op.Answers (fun _ => False) stores answer after ∧
      after.drawn.length = stores.drawn.length + op.draws := by
  cases op with
  | apply store batch =>
      refine ⟨.ok (), stores.write batch store, rfl, ?_⟩
      cases store <;> rfl
  | get store key => exact ⟨.ok ((stores.contents store).read key), stores, ⟨rfl, rfl⟩, rfl⟩
  | scanIter store range =>
      exact ⟨.ok ((stores.contents store).scanIter range), stores, ⟨rfl, rfl⟩, rfl⟩
  | next iterator => exact ⟨.ok iterator.head?, stores, ⟨rfl, rfl⟩, rfl⟩
  | newV4 =>
      rcases exists_undrawn (left rfl) with ⟨id, undrawn⟩
      refine ⟨id, stores.draw id, ⟨undrawn, rfl⟩, ?_⟩
      change (stores.drawn ++ [id]).length = _
      rw [List.length_append]
      rfl

/-- A call that leaves fewer ids to be drawn than there were. -/
theorem StorageOp.answerable_within (op : StorageOp) {stores : Stores} {spare : Nat}
    {rest : op.Answer → Nat} (draws : ∀ answer, rest answer + op.draws ≤ spare)
    (left : stores.drawn.length + spare ≤ 2 ^ 128) :
    ∃ answer after, op.Answers (fun _ => False) stores answer after ∧
      after.drawn.length + rest answer ≤ stores.drawn.length + spare := by
  have more : op = .newV4 → stores.drawn.length < 2 ^ 128 := by
    intro same
    subst same
    have := draws (0 : U128)
    simp only [StorageOp.draws] at this
    omega
  rcases op.answerable more with ⟨answer, after, answers, drawn⟩
  have := draws answer
  exact ⟨answer, after, answers, by omega⟩

/-! ## Actors serve their queues -/

namespace SharedServer

/-- The actors make some steps, with storage that does not fail. -/
def Works : SharedServer → SharedServer → Prop :=
  Relation.ReflTransGen (Moves fun _ => False)

variable {server after : SharedServer} {tx : Nat} {actor : StreamActor}

/-- The actor has nothing left to do, or has ended. -/
def Rests (server : SharedServer) (tx : Nat) : Prop :=
  ∃ actor, server.actors[tx]? = some actor ∧
    (actor.running = false ∨ (∃ stream, actor.code = .done stream) ∧ actor.queue = [])

/-- One step of an actor. -/
theorem works_step (present : server.actors[tx]? = some actor) {effect : ActorEffect}
    {stores : Stores} {next : StreamActor}
    (taken : ActorStep (fun _ => False) server.stores actor effect stores next) :
    ∃ after, Moves (fun _ => False) server after ∧ after.actors[tx]? = some next := by
  refine ⟨_, .actor present taken, ?_⟩
  exact List.getElem?_set_self (List.getElem?_eq_some_iff.mp present).1

/-- The loop body comes to its end. -/
theorem body_ends {code : Program streamActor Stream} (owned : server.NamesOwned)
    (present : server.actors[tx]? = some actor) (is : actor.code = code) :
    ∃ after next, server.Works after ∧ after.NamesOwned ∧ after.actors[tx]? = some next ∧
      next.queue = actor.queue ∧ (next.running = false ∨ ∃ stream, next.code = .done stream) := by
  induction code generalizing server actor with
  | done stream => exact ⟨server, actor, .refl, owned, present, rfl, .inr ⟨stream, is⟩⟩
  | panic message =>
      refine ⟨server, actor, .refl, owned, present, rfl, .inl ?_⟩
      rw [StreamActor.running, is]
  | call op next induction =>
      have goes {effect : ActorEffect} {stores : Stores} {moved : StreamActor} {answer : op.Answer}
          (taken : ActorStep (fun _ => False) server.stores actor effect stores moved)
          (code : moved.code = next answer) (queue : moved.queue = actor.queue) :
          ∃ after later, server.Works after ∧ after.NamesOwned ∧ after.actors[tx]? = some later ∧
            later.queue = actor.queue ∧
            (later.running = false ∨ ∃ stream, later.code = .done stream) := by
        rcases works_step present taken with ⟨middle, moves, found⟩
        rcases induction answer (owned.moves moves) found code with
          ⟨after, later, works, owned, last, same, ends⟩
        exact ⟨after, later, .head moves works, owned, last, same.trans queue, ends⟩
      cases op with
      | storage op =>
          have only := owned.recordsOnly present
          rw [is] at only
          have draws : op ≠ .newV4 := by
            rintro rfl
            exact only.1
          rcases op.answerable (fun same => absurd same draws) with ⟨answer, stores, answers, _⟩
          exact goes (.storage is answers) rfl rfl
      | broadcast record => exact goes (.broadcast is) rfl rfl
      | subscribe => exact goes (.subscribe is) rfl rfl
      | reply kind replyTx value => exact goes (.reply is) rfl rfl

/-- An actor serves its whole queue. -/
theorem queue_ends {waiting : List StreamCommand} (owned : server.NamesOwned)
    (present : server.actors[tx]? = some actor) (queue : actor.queue = waiting) :
    ∃ after, server.Works after ∧ after.Rests tx := by
  induction waiting generalizing server actor with
  | nil =>
      rcases body_ends owned present rfl with ⟨after, next, works, _, found, same, ends⟩
      exact ⟨after, works, next, found, ends.imp_right fun done => ⟨done, same.trans queue⟩⟩
  | cons command rest induction =>
      rcases body_ends owned present rfl with ⟨middle, next, works, owned, found, same, ends⟩
      rcases ends with stopped | ⟨stream, waits⟩
      · exact ⟨middle, works, next, found, .inl stopped⟩
      · rcases works_step found (.recv waits (same.trans queue)) with ⟨later, moves, found⟩
        rcases induction (owned.moves moves) found rfl with ⟨after, more, rests⟩
        exact ⟨after, (works.tail moves).trans more, rests⟩

/-- What the steps of actors leave alone. -/
theorem Works.same (works : server.Works after) (owned : server.NamesOwned) :
    after.locks = server.locks ∧ after.stores.drawn = server.stores.drawn := by
  induction works with
  | refl => exact ⟨rfl, rfl⟩
  | tail works moves induction =>
      have kept : ∀ {middle : SharedServer}, server.Works middle → middle.NamesOwned := by
        intro middle works
        induction works with
        | refl => exact owned
        | tail _ moves induction => exact induction.moves moves
      have names := kept works
      cases moves with
      | actor present taken =>
          have same := (taken.same (names.recordsOnly present)).1
          exact ⟨induction.1, same.drawn.trans induction.2⟩

end SharedServer

/-! ## Holders of locks -/

def BasinStage.draws : BasinStage → Nat
  | .locked | .uncached | .missing => 1
  | _ => 0

def StreamStage.draws : StreamStage → Nat
  | .locked | .uncached | .missing => 1
  | _ => 0

/-- The ids that a task still draws before it gives back its lock. -/
def Standing.draws : Standing → Nat
  | .atBasin stage => stage.draws
  | .atStream _ stage => stage.draws
  | _ => 0

theorem BasinStage.draws_le (stage : BasinStage) : stage.draws ≤ 1 := by
  cases stage <;> simp [draws]

theorem StreamStage.draws_le (stage : StreamStage) : stage.draws ≤ 1 := by
  cases stage <;> simp [draws]

theorem BasinStage.draws_learn {basinName : String} {stage : BasinStage} {op : StorageOp}
    (allowed : stage.Calls basinName op) (answer : op.Answer) :
    (stage.learn op answer).draws + op.draws ≤ stage.draws := by
  cases stage with
  | uncached =>
      rcases allowed with rfl
      exact draws_le _
  | missing =>
      rcases allowed with rfl
      exact Nat.le_refl _
  | drawn basinId =>
      rcases allowed with rfl
      cases answer <;> exact Nat.le_refl _
  | _ => exact allowed.elim

theorem StreamStage.draws_learn {basinId : U128} {streamName : String} {stage : StreamStage}
    {op : StorageOp} (allowed : stage.Calls basinId streamName op) (answer : op.Answer) :
    (stage.learn basinId op answer).draws + op.draws ≤ stage.draws := by
  cases stage with
  | uncached =>
      rcases allowed with rfl
      exact draws_le _
  | missing =>
      rcases allowed with rfl
      exact Nat.le_refl _
  | drawn streamId =>
      rcases allowed with rfl
      cases answer <;> exact Nat.le_refl _
  | named metadata =>
      rcases allowed with rfl
      change (StreamStage.blockLoaded metadata answer).draws + 0 ≤ 0
      unfold StreamStage.blockLoaded
      split <;> exact Nat.le_refl _
  | created metadata =>
      rcases allowed with rfl
      cases answer <;> exact Nat.le_refl _
  | _ => exact allowed.elim

theorem SharedServer.unlocked (server : SharedServer) (lock : Lock) :
    (server.unlock lock).locks lock = none := by
  simp [unlock]

namespace Standing

variable {call : ServerCall} {standing : Standing} {lock : Lock} {op : ServerOp}
  {server : SharedServer}

theorem draws_le (standing : Standing) : standing.draws ≤ 1 := by
  cases standing with
  | atBasin stage => exact stage.draws_le
  | atStream handle stage => exact stage.draws_le
  | _ => exact Nat.zero_le 1

/-- A lock is taken by tasks that have none. -/
theorem unlocked_of_locks (allowed : standing.Calls call op)
    (locks : op = .lockBasinInit ∨ ∃ handle, op = .lockStreamInit handle) :
    standing.lock = none := by
  cases standing with
  | atBasin stage => rcases locks with rfl | ⟨handle, rfl⟩ <;> exact allowed.elim
  | atStream handle stage => rcases locks with rfl | ⟨other, rfl⟩ <;> exact allowed.elim
  | _ => rfl

/-- The next call of a holder can be answered, and gives back the lock or keeps it. -/
theorem held_answerable (held : standing.lock = some lock) (allowed : standing.Calls call op)
    (id : Nat) (left : server.stores.drawn.length + standing.draws ≤ 2 ^ 128) :
    ∃ answer after, server.Answers (fun _ => False) id call.name op answer after ∧
      (after.locks lock = none ∨ (standing.learn op answer).lock = some lock) ∧
      after.stores.drawn.length + (standing.learn op answer).draws ≤
        server.stores.drawn.length + standing.draws := by
  cases standing with
  | atBasin stage =>
      cases held
      cases op with
      | storage op =>
          rcases op.answerable_within (BasinStage.draws_learn allowed) left with
            ⟨answer, stores, answers, fewer⟩
          exact ⟨answer, { server with stores }, ⟨stores, answers, rfl⟩, .inr rfl, fewer⟩
      | readBasins basinName =>
          rcases allowed with ⟨rfl, rfl⟩
          have stores : (server.returned call.name.1 (server.basins call.name.1)).stores =
              server.stores := by
            unfold SharedServer.returned
            split <;> rfl
          refine ⟨server.basins call.name.1, _, ⟨rfl, rfl⟩, .inr ?_, ?_⟩
          · cases server.basins call.name.1 <;> rfl
          · rw [stores]
            exact Nat.add_le_add_left (draws_le _) _
      | newBasinHandle basin =>
          rcases allowed with rfl
          exact ⟨⟨server.basinHandles, basin.basinId⟩, _, ⟨rfl, rfl⟩, .inr rfl, Nat.le_refl _⟩
      | insertBasin basinName handle =>
          rcases allowed with ⟨rfl, rfl⟩
          exact ⟨(), _, rfl, .inr rfl, Nat.le_refl _⟩
      | unlockBasinInit =>
          refine ⟨(), server.unlock .basinInit, rfl, .inl (server.unlocked _), ?_⟩
          apply Nat.add_le_add_left
          cases stage <;> exact Nat.zero_le _
      | _ => exact allowed.elim
  | atStream handle stage =>
      cases held
      cases op with
      | storage op =>
          rcases op.answerable_within (StreamStage.draws_learn allowed) left with
            ⟨answer, stores, answers, fewer⟩
          exact ⟨answer, { server with stores }, ⟨stores, answers, rfl⟩, .inr rfl, fewer⟩
      | readStreams other streamName =>
          rcases allowed with ⟨rfl, rfl, rfl⟩
          refine ⟨server.streams other.address call.name.2, server, ⟨rfl, rfl⟩, .inr ?_, ?_⟩
          · cases server.streams other.address call.name.2 <;> rfl
          · exact Nat.add_le_add_left (draws_le _) _
      | spawn stream =>
          rcases allowed with rfl
          exact ⟨⟨server.actors.length⟩, _, ⟨rfl, rfl⟩, .inr rfl, Nat.le_refl _⟩
      | insertStream other streamName stream =>
          rcases allowed with ⟨rfl, rfl, rfl⟩
          exact ⟨(), _, rfl, .inr rfl, Nat.le_refl _⟩
      | unlockStreamInit other =>
          rcases allowed with ⟨rfl, _⟩
          refine ⟨(), server.unlock (.streamInit other.address), rfl,
            .inl (server.unlocked _), ?_⟩
          apply Nat.add_le_add_left
          cases stage <;> exact Nat.zero_le _
      | _ => exact allowed.elim
  | _ => cases held

end Standing

/-! ## Calm runs -/

/-- Only a following task takes another turn. -/
theorem ServerCall.of_resume {call : ServerCall} {value : ServerResult}
    {code : Program server ServerResult} (resumes : call.resume value = some code) :
    ∃ basinName streamName follower receiver, call = .follow basinName streamName follower ∧
      value = .turned (some receiver) := by
  cases call with
  | follow basinName streamName follower =>
      cases value with
      | turned receiver =>
          cases receiver with
          | none => cases resumes
          | some receiver => exact ⟨basinName, streamName, follower, receiver, rfl, rfl⟩
      | _ => cases resumes
  | _ => cases resumes

/-- The server without failures, where only tasks that have panicked are dropped. -/
def SharedServer.calm : Environment server ServerCall ServerResult SharedServer :=
  environment (fun _ => False) (fun _ => False) False

namespace ServerPool

/-- A calm run in which no task starts. -/
structure Leads (pool : ServerPool) (events : List ServerEvent) (last : ServerPool) : Prop where
  run : Run (Pool.Step SharedServer.calm) pool events last
  unstarted (id : Nat) (call : ServerCall) : .started id call ∉ events

/-- A task of an orderly server, with where it stands. -/
abbrev Stands : List ServerEvent → ServerPool → Nat → ServerCall → Program server ServerResult →
    Standing → Prop :=
  replyDiscipline.Stands

theorem calm_keeps : replyDiscipline.Keeps SharedServer.calm fun _ => True :=
  replyDiscipline_keeps _ _ _

variable {past events later : List ServerEvent} {pool middle last : ServerPool}
  {event : ServerEvent} {id holder : Nat} {call origin : ServerCall}
  {code waits : Program server ServerResult} {standing other : Standing} {lock : Lock}

theorem Leads.refl (pool : ServerPool) : pool.Leads [] pool :=
  ⟨.nil, fun _ _ => List.not_mem_nil⟩

theorem Leads.trans (first : pool.Leads events middle) (second : middle.Leads later last) :
    pool.Leads (events ++ later) last where
  run := first.run.trans second.run
  unstarted id call member := by
    rcases List.mem_append.mp member with earlier | rest
    · exact first.unstarted id call earlier
    · exact second.unstarted id call rest

theorem Leads.single (taken : Pool.Step SharedServer.calm pool event last)
    (goes : ∀ id call, event ≠ .started id call) : pool.Leads [event] last where
  run := .single taken
  unstarted id call member := goes id call (List.mem_singleton.mp member).symm

/-- The server does not restart in a calm run. -/
theorem Leads.unreset (leads : pool.Leads events last) : .reset ∉ events := by
  have run := leads.run
  clear leads
  induction run with
  | nil => exact List.not_mem_nil
  | snoc run taken induction =>
      intro member
      rcases List.mem_append.mp member with earlier | now
      · exact induction earlier
      · rw [← List.mem_singleton.mp now] at taken
        cases taken with
        | reset resets => exact resets.1

/-- Steps of actors leave a task where it stands. -/
theorem works_lead {after : SharedServer} (works : pool.shared.Works after)
    (stands : Stands past pool id call code standing) :
    ∃ events, pool.Leads events { pool with shared := after } ∧
      Stands (past ++ events) { pool with shared := after } id call code standing := by
  induction works with
  | refl =>
      refine ⟨[], .refl pool, ?_⟩
      rw [List.append_nil]
      exact stands
  | tail works moves induction =>
      rename_i between after
      rcases induction with ⟨events, leads, stands⟩
      have taken : Pool.Step SharedServer.calm { pool with shared := between } .moved
          { pool with shared := after } := .moved moves
      refine ⟨events ++ [.moved], leads.trans (.single taken nofun), ?_⟩
      rw [← List.append_assoc]
      exact stands.elsewhere calm_keeps trivial taken nofun nofun

/-- A task that holds a lock can be brought to give it back, while another task waits. -/
theorem holder_unlocks (holding : Stands past pool holder origin code standing)
    (held : standing.lock = some lock)
    (left : pool.shared.stores.drawn.length + standing.draws ≤ 2 ^ 128)
    (waiting : Stands past pool id call waits other) (apart : id ≠ holder) :
    ∃ events last, pool.Leads events last ∧ Stands (past ++ events) last id call waits other ∧
      last.shared.locks lock = none ∧
      last.shared.stores.drawn.length ≤ pool.shared.stores.drawn.length + standing.draws := by
  have released {past : List ServerEvent} {pool : ServerPool} {code : Program server ServerResult}
      {standing : Standing} (holding : Stands past pool holder origin code standing)
      (held : standing.lock = some lock) :
      (SharedServer.release holder pool.shared).locks lock = none := by
    change (if pool.shared.locks lock = some holder then none else pool.shared.locks lock) = none
    rw [if_pos ((holding.knows.1.1 lock).mpr held)]
  have different {event : ServerEvent} (about : event.task = some holder) :
      event.task ≠ some id := by
    rw [about]
    exact fun same => apart (Option.some.inj same).symm
  induction code generalizing past pool standing with
  | done value =>
      have ends : ServerCall.resume origin value = none := by
        cases resumes : ServerCall.resume origin value with
        | none => rfl
        | some code =>
            have post : Standing.Ends origin standing value := holding.meets
            rcases ServerCall.of_resume resumes with ⟨_, _, follower, receiver, rfl, rfl⟩
            rcases post with ⟨basin, rfl⟩
            cases held
      have taken : Pool.Step SharedServer.calm pool (.returned holder origin value) _ :=
        .returned holding.running ends
      exact ⟨_, _, .single taken nofun,
        waiting.elsewhere calm_keeps trivial taken (different rfl) nofun, released holding held,
        Nat.le_add_right _ _⟩
  | panic message =>
      have taken : Pool.Step SharedServer.calm pool (.dropped holder) _ :=
        .dropped holding.running trivial
      exact ⟨_, _, .single taken nofun,
        waiting.elsewhere calm_keeps trivial taken (different rfl) nofun, released holding held,
        Nat.le_add_right _ _⟩
  | call op next induction =>
      rcases Standing.held_answerable held holding.meets.1 holder left with
        ⟨answer, after, answers, unlocks, fewer⟩
      have taken : Pool.Step SharedServer.calm pool (.called holder op answer) _ :=
        .called holding.running answers
      have waits := waiting.elsewhere calm_keeps trivial taken (different rfl) nofun
      have holding := holding.called calm_keeps trivial answers
      rcases unlocks with unlocked | kept
      · exact ⟨_, _, .single taken nofun, waits, unlocked, by
          change after.stores.drawn.length ≤ _
          omega⟩
      · rcases induction answer holding kept (Nat.le_trans fewer left) waits with
          ⟨events, last, leads, waits, unlocked, less⟩
        rw [List.append_assoc] at waits
        exact ⟨_, last, (Leads.single taken nofun).trans leads, waits, unlocked,
          Nat.le_trans less fewer⟩

/-- A lock can be brought to be free, while a task without locks waits. -/
theorem lock_frees (stands : Stands past pool id call waits standing)
    (unlocked : standing.lock = none) (lock : Lock)
    (left : pool.shared.stores.drawn.length + 1 ≤ 2 ^ 128) :
    ∃ events last, pool.Leads events last ∧ Stands (past ++ events) last id call waits standing ∧
      last.shared.locks lock = none ∧
      last.shared.stores.drawn.length ≤ pool.shared.stores.drawn.length + 1 := by
  cases held : pool.shared.locks lock with
  | none =>
      refine ⟨[], pool, .refl pool, ?_, held, Nat.le_succ _⟩
      rw [List.append_nil]
      exact stands
  | some holder =>
      cases running : pool.tasks holder with
      | none => exact absurd held (stands.orderly.idle running lock)
      | some task =>
          rcases stands.orderly.stands running with ⟨holds, holding⟩
          have has : holds.lock = some lock := (holding.knows.1.1 lock).mp held
          have apart : id ≠ holder := by
            rintro rfl
            have mine := (stands.knows.1.1 lock).mp held
            rw [unlocked] at mine
            cases mine
          have draws := holds.draws_le
          rcases holder_unlocks holding has (by omega) stands apart with
            ⟨events, last, leads, stands, free, fewer⟩
          exact ⟨events, last, leads, stands, free, by omega⟩

/-- An actor can be brought to rest, while a task waits. -/
theorem actor_rests (stands : Stands past pool id call waits standing) {tx : Nat}
    {actor : StreamActor} (present : pool.shared.actors[tx]? = some actor) :
    ∃ events after, pool.Leads events { pool with shared := after } ∧
      Stands (past ++ events) { pool with shared := after } id call waits standing ∧
      after.Rests tx ∧ after.stores.drawn = pool.shared.stores.drawn := by
  have owned : pool.shared.NamesOwned := stands.orderly.holds.1
  rcases SharedServer.queue_ends owned present rfl with ⟨after, works, rests⟩
  rcases works_lead works stands with ⟨events, leads, stands⟩
  exact ⟨events, after, leads, stands, rests, (works.same owned).2⟩

/-- A command can be put into the queue of an actor, or the actor has ended. -/
theorem send_answered {handle : StreamHandle} {command : ReplyId → StreamCommand}
    (stands : Stands past pool id call waits standing) :
    ∃ events last, pool.Leads events last ∧ Stands (past ++ events) last id call waits standing ∧
      last.shared.stores.drawn = pool.shared.stores.drawn ∧
      ∃ answer after, last.shared.Answers (fun _ => False) id call.name (.send handle command)
        answer after ∧ after.stores = last.shared.stores := by
  cases found : pool.shared.actors[handle.tx]? with
  | none =>
      refine ⟨[], pool, .refl pool, ?_, rfl, none, pool.shared, ⟨?_, rfl⟩, rfl⟩
      · rw [List.append_nil]
        exact stands
      · intro actor present
        rw [found] at present
        cases present
  | some actor =>
      rcases actor_rests stands found with ⟨events, after, leads, stands, rests, drawn⟩
      refine ⟨events, _, leads, stands, drawn, ?_⟩
      rcases rests with ⟨next, present, ended | ⟨⟨stream, waits⟩, empty⟩⟩
      · refine ⟨none, after, ⟨?_, rfl⟩, rfl⟩
        intro actor same
        rw [present] at same
        cases same
        exact ended
      · refine ⟨some after.nextReply, _, ⟨next, present, ?_, ?_, rfl, rfl⟩, rfl⟩
        · rw [StreamActor.running, waits]
        · rw [empty]
          decide

/-- A reply that is waited for arrives, or its actor has ended. -/
theorem receive_answered {stream : StreamHandle} {kind : ReplyKind} {replyRx : ReplyId}
    (stands : Stands past pool id call waits (.waiting stream kind replyRx)) :
    ∃ events last, pool.Leads events last ∧
      Stands (past ++ events) last id call waits (.waiting stream kind replyRx) ∧
      last.shared.stores.drawn = pool.shared.stores.drawn ∧
      ∃ answer, last.shared.Answers (fun _ => False) id call.name (.receive kind replyRx)
        answer last.shared := by
  rcases stands.knows.2 with ⟨actor, _, present, _⟩
  rcases actor_rests stands present with ⟨events, after, leads, stands, rests, drawn⟩
  refine ⟨events, _, leads, stands, drawn, ?_⟩
  have answering : after.Answering := stands.orderly.holds.2
  rcases stands.knows.2 with ⟨actor, command, present, member, rfl, rfl⟩
  rcases rests with ⟨next, same, ends⟩
  rw [show after.actors[stream.tx]? = some actor from present] at same
  cases same
  cases replied : after.replies command.replyTx with
  | some value =>
      rcases answering.replied replied with ⟨other, sent, same, kinds⟩
      have kind := answering.kinds ⟨stream.tx, actor, present, member⟩ sent same.symm
      rcases value with ⟨other, value⟩
      rw [← kind] at kinds
      cases kinds
      exact ⟨some value, replied, rfl⟩
  | none =>
      refine ⟨none, replied, ?_, rfl⟩
      rcases ends with ended | ⟨⟨_, waits⟩, empty⟩
      · exact ⟨actor, List.mem_of_getElem? present, ended, command, member, rfl⟩
      · -- all that has been taken has its reply
        rw [empty, List.append_nil] at member
        rcases answering.owed present member with ⟨value, answered⟩ | owed
        · rw [replied] at answered
          cases answered
        · rw [waits] at owed
          exact owed.elim

/-- The request of a client can be brought to its end. -/
theorem request_ends {budget : Nat} (stands : Stands past pool id call code standing)
    (client : call.isFollow = false) (costs : code.Costs ServerOp.cost budget)
    (left : pool.shared.stores.drawn.length + budget ≤ 2 ^ 128) :
    ∃ events last, pool.Leads events last ∧ replyDiscipline.Orderly (past ++ events) last ∧
      last.tasks id = none ∧
      last.shared.stores.drawn.length ≤ pool.shared.stores.drawn.length + budget := by
  induction code generalizing past pool standing budget with
  | done value =>
      have ends : ServerCall.resume call value = none := by
        cases resumes : ServerCall.resume call value with
        | none => rfl
        | some code =>
            rcases ServerCall.of_resume resumes with ⟨_, _, _, _, rfl, _⟩
            cases client
      have taken : Pool.Step SharedServer.calm pool (.returned id call value) _ :=
        .returned stands.running ends
      exact ⟨_, _, .single taken nofun, stands.orderly.step calm_keeps trivial taken,
        Pool.set_tasks_self _ _ _ _, Nat.le_add_right _ _⟩
  | panic message =>
      have taken : Pool.Step SharedServer.calm pool (.dropped id) _ :=
        .dropped stands.running trivial
      exact ⟨_, _, .single taken nofun, stands.orderly.step calm_keeps trivial taken,
        Pool.set_tasks_self _ _ _ _, Nat.le_add_right _ _⟩
  | call op next induction =>
      rcases costs with ⟨price, rest, is, rfl, costs⟩
      have allowed : standing.Calls call op := stands.meets.1
      -- the call has been answered after some steps of others
      have goes {events : List ServerEvent} {middle : ServerPool} {standing : Standing}
          (answer : op.Answer) {after : SharedServer} (leads : pool.Leads events middle)
          (stands : Stands (past ++ events) middle id call (.call op next) standing)
          (answers : middle.shared.Answers (fun _ => False) id call.name op answer after)
          (drawn : after.stores.drawn.length ≤ pool.shared.stores.drawn.length + price) :
          ∃ events last, pool.Leads events last ∧
            replyDiscipline.Orderly (past ++ events) last ∧ last.tasks id = none ∧
            last.shared.stores.drawn.length ≤
              pool.shared.stores.drawn.length + (price + rest) := by
        have taken : Pool.Step SharedServer.calm middle (.called id op answer) _ :=
          .called stands.running answers
        have moved := stands.called calm_keeps trivial answers
        have fits : after.stores.drawn.length + rest ≤ 2 ^ 128 := by omega
        rcases induction answer moved (costs answer) fits with ⟨later, last, more, orderly, gone, few⟩
        rw [List.append_assoc, List.append_assoc] at orderly
        refine ⟨_, last, leads.trans ((Leads.single taken nofun).trans more), orderly, gone, ?_⟩
        change last.shared.stores.drawn.length ≤ after.stores.drawn.length + rest at few
        omega
      have now (answer : op.Answer) {after : SharedServer}
          (answers : pool.shared.Answers (fun _ => False) id call.name op answer after)
          (drawn : after.stores.drawn.length ≤ pool.shared.stores.drawn.length + price) :=
        goes answer (.refl pool) (by rwa [List.append_nil]) answers drawn
      have same {after : SharedServer} (stores : after.stores = pool.shared.stores) :
          after.stores.drawn.length ≤ pool.shared.stores.drawn.length + price := by
        rw [stores]
        exact Nat.le_add_right _ _
      cases op with
      | storage op =>
          have draws : op.draws = price := by
            cases op <;> exact Option.some.inj is
          have more : op = .newV4 → pool.shared.stores.drawn.length < 2 ^ 128 := by
            rintro rfl
            simp only [StorageOp.draws] at draws
            omega
          rcases op.answerable more with ⟨answer, stores, answers, drawn⟩
          exact now answer ⟨stores, answers, rfl⟩ (by
            change stores.drawn.length ≤ _
            omega)
      | readBasins basinName =>
          refine now (pool.shared.basins basinName) ⟨rfl, rfl⟩ (same ?_)
          unfold SharedServer.returned
          split <;> rfl
      | insertBasin basinName handle => exact now () rfl (same rfl)
      | lockBasinInit =>
          cases is
          have unlocked := Standing.unlocked_of_locks allowed (.inl rfl)
          rcases lock_frees stands unlocked .basinInit (by omega) with
            ⟨events, middle, leads, stands, free, drawn⟩
          exact goes () leads stands ⟨free, rfl⟩ drawn
      | unlockBasinInit => exact now () rfl (same rfl)
      | newBasinHandle basin =>
          exact now ⟨pool.shared.basinHandles, basin.basinId⟩ ⟨rfl, rfl⟩ (same rfl)
      | readStreams handle streamName =>
          exact now (pool.shared.streams handle.address streamName) ⟨rfl, rfl⟩ (same rfl)
      | insertStream handle streamName stream => exact now () rfl (same rfl)
      | lockStreamInit handle =>
          cases is
          have unlocked := Standing.unlocked_of_locks allowed (.inr ⟨handle, rfl⟩)
          rcases lock_frees stands unlocked (.streamInit handle.address) (by omega) with
            ⟨events, middle, leads, stands, free, drawn⟩
          exact goes () leads stands ⟨free, rfl⟩ drawn
      | unlockStreamInit handle => exact now () rfl (same rfl)
      | spawn stream => exact now ⟨pool.shared.actors.length⟩ ⟨rfl, rfl⟩ (same rfl)
      | send handle command =>
          rcases send_answered stands with
            ⟨events, middle, leads, stands, drawn, answer, after, answers, stores⟩
          exact goes answer leads stands answers (by
            rw [stores, drawn]
            exact Nat.le_add_right _ _)
      | receive kind replyRx =>
          obtain ⟨stream, rfl⟩ : ∃ stream, standing = .waiting stream kind replyRx := by
            cases standing with
            | waiting stream other replyRx =>
                cases allowed
                exact ⟨stream, rfl⟩
            | free basin stream => exact allowed.elim
            | failed =>
                rcases allowed with ⟨_, _, equal⟩
                cases equal
            | _ => exact allowed.elim
          rcases receive_answered stands with ⟨events, middle, leads, stands, drawn, answer, answers⟩
          exact goes answer leads stands answers (by
            rw [drawn]
            exact Nat.le_add_right _ _)
      | spawnFollower follower =>
          exact now pool.shared.spawned.length rfl (same rfl)
      | txSend tx item => exact now (.ok ()) rfl (same rfl)
      | recv receiver => cases is

/-! ## The server drains -/

/-- Every request of a client has the code of a client's request. -/
theorem costs_run {MayFail : StorageOp → Prop} {MayDrop : ServerOp → Prop} {MayRestart : Prop}
    (run : Run (Pool.Step (SharedServer.environment MayFail MayDrop MayRestart)) pool events last)
    (initially : ∀ id task, pool.tasks id = some task → task.origin.isFollow = false →
      task.code.Costs ServerOp.cost 4) :
    ∀ id task, last.tasks id = some task → task.origin.isFollow = false →
      task.code.Costs ServerOp.cost 4 := by
  refine @Pool.run_codes _ _ _ _ (SharedServer.environment MayFail MayDrop MayRestart)
    (fun call code => call.isFollow = false → code.Costs ServerOp.cost 4) ?_ ?_ ?_ _ _ _ run
    initially
  · intro shared call code after starts client
    cases starts with
    | request => exact ServerCall.costs_code call client
    | follower => cases client
  · intro call value code resumes client
    rcases ServerCall.of_resume resumes with ⟨_, _, _, _, rfl, _⟩
    cases client
  · intro call op next costs answer client
    rcases costs client with ⟨price, rest, _, budget, costs⟩
    exact (costs answer).mono (by omega)

/-- Any of the requests of clients can be brought to their ends together. -/
theorem requests_end (ids : List Nat) (orderly : replyDiscipline.Orderly past pool)
    (costs : ∀ id task, pool.tasks id = some task → task.origin.isFollow = false →
      task.code.Costs ServerOp.cost 4)
    (left : pool.shared.stores.drawn.length + 4 * ids.length ≤ 2 ^ 128) :
    ∃ events last, pool.Leads events last ∧ replyDiscipline.Orderly (past ++ events) last ∧
      (∀ id ∈ ids, ∀ task, last.tasks id = some task → task.origin.isFollow = true) ∧
      last.shared.stores.drawn.length ≤ pool.shared.stores.drawn.length + 4 * ids.length := by
  induction ids with
  | nil =>
      refine ⟨[], pool, .refl pool, ?_, fun _ member => absurd member List.not_mem_nil, Nat.le_refl _⟩
      rw [List.append_nil]
      exact orderly
  | cons id rest induction =>
      rw [List.length_cons] at left ⊢
      rcases induction (by omega) with ⟨events, middle, leads, orderly, ended, drawn⟩
      have kept : (∀ task, middle.tasks id = some task → task.origin.isFollow = true) →
          ∃ events last, pool.Leads events last ∧
            replyDiscipline.Orderly (past ++ events) last ∧
            (∀ other ∈ id :: rest, ∀ task, last.tasks other = some task →
              task.origin.isFollow = true) ∧
            last.shared.stores.drawn.length ≤
              pool.shared.stores.drawn.length + 4 * (rest.length + 1) := by
        intro follows
        refine ⟨events, middle, leads, orderly, ?_, by omega⟩
        intro other member
        rcases List.mem_cons.mp member with rfl | later
        · exact follows
        · exact ended other later
      cases running : middle.tasks id with
      | none => exact kept (by simp [running])
      | some task =>
          rcases task with ⟨call, code⟩
          cases client : call.isFollow with
          | true =>
              apply kept
              intro task found
              rw [running] at found
              cases found
              exact client
          | false =>
              rcases orderly.stands running with ⟨standing, stands⟩
              have paid := costs_run leads.run costs id ⟨call, code⟩ running client
              rcases request_ends stands client paid (by omega) with
                ⟨later, last, more, orderly, gone, few⟩
              rw [List.append_assoc] at orderly
              refine ⟨_, last, leads.trans more, orderly, ?_, by omega⟩
              intro other member task found
              rcases List.mem_cons.mp member with rfl | earlier
              · rw [gone] at found
                cases found
              · rcases Pool.run_origin more.run found with ⟨before, was, same⟩ | started
                · rw [← same]
                  exact ended other earlier before was
                · exact absurd started (more.unstarted _ _)

/-- The tasks that have been started. -/
def startedIds (past : List ServerEvent) : List Nat :=
  past.filterMap fun
    | .started id _ => some id
    | _ => none

/-- No request is stuck, whatever has happened: requests in any order, failures of the storage,
requests that were dropped and restarts. If nothing more fails and there are ids left, the steps
of the tasks and actors that there are bring every request of a client to its end: it returns, or
its panic unwinds. -/
theorem requests_drain {MayFail : StorageOp → Prop} {MayDrop : ServerOp → Prop} {MayRestart : Prop}
    {stores : Stores} (distinct : stores.Distinct) (new : stores.journal = [])
    (run : Run (Pool.Step (SharedServer.environment MayFail MayDrop MayRestart)) (start stores)
      past pool)
    (left : pool.shared.stores.drawn.length + 4 * past.length ≤ 2 ^ 128) :
    ∃ events last,
      Run (Pool.Step (SharedServer.environment (fun _ => False) (fun _ => False) False)) pool events
        last ∧
      (∀ id call, .started id call ∉ events) ∧
      ∀ id call code, pool.tasks id = some ⟨call, code⟩ → call.isFollow = false →
        last.tasks id = none ∧
          ((∃ value, .returned id call value ∈ events) ∨ .dropped id ∈ events) := by
  have orderly := (answering_start distinct new).run (replyDiscipline_keeps _ _ _)
    (fun _ => trivial) run trivial
  have costs := costs_run run nofun
  have fewer : (startedIds past).length ≤ past.length := List.length_filterMap_le _ _
  rcases requests_end (startedIds past) orderly costs (by omega) with
    ⟨events, last, leads, _, ended, _⟩
  refine ⟨events, last, leads.run, leads.unstarted, ?_⟩
  intro id call code running client
  have started : id ∈ startedIds past := by
    rcases Pool.run_origin run running with ⟨_, absent, _⟩ | started
    · cases absent
    · exact List.mem_filterMap.mpr ⟨_, started, rfl⟩
  have gone : last.tasks id = none := by
    cases found : last.tasks id with
    | none => rfl
    | some task =>
        have follows := ended id started task found
        rcases Pool.run_origin leads.run found with ⟨earlier, was, same⟩ | again
        · rw [running] at was
          cases was
          rw [← same, client] at follows
          cases follows
        · exact absurd again (leads.unstarted _ _)
  refine ⟨gone, ?_⟩
  rcases Pool.run_gone leads.run running (leads.unstarted id) gone with returned | dropped | reset
  · exact .inl returned
  · exact .inr dropped
  · exact absurd reset leads.unreset

/-- One append holds the lock that another one waits for. -/
theorem requests_drain_waiting :
    ∃ past pool,
      Run (Pool.Step (SharedServer.environment (fun _ => False) (fun _ => True) True))
        (start .opened) past pool ∧
      pool.shared.locks .basinInit = some 0 ∧
      ∃ events last,
        Run (Pool.Step (SharedServer.environment (fun _ => False) (fun _ => False) False)) pool
          events last ∧
        last.tasks 0 = none ∧ last.tasks 1 = none := by
  let first : ServerCall := .append "orders" "events" [97]
  let second : ServerCall := .append "orders" "audit" [98]
  let Reaches : List ServerEvent → ServerPool → Prop :=
    Run (Pool.Step (SharedServer.environment (fun _ => False) (fun _ => True) True))
      (start .opened)
  have call {past : List ServerEvent} {pool : ServerPool} {after : SharedServer} (id : Nat)
      (origin : ServerCall) (op : ServerOp) (answer : op.Answer)
      {next : op.Answer → Program server ServerResult} (reaches : Reaches past pool)
      (running : pool.tasks id = some ⟨origin, .call op next⟩)
      (answers : pool.shared.Answers (fun _ => False) id origin.name op answer after) :
      Reaches (past ++ [.called id op answer]) (pool.set id after (some ⟨origin, next answer⟩)) :=
    reaches.snoc (.called running answers)
  have started : Reaches _ _ := .single (@Pool.Step.started _ _ _ _ _ _ 0 first _ _ rfl (.request rfl))
  have read := call 0 first (.readBasins "orders") none started rfl ⟨rfl, rfl⟩
  have locked := call 0 first .lockBasinInit () read rfl ⟨rfl, rfl⟩
  have other : Reaches _ _ :=
    locked.snoc (@Pool.Step.started _ _ _ _ _ _ 1 second _ _ rfl (.request rfl))
  have waits := call 1 second (.readBasins "orders") none other rfl ⟨rfl, rfl⟩
  rcases requests_drain Stores.distinct_opened rfl waits (by decide) with
    ⟨events, last, run, _, ended⟩
  refine ⟨_, _, waits, rfl, events, last, run, ?_, ?_⟩
  · exact (ended 0 first _ rfl rfl).1
  · exact (ended 1 second _ rfl rfl).1

end ServerPool

end Slatestreams
