import Slatestreams.AppendCalls

/-! # How an append opens its stream

The task that holds the lock makes the basin and the stream, or finds them, and
the stream goes on from where the stores have it. -/

namespace Slatestreams

open Foundation

namespace Stores

variable {self : Stores} {name : String × String} {tail : Nat} {log : List Record}

theorem KeysDrawn.draw (keys : self.KeysDrawn) (id : U128) : (self.draw id).KeysDrawn :=
  fun basinId streamName undrawn =>
    keys basinId streamName fun member => undrawn (List.mem_append_left _ member)

theorem KeysDrawn.writeBasin (keys : self.KeysDrawn) (basinName : String) (basinId : U128) :
    (self.write [⟨Basin.constructMetadataKey basinName, putU128 basinId⟩]
      .metaStorage).KeysDrawn :=
  fun other streamName undrawn =>
    (get_streamKey_createdBasin self basinName basinId other streamName).trans
      (keys other streamName undrawn)

theorem KeysDrawn.writeStream (keys : self.KeysDrawn) {basinId : U128}
    (drawn : basinId ∈ self.drawn) (streamName : String) (value : Bytes) :
    (self.write [⟨Stream.constructMetadataKey basinId streamName, value⟩]
      .metaStorage).KeysDrawn := by
  intro other otherName undrawn
  refine (get_metaStorage _ _ _).trans ((if_neg fun equal => ?_).trans (keys other _ undrawn))
  exact undrawn ((Stream.constructMetadataKey_injective equal).1 ▸ drawn)

theorem Rests.draw (rests : self.Rests name tail log) (id : U128) :
    (self.draw id).Rests name tail log := by
  have grows : ∀ other ∈ self.drawn, other ∈ (self.draw id).drawn :=
    fun _ member => List.mem_append_left _ member
  unfold Rests at rests ⊢
  rw [basinId_draw]
  split at rests
  · exact ⟨rests.1, rests.2.1, rests.2.2.same rfl grows⟩
  · exact rests.same rfl rfl grows

/-- A basin that has been made has no streams yet. -/
theorem Rests.writeBasin (rests : self.Rests name tail log) {basinId : U128}
    (missing : self.metaStorage.get (Basin.constructMetadataKey name.1) = none)
    (empty : ∀ streamName,
      self.metaStorage.get (Stream.constructMetadataKey basinId streamName) = none) :
    (self.write [⟨Basin.constructMetadataKey name.1, putU128 basinId⟩] .metaStorage).Rests name
      tail log := by
  have unnamed : self.basinId name.1 = none := by
    rw [Stores.basinId, missing, Option.bind_none]
  unfold Rests at rests ⊢
  rw [unnamed] at rests
  rw [basinId_writeBasin, if_pos rfl]
  exact .inl ⟨(get_streamKey_createdBasin self name.1 basinId basinId name.2).trans (empty _),
    rests.1, rests.2.1, rests.2.2.same rfl fun _ member => member⟩

end Stores

namespace AppendLine

variable {line : AppendLine} {id : Nat} {call : ServerCall} {history : ServerHistory}
  {after : SharedServer}

/-! ## The basin -/

theorem Knows.name {standing : Standing} (knows : line.Knows id call standing history) :
    call.name = line.name := by
  rcases knows.append with ⟨data, rfl⟩
  rfl

theorem carried_basinStorage {stage : BasinStage} {op : StorageOp} {answer : op.Answer}
    {stores : Stores} (holds : line.Holds history)
    (knows : line.Knows id call (.atBasin stage) history)
    (allowed : stage.Calls call.name.1 op)
    (answers : op.Answers (fun _ => False) history.shared.stores answer stores) :
    line.Carried id call history
      (history.next (.called id (.storage op) answer) { history.shared with stores })
      (.atBasin (stage.learn op answer)) := by
  have reached := @Knows.reached line id call history { history.shared with stores } _
    (.storage op) answer knows holds allowed ⟨stores, answers, rfl⟩
  have elsewhere := @elsewhere_called id (.storage op) answer rfl
  have unsent : Unsent history id := knows.stands.1
  have facts : stage.Knows line.name.1 history.shared := knows.facts
  rw [knows.name] at allowed
  cases stage with
  | uncached =>
      rcases allowed with rfl
      cases answer with
      | error error => exact answers.1.elim
      | ok found =>
          rcases answers with ⟨rfl, rfl⟩
          refine .same reached holds elsewhere (.refl _ _) ⟨elsewhere.unsent unsent, ?_⟩
          change BasinStageHolds _ (.loaded (.ok (history.shared.stores.metaStorage.read _)))
          unfold Contents.read
          rcases holds.decodes with missing | ⟨basinId, named⟩
          · rw [missing]
            trivial
          · rcases Option.bind_eq_some_iff.mp named with ⟨value, stored, decoded⟩
            rw [stored]
            cases parsed : Basin.deserialiseBasinId value with
            | error error =>
                rw [parsed] at decoded
                cases decoded
            | ok found =>
                simp only [Option.map_some, BasinStage.loaded, parsed]
                trivial
  | missing =>
      rcases allowed with rfl
      rcases answers with ⟨undrawn, rfl⟩
      have uncached := SharedServer.uncached_of_basin facts.1
      exact ⟨holds.stored uncached rfl False.elim reached.owned holds.decodes
          (holds.keys.draw answer) fun unclaimed => (holds.resting uncached unclaimed).draw answer,
        .stored elsewhere.alone elsewhere.goesOn reached.leaves (fun _ => rfl) fun _ _ _ => rfl,
        elsewhere.unsent unsent, fun streamName => holds.keys answer streamName undrawn⟩
  | drawn basinId =>
      rcases allowed with rfl
      rcases facts with ⟨uncached, missing, drawn, unused⟩
      have empty : ∀ streamName, history.shared.stores.metaStorage.get
          (Stream.constructMetadataKey basinId streamName) = none := knows.stands.2
      cases answer with
      | error error => exact answers.1.elim
      | ok =>
          rcases answers with rfl
          have uncached := SharedServer.uncached_of_basin uncached
          refine ⟨holds.stored uncached rfl False.elim reached.owned (.inr ⟨basinId, ?_⟩)
              (holds.keys.writeBasin _ _)
              fun unclaimed => (holds.resting uncached unclaimed).writeBasin missing empty,
            .stored elsewhere.alone elsewhere.goesOn reached.leaves (fun _ => rfl)
              fun _ other streamName => Stores.get_streamKey_createdBasin _ _ _ _ _,
            elsewhere.unsent unsent, trivial⟩
          exact (Stores.basinId_writeBasin _ _ _ _).trans (if_pos rfl)
  | _ => exact allowed.elim

theorem carried_basin {stage : BasinStage} {op : ServerOp} {answer : op.Answer}
    (holds : line.Holds history) (knows : line.Knows id call (.atBasin stage) history)
    (allowed : Standing.BasinCalls call stage op)
    (answers : history.shared.Answers (fun _ => False) id call.name op answer after) :
    line.Carried id call history (history.next (.called id op answer) after)
      (Standing.basinLearn stage op answer) := by
  have reached := knows.reached holds allowed answers
  have unsent : Unsent history id := knows.stands.1
  have facts : stage.Knows line.name.1 history.shared := knows.facts
  have name := knows.name
  cases op with
  | storage op =>
      rcases answers with ⟨stores, answers, rfl⟩
      exact carried_basinStorage holds knows allowed answers
  | readBasins basinName =>
      have elsewhere := @elsewhere_called id (.readBasins basinName) answer rfl
      rcases answers with ⟨_, rfl⟩
      cases answer <;> exact .same reached holds elsewhere (.returned _ _)
        ⟨elsewhere.unsent unsent, trivial⟩
  | newBasinHandle basin =>
      have elsewhere := @elsewhere_called id (.newBasinHandle basin) answer rfl
      rcases answers with ⟨rfl, rfl⟩
      exact .same reached holds elsewhere (.of_eq rfl rfl rfl rfl rfl rfl fun _ none_ => none_)
        ⟨elsewhere.unsent unsent, trivial⟩
  | insertBasin basinName handle =>
      have elsewhere := @elsewhere_called id (.insertBasin basinName handle) answer rfl
      rcases answers with rfl
      rcases allowed with ⟨rfl, rfl⟩
      rcases facts with ⟨uncached, stored, placed, new⟩
      rw [name] at reached elsewhere ⊢
      exact .same reached holds elsewhere (.placeBasin holds.owned uncached new)
        ⟨elsewhere.unsent unsent, trivial⟩
  | unlockBasinInit =>
      have elsewhere := @elsewhere_called id .unlockBasinInit answer rfl
      rcases answers with rfl
      rcases allowed with ⟨handle, rfl⟩ | gaveUp
      · exact .same reached holds elsewhere .unlockBasin (elsewhere.unsent unsent)
      · rcases knows.append with ⟨data, rfl⟩
        cases stage with
        | failed => exact knows.stands.2.elim
        | missing => cases gaveUp
        | _ => exact gaveUp.elim
  | _ => exact allowed.elim

/-! ## The stream -/

theorem Knows.claimed {handle : BasinHandle} {stage : StreamStage}
    (knows : line.Knows id call (.atStream handle stage) history) :
    ¬history.shared.Unclaimed line.name := by
  intro unclaimed
  have locked := (knows.holds (.streamInit handle.address)).mpr rfl
  rw [unclaimed handle knows.facts.1] at locked
  cases locked

/-- A stream that has been made is ready for its first append. -/
theorem ready_created {records : Contents} {metadata : StreamMetadata}
    (empty : StoresLog records metadata []) (value : Bytes) :
    Stream.Ready (records.insert metadata.blockKey value)
      ⟨SequenceAllocator.default, metadata⟩ 0 [] where
  consistent :=
    { valid := SequenceAllocator.valid_default
      ascending := .nil
      below := fun _ member => absurd member List.not_mem_nil
      stored := fun n => by
        rw [Contents.get_insert, if_neg (StreamMetadata.blockKey_ne_recordKey _ _ _)]
        exact empty n }
  next := rfl
  blockSize := rfl

theorem carried_streamStorage {handle : BasinHandle} {stage : StreamStage} {op : StorageOp}
    {answer : op.Answer} {stores : Stores} (holds : line.Holds history)
    (knows : line.Knows id call (.atStream handle stage) history)
    (allowed : stage.Calls handle.basinId call.name.2 op)
    (answers : op.Answers (fun _ => False) history.shared.stores answer stores) :
    line.Carried id call history
      (history.next (.called id (.storage op) answer) { history.shared with stores })
      (.atStream handle (stage.learn handle.basinId op answer)) := by
  have reached := @Knows.reached line id call history { history.shared with stores } _
    (.storage op) answer knows holds allowed ⟨stores, answers, rfl⟩
  have elsewhere := @elsewhere_called id (.storage op) answer rfl
  have unsent : Unsent history id := knows.stands.1
  have stands : line.StreamStageHolds history handle stage := knows.stands.2
  have claimed := knows.claimed
  have locked := (knows.holds (.streamInit handle.address)).mpr rfl
  rcases knows.facts with ⟨basin, facts⟩
  have placed : history.shared.basins line.name.1 ≠ none := by rw [basin]; exact nofun
  rw [knows.name] at allowed
  cases stage with
  | uncached =>
      rcases allowed with rfl
      cases answer with
      | error error => exact answers.1.elim
      | ok found =>
          rcases answers with ⟨rfl, rfl⟩
          refine .same reached holds elsewhere (.refl _ _) ⟨elsewhere.unsent unsent, ?_⟩
          change line.StreamStageHolds _ handle
            (.metadataLoaded (.ok (history.shared.stores.metaStorage.read _)))
          unfold Contents.read
          rcases stands with ⟨missing, rest⟩ | ⟨metadata, block, allocator, same, stored, rest⟩
          · rw [missing]
            exact rest
          · rw [stored]
            simp only [Option.map_some, StreamStage.metadataLoaded,
              StreamMetadata.deserialise_serialise]
            exact ⟨⟨same, stored⟩, block, allocator, rest⟩
  | missing =>
      rcases allowed with rfl
      rcases answers with ⟨undrawn, rfl⟩
      have uncached := SharedServer.uncached_of_stream basin facts.1
      rcases stands with ⟨new, empty, drawn⟩
      exact ⟨holds.stored uncached rfl False.elim reached.owned holds.decodes
          (holds.keys.draw answer) fun unclaimed => absurd unclaimed claimed,
        .stored elsewhere.alone elsewhere.goesOn reached.leaves (fun _ => rfl) fun _ _ _ => rfl,
        elsewhere.unsent unsent, new, empty, fun n => drawn ⟨handle.basinId, answer⟩ n undrawn⟩
  | drawn streamId =>
      rcases allowed with rfl
      have uncached := SharedServer.uncached_of_stream basin facts.1
      cases answer with
      | error error => exact answers.1.elim
      | ok =>
          rcases answers with rfl
          have drawn := holds.owned.distinct.drawn (holds.owned.basinStored basin)
          refine ⟨holds.stored uncached rfl False.elim reached.owned ?_
              (holds.keys.writeStream drawn _ _) fun unclaimed => absurd unclaimed claimed,
            .stored elsewhere.alone elsewhere.goesOn reached.leaves (fun _ => rfl)
              fun none_ => absurd none_ placed,
            elsewhere.unsent unsent, ⟨rfl, ?_⟩, stands⟩
          · exact .inr ⟨_, (Stores.basinId_writeStream _ _ _ _ _).trans
              (holds.owned.basinStored basin)⟩
          · exact (Stores.get_metaStorage _ _ _).trans (if_pos rfl)
  | named metadata =>
      rcases allowed with rfl
      rcases stands with ⟨leads, block, allocator, stored, resumes, ready⟩
      cases answer with
      | error error => exact answers.1.elim
      | ok found =>
          rcases answers with ⟨rfl, rfl⟩
          refine .same reached holds elsewhere (.refl _ _) ⟨elsewhere.unsent unsent, ?_⟩
          have loaded := Stream.loadResult_resume stored resumes
          rw [StreamMetadata.blockKey, leads.basin] at loaded
          change line.StreamStageHolds _ handle (.blockLoaded metadata
            (.ok (history.shared.stores.recordStorage.read _)))
          rw [StreamStage.blockLoaded, loaded]
          exact ⟨⟨leads.basin, leads.stored⟩, ready⟩
  | created metadata =>
      rcases allowed with rfl
      have uncached := SharedServer.uncached_of_stream basin facts
      rcases stands with ⟨leads, new, empty, stored⟩
      cases answer with
      | error error => exact answers.1.elim
      | ok =>
          rcases answers with rfl
          refine ⟨holds.stored uncached rfl False.elim reached.owned holds.decodes holds.keys
              fun unclaimed => absurd unclaimed claimed,
            .stored elsewhere.alone elsewhere.goesOn reached.leaves
              (fun free => absurd locked (free handle basin)) fun _ _ _ => rfl,
            elsewhere.unsent unsent, ⟨leads.basin, leads.stored⟩, ?_⟩
          rw [new, empty]
          exact ready_created stored _
  | _ => exact allowed.elim

/-! ## The actor -/

/-- An actor that has been spawned waits for its first command. -/
theorem quiet_spawn (broadcaster : Nat) (stream : Stream) :
    (StreamActor.spawn broadcaster stream).Quiet := ⟨⟨stream, rfl⟩, rfl⟩

theorem getElem?_spawn (server : SharedServer) (name : String × String) (stream : Stream) :
    (server.spawn name stream).actors[server.actors.length]? =
      some (.spawn server.actors.length stream) := by
  change (server.actors ++ [_])[server.actors.length]? = _
  rw [List.getElem?_append_right (Nat.le_refl _), Nat.sub_self]
  rfl

section Spawn

variable {handle : BasinHandle} {stream : Stream}

theorem getElem?_spawn_of_some {server : SharedServer} (name : String × String) {tx : Nat}
    {actor : StreamActor} (present : server.actors[tx]? = some actor) :
    (server.spawn name stream).actors[tx]? = some actor :=
  (List.getElem?_append_left (List.getElem?_eq_some_iff.mp present).1).trans present

theorem Holds.spawned (holds : line.Holds history) (name : String × String)
    (uncached : history.shared.Uncached line.name)
    (claimed : ¬history.shared.Unclaimed line.name) {event : ServerEvent}
    (submission : ServerEvent.submission event = none) (goesOn : ¬event.Returns) :
    line.Holds (history.next event (history.shared.spawn name stream)) where
  owned := holds.owned.spawn _ _
  queued := holds.queued.snoc submission
  quiet {tx actor} present _ := by
    rcases Nat.lt_or_ge tx history.shared.actors.length with before | now
    · exact holds.quiet ((List.getElem?_append_left before).symm.trans present) (uncached _)
    · change (history.shared.actors ++ [_])[tx]? = some actor at present
      rw [List.getElem?_append_right now] at present
      rw [List.mem_singleton.mp (List.mem_of_getElem? present)]
      exact quiet_spawn _ _
  unanswered := holds.unanswered
  decodes := holds.decodes
  keys := holds.keys
  unsubmitted none_ := by
    rw [History.next_past, submissions_snoc_of_none submission]
    exact holds.unsubmitted none_
  resting _ unclaimed := absurd unclaimed claimed
  serving cached := absurd cached (uncached _)
  reports := holds.reports.snoc goesOn fun _ replied => replied

theorem carried_spawn (holds : line.Holds history)
    (knows : line.Knows id call (.atStream handle (.loaded stream)) history) :
    line.Carried id call history
      (history.next (.called id (.spawn stream) ⟨history.shared.actors.length⟩)
        (history.shared.spawn call.name stream))
      (.atStream handle (.spawned ⟨history.shared.actors.length⟩)) := by
  have reached := @Knows.reached line id call history _ _ (.spawn stream)
    ⟨history.shared.actors.length⟩ knows holds rfl ⟨rfl, rfl⟩
  have elsewhere := @elsewhere_called id (.spawn stream) ⟨history.shared.actors.length⟩ rfl
  rcases knows.facts with ⟨basin, unopened⟩
  have uncached := SharedServer.uncached_of_stream basin unopened
  rcases knows.stands with ⟨unsent, leads, ready⟩
  exact
    { holds := holds.spawned call.name uncached knows.claimed elsewhere.submission elsewhere.goesOn
      changes := .sameStores elsewhere.alone (.of_not_returns elsewhere.goesOn) reached.leaves rfl
        rfl fun present _ => getElem?_spawn_of_some call.name present
      stands := ⟨elsewhere.unsent unsent, _, stream.metadata, ⟨leads.basin, leads.stored⟩,
        getElem?_spawn _ _ _, .spawned _ ready⟩ }

end Spawn

section Insert

variable {handle : BasinHandle} {stream : StreamHandle}

theorem cached_placeStream {server : SharedServer} {name : String × String}
    (basin : server.basins name.1 = some handle) :
    (server.placeStream handle.address name.2 stream).Cached name stream := by
  refine ⟨handle, basin, ?_⟩
  simp only [SharedServer.placeStream, Function.update_self]

theorem Holds.inserted (holds : line.Holds history)
    (knows : line.Knows id call (.atStream handle (.spawned stream)) history)
    {event : ServerEvent} (submission : ServerEvent.submission event = none)
    (goesOn : ¬event.Returns) :
    line.Holds (history.next event
      (history.shared.placeStream handle.address line.name.2 stream)) := by
  rcases knows.facts with ⟨basin, unopened, named⟩
  rcases knows.stands with ⟨_, actor, metadata, leads, present, serves⟩
  have uncached := SharedServer.uncached_of_stream basin unopened
  have cached : (history.shared.placeStream handle.address line.name.2 stream).Cached line.name
    stream := cached_placeStream basin
  have past := @submissions_snoc_of_none history.past _ submission
  rcases holds.unsubmitted uncached with ⟨none_, first⟩
  rw [none_] at past
  have names : history.shared.stores.named line.name.1 line.name.2 = some metadata := by
    rw [Stores.named, holds.owned.basinStored basin, Option.bind_some, Stores.streamMetadata,
      leads.stored, Option.bind_some, StreamMetadata.deserialise_serialise]
    rfl
  exact
    { owned := holds.owned.placeStream basin unopened named
      queued := holds.queued.snoc submission
      quiet := fun found _ => holds.quiet found (uncached _)
      unanswered := holds.unanswered
      decodes := holds.decodes
      keys := holds.keys
      unsubmitted := fun uncached => absurd cached (uncached stream)
      resting := fun uncached => absurd cached (uncached stream)
      serving := fun found => by
        cases cached_unique cached found
        refine ⟨0, 0, actor, metadata, present, names, ?_, fun submitted => ?_⟩
        · rw [History.next_past, past, first]
          exact serves
        · rw [History.next_past, past] at submitted
          cases submitted
      reports := holds.reports.snoc goesOn fun _ replied => replied }

theorem carried_insertStream {answer : Unit} (holds : line.Holds history)
    (knows : line.Knows id call (.atStream handle (.spawned stream)) history) :
    line.Carried id call history
      (history.next (.called id (.insertStream handle call.name.2 stream) answer)
        (history.shared.placeStream handle.address call.name.2 stream))
      (.atStream handle (.cached stream)) := by
  have reached := @Knows.reached line id call history _ _
    (.insertStream handle call.name.2 stream) answer knows holds ⟨rfl, rfl, rfl⟩ rfl
  have elsewhere := @elsewhere_called id (.insertStream handle call.name.2 stream) answer rfl
  have unsent : Unsent history id := knows.stands.1
  rcases knows.facts with ⟨basin, unopened, named⟩
  have uncached := SharedServer.uncached_of_stream basin unopened
  rw [knows.name] at reached elsewhere ⊢
  exact
    { holds := holds.inserted knows elsewhere.submission elsewhere.goesOn
      changes := .sameStores elsewhere.alone (.of_not_returns elsewhere.goesOn) reached.leaves rfl
        rfl fun present _ => present
      stands := ⟨elsewhere.unsent unsent, trivial⟩ }

end Insert

theorem carried_stream {handle : BasinHandle} {stage : StreamStage} {op : ServerOp}
    {answer : op.Answer} (holds : line.Holds history)
    (knows : line.Knows id call (.atStream handle stage) history)
    (allowed : Standing.StreamCalls call handle stage op)
    (answers : history.shared.Answers (fun _ => False) id call.name op answer after) :
    line.Carried id call history (history.next (.called id op answer) after)
      (Standing.streamLearn handle stage op answer) := by
  have reached := knows.reached holds allowed answers
  have unsent : Unsent history id := knows.stands.1
  have stands : line.StreamStageHolds history handle stage := knows.stands.2
  have name := knows.name
  cases op with
  | storage op =>
      rcases answers with ⟨stores, answers, rfl⟩
      exact carried_streamStorage holds knows allowed answers
  | readStreams other streamName =>
      have elsewhere := @elsewhere_called id (.readStreams other streamName) answer rfl
      rcases answers with ⟨found, rfl⟩
      rcases allowed with ⟨rfl, rfl, rfl⟩
      rw [name] at found
      cases answer with
      | none =>
          exact .same reached holds elsewhere (.refl _ _)
            ⟨elsewhere.unsent unsent, stands found.symm⟩
      | some stream =>
          exact .same reached holds elsewhere (.refl _ _) ⟨elsewhere.unsent unsent, trivial⟩
  | spawn stream =>
      rcases answers with ⟨rfl, rfl⟩
      rcases allowed with rfl
      exact carried_spawn holds knows
  | insertStream other streamName stream =>
      rcases answers with rfl
      rcases allowed with ⟨rfl, rfl, rfl⟩
      exact carried_insertStream holds knows
  | unlockStreamInit other =>
      have elsewhere := @elsewhere_called id (.unlockStreamInit other) answer rfl
      rcases answers with rfl
      rcases allowed with ⟨rfl, ⟨stream, rfl⟩ | gaveUp⟩
      · have cached : history.shared.Cached line.name stream :=
          ⟨other, knows.facts.1, knows.facts.2⟩
        exact .same reached holds elsewhere (.unlockStream cached _) (elsewhere.unsent unsent)
      · rcases knows.append with ⟨data, rfl⟩
        cases stage with
        | failed => exact stands.elim
        | missing => cases gaveUp
        | _ => exact gaveUp.elim
  | _ => exact allowed.elim

/-- Every call of an append keeps what holds for the stream, and tells the append where it
stands. -/
theorem carried {standing : Standing} {op : ServerOp} {answer : op.Answer}
    (holds : line.Holds history) (knows : line.Knows id call standing history)
    (allowed : standing.Calls call op)
    (answers : history.shared.Answers (fun _ => False) id call.name op answer after)
    (bound : line.tail + (submissions (history.past ++ [.called id op answer])).length ≤
      2 ^ 64 - 2 * DEFAULT_BLOCK_SIZE.toNat) :
    line.Carried id call history (history.next (.called id op answer) after)
      (standing.learn op answer) := by
  cases standing with
  | free basin stream => exact carried_free holds knows allowed answers bound
  | atBasin stage => exact carried_basin holds knows allowed answers
  | atStream handle stage => exact carried_stream holds knows allowed answers
  | waiting stream kind replyRx =>
      rcases allowed with rfl
      exact carried_receive holds knows answers
  | acknowledged replyRx ack => exact allowed.elim
  | failed => exact knows.stands.elim

end AppendLine

end Slatestreams
