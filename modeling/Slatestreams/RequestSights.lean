import Slatestreams.NamesStored

/-! # What a request sees

The answers that a request gets are about the metadata of some moment between
its start and its end. As metadata only grows, what is missing was missing at
the start, and what is found is there at the end. -/

namespace Slatestreams

open Foundation

/-! ## Names in the stores -/

namespace Stores

def HasBasin (self : Stores) (basinName : String) : Prop :=
  ∃ basinId, self.basinId basinName = some basinId

def HasStream (self : Stores) (basinName streamName : String) : Prop :=
  ∃ metadata, self.named basinName streamName = some metadata

/-- A scan has the records there were before, and none that there are not after it. -/
structure Scanned (before after : Stores) (range : BytesRange) (records : List StorageRecord) :
    Prop where
  complete {record : StorageRecord} : range.contains record.key = true →
    before.metaStorage.get record.key = some record.value → record ∈ records
  sound {record : StorageRecord} : record ∈ records →
    range.contains record.key = true ∧ after.metaStorage.get record.key = some record.value
  ascending : records.Pairwise fun left right => left.key < right.key

/-- What an answer of the storage shows of the metadata before it and after it. -/
def Shows (before after : Stores) : (op : StorageOp) → op.Answer → Prop
  | .get .metaStorage key, .ok none => before.metaStorage.get key = none
  | .get .metaStorage key, .ok (some record) => after.metaStorage.get key = some record.value
  | .apply .metaStorage [record], .ok () => after.metaStorage.get record.key = some record.value
  | .scanIter .metaStorage range, .ok records => Scanned before after range records
  | .next iterator, .ok found => found = iterator.head?
  | _, _ => True

end Stores

/-- What an answer shows to a task: its handles are those of stored names. -/
def ServerCall.Sees (before after : Stores) (call : ServerCall) :
    (op : ServerOp) → op.Answer → Prop
  | .storage op, answer => before.Shows after op answer
  | .readBasins basinName, some handle => after.basinId basinName = some handle.basinId
  | .newBasinHandle basin, handle => handle.basinId = basin.basinId
  | .receive .append _, some (.ok _) => after.HasStream call.name.1 call.name.2
  | .receive .append _, some (.error error) => ∀ missing, error ≠ .streamDoesNotExist missing
  | .spawnFollower _, _ => after.HasStream call.name.1 call.name.2
  | _, _ => True

/-! ## Sights of a run -/

theorem Stores.Grows.shows {MayFail : StorageOp → Prop} {before stores next after : Stores}
    {op : StorageOp} {answer : op.Answer} (past : before.Grows stores) (rest : next.Grows after)
    (answers : op.Answers MayFail stores answer next) : before.Shows after op answer := by
  cases op with
  | apply store batch =>
      rcases answer with error | ⟨⟩
      · cases store <;> rcases batch with _ | ⟨record, _ | ⟨other, batch⟩⟩ <;> trivial
      · rcases answers with rfl
        cases store with
        | recordStorage => trivial
        | metaStorage =>
            rcases batch with _ | ⟨record, _ | ⟨other, batch⟩⟩
            · trivial
            · exact rest _ _ ((get_metaStorage _ _ _).trans (if_pos rfl))
            · trivial
  | get store key =>
      rcases answer with error | _ | record
      · cases store <;> trivial
      · cases store with
        | recordStorage => trivial
        | metaStorage => exact past.absent (Option.map_eq_none_iff.mp answers.1.symm)
      · cases store with
        | recordStorage => trivial
        | metaStorage =>
            rcases answers with ⟨read, rfl⟩
            rcases Option.map_eq_some_iff.mp read.symm with ⟨value, found, rfl⟩
            exact rest _ _ found
  | scanIter store range =>
      cases answer with
      | error error => cases store <;> trivial
      | ok records =>
          cases store with
          | recordStorage => trivial
          | metaStorage =>
              rcases answers with ⟨rfl, rfl⟩
              exact
                { complete := fun inside found =>
                    InMemoryStorage.mem_scanIter.mpr ⟨inside, past _ _ found⟩
                  sound := fun member => by
                    rcases InMemoryStorage.mem_scanIter.mp member with ⟨inside, found⟩
                    exact ⟨inside, rest _ _ found⟩
                  ascending := InMemoryStorage.sorted_scanIter _ _ }
  | next iterator =>
      cases answer with
      | error error => trivial
      | ok found => exact answers.1
  | newV4 => trivial

section Sees

variable {MayFail : StorageOp → Prop} {MayDrop : ServerOp → Prop} {MayRestart : Prop} {id : Nat}
  {call : ServerCall} {server next : SharedServer} {standing : Standing} {op : ServerOp}
  {answer : op.Answer} {before after : Stores}

theorem SharedServer.Answers.sees (owned : server.NamesOwned) (handles : server.HandlesStored)
    (exist : server.RepliesExist) (facts : standing.Facts call.name server)
    (allowed : standing.Calls call op)
    (answers : server.Answers MayFail id call.name op answer next)
    (past : before.Grows server.stores) (rest : next.stores.Grows after) :
    call.Sees before after op answer := by
  have stream {stream : StreamHandle} (cached : server.Cached call.name stream)
      (same : next.stores = server.stores) : after.HasStream call.name.1 call.name.2 := by
    rw [same] at rest
    exact (handles _ _ cached).imp fun _ found => rest.named found
  cases op with
  | storage op =>
      rcases answers with ⟨stores, answers, rfl⟩
      exact past.shows rest answers
  | readBasins basinName =>
      cases answer with
      | none => trivial
      | some handle =>
          rcases answers with ⟨found, rfl⟩
          exact rest.basinId (owned.basinStored found.symm)
  | newBasinHandle basin =>
      rcases answers with ⟨rfl, _⟩
      rfl
  | receive kind replyRx =>
      cases standing with
      | waiting handle expected expectedRx =>
          cases allowed
          cases answer with
          | none => cases kind <;> trivial
          | some value =>
              rcases answers with ⟨found, rfl⟩
              cases kind with
              | append =>
                  cases value with
                  | error error => exact exist.replied found
                  | ok ack => exact stream facts rfl
              | read => trivial
              | subscribe => trivial
      | failed =>
          rcases allowed with ⟨_, _, is⟩
          cases is
      | _ => exact allowed.elim
  | spawnFollower follower =>
      rcases answers with rfl
      cases standing with
      | free basin handle =>
          rcases allowed with rfl
          exact stream (facts.2 _ rfl) rfl
      | waiting handle kind replyRx => cases allowed
      | failed =>
          rcases allowed with ⟨_, _, is⟩
          cases is
      | _ => exact allowed.elim
  | _ => trivial

/-- The answers of a run show the metadata between its first state and its last. -/
theorem ServerPool.sees {first pool middle last : ServerPool}
    {past earlier later : List ServerEvent}
    (orderly : storedDiscipline.Orderly past first)
    (run : Run (Pool.Step (SharedServer.environment MayFail MayDrop MayRestart)) first earlier pool)
    (taken : Pool.Step (SharedServer.environment MayFail MayDrop MayRestart) pool
      (.called id op answer) middle)
    (rest : Run (Pool.Step (SharedServer.environment MayFail MayDrop MayRestart)) middle later last)
    {code : op.Answer → Program Slatestreams.server ServerResult}
    (running : pool.tasks id = some ⟨call, .call op code⟩) :
    call.Sees first.shared.stores last.shared.stores op answer := by
  have keeps := storedDiscipline_keeps MayFail MayDrop MayRestart
  have now := orderly.run keeps (fun _ => trivial) run trivial
  have next := now.step keeps trivial taken
  have past := metadata_grows orderly run
  have onwards := metadata_grows next rest
  rcases now.follows running with ⟨standing, knows, allowed, _⟩
  cases taken with
  | called found answers =>
      rw [running] at found
      cases found
      exact SharedServer.Answers.sees now.holds.1 now.holds.2.1 now.holds.2.2 knows.1.2 allowed
        answers past onwards

end Sees

end Slatestreams
