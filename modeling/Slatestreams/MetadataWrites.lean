import Slatestreams.Directory
import Slatestreams.StreamActorLog

/-! # Metadata that is written once

A metadata record is written for a key that has none, so it is the only one. -/

namespace Slatestreams

open Foundation

namespace Stores

/-! ## The writes of a key -/

/-- All that has been written under a key of the metadata store. -/
def metadataWrites (self : Stores) (key : Bytes) : List StorageRecord :=
  self.journal.flatMap fun (store, batch) =>
    match store with
    | .metaStorage => batch.filter fun record => record.key == key
    | .recordStorage => []

/-- No key has been written twice, and one that has been written is there. -/
structure WrittenOnce (stores : Stores) : Prop where
  once (key : Bytes) : (stores.metadataWrites key).length ≤ 1
  absent {key : Bytes} : stores.metaStorage.get key = none → stores.metadataWrites key = []

/-- The ids of the basins have been drawn, each for one of them. -/
structure Distinct (stores : Stores) : Prop where
  drawn {basinName : String} {basinId : U128} :
    stores.basinId basinName = some basinId → basinId ∈ stores.drawn
  injective {left right : String} {basinId : U128} :
    stores.basinId left = some basinId → stores.basinId right = some basinId → left = right

theorem distinct_opened : opened.Distinct where
  drawn found := nomatch found
  injective found := nomatch found

theorem WrittenOnce.of_new {self : Stores} (new : self.journal = []) : self.WrittenOnce where
  once key := by simp [metadataWrites, new]
  absent _ := by simp [metadataWrites, new]

section Writes

variable (self : Stores) (key : Bytes) (record : StorageRecord)

@[simp] theorem metadataWrites_draw (id : U128) :
    (self.draw id).metadataWrites key = self.metadataWrites key := rfl

@[simp] theorem metadataWrites_recordStorage (batch : List StorageRecord) :
    (self.write batch .recordStorage).metadataWrites key = self.metadataWrites key := by
  simp [metadataWrites, write]

theorem metadataWrites_metaStorage :
    (self.write [record] .metaStorage).metadataWrites key =
      self.metadataWrites key ++ if record.key = key then [record] else [] := by
  by_cases same : record.key = key <;> simp [metadataWrites, write, same]

theorem get_metaStorage :
    (self.write [record] .metaStorage).metaStorage.get key =
      if record.key = key then some record.value else self.metaStorage.get key :=
  Contents.get_insert _ _ _ _

/-- A write for a key that has no value leaves the keys that have one. -/
theorem get_grows (missing : self.metaStorage.get record.key = none) (value : Bytes)
    (found : self.metaStorage.get key = some value) :
    (self.write [record] .metaStorage).metaStorage.get key = some value ∧
      (self.write [record] .metaStorage).metadataWrites key = self.metadataWrites key := by
  have different : record.key ≠ key := fun same => by simp [← same, missing] at found
  rw [get_metaStorage, metadataWrites_metaStorage, if_neg different, if_neg different,
    List.append_nil]
  exact ⟨found, rfl⟩

end Writes

/-- A write for a key that has no value is the only one of the key. -/
theorem WrittenOnce.write {self : Stores} {record : StorageRecord} (once : self.WrittenOnce)
    (missing : self.metaStorage.get record.key = none) :
    (self.write [record] .metaStorage).WrittenOnce where
  once key := by
    rw [metadataWrites_metaStorage]
    split
    · rename_i same
      rw [once.absent (same ▸ missing)]
      exact Nat.le_refl 1
    · simpa using once.once key
  absent {key} none_ := by
    rw [get_metaStorage] at none_
    rw [metadataWrites_metaStorage]
    split
    · rename_i same
      rw [if_pos same] at none_
      cases none_
    · rename_i different
      rw [if_neg different] at none_
      simpa using once.absent none_

/-! ## Growing metadata -/

/-- No metadata is changed once it is there. -/
def Grows (before after : Stores) : Prop :=
  ∀ key value, before.metaStorage.get key = some value → after.metaStorage.get key = some value

namespace Grows

variable {before middle after : Stores}

theorem refl (stores : Stores) : stores.Grows stores := fun _ _ found => found

theorem trans (first : before.Grows middle) (second : middle.Grows after) : before.Grows after :=
  fun key value found => second key value (first key value found)

theorem draw (stores : Stores) (id : U128) : stores.Grows (stores.draw id) := refl stores

theorem write {stores : Stores} {record : StorageRecord}
    (missing : stores.metaStorage.get record.key = none) :
    stores.Grows (stores.write [record] .metaStorage) :=
  fun key value found => (get_grows stores key record missing value found).1

theorem absent (grows : before.Grows after) {key : Bytes}
    (missing : after.metaStorage.get key = none) : before.metaStorage.get key = none := by
  cases found : before.metaStorage.get key with
  | none => rfl
  | some value => exact absurd ((grows key value found).symm.trans missing) nofun

theorem basinId (grows : before.Grows after) {basinName : String} {basinId : U128}
    (found : before.basinId basinName = some basinId) : after.basinId basinName = some basinId := by
  rcases Option.bind_eq_some_iff.mp found with ⟨value, stored, decoded⟩
  exact Option.bind_eq_some_iff.mpr ⟨value, grows _ _ stored, decoded⟩

theorem streamMetadata (grows : before.Grows after) {basinId : U128} {streamName : String}
    {metadata : StreamMetadata}
    (found : before.streamMetadata basinId streamName = some metadata) :
    after.streamMetadata basinId streamName = some metadata := by
  rcases Option.bind_eq_some_iff.mp found with ⟨value, stored, decoded⟩
  exact Option.bind_eq_some_iff.mpr ⟨value, grows _ _ stored, decoded⟩

theorem named (grows : before.Grows after) {basinName streamName : String}
    {metadata : StreamMetadata} (found : before.named basinName streamName = some metadata) :
    after.named basinName streamName = some metadata := by
  rcases Option.bind_eq_some_iff.mp found with ⟨basinId, basin, stream⟩
  exact Option.bind_eq_some_iff.mpr ⟨basinId, grows.basinId basin, grows.streamMetadata stream⟩

end Grows

/-! ## What the actors leave alone -/

/-- Two states of the stores have the same metadata. -/
structure SameMetadata (before after : Stores) : Prop where
  metaStorage : after.metaStorage = before.metaStorage
  drawn : after.drawn = before.drawn
  writes (key : Bytes) : after.metadataWrites key = before.metadataWrites key

theorem SameMetadata.refl (stores : Stores) : SameMetadata stores stores :=
  ⟨rfl, rfl, fun _ => rfl⟩

section Same

variable {before after : Stores}

theorem SameMetadata.basinId (same : SameMetadata before after) (basinName : String) :
    after.basinId basinName = before.basinId basinName := by
  rw [Stores.basinId, same.metaStorage, ← Stores.basinId]

theorem SameMetadata.named (same : SameMetadata before after) (basinName streamName : String) :
    after.named basinName streamName = before.named basinName streamName := by
  rw [Stores.named, same.basinId]
  unfold Stores.named Stores.streamMetadata
  rw [same.metaStorage]

theorem SameMetadata.distinct (same : SameMetadata before after) (distinct : before.Distinct) :
    after.Distinct where
  drawn found := by
    rw [same.basinId] at found
    rw [same.drawn]
    exact distinct.drawn found
  injective left right := by
    rw [same.basinId] at left right
    exact distinct.injective left right

theorem SameMetadata.writtenOnce (same : SameMetadata before after)
    (once : before.WrittenOnce) : after.WrittenOnce where
  once key := by
    rw [same.writes]
    exact once.once key
  absent {key} missing := by
    rw [same.metaStorage] at missing
    rw [same.writes]
    exact once.absent missing

end Same

end Stores

/-- The calls that may change the record store and nothing else. -/
def StorageOp.RecordsOnly : StorageOp → Prop
  | .apply store _ => store = .recordStorage
  | .newV4 => False
  | .get _ _ | .scanIter _ _ | .next _ => True

theorem StorageOp.Reads.recordsOnly {op : StorageOp} (reads : op.Reads) : op.RecordsOnly := by
  cases op with
  | apply => exact reads.elim
  | newV4 => exact reads.elim
  | _ => trivial

theorem StorageOp.RecordsOnly.same {MayFail : StorageOp → Prop} {op : StorageOp}
    {stores after : Stores} {answer : op.Answer} (only : op.RecordsOnly)
    (answers : op.Answers MayFail stores answer after) : Stores.SameMetadata stores after := by
  cases op with
  | apply store batch =>
      rcases only with rfl
      cases answer with
      | ok =>
          rcases answers with rfl
          exact ⟨rfl, rfl, fun key => Stores.metadataWrites_recordStorage _ _ _⟩
      | error error =>
          rcases answers with ⟨_, rfl⟩
          exact .refl _
  | newV4 => exact only.elim
  | get => cases answer <;> exact answers.2 ▸ .refl _
  | scanIter => cases answer <;> exact answers.2 ▸ .refl _
  | next => cases answer <;> exact answers.2 ▸ .refl _

def ActorOp.RecordsOnly : ActorOp → Prop
  | .storage op => op.RecordsOnly
  | .broadcast _ | .subscribe | .reply _ _ _ => True

theorem StreamActor.only_handle (stream : Stream) (command : StreamCommand) :
    (StreamActor.handle stream command).Only ActorOp.RecordsOnly := by
  rcases ActorPhase.handle_begins stream command with ⟨phase, code, begins⟩
  rw [code]
  cases begins with
  | append draws =>
      refine ⟨rfl, fun answer => ?_⟩
      cases answer with
      | ok => exact ⟨trivial, fun _ => ⟨trivial, fun _ => trivial⟩⟩
      | error error => exact ⟨trivial, fun _ => trivial⟩
  | overflow => trivial
  | read => exact ⟨trivial, fun _ => ⟨trivial, fun _ => trivial⟩⟩
  | subscribe => exact ⟨trivial, fun _ => ⟨trivial, fun _ => trivial⟩⟩

/-- The step of an actor leaves the metadata as it is. -/
theorem ActorStep.same {MayFail : StorageOp → Prop} {stores after : Stores}
    {actor next : StreamActor} {effect : ActorEffect}
    (taken : ActorStep MayFail stores actor effect after next)
    (only : actor.code.Only ActorOp.RecordsOnly) :
    Stores.SameMetadata stores after ∧ next.code.Only ActorOp.RecordsOnly := by
  cases taken with
  | recv => exact ⟨.refl _, StreamActor.only_handle _ _⟩
  | storage calls answers =>
      rw [calls] at only
      exact ⟨StorageOp.RecordsOnly.same only.1 answers, only.2 _⟩
  | broadcast calls =>
      rw [calls] at only
      exact ⟨.refl _, only.2 _⟩
  | subscribe calls =>
      rw [calls] at only
      exact ⟨.refl _, only.2 _⟩
  | reply calls =>
      rw [calls] at only
      exact ⟨.refl _, only.2 _⟩

end Slatestreams
