import Mathlib.Data.List.Basic
import Slatestreams.ServiceRefinement

/-! # Histories of the server

Over any history of requests, steps of readers and restarts, the server answers
as the service without caches does. -/

namespace Slatestreams

open Foundation

namespace World

/-- The caches are coherent, each reader's task stands where its reading says, and
the ids that `count` more operations can draw are fresh. -/
structure Represents (ids : Nat → U128) (count : Nat) (world : World) (service : Service) :
    Prop where
  server : world.server.Represents service
  sound : service.stores.Sound
  fresh : Stores.Fresh ids service.stores.drawn (2 * count)
  tasks (reader : Reader) :
    Option.Rel (fun task reading => task.Corresponds world.server reader.name reading)
      (world.tasks reader) (service.readings reader)

variable {ids : Nat → U128} {count : Nat} {world : World} {service : Service}

theorem represents_start {stores : Stores} (sound : stores.Sound)
    (fresh : Stores.Fresh ids stores.drawn (2 * count)) :
    Represents ids count (start stores) (.start stores) :=
  ⟨Server.represents_start stores, sound, fresh, fun _ => .none⟩

namespace Represents

/-- Requests leave the other readers where they are. -/
theorem requested (represents : Represents ids count world service) {server : Server} {after : Service}
    (holds : server.Represents after) (sound : after.stores.Sound) {fewer : Nat}
    (fresh : Stores.Fresh ids after.stores.drawn (2 * fewer))
    (kept : world.server.Extends server) (readings : after.readings = service.readings) :
    Represents ids fewer { world with server } after where
  server := holds
  sound := sound
  fresh := fresh
  tasks reader := by
    have related := represents.tasks reader
    rw [readings]
    generalize world.tasks reader = task at *
    generalize service.readings reader = reading at *
    cases related with
    | none => exact .none
    | some corresponds => exact .some (corresponds.extends kept)

/-- A reader's task has moved on. -/
theorem updated (represents : Represents ids count world service) {server : Server}
    (holds : server.Represents service) (kept : world.server.Extends server) (reader : Reader)
    {task : ReaderTask} {reading : ReadSession} 
    (corresponds : task.Corresponds server reader.name reading) :
    Represents ids count ⟨server, Function.update world.tasks reader (some task)⟩
      { service with readings := Function.update service.readings reader (some reading) } where
  server := holds.readings _
  sound := represents.sound
  fresh := represents.fresh
  tasks other := by
    by_cases same : other = reader
    · subst same
      simp only [Function.update_self]
      exact .some corresponds
    · simp only [Function.update_of_ne same]
      exact (represents.requested holds represents.sound represents.fresh kept rfl).tasks other

theorem readFollow (represents : Represents ids count world service) (reader : Reader)
    (startSeqNum : UInt64) :
    (world.readFollow ids reader startSeqNum).1 = (service.readFollow reader startSeqNum).1 ∧
      Represents ids count (world.readFollow ids reader startSeqNum).2
        (service.readFollow reader startSeqNum).2 := by
  have refined :=
    represents.server.exec_readFollow ids represents.sound reader.name startSeqNum
  simp only [World.readFollow, World.request, Service.readFollow]
  simp only [show reader.name.1 = reader.basinName from rfl,
    show reader.name.2 = reader.streamName from rfl] at refined
  generalize (StreamController.readFollow reader.basinName reader.streamName startSeqNum).run.exec
    (ServerOp.handle ids) world.server = result at *
  rcases result with ⟨result, server⟩
  rcases refined with ⟨holds, kept, outcome⟩
  rcases subscribed : service.subscribe reader.name startSeqNum with _ | error | reading
  · simp only [subscribed] at outcome
    subst outcome
    exact ⟨rfl, represents.requested holds represents.sound represents.fresh kept rfl⟩
  · simp only [subscribed] at outcome
    subst outcome
    exact ⟨rfl, represents.requested holds represents.sound represents.fresh kept rfl⟩
  · simp only [subscribed] at outcome
    rcases outcome with ⟨tx, follower, rfl, found, corresponds⟩
    simp only [found, Option.map_some]
    exact ⟨trivial, represents.updated holds kept reader corresponds⟩

theorem advance (represents : Represents ids count world service) (reader : Reader) :
    (world.advance ids reader).1 = .silent ∧
      Represents ids count (world.advance ids reader).2 (service.advance reader) := by
  have related := represents.tasks reader
  simp only [World.advance, Service.advance]
  cases following : world.tasks reader with
  | none =>
      rw [following] at related
      cases reading : service.readings reader with
      | none => exact ⟨rfl, represents⟩
      | some reading => simp [reading] at related
  | some task =>
      rw [following] at related
      cases read : service.readings reader with
      | none => simp [read] at related
      | some reading =>
          rw [read] at related
          rcases related with ⟨corresponds⟩
          rcases represents.server.cached corresponds.cached with
            ⟨metadata, process, actor, named, current, _⟩
          rcases represents.server.advance ids corresponds named current with ⟨holds, kept, next⟩
          simp only [Reader.name] at named
          simp only [named, current]
          exact ⟨trivial, represents.updated holds kept reader next⟩

theorem receive (represents : Represents ids count world service) (reader : Reader) :
    (world.receive reader).1 = (service.receive reader).1 ∧
      Represents ids count (world.receive reader).2 (service.receive reader).2 := by
  have related := represents.tasks reader
  simp only [World.receive, Service.receive]
  cases following : world.tasks reader with
  | none =>
      rw [following] at related
      cases reading : service.readings reader with
      | none => exact ⟨rfl, represents⟩
      | some reading => simp [reading] at related
  | some task =>
      rw [following] at related
      cases read : service.readings reader with
      | none => simp [read] at related
      | some reading =>
          rw [read] at related
          rcases related with ⟨corresponds⟩
          rcases task with ⟨follower, code, channel⟩
          rcases reading with ⟨nextSeqNum, subscribed, phase, sent⟩
          obtain rfl : channel = sent := corresponds.channel
          cases channel with
          | nil => exact ⟨rfl, represents⟩
          | cons item channel =>
              have taken : ReaderTask.Corresponds ⟨follower, code, channel⟩ world.server
                  reader.name ⟨nextSeqNum, subscribed, phase, channel⟩ :=
                { corresponds with channel := rfl }
              exact ⟨rfl, represents.updated represents.server (.refl _) reader taken⟩

theorem append (represents : Represents ids (count + 1) world service)
    (basinName streamName : String) (data : Bytes) :
    (world.perform ids (.append basinName streamName data)).1 =
        (service.perform ids (.append basinName streamName data)).1 ∧
      Represents ids count (world.perform ids (.append basinName streamName data)).2
        (service.perform ids (.append basinName streamName data)).2 := by
  rcases represents.server.exec_append ids represents.sound
    (basinName, streamName) data (represents.fresh.mono (by omega)) with
    ⟨result, holds, kept⟩
  rcases Service.sound_append represents.sound (basinName, streamName)
    data (show Stores.Fresh ids _ (2 * count + 2) from represents.fresh) with
    ⟨sound, fresh⟩
  exact ⟨congrArg Outcome.appended result,
    represents.requested holds sound fresh kept (Service.readings_append _ _ _ _)⟩

theorem listStreams (represents : Represents ids count world service) (label : Nat) (basinName : String) :
    (world.perform ids (.listStreams label basinName)).1 =
        (service.perform ids (.listStreams label basinName)).1 ∧
      Represents ids count (world.perform ids (.listStreams label basinName)).2
        (service.perform ids (.listStreams label basinName)).2 := by
  rcases represents.server.exec_listStreams ids represents.sound basinName with
    ⟨result, holds, kept⟩
  exact ⟨congrArg Outcome.streams result, represents.requested holds represents.sound represents.fresh kept rfl⟩

theorem listBasins (represents : Represents ids count world service) (label : Nat) :
    (world.perform ids (.listBasins label)).1 = (service.perform ids (.listBasins label)).1 ∧
      Represents ids count (world.perform ids (.listBasins label)).2
        (service.perform ids (.listBasins label)).2 := by
  have result := represents.server.exec_listBasins ids
  simp only [World.perform, World.request, result]
  exact ⟨rfl, represents⟩

end Represents

theorem Represents.fewer (represents : Represents ids (count + 1) world service) :
    Represents ids count world service :=
  { represents with fresh := represents.fresh.mono (by omega) }

/-- Every operation has the outcome it has on the service, and is followed by it. -/
theorem simulates (ids : Nat → U128) :
    Machine.Simulates (perform ids) (Service.perform ids) (fun _ => true) id
      (Represents ids) where
  kept {count world service operation} represents _ := by
    cases operation with
    | append basinName streamName data =>
        rcases represents.append basinName streamName data with ⟨same, next⟩
        exact ⟨same.symm, next⟩
    | readFollow reader startSeqNum =>
        rcases represents.fewer.readFollow reader startSeqNum with ⟨same, next⟩
        exact ⟨same.symm, next⟩
    | advance reader =>
        rcases represents.fewer.advance reader with ⟨same, next⟩
        exact ⟨same.symm, next⟩
    | receive reader =>
        rcases represents.fewer.receive reader with ⟨same, next⟩
        exact ⟨same.symm, next⟩
    | listBasins label =>
        rcases represents.fewer.listBasins label with ⟨same, next⟩
        exact ⟨same.symm, next⟩
    | listStreams label basinName =>
        rcases represents.fewer.listStreams label basinName with ⟨same, next⟩
        exact ⟨same.symm, next⟩
    | restart =>
        refine ⟨rfl, ?_⟩
        change Represents ids count (World.start world.server.stores) (.start service.stores)
        rw [represents.server.stores]
        exact represents_start represents.sound represents.fewer.fresh
  dropped _ impossible := nomatch impossible

section History

variable {stores : Stores} {history : List Operation}

/-- Over a whole history the server answers as the service does. -/
theorem transcript_eq (sound : stores.Sound)
    (fresh : Stores.Fresh ids stores.drawn (2 * history.length)) :
    Machine.transcript (perform ids) (.start stores) history =
      Machine.transcript (Service.perform ids) (.start stores) history := by
  have same := (simulates ids).transcript_eq (represents_start sound fresh)
  simpa only [List.filter_true, id, List.map_id'] using same.symm

theorem final_represents {later : Nat} (sound : stores.Sound)
    (fresh : Stores.Fresh ids stores.drawn (2 * (history.length + later))) :
    Represents ids later (Machine.final (perform ids) (.start stores) history)
      (Machine.final (Service.perform ids) (.start stores) history) := by
  have related := (simulates ids).final_related later (represents_start sound fresh)
  simpa only [List.filter_true] using related

end History

end World

end Slatestreams
