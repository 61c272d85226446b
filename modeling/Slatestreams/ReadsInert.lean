import Slatestreams.HistoryRefinement

/-! # Reads are inert

A history may lose any of its reads, and the operations that stay have the
same outcomes and leave the same stores. -/

namespace Slatestreams

open Foundation

/-- The operations that stay when only some readers and some listings do. -/
def Operation.kept (readers : Reader → Bool) (listings : Nat → Bool) : Operation → Bool
  | .append _ _ _ | .restart => true
  | .readFollow reader _ | .advance reader | .receive reader => readers reader
  | .listBasins label | .listStreams label _ => listings label

/-! ## On the service -/

namespace Service

section Reads

variable {ids : Nat → U128} {service : Service}

/-- A read that is gone leaves the readings that stay. -/
theorem readings_gone {operation : Operation} {readers : Reader → Bool} {listings : Nat → Bool}
    (gone : operation.kept readers listings = false) {other : Reader}
    (stays : readers other = true) :
    (service.perform ids operation).2.readings other = service.readings other := by
  have others {reader : Reader} {reading : Option ReadSession} (gone : readers reader = false) :
      Function.update service.readings reader reading other = service.readings other :=
    Function.update_of_ne (fun same => by simp [← same, stays] at gone) _ _
  cases operation with
  | append basinName streamName data => cases gone
  | restart => cases gone
  | listBasins label => rfl
  | listStreams label basinName => rfl
  | readFollow reader startSeqNum =>
      simp only [perform, Service.readFollow]
      split
      · rfl
      · rfl
      · exact others gone
  | advance reader =>
      simp only [perform, Service.advance]
      split
      · split
        · exact others gone
        · rfl
      · rfl
  | receive reader =>
      simp only [perform, Service.receive]
      split
      · exact others gone
      · rfl

/-- An append does not look at the readings. -/
theorem append_readings (name : String × String) (data : Bytes)
    (readings : Reader → Option ReadSession) :
    append ids { service with readings } name data =
      ((service.append ids name data).1, { (service.append ids name data).2 with readings }) := by
  have basin (service : Service) (basinName : String) :
      createBasin ids { service with readings } basinName =
        ((service.createBasin ids basinName).1,
          { (service.createBasin ids basinName).2 with readings }) := by
    simp only [createBasin]
    split <;> rfl
  have stream (service : Service) (basinId : U128) :
      createStream ids { service with readings } name basinId =
        ((service.createStream ids name basinId).1,
          { (service.createStream ids name basinId).2 with readings }) := by
    simp only [createStream]
    split <;> rfl
  have written (service : Service) (metadata : StreamMetadata) :
      appendTo { service with readings } name metadata data =
        ((service.appendTo name metadata data).1,
          { (service.appendTo name metadata data).2 with readings }) := by
    have same : process { service with readings } name metadata = service.process name metadata :=
      rfl
    simp only [appendTo, same]
    split <;> rfl
  simp only [append]
  split
  · rfl
  · simp only [basin, stream, written]

end Reads

/-- The services differ in the readings of readers that are gone, and no further. -/
structure Agrees (readers : Reader → Bool) (full short : Service) : Prop where
  same : short = { full with readings := short.readings }
  readings {reader : Reader} : readers reader = true →
    short.readings reader = full.readings reader

namespace Agrees

variable {readers : Reader → Bool} {full short : Service}

theorem update (agrees : Agrees readers full short) (reader : Reader) (reading : Option ReadSession) :
    Agrees readers
      { full with readings := Function.update full.readings reader reading }
      { short with readings := Function.update short.readings reader reading } where
  same := by rw [agrees.same]
  readings {other} stays := by
    by_cases same : other = reader
    · subst same
      simp only [Function.update_self]
    · simp only [Function.update_of_ne same]
      exact agrees.readings stays

/-- An operation that stays has the same outcome on both. -/
theorem kept (ids : Nat → U128) {listings : Nat → Bool} (agrees : Agrees readers full short)
    {operation : Operation} (stays : operation.kept readers listings = true) :
    (short.perform ids operation).1 = (full.perform ids operation).1 ∧
      Agrees readers (full.perform ids operation).2 (short.perform ids operation).2 := by
  obtain ⟨readings, is⟩ : ∃ readings, short.readings = readings := ⟨_, rfl⟩
  have same := is ▸ agrees.same
  subst same
  cases operation with
  | append basinName streamName data =>
      simp only [perform, append_readings]
      refine ⟨trivial, rfl, fun stays => ?_⟩
      rw [Service.readings_append]
      exact agrees.readings stays
  | readFollow reader startSeqNum =>
      have subscribed : subscribe { full with readings } reader.name startSeqNum =
          full.subscribe reader.name startSeqNum := rfl
      simp only [perform, Service.readFollow, subscribed]
      split
      · exact ⟨rfl, agrees⟩
      · exact ⟨rfl, agrees⟩
      · exact ⟨rfl, agrees.update reader _⟩
  | advance reader =>
      have reading : readings reader = full.readings reader := agrees.readings stays
      have current (metadata : StreamMetadata) : process { full with readings } reader.name metadata =
          full.process reader.name metadata := rfl
      simp only [perform, Service.advance, reading, current]
      split
      · split
        · exact ⟨trivial, agrees.update reader _⟩
        · exact ⟨trivial, agrees⟩
      · exact ⟨trivial, agrees⟩
  | receive reader =>
      have reading : readings reader = full.readings reader := agrees.readings stays
      simp only [perform, Service.receive, reading]
      split
      · exact ⟨rfl, agrees.update reader _⟩
      · exact ⟨rfl, agrees⟩
  | listBasins label => exact ⟨rfl, agrees⟩
  | listStreams label basinName => exact ⟨rfl, agrees⟩
  | restart => exact ⟨rfl, rfl, fun _ => rfl⟩

end Agrees

theorem agrees_simulates (ids : Nat → U128) (readers : Reader → Bool) (listings : Nat → Bool) :
    Machine.Simulates (perform ids) (perform ids) (Operation.kept readers listings) id
      fun _ full short => Agrees readers full short where
  kept agrees stays := agrees.kept ids stays
  dropped {_ full short operation} agrees gone := by
    have read : operation.isRead = true := by cases operation <;> first | rfl | cases gone
    rcases perform_read ids full read with ⟨stores, processes⟩
    refine ⟨?_, fun stays => ?_⟩
    · rw [stores, processes]
      exact agrees.same
    · rw [readings_gone gone stays]
      exact agrees.readings stays

end Service

/-! ## On the server -/

/-- Reads may be taken out of a history: what stays has the same outcomes, and the
stores are the same in the end. A read by itself leaves them as they are. -/
theorem World.reads_inert (ids : Nat → U128) {stores : Stores} (sound : stores.Sound)
    (history : List Operation) (fresh : Stores.Fresh ids stores.drawn (2 * history.length))
    (readers : Reader → Bool) (listings : Nat → Bool) :
    let short := history.filter (Operation.kept readers listings)
    Machine.transcript (perform ids) (.start stores) short =
        (Machine.transcript (perform ids) (.start stores) history).filter
          (fun entry => entry.1.kept readers listings) ∧
      (Machine.final (perform ids) (.start stores) short).server.stores =
        (Machine.final (perform ids) (.start stores) history).server.stores ∧
      ∀ before read after, history = before ++ read :: after → read.isRead = true →
        (Machine.final (perform ids) (.start stores) (before ++ [read])).server.stores =
          (Machine.final (perform ids) (.start stores) before).server.stores := by
  intro short
  have fewer {shorter : List Operation} (le : shorter.length ≤ history.length) :
      Stores.Fresh ids stores.drawn (2 * shorter.length) := fresh.mono (by omega)
  have stands {shorter : List Operation} (le : shorter.length ≤ history.length) :
      (Machine.final (perform ids) (.start stores) shorter).server.stores =
        (Machine.final (Service.perform ids) (.start stores) shorter).stores :=
    (final_represents sound (fewer le) : Represents ids 0 _ _).server.stores
  have inert := Service.agrees_simulates ids readers listings
  have agrees : Service.Agrees readers (.start stores) (.start stores) := ⟨rfl, fun _ => rfl⟩
  have shorter : short.length ≤ history.length := List.length_filter_le _ _
  refine ⟨?_, ?_, ?_⟩
  · rw [transcript_eq sound (fewer shorter), transcript_eq sound fresh,
      inert.transcript_eq agrees]
    exact List.map_id' _
  · rw [stands shorter, stands (Nat.le_refl _)]
    have related : Service.Agrees readers
        (Machine.final (Service.perform ids) (.start stores) history)
        (Machine.final (Service.perform ids) (.start stores) short) := inert.final_related 0 agrees
    rw [related.same]
  · rintro before read after rfl isRead
    rw [stands (by simp), stands (by simp), Machine.final_append]
    exact (Service.perform_read ids _ isRead).1

/-- A stream read before its first append after a restart. -/
theorem World.reads_inert_early_load :
    let history := [.append "orders" "events" [97], .restart,
      .readFollow ⟨"orders", "events", 0⟩ 0, .listStreams 0 "orders",
      .append "orders" "events" [98]]
    let short := [.append "orders" "events" [97], .restart, .append "orders" "events" [98]]
    (Machine.final (perform (BitVec.ofNat 128)) (.start .opened) short).server.stores =
      (Machine.final (perform (BitVec.ofNat 128)) (.start .opened) history).server.stores :=
  (World.reads_inert (BitVec.ofNat 128) Stores.sound_opened
    [.append "orders" "events" [97], .restart, .readFollow ⟨"orders", "events", 0⟩ 0,
      .listStreams 0 "orders", .append "orders" "events" [98]] (by decide)
    (fun _ => false) (fun _ => false)).2.1

end Slatestreams
