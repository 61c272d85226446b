import Slatestreams.NameDiscipline

/-! # One identity and one actor per name

The requests of a server keep out of each other's way, so a name has one handle
and one working actor as long as the server runs, and one id for good. -/

namespace Slatestreams

open Foundation

/-! ## The discipline of names -/

def nameDiscipline : Discipline server ServerCall ServerResult SharedServer Standing where
  protocol := Standing.protocol
  post := Standing.Ends
  Holds history := history.shared.NamesOwned
  Knows id call standing history :=
    standing.Holds id history.shared ∧ standing.Facts call.name history.shared
  Idle id history := ∀ lock, history.shared.locks lock ≠ some id
  Changes id before after := before.shared.Leaves id after.shared

namespace SharedServer

variable {MayFail : StorageOp → Prop} {id : Nat} {self after : SharedServer}

theorem release_ne (id : Nat) (self : SharedServer) (lock : Lock) :
    (release id self).locks lock ≠ some id := by
  change (if self.locks lock = some id then none else self.locks lock) ≠ some id
  split
  · exact nofun
  · assumption

theorem Leaves.release (id : Nat) (self : SharedServer) : Leaves id self (release id self) := by
  refine .of_locks (fun {other} lock different => ?_) rfl rfl rfl rfl rfl
  change (if self.locks lock = some id then none else self.locks lock) = some other ↔ _
  split
  · rename_i held
    rw [held]
    exact ⟨nofun, fun equal => absurd (Option.some.inj equal).symm different⟩
  · exact Iff.rfl

theorem Moves.leaves (owned : self.NamesOwned) (moves : self.Moves MayFail after) (id : Nat) :
    Leaves id self after := by
  cases moves with
  | actor present taken =>
      have same : Leaves id self _ :=
        .sameMetadata (taken.same (owned.recordsOnly present)).1
      exact { same with }

theorem Starts.leaves {call : ServerCall} {code : Program server ServerResult}
    (starts : self.Starts call code after) (id : Nat) : Leaves id self after := by
  cases starts <;> exact .of_locks (fun _ _ => Iff.rfl) rfl rfl rfl rfl rfl

/-- A task starts from where its protocol begins. -/
theorem Starts.knows {call : ServerCall} {code : Program server ServerResult}
    (owned : self.NamesOwned) (idle : ∀ lock, self.locks lock ≠ some id)
    (starts : self.Starts call code after) :
    ∃ standing : Standing, standing.Holds id after ∧ standing.Facts call.name after ∧
      code.Meets (Standing.protocol call) (Standing.Ends call) standing := by
  cases starts with
  | request client =>
      exact ⟨.free none none, fun lock => ⟨fun held => absurd held (idle lock), nofun⟩,
        ⟨nofun, nofun⟩, Standing.meets_request call client⟩
  | follower waits =>
      rename_i name follower earlier later
      have member : (name, follower) ∈ self.spawned := by simp [waits]
      exact ⟨.free none (some follower.readStream),
        fun lock => ⟨fun held => absurd held (idle lock), nofun⟩,
        ⟨nofun, fun _ found => Option.some.inj found ▸ owned.spawned member⟩,
        Standing.meets_start⟩

end SharedServer

theorem nameDiscipline_keeps (MayFail : StorageOp → Prop) (MayDrop : ServerOp → Prop)
    (MayRestart : Prop) :
    nameDiscipline.Keeps (SharedServer.environment MayFail MayDrop MayRestart)
      fun _ => True where
  known different _ changes knows :=
    ⟨changes.holds different knows.1, changes.facts different knows.1 knows.2⟩
  idle different changes idle lock held := idle lock ((changes.locks lock different).mp held)
  started _ owned idle starts := by
    rcases starts.knows owned idle with ⟨standing, holds, facts, meets⟩
    exact ⟨⟨owned.starts starts, starts.leaves _⟩, standing, ⟨holds, facts⟩, meets⟩
  called _ owned knows allowed answers := by
    have reached := Standing.reached owned knows.1 knows.2 allowed answers
    exact ⟨trivial, ⟨reached.owned, reached.leaves⟩, reached.holds, reached.facts⟩
  turned _ owned knows ends resumes :=
    ⟨⟨owned, .refl _ _⟩, knows, Standing.meets_resume ends resumes⟩
  returned _ owned _ _ _ :=
    ⟨⟨owned.withLocks _, .release _ _⟩, SharedServer.release_ne _ _⟩
  dropped _ owned _ _ _ :=
    ⟨⟨owned.withLocks _, .release _ _⟩, SharedServer.release_ne _ _⟩
  moved _ owned moves id := ⟨owned.moves moves, moves.leaves owned id⟩
  reset {_ after} _ owned resets := by
    rcases resets with ⟨_, rfl⟩
    exact ⟨owned.restart, fun _ _ => nofun⟩

/-! ## Runs -/

namespace SharedServer

/-- No basin has had two handles in the cache since the server has started. -/
def OneHandlePerBasin (self : SharedServer) : Prop :=
  ∀ basinName left right, (basinName, left) ∈ self.handed → (basinName, right) ∈ self.handed →
    left = right

/-- No two actors of one stream have taken commands. -/
def OneActorPerStream (self : SharedServer) : Prop :=
  ∀ (name : String × String) (left right : Nat) (actor other : StreamActor),
    self.names[left]? = some name → self.names[right]? = some name →
      self.actors[left]? = some actor → self.actors[right]? = some other →
        actor.taken ≠ [] → other.taken ≠ [] → left = right

namespace NamesOwned

theorem oneHandle {self : SharedServer} (owned : self.NamesOwned) : self.OneHandlePerBasin :=
  fun _ _ _ left right => Option.some.inj ((owned.handed left).symm.trans (owned.handed right))

theorem oneActor {self : SharedServer} (owned : self.NamesOwned) : self.OneActorPerStream := by
  intro name left right actor other leftNamed rightNamed leftPresent rightPresent leftTaken
    rightTaken
  rcases owned.commanded leftPresent (.inr leftTaken) with ⟨first, firstNamed, firstCached⟩
  rcases owned.commanded rightPresent (.inr rightTaken) with ⟨second, secondNamed, secondCached⟩
  rw [leftNamed] at firstNamed
  rw [rightNamed] at secondNamed
  cases firstNamed
  cases secondNamed
  rcases firstCached with ⟨basin, placed, found⟩
  rcases secondCached with ⟨basin', placed', found'⟩
  rw [placed] at placed'
  cases placed'
  rw [found] at found'
  cases found'
  rfl

end NamesOwned

end SharedServer

namespace ServerPool

variable {MayFail : StorageOp → Prop} {MayDrop : ServerOp → Prop} {MayRestart : Prop}
  {stores : Stores}

theorem orderly_start (distinct : stores.Distinct) (new : stores.journal = []) :
    nameDiscipline.Orderly [] (start stores) where
  holds := .start distinct (.of_new new)
  follows found := nomatch found
  idle _ _ := nofun

/-- However requests are interleaved, fail, are dropped or are cut off by restarts, a basin
has one handle and a stream one working actor as long as the server runs. A metadata key is
written at most once, and never if it had a value, so the ids behind names do not change. -/
theorem one_identity_per_name (distinct : stores.Distinct) (new : stores.journal = [])
    {events later : List ServerEvent} {pool last : ServerPool}
    (run : Run (Pool.Step (SharedServer.environment MayFail MayDrop MayRestart)) (start stores)
      events pool)
    (rest : Run (Pool.Step (SharedServer.environment MayFail MayDrop MayRestart)) pool later
      last) :
    pool.shared.OneHandlePerBasin ∧ pool.shared.OneActorPerStream ∧
      (∀ key, (pool.shared.stores.metadataWrites key).length ≤ 1) ∧
      (∀ key value, pool.shared.stores.metaStorage.get key = some value →
        last.shared.stores.metaStorage.get key = some value ∧
          last.shared.stores.metadataWrites key = pool.shared.stores.metadataWrites key) ∧
      (∀ basinName basinId, pool.shared.stores.basinId basinName = some basinId →
        last.shared.stores.basinId basinName = some basinId) ∧
      ∀ basinId streamName metadata,
        pool.shared.stores.streamMetadata basinId streamName = some metadata →
          last.shared.stores.streamMetadata basinId streamName = some metadata := by
  have keeps := nameDiscipline_keeps MayFail MayDrop MayRestart
  have orderly := (orderly_start distinct new).run keeps (fun _ => trivial) run trivial
  have owned : pool.shared.NamesOwned := orderly.holds
  have kept (key value : Bytes) (found : pool.shared.stores.metaStorage.get key = some value) :
      last.shared.stores.metaStorage.get key = some value ∧
        last.shared.stores.metadataWrites key = pool.shared.stores.metadataWrites key := by
    refine orderly.kept keeps (fun _ => trivial)
      (fun shared => shared.stores.metaStorage.get key = some value ∧
        shared.stores.metadataWrites key = pool.shared.stores.metadataWrites key)
      (fun {_ _ _} changes kept => ?_) (fun {_ _} resets kept => ?_) rest trivial
      ⟨found, rfl⟩
    · rcases changes.metadata_grows kept.1 with ⟨value, writes⟩
      exact ⟨value, writes.trans kept.2⟩
    · rcases resets with ⟨_, rfl⟩
      exact kept
  refine ⟨owned.oneHandle, owned.oneActor, owned.once.once, kept, ?_, ?_⟩
  · intro basinName basinId found
    rcases Option.bind_eq_some_iff.mp found with ⟨value, stored, decoded⟩
    exact Option.bind_eq_some_iff.mpr ⟨value, (kept _ _ stored).1, decoded⟩
  · intro basinId streamName metadata found
    rcases Option.bind_eq_some_iff.mp found with ⟨value, stored, decoded⟩
    exact Option.bind_eq_some_iff.mpr ⟨value, (kept _ _ stored).1, decoded⟩

/-- An append is dropped once it has made its basin. -/
theorem one_identity_per_name_dropped :
    ∃ events pool,
      Run (Pool.Step (SharedServer.environment (fun _ => False) (fun _ => True) True))
        (start .opened) events pool ∧
      pool.shared.handed = [("orders", ⟨0, 1⟩)] ∧ pool.shared.OneHandlePerBasin ∧
      ∀ later last,
        Run (Pool.Step (SharedServer.environment (fun _ => False) (fun _ => True) True))
          pool later last →
        last.shared.stores.basinId "orders" = some 1 := by
  let origin : ServerCall := .append "orders" "events" [97]
  let Reaches : ServerPool → Prop := fun pool => ∃ events,
    Run (Pool.Step (SharedServer.environment (fun _ => False) (fun _ => True) True))
      (start .opened) events pool
  have call {pool : ServerPool} {after : SharedServer} (op : ServerOp) (answer : op.Answer)
      {next : op.Answer → Program server ServerResult} (reaches : Reaches pool)
      (running : pool.tasks 0 = some ⟨origin, .call op next⟩)
      (answers : pool.shared.Answers (fun _ => False) 0 origin.name op answer after) :
      Reaches (pool.set 0 after (some ⟨origin, next answer⟩)) :=
    ⟨_, reaches.choose_spec.snoc (.called running answers)⟩
  have started : Reaches ((start .opened).set 0 (start .opened).shared
      (some ⟨origin, origin.code⟩)) := ⟨_, .single (.started rfl (.request rfl))⟩
  have read := call (.readBasins "orders") none started rfl ⟨rfl, rfl⟩
  have locked := call .lockBasinInit () read rfl ⟨rfl, rfl⟩
  have missed := call (.readBasins "orders") none locked rfl ⟨rfl, rfl⟩
  have loaded := call (.storage (.get .metaStorage (Basin.constructMetadataKey "orders")))
    (.ok none) missed rfl ⟨_, ⟨rfl, rfl⟩, rfl⟩
  have drawn := call (.storage .newV4) (1 : U128) loaded rfl ⟨_, ⟨List.not_mem_nil, rfl⟩, rfl⟩
  have written := call (.storage (.apply .metaStorage [Basin.metadataRecord "orders" 1]))
    (.ok ()) drawn rfl ⟨_, rfl, rfl⟩
  have handled := call (.newBasinHandle ⟨1, "orders"⟩) ⟨0, 1⟩ written rfl ⟨rfl, rfl⟩
  have placed := call (.insertBasin "orders" ⟨0, 1⟩) () handled rfl rfl
  rcases placed with ⟨events, run⟩
  have last := run.snoc (@Pool.Step.dropped _ _ _ _ _ _ 0 origin _ rfl trivial)
  refine ⟨_, _, last, rfl, (one_identity_per_name Stores.distinct_opened rfl last .nil).1,
    fun later final rest => ?_⟩
  exact (one_identity_per_name Stores.distinct_opened rfl last rest).2.2.2.2.1 "orders" 1 rfl

end ServerPool

end Slatestreams
