import Slatestreams.Foundation.PoolSimulation
import Slatestreams.OrderedScans

/-! # A server on stores in memory

The tests of the controller give it two stores in memory. Such a server makes the runs
that it makes on stores that never fail, for as long as its stores can count batches. -/

namespace Slatestreams

open Foundation

/-! ## Two stores in memory -/

/-- The two stores, with the same history as `Stores`. -/
structure MemoryStores where
  metaStorage : InMemoryStorage
  recordStorage : InMemoryStorage
  drawn : List U128
  journal : List (Store × List StorageRecord)

namespace MemoryStores

def new : MemoryStores := ⟨.new, .new, [], []⟩

def storage (self : MemoryStores) : Store → InMemoryStorage
  | .metaStorage => self.metaStorage
  | .recordStorage => self.recordStorage

def put (self : MemoryStores) (storage : InMemoryStorage) : Store → MemoryStores
  | .metaStorage => { self with metaStorage := storage }
  | .recordStorage => { self with recordStorage := storage }

/-- What the stores hold. -/
def view (self : MemoryStores) : Stores :=
  ⟨self.metaStorage.tree, self.recordStorage.tree, self.drawn, self.journal⟩

end MemoryStores

/-- What an iterator has still to return. -/
def InMemoryIterator.rest (self : InMemoryIterator) : List StorageRecord :=
  self.records.drop self.position

/-- The answers of the stores. A call that panics has none. -/
def StorageOp.AnswersInMemory (stores : MemoryStores) :
    (op : StorageOp) → op.Answer → MemoryStores → Prop
  | .apply store batch, .ok (), after =>
      ∃ result storage, (stores.storage store).apply batch = (some (.ok result), storage) ∧
        after = { stores.put storage store with journal := stores.journal ++ [(store, batch)] }
  | .apply store batch, .error error, after =>
      ∃ storage, (stores.storage store).apply batch = (some (.error error), storage) ∧
        after = stores.put storage store
  | .get store key, answer, after => answer = (stores.storage store).get key ∧ after = stores
  | .scanIter store range, answer, after =>
      ∃ result, (stores.storage store).scanIter range = some result ∧
        answer = result.map InMemoryIterator.rest ∧ after = stores
  | .next records, answer, after =>
      ∃ iterator : InMemoryIterator, iterator.rest = records ∧ answer = iterator.next.1 ∧
        after = stores
  | .newV4, id, after => id ∉ stores.drawn ∧ after = { stores with drawn := stores.drawn ++ [id] }

def StorageOp.panics (stores : MemoryStores) : StorageOp → Bool
  | .apply store batch => ((stores.storage store).apply batch).1.isNone
  | .scanIter store range => ((stores.storage store).scanIter range).isNone
  | .get _ _ | .next _ | .newV4 => false

/-- A call to `next` moves the iterator past the record it returns. -/
theorem InMemoryIterator.next_eq (self : InMemoryIterator) :
    self.next.1 = .ok self.rest.head? ∧ self.next.2.rest = self.rest.tail := by
  rcases self with ⟨records, position⟩
  by_cases past : records.length ≤ position
  · have ended : next ⟨records, position⟩ = (.ok none, ⟨records, position⟩) := dif_pos past
    have nothing : rest ⟨records, position⟩ = [] := List.drop_eq_nil_of_le past
    simp only [ended, nothing]
    exact ⟨rfl, rfl⟩
  · have within : position < records.length := Nat.lt_of_not_le past
    have moved : next ⟨records, position⟩ = (.ok (some records[position]),
        ⟨records, position + 1⟩) := dif_neg past
    have more : rest ⟨records, position⟩ = records[position] :: rest ⟨records, position + 1⟩ :=
      List.drop_eq_getElem_cons within
    rw [moved, more]
    exact ⟨rfl, rfl⟩

/-! ## Stores that are counting -/

namespace InMemoryStorage

variable {self : InMemoryStorage} (sound : self.poisoned = false)

include sound

theorem apply_eq_iff {batch : List StorageRecord} {written : Except StorageError WriteResult}
    {after : InMemoryStorage} :
    self.apply batch = (some written, after) ↔
      self.seqnum.toNat + 1 < 2 ^ 64 ∧ written = .ok ⟨self.seqnum + 1⟩ ∧
        after = ⟨self.tree.apply batch, false, self.seqnum + 1⟩ := by
  have counted : addU64 self.seqnum 1 =
      if self.seqnum.toNat + 1 < 2 ^ 64 then some (self.seqnum + 1) else none := rfl
  simp only [apply, lock, sound, counted]
  by_cases room : self.seqnum.toNat + 1 < 2 ^ 64
  · rw [if_pos room]
    constructor
    · intro equal
      cases equal
      exact ⟨room, rfl, rfl⟩
    · rintro ⟨_, rfl, rfl⟩
      rfl
  · rw [if_neg room]
    exact ⟨fun equal => (nomatch (Prod.mk.inj equal).1), fun written => absurd written.1 room⟩

theorem get_eq (key : Bytes) : self.get key = .ok (self.tree.read key) := by
  unfold get lock
  rw [sound]
  rfl

theorem scanIter_ordered {range : BytesRange} (ordered : range.inverted = false) :
    self.scanIter range = some (.ok ⟨self.tree.scanIter range, 0⟩) := by
  unfold scanIter lock
  rw [sound]
  simp [range_eq_scan _ ordered, Contents.scanIter]

end InMemoryStorage

/-- Neither lock is poisoned, and each store has counted no more batches than there were. -/
structure MemoryStores.Counts (stores : MemoryStores) : Prop where
  sound (store : Store) : (stores.storage store).poisoned = false
  seqnum (store : Store) : (stores.storage store).seqnum.toNat ≤ stores.journal.length

namespace MemoryStores

theorem counts_new : new.Counts where
  sound store := by cases store <;> rfl
  seqnum store := by cases store <;> exact Nat.le_refl 0

theorem contents_view (self : MemoryStores) (store : Store) :
    self.view.contents store = (self.storage store).tree := by
  cases store <;> rfl

theorem Counts.draw {self : MemoryStores} (counts : self.Counts) (id : U128) :
    { self with drawn := self.drawn ++ [id] }.Counts where
  sound
    | .metaStorage => counts.sound .metaStorage
    | .recordStorage => counts.sound .recordStorage
  seqnum
    | .metaStorage => counts.seqnum .metaStorage
    | .recordStorage => counts.seqnum .recordStorage

/-- The stores after a batch that has been written. -/
def written (self : MemoryStores) (batch : List StorageRecord) (store : Store) : MemoryStores :=
  let storage := self.storage store
  { self.put ⟨storage.tree.apply batch, false, storage.seqnum + 1⟩ store with
    journal := self.journal ++ [(store, batch)] }

theorem view_written (self : MemoryStores) (batch : List StorageRecord) (store : Store) :
    (self.written batch store).view = self.view.write batch store := by
  cases store <;> rfl

theorem Counts.written {self : MemoryStores} (counts : self.Counts) {batch : List StorageRecord}
    {store : Store} (room : (self.storage store).seqnum.toNat + 1 < 2 ^ 64) :
    (self.written batch store).Counts := by
  have added : ((self.storage store).seqnum + 1).toNat = (self.storage store).seqnum.toNat + 1 := by
    rw [UInt64.toNat_add]
    exact Nat.mod_eq_of_lt room
  have length : (self.written batch store).journal.length = self.journal.length + 1 :=
    List.length_append
  have same (other : Store) : (self.written batch store).storage other =
      if other = store then ⟨(self.storage store).tree.apply batch, false,
        (self.storage store).seqnum + 1⟩ else self.storage other := by
    cases store <;> cases other <;> rfl
  constructor
  · intro other
    rw [same]
    split
    · rfl
    · exact counts.sound other
  · intro other
    rw [same, length]
    split
    · simp only [added]
      exact Nat.succ_le_succ (counts.seqnum store)
    · exact Nat.le_succ_of_le (counts.seqnum other)

end MemoryStores

namespace StorageOp

variable {stores after : MemoryStores} {op : StorageOp} {answer : op.Answer}

/-- The answers in memory are those of stores that never fail. -/
theorem AnswersInMemory.answers (counts : stores.Counts) (ordered : op.Ordered)
    (answers : op.AnswersInMemory stores answer after) :
    op.Answers NeverFails stores.view answer after.view ∧ after.Counts := by
  cases op with
  | apply store batch =>
      have sound := counts.sound store
      rcases answer with error | ⟨⟩
      · rcases answers with ⟨storage, applied, _⟩
        cases ((InMemoryStorage.apply_eq_iff sound).mp applied).2.1
      · rcases answers with ⟨result, storage, applied, rfl⟩
        rcases (InMemoryStorage.apply_eq_iff sound).mp applied with ⟨room, _, rfl⟩
        exact ⟨stores.view_written batch store, counts.written room⟩
  | get store key =>
      rcases answers with ⟨rfl, rfl⟩
      rw [InMemoryStorage.get_eq (counts.sound store), ← MemoryStores.contents_view]
      exact ⟨⟨rfl, rfl⟩, counts⟩
  | scanIter store range =>
      rcases answers with ⟨result, scanned, rfl, rfl⟩
      rw [InMemoryStorage.scanIter_ordered (counts.sound store) ordered,
        ← MemoryStores.contents_view] at scanned
      cases scanned
      exact ⟨⟨rfl, rfl⟩, counts⟩
  | next records =>
      rcases answers with ⟨iterator, rfl, rfl, rfl⟩
      rw [iterator.next_eq.1]
      exact ⟨⟨rfl, rfl⟩, counts⟩
  | newV4 =>
      rcases answers with ⟨undrawn, rfl⟩
      exact ⟨⟨undrawn, rfl⟩, counts.draw _⟩

/-- What stores that never fail answer, the stores in memory do, with room in the count. -/
theorem Answers.inMemory {next : Stores} (counts : stores.Counts) (ordered : op.Ordered)
    (room : next.journal.length < 2 ^ 64)
    (answers : op.Answers NeverFails stores.view answer next) :
    ∃ after, op.AnswersInMemory stores answer after ∧ after.view = next ∧ after.Counts := by
  cases op with
  | apply store batch =>
      rcases answer with error | ⟨⟩
      · exact answers.1.elim
      · rcases answers with rfl
        have fits : (stores.storage store).seqnum.toNat + 1 < 2 ^ 64 := by
          rw [← MemoryStores.view_written] at room
          have length : (stores.written batch store).view.journal.length =
              stores.journal.length + 1 := List.length_append
          have counted := counts.seqnum store
          omega
        refine ⟨stores.written batch store, ?_, stores.view_written batch store,
          counts.written fits⟩
        exact ⟨_, _, (InMemoryStorage.apply_eq_iff (counts.sound store)).mpr ⟨fits, rfl, rfl⟩, rfl⟩
  | get store key =>
      cases answer with
      | error error => exact answers.1.elim
      | ok found =>
          rcases answers with ⟨rfl, rfl⟩
          refine ⟨stores, ⟨?_, rfl⟩, rfl, counts⟩
          rw [InMemoryStorage.get_eq (counts.sound store), MemoryStores.contents_view]
  | scanIter store range =>
      cases answer with
      | error error => exact answers.1.elim
      | ok records =>
          rcases answers with ⟨rfl, rfl⟩
          have scanned := InMemoryStorage.scanIter_ordered (counts.sound store) ordered
          refine ⟨stores, ⟨_, scanned, ?_, rfl⟩, rfl, counts⟩
          rw [MemoryStores.contents_view]
          rfl
  | next records =>
      cases answer with
      | error error => exact answers.1.elim
      | ok found =>
          rcases answers with ⟨rfl, rfl⟩
          have next := (InMemoryIterator.next_eq ⟨records, 0⟩).1
          exact ⟨stores, ⟨⟨records, 0⟩, rfl, next.symm, rfl⟩, rfl, counts⟩
  | newV4 =>
      rcases answers with ⟨undrawn, rfl⟩
      exact ⟨_, ⟨undrawn, rfl⟩, rfl, counts.draw _⟩

/-- A call panics for an inverted range and where the count ends, and nowhere else. -/
theorem panics_eq_false (counts : stores.Counts) (ordered : op.Ordered)
    (room : stores.journal.length + 1 < 2 ^ 64) : op.panics stores = false := by
  cases op with
  | apply store batch =>
      have fits : (stores.storage store).seqnum.toNat + 1 < 2 ^ 64 :=
        Nat.lt_of_le_of_lt (Nat.succ_le_succ (counts.seqnum store)) room
      have applied : (stores.storage store).apply batch = (some _, _) :=
        (InMemoryStorage.apply_eq_iff (counts.sound store)).mpr ⟨fits, rfl, rfl⟩
      rw [panics, applied]
      rfl
  | scanIter store range =>
      rw [panics, InMemoryStorage.scanIter_ordered (counts.sound store) ordered]
      rfl
  | _ => rfl

end StorageOp

/-! ## The server -/

/-- A server with its stores: what the rest of it sees of them is what they hold. -/
structure MemoryServer where
  memory : MemoryStores
  shared : SharedServer
  mirrors : shared.stores = memory.view

namespace MemoryServer

def start (memory : MemoryStores) : MemoryServer := ⟨memory, .start memory.view, rfl⟩

/-- A call to a store gets the store's answer, and every other call is answered as before. -/
def Answers (id : Nat) (name : String × String) (self : MemoryServer) (op : ServerOp)
    (answer : op.Answer) (after : MemoryServer) : Prop :=
  match op, answer with
  | .storage op, answer =>
      op.AnswersInMemory self.memory answer after.memory ∧
        after.shared = { self.shared with stores := after.memory.view }
  | op, answer =>
      self.shared.Answers NeverFails id name op answer after.shared ∧ after.memory = self.memory

/-- An actor makes a step: it calls a store, or it does not. -/
inductive Moves (self after : MemoryServer) : Prop where
  | storage {tx : Nat} {actor : StreamActor} {op : StorageOp} {answer : op.Answer}
      {next : op.Answer → Program streamActor Stream}
      (present : self.shared.actors[tx]? = some actor)
      (calls : actor.code = .call (S := streamActor) (.storage op) next)
      (answers : op.AnswersInMemory self.memory answer after.memory)
      (same : after.shared =
        { self.shared with
          stores := after.memory.view
          actors := self.shared.actors.set tx { actor with code := next answer } })
  | other {tx : Nat} {actor next : StreamActor} {effect : ActorEffect}
      (present : self.shared.actors[tx]? = some actor)
      (calls : ∀ op next, actor.code ≠ .call (S := streamActor) (.storage op) next)
      (taken : ActorStep NeverFails self.shared.stores actor effect self.shared.stores next)
      (memory : after.memory = self.memory)
      (same : after.shared =
        { self.shared with
          actors := self.shared.actors.set tx next
          replies := effect.deliver self.shared.replies })

/-- The stores do not outlive the server, so there is no restart. -/
def environment (MayDrop : ServerOp → Prop) :
    Environment server ServerCall ServerResult MemoryServer where
  Answers id call self op answer after := self.Answers id call.name op answer after
  Starts self call code after :=
    self.shared.Starts call code after.shared ∧ after.memory = self.memory
  release id self := ⟨self.memory, self.shared.release id, self.mirrors⟩
  resume := ServerCall.resume
  Droppable
    | .done _ => False
    | .panic _ => True
    | .call op _ => MayDrop op
  Moves := Moves
  Resets _ _ := False

end MemoryServer

abbrev MemoryPool : Type := Pool server ServerCall ServerResult MemoryServer

namespace MemoryPool

/-- A server on two new stores, with no requests yet. -/
def start : MemoryPool := ⟨.start .new, fun _ => none⟩

def view (self : MemoryPool) : ServerPool := ⟨self.shared.shared, self.tasks⟩

/-- No call that a task or an actor is about to make panics. -/
structure Calm (pool : MemoryPool) : Prop where
  tasks {id : Nat} {call : ServerCall} {op : StorageOp}
      {next : op.Answer → Program server ServerResult} :
    pool.tasks id = some ⟨call, .call (S := server) (.storage op) next⟩ →
      op.panics pool.shared.memory = false
  actors {actor : StreamActor} {op : StorageOp}
      {next : op.Answer → Program streamActor Stream} :
    actor ∈ pool.shared.shared.actors →
      actor.code = .call (S := streamActor) (.storage op) next →
      op.panics pool.shared.memory = false

end MemoryPool

/-! ## The same runs -/

/-- No actor is about to scan a range whose ends are out of order. -/
def SharedServer.ScansOrdered (self : SharedServer) : Prop :=
  ∀ actor ∈ self.actors, actor.code.Only ActorOp.Ordered

namespace SharedServer

variable {self after : SharedServer} {MayFail : StorageOp → Prop}

theorem ScansOrdered.set (ordered : self.ScansOrdered) {actor : StreamActor} (tx : Nat)
    (only : actor.code.Only ActorOp.Ordered) :
    ∀ other ∈ self.actors.set tx actor, other.code.Only ActorOp.Ordered := by
  intro other member
  rcases List.mem_or_eq_of_mem_set member with earlier | rfl
  · exact ordered other earlier
  · exact only

theorem ScansOrdered.answers {id : Nat} {name : String × String} {op : ServerOp}
    {answer : op.Answer} (ordered : self.ScansOrdered)
    (answers : self.Answers MayFail id name op answer after) : after.ScansOrdered := by
  cases op with
  | storage op =>
      rcases answers with ⟨stores, _, rfl⟩
      exact ordered
  | readBasins basinName =>
      rcases answers with ⟨_, rfl⟩
      cases answer <;> exact ordered
  | spawn stream =>
      rcases answers with ⟨_, rfl⟩
      intro actor member
      rcases List.mem_append.mp member with earlier | new
      · exact ordered actor earlier
      · cases List.mem_singleton.mp new
        trivial
  | send handle command =>
      cases answer with
      | none =>
          rcases answers with ⟨_, rfl⟩
          exact ordered
      | some replyRx =>
          rcases answers with ⟨actor, present, _, _, _, rfl⟩
          exact ordered.set handle.tx (ordered actor (List.mem_of_getElem? present))
  | receive kind replyRx =>
      cases answer with
      | none =>
          rcases answers with ⟨_, _, rfl⟩
          exact ordered
      | some value =>
          rcases answers with ⟨_, rfl⟩
          exact ordered
  | recv receiver =>
      rcases answers with ⟨_, _, _, rfl⟩
      exact ordered
  | insertBasin | unlockBasinInit | insertStream | unlockStreamInit | spawnFollower | txSend =>
      rcases answers with rfl
      exact ordered
  | lockBasinInit | newBasinHandle | readStreams | lockStreamInit =>
      rcases answers with ⟨_, rfl⟩
      exact ordered

theorem ScansOrdered.starts {call : ServerCall} {code : Program server ServerResult}
    (ordered : self.ScansOrdered) (starts : self.Starts call code after) :
    code.Only ServerOp.Ordered ∧ after.ScansOrdered := by
  cases starts with
  | request => exact ⟨call.ordered_code, ordered⟩
  | follower => exact ⟨ServerCall.ordered_code _, ordered⟩

theorem Starts.stores_eq {call : ServerCall} {code : Program server ServerResult}
    (starts : self.Starts call code after) : after.stores = self.stores := by
  cases starts <;> rfl

/-- A call that is not to a store leaves the stores as they are. -/
theorem Answers.stores_eq {id : Nat} {name : String × String} {op : ServerOp}
    {answer : op.Answer} (elsewhere : ∀ call, op ≠ .storage call)
    (answers : self.Answers MayFail id name op answer after) : after.stores = self.stores := by
  cases op with
  | storage op => exact absurd rfl (elsewhere op)
  | readBasins basinName =>
      rcases answers with ⟨_, rfl⟩
      cases answer <;> rfl
  | send handle command =>
      cases answer with
      | none =>
          rcases answers with ⟨_, rfl⟩
          rfl
      | some replyRx =>
          rcases answers with ⟨actor, _, _, _, _, rfl⟩
          rfl
  | receive kind replyRx =>
      cases answer with
      | none =>
          rcases answers with ⟨_, _, rfl⟩
          rfl
      | some value =>
          rcases answers with ⟨_, rfl⟩
          rfl
  | recv receiver =>
      rcases answers with ⟨_, _, _, rfl⟩
      rfl
  | insertBasin | unlockBasinInit | insertStream | unlockStreamInit | spawnFollower | txSend =>
      rcases answers with rfl
      rfl
  | lockBasinInit | newBasinHandle | readStreams | lockStreamInit | spawn =>
      rcases answers with ⟨_, rfl⟩
      rfl

end SharedServer

namespace MemoryServer

/-- The server in memory stands where the other one does. -/
structure Alike (left : MemoryServer) (right : SharedServer) : Prop where
  same : left.shared = right
  counts : left.memory.Counts
  ordered : right.ScansOrdered

theorem answers_elsewhere {id : Nat} {name : String × String} {self after : MemoryServer}
    {op : ServerOp} {answer : op.Answer} (elsewhere : ∀ call, op ≠ .storage call) :
    self.Answers id name op answer after ↔
      self.shared.Answers NeverFails id name op answer after.shared ∧
        after.memory = self.memory := by
  cases op with
  | storage op => exact absurd rfl (elsewhere op)
  | _ => exact .rfl

theorem Alike.answers {id : Nat} {name : String × String} {self after : MemoryServer}
    {right : SharedServer} {op : ServerOp} {answer : op.Answer} (alike : self.Alike right)
    (ordered : op.Ordered) (answers : self.Answers id name op answer after) :
    right.Answers NeverFails id name op answer after.shared ∧ after.Alike after.shared := by
  rcases alike with ⟨rfl, counts, scans⟩
  by_cases elsewhere : ∀ call, op ≠ .storage call
  · rcases (answers_elsewhere elsewhere).mp answers with ⟨answers, same⟩
    exact ⟨answers, rfl, same ▸ counts, scans.answers answers⟩
  · obtain ⟨call, rfl⟩ : ∃ call, op = .storage call := by simpa using elsewhere
    rcases answers with ⟨answers, same⟩
    rcases answers.answers counts ordered with ⟨answers, counts⟩
    have answered : self.shared.Answers NeverFails id name (.storage call) answer after.shared := by
      refine ⟨_, ?_, same⟩
      rw [self.mirrors]
      exact answers
    exact ⟨answered, rfl, counts, scans.answers answered⟩

theorem Alike.moves {self after : MemoryServer} {right : SharedServer} (alike : self.Alike right)
    (moves : self.Moves after) : right.Moves NeverFails after.shared ∧ after.Alike after.shared := by
  rcases alike with ⟨rfl, counts, scans⟩
  rcases after with ⟨memory, shared, mirrors⟩
  cases moves with
  | storage present calls answers same =>
      rename_i tx actor op answer next
      replace same : shared = { self.shared with
          stores := memory.view
          actors := self.shared.actors.set tx { actor with code := next answer } } := same
      subst same
      have only := scans _ (List.mem_of_getElem? present)
      have allowed := only
      rw [calls] at allowed
      rcases answers.answers counts allowed.1 with ⟨answers, counts⟩
      rw [← self.mirrors] at answers
      have taken : ActorStep NeverFails self.shared.stores actor .silent memory.view
          { actor with code := next answer } := .storage calls answers
      exact ⟨.actor present taken, rfl, counts, scans.set _ (taken.ordered only)⟩
  | other present calls taken kept same =>
      rcases same with rfl
      rcases kept with rfl
      have only := scans _ (List.mem_of_getElem? present)
      exact ⟨.actor present taken, rfl, counts, scans.set _ (taken.ordered only)⟩

/-- A server in memory does nothing that a server on stores that never fail does not. -/
theorem simulates (MayDrop : ServerOp → Prop) :
    (environment MayDrop).Simulates (SharedServer.environment NeverFails MayDrop False) Alike
      ServerOp.Ordered (fun _ => True) where
  answers alike ordered _ answers := by
    rcases alike.answers ordered answers with ⟨answers, alike⟩
    exact ⟨_, answers, alike⟩
  starts alike starts := by
    rcases alike with ⟨rfl, counts, scans⟩
    rcases starts with ⟨starts, same⟩
    rcases scans.starts starts with ⟨only, scans⟩
    exact ⟨only, _, starts, rfl, same ▸ counts, scans⟩
  release id {left right} alike := by
    rcases alike with ⟨rfl, counts, scans⟩
    exact ⟨rfl, counts, scans⟩
  resume := rfl
  resumes resumes := ServerCall.ordered_resume resumes
  droppable {code} droppable := by cases code <;> exact droppable
  moves alike _ moves := by
    rcases alike.moves moves with ⟨moves, alike⟩
    exact ⟨_, moves, alike⟩
  resets _ resets := resets.elim

/-! ### The other way round -/

/-- The stores can count the batches there are. -/
def Countable (shared : SharedServer) : Prop := shared.stores.journal.length < 2 ^ 64

variable {self : MemoryServer} {right after : SharedServer}

theorem Alike.answered {id : Nat} {name : String × String} {op : ServerOp} {answer : op.Answer}
    (alike : self.Alike right) (ordered : op.Ordered) (room : Countable after)
    (answers : right.Answers NeverFails id name op answer after) :
    ∃ next, self.Answers id name op answer next ∧ next.Alike after := by
  have scans := alike.ordered.answers answers
  rcases alike with ⟨rfl, counts, _⟩
  by_cases elsewhere : ∀ call, op ≠ .storage call
  · refine ⟨⟨self.memory, after, (answers.stores_eq elsewhere).trans self.mirrors⟩, ?_, rfl, counts,
      scans⟩
    exact (answers_elsewhere elsewhere).mpr ⟨answers, rfl⟩
  · obtain ⟨call, rfl⟩ : ∃ call, op = .storage call := by simpa using elsewhere
    rcases answers with ⟨stores, answers, rfl⟩
    rw [self.mirrors] at answers
    rcases answers.inMemory counts ordered room with ⟨memory, answered, rfl, counts⟩
    exact ⟨⟨memory, _, rfl⟩, ⟨answered, rfl⟩, rfl, counts, scans⟩

theorem Alike.moved (alike : self.Alike right) (room : Countable after)
    (moves : right.Moves NeverFails after) : ∃ next, self.Moves next ∧ next.Alike after := by
  rcases alike with ⟨rfl, counts, scans⟩
  cases moves with
  | actor present taken =>
      rename_i tx actor next effect stores
      have only := scans _ (List.mem_of_getElem? present)
      have scans := scans.set tx (taken.ordered only)
      let after : SharedServer :=
        { self.shared with
          stores
          actors := self.shared.actors.set tx next
          replies := effect.deliver self.shared.replies }
      have elsewhere (calls : ∀ op next, actor.code ≠ .call (S := streamActor) (.storage op) next)
          (same : stores = self.shared.stores) : ∃ moved, self.Moves moved ∧ moved.Alike after := by
        subst same
        exact ⟨⟨self.memory, after, self.mirrors⟩, .other present calls taken rfl rfl, rfl, counts,
          scans⟩
      cases taken with
      | storage calls answers =>
          rw [calls] at only
          rw [self.mirrors] at answers
          rcases answers.inMemory counts only.1 room with ⟨memory, answered, rfl, counts⟩
          exact ⟨⟨memory, _, rfl⟩, .storage present calls answered rfl, rfl, counts, scans⟩
      | recv waits =>
          refine elsewhere ?_ rfl
          intro op next calls
          cases waits.symm.trans calls
      | broadcast calling =>
          refine elsewhere ?_ rfl
          intro op next calls
          cases calling.symm.trans calls
      | subscribe calling =>
          refine elsewhere ?_ rfl
          intro op next calls
          cases calling.symm.trans calls
      | reply calling =>
          refine elsewhere ?_ rfl
          intro op next calls
          cases calling.symm.trans calls

/-- A server on stores that never fail does nothing that a server in memory cannot. -/
theorem simulated (MayDrop : ServerOp → Prop) :
    (SharedServer.environment NeverFails MayDrop False).Simulates (environment MayDrop)
      (fun right left => left.Alike right) ServerOp.Ordered Countable where
  answers alike ordered room answers := alike.answered ordered room answers
  starts {_ _ left _ right} alike starts := by
    rcases alike with ⟨rfl, counts, scans⟩
    rcases scans.starts starts with ⟨only, scans⟩
    have same := starts.stores_eq
    exact ⟨only, ⟨right.memory, _, same.trans right.mirrors⟩, ⟨starts, rfl⟩, rfl, counts, scans⟩
  release id {left right} alike := by
    rcases alike with ⟨rfl, counts, scans⟩
    exact ⟨rfl, counts, scans⟩
  resume := rfl
  resumes resumes := ServerCall.ordered_resume resumes
  droppable {code} droppable := by cases code <;> exact droppable
  moves alike room moves := alike.moved room moves
  resets _ resets := resets.1.elim

end MemoryServer

/-! ### Runs -/

section Journal

variable {MayFail : StorageOp → Prop} {MayDrop : ServerOp → Prop} {MayRestart : Prop}

theorem StorageOp.Answers.journal_le {stores after : Stores} {op : StorageOp} {answer : op.Answer}
    (answers : op.Answers MayFail stores answer after) :
    stores.journal.length ≤ after.journal.length := by
  cases op with
  | apply store batch =>
      rcases answer with error | ⟨⟩
      · exact answers.2 ▸ Nat.le_refl _
      · rcases answers with rfl
        cases store <;> simp [Stores.write]
  | newV4 => exact answers.2 ▸ Nat.le_refl _
  | get | scanIter | next => cases answer <;> exact answers.2 ▸ Nat.le_refl _

/-- A batch that has been written stays in the journal. -/
theorem ServerPool.journal_le {pool after : ServerPool} {event : ServerEvent}
    (taken : Pool.Step (SharedServer.environment MayFail MayDrop MayRestart) pool event after) :
    pool.shared.stores.journal.length ≤ after.shared.stores.journal.length := by
  cases taken with
  | started absent starts => exact starts.stores_eq ▸ Nat.le_refl _
  | called running answers =>
      rename_i id call op answer next server
      by_cases elsewhere : ∀ call, op ≠ .storage call
      · exact SharedServer.Answers.stores_eq elsewhere answers ▸ Nat.le_refl _
      · obtain ⟨call, rfl⟩ : ∃ call, op = .storage call := by simpa using elsewhere
        rcases answers with ⟨stores, answers, rfl⟩
        exact answers.journal_le
  | turned | returned | dropped => exact Nat.le_refl _
  | moved moves =>
      cases moves with
      | actor present taken =>
          cases taken with
          | storage calls answers => exact answers.journal_le
          | _ => exact Nat.le_refl _
  | reset resets =>
      rcases resets with ⟨_, rfl⟩
      exact Nat.le_refl _

end Journal

namespace MemoryPool

variable {MayDrop : ServerOp → Prop}

theorem related_start :
    Pool.Related MemoryServer.Alike ServerOp.Ordered start (ServerPool.start .opened) where
  shared := ⟨rfl, MemoryStores.counts_new, fun _ member => absurd member List.not_mem_nil⟩
  tasks := rfl
  asks found := nomatch found

theorem calm {pool : MemoryPool} {right : ServerPool}
    (related : Pool.Related MemoryServer.Alike ServerOp.Ordered pool right)
    (room : pool.shared.memory.journal.length + 1 < 2 ^ 64) : pool.Calm where
  tasks running := by
    have only := related.asks running
    exact StorageOp.panics_eq_false related.shared.counts only.1 room
  actors member calls := by
    have only := related.shared.ordered _ (related.shared.same ▸ member)
    rw [calls] at only
    exact StorageOp.panics_eq_false related.shared.counts only.1 room

/-- A server on two stores in memory makes the runs that a server makes on empty stores that
never fail. No call of it panics while the stores can count one more batch, and what the
other server does, it can do while they can count the batches. -/
theorem same_runs (events : List ServerEvent) :
    (∀ pool : MemoryPool,
      Run (Pool.Step (MemoryServer.environment MayDrop)) start events pool →
        Run (Pool.Step (SharedServer.environment NeverFails MayDrop False)) (ServerPool.start .opened)
          events pool.view ∧
        (pool.shared.memory.journal.length + 1 < 2 ^ 64 → pool.Calm)) ∧
      ∀ pool : ServerPool,
        Run (Pool.Step (SharedServer.environment NeverFails MayDrop False)) (ServerPool.start .opened)
          events pool → pool.shared.stores.journal.length < 2 ^ 64 →
        ∃ memory : MemoryPool,
          Run (Pool.Step (MemoryServer.environment MayDrop)) start events memory ∧
            memory.view = pool := by
  constructor
  · intro pool run
    rcases related_start.run (MemoryServer.simulates MayDrop) (fun _ _ => trivial) run trivial with
      ⟨right, run, related⟩
    have same : pool.view = right := by
      rcases right with ⟨shared, tasks⟩
      cases related.shared.same
      cases related.tasks
      rfl
    exact ⟨same ▸ run, calm related⟩
  · intro pool run room
    have related : Pool.Related (fun right left => MemoryServer.Alike left right)
        ServerOp.Ordered (ServerPool.start .opened) start :=
      ⟨related_start.shared, rfl, fun found => nomatch found⟩
    rcases related.run (MemoryServer.simulated MayDrop)
      (fun taken room => Nat.lt_of_le_of_lt (ServerPool.journal_le taken) room) run room with
      ⟨memory, run, related⟩
    refine ⟨memory, run, ?_⟩
    rcases pool with ⟨shared, tasks⟩
    cases related.shared.same
    cases related.tasks
    rfl

/-- The id of a new basin is written. -/
theorem same_runs_created :
    ∃ (events : List ServerEvent) (pool : MemoryPool),
      Run (Pool.Step (MemoryServer.environment fun _ => False)) start events pool ∧
      pool.shared.memory.journal = [(.metaStorage, [Basin.metadataRecord "orders" 1])] ∧
      pool.Calm := by
  let origin : ServerCall := .append "orders" "events" [97]
  let Reaches : ServerPool → Prop := fun pool => ∃ events,
    Run (Pool.Step (SharedServer.environment NeverFails (fun _ => False) False))
      (ServerPool.start .opened) events pool
  have call {pool : ServerPool} {after : SharedServer} (op : ServerOp) (answer : op.Answer)
      {next : op.Answer → Program server ServerResult} (reaches : Reaches pool)
      (running : pool.tasks 0 = some ⟨origin, .call op next⟩)
      (answers : pool.shared.Answers NeverFails 0 origin.name op answer after) :
      Reaches (pool.set 0 after (some ⟨origin, next answer⟩)) := by
    rcases reaches with ⟨events, run⟩
    exact ⟨_, run.snoc (.called running answers)⟩
  have appending : Reaches _ :=
    ⟨_, .single (@Pool.Step.started _ _ _ _ _ _ 0 origin _ _ rfl (.request rfl))⟩
  have read := call (.readBasins "orders") none appending rfl ⟨rfl, rfl⟩
  have locked := call .lockBasinInit () read rfl ⟨rfl, rfl⟩
  have missed := call (.readBasins "orders") none locked rfl ⟨rfl, rfl⟩
  have loaded := call (.storage (.get .metaStorage (Basin.constructMetadataKey "orders")))
    (.ok none) missed rfl ⟨_, ⟨rfl, rfl⟩, rfl⟩
  have drawn := call (.storage .newV4) (1 : U128) loaded rfl ⟨_, ⟨List.not_mem_nil, rfl⟩, rfl⟩
  have written := call (.storage (.apply .metaStorage [Basin.metadataRecord "orders" 1]))
    (.ok ()) drawn rfl ⟨_, rfl, rfl⟩
  rcases written with ⟨events, run⟩
  rcases (same_runs events).2 _ run (by decide) with ⟨memory, run, same⟩
  have journal : memory.shared.memory.journal = [(.metaStorage, [Basin.metadataRecord "orders" 1])] :=
    (congrArg Stores.journal memory.shared.mirrors).symm.trans
      (congrArg (fun pool : ServerPool => pool.shared.stores.journal) same)
  exact ⟨events, memory, run, journal, ((same_runs events).1 memory run).2 (journal ▸ by decide)⟩

end MemoryPool

end Slatestreams
