import Slatestreams.LedgerRefinement

/-! # Readers catch up

A reader that has been accepted receives the records of its stream from its start
on, whatever else the server does until it restarts. As long as not more records
are appended than the broadcast holds, rounds of its task and its client bring it
to the end of the log. -/

namespace Slatestreams

open Foundation

/-! ## Records by their numbers -/

namespace StreamLog

variable {log : StreamLog}

theorem number_record {entry : Nat × Bytes} (small : entry.1 < 2 ^ 64) :
    (record entry).number = entry.1 := by
  simp only [record, Record.number]
  exact Nat.mod_eq_of_lt small

theorem ascending_records (small : log.tail ≤ 2 ^ 64) :
    NumberedLog.Ascending Record.number log.records := by
  apply List.pairwise_map.mpr
  apply log.ascending.imp_of_mem
  intro left right leftMember rightMember less
  rw [number_record (Nat.lt_of_lt_of_le (log.below left leftMember) small),
    number_record (Nat.lt_of_lt_of_le (log.below right rightMember) small)]
  exact less

theorem number_lt_tail (small : log.tail ≤ 2 ^ 64) :
    ∀ record ∈ log.records, record.number < log.tail := by
  intro record member
  rcases List.mem_map.mp member with ⟨entry, entered, rfl⟩
  have below := log.below entry entered
  rw [number_record (Nat.lt_of_lt_of_le below small)]
  exact below

/-- The record of a number is the item of the number. -/
theorem entry_records (small : log.tail ≤ 2 ^ 64) (n : UInt64) :
    NumberedLog.entry Record.number log.records n.toNat =
      (log.item n.toNat).map fun data => ⟨n, data⟩ := by
  unfold ReservedLog.item
  cases found : NumberedLog.entry Prod.fst log.entries n.toNat with
  | none =>
      apply NumberedLog.entry_eq_none
      intro record member
      rcases List.mem_map.mp member with ⟨entry, entered, rfl⟩
      rw [number_record (Nat.lt_of_lt_of_le (log.below entry entered) small)]
      intro same
      have present := log.ascending.entry_of_mem entered
      rw [same, found] at present
      cases present
  | some entry =>
      rcases NumberedLog.entry_eq_some found with ⟨entered, same⟩
      have number := number_record (Nat.lt_of_lt_of_le (log.below entry entered) small)
      have present := (ascending_records small).entry_of_mem
        (List.mem_map.mpr ⟨entry, entered, rfl⟩)
      rw [number, same] at present
      rw [present, record, same, UInt64.ofNat_toNat]
      rfl

theorem records_append (data : Bytes) :
    (log.append data).records = log.records ++ [record (log.tail, data)] := by
  simp [append, records]

end StreamLog

/-- A read finds the record of the number, if there is one. -/
theorem NamedStream.Logs.readValue_eq {stream : NamedStream} {stored : StoredStream}
    {process : Process} {allocator : SequenceAllocator} {log : StreamLog}
    (logs : stream.Logs stored process allocator log) (small : log.tail ≤ 2 ^ 64) (n : UInt64) :
    readValue (stored.records n) =
      .ok (NumberedLog.entry Record.number log.records n.toNat) := by
  rw [StreamLog.entry_records small, logs.records]
  cases log.item n.toNat with
  | none => rfl
  | some data => simp [readValue, Stream.readResult, Record.deserialise_serialise]

/-! ## Where a reader stands -/

namespace ReadSession

/-- The records before the subscription from the start on, then the broadcasts up to a
position. -/
def upTo (self : ReadSession) (records sent : List Record) (start position : Nat) :
    List Record :=
  NumberedLog.between Record.number records start self.nextSeqNum.toNat ++
    (sent.take position).drop self.subscribed

/-- What the task has put into its channel so far, by where it stands. -/
def Puts (self : ReadSession) (records sent : List Record) (start : Nat)
    (items : List (Except ControllerError Record)) : ReadingPhase → Prop
  | .asking seqNum count =>
      start ≤ seqNum.toNat ∧ seqNum.toNat + count + 1 = self.nextSeqNum.toNat ∧
        items = (NumberedLog.between Record.number records start seqNum.toNat).map .ok
  | .fetching seqNum count reply =>
      start ≤ seqNum.toNat ∧ seqNum.toNat + count + 1 = self.nextSeqNum.toNat ∧
        items = (NumberedLog.between Record.number records start seqNum.toNat).map .ok ∧
        reply = .ok (NumberedLog.entry Record.number records seqNum.toNat)
  | .sending seqNum count record =>
      start ≤ seqNum.toNat ∧ seqNum.toNat + count + 1 = self.nextSeqNum.toNat ∧
        items = (NumberedLog.between Record.number records start seqNum.toNat).map .ok ∧
        NumberedLog.entry Record.number records seqNum.toNat = some record
  | .turning position | .receiving position =>
      self.subscribed ≤ position ∧ position ≤ sent.length ∧
        items = (self.upTo records sent start position).map .ok
  | .forwarding position record =>
      ∃ earlier, position = earlier + 1 ∧ self.subscribed ≤ earlier ∧
        sent[earlier]? = some record ∧ items = (self.upTo records sent start earlier).map .ok
  | .failing error =>
      error = .readerLagged ∧ ∃ position, self.subscribed ≤ position ∧
        position + STREAM_BROADCAST_BUFFER < sent.length ∧
        items = (self.upTo records sent start position).map .ok
  | .ended =>
      ∃ position, self.subscribed ≤ position ∧
        position + STREAM_BROADCAST_BUFFER < sent.length ∧
        items = (self.upTo records sent start position).map .ok ++ [.error .readerLagged]

/-- A reader that was accepted where the log had come to `joined`, and has been given what
its client has taken and what is in the channel. -/
structure Stands (reading : ReadSession) (records sent : List Record) (start joined : Nat)
    (taken : List (Except ControllerError Record)) : Prop where
  joins : reading.nextSeqNum.toNat = joined
  start_le : start ≤ joined
  subscribed_le : reading.subscribed ≤ sent.length
  live : sent.drop reading.subscribed = NumberedLog.since Record.number records joined
  puts : reading.Puts records sent start (taken ++ reading.channel) reading.phase

variable {reading : ReadSession} {records sent : List Record} {start joined : Nat}
  {taken items : List (Except ControllerError Record)}

theorem upTo_succ {position : Nat} {record : Record} (le : reading.subscribed ≤ position)
    (found : sent[position]? = some record) :
    reading.upTo records sent start (position + 1) =
      reading.upTo records sent start position ++ [record] := by
  have inside : position < sent.length := (List.getElem?_eq_some_iff.mp found).1
  have length : reading.subscribed ≤ (sent.take position).length := by
    rw [List.length_take]
    omega
  simp only [upTo, List.take_add_one, found, Option.toList_some]
  rw [List.drop_append_of_le_length length, List.append_assoc]

/-- At its subscription the reader has had the records before it. -/
theorem upTo_subscribed :
    reading.upTo records sent start reading.subscribed =
      NumberedLog.between Record.number records start reading.nextSeqNum.toNat := by
  have none_ : (sent.take reading.subscribed).drop reading.subscribed = [] :=
    List.drop_eq_nil_of_le (List.length_take_le _ _)
  rw [upTo, none_, List.append_nil]

/-- The head of the loop over the numbers before the subscription. -/
theorem puts_backfilling {seqNum : UInt64} {count : Nat} (subscribed : reading.subscribed ≤ sent.length)
    (start_le : start ≤ seqNum.toNat)
    (ahead : seqNum.toNat + count = reading.nextSeqNum.toNat)
    (had : items = (NumberedLog.between Record.number records start seqNum.toNat).map .ok) :
    reading.Puts records sent start items (reading.backfilling seqNum count) := by
  cases count with
  | zero =>
      refine ⟨Nat.le_refl _, subscribed, ?_⟩
      rw [had, upTo_subscribed, ← ahead]
      rfl
  | succ count => exact ⟨start_le, ahead, had⟩

theorem stands_start {startSeqNum nextSeqNum : UInt64} {subscribed : Nat}
    (start_le : startSeqNum.toNat ≤ nextSeqNum.toNat) (subscribed_le : subscribed ≤ sent.length)
    (live : sent.drop subscribed =
      NumberedLog.since Record.number records nextSeqNum.toNat) :
    (ReadSession.start startSeqNum nextSeqNum subscribed).Stands records sent startSeqNum.toNat
      nextSeqNum.toNat [] where
  joins := rfl
  start_le := start_le
  subscribed_le := subscribed_le
  live := live
  puts := by
    have nothing : ([] : List (Except ControllerError Record)) =
        (NumberedLog.between Record.number records startSeqNum.toNat startSeqNum.toNat).map .ok := by
      rw [NumberedLog.between_self]
      rfl
    let opened : ReadSession := ⟨nextSeqNum, subscribed, .ended, []⟩
    have within : opened.subscribed ≤ sent.length := subscribed_le
    exact puts_backfilling within (Nat.le_refl _) (Nat.add_sub_cancel' start_le) nothing

namespace Stands

variable {process : Process} {read : UInt64 → Except StreamError (Option Record)}

/-- A record that is added comes after all that the reader was accepted before. -/
theorem append {record : Record} (stands : reading.Stands records sent start joined taken)
    (above : joined ≤ record.number) :
    reading.Stands (records ++ [record]) (sent ++ [record]) start joined taken := by
  have joins := stands.joins
  have below {stop : Nat} (le : stop ≤ joined) :
      NumberedLog.between Record.number (records ++ [record]) start stop =
        NumberedLog.between Record.number records start stop := by
    have none_ : NumberedLog.between Record.number [record] start stop = [] := by
      apply NumberedLog.between_eq_nil
      intro item member
      rw [List.mem_singleton.mp member]
      exact Nat.le_trans le above
    rw [NumberedLog.between_append, none_, List.append_nil]
  have found {n : Nat} (less : n < joined) :
      NumberedLog.entry Record.number (records ++ [record]) n =
        NumberedLog.entry Record.number records n :=
    NumberedLog.entry_snoc_of_ne (by omega)
  have upTo {position : Nat} (le : position ≤ sent.length) :
      reading.upTo (records ++ [record]) (sent ++ [record]) start position =
        reading.upTo records sent start position := by
    rw [ReadSession.upTo, ReadSession.upTo, below (by omega),
      List.take_append_of_le_length le]
  have longer : (sent ++ [record]).length = sent.length + 1 := List.length_append
  refine ⟨joins, stands.start_le, ?_, ?_, ?_⟩
  · have := stands.subscribed_le
    omega
  · have one : NumberedLog.since Record.number [record] joined = [record] :=
      NumberedLog.since_eq_self fun item member => by
        rw [List.mem_singleton.mp member]
        exact above
    rw [List.drop_append_of_le_length stands.subscribed_le, stands.live,
      NumberedLog.since_append, one]
  · have puts := stands.puts
    cases phase : reading.phase with
    | asking seqNum count =>
        rw [phase] at puts
        rcases puts with ⟨from_, ahead, had⟩
        exact ⟨from_, ahead, by rw [below (by omega), had]⟩
    | fetching seqNum count reply =>
        rw [phase] at puts
        rcases puts with ⟨from_, ahead, had, replied⟩
        exact ⟨from_, ahead, by rw [below (by omega), had], by rw [found (by omega), replied]⟩
    | sending seqNum count item =>
        rw [phase] at puts
        rcases puts with ⟨from_, ahead, had, entry⟩
        exact ⟨from_, ahead, by rw [below (by omega), had], by rw [found (by omega), entry]⟩
    | turning position =>
        rw [phase] at puts
        rcases puts with ⟨le, inside, had⟩
        exact ⟨le, by omega, by rw [upTo inside, had]⟩
    | receiving position =>
        rw [phase] at puts
        rcases puts with ⟨le, inside, had⟩
        exact ⟨le, by omega, by rw [upTo inside, had]⟩
    | forwarding position item =>
        rw [phase] at puts
        rcases puts with ⟨earlier, rfl, le, forwarded, had⟩
        have inside : earlier < sent.length := (List.getElem?_eq_some_iff.mp forwarded).1
        exact ⟨earlier, rfl, le, by rw [List.getElem?_append_left inside, forwarded],
          by rw [upTo (Nat.le_of_lt inside), had]⟩
    | failing error =>
        rw [phase] at puts
        rcases puts with ⟨lagged, position, le, behind, had⟩
        exact ⟨lagged, position, le, by omega, by rw [upTo (by omega), had]⟩
    | ended =>
        rw [phase] at puts
        rcases puts with ⟨position, le, behind, had⟩
        exact ⟨position, le, by omega, by rw [upTo (by omega), had]⟩

/-- A broadcast that the reader has not had yet comes after all that it was accepted before. -/
theorem joined_le {position : Nat} {record : Record}
    (stands : reading.Stands records sent start joined taken)
    (le : reading.subscribed ≤ position) (found : sent[position]? = some record) :
    joined ≤ record.number := by
  have member : record ∈ sent.drop reading.subscribed := by
    apply List.mem_of_getElem? (i := position - reading.subscribed)
    rw [List.getElem?_drop, Nat.add_sub_cancel' le]
    exact found
  rw [stands.live] at member
  exact (NumberedLog.mem_since.mp member).2

/-- The task goes on to another phase, and puts nothing into its channel. -/
theorem moved (stands : reading.Stands records sent start joined taken) {phase : ReadingPhase}
    (puts : reading.Puts records sent start (taken ++ reading.channel) phase) :
    Stands { reading with phase } records sent start joined taken where
  joins := stands.joins
  start_le := stands.start_le
  subscribed_le := stands.subscribed_le
  live := stands.live
  puts := by
    cases phase <;> exact puts

/-- Once the channel has room, the task puts its item there and goes on. -/
theorem sent_item (stands : reading.Stands records sent start joined taken)
    {item : Except ControllerError Record} {phase : ReadingPhase}
    (puts : reading.Puts records sent start (taken ++ reading.channel ++ [item]) phase) :
    (reading.send item phase).Stands records sent start joined taken := by
  unfold send
  split
  · have grown : Stands { reading with phase, channel := reading.channel ++ [item] } records sent
        start joined taken := by
      refine ⟨stands.joins, stands.start_le, stands.subscribed_le, stands.live, ?_⟩
      rw [← List.append_assoc]
      cases phase <;> exact puts
    exact grown
  · exact stands

theorem advance (stands : reading.Stands records process.sent start joined taken)
    (ascending : NumberedLog.Ascending Record.number records)
    (reads : ∀ n, read n = .ok (NumberedLog.entry Record.number records n.toNat))
    (alive : process.allocator.isSome) :
    (reading.advance read process).Stands records process.sent start joined taken := by
  have puts := stands.puts
  have below := reading.nextSeqNum.toNat_lt
  unfold ReadSession.advance
  cases phase : reading.phase with
  | asking seqNum count =>
      rw [phase] at puts
      rcases puts with ⟨from_, ahead, had⟩
      simp only [alive, if_true]
      exact stands.moved ⟨from_, ahead, had, reads seqNum⟩
  | fetching seqNum count reply =>
      rw [phase] at puts
      rcases puts with ⟨from_, ahead, had, rfl⟩
      have next : (seqNum + 1).toNat = seqNum.toNat + 1 := by
        rw [UInt64.toNat_add]
        exact Nat.mod_eq_of_lt (by
          change seqNum.toNat + 1 < 2 ^ 64
          omega)
      cases found : NumberedLog.entry Record.number records seqNum.toNat with
      | none =>
          apply stands.moved
          apply puts_backfilling stands.subscribed_le (by omega) (by omega)
          rw [had, next, ascending.between_succ from_, found, Option.toList_none, List.append_nil]
      | some record => exact stands.moved ⟨from_, ahead, had, found⟩
  | sending seqNum count record =>
      rw [phase] at puts
      rcases puts with ⟨from_, ahead, had, found⟩
      have next : (seqNum + 1).toNat = seqNum.toNat + 1 := by
        rw [UInt64.toNat_add]
        exact Nat.mod_eq_of_lt (by
          change seqNum.toNat + 1 < 2 ^ 64
          omega)
      apply stands.sent_item
      apply puts_backfilling stands.subscribed_le (by omega) (by omega)
      rw [had, next, ascending.between_succ from_, found, Option.toList_some, List.map_append,
        List.map_singleton]
  | turning position =>
      rw [phase] at puts
      exact stands.moved puts
  | receiving position =>
      rw [phase] at puts
      rcases puts with ⟨le, inside, had⟩
      by_cases behind : position + STREAM_BROADCAST_BUFFER < process.sent.length
      · simp only [Process.recv, if_pos behind]
        exact stands.moved ⟨rfl, position, le, behind, had⟩
      · simp only [Process.recv, if_neg behind]
        cases found : process.sent[position]? with
        | none =>
            simp only [alive, if_true]
            exact stands
        | some record =>
            have later : reading.nextSeqNum ≤ record.seqNum := by
              apply UInt64.le_iff_toNat_le.mpr
              rw [stands.joins]
              exact stands.joined_le le found
            simp only [if_pos later]
            exact stands.moved ⟨position, rfl, le, found, had⟩
  | forwarding position record =>
      rw [phase] at puts
      rcases puts with ⟨earlier, rfl, le, forwarded, had⟩
      have inside : earlier < process.sent.length := (List.getElem?_eq_some_iff.mp forwarded).1
      apply stands.sent_item
      refine ⟨Nat.le_succ_of_le le, inside, ?_⟩
      rw [had, upTo_succ le forwarded, List.map_append, List.map_singleton]
  | failing error =>
      rw [phase] at puts
      rcases puts with ⟨rfl, position, le, behind, had⟩
      apply stands.sent_item
      exact ⟨position, le, behind, by rw [had]⟩
  | ended => exact stands

/-- The client takes the first item of the channel. -/
theorem receive (stands : reading.Stands records sent start joined taken)
    {item : Except ControllerError Record} {channel : List (Except ControllerError Record)}
    (first : reading.channel = item :: channel) :
    Stands { reading with channel } records sent start joined (taken ++ [item]) := by
  refine ⟨stands.joins, stands.start_le, stands.subscribed_le, stands.live, ?_⟩
  have puts := stands.puts
  rw [first, ← List.singleton_append, ← List.append_assoc] at puts
  change reading.Puts records sent start (taken ++ [item] ++ channel) reading.phase
  exact puts

/-! ## What a reader has been given -/

/-- What the client has taken is the log from the start on, up to some record, and perhaps
that it has fallen behind. -/
theorem taken_eq (stands : reading.Stands records sent start joined taken)
    (ascending : NumberedLog.Ascending Record.number records) :
    ∃ had, had <+: NumberedLog.since Record.number records start ∧
      (taken = had.map .ok ∨
        taken = had.map .ok ++ [.error .readerLagged] ∧
          STREAM_BROADCAST_BUFFER < (NumberedLog.since Record.number records joined).length) := by
  have whole : NumberedLog.since Record.number records start =
      NumberedLog.between Record.number records start joined ++ sent.drop reading.subscribed := by
    rw [stands.live]
    exact ascending.since_split stands.start_le
  have unread : (NumberedLog.since Record.number records joined).length =
      sent.length - reading.subscribed := by
    rw [← stands.live, List.length_drop]
  have upTo (position : Nat) :
      reading.upTo records sent start position <+:
        NumberedLog.since Record.number records start := by
    rw [whole, ReadSession.upTo, stands.joins, List.drop_take]
    exact (List.prefix_append_right_inj _).mpr (List.take_prefix _ _)
  have between (stop : Nat) := ascending.between_isPrefix start stop
  have oks {given : List Record} {rest : List (Except ControllerError Record)}
      (inLog : given <+: NumberedLog.since Record.number records start)
      (all : taken ++ rest = given.map .ok) :
      ∃ had, had <+: NumberedLog.since Record.number records start ∧ taken = had.map .ok := by
    rcases List.append_eq_map_iff.mp all with ⟨had, others, rfl, kept, _⟩
    exact ⟨had, (List.prefix_append had others).trans inLog, kept.symm⟩
  have fine {given : List Record}
      (inLog : given <+: NumberedLog.since Record.number records start)
      (all : taken ++ reading.channel = given.map .ok) :
      ∃ had, had <+: NumberedLog.since Record.number records start ∧
        (taken = had.map .ok ∨
          taken = had.map .ok ++ [.error .readerLagged] ∧
            STREAM_BROADCAST_BUFFER <
              (NumberedLog.since Record.number records joined).length) := by
    rcases oks inLog all with ⟨had, isPrefix, kept⟩
    exact ⟨had, isPrefix, .inl kept⟩
  have puts := stands.puts
  cases phase : reading.phase with
  | asking seqNum count =>
      rw [phase] at puts
      exact fine (between _) puts.2.2
  | fetching seqNum count reply =>
      rw [phase] at puts
      exact fine (between _) puts.2.2.1
  | sending seqNum count record =>
      rw [phase] at puts
      exact fine (between _) puts.2.2.1
  | turning position =>
      rw [phase] at puts
      exact fine (upTo _) puts.2.2
  | receiving position =>
      rw [phase] at puts
      exact fine (upTo _) puts.2.2
  | forwarding position record =>
      rw [phase] at puts
      rcases puts with ⟨earlier, _, _, _, had⟩
      exact fine (upTo _) had
  | failing error =>
      rw [phase] at puts
      rcases puts with ⟨_, position, _, _, had⟩
      exact fine (upTo _) had
  | ended =>
      rw [phase] at puts
      rcases puts with ⟨position, le, behind, had⟩
      -- the client has taken all, or the error is still in the channel
      rcases List.eq_nil_or_concat reading.channel with empty | ⟨others, last, kept⟩
      · rw [empty, List.append_nil] at had
        exact ⟨_, upTo position, .inr ⟨had, by omega⟩⟩
      · rw [kept, List.concat_eq_append, ← List.append_assoc] at had
        rcases oks (upTo position) (List.append_inj_left' had rfl) with ⟨given, isPrefix, taken⟩
        exact ⟨given, isPrefix, .inl taken⟩

/-! ## Rounds -/

/-- At the end of the log with an empty channel, the client has had all of it. -/
theorem caught_up (stands : reading.Stands records sent start joined taken)
    (ascending : NumberedLog.Ascending Record.number records)
    (phase : reading.phase = .receiving sent.length) (empty : reading.channel = []) :
    taken = (NumberedLog.since Record.number records start).map .ok := by
  have puts := stands.puts
  rw [phase, empty, List.append_nil] at puts
  rcases puts with ⟨_, _, had⟩
  rw [had, upTo, stands.joins, List.take_length, stands.live, ← ascending.since_split stands.start_le]

end Stands

/-- The steps of the task up to the end of `length` broadcasts. -/
def rank (length : Nat) (self : ReadSession) : Nat :=
  match self.phase with
  | .asking _ count => 3 * (count + 1) + (3 * (length - self.subscribed) + 1)
  | .fetching _ count _ => 3 * count + 2 + (3 * (length - self.subscribed) + 1)
  | .sending _ count _ => 3 * count + 1 + (3 * (length - self.subscribed) + 1)
  | .turning position => 3 * (length - position) + 1
  | .receiving position => 3 * (length - position)
  | .forwarding position _ => 3 * (length - position) + 2
  | .failing _ | .ended => 0

/-- What rounds use up: each step of the task puts at most one item into the channel. -/
def effort (length : Nat) (self : ReadSession) : Nat := 2 * self.rank length + self.channel.length

theorem rank_backfilling (length count : Nat) (seqNum : UInt64)
    (channel : List (Except ControllerError Record)) :
    rank length { reading with phase := reading.backfilling seqNum count, channel } =
      3 * count + (3 * (length - reading.subscribed) + 1) := by
  cases count with
  | zero => exact (Nat.zero_add _).symm
  | succ count => rfl

/-- A send goes on, or waits because the channel is full. -/
theorem effort_send {length : Nat} {item : Except ControllerError Record} {phase : ReadingPhase}
    (less : rank length { reading with phase, channel := reading.channel ++ [item] } <
      reading.rank length) :
    (reading.send item phase).effort length < reading.effort length ∨
      (reading.send item phase).effort length = reading.effort length ∧
        (reading.send item phase).channel ≠ [] := by
  unfold send
  split
  · left
    simp only [effort, List.length_append, List.length_singleton]
    omega
  · rename_i full
    right
    refine ⟨rfl, ?_⟩
    intro empty
    rw [empty] at full
    exact full (by decide)

namespace Stands

variable {process : Process}

/-- The broadcasts after the subscription fit, so the reader does not fall behind. -/
theorem within (stands : reading.Stands records sent start joined taken)
    (room : (NumberedLog.since Record.number records joined).length ≤ STREAM_BROADCAST_BUFFER) :
    sent.length ≤ reading.subscribed + STREAM_BROADCAST_BUFFER := by
  rw [← stands.live, List.length_drop] at room
  omega

theorem effort_advance (read : UInt64 → Except StreamError (Option Record))
    (stands : reading.Stands records process.sent start joined taken)
    (room : (NumberedLog.since Record.number records joined).length ≤ STREAM_BROADCAST_BUFFER)
    (alive : process.allocator.isSome) :
    (reading.advance read process).effort process.sent.length <
        reading.effort process.sent.length ∨
      (reading.advance read process).effort process.sent.length =
          reading.effort process.sent.length ∧
        ((reading.advance read process).channel ≠ [] ∨
          reading.effort process.sent.length = 0) := by
  have puts := stands.puts
  have within := stands.within room
  unfold ReadSession.advance
  cases phase : reading.phase with
  | asking seqNum count =>
      left
      simp only [alive, if_true, effort, rank, phase]
      omega
  | fetching seqNum count reply =>
      rw [phase] at puts
      rcases puts with ⟨_, _, _, rfl⟩
      left
      cases NumberedLog.entry Record.number records seqNum.toNat with
      | none =>
          simp only [effort, rank_backfilling]
          simp only [rank, phase]
          omega
      | some record =>
          simp only [effort, rank, phase]
          omega
  | sending seqNum count record =>
      have less : rank process.sent.length
          { reading with
            phase := reading.backfilling (seqNum + 1) count
            channel := reading.channel ++ [.ok record] } <
          reading.rank process.sent.length := by
        rw [rank_backfilling]
        simp only [rank, phase]
        omega
      rcases effort_send less with less | ⟨same, full⟩
      · exact .inl less
      · exact .inr ⟨same, .inl full⟩
  | turning position =>
      left
      simp only [effort, rank, phase]
      omega
  | receiving position =>
      rw [phase] at puts
      rcases puts with ⟨le, inside, _⟩
      simp only [Process.recv,
        if_neg (show ¬position + STREAM_BROADCAST_BUFFER < process.sent.length by omega)]
      cases found : process.sent[position]? with
      | none =>
          simp only [alive, if_true]
          have past : process.sent.length ≤ position := List.getElem?_eq_none_iff.mp found
          by_cases empty : reading.channel = []
          · refine .inr ⟨trivial, .inr ?_⟩
            simp only [effort, rank, phase, empty, List.length_nil]
            omega
          · exact .inr ⟨trivial, .inl empty⟩
      | some record =>
          have before : position < process.sent.length := (List.getElem?_eq_some_iff.mp found).1
          left
          simp only
          split
          · simp only [effort, rank, phase]
            omega
          · simp only [effort, rank, phase]
            omega
  | forwarding position record =>
      have less : rank process.sent.length
          { reading with
            phase := .turning position
            channel := reading.channel ++ [.ok record] } <
          reading.rank process.sent.length := by
        simp only [rank, phase]
        omega
      rcases effort_send less with less | ⟨same, full⟩
      · exact .inl less
      · exact .inr ⟨same, .inl full⟩
  | failing error =>
      rw [phase] at puts
      rcases puts with ⟨_, position, le, behind, _⟩
      omega
  | ended =>
      rw [phase] at puts
      rcases puts with ⟨position, le, behind, _⟩
      omega

/-- When nothing is left to do, the client has had the log from its start on. -/
theorem taken_eq_since (stands : reading.Stands records sent start joined taken)
    (ascending : NumberedLog.Ascending Record.number records)
    (room : (NumberedLog.since Record.number records joined).length ≤ STREAM_BROADCAST_BUFFER)
    (done : reading.effort sent.length = 0) :
    taken = (NumberedLog.since Record.number records start).map .ok := by
  have puts := stands.puts
  have within := stands.within room
  have empty : reading.channel = [] := List.eq_nil_of_length_eq_zero (by
    simp only [effort] at done
    omega)
  have still : reading.rank sent.length = 0 := by
    simp only [effort] at done
    omega
  cases phase : reading.phase with
  | receiving position =>
      rw [phase] at puts
      rcases puts with ⟨_, inside, _⟩
      simp only [rank, phase] at still
      obtain rfl : position = sent.length := by omega
      exact stands.caught_up ascending phase empty
  | failing error =>
      rw [phase] at puts
      rcases puts with ⟨_, position, le, behind, _⟩
      omega
  | ended =>
      rw [phase] at puts
      rcases puts with ⟨position, le, behind, _⟩
      omega
  | _ =>
      simp only [rank, phase] at still
      omega

end Stands

end ReadSession

/-! ## One stream and one of its readers -/

/-- The reader stands in the log of the stream. -/
structure NamedStream.Follows (stream : NamedStream) (index : Nat) (stored : StoredStream)
    (process : Process) (allocator : SequenceAllocator) (reading : ReadSession) (log : StreamLog)
    (start joined : Nat) (taken : List (Except ControllerError Record)) : Prop where
  logs : stream.Logs stored process allocator log
  reads : stream.readings index = some reading
  stands : reading.Stands log.records process.sent start joined taken
  joined_le : joined ≤ log.tail

namespace NamedStream

variable {stream : NamedStream} {index : Nat} {stored : StoredStream} {process : Process}
  {allocator : SequenceAllocator} {reading : ReadSession} {log : StreamLog} {start joined : Nat}
  {taken : List (Except ControllerError Record)}

theorem readings_appendTo (data : Bytes) :
    (stream.appendTo stored data).2.readings = stream.readings := by
  unfold appendTo
  split <;> rfl

/-- A reader that starts at or below the tail joins at the tail. -/
theorem Logs.follow (logs : stream.Logs stored process allocator log) (index : Nat)
    (small : log.tail ≤ 2 ^ 64) {startSeqNum : UInt64} (reached : startSeqNum.toNat ≤ log.tail) :
    Follows
      { stream with
        readings := Function.update stream.readings index (some
          (.start startSeqNum allocator.nextSequenceNumber process.sent.length)) }
      index stored process allocator
      (.start startSeqNum allocator.nextSequenceNumber process.sent.length) log
      startSeqNum.toNat log.tail [] where
  logs := logs.of_eq rfl rfl
  reads := Function.update_self _ _ _
  stands := by
    rw [← logs.tail] at reached ⊢
    apply ReadSession.stands_start reached (Nat.le_refl _)
    rw [List.drop_length, logs.tail]
    exact (NumberedLog.since_eq_nil (StreamLog.number_lt_tail small)).symm
  joined_le := Nat.le_refl _

namespace Follows

theorem append
    (follows : stream.Follows index stored process allocator reading log start joined taken)
    (fits : log.reserved + DEFAULT_BLOCK_SIZE.toNat < 2 ^ 64) (data : Bytes) :
    ∃ kept process after, (stream.appendTo stored data).2.Follows index kept process after reading
      (log.append data) start joined taken := by
  have covered := log.covered
  have joined_le := follows.joined_le
  rcases follows.logs.appendTo fits data with ⟨_, kept, after, logs⟩
  refine ⟨kept, _, after, logs, ?_, ?_, Nat.le_succ_of_le joined_le⟩
  · rw [readings_appendTo]
    exact follows.reads
  · rw [StreamLog.records_append]
    apply follows.stands.append
    rw [StreamLog.number_record (show log.tail < 2 ^ 64 by omega)]
    exact joined_le

theorem advance
    (follows : stream.Follows index stored process allocator reading log start joined taken)
    (small : log.tail ≤ 2 ^ 64) :
    (stream.advance index).Follows index stored process allocator
      (reading.advance (fun n => readValue (stored.records n)) process) log start joined taken := by
  have logs := follows.logs
  have alive : process.allocator.isSome := by
    rw [logs.alive]
    rfl
  unfold NamedStream.advance
  rw [follows.reads, logs.known]
  simp only [logs.current]
  exact
    { logs := logs.of_eq logs.known.symm rfl
      reads := Function.update_self _ _ _
      stands := follows.stands.advance (StreamLog.ascending_records small)
        (logs.readValue_eq small) alive
      joined_le := follows.joined_le }

theorem receive
    (follows : stream.Follows index stored process allocator reading log start joined taken) :
    (stream.receive index).1 = .received reading.channel.head? ∧
      (stream.receive index).2.Follows index stored process allocator
        { reading with channel := reading.channel.tail } log start joined
        (taken ++ reading.channel.head?.toList) := by
  have reads := follows.reads
  rcases reading with ⟨nextSeqNum, subscribed, phase, channel⟩
  unfold NamedStream.receive
  rw [reads]
  cases channel with
  | nil => exact ⟨rfl, by simpa using follows⟩
  | cons item channel =>
      exact ⟨rfl,
        { logs := follows.logs.of_eq rfl rfl
          reads := Function.update_self _ _ _
          stands := follows.stands.receive rfl
          joined_le := follows.joined_le }⟩

/-- Other readers do not move it. -/
theorem other
    (follows : stream.Follows index stored process allocator reading log start joined taken)
    {after : NamedStream} (known : after.stored = stream.stored)
    (same : after.process = stream.process)
    (alone : after.readings index = stream.readings index) :
    after.Follows index stored process allocator reading log start joined taken :=
  { follows with
    logs := follows.logs.of_eq known same
    reads := alone.trans follows.reads }

end Follows

/-- What a step of one reader does with the others. -/
theorem readings_other {other : Nat} (different : index ≠ other) (name : String × String)
    (startSeqNum : UInt64) {after : NamedStream}
    (taken : after = (stream.readFollow name other startSeqNum).2 ∨
      after = stream.advance other ∨ after = (stream.receive other).2) :
    after.stored = stream.stored ∧ after.process = stream.process ∧
      after.readings index = stream.readings index := by
  rcases taken with rfl | rfl | rfl
  · unfold readFollow
    split
    · exact ⟨rfl, rfl, rfl⟩
    · exact ⟨rfl, rfl, rfl⟩
    · exact ⟨rfl, rfl, Function.update_of_ne different _ _⟩
  · unfold advance
    split
    · split
      · exact ⟨rfl, rfl, Function.update_of_ne different _ _⟩
      · exact ⟨rfl, rfl, rfl⟩
    · exact ⟨rfl, rfl, rfl⟩
  · unfold receive
    split
    · exact ⟨rfl, rfl, Function.update_of_ne different _ _⟩
    · exact ⟨rfl, rfl, rfl⟩

end NamedStream

/-! ## The server and one of its readers -/

/-- What ends a reader's session: a restart, or another request under its name. -/
def Operation.ends (reader : Reader) : Operation → Bool
  | .restart => true
  | .readFollow other _ => decide (other = reader)
  | _ => false

def Outcome.item : Outcome → Option (Except ControllerError Record)
  | .received item => item
  | _ => none

theorem Outcome.item_plain (outcome : Outcome) : outcome.plain.item = outcome.item := by
  cases outcome <;> rfl

/-- What an operation hands to the reader's client. -/
def delivery (reader : Reader) (entry : Operation × Outcome) :
    Option (Except ControllerError Record) :=
  match entry.1 with
  | .receive other => if other = reader then entry.2.item else none
  | _ => none

/-- What the reader's client is handed, in order. -/
def deliveries (reader : Reader) (transcript : List (Operation × Outcome)) :
    List (Except ControllerError Record) :=
  transcript.filterMap (delivery reader)

theorem deliveries_cons (reader : Reader) (entry : Operation × Outcome)
    (transcript : List (Operation × Outcome)) :
    deliveries reader (entry :: transcript) =
      (delivery reader entry).toList ++ deliveries reader transcript := by
  unfold deliveries
  cases found : delivery reader entry with
  | none => rw [List.filterMap_cons_none found, Option.toList_none, List.nil_append]
  | some item => rw [List.filterMap_cons_some found, Option.toList_some, List.singleton_append]

/-- Steps of the reader's task and of its client, in turn. -/
def Reader.rounds (self : Reader) (count : Nat) : List Operation :=
  (List.replicate count [.advance self, .receive self]).flatten

theorem Reader.rounds_succ (self : Reader) (count : Nat) :
    self.rounds (count + 1) = self.rounds 1 ++ self.rounds count := by
  simp [rounds, List.replicate_succ]

theorem Reader.delivers_rounds (self : Reader) (count : Nat) :
    ∀ operation ∈ self.rounds count, operation.delivers = true := by
  intro operation member
  rcases List.mem_flatten.mp member with ⟨round, rounds, within⟩
  rw [List.eq_of_mem_replicate rounds] at within
  rcases List.mem_cons.mp within with rfl | last
  · rfl
  · rw [List.mem_singleton.mp last]
    rfl

theorem Ledger.logs_perform_other (ledger : Ledger) {operation : Operation}
    {name : String × String} (apart : operation.concerns name = false) :
    (ledger.perform operation).2.logs name = ledger.logs name := by
  cases operation with
  | append basinName streamName data =>
      have different : name ≠ (basinName, streamName) := fun same =>
        of_decide_eq_false apart same.symm
      simp only [Ledger.perform]
      split
      · rfl
      · exact Function.update_of_ne different _ _
  | restart => cases apart
  | _ => rfl

namespace Service

variable {ids : Nat → U128} {limit count : Nat} {service : Service} {ledger : Ledger}
  {reader : Reader} {start joined : Nat} {taken : List (Except ControllerError Record)}

theorem Keeps.perform (keeps : Keeps ids limit (count + 1) service ledger)
    (bound : DEFAULT_BLOCK_SIZE.toNat * (limit + 2) < 2 ^ 64) (operation : Operation) :
    Keeps ids limit count (service.perform ids operation).2 (ledger.perform operation).2 := by
  cases delivers : operation.delivers with
  | false => exact ((keeps_simulates ids bound).kept keeps (by simp [delivers])).2
  | true =>
      have same : (ledger.perform operation).2 = ledger := by
        cases operation with
        | advance reader => rfl
        | receive reader => rfl
        | _ => cases delivers
      rw [same]
      exact (keeps_simulates ids bound).dropped keeps (by simp [delivers])

/-- The service holds the catalog, and the reader stands in the log of its stream. -/
def Follows (ids : Nat → U128) (limit count : Nat) (service : Service) (ledger : Ledger)
    (reader : Reader) (start joined : Nat) (taken : List (Except ControllerError Record)) : Prop :=
  Keeps ids limit count service ledger ∧ ∃ stored process allocator reading,
    (service.view reader.name).Follows reader.index stored process allocator reading
      (ledger.logs reader.name) start joined taken

theorem Follows.perform
    (follows : Follows ids limit (count + 1) service ledger reader start joined taken)
    (bound : DEFAULT_BLOCK_SIZE.toNat * (limit + 2) < 2 ^ 64) {operation : Operation}
    (stays : operation.ends reader = false) :
    Follows ids limit count (service.perform ids operation).2 (ledger.perform operation).2 reader
      start joined
      (taken ++ (delivery reader (operation, (service.perform ids operation).1)).toList) := by
  rcases follows with ⟨keeps, stored, process, allocator, reading, follows⟩
  refine ⟨keeps.perform bound operation, ?_⟩
  have fits := keeps.fits bound reader.name
  have covered := (ledger.logs reader.name).covered
  have shows_ : Shows ids reader.name (count + 1) service (service.view reader.name) :=
    ⟨keeps.sound, keeps.fresh, rfl⟩
  cases concerns : operation.concerns reader.name with
  | false =>
      have view := ((shows_simulates ids reader.name).dropped shows_ concerns).view
      have nothing : delivery reader (operation, (service.perform ids operation).1) = none := by
        cases operation with
        | receive other =>
            have different : other ≠ reader := fun same =>
              of_decide_eq_false concerns (congrArg Reader.name same)
            simp only [delivery, if_neg different]
        | _ => rfl
      rw [view, ledger.logs_perform_other concerns, nothing, Option.toList_none, List.append_nil]
      exact ⟨stored, process, allocator, reading, follows⟩
  | true =>
      have view := ((shows_simulates ids reader.name).kept shows_ concerns).2.view
      rw [view]
      have named {other : Reader} (same : other.name = reader.name) (different : other ≠ reader) :
          reader.index ≠ other.index := by
        intro equal
        apply different
        rcases reader with ⟨basinName, streamName, index⟩
        rcases other with ⟨otherBasin, otherStream, otherIndex⟩
        cases same
        cases equal
        rfl
      cases operation with
      | append basinName streamName data =>
          obtain ⟨rfl, rfl⟩ : basinName = reader.name.1 ∧ streamName = reader.name.2 :=
            Prod.mk.inj (of_decide_eq_true concerns)
          rw [show delivery reader (.append reader.name.1 reader.name.2 data, _) = none from rfl,
            Option.toList_none, List.append_nil]
          simp only [NamedStream.perform, NamedStream.append, Ledger.perform]
          cases valid : validateNames reader.name with
          | error error => exact ⟨stored, process, allocator, reading, follows⟩
          | ok =>
              rw [follows.logs.create_eq]
              rcases follows.append fits data with ⟨kept, grown, after, follows⟩
              refine ⟨kept, grown, after, reading, ?_⟩
              simp only [Ledger.append, Function.update_self]
              exact follows
      | readFollow other startSeqNum =>
          have different : other ≠ reader := of_decide_eq_false stays
          rcases NamedStream.readings_other (named (of_decide_eq_true concerns) different)
            reader.name startSeqNum (.inl rfl) with ⟨known, same, alone⟩
          refine ⟨stored, process, allocator, reading, ?_⟩
          rw [show delivery reader (.readFollow other startSeqNum, _) = none from rfl,
            Option.toList_none, List.append_nil]
          exact follows.other known same alone
      | advance other =>
          rw [show delivery reader (.advance other, _) = none from rfl, Option.toList_none,
            List.append_nil]
          by_cases same : other = reader
          · subst same
            exact ⟨stored, process, allocator, _, follows.advance (by omega)⟩
          · rcases NamedStream.readings_other (named (of_decide_eq_true concerns) same)
              reader.name 0 (.inr (.inl rfl)) with ⟨known, kept, alone⟩
            exact ⟨stored, process, allocator, reading, follows.other known kept alone⟩
      | receive other =>
          by_cases same : other = reader
          · subst same
            rcases follows.receive with ⟨outcome, after⟩
            have received : (service.perform ids (.receive other)).1.item =
                reading.channel.head? := by
              rw [← Outcome.item_plain]
              exact congrArg Outcome.item ((view_receive service other).1.symm.trans outcome)
            simp only [delivery, if_true, received]
            exact ⟨stored, process, allocator, _, after⟩
          · rcases NamedStream.readings_other (named (of_decide_eq_true concerns) same)
              reader.name 0 (.inr (.inr rfl)) with ⟨known, kept, alone⟩
            simp only [delivery, if_neg same, Option.toList_none, List.append_nil]
            exact ⟨stored, process, allocator, reading, follows.other known kept alone⟩
      | listBasins label => cases concerns
      | listStreams label basinName => cases concerns
      | restart => cases stays

/-- A reader that is accepted joins at the tail of its log. -/
theorem Keeps.follow (keeps : Keeps ids limit (count + 1) service ledger)
    (bound : DEFAULT_BLOCK_SIZE.toNat * (limit + 2) < 2 ^ 64) {startSeqNum : UInt64}
    (accepted : ledger.find reader.name = .ok ())
    (reached : startSeqNum.toNat ≤ (ledger.logs reader.name).tail) :
    Follows ids limit count (service.perform ids (.readFollow reader startSeqNum)).2 ledger reader
      startSeqNum.toNat (ledger.logs reader.name).tail [] := by
  refine ⟨keeps.perform bound (.readFollow reader startSeqNum), ?_⟩
  have fits := keeps.fits bound reader.name
  have covered := (ledger.logs reader.name).covered
  have found : validateNames reader.name = .ok () ∧ reader.name ∈ ledger.streams := by
    unfold Ledger.find at accepted
    cases valid : validateNames reader.name with
    | error error =>
        rw [valid] at accepted
        cases accepted
    | ok =>
        simp only [valid] at accepted
        split at accepted
        · split at accepted
          · rename_i member
            exact ⟨rfl, member⟩
          · cases accepted
        · cases accepted
  rcases found with ⟨valid, member⟩
  rcases keeps.logs member with ⟨stored, process, allocator, logs⟩
  refine ⟨stored, process, allocator,
    .start startSeqNum allocator.nextSequenceNumber process.sent.length, ?_⟩
  change ((service.readFollow reader startSeqNum).2.view reader.name).Follows _ _ _ _ _ _ _ _ _
  rw [(view_readFollow service reader startSeqNum).2]
  have joins := logs.follow reader.index (by omega) reached
  simp only [NamedStream.readFollow, NamedStream.subscribe, valid, logs.known, logs.current,
    Option.map_some, logs.alive]
  simp only [logs.known] at joins
  exact joins

/-- What the reader has been handed after some operations. -/
theorem Follows.run
    (bound : DEFAULT_BLOCK_SIZE.toNat * (limit + 2) < 2 ^ 64) {operations : List Operation}
    (stays : ∀ operation ∈ operations, operation.ends reader = false)
    (follows : Follows ids limit operations.length service ledger reader start joined taken) :
    Follows ids limit 0 (Machine.final (Service.perform ids) service operations)
      (Machine.final Ledger.perform ledger operations) reader start joined
      (taken ++ deliveries reader
        (Machine.transcript (Service.perform ids) service operations)) := by
  induction operations generalizing service ledger taken with
  | nil =>
      simpa [Machine.final, Machine.transcript, deliveries] using follows
  | cons operation rest induction =>
      have next := follows.perform bound (stays operation List.mem_cons_self)
      have last := induction (fun later member => stays later (List.mem_cons_of_mem _ member)) next
      rw [Machine.transcript, deliveries_cons, ← List.append_assoc]
      exact last

section Rounds

variable {stored : StoredStream} {process : Process} {allocator : SequenceAllocator}
  {reading : ReadSession} {log : StreamLog}

/-- A round hands over what is in the channel, or takes the task further. -/
theorem round_follows (ids : Nat → U128)
    (follows : (service.view reader.name).Follows reader.index stored process allocator reading
      log start joined taken)
    (small : log.tail ≤ 2 ^ 64)
    (room : (NumberedLog.since Record.number log.records joined).length ≤
      STREAM_BROADCAST_BUFFER) :
    ∃ after, ((Machine.final (Service.perform ids) service (reader.rounds 1)).view
        reader.name).Follows reader.index stored process allocator after log start joined
          (taken ++ deliveries reader
            (Machine.transcript (Service.perform ids) service (reader.rounds 1))) ∧
      after.effort process.sent.length ≤ reading.effort process.sent.length - 1 := by
  have alive : process.allocator.isSome := by
    rw [follows.logs.alive]
    rfl
  have advanced := follows.advance small
  have less := follows.stands.effort_advance (fun n => readValue (stored.records n)) room alive
  generalize reading.advance (fun n => readValue (stored.records n)) process = moved at *
  rw [← view_advance] at advanced
  rcases advanced.receive with ⟨outcome, received⟩
  rw [← (view_receive (service.advance reader) reader).2] at received
  refine ⟨{ moved with channel := moved.channel.tail }, ?_, ?_⟩
  · have item : (((service.advance reader).perform ids (.receive reader)).1.item) =
        moved.channel.head? := by
      rw [← Outcome.item_plain]
      exact congrArg Outcome.item ((view_receive _ reader).1.symm.trans outcome)
    have handed : deliveries reader
        (Machine.transcript (Service.perform ids) service (reader.rounds 1)) =
          moved.channel.head?.toList := by
      rw [← item]
      change deliveries reader [(.advance reader, .silent),
        (.receive reader, ((service.advance reader).perform ids (.receive reader)).1)] = _
      rw [deliveries_cons, deliveries_cons]
      simp [delivery, deliveries]
    rw [handed]
    exact received
  · have taken_ : ReadSession.effort process.sent.length
          { moved with channel := moved.channel.tail } =
        2 * moved.rank process.sent.length + moved.channel.tail.length := rfl
    have whole : moved.effort process.sent.length =
        2 * moved.rank process.sent.length + moved.channel.length := rfl
    have shorter : moved.channel.tail.length = moved.channel.length - 1 := List.length_tail
    rcases less with less | ⟨same, waiting | done⟩
    · omega
    · have := List.length_pos_iff.mpr waiting
      omega
    · omega

theorem rounds_follow (ids : Nat → U128) (small : log.tail ≤ 2 ^ 64)
    (room : (NumberedLog.since Record.number log.records joined).length ≤
      STREAM_BROADCAST_BUFFER) (n : Nat)
    (follows : (service.view reader.name).Follows reader.index stored process allocator reading
      log start joined taken) :
    ∃ after, ((Machine.final (Service.perform ids) service (reader.rounds n)).view
        reader.name).Follows reader.index stored process allocator after log start joined
          (taken ++ deliveries reader
            (Machine.transcript (Service.perform ids) service (reader.rounds n))) ∧
      after.effort process.sent.length ≤ reading.effort process.sent.length - n := by
  induction n generalizing service reading taken with
  | zero =>
      refine ⟨reading, ?_, Nat.le_refl _⟩
      change (service.view reader.name).Follows reader.index stored process allocator reading log
        start joined (taken ++ [])
      rw [List.append_nil]
      exact follows
  | succ n induction =>
      rcases round_follows ids follows small room with ⟨middle, follows, less⟩
      rcases induction follows with ⟨after, follows, fewer⟩
      refine ⟨after, ?_, by omega⟩
      rw [Reader.rounds_succ, Machine.final_append, Machine.transcript_append, deliveries,
        List.filterMap_append, ← List.append_assoc]
      exact follows

end Rounds

end Service

/-! ## The server -/

namespace World

variable {ids : Nat → U128} {count : Nat} {world : World} {service : Service} {reader : Reader}

/-- Steps of readers need no ids. -/
theorem Represents.delivers (represents : Represents ids count world service)
    {operations : List Operation} (delivers : ∀ operation ∈ operations, operation.delivers = true) :
    Machine.transcript (perform ids) world operations =
        Machine.transcript (Service.perform ids) service operations ∧
      Represents ids count (Machine.final (perform ids) world operations)
        (Machine.final (Service.perform ids) service operations) := by
  induction operations generalizing world service with
  | nil => exact ⟨rfl, represents⟩
  | cons operation rest induction =>
      have step : (world.perform ids operation).1 = (service.perform ids operation).1 ∧
          Represents ids count (world.perform ids operation).2
            (service.perform ids operation).2 := by
        cases operation with
        | advance reader => exact represents.advance reader
        | receive reader => exact represents.receive reader
        | _ => cases delivers _ List.mem_cons_self
      rcases step with ⟨same, next⟩
      rcases induction next (fun later member => delivers later (List.mem_cons_of_mem _ member))
        with ⟨rest, last⟩
      refine ⟨?_, last⟩
      rw [Machine.transcript, Machine.transcript, same, rest]

theorem Represents.run {operations : List Operation}
    (represents : Represents ids operations.length world service) :
    Machine.transcript (perform ids) world operations =
        Machine.transcript (Service.perform ids) service operations ∧
      Represents ids 0 (Machine.final (perform ids) world operations)
        (Machine.final (Service.perform ids) service operations) := by
  have same := (simulates ids).transcript_eq represents
  have related : Represents ids 0 (Machine.final (perform ids) world operations)
      (Machine.final (Service.perform ids) service (operations.filter fun _ => true)) :=
    (simulates ids).final_related 0 represents
  constructor
  · simpa only [List.filter_true, id, List.map_id'] using same.symm
  · simpa only [List.filter_true] using related

end World

theorem Ledger.final_requests (ledger : Ledger) (operations : List Operation) :
    Machine.final perform ledger (operations.filter fun operation => !operation.delivers) =
      Machine.final perform ledger operations := by
  induction operations generalizing ledger with
  | nil => rfl
  | cons operation rest induction =>
      cases operation with
      | advance reader => exact induction ledger
      | receive reader => exact induction ledger
      | _ => exact induction _

/-- A reader that is accepted at a start that its stream has reached is handed the records of
the stream from its start on, in order and without gaps, whatever other clients do, until it
ends. At most the last that it gets is that it has fallen behind, and then more records than a
broadcast holds have been appended since it joined. If there are no more than that, some rounds
of its task and its client are enough to hand it everything that has been appended. -/
theorem World.readers_catch_up {ids : Nat → U128} {before after : List Operation}
    {reader : Reader} {start : UInt64}
    (fresh : Stores.Fresh ids [] (2 * (before.length + (after.length + 1))))
    (bound : DEFAULT_BLOCK_SIZE.toNat * (before.length + (after.length + 1) + 2) < 2 ^ 64)
    (accepted : (Machine.final Ledger.perform .empty before).find reader.name = .ok ())
    (reached : start.toNat ≤
      ((Machine.final Ledger.perform .empty before).logs reader.name).tail)
    (stays : ∀ operation ∈ after, operation.ends reader = false) :
    let joined := ((Machine.final Ledger.perform .empty before).logs reader.name).tail
    let log := ((Machine.final Ledger.perform .empty (before ++ after)).logs reader.name).records
    let follows := Machine.final (perform ids) (.start .opened) (before ++ [.readFollow reader start])
    let received := deliveries reader (Machine.transcript (perform ids) follows after)
    let appended := NumberedLog.since Record.number log joined
    (∃ had, had <+: NumberedLog.since Record.number log start.toNat ∧
      (received = had.map .ok ∨
        received = had.map .ok ++ [.error .readerLagged] ∧
          STREAM_BROADCAST_BUFFER < appended.length)) ∧
    (appended.length ≤ STREAM_BROADCAST_BUFFER → ∃ enough, ∀ more ≥ enough,
      deliveries reader (Machine.transcript (perform ids) follows (after ++ reader.rounds more)) =
        (NumberedLog.since Record.number log start.toNat).map .ok) := by
  intro joined log follows received appended
  have keeps : Service.Keeps ids (before.length + (after.length + 1)) (after.length + 1)
      (Machine.final (Service.perform ids) (.start .opened) before)
      (Machine.final Ledger.perform .empty before) := by
    rw [← Ledger.final_requests]
    exact final_keeps fresh (Nat.le_refl _) bound
  have represents : Represents ids (after.length + 1)
      (Machine.final (perform ids) (.start .opened) before)
      (Machine.final (Service.perform ids) (.start .opened) before) :=
    final_represents Stores.sound_opened fresh
  have joins := keeps.follow bound accepted reached
  have followed : Represents ids after.length ((Machine.final (perform ids) (.start .opened)
      before).perform ids (.readFollow reader start)).2 _ :=
    ((simulates ids).kept represents rfl).2
  have same : follows = ((Machine.final (perform ids) (.start .opened) before).perform ids
      (.readFollow reader start)).2 := Machine.final_append _ _ _
  rw [← same] at followed
  rcases Represents.run followed with ⟨transcript, last⟩
  have stands := joins.run bound stays
  rw [List.nil_append, ← transcript, ← Machine.final_append] at stands
  rcases stands with ⟨kept, stored, process, allocator, reading, stands⟩
  have fits := kept.fits bound reader.name
  have covered := ((Machine.final Ledger.perform .empty (before ++ after)).logs reader.name).covered
  have small : ((Machine.final Ledger.perform .empty (before ++ after)).logs reader.name).tail ≤
      2 ^ 64 := by omega
  have ascending := StreamLog.ascending_records small
  refine ⟨stands.stands.taken_eq ascending, ?_⟩
  intro room
  refine ⟨reading.effort process.sent.length, ?_⟩
  intro more enough
  rcases Service.rounds_follow ids small room more stands with ⟨done, stands, less⟩
  rcases last.delivers (reader.delivers_rounds more) with ⟨transcript, _⟩
  rw [← transcript] at stands
  rw [Machine.transcript_append, deliveries, List.filterMap_append]
  exact stands.stands.taken_eq_since ascending room (by omega)

/-- A reader of a stream with a gap gets what was appended before and after it joined. -/
theorem World.readers_catch_up_gap :
    let reader : Reader := ⟨"orders", "events", 0⟩
    let before := [.append "orders" "events" [97], .restart, .append "orders" "events" [98]]
    let after := [.append "billing" "events" [120], .advance reader, .append "orders" "events" [99]]
    ∃ enough, ∀ more ≥ enough,
      deliveries reader (Machine.transcript (perform (BitVec.ofNat 128))
        (Machine.final (perform (BitVec.ofNat 128)) (.start .opened)
          (before ++ [.readFollow reader 0])) (after ++ reader.rounds more)) =
        [.ok ⟨0, [97]⟩, .ok ⟨4096, [98]⟩, .ok ⟨4097, [99]⟩] := by
  intro reader before after
  exact (@readers_catch_up (BitVec.ofNat 128) before after reader 0 (by decide) (by decide)
    (by decide) (by decide) (by decide)).2 (by decide)

end Slatestreams
