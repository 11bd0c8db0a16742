import Orihsus.Chunking
import Orihsus.Deadlines

/-!
# The watchdog between two events

`pump_upstream` gives up a stream when its deadline passes, and moves the deadline whenever
the parser on the side counts an event. The parser discards events that outgrow its buffer,
so the deadline follows the events that fit. This module says what the end of a stream
depends on in terms of its schedule alone: the instants at which the chunks complete events,
the first gap between them that is wider than the window, and the instant at which the
upstream closes the stream.
-/

namespace Orihsus.Gateway

open SseUsageParser (Tracks content counted dataEvents hasData sampleReading terminated)

/-! ## Instants of a schedule -/

/-- The instants at which a chunk adds to what is measured of the bytes received. -/
def moments (measure : List UInt8 → Nat) (seen : List UInt8) (now : Nat) : Body → List Nat
  | [] => []
  | arrival :: rest =>
      match arrival.event with
      | .failed | .ended => []
      | .chunk bytes =>
          let later := moments measure (seen ++ bytes) (max now arrival.time) rest
          if measure seen < measure (seen ++ bytes) then max now arrival.time :: later else later

/-- The instant at which the upstream ends the stream or fails. -/
def closing (now : Nat) : Body → Option Nat
  | [] => none
  | arrival :: rest =>
      match arrival.event with
      | .failed | .ended => some (max now arrival.time)
      | .chunk _ => closing (max now arrival.time) rest

/-- The last instant before the first gap that is wider than the window. -/
def lapse (window last : Nat) : List Nat → Nat
  | [] => last
  | moment :: rest => if moment ≤ last + window then lapse window moment rest else last

/-- Nothing happens in the window before the instant. -/
def Quiet (window instant : Nat) (instants : List Nat) : Prop :=
  ∀ moment ∈ instants, moment ≤ instant → moment + window ≤ instant

section

variable {measure : List UInt8 → Nat} {seen : List UInt8} {window last now : Nat}
  {instants : List Nat} {body : Body}

/-- The instants are in order, and none is earlier than the first read. -/
theorem moments_sorted : (now :: moments measure seen now body).Pairwise (· ≤ ·) := by
  induction body generalizing seen now with
  | nil => exact List.pairwise_singleton _ _
  | cons arrival rest inductionHypothesis =>
    unfold moments
    cases event : arrival.event with
    | failed | ended => exact List.pairwise_singleton _ _
    | chunk bytes =>
      dsimp only
      have later := @inductionHypothesis (seen ++ bytes) (max now arrival.time)
      have ahead : ∀ moment ∈ max now arrival.time ::
          moments measure (seen ++ bytes) (max now arrival.time) rest, now ≤ moment := by
        intro moment member
        rcases List.mem_cons.mp member with rfl | after
        · exact Nat.le_max_left _ _
        · exact Nat.le_trans (Nat.le_max_left _ _) (List.rel_of_pairwise_cons later after)
      split
      · exact List.pairwise_cons.mpr ⟨ahead, later⟩
      · exact List.pairwise_cons.mpr
          ⟨fun moment member => ahead moment (List.mem_cons_of_mem _ member), later.of_cons⟩

/-- A body does not close in the past. -/
theorem le_closing {instant : Nat} (closes : closing now body = some instant) :
    now ≤ instant := by
  induction body generalizing now with
  | nil => cases closes
  | cons arrival rest inductionHypothesis =>
    unfold closing at closes
    cases event : arrival.event with
    | failed | ended =>
      rw [event] at closes
      cases closes
      exact Nat.le_max_left _ _
    | chunk bytes =>
      rw [event] at closes
      exact Nat.le_trans (Nat.le_max_left _ _) (inductionHypothesis closes)

/-- A late first arrival makes every instant late. -/
theorem moments_late {arrival : Arrival} {bound : Nat} (late : bound < max now arrival.time) :
    ∀ moment ∈ moments measure seen now (arrival :: body), bound < moment := by
  intro moment member
  unfold moments at member
  cases event : arrival.event with
  | failed | ended =>
    rw [event] at member
    cases member
  | chunk bytes =>
    simp only [event] at member
    have sorted := @moments_sorted measure (seen ++ bytes) (max now arrival.time) body
    have among : moment ∈ max now arrival.time ::
        moments measure (seen ++ bytes) (max now arrival.time) body := by
      split at member
      · exact member
      · exact List.mem_cons_of_mem _ member
    rcases List.mem_cons.mp among with rfl | after
    · exact late
    · exact Nat.lt_of_lt_of_le late (List.rel_of_pairwise_cons sorted after)

/-- After a late arrival it closes late. -/
theorem closing_late {arrival : Arrival} {bound : Nat} (late : bound < max now arrival.time) :
    (closing now (arrival :: body)).all (bound < ·) = true := by
  rw [Option.all_eq_true]
  intro instant closes
  unfold closing at closes
  cases event : arrival.event with
  | failed | ended =>
    rw [event] at closes
    cases closes
    exact decide_eq_true late
  | chunk bytes =>
    rw [event] at closes
    exact decide_eq_true (Nat.lt_of_lt_of_le late (le_closing closes))

/-- With every moment late the window lapses at once. -/
theorem lapse_late (late : ∀ moment ∈ instants, last + window < moment) :
    lapse window last instants = last := by
  cases instants with
  | nil => rfl
  | cons moment rest =>
    exact if_neg (Nat.not_le_of_lt (late moment List.mem_cons_self))

/-- It does not lapse in the past. -/
theorem le_lapse (sorted : (last :: instants).Pairwise (· ≤ ·)) :
    last ≤ lapse window last instants := by
  induction instants generalizing last with
  | nil => exact Nat.le_refl _
  | cons moment rest inductionHypothesis =>
    unfold lapse
    split
    · exact Nat.le_trans (List.rel_of_pairwise_cons sorted List.mem_cons_self)
        (inductionHypothesis sorted.of_cons)
    · exact Nat.le_refl _

/-- The window after the lapse is empty. -/
theorem lapse_quiet (sorted : (last :: instants).Pairwise (· ≤ ·)) :
    Quiet window (lapse window last instants + window) instants := by
  induction instants generalizing last with
  | nil => exact List.forall_mem_nil _
  | cons moment rest inductionHypothesis =>
    have first := @le_lapse window moment rest sorted.of_cons
    intro other member within
    unfold lapse at within ⊢
    split at within
    · rename_i near
      rw [if_pos near]
      rcases List.mem_cons.mp member with rfl | later
      · omega
      · exact inductionHypothesis sorted.of_cons other later within
    · rename_i far
      have after : moment ≤ other := by
        rcases List.mem_cons.mp member with rfl | later
        · exact Nat.le_refl _
        · exact List.rel_of_pairwise_cons sorted.of_cons later
      omega

/-- Where a measure is the sum of two that only grow, it grows when one of them does. -/
theorem mem_moments_sum {part other : List UInt8 → Nat} {moment : Nat}
    (sum : ∀ stream, measure stream = part stream + other stream)
    (partGrows : ∀ front back, part front ≤ part (front ++ back))
    (otherGrows : ∀ front back, other front ≤ other (front ++ back)) :
    moment ∈ moments measure seen now body ↔
      moment ∈ moments part seen now body ∨ moment ∈ moments other seen now body := by
  induction body generalizing seen now with
  | nil => simp [moments]
  | cons arrival rest inductionHypothesis =>
    unfold moments
    cases event : arrival.event with
    | failed | ended => simp
    | chunk bytes =>
      dsimp only
      have total : measure seen < measure (seen ++ bytes) ↔
          part seen < part (seen ++ bytes) ∨ other seen < other (seen ++ bytes) := by
        have onePart := partGrows seen bytes
        have oneOther := otherGrows seen bytes
        rw [sum, sum]
        omega
      have later := @inductionHypothesis (seen ++ bytes) (max now arrival.time)
      by_cases grows : part seen < part (seen ++ bytes)
      · rw [if_pos (total.mpr (.inl grows)), if_pos grows]
        by_cases also : other seen < other (seen ++ bytes)
        · rw [if_pos also, List.mem_cons, List.mem_cons, List.mem_cons, later]
          exact or_or_distrib_left
        · rw [if_neg also, List.mem_cons, List.mem_cons, later, or_assoc]
      · rw [if_neg grows]
        by_cases also : other seen < other (seen ++ bytes)
        · rw [if_pos (total.mpr (.inr also)), if_pos also, List.mem_cons, List.mem_cons, later]
          exact or_left_comm
        · have neither : ¬ measure seen < measure (seen ++ bytes) :=
            fun either => (total.mp either).elim grows also
          rw [if_neg neither, if_neg also, later]

end

/-! ## Events of a stream -/

/-- The data events of a stream, of whatever size. -/
def dataCount (reading : Reading) (stream : List UInt8) : Nat := (dataEvents reading stream).length

/-- The data events that the parser counts: those that fit its buffer. -/
def countedCount (reading : Reading) (cap : Nat) (stream : List UInt8) : Nat :=
  (counted reading cap (Segments.cut terminated stream).done).length

/-- The data events that the parser discards. -/
def oversizedCount (reading : Reading) (cap : Nat) (stream : List UInt8) : Nat :=
  ((dataEvents reading stream).filter fun segment => cap < (content segment).length).length

section

variable {reading : Reading} {cap : Nat}

/-- Data events are counted or oversized. -/
theorem dataCount_sum (stream : List UInt8) :
    dataCount reading stream = countedCount reading cap stream +
      oversizedCount reading cap stream := by
  have fitting : counted reading cap (Segments.cut terminated stream).done =
      (dataEvents reading stream).filter fun segment =>
        !decide (cap < (content segment).length) := by
    unfold dataEvents counted
    rw [List.filter_filter]
    refine List.filter_congr ?_
    intro segment _
    simp only [← decide_not, Nat.not_lt]
  rw [countedCount, fitting, Nat.add_comm]
  exact List.length_eq_length_filter_add _

/-- More bytes make no fewer counted events. -/
theorem countedCount_grows (front back : List UInt8) :
    countedCount reading cap front ≤ countedCount reading cap (front ++ back) :=
  ((Segments.cut_done_append_left front back).filter _).length_le

/-- They make no fewer oversized ones. -/
theorem oversizedCount_grows (front back : List UInt8) :
    oversizedCount reading cap front ≤ oversizedCount reading cap (front ++ back) :=
  ((SseUsageParser.dataEvents_append_left front back).filter _).length_le

/-- The pump reads for a prompt client, and its parser has seen these bytes. -/
structure Watching (reading : Reading) (cap : Nat) (state : Pumping) (seen : List UInt8) :
    Prop where
  prompt : state.Prompt
  parser : ∃ parser, state.parser = .sse parser ∧
    Tracks reading cap parser (Segments.cut terminated seen)

variable {plan : PumpPlan} {state : Pumping} {seen : List UInt8}

/-- A chunk completes events exactly when the count goes up. -/
theorem Watching.completes_iff (watching : Watching reading cap state seen)
    (bytes : List UInt8) : 0 < (state.parser.push reading bytes).2 ↔
      countedCount reading cap seen < countedCount reading cap (seen ++ bytes) := by
  obtain ⟨parser, holds, tracks⟩ := watching.parser
  have before : parser.eventCount = countedCount reading cap seen := tracks.eventCount
  have after : (parser.push reading bytes).1.eventCount =
    countedCount reading cap (seen ++ bytes) := (tracks.push bytes).eventCount
  rw [holds, ← before, ← after]
  exact Nat.sub_pos_iff_lt

/-- The pump after a chunk that it received and counted. -/
theorem Watching.received (watching : Watching reading cap state seen) (arrival : Arrival)
    (rest : Body) (bytes : List UInt8) :
    Watching reading cap ((state.received arrival rest).counted reading plan bytes)
      (seen ++ bytes) := by
  obtain ⟨parser, holds, tracks⟩ := watching.parser
  constructor
  · intro turn member
    exact watching.prompt turn (List.mem_of_mem_tail member)
  · refine ⟨(parser.push reading bytes).1, ?_, tracks.push bytes⟩
    show (state.parser.push reading bytes).1 = _
    rw [holds]
    rfl

/-- The pump after a chunk that the client took. -/
theorem Watching.taken (watching : Watching reading cap state seen) (bytes : List UInt8) :
    Watching reading cap
      { state.awaited with delivered := state.delivered ++ [bytes] } seen :=
  ⟨fun turn member => watching.prompt turn (List.mem_of_mem_tail member), watching.parser⟩

/-- The pump after the computation of a deadline. -/
theorem Watching.scheduled (watching : Watching reading cap state seen) (idle : Option Nat) :
    Watching reading cap (state.schedule idle) seen :=
  ⟨watching.prompt, watching.parser⟩

/-- The parser that has been given the prefetched chunks has seen their bytes. -/
theorem pushChunks_tracks {parser : SseUsageParser}
    (tracks : Tracks reading cap parser (Segments.cut terminated seen))
    (chunks : List (List UInt8)) :
    ∃ pushed, pushChunks reading (.sse parser) chunks = .sse pushed ∧
      Tracks reading cap pushed (Segments.cut terminated (seen ++ chunks.flatten)) := by
  induction chunks generalizing parser seen with
  | nil =>
    rw [List.flatten_nil, List.append_nil]
    exact ⟨parser, rfl, tracks⟩
  | cons bytes rest inductionHypothesis =>
    rw [List.flatten_cons, ← List.append_assoc]
    exact inductionHypothesis (tracks.push bytes)

/-! ## The end of a stream -/

/-- The pump gave the stream up for want of an event. -/
def TimesOut (ended : Pumping × Option PumpResult) : Prop :=
  ended.2.map PumpResult.outcome = some .eventIdleTimeout

/-- The pump times out at the limit, unless the upstream closes the stream by then. -/
structure Watched (limit : Nat) (closes : Option Nat) (ended : Pumping × Option PumpResult) :
    Prop where
  timesOut : TimesOut ended ↔ closes.all (limit < ·) = true
  instant : TimesOut ended → ended.1.now = limit

/-- A read that misses the deadline. -/
theorem watched_missed {deadline : Nat} {closes : Option Nat} (ahead : state.now ≤ deadline)
    (stays : closes.all (deadline < ·) = true) :
    Watched deadline closes (state.missed (some (deadline, .eventIdleTimeout))) := by
  constructor
  · exact iff_of_true rfl stays
  · intro _
    exact Nat.max_eq_right ahead

/-- The upstream closes the stream in time. -/
theorem watched_closed {limit instant : Nat} {ended : Pumping × Option PumpResult}
    (inTime : instant ≤ limit) (other : ¬ TimesOut ended) :
    Watched limit (some instant) ended := by
  constructor
  · refine iff_of_false other ?_
    rw [Option.all_some, decide_eq_true_eq]
    exact Nat.not_lt_of_le inTime
  · intro timesOut
    exact absurd timesOut other

/-- The loop over the live stream ends a window after the lapse of the counted events. -/
theorem pumpLoop_watched {window last : Nat} (idle : plan.idle = some window)
    (watching : Watching reading cap state seen) (past : last ≤ state.now)
    (ahead : state.now ≤ last + window) (body : Body) :
    Watched (lapse window last (moments (countedCount reading cap) seen state.now body) + window)
      (closing state.now body) (pumpLoop reading plan state (some (last + window)) body) := by
  induction body generalizing state seen last with
  | nil =>
    unfold pumpLoop
    rw [if_neg watching.prompt.stays]
    exact watched_missed ahead rfl
  | cons arrival rest inductionHypothesis =>
    unfold pumpLoop
    rw [if_neg watching.prompt.stays]
    dsimp only [readBound]
    rw [Option.all_some]
    by_cases inTime : arrival.inTime state.now (last + window) = true
    · rw [if_pos inTime]
      have near := (inTime_iff ahead).mp inTime
      cases event : arrival.event with
      | failed | ended =>
        simp only [moments, closing, event, lapse]
        refine watched_closed near ?_
        intro timesOut
        cases timesOut
      | chunk bytes =>
        have received := @Watching.received reading cap plan _ _ watching arrival rest bytes
        have completes_iff : 0 < ((state.received arrival rest).parser.push reading bytes).2 ↔ _ :=
          watching.completes_iff bytes
        simp only [moments, closing, event]
        rw [received.prompt.offer]
        dsimp only
        by_cases completes :
          countedCount reading cap seen < countedCount reading cap (seen ++ bytes)
        · -- The deadline moves to a window after this chunk.
          have first (later : List Nat) :
              lapse window last (max state.now arrival.time :: later) =
                lapse window (max state.now arrival.time) later := if_pos near
          rw [if_pos completes, if_pos (completes_iff.mpr completes), idle, first]
          exact inductionHypothesis (received.taken bytes) (Nat.le_refl _) (Nat.le_add_right _ _)
        · rw [if_neg completes, if_neg (fun counts => completes (completes_iff.mp counts))]
          exact inductionHypothesis (received.taken bytes)
            (Nat.le_trans past (Nat.le_max_left _ _)) near
    · rw [if_neg inTime]
      have late : last + window < max state.now arrival.time :=
        Nat.lt_of_not_le fun near => inTime ((inTime_iff ahead).mpr near)
      rw [lapse_late (moments_late late)]
      exact watched_missed ahead (closing_late late)

end

section

variable {reading : Reading} {timeouts : IoTimeouts} {prepared : PreparedResponse}
  {attemptStart requestStart now : Nat} {client : List ClientTurn}

/-- The instants at which the live stream completes data events, of whatever size. -/
def dataMoments (reading : Reading) (prepared : PreparedResponse) (now : Nat) : List Nat :=
  moments (dataCount reading) prepared.prefetched.flatten now prepared.upstream

/-- Those at which it completes data events that the parser counts. -/
def countedMoments (reading : Reading) (prepared : PreparedResponse) (now : Nat) : List Nat :=
  moments (countedCount reading sseEventCap) prepared.prefetched.flatten now prepared.upstream

/-- Those at which it completes data events that the parser discards. -/
def oversizedMoments (reading : Reading) (prepared : PreparedResponse) (now : Nat) : List Nat :=
  moments (oversizedCount reading sseEventCap) prepared.prefetched.flatten now prepared.upstream

/-- The last counted event, or the commit, before a window without any. -/
def lastCounted (reading : Reading) (prepared : PreparedResponse) (now : Nat) : Nat :=
  lapse prepared.interEventTimeout now (countedMoments reading prepared now)

/-- The watchdog of a stream waits from the last counted event. -/
theorem streamResponse_watched (streaming : prepared.streaming = true)
    (prompt : ∀ turn ∈ client, turn = .ready 0) :
    Watched (lastCounted reading prepared now + prepared.interEventTimeout)
      (closing now prepared.upstream)
      (streamResponse reading timeouts prepared attemptStart requestStart now client) := by
  have planned : (streamPlan timeouts prepared attemptStart requestStart).idle =
      some prepared.interEventTimeout := by
    simp only [streamPlan, streaming, if_true]
  unfold streamResponse pumpUpstream
  dsimp only
  generalize begun : Pumping.start _ _ now client prepared.upstream = start
  have ready : start.Prompt := by
    rw [← begun]
    exact prompt
  obtain ⟨sent, sends, instant, taking, parser⟩ := @sendPrefetched_prompt reading
    (streamPlan timeouts prepared attemptStart requestStart) start prepared.prefetched ready
  have started : sent.now = now := by
    rw [instant, ← begun]
    rfl
  have fresh : start.parser = .sse (SseUsageParser.new sseEventCap) := by
    rw [← begun, Pumping.start]
    simp only [streamParser, streaming, if_true]
  have blank : Tracks reading sseEventCap (SseUsageParser.new sseEventCap)
      (Segments.cut terminated []) := SseUsageParser.new_tracks reading sseEventCap
  obtain ⟨pushed, holds, tracks⟩ := pushChunks_tracks blank prepared.prefetched
  have watching : Watching reading sseEventCap sent prepared.prefetched.flatten :=
    ⟨taking, pushed, by rw [parser, fresh, holds], tracks⟩
  have bounded : (if (streamPlan timeouts prepared attemptStart requestStart).streaming then
      (streamPlan timeouts prepared attemptStart requestStart).idle else none) =
      some prepared.interEventTimeout := by
    rw [planned]
    simp only [streamPlan, streaming, if_true]
  rw [show (streamPlan timeouts prepared attemptStart requestStart).prefetched =
    prepared.prefetched from rfl, sends]
  dsimp only
  rw [bounded]
  have watched := pumpLoop_watched planned (watching.scheduled (some prepared.interEventTimeout))
    (Nat.le_refl _) (Nat.le_add_right _ _) prepared.upstream
  rw [show (sent.schedule _).now = now from started] at watched
  rw [Option.map_some, started]
  exact watched

/-- What the watchdog tracks. For every schedule of chunks and every client that takes them
at once, a committed stream times out exactly if the upstream has not closed it a window
after the last counted event before the first gap of more than a window, and it does so at
that instant. So a chunk that completes no data event never moves the deadline, and neither
does one that completes only events which outgrow the parser's buffer. The window before a
timeout is free of data events, of whatever size, exactly if none of those is completed in
the window that follows the last counted event.

Proof: the pump ends at the first lapse of a window after the counted moments. -/
theorem idle_timeout_quiet_iff (streaming : prepared.streaming = true)
    (prompt : ∀ turn ∈ client, turn = .ready 0) :
    let ended := streamResponse reading timeouts prepared attemptStart requestStart now client
    let window := prepared.interEventTimeout
    let limit := lastCounted reading prepared now + window
    (TimesOut ended ↔ (closing now prepared.upstream).all (limit < ·) = true) ∧
      (TimesOut ended → ended.1.now = limit ∧ now + window ≤ ended.1.now) ∧
      ((TimesOut ended → Quiet window ended.1.now (dataMoments reading prepared now)) ↔
        ((closing now prepared.upstream).all (limit < ·) = true →
          ∀ moment ∈ oversizedMoments reading prepared now,
            ¬ (lastCounted reading prepared now < moment ∧ moment ≤ limit))) := by
  intro ended window limit
  obtain ⟨timesOut, instant⟩ : Watched limit (closing now prepared.upstream) ended :=
    streamResponse_watched streaming prompt
  have sorted : (now :: countedMoments reading prepared now).Pairwise (· ≤ ·) := moments_sorted
  have commit : now ≤ lastCounted reading prepared now := le_lapse sorted
  have quiet : Quiet window limit (countedMoments reading prepared now) := lapse_quiet sorted
  have either (moment : Nat) : moment ∈ dataMoments reading prepared now ↔
      moment ∈ countedMoments reading prepared now ∨
        moment ∈ oversizedMoments reading prepared now :=
    mem_moments_sum dataCount_sum countedCount_grows oversizedCount_grows
  refine ⟨timesOut, ?_, ?_⟩
  · intro out
    exact ⟨instant out, (instant out).symm ▸ Nat.add_le_add_right commit window⟩
  · rw [← timesOut]
    constructor
    · rintro claimed out moment member ⟨after, within⟩
      have early := claimed out moment ((either moment).mpr (.inr member))
      rw [instant out] at early
      have := early within
      omega
    · intro spared out moment member within
      rw [instant out] at within ⊢
      rcases (either moment).mp member with kept | discarded
      · exact quiet moment kept within
      · have outside := spared out moment discarded
        omega

/-- A line of data that outgrows the buffer of the parser, and a blank line. -/
def longEvent (size : Nat) : List UInt8 :=
  Text.asBytes "data:".toList ++ List.replicate size 97 ++ [10, 10]

/-- A committed stream in which such an event is complete at the instant five. -/
def longStream (size : Nat) : PreparedResponse where
  status := 200
  headers := []
  streaming := true
  upstream := [⟨5, .chunk (longEvent size)⟩]
  prefetched := [sampleEvent]
  firstByteLatency := none
  firstEventLatency := none
  interEventTimeout := 10

end

/-! ## A stream that is cut off -/

section

variable {size : Nat} {front : List UInt8}

/-- A byte other than a line feed terminates nothing. -/
theorem not_terminated {byte : UInt8} (other : byte ≠ 10) :
    terminated (front ++ [byte]) = false := by
  simp [terminated, List.isSuffixOf, List.isPrefixOf_cons_cons, other.symm]

/-- A long event is cut off the stream whole. -/
theorem cut_longEvent (sized : 0 < size) {done : List (List UInt8)}
    (clean : Segments.cut terminated front = ⟨done, []⟩) :
    Segments.cut terminated (front ++ longEvent size) = ⟨done ++ [longEvent size], []⟩ := by
  obtain ⟨more, rfl⟩ : ∃ more, size = more + 1 := ⟨size - 1, by omega⟩
  have quiet : ∀ byte ∈ Text.asBytes "data:".toList ++ List.replicate (more + 1) 97,
      byte ≠ 10 := by
    intro byte member
    rcases List.mem_append.mp member with label | text
    · have labels : ∀ byte ∈ Text.asBytes "data:".toList, byte ≠ 10 := by decide +kernel
      exact labels byte label
    · rw [List.eq_of_mem_replicate text]
      decide
  rw [Segments.cut_append, clean, longEvent, List.foldl_append,
    Segments.fold_pending fun front byte member => not_terminated (quiet byte member)]
  simp [Segments.push, terminated, List.isSuffixOf, List.replicate_succ']

/-- The text of a long event. -/
theorem content_longEvent : content (longEvent size) =
    Text.asBytes "data:".toList ++ List.replicate size 97 ++ [10] := by
  rw [content, longEvent, show ([10, 10] : List UInt8) = [10] ++ [10] from rfl,
    ← List.append_assoc, List.dropLast_concat]

/-- A long event has a line of data. -/
theorem hasData_longEvent : hasData sampleReading (content (longEvent size)) = true := by
  have label : sampleReading.decode (Text.asBytes "data:".toList) = "data:".toList := by
    decide +kernel
  have line : sampleReading.decode (content (longEvent size)) =
      "data:".toList ++ List.replicate size 'a' ++ ['\n'] := by
    rw [content_longEvent]
    simp only [sampleReading, List.map_append, List.map_replicate] at label ⊢
    rw [label]
    rfl
  have whole : '\n' ∉ "data:".toList ++ List.replicate size 'a' := by simp
  have unreturned : '\r' ∉ "data:".toList ++ List.replicate size 'a' := by simp
  have kept : Text.stripReturn ("data:".toList ++ List.replicate size 'a') =
      "data:".toList ++ List.replicate size 'a' :=
    if_neg fun last => unreturned (List.mem_of_getLast? last)
  have labelled : "data:".toList.isPrefixOf ("data:".toList ++ List.replicate size 'a') = true :=
    List.isPrefixOf_iff_prefix.mpr (List.prefix_append _ _)
  rw [hasData, line, Text.lines, Text.linesFrom_line whole, List.nil_append, kept, List.any_cons,
    Text.stripStart, if_pos labelled]
  rfl

/-- The length of that text. -/
theorem length_longEvent : (content (longEvent size)).length = size + 6 := by
  have label : (Text.asBytes "data:".toList).length = 5 := by decide
  rw [content_longEvent, List.length_append, List.length_append, List.length_replicate, label,
    List.length_singleton]
  omega

/-- An event with more data than the buffer holds does not count. -/
theorem countedCount_longEvent (large : sseEventCap ≤ size) :
    countedCount sampleReading sseEventCap (sampleEvent ++ longEvent size) =
      countedCount sampleReading sseEventCap sampleEvent := by
  have clean : Segments.cut terminated sampleEvent = ⟨[sampleEvent], []⟩ := by rfl
  have sized : 0 < size := Nat.lt_of_lt_of_le (by decide) large
  have ending : longEvent size = content (longEvent size) ++ [10] := by
    rw [content_longEvent, longEvent, List.append_assoc _ [10]]
    rfl
  have discarded : sseEventCap < (content (longEvent size)).length := by
    rw [length_longEvent]
    omega
  rw [countedCount, countedCount, cut_longEvent sized clean, clean, ending,
    SseUsageParser.counted_skip (.inl discarded)]

/-- It is a data event. -/
theorem dataCount_longEvent (sized : 0 < size) :
    dataCount sampleReading sampleEvent <
      dataCount sampleReading (sampleEvent ++ longEvent size) := by
  have clean : Segments.cut terminated sampleEvent = ⟨[sampleEvent], []⟩ := by rfl
  rw [dataCount, dataCount, dataEvents, dataEvents, cut_longEvent sized clean, clean]
  simp only [List.filter_append, List.filter_singleton, hasData_longEvent, List.length_append]
  exact Nat.lt_succ_self _

/-- It does not count if it is oversized. -/
theorem lastCounted_longStream (large : sseEventCap ≤ size) :
    lastCounted sampleReading (longStream size) 0 = 0 := by
  have none : countedMoments sampleReading (longStream size) 0 = [] := by
    simp only [countedMoments, longStream, moments, List.flatten_singleton,
      countedCount_longEvent large, Nat.lt_irrefl, if_false]
  rw [lastCounted, none]
  rfl

/-- It arrives at the instant five. -/
theorem dataMoments_longStream (sized : 0 < size) :
    dataMoments sampleReading (longStream size) 0 = [5] := by
  simp only [dataMoments, longStream, moments, List.flatten_singleton,
    dataCount_longEvent sized, if_true]
  rfl

/-- The long event does not move the deadline. -/
theorem longStream_timesOut (large : sseEventCap ≤ size) :
    let ended := streamResponse sampleReading ⟨1, 1, 1, 1, 1, 1⟩ (longStream size) 0 0 0 []
    TimesOut ended ∧ ended.1.now = 10 := by
  intro ended
  obtain ⟨timesOut, instant⟩ := @streamResponse_watched sampleReading ⟨1, 1, 1, 1, 1, 1⟩
    (longStream size) 0 0 0 [] rfl (List.forall_mem_nil _)
  have out : TimesOut ended := timesOut.mpr rfl
  refine ⟨out, ?_⟩
  rw [lastCounted_longStream large] at instant
  exact instant out

/-- A stream with an inter-event timeout of ten is given up at the instant ten, although it
completed an event at the instant five: the event has more data than the buffer holds. -/
theorem long_event_cut_off :
    let ended := streamResponse sampleReading ⟨1, 1, 1, 1, 1, 1⟩ (longStream sseEventCap) 0 0 0 []
    TimesOut ended ∧ ended.1.now = 10 ∧
      dataMoments sampleReading (longStream sseEventCap) 0 = [5] ∧
      ¬ Quiet 10 ended.1.now (dataMoments sampleReading (longStream sseEventCap) 0) := by
  intro ended
  obtain ⟨out, ten⟩ := longStream_timesOut (Nat.le_refl sseEventCap)
  have five := @dataMoments_longStream sseEventCap (by decide)
  refine ⟨out, ten, five, ?_⟩
  intro quiet
  rw [ten, five] at quiet
  exact absurd (quiet 5 List.mem_cons_self (by decide)) (by decide)

end

/-- A stream with an event at the instant four and a comment at the instant eight. -/
def pacedStream : PreparedResponse where
  status := 200
  headers := []
  streaming := true
  upstream := [⟨4, .chunk sampleEvent⟩, ⟨8, .chunk (Text.asBytes ": keepalive\n\n".toList)⟩]
  prefetched := [sampleEvent]
  firstByteLatency := none
  firstEventLatency := none
  interEventTimeout := 5

/-- A stream with an event in each window is not cut off. -/
theorem idle_timeout_quiet_iff_paced :
    let ended := streamResponse sampleReading ⟨1, 1, 1, 1, 1, 1⟩ pacedStream 0 0 0 []
    TimesOut ended ∧ ended.1.now = 9 ∧
      Quiet 5 ended.1.now (dataMoments sampleReading pacedStream 0) := by
  have four : lastCounted sampleReading pacedStream 0 = 4 := by decide +kernel
  have small : oversizedMoments sampleReading pacedStream 0 = [] := by decide +kernel
  have facts := @idle_timeout_quiet_iff sampleReading ⟨1, 1, 1, 1, 1, 1⟩ pacedStream 0 0 0 [] rfl
    (List.forall_mem_nil _)
  rw [four, small] at facts
  generalize streamResponse sampleReading ⟨1, 1, 1, 1, 1, 1⟩ pacedStream 0 0 0 [] = ended at facts ⊢
  obtain ⟨timesOut, instant, quiet⟩ := facts
  have out : TimesOut ended := timesOut.mpr rfl
  exact ⟨out, (instant out).1, quiet.mpr (fun _ => List.forall_mem_nil _) out⟩

end Orihsus.Gateway
