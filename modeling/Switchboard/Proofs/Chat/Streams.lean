import Mathlib.Tactic
import Switchboard.Chat.Stream
import Switchboard.Proofs.Text.Utf8

/-!
# What a stream has taken

A stream with a limit holds the beginning of all that was sent to it, as far as the limit goes, and
nothing else. It is `holding` everything that was sent, also what it had no room for, and sending one
more message makes it hold one more line.

A stream need not take a line at once. `Takes` allows any number of writes, each of which takes some
of the bytes that are left, as long as there is room for them; it makes no difference.

## Main results

* `takes_iff`: how the bytes are cut into writes makes no difference.
* `send_holding`: what one message adds, and its result.
* `sendAll_holding`: what messages in order add, and their results.
* `sendAll_beginning`: the beginning that is taken, and which messages succeed.
-/

namespace Switchboard.Chat.Stream

open Text.Utf8 (encode)

variable {stream after : Stream} {bytes : List UInt8} {complete : Bool}

/-! ### Writes -/

/-- A stream takes bytes in one or more writes. A write takes some of the bytes that are left, at most
as many as there is room for, and it fails if there is no room. The flag tells whether all bytes were
taken in the end. -/
inductive Takes : Stream → List UInt8 → (complete : Bool) → (after : Stream) → Prop
  | all (stream : Stream) : Takes stream [] true stream
  | full {stream : Stream} {bytes : List UInt8} (hbytes : bytes ≠ [])
      (hroom : stream.taken bytes.length = 0) : Takes stream bytes false stream
  | write {stream after : Stream} {bytes : List UInt8} {complete : Bool} {count : Nat}
      (hpos : 0 < count) (hcount : count ≤ stream.taken bytes.length)
      (hmore : Takes { stream with written := stream.written ++ bytes.take count }
        (bytes.drop count) complete after) : Takes stream bytes complete after

/-- No more bytes are taken than there are. -/
theorem taken_le (stream : Stream) (n : Nat) : stream.taken n ≤ n := by
  unfold taken
  split
  · exact le_rfl
  · exact Nat.min_le_left _ _

/-- Where there is nothing to take, nothing is taken. -/
theorem taken_zero (stream : Stream) : stream.taken 0 = 0 := Nat.le_zero.mp (stream.taken_le 0)

/-- What a write takes is no longer free. -/
theorem taken_after_write {n count : Nat} (hcount : count ≤ stream.taken n) {front : List UInt8}
    (hfront : front.length = count) :
    ({ stream with written := stream.written ++ front } : Stream).taken (n - count) =
      stream.taken n - count := by
  unfold taken at hcount ⊢
  cases hlimit : stream.limit with
  | none => rfl
  | some limit =>
      rw [hlimit] at hcount
      simp only [List.length_append, hfront] at hcount ⊢
      omega

/-- In whatever writes a stream takes some bytes, it takes the beginning for which there is room. -/
theorem Takes.eq (h : stream.Takes bytes complete after) :
    complete = decide (stream.taken bytes.length = bytes.length) ∧
      after = { stream with
        written := stream.written ++ bytes.take (stream.taken bytes.length) } := by
  induction h with
  | all stream => simp [taken_zero]
  | @full stream bytes hbytes hroom =>
      have hlength : 0 ≠ bytes.length := fun h => hbytes (List.length_eq_zero_iff.mp h.symm)
      rw [hroom, List.take_zero, List.append_nil]
      exact ⟨(decide_eq_false hlength).symm, rfl⟩
  | @write stream after bytes complete count hpos hcount hmore ih =>
      have hle := hcount.trans (stream.taken_le bytes.length)
      have hroom := taken_after_write hcount (List.length_take_of_le hle)
      rw [List.length_drop, hroom] at ih
      obtain ⟨hcomplete, hafter⟩ := ih
      refine ⟨?_, ?_⟩
      · rw [hcomplete]
        congr 1
        exact propext (by omega)
      · rw [hafter, List.append_assoc, ← List.take_add, Nat.add_sub_cancel' hcount]

/-- Everything for which there is room may be taken at once, and then there is no room. -/
theorem takes_at_once (stream : Stream) (bytes : List UInt8) :
    stream.Takes bytes (decide (stream.taken bytes.length = bytes.length))
      { stream with written := stream.written ++ bytes.take (stream.taken bytes.length) } := by
  by_cases hbytes : bytes = []
  · subst hbytes
    simpa [taken_zero] using Takes.all stream
  have hlength : bytes.length ≠ 0 := fun h => hbytes (List.length_eq_zero_iff.mp h)
  rcases Nat.eq_zero_or_pos (stream.taken bytes.length) with hroom | hpos
  · rw [hroom, List.take_zero, List.append_nil, decide_eq_false hlength.symm]
    exact .full hbytes hroom
  · have hle := stream.taken_le bytes.length
    have hmore := taken_after_write le_rfl (List.length_take_of_le hle)
    refine .write hpos le_rfl ?_
    by_cases hall : stream.taken bytes.length = bytes.length
    · rw [decide_eq_true hall, List.drop_eq_nil_of_le hall.ge]
      exact .all _
    · rw [decide_eq_false hall]
      refine .full ?_ ?_
      · rw [Ne, List.drop_eq_nil_iff]
        omega
      · rw [List.length_drop, hmore, Nat.sub_self]

/-- **Writes.** In whatever writes a stream takes some bytes, it takes the beginning for which there is
room, and all of them were taken if there is room for all. -/
theorem takes_iff :
    stream.Takes bytes complete after ↔
      complete = decide (stream.taken bytes.length = bytes.length) ∧
        after = { stream with
          written := stream.written ++ bytes.take (stream.taken bytes.length) } := by
  constructor
  · exact Takes.eq
  · rintro ⟨rfl, rfl⟩
    exact takes_at_once stream bytes

/-- A message may be sent in this way: its line is taken in any writes, and the stream is flushed if
all of it was taken. -/
def Sends (stream : Stream) (message : Outgoing) (result : Except DeliveryFault Unit)
    (after : Stream) : Prop :=
  ∃ complete, stream.Takes (encode message.line) complete after ∧
    result =
      if complete then if stream.flushFails then .error ⟨"flush refused"⟩ else .ok ()
      else .error ⟨"writer full"⟩

/-- Messages may be sent in this way, one after the other. -/
inductive SendsAll : Stream → List Outgoing → List (Except DeliveryFault Unit) → Stream → Prop
  | nil (stream : Stream) : SendsAll stream [] [] stream
  | cons {stream after last : Stream} {message : Outgoing} {messages : List Outgoing}
      {result : Except DeliveryFault Unit} {results : List (Except DeliveryFault Unit)}
      (hfirst : stream.Sends message result after) (hmore : SendsAll after messages results last) :
      SendsAll stream (message :: messages) (result :: results) last

variable {message : Outgoing} {messages : List Outgoing} {result : Except DeliveryFault Unit}
  {results : List (Except DeliveryFault Unit)} {last : Stream}

/-- Whatever writes a message is sent in, the outcome is that of sending it at once. -/
theorem sends_iff : stream.Sends message result after ↔ (result, after) = stream.send message := by
  have hle := stream.taken_le (encode message.line).length
  simp only [Sends, takes_iff, send]
  by_cases hall : stream.taken (encode message.line).length = (encode message.line).length
  · have hnot : ¬ stream.taken (encode message.line).length < (encode message.line).length := by
      omega
    simp only [decide_eq_true hall, if_neg hnot, and_assoc]
    cases stream.flushFails <;> simp [and_comm]
  · have hlt : stream.taken (encode message.line).length < (encode message.line).length := by omega
    simp only [decide_eq_false hall, if_pos hlt]
    simp [and_comm]

/-- **Messages** in order are sent in one way only, in whatever writes their lines are taken. -/
theorem sendsAll_iff :
    stream.SendsAll messages results last ↔ (results, last) = stream.sendAll messages := by
  induction messages generalizing stream results with
  | nil =>
      constructor
      · rintro ⟨⟩
        rfl
      · rintro ⟨⟩
        exact .nil _
  | cons message messages ih =>
      constructor
      · rintro (_ | ⟨hfirst, hmore⟩)
        rw [sendAll, ← sends_iff.mp hfirst]
        simp only [← ih.mp hmore]
      · rintro ⟨⟩
        exact .cons (sends_iff.mpr rfl) (ih.mpr rfl)

/-! ### What is sent -/

/-- The bytes of the lines of messages, one after the other. -/
def lineBytes (messages : List Outgoing) : List UInt8 :=
  messages.flatMap fun message => encode message.line

/-- A stream with a limit to which some bytes have been sent. -/
def holding (limit : Nat) (flushFails : Bool) (sent : List UInt8) : Stream :=
  ⟨some limit, flushFails, sent.take limit⟩

/-- The result of a message with which so many bytes have been sent. -/
def verdict (limit : Nat) (flushFails : Bool) (sent : Nat) : Except DeliveryFault Unit :=
  if limit < sent then .error ⟨"writer full"⟩
  else if flushFails then .error ⟨"flush refused"⟩
  else .ok ()

variable {limit : Nat} {flushFails : Bool}

/-- When a message counts as sent. -/
theorem verdict_eq_ok_iff {sent : Nat} :
    verdict limit flushFails sent = .ok () ↔ flushFails = false ∧ sent ≤ limit := by
  unfold verdict
  split_ifs with hlimit hflush
  · simp [Nat.not_le.mpr hlimit]
  · simp [hflush]
  · simp [hflush, Nat.not_lt.mp hlimit]

/-- A line is never empty, since it has an end. -/
theorem length_line_pos (message : Outgoing) : 0 < (encode message.line).length := by
  have hline : ∃ front, message.line = front ++ "\n" := by
    cases hrecipient : message.recipient <;> simp only [Outgoing.line, hrecipient]
    · exact ⟨_, rfl⟩
    · exact ⟨_, rfl⟩
  obtain ⟨front, hfront⟩ := hline
  have hend : (Text.Utf8.encodeChars "\n".toList).length = 1 := by decide
  rw [encode, hfront, String.toList_append, Text.Utf8.encodeChars, List.flatMap_append,
    List.length_append]
  change 0 < _ + (Text.Utf8.encodeChars "\n".toList).length
  omega

/-- **One message** adds its line, as far as there is room for it. -/
theorem send_holding (limit : Nat) (flushFails : Bool) (sent : List UInt8) (message : Outgoing) :
    (holding limit flushFails sent).send message =
      (verdict limit flushFails (sent ++ encode message.line).length,
        holding limit flushFails (sent ++ encode message.line)) := by
  have hpos := length_line_pos message
  generalize hline : encode message.line = line at hpos ⊢
  have htaken : (holding limit flushFails sent).taken line.length =
      min line.length (limit - sent.length) := by
    simp only [holding, taken, List.length_take]
    omega
  have hfull : min line.length (limit - sent.length) < line.length ↔
      limit < sent.length + line.length := by omega
  have hwritten : sent.take limit ++ line.take (min line.length (limit - sent.length)) =
      (sent ++ line).take limit := by
    rw [List.take_append, Nat.min_comm, ← List.take_take, List.take_length]
  simp only [send, hline, htaken, hfull, verdict, List.length_append]
  simp only [holding, hwritten]
  split_ifs <;> rfl

/-- **Messages in order** add their lines, and each has the result that belongs to the bytes that have
been sent with it. -/
theorem sendAll_holding (limit : Nat) (flushFails : Bool) (sent : List UInt8)
    (messages : List Outgoing) :
    ((holding limit flushFails sent).sendAll messages).2 =
        holding limit flushFails (sent ++ lineBytes messages) ∧
      ∀ i, ((holding limit flushFails sent).sendAll messages).1[i]? =
        if i < messages.length then
          some (verdict limit flushFails (sent ++ lineBytes (messages.take (i + 1))).length)
        else none := by
  induction messages generalizing sent with
  | nil => simp [sendAll, lineBytes]
  | cons message messages ih =>
      obtain ⟨hlast, hresults⟩ := ih (sent ++ encode message.line)
      have hcons (rest : List Outgoing) :
          sent ++ lineBytes (message :: rest) = sent ++ encode message.line ++ lineBytes rest := by
        rw [lineBytes, List.flatMap_cons, List.append_assoc, lineBytes]
      rw [sendAll, send_holding]
      refine ⟨?_, fun i => ?_⟩
      · rw [hcons]
        exact hlast
      · cases i with
        | zero => simp [lineBytes]
        | succ i =>
            rw [List.getElem?_cons_succ, hresults, List.length_cons, List.take_succ_cons, hcons]
            simp only [Nat.add_lt_add_iff_right]

/-! ### The beginning that is taken -/

/-- There is a result for each message. -/
theorem length_sendAll (stream : Stream) (messages : List Outgoing) :
    (stream.sendAll messages).1.length = messages.length := by
  induction messages generalizing stream with
  | nil => rfl
  | cons message messages ih => rw [sendAll, List.length_cons, List.length_cons, ih]

/-- More messages take no fewer bytes. -/
theorem length_lineBytes_take_mono {i j : Nat} (h : i ≤ j) :
    (lineBytes (messages.take i)).length ≤ (lineBytes (messages.take j)).length := by
  have hprefix : lineBytes (messages.take i) <+: lineBytes (messages.take j) :=
    (List.take_prefix_take_left h).flatMap _
  exact hprefix.length_le

/-- **A faithful beginning.** Messages are sent in order to a stream that takes so many bytes in all.

* The bytes that were written are the beginning of their lines, as far as the limit goes. A flush that
  fails changes none of them.
* A message was sent exactly if flushing works and the lines up to its own fit. So those that were sent
  are the first ones, as many as the greatest number up to which all were sent, and if flushing fails every message is a delivery fault.
* In whatever writes the lines are taken, the results and the bytes are these. -/
theorem sendAll_beginning (limit : Nat) (flushFails : Bool) (messages : List Outgoing) :
    let stream : Stream := ⟨some limit, flushFails, []⟩
    let results := (stream.sendAll messages).1
    (stream.sendAll messages).2.written = (lineBytes messages).take limit ∧
      results.length = messages.length ∧
      (∀ i, results[i]? = some (.ok ()) ↔
        i < messages.length ∧ flushFails = false ∧
          (lineBytes (messages.take (i + 1))).length ≤ limit) ∧
      (∃ count ≤ messages.length, ∀ i, results[i]? = some (.ok ()) ↔ i < count) ∧
      (flushFails = true → ∀ result ∈ results, ∃ fault, result = .error fault) ∧
      ∀ results' last, stream.SendsAll messages results' last ↔
        (results', last) = stream.sendAll messages := by
  intro stream results
  have hstream : stream = holding limit flushFails [] := by
    simp only [stream, holding, List.take_nil]
  obtain ⟨hlast, hresults⟩ := sendAll_holding limit flushFails [] messages
  rw [← hstream] at hlast hresults
  have hsent (i : Nat) : results[i]? = some (.ok ()) ↔
      i < messages.length ∧ flushFails = false ∧
        (lineBytes (messages.take (i + 1))).length ≤ limit := by
    rw [hresults i, List.nil_append]
    split_ifs with hi
    · rw [Option.some.injEq, verdict_eq_ok_iff, eq_true hi, true_and]
    · simp [hi]
  have hlength := stream.length_sendAll messages
  refine ⟨by rw [hlast]; rfl, hlength, hsent, ?_, ?_, fun results' last => sendsAll_iff⟩
  · refine ⟨Nat.findGreatest (fun n => ∀ i < n, results[i]? = some (.ok ())) messages.length,
      Nat.findGreatest_le _, fun i => ⟨fun hi => ?_, fun hi => ?_⟩⟩
    · refine Nat.lt_of_succ_le (Nat.le_findGreatest ((hsent i).mp hi).1 fun j hj => ?_)
      obtain ⟨hlt, hflush, hfits⟩ := (hsent i).mp hi
      exact (hsent j).mpr ⟨by omega, hflush, (length_lineBytes_take_mono (by omega)).trans hfits⟩
    · have hall := Nat.findGreatest_spec (P := fun n => ∀ i < n, results[i]? = some (.ok ()))
        (Nat.zero_le messages.length) (fun i hi => absurd hi (Nat.not_lt_zero i))
      exact hall i hi
  · intro hflush result hresult
    cases result with
    | error fault => exact ⟨fault, rfl⟩
    | ok sent =>
        obtain ⟨i, hi⟩ := List.mem_iff_getElem?.mp hresult
        have hworks := ((hsent i).mp hi).2.1
        exact absurd (hflush.symm.trans hworks) (by decide)

/-- A limit within a character of the second line: the first message is sent if flushing works, and
the bytes break off behind the first byte of the character. -/
theorem sendAll_beginning_broken :
    let messages : List Outgoing := [⟨.room "ops", "up"⟩, ⟨.user "zoë", "ok"⟩]
    let working : Stream := ⟨some 14, false, []⟩
    let failing : Stream := ⟨some 14, true, []⟩
    (working.sendAll messages).2.written = (lineBytes messages).take 14 ∧
      (0 < messages.length ∧ false = false ∧ (lineBytes (messages.take (0 + 1))).length ≤ 14) ∧
      (working.sendAll messages).1[0]? = some (.ok ()) ∧
      (working.sendAll messages).1 = [.ok (), .error ⟨"writer full"⟩] ∧
      (failing.sendAll messages).2.written = (lineBytes messages).take 14 ∧
      (true = true ∧ ∀ result ∈ (failing.sendAll messages).1, ∃ fault, result = .error fault) ∧
      (failing.sendAll messages).1 = [.error ⟨"flush refused"⟩, .error ⟨"writer full"⟩] := by
  intro messages working failing
  obtain ⟨hworking, -, hsent, -⟩ := sendAll_beginning 14 false messages
  obtain ⟨hfailing, -, -, -, hfaults, -⟩ := sendAll_beginning 14 true messages
  have hfits : (lineBytes (messages.take (0 + 1))).length ≤ 14 := by decide
  have hfirst : 0 < messages.length ∧ false = false ∧
      (lineBytes (messages.take (0 + 1))).length ≤ 14 := ⟨by decide, rfl, hfits⟩
  exact ⟨hworking, hfirst, (hsent 0).mpr hfirst, by decide, hfailing, ⟨rfl, hfaults rfl⟩,
    by decide⟩

end Switchboard.Chat.Stream
