import PolicyServer.Lib.Words
import PolicyServer.SessionThread
import PolicyServer.WireDeterminism

namespace PolicyServer

open Lib

/-!
# What is put on a connection

`sock_write` hands a message to the kernel once.  The socket does not block, so the
kernel may take a part of the message or nothing; this is logged, but the rest is not
written later, and neither is the connection given up.  The next message then stands
behind a part of one, and the peer takes its first bytes for the rest.
`intact_iff` is which runs of writers are spared.
-/

/-! ## The messages -/

/-- What `sock_write` is called with: the Client-Accept of the session thread, its
answer to a Keep-Alive, and the decisions of the handlers. -/
inductive IsOutgoing : List UInt8 -> Prop
  | clientAccept (kaTimer acTimer : UInt32) : IsOutgoing (copsClientAccept kaTimer acTimer)
  | keepalive : IsOutgoing copsKeepalive
  | decision (handler : GateHandler) (getps : Option String -> Option Session)
      (four : forall ip session, getps ip = some session -> session.handle.length = 4)
      (input : Option Json) (behind : Memory) (txnId : UInt16) (locals : Locals) (built : Built)
      (builds : handler.message getps input behind txnId locals = some built)
      (sent : gctlOtoi input "dry_run" = 0) : IsOutgoing built.message.bytes

/-- A complete message. -/
def IsFrame (bytes : List UInt8) : Prop :=
  Exists fun frame : Frame => bytes = frame.bytes

/-- A decision with a short payload is complete. -/
theorem psProxy_frame {addr : UInt32} {self : Session} {op : GateOp} {gc : Gctl}
    {request : List UInt8} {txnId : UInt16} {built : Built} (four : self.handle.length = 4)
    (short : request.length ≤ 428)
    (builds : psProxy addr self op gc request txnId = some built) :
    IsFrame built.message.bytes := by
  rcases psProxy_parts builds with ⟨ip, subscriber, _, sub, rfl⟩
  have whole := ctlSub_length sub
  have size := decSize_le op gc ip request.length
  have fits : decSize op gc ip request.length < 65536 := by omega
  have body : (decisionBody (ctlHnd gc self.handle) op gc ip request txnId
      subscriber.bytes).length + 8 = msgSize op gc ip request.length :=
    decisionBody_length (ctlHnd_length gc four.ge) whole txnId
  have few : msgSize op gc ip request.length < 65536 := by
    rw [msgSize]
    omega
  rw [psProxyBuild_message four whole fits, ← body]
  rw [← body] at few
  exact ⟨Frame.pcmm 2 _ few, rfl⟩

/-- Every message is complete. -/
theorem IsOutgoing.frame {msg : List UInt8} (outgoing : IsOutgoing msg) : IsFrame msg := by
  cases outgoing with
  | clientAccept kaTimer acTimer =>
      by_cases zero : acTimer = 0
      · refine ⟨Frame.pcmm 7 ([0, 8, 10, 1] ++ packU32Be kaTimer) (by simp), ?_⟩
        rw [copsClientAccept, if_pos zero, if_pos zero]
        rfl
      · refine ⟨Frame.pcmm 7 ([0, 8, 10, 1] ++ packU32Be kaTimer ++ ([0, 8, 15, 1] ++
          packU32Be acTimer)) (by simp), ?_⟩
        rw [copsClientAccept, if_neg zero, if_neg zero]
        rfl
  | keepalive =>
      exact ⟨Frame.mk 16 9 0 [] (by decide) (Or.inr ⟨rfl, rfl⟩) (by decide), rfl⟩
  | decision handler getps four input behind txnId locals built builds sent =>
      cases handler with
      | gctl04 =>
          rcases Option.bind_eq_some_iff.mp builds with ⟨prepared, made, rest⟩
          cases prepared with
          | refused => cases rest
          | payload gc data =>
              rcases Option.bind_eq_some_iff.mp rest with ⟨client, found, proxied⟩
              exact psProxy_frame (four _ client found) (gctl04Payload_short made) proxied
      | gctl07 =>
          rcases Option.bind_eq_some_iff.mp builds with ⟨ps, found, proxied⟩
          exact psProxy_frame (four _ ps found) (Nat.zero_le _) proxied
      | gctl10 =>
          rcases Option.bind_eq_some_iff.mp builds with ⟨ps, found, proxied⟩
          exact psProxy_frame (four _ ps found) (Nat.zero_le _) proxied

/-- The length field is among the first eight bytes, so no message begins with another. -/
theorem frames_delimited : Delimited IsFrame where
  filled := by
    rintro _ ⟨frame, rfl⟩ none
    have size := congrArg List.length none
    have positive := frame.size_pos
    rw [frame.bytes_length, List.length_nil] at size
    omega
  apart := by
    rintro _ _ ⟨left, rfl⟩ ⟨right, rfl⟩ ⟨rest, same⟩
    have headers : left.header = right.header := by
      rw [Frame.bytes, Frame.bytes, List.append_assoc] at same
      exact (List.append_inj same (left.header_length.trans right.header_length.symm)).1
    have lengths : left.length = right.length := by
      have fields := (List.append_inj headers rfl).2
      have field : packU32Be left.length = packU32Be right.length := (List.append_inj fields rfl).2
      have bytes := (unpackN_of_holds (Memory.behind_holds (packU32Be left.length) fun _ => 0))
      rw [field] at bytes
      exact bytes.symm.trans (unpackN_of_holds (Memory.behind_holds _ _))
    have sizes := congrArg UInt32.toNat lengths
    rw [left.length_toNat, right.length_toNat] at sizes
    have long : left.bytes.length = right.bytes.length := by
      rw [left.bytes_length, right.bytes_length, sizes]
    exact (List.append_inj (same.trans (List.append_nil _).symm) long).1

/-! ## The calls -/

/-- A call of `sock_write`, with what it reads of `connection` and what the kernel
answers. -/
structure SockWrite where
  msg : List UInt8
  outgoing : IsOutgoing msg
  connection : Bool
  bytes : Option Nat

namespace SockWrite

/-- The kernel takes a part of the message. -/
def TakenInPart (call : SockWrite) : Prop :=
  call.connection = true ∧ Exists fun bytes => call.bytes = some bytes ∧ 0 < bytes ∧
    bytes < call.msg.length

/-- Nothing of the message is taken. -/
def NotTaken (call : SockWrite) : Prop :=
  call.connection = false ∨ call.bytes = none ∨ call.bytes = some 0

end SockWrite

/-- What calls one after the other put on a connection. -/
def onConnection (calls : List SockWrite) : List UInt8 :=
  calls.foldl (fun stream call => sockWrite call.connection stream call.msg call.bytes) []

/-- In every state of a run, there are complete messages on the connection, or nothing
more is put on it. -/
def Intact (calls : List SockWrite) : Prop :=
  forall before after, calls = before ++ after ->
    (Exists fun frames : List Frame => onConnection before = frames.flatMap Frame.bytes) ∨
      onConnection calls = onConnection before

/-- The bytes that an event puts on its connection. -/
def Event.bytes : Event -> List UInt8
  | .sent bytes => bytes
  | .received _ => []

/-- Where the kernel takes all of a message or nothing, `sock_write` is the step of the
session thread. -/
theorem send_eq_sockWrite {life : Life} {number : Nat} (own : life.target = some (.own number))
    (msg : List UInt8) (written : Bool) :
    ((life.send msg written).log number).flatMap Event.bytes =
      sockWrite life.connection ((life.log number).flatMap Event.bytes) msg
        (if written then some msg.length else none) := by
  unfold Life.send sockWrite
  cases life.connection with
  | false => rfl
  | true =>
      cases written with
      | false => rfl
      | true =>
          have recorded : (life.record number [.sent msg]).log number =
              life.log number ++ [.sent msg] := Function.update_self ..
          have whole : [Event.sent msg].flatMap Event.bytes = msg := List.append_nil msg
          simp only [Bool.and_self, Bool.not_true, Bool.false_eq_true, if_true, if_false, own]
          rw [recorded, List.flatMap_append, whole, List.take_length]

/-! ## The calls as writers of messages -/

theorem sockWrite_eq (connection : Bool) (stream msg : List UInt8) (bytes : Option Nat) :
    sockWrite connection stream msg bytes = stream ++ sockWrite connection [] msg bytes := by
  cases connection with
  | false => exact (List.append_nil stream).symm
  | true =>
      cases bytes with
      | none => exact (List.append_nil stream).symm
      | some bytes => rfl

theorem sockWrite_prefix (connection : Bool) (msg : List UInt8) (bytes : Option Nat) :
    sockWrite connection [] msg bytes <+: msg := by
  cases connection with
  | false => exact List.nil_prefix
  | true =>
      cases bytes with
      | none => exact List.nil_prefix
      | some bytes => exact List.take_prefix bytes msg

def messageWriters : Writers IsFrame SockWrite where
  word := fun call => call.msg
  put := fun call => sockWrite call.connection [] call.msg call.bytes
  isWord := fun call => call.outgoing.frame
  front := fun call => sockWrite_prefix call.connection call.msg call.bytes

theorem onConnection_eq (calls : List SockWrite) :
    onConnection calls = messageWriters.stream calls := by
  have general : forall stream, calls.foldl
      (fun stream call => sockWrite call.connection stream call.msg call.bytes) stream =
        stream ++ messageWriters.stream calls := by
    induction calls with
    | nil => exact fun stream => (List.append_nil stream).symm
    | cons call calls inductionHypothesis =>
        intro stream
        rw [List.foldl_cons, inductionHypothesis, sockWrite_eq, Writers.stream_cons,
          List.append_assoc]
        rfl
  exact general []

theorem words_iff (stream : List UInt8) :
    Words IsFrame stream ↔ Exists fun frames : List Frame => stream = frames.flatMap Frame.bytes := by
  constructor
  · rintro ⟨words, each, rfl⟩
    induction words with
    | nil => exact ⟨[], rfl⟩
    | cons word words inductionHypothesis =>
        rcases each word List.mem_cons_self with ⟨frame, rfl⟩
        rcases inductionHypothesis (fun other member => each other (List.mem_cons_of_mem _ member))
          with ⟨frames, same⟩
        exact ⟨frame :: frames, by rw [List.flatten_cons, List.flatMap_cons, same]⟩
  · rintro ⟨frames, rfl⟩
    refine ⟨frames.map Frame.bytes, ?_, List.flatMap_def⟩
    intro word member
    rcases List.mem_map.mp member with ⟨frame, _, rfl⟩
    exact ⟨frame, rfl⟩

theorem intact_iff_unbroken (calls : List SockWrite) :
    Intact calls ↔ messageWriters.Unbroken calls := by
  have split : forall before after, calls = before ++ after ->
      (onConnection calls = onConnection before ↔ messageWriters.stream after = []) := by
    rintro before after rfl
    rw [onConnection_eq, onConnection_eq, Writers.stream_append]
    exact List.append_right_eq_self
  constructor
  · intro intact before after same
    rcases intact before after same with frames | none
    · exact Or.inl ((words_iff _).mpr (onConnection_eq before ▸ frames))
    · exact Or.inr ((split before after same).mp none)
  · intro unbroken before after same
    rcases unbroken before after same with words | none
    · exact Or.inl (onConnection_eq before ▸ (words_iff _).mp words)
    · exact Or.inr ((split before after same).mpr none)

namespace SockWrite

theorem put_eq_nil_iff (call : SockWrite) : messageWriters.put call = [] ↔ call.NotTaken := by
  have positive : call.msg ≠ [] := frames_delimited.filled _ call.outgoing.frame
  rcases call with ⟨msg, outgoing, connection, bytes⟩
  cases connection with
  | false => exact iff_of_true rfl (Or.inl rfl)
  | true =>
      cases bytes with
      | none => exact iff_of_true rfl (Or.inr (Or.inl rfl))
      | some bytes =>
          change msg.take bytes = [] ↔ _
          rw [List.take_eq_nil_iff]
          constructor
          · rintro (zero | empty)
            · exact Or.inr (Or.inr (congrArg some zero))
            · exact absurd empty positive
          · rintro (closed | failed | zero)
            · cases closed
            · cases failed
            · exact Or.inl (Option.some.inj zero)

theorem cut_iff (call : SockWrite) : messageWriters.Cut call ↔ call.TakenInPart := by
  rw [Writers.Cut, Ne, put_eq_nil_iff]
  rcases call with ⟨msg, outgoing, connection, bytes⟩
  cases connection with
  | false => exact iff_of_false (fun cut => cut.1 (Or.inl rfl)) (fun part => Bool.noConfusion part.1)
  | true =>
      cases bytes with
      | none =>
          refine iff_of_false (fun cut => cut.1 (Or.inr (Or.inl rfl))) ?_
          rintro ⟨_, bytes, some', _⟩
          cases some'
      | some bytes =>
          constructor
          · rintro ⟨taken, part⟩
            refine ⟨rfl, bytes, rfl, ?_, ?_⟩
            · apply Nat.pos_of_ne_zero
              intro zero
              exact taken (Or.inr (Or.inr (congrArg some zero)))
            · by_contra long
              exact part (List.take_of_length_le (Nat.le_of_not_lt long))
          · rintro ⟨_, count, same, positive, small⟩
            cases same
            refine ⟨?_, ?_⟩
            · rintro (closed | failed | zero)
              · cases closed
              · cases failed
              · exact absurd (Option.some.inj zero) (Nat.ne_of_gt positive)
            · intro whole
              have length := congrArg List.length whole
              have taken : (messageWriters.put ⟨msg, outgoing, true, some bytes⟩).length = bytes :=
                (List.length_take).trans (Nat.min_eq_left (Nat.le_of_lt small))
              exact absurd (taken.symm.trans length) (Nat.ne_of_lt small)

end SockWrite

/-- A connection stays intact exactly in the runs where nothing is taken any more after
a message that was taken in part. -/
theorem intact_iff (calls : List SockWrite) :
    Intact calls ↔ forall before call after, calls = before ++ call :: after ->
      call.TakenInPart -> forall later, later ∈ after -> later.NotTaken := by
  rw [intact_iff_unbroken, Writers.unbroken_iff frames_delimited]
  have silent : forall after, messageWriters.stream after = [] ↔
      forall later, later ∈ after -> later.NotTaken := by
    intro after
    rw [Writers.stream, List.flatMap_eq_nil_iff]
    exact forall₂_congr fun later _ => later.put_eq_nil_iff
  constructor
  · intro unbroken before call after same part
    exact (silent after).mp (unbroken before call after same (call.cut_iff.mpr part))
  · intro spared before call after same cut
    exact (silent after).mpr (spared before call after same (call.cut_iff.mp cut))

/-- A Client-Accept of which the kernel takes four bytes. -/
def shortAccept : SockWrite where
  msg := copsClientAccept 30 0
  outgoing := .clientAccept 30 0
  connection := true
  bytes := some 4

/-- A Keep-Alive that is written. -/
def wholeKeepalive : SockWrite where
  msg := copsKeepalive
  outgoing := .keepalive
  connection := true
  bytes := some 8

theorem shortAccept_broken : ¬ Intact [shortAccept, wholeKeepalive] := by
  intro intact
  rcases intact [shortAccept] [wholeKeepalive] rfl with ⟨frames, same⟩ | more
  · have four : (onConnection [shortAccept]).length = 4 := rfl
    rw [same] at four
    cases frames with
    | nil => cases four
    | cons frame frames =>
        have large := frame.size_pos
        rw [List.flatMap_cons, List.length_append, frame.bytes_length] at four
        omega
  · have longer : (onConnection [shortAccept, wholeKeepalive]).length = 12 := rfl
    rw [more] at longer
    cases longer

end PolicyServer
