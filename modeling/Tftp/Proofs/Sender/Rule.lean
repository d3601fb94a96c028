import Tftp.Proofs.Exchanges
import Tftp.Simulation.World

/-! # The sender's rule, read off a run

    What a sending session must do is a function of what it read from the pipe and of the
    datagrams that reached it: it reads the next block only once the peer acknowledged the last
    one (a server starts ready, a client waits for the acknowledgement of its request, block 0);
    it sends that block as DATA with the next block number, wrapping after 65535, once the block
    is full or the stream ended; until the block is acknowledged it only sends it again.  An ACK
    counts only from the peer, pinned by the first datagram that decodes, and only for the last
    block sent.  This module states that rule over the exchanges of a run, without the session's
    state.

    * `Pushed` is what the rule has sent so far, `Pushed.after` folds it over a run.
    * `Pushed.Permits` says which exchanges the rule allows after a record; `FollowsRule` says
      that every exchange of a run is allowed where it stands.
    * `SenderContract` is what a sender's whole run must show: it follows the rule, it ended
      done exactly when its last block was short and acknowledged, and then it had sent the
      whole stream.
    * `Exchange.FitsPipe` is what the pipe guarantees of its answers: a read never returns more
      than it asked for.  The scripted world keeps to it (`World.answer_fitsPipe`). -/

namespace Tftp

namespace Exchange

/-- The exchange read from the pipe. -/
def isRead : Exchange → Bool
  | (.stream (.read _ _), _) => true
  | _ => false

/-- The bytes a read from the pipe returned. -/
def read? : Exchange → Option (List UInt8)
  | (.stream (.read _ _), .streamed (.ok (.bytes data))) => some data
  | _ => none

/-- A read of at most `size` bytes is answered as the pipe answers it: with at most that many
    bytes, or with a failure. -/
def FitsPipe : Exchange → Prop
  | (.stream (.read (.upTo size) _), y) =>
    (∃ data, y = .streamed (.ok (.bytes data)) ∧ data.length ≤ size) ∨
      ∃ f, y = .streamed (.error f)
  | _ => True

@[simp] theorem read?_now (x : Response) : read? (.now, x) = none := rfl
@[simp] theorem read?_localAddress (x : Response) : read? (.localAddress, x) = none := rfl
@[simp] theorem read?_send (bytes : List UInt8) (target : Address) (x : Response) :
    read? (.send bytes target, x) = none := rfl
@[simp] theorem read?_receive (t : Number) (phase : Option Phase) (x : Response) :
    read? (.receive t phase, x) = none := rfl
@[simp] theorem read?_closeStream (error : Option Failure) (x : Response) :
    read? (.closeStream error, x) = none := rfl
@[simp] theorem read?_closeSocket (x : Response) : read? (.closeSocket, x) = none := rfl
@[simp] theorem read?_report (stats : Stats) (x : Response) : read? (.report stats, x) = none :=
  rfl
@[simp] theorem read?_bytes (cut : Cut) (waiting : Bool) (data : List UInt8) :
    read? (.stream (.read cut waiting), .streamed (.ok (.bytes data))) = some data := rfl
@[simp] theorem read?_error (cut : Cut) (waiting : Bool) (f : Failure) :
    read? (.stream (.read cut waiting), .streamed (.error f)) = none := rfl

@[simp] theorem isRead_read (cut : Cut) (waiting : Bool) (x : Response) :
    isRead (.stream (.read cut waiting), x) = true := rfl

end Exchange

/-- The bytes read from the pipe in a run, in order. -/
def readBytes (H : List Exchange) : List UInt8 := (H.filterMap Exchange.read?).flatten

/-- A read of the run found the end of the stream: it returned no bytes. -/
def EndOfStream (H : List Exchange) : Prop := ∃ e ∈ H, e.read? = some []

@[simp] theorem readBytes_nil : readBytes [] = [] := rfl

theorem EndOfStream.append_left {h δ : List Exchange} (he : EndOfStream δ) :
    EndOfStream (h ++ δ) := by
  obtain ⟨e, hmem, hread⟩ := he
  exact ⟨e, List.mem_append_right h hmem, hread⟩

theorem EndOfStream.append_right {h δ : List Exchange} (he : EndOfStream h) :
    EndOfStream (h ++ δ) := by
  obtain ⟨e, hmem, hread⟩ := he
  exact ⟨e, List.mem_append_left δ hmem, hread⟩

@[simp] theorem readBytes_append (h t : List Exchange) :
    readBytes (h ++ t) = readBytes h ++ readBytes t := by
  simp [readBytes]

@[simp] theorem readBytes_cons (e : Exchange) (h : List Exchange) :
    readBytes (e :: h) = (e.read?.getD []) ++ readBytes h := by
  unfold readBytes
  rw [List.filterMap_cons]
  cases hr : e.read? <;> simp

/-- What the rule has sent: the peer it is pinned to, if any yet; the blocks sent fresh, in
    order; and whether the last of them, or before any the request, was acknowledged. -/
structure Pushed where
  peer : Option Address
  payloads : List (List UInt8)
  acked : Bool

namespace Pushed

/-- Before any datagram: a server knows its peer and is ready to send, a client waits for the
    acknowledgement of its request. -/
def start (client : Bool) (server : Address) : Pushed :=
  ⟨if client then none else some server, [], !client⟩

/-- The block number of the last block sent, counting from 1 and wrapping after 65535; 0 before
    any. -/
def lastBlock (d : Pushed) : Int := ((d.payloads.length % 65536 : Nat) : Int)

/-- The block number the next block is sent with. -/
def nextBlock (d : Pushed) : Int := (((d.payloads.length + 1) % 65536 : Nat) : Int)

/-- The rule takes datagrams from the source: no peer is pinned yet, or it is the peer. -/
def takesFrom (d : Pushed) (source : Address) : Bool :=
  match d.peer with
  | some peer => peer == source
  | none => true

/-- The packet acknowledges the last block sent. -/
def acksLast (d : Pushed) : Packet → Bool
  | .ack block => block == d.lastBlock
  | _ => false

/-- The last block sent was short: the transfer's last block. -/
def lastShort (d : Pushed) : Bool :=
  match d.payloads.getLast? with
  | some p => decide (p.length < blockSize)
  | none => false

/-- The record after a datagram: one that decodes pins the peer, and an ACK of the last block
    from the peer acknowledges it. -/
def take (d : Pushed) (bytes : List UInt8) (source : Address) : Pushed :=
  match Packet.decode bytes with
  | .error _ => d
  | .ok p =>
    { d with peer := some (d.peer.getD source)
             acked := d.acked || (d.acksLast p && d.takesFrom source) }

/-- The record after a datagram sent: DATA sent once the last block was acknowledged is the
    next block, which now waits for its acknowledgement. -/
def push (d : Pushed) (bytes : List UInt8) : Pushed :=
  match Packet.decode bytes with
  | .ok (.data _ payload) =>
    if d.acked then { d with payloads := d.payloads ++ [payload], acked := false } else d
  | _ => d

/-- The record after one exchange: only datagrams sent and received change it. -/
def step (d : Pushed) : Exchange → Pushed
  | (.receive _ _, .datagram bytes source) => d.take bytes source
  | (.send bytes _, _) => d.push bytes
  | _ => d

/-- The record after the exchanges of a run. -/
def after (d : Pushed) (h : List Exchange) : Pushed := h.foldl step d

@[simp] theorem after_nil (d : Pushed) : d.after [] = d := rfl

@[simp] theorem after_append (d : Pushed) (h t : List Exchange) :
    d.after (h ++ t) = (d.after h).after t := List.foldl_append

@[simp] theorem after_cons (d : Pushed) (e : Exchange) (h : List Exchange) :
    d.after (e :: h) = (d.step e).after h := rfl

@[simp] theorem step_now (d : Pushed) (x : Response) : d.step (.now, x) = d := rfl
@[simp] theorem step_localAddress (d : Pushed) (x : Response) : d.step (.localAddress, x) = d :=
  rfl
@[simp] theorem step_stream (d : Pushed) (call : Call) (x : Response) :
    d.step (.stream call, x) = d := rfl
@[simp] theorem step_closeStream (d : Pushed) (error : Option Failure) (x : Response) :
    d.step (.closeStream error, x) = d := rfl
@[simp] theorem step_closeSocket (d : Pushed) (x : Response) : d.step (.closeSocket, x) = d := rfl
@[simp] theorem step_report (d : Pushed) (stats : Stats) (x : Response) :
    d.step (.report stats, x) = d := rfl
@[simp] theorem step_send (d : Pushed) (bytes : List UInt8) (target : Address) (x : Response) :
    d.step (.send bytes target, x) = d.push bytes := rfl
@[simp] theorem step_arrival (d : Pushed) (t : Number) (phase : Option Phase)
    (bytes : List UInt8) (source : Address) :
    d.step (.receive t phase, .datagram bytes source) = d.take bytes source := rfl

/-- A datagram sent that is no DATA changes nothing. -/
theorem push_of_not_data {d : Pushed} {bytes : List UInt8}
    (hnot : ∀ block payload, Packet.decode bytes ≠ .ok (.data block payload)) :
    d.push bytes = d := by
  unfold push
  split
  · next block payload hdec => exact absurd hdec (hnot block payload)
  · rfl

/-- The next block, sent once the last one was acknowledged. -/
theorem push_fresh {d : Pushed} {bytes : List UInt8} {block : Int} {payload : List UInt8}
    (hdec : Packet.decode bytes = .ok (.data block payload)) (hacked : d.acked = true) :
    d.push bytes = { d with payloads := d.payloads ++ [payload], acked := false } := by
  simp [push, hdec, hacked]

/-- The last block, sent again while it waits for its acknowledgement. -/
theorem push_again {d : Pushed} {bytes : List UInt8} (hacked : d.acked = false) :
    d.push bytes = d := by
  unfold push
  split
  · rw [if_neg (by simp [hacked])]
  · rfl

end Pushed

/-! ## What the rule permits -/

/-- What the rule permits a sender to do at the exchange `e`, after the record `d`, with `read`
    the bytes read from the pipe so far and `eof` whether the stream ended:
    * a read from the pipe only once the last block sent was acknowledged;
    * a wait for a datagram, for a server, only once it sent its first block;
    * DATA, once the last block was acknowledged, only the next block: its number is the next
      one, its payload is what was read since the last block, every block before it is full, and
      it is full itself unless the stream ended; before that, only the last block again. -/
def Pushed.Permits (client : Bool) (d : Pushed) (read : List UInt8) (eof : Prop) :
    Exchange → Prop
  | (.stream (.read _ _), _) => d.acked = true
  | (.receive _ _, _) => client = true ∨ d.payloads ≠ []
  | (.send bytes _, _) => ∀ block payload, Packet.decode bytes = .ok (.data block payload) →
      (d.acked = true → block = d.nextBlock ∧ read = d.payloads.flatten ++ payload ∧
        (∀ q ∈ d.payloads, q.length = blockSize) ∧ payload.length ≤ blockSize ∧
        (payload.length < blockSize → eof)) ∧
      (d.acked = false → block = d.lastBlock ∧ d.payloads.getLast? = some payload)
  | _ => True

/-- Every exchange of the run is one the rule permits where it stands. -/
def FollowsRule (client : Bool) (d₀ : Pushed) (H : List Exchange) : Prop :=
  ∀ A e B, H = A ++ e :: B →
    Pushed.Permits client (d₀.after A) (readBytes A) (EndOfStream A) e

/-- The contract of a sender's whole run `H`, for a client, or a server of the peer `server`;
    `done` says whether the session ended done. -/
structure SenderContract (client : Bool) (server : Address) (done : Prop) (H : List Exchange) :
    Prop where
  /-- every exchange is one the rule permits where it stands -/
  follows : FollowsRule client (Pushed.start client server) H
  /-- the session ended done exactly when its last block was short and acknowledged -/
  finished : done ↔ ((Pushed.start client server).after H).acked = true ∧
    ((Pushed.start client server).after H).lastShort = true
  /-- a session that ended done read to the end of the stream, and sent every byte it read -/
  complete : done → EndOfStream H ∧
    readBytes H = ((Pushed.start client server).after H).payloads.flatten

variable {client : Bool} {d₀ : Pushed} {h δ : List Exchange}

/-- The rule is followed after more exchanges if each of them is permitted where it stands. -/
theorem FollowsRule.append (hh : FollowsRule client d₀ h)
    (hnew : ∀ A e B, δ = A ++ e :: B →
      Pushed.Permits client (d₀.after (h ++ A)) (readBytes (h ++ A)) (EndOfStream (h ++ A)) e) :
    FollowsRule client d₀ (h ++ δ) := by
  unfold FollowsRule
  rw [forall_split_append]
  exact ⟨fun A e B hsplit => hh A e B hsplit, hnew⟩

/-! ## The pipe keeps to its sizes -/

/-- A read of at most `size` bytes returns at most that many bytes, or fails. -/
def ReadFits (size : Nat) : Except Failure Reply → Prop
  | .ok (.bytes data) => data.length ≤ size
  | .ok (.count _) => False
  | .error _ => True

/-- One step of a read of at most `size` bytes returns within the size, or waits on. -/
theorem Call.step_read (size : Nat) (waiting : Bool) (p : Pipe) :
    (∃ r p', Call.step (.read (.upTo size) waiting) p = .returns r p' ∧ ReadFits size r) ∨
      ∃ p', Call.step (.read (.upTo size) waiting) p = .continues (.read (.upTo size) true) p' := by
  unfold Call.step
  dsimp only
  split
  · exact .inl ⟨_, _, rfl, trivial⟩
  · split
    · exact .inl ⟨_, _, rfl, List.length_take_le _ _⟩
    · split
      · exact .inl ⟨_, _, rfl, trivial⟩
      · exact .inl ⟨_, _, rfl, Nat.zero_le _⟩
      · exact .inr ⟨_, rfl⟩

namespace World

/-- However long the world lets the handler run, a read of at most `size` bytes returns within
    the size, or fails. -/
theorem perform_read (size : Nat) :
    ∀ (fuel : Nat) (waiting : Bool) (w : World),
      ReadFits size (perform fuel (.read (.upTo size) waiting) w).1 := by
  intro fuel
  induction fuel with
  | zero => intro waiting w; trivial
  | succ n ih =>
    intro waiting w
    unfold perform
    split
    · rcases Call.step_read size waiting w.pipe with ⟨r, p', hstep, hfits⟩ | ⟨p', hstep⟩
      · rw [hstep]
        exact hfits
      · rw [hstep]
        exact ih true _
    · exact ih waiting _

/-- Every answer of the world keeps to the pipe's sizes. -/
theorem answer_fitsPipe (w : World) (r : Request) : Exchange.FitsPipe (r, (w.answer r).1) := by
  cases r with
  | stream call =>
    cases call with
    | read cut waiting =>
      cases cut with
      | upTo size =>
        show (∃ data, Response.streamed (perform 16 _ w).1 = .streamed (.ok (.bytes data)) ∧
            data.length ≤ size) ∨ ∃ f, Response.streamed (perform 16 _ w).1 = .streamed (.error f)
        have hfits := perform_read size 16 waiting w
        revert hfits
        rcases (perform 16 (.read (.upTo size) waiting) w).1 with f | data | n
        · exact fun _ => .inr ⟨f, rfl⟩
        · exact fun hfits => .inl ⟨data, rfl, hfits⟩
        · exact False.elim
      | unusable => trivial
    | _ => trivial
  | _ => trivial

end World

end Tftp
