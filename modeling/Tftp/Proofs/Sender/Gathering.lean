import Tftp.Proofs.Pipe.Feed
import Tftp.Proofs.Sender.Steps

/-! # A sender reads the next block of its handler's stream

    Reading the next block steps the sender's counter to the next block number, 65535 being
    followed by 0, and gathers the block read by read, each read asking for what the block still
    lacks (`Gathering`), until the block is full or a read returns no bytes.  Where the reads take
    from a stream, as the pipe's reads take from what a writing handler feeds (`ReadsFrom`,
    which the scripted world keeps: `World.feeding_answers`), the block is the stream's next
    bytes, up to a full block, and short only when that was all the stream held and it ended
    cleanly; a read that raises an error ends the gathering with the handler's failure for it,
    once all of the stream was read (`Gathering.gathered`).

    Main statement: `nextBlock_reads_next_block`. -/

namespace Tftp

namespace Program

/-- A run that made any exchange ends with exchanges that kept `ok`: its last answer was
    checked. -/
theorem Always.of_last_ok {α : Type} {ok : List Exchange → Prop}
    {post : α → List Exchange → Prop} :
    ∀ {p : Program α} {h : List Exchange},
      p.Always ok (fun a H => (H ≠ h → ok H) → post a H) h → p.Always ok post h
  | .done _, _, hp => hp fun hne => absurd rfl hne
  | .ask r _, h, hp => fun x hx => by
    refine Always.of_last_ok (Always.mono (fun a H hq hok => hq fun hne => ?_) (hp x hx))
    by_cases hlast : H = h ++ [(r, x)]
    · rw [hlast]
      exact hx
    · exact hok hlast

end Program

namespace Session

variable {ok : List Exchange → Prop} {s : Session} {h : List Exchange}

theorem Wp.of_last_ok {β : Type} {m : SessionM β}
    {Q : Except Failure β → Session → List Exchange → Prop}
    (hm : Wp ok m (fun r s' h' => (h' ≠ h → ok h') → Q r s' h') s h) : Wp ok m Q s h :=
  Program.Always.of_last_ok hm

@[simp] theorem withSender_withSender (x y : Sender) :
    (s.withSender x).withSender y = s.withSender y :=
  rfl

/-! ## Gathering a block from a stream -/

/-- Gathering a block from less than a full one makes at least one read. -/
theorem Gathering.ne_nil {g : List UInt8} {r : Except Failure (List UInt8)} {δ : List Exchange}
    (hg : Gathering g r δ) (hlt : g.length < blockSize) : δ ≠ [] := by
  cases hg with
  | full hlen => omega
  | ends _ => simp
  | fails _ _ => simp
  | more _ _ _ _ => simp

/-- Each read of a gathering adds at least one byte to the block, so a gathering from `g` makes
    at most one read more than the block still lacks. -/
theorem Gathering.length_le {g : List UInt8} {r : Except Failure (List UInt8)} {δ : List Exchange}
    (hg : Gathering g r δ) : δ.length + g.length ≤ blockSize + 1 := by
  induction hg with
  | full hlen => simp [hlen]
  | ends hlt => simp; omega
  | fails _ hlt => simp; omega
  | @more g data r δ hlt hne hle _ ih =>
    have hdata : 0 < data.length := List.length_pos_iff.mpr hne
    simp only [List.length_append, List.length_cons] at ih ⊢
    omega

/-- How gathering a block that holds `g` ends when its reads take from a stream that still holds
    `σ.1` and ends with the error `σ.2`: with `g` and the next bytes of the stream, up to a full
    block, and short only when that was all the stream held and it ended cleanly; or, once all of
    the stream was read and fell short of a full block, with the handler's failure for the error
    the stream ended with. -/
def Gathered (g : List UInt8) (σ : List UInt8 × Option Failure) :
    Except Failure (List UInt8) → Prop
  | .ok b => b = g ++ σ.1.take (blockSize - g.length) ∧
      (b.length < blockSize → b = g ++ σ.1 ∧ σ.2 = none)
  | .error e => ∃ X, e = handlerFailure X ∧ σ.1.length < blockSize - g.length ∧ σ.2 = some X

theorem takesFrom_readFor (σ : List UInt8 × Option Failure) (g : List UInt8)
    (r : Except Failure Reply) :
    Exchange.TakesFrom σ (readFor g, .streamed r) ↔ Takes σ (blockSize - g.length) r := by
  constructor
  · intro ht
    obtain ⟨r', hr', htakes⟩ := ht _ rfl
    cases hr'
    exact htakes
  · rintro htakes k hk
    cases hk
    exact ⟨r, rfl, htakes⟩

/-- A gathering whose reads take from a stream gets the stream's next bytes.  The induction
    follows the reads; each read that returns bytes takes them from the front of the stream, and
    the rest of the gathering reads from what it left. -/
theorem Gathering.gathered {g : List UInt8} {r : Except Failure (List UInt8)} {δ : List Exchange}
    (hg : Gathering g r δ) {σ : List UInt8 × Option Failure} (hσ : ReadsFrom σ δ) :
    Gathered g σ r := by
  induction hg generalizing σ with
  | @full g hlen => simp [Gathered, hlen]
  | @ends g hlt =>
    have htakes := (takesFrom_readFor σ g _).mp ((readsFrom_singleton σ _).mp hσ)
    -- a read of some bytes that returns none finds the stream over and ended cleanly
    obtain ⟨-, -, hend⟩ := htakes
    obtain rfl : σ = ([], none) := (hend rfl).resolve_left (by omega)
    simp [Gathered]
  | @fails g f hlt =>
    have htakes := (takesFrom_readFor σ g _).mp ((readsFrom_singleton σ _).mp hσ)
    obtain rfl : σ = ([], some f) := htakes
    exact ⟨f, rfl, by simp; omega, rfl⟩
  | @more g data r δ hlt hne hle _ ih =>
    obtain ⟨S, c⟩ := σ
    rw [show (readFor g, Response.streamed (.ok (.bytes data))) :: δ =
      [(readFor g, .streamed (.ok (.bytes data)))] ++ δ from rfl, readsFrom_append,
      readsFrom_singleton, takesFrom_readFor] at hσ
    obtain ⟨⟨hpre, -, -⟩, hrest⟩ := hσ
    obtain ⟨rest, rfl⟩ := hpre
    have hrest' : ReadsFrom (rest, c) δ := by
      have := hrest (by simp [readFor, Request.OnlyReads])
      simpa [leftAfter, readFor, readBytes_read, bytesRead] using this
    have hnext := ih hrest'
    cases r with
    | ok b =>
      obtain ⟨hb, hshort⟩ := hnext
      refine ⟨?_, fun hlt' => ?_⟩
      · show b = g ++ (data ++ rest).take (blockSize - g.length)
        rw [hb, List.take_append, List.take_of_length_le hle, List.length_append, Nat.sub_sub,
          List.append_assoc]
      · obtain ⟨hb', hc⟩ := hshort hlt'
        exact ⟨by simp [hb'], hc⟩
    | error e =>
      obtain ⟨X, he, hlen, hc⟩ := hnext
      refine ⟨X, he, ?_, hc⟩
      simp only [List.length_append] at hlen ⊢
      omega

/-! ## Reading the next block -/

/-- Reading the next block, with reads that keep to the pipe's sizes, for a sender whose counter
    is the block number `n`: the counter steps to the next block number, 65535 being followed by
    0, the block is gathered read by read from nothing, and the run that did read kept `ok`; the
    block becomes the one in flight, and a failure leaves the one in flight as it was. -/
theorem wp_nextBlock (hok : ∀ H, ok H → ∀ e ∈ H, e.FitsPipe) {x : Sender} {n : Nat}
    (hn : n < 65536) (hrole : s.role = .sender x) (hlast : x.lastSent = .int n) :
    Wp ok nextBlock (fun r s' h' => ∃ δ block, h' = h ++ δ ∧ Gathering [] block δ ∧
      ok h' ∧ r = block.map (fun _ => ()) ∧
      s' = s.withSender { x with lastSent := .int ((n + 1) % 65536 : Nat),
                                 current := block.toOption.or x.current }) s h := by
  have hlast' : x.lastSent = .int ((n % 65536 : Nat) : Int) := by
    rw [Nat.mod_eq_of_lt hn]
    exact hlast
  unfold nextBlock
  rw [wp_bind, wp_sender hrole]
  dsimp only
  rw [hlast', wp_bind, wp_ofExcept]
  dsimp only [Value.succ]
  rw [wp_bind, wp_updateSender _ hrole]
  dsimp only
  rw [steppedCounter, wp_bind]
  apply Wp.of_last_ok
  apply wp_gathering hok (blockSize + 1) [] h (by simp) (by simp)
  intro block δ hg hok'
  have hne : h ++ δ ≠ h := by simpa using hg.ne_nil (by simp [blockSize])
  cases block with
  | error e => exact ⟨δ, .error e, rfl, hg, hok' hne, rfl, rfl⟩
  | ok b =>
    dsimp only
    rw [wp_updateSender _ (withSender_role _ _)]
    exact ⟨δ, .ok b, rfl, hg, hok' hne, rfl, rfl⟩

/-- Reading the next block, for a sender whose counter is a block number `n`, in every run whose
    answers keep to the pipe's sizes and whose reads take from a stream `σ`, where the session so
    far only read on its end: the counter steps to `(n + 1) % 65536`; the block is gathered by
    reads that each ask for what it still lacks, at most one more of them than a full block has
    bytes; and it is the next bytes of what the run's reads left of the stream, up to a full
    block, short only when that was all of it and the stream ended cleanly, or, once all of it
    was read, the handler's failure for the error that the last read raised.  The block read is
    the one in flight from then on.

    A scripted world whose handler writes with the operations `ops` keeps its answers to the
    pipe's sizes and its reads to the stream those operations feed, from its start through every
    answer. -/
theorem nextBlock_reads_next_block :
    (∀ (σ : List UInt8 × Option Failure) (s : Session) (h : List Exchange) (x : Sender)
      (n : Nat), n < 65536 → s.role = .sender x → x.lastSent = .int n →
      (∀ e ∈ h, e.1.OnlyReads) →
      Wp (Streamed σ) nextBlock (fun r s' h' => ∃ δ block, h' = h ++ δ ∧
        Gathering [] block δ ∧ δ.length ≤ blockSize + 1 ∧
        Gathered [] (leftAfter σ h) block ∧ r = block.map (fun _ => ()) ∧
        s' = s.withSender { x with lastSent := .int ((n + 1) % 65536 : Nat),
                                   current := block.toOption.or x.current }) s h) ∧
    (∀ (ops : List Op) (clock : Number) (events : List NetEvent) (failingSends : List Nat)
        (localAddress : Option Address) (defaultSource : Address),
      World.Answers (Streamed (Op.feed ops)) (World.Feeding (Op.feed ops)) ∧
      World.Feeding (Op.feed ops)
        (World.fresh clock events failingSends localAddress defaultSource
          (Script.start .writer ops)) []) := by
  refine ⟨fun σ s h x n hn hrole hlast hquiet => ?_,
    fun ops clock events failingSends localAddress defaultSource =>
      ⟨World.feeding_answers _, World.feeding_fresh clock events failingSends localAddress
        defaultSource ops⟩⟩
  apply Wp.mono _ (wp_nextBlock (fun H hH => hH.1) hn hrole hlast)
  rintro r s' h' ⟨δ, block, rfl, hg, hok, hr, hs'⟩
  -- the block's reads take from what the run's reads so far left of the stream
  have hreads : ReadsFrom (leftAfter σ h) δ := ((readsFrom_append σ h δ).mp hok.2).2 hquiet
  have hlen : δ.length ≤ blockSize + 1 := by simpa using hg.length_le
  exact ⟨δ, block, rfl, hg, hlen, hg.gathered hreads, hr, hs'⟩

/-- The block after 65535 is numbered 0: a sender whose last block was 65535 reads its next one,
    from a stream that holds three bytes and ended cleanly, as block 0. -/
theorem nextBlock_after_last_number_wraps :
    (65535 < 65536 ∧
      ((default : Session).withSender ⟨.int 65535, none, false⟩).role =
        .sender ⟨.int 65535, none, false⟩ ∧
      (⟨.int 65535, none, false⟩ : Sender).lastSent = .int (65535 : Nat) ∧
      ∀ e ∈ ([] : List Exchange), e.1.OnlyReads) ∧
    Wp (Streamed ([1, 2, 3], none)) nextBlock (fun r s' h' => ∃ δ block, h' = [] ++ δ ∧
      Gathering [] block δ ∧ δ.length ≤ blockSize + 1 ∧
      Gathered [] (leftAfter ([1, 2, 3], none) []) block ∧ r = block.map (fun _ => ()) ∧
      s' = ((default : Session).withSender ⟨.int 65535, none, false⟩).withSender
        { (⟨.int 65535, none, false⟩ : Sender) with
          lastSent := .int ((65535 + 1) % 65536 : Nat), current := block.toOption.or none })
      ((default : Session).withSender ⟨.int 65535, none, false⟩) [] :=
  ⟨⟨by decide, rfl, rfl, by simp⟩,
    nextBlock_reads_next_block.1 ([1, 2, 3], none) _ [] ⟨.int 65535, none, false⟩ 65535
      (by decide) rfl rfl (by simp)⟩

end Session

end Tftp
