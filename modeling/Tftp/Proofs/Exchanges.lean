import Tftp.Proofs.Steps

/-! # What a run shows

    The statements about whole runs speak of a few views of the exchanges: the datagrams that
    arrived, the clock readings, and, for each exchange, the exchanges before it and after it.

    * `Exchange.arrival?` and `Exchange.isClock` pick out datagrams and clock readings.
    * A property of every exchange of a run with what came before and after it
      (`∀ A e B, H = A ++ e :: B → P A e B`) splits over a concatenation
      (`forall_split_append`) and over a first exchange (`forall_split_cons`), so that checking
      it after one more step is checking it at the step's own exchanges. -/

namespace Tftp

/-! ## Splitting a run at one exchange -/

section Split

variable {α : Type} {P : List α → α → List α → Prop}

/-- Each element of a concatenation lies in its first part, followed by the rest of that part
    and the whole second part, or in its second part, preceded by the whole first part. -/
theorem forall_split_append (h t : List α) :
    (∀ A e B, h ++ t = A ++ e :: B → P A e B) ↔
      (∀ A e B, h = A ++ e :: B → P A e (B ++ t)) ∧
      (∀ A e B, t = A ++ e :: B → P (h ++ A) e B) := by
  constructor
  · intro hall
    refine ⟨?_, ?_⟩
    · rintro A e B rfl
      exact hall A e (B ++ t) (by simp)
    · rintro A e B rfl
      exact hall (h ++ A) e B (by simp)
  · rintro ⟨hleft, hright⟩ A e B hsplit
    rcases List.append_eq_append_iff.mp hsplit with ⟨a', hA, ht⟩ | ⟨c', hh, hB⟩
    · -- the element lies in `t`, which starts after the part `a'` of it
      subst hA
      exact hright a' e B ht
    · -- the element lies in `h`, or is the first element of `t`
      cases c' with
      | nil =>
        simp only [List.append_nil, List.nil_append] at hh hB
        subst hh
        simpa using hright [] e B hB.symm
      | cons c rest =>
        obtain ⟨rfl, rfl⟩ := List.cons_eq_cons.mp hB
        exact hleft A e rest hh

/-- Each element of `x :: t` is `x` itself or an element of `t`. -/
theorem forall_split_cons (x : α) (t : List α) :
    (∀ A e B, x :: t = A ++ e :: B → P A e B) ↔
      P [] x t ∧ ∀ A e B, t = A ++ e :: B → P (x :: A) e B := by
  constructor
  · intro hall
    exact ⟨hall [] x t rfl, fun A e B ht => hall (x :: A) e B (by simp [ht])⟩
  · rintro ⟨hx, ht⟩ A e B hsplit
    cases A with
    | nil =>
      obtain ⟨rfl, rfl⟩ := List.cons_eq_cons.mp hsplit
      exact hx
    | cons a A =>
      obtain ⟨rfl, hrest⟩ := List.cons_eq_cons.mp hsplit
      exact ht A e B hrest

theorem forall_split_nil : ∀ A (e : α) B, ([] : List α) = A ++ e :: B → P A e B := by
  intro A e B h
  simp at h

/-- The one element of `[x]` comes with nothing before or after it. -/
theorem forall_split_singleton (x : α) :
    (∀ A e B, [x] = A ++ e :: B → P A e B) ↔ P [] x [] := by
  rw [forall_split_cons]
  exact ⟨fun h => h.1, fun h => ⟨h, forall_split_nil⟩⟩

end Split

/-! ## Views of one exchange -/

namespace Exchange

/-- A datagram that arrived, with its source. -/
def arrival? : Exchange → Option (List UInt8 × Address)
  | (.receive _ _, .datagram bytes source) => some (bytes, source)
  | _ => none

/-- The exchange read the clock. -/
def isClock : Exchange → Bool
  | (.now, _) => true
  | _ => false

@[simp] theorem arrival?_datagram (t : Number) (phase : Option Phase) (bytes : List UInt8)
    (source : Address) : arrival? (.receive t phase, .datagram bytes source) = some (bytes, source) :=
  rfl

@[simp] theorem isClock_now (x : Response) : isClock (.now, x) = true := rfl
@[simp] theorem isClock_localAddress (x : Response) : isClock (.localAddress, x) = false := rfl
@[simp] theorem isClock_send (bytes : List UInt8) (target : Address) (x : Response) :
    isClock (.send bytes target, x) = false := rfl
@[simp] theorem isClock_receive (t : Number) (phase : Option Phase) (x : Response) :
    isClock (.receive t phase, x) = false := rfl
@[simp] theorem isClock_closeSocket (x : Response) : isClock (.closeSocket, x) = false := rfl
@[simp] theorem isClock_stream (call : Call) (x : Response) : isClock (.stream call, x) = false :=
  rfl
@[simp] theorem isClock_closeStream (error : Option Failure) (x : Response) :
    isClock (.closeStream error, x) = false := rfl
@[simp] theorem isClock_report (stats : Stats) (x : Response) : isClock (.report stats, x) = false :=
  rfl

end Exchange

end Tftp
