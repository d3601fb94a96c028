import Tftp.Session.Run

/-! # Runs of a session against its surroundings

    A session is a program of requests (`Program`); its surroundings (network, clock, socket and
    the handler behind the pipe) answer each one.  A run is the list of exchanges so far, each
    a request with the answer it got.  The statements about sessions hold for every answer the
    surroundings may give; what they are known to do (a handler writes a given stream, a clock
    reads doubles) is a property `ok` of the exchanges, assumed of every answer.

    * `Program.Always ok post p h`: every run of `p` after the exchanges `h` whose answers keep
      `ok` ends with a value and exchanges satisfying `post`.  It is a fold over the program, so
      it follows `bind` (`always_bind`).
    * `Program.Reaches p h q`: after the exchanges `h`, answered in any way, `p` has become `q`.
      `Always.after` carries `Always` to every point a run reaches, and `Always.reaches_done`
      turns it into a statement about every run that ends.
    * `Session.Wp ok m Q s h` is `Always` of the program that the step `m` makes from the
      session `s`, with `Q` of its result, final session and exchanges.  One lemma per way of
      building a step (`wp_bind`, `wp_tryCatch`, `wp_ask`, ...) turns a step into what must hold
      of each answer it may get, so that later proofs never unfold the monad. -/

namespace Tftp

/-- A request of a session and the answer it got. -/
abbrev Exchange := Request × Response

namespace Program

variable {α β : Type}

/-- Every run of the program after the exchanges `h`, whose answers keep `ok`, ends with a value
    and exchanges satisfying `post`. -/
def Always (ok : List Exchange → Prop) (post : α → List Exchange → Prop) :
    Program α → List Exchange → Prop
  | .done a, h => post a h
  | .ask r k, h => ∀ x, ok (h ++ [(r, x)]) → Always ok post (k x) (h ++ [(r, x)])

/-- After the exchanges `h`, answered in any way, the program has become `q`. -/
inductive Reaches : Program α → List Exchange → Program α → Prop
  | refl (p : Program α) : Reaches p [] p
  | step (r : Request) (k : Response → Program α) (x : Response) {h : List Exchange}
      {q : Program α} : Reaches (k x) h q → Reaches (.ask r k) ((r, x) :: h) q

variable {ok : List Exchange → Prop}

@[simp] theorem always_done (a : α) (post : α → List Exchange → Prop) (h : List Exchange) :
    (Program.done a).Always ok post h ↔ post a h := Iff.rfl

@[simp] theorem always_ask (r : Request) (k : Response → Program α)
    (post : α → List Exchange → Prop) (h : List Exchange) :
    (Program.ask r k).Always ok post h ↔
      ∀ x, ok (h ++ [(r, x)]) → (k x).Always ok post (h ++ [(r, x)]) := Iff.rfl

/-- A weaker postcondition follows from a stronger one. -/
theorem Always.mono {post post' : α → List Exchange → Prop}
    (hpost : ∀ a h, post a h → post' a h) :
    ∀ {p : Program α} {h : List Exchange}, p.Always ok post h → p.Always ok post' h
  | .done a, h, hp => hpost a h hp
  | .ask _ _, _, hp => fun x hx => Always.mono hpost (hp x hx)

theorem always_congr {post post' : α → List Exchange → Prop}
    (hpost : ∀ a h, post a h ↔ post' a h) {p : Program α} {h : List Exchange} :
    p.Always ok post h ↔ p.Always ok post' h :=
  ⟨Always.mono fun a h => (hpost a h).mp, Always.mono fun a h => (hpost a h).mpr⟩

/-- Running one program and then the one its value chooses: every run of the first ends where
    every run of the second must do its part. -/
theorem always_bind (p : Program α) (f : α → Program β) (post : β → List Exchange → Prop)
    (h : List Exchange) :
    (p.bind f).Always ok post h ↔ p.Always ok (fun a h' => (f a).Always ok post h') h := by
  induction p generalizing h with
  | done a => exact Iff.rfl
  | ask r k ih =>
      show (∀ x, ok (h ++ [(r, x)]) → ((k x).bind f).Always ok post (h ++ [(r, x)])) ↔ _
      simp only [ih]
      rfl

/-- Where a run whose answers kept `ok` has come to, every run on from there keeps the promise
    of every run from the start. -/
theorem Always.after {post : α → List Exchange → Prop} {p q : Program α} {h H : List Exchange}
    (hp : p.Always ok post h) (hr : p.Reaches H q) (hok : ∀ pre, pre <+: H → pre ≠ [] → ok (h ++ pre)) :
    q.Always ok post (h ++ H) := by
  induction hr generalizing h with
  | refl p => simpa using hp
  | @step r k x H q _ ih =>
    have hx : ok (h ++ [(r, x)]) := hok [(r, x)] (by simp) (by simp)
    have hok' : ∀ pre, pre <+: H → pre ≠ [] → ok (h ++ [(r, x)] ++ pre) := by
      intro pre hpre hne
      simpa using hok ((r, x) :: pre) (List.cons_prefix_cons.mpr ⟨rfl, hpre⟩) (by simp)
    simpa using ih (hp x hx) hok'

/-- Where a run whose answers kept `ok` reaches the end of the program, its value and exchanges
    satisfy the postcondition. -/
theorem Always.reaches_done {post : α → List Exchange → Prop} {p : Program α} {a : α}
    {h₀ H : List Exchange} (hp : p.Always ok post h₀) (hr : p.Reaches H (.done a))
    (hok : ∀ pre, pre <+: H → pre ≠ [] → ok (h₀ ++ pre)) : post a (h₀ ++ H) :=
  hp.after hr hok

end Program

/-! ## Steps of a session -/

namespace Session

variable {α β : Type}

/-- What every run of the step `m` from the session `s` after the exchanges `h` guarantees:
    `Q` of its result, final session and exchanges, where its answers kept `ok`. -/
def Wp (ok : List Exchange → Prop) (m : SessionM α)
    (Q : Except Failure α → Session → List Exchange → Prop) (s : Session) (h : List Exchange) :
    Prop :=
  (m.run.run s).Always ok (fun r h' => Q r.1 r.2 h') h

variable {ok : List Exchange → Prop} {Q : Except Failure β → Session → List Exchange → Prop}
  {s : Session} {h : List Exchange}

theorem wp_pure (b : β) : Wp ok (pure b) Q s h ↔ Q (.ok b) s h := Iff.rfl

theorem wp_throw (e : Failure) : Wp ok (throw e : SessionM β) Q s h ↔ Q (.error e) s h :=
  Iff.rfl

theorem wp_get {Q : Except Failure Session → Session → List Exchange → Prop} :
    Wp ok get Q s h ↔ Q (.ok s) s h := Iff.rfl

theorem wp_set {Q : Except Failure PUnit → Session → List Exchange → Prop} (s' : Session) :
    Wp ok (set s') Q s h ↔ Q (.ok ()) s' h := Iff.rfl

theorem wp_modify {Q : Except Failure PUnit → Session → List Exchange → Prop}
    (f : Session → Session) : Wp ok (modify f) Q s h ↔ Q (.ok ()) (f s) h := Iff.rfl

/-- A request: every answer that keeps `ok` must satisfy `Q`. -/
theorem wp_ask {Q : Except Failure Response → Session → List Exchange → Prop} (r : Request) :
    Wp ok (ask r) Q s h ↔ ∀ x, ok (h ++ [(r, x)]) → Q (.ok x) s (h ++ [(r, x)]) := Iff.rfl

/-- The step `m` and then `f` of its value; a failure of `m` skips `f`. -/
theorem wp_bind (m : SessionM α) (f : α → SessionM β) :
    Wp ok (m >>= f) Q s h ↔
      Wp ok m (fun r s' h' => match r with
        | .ok a => Wp ok (f a) Q s' h'
        | .error e => Q (.error e) s' h') s h := by
  unfold Wp
  show (Program.bind (m.run.run s) _).Always ok _ h ↔ _
  rw [Program.always_bind]
  apply Program.always_congr
  rintro ⟨r, s'⟩ h'
  cases r <;> rfl

/-- The step `m`, with its failure handled by `handler`. -/
theorem wp_tryCatch (m : SessionM β) (handler : Failure → SessionM β) :
    Wp ok (tryCatch m handler) Q s h ↔
      Wp ok m (fun r s' h' => match r with
        | .ok b => Q (.ok b) s' h'
        | .error e => Wp ok (handler e) Q s' h') s h := by
  unfold Wp
  show (Program.bind (m.run.run s) _).Always ok _ h ↔ _
  rw [Program.always_bind]
  apply Program.always_congr
  rintro ⟨r, s'⟩ h'
  cases r <;> rfl

/-- A step whose value is dropped. -/
theorem wp_discard {α : Type} (m : SessionM α)
    {Q : Except Failure PUnit → Session → List Exchange → Prop} :
    Wp ok (discard m) Q s h ↔ Wp ok m (fun r s' h' => Q (r.map fun _ => ()) s' h') s h := by
  show Wp ok (m >>= fun _ => pure ()) Q s h ↔ _
  rw [wp_bind]
  apply Program.always_congr
  rintro ⟨r, s'⟩ h'
  cases r <;> rfl

/-- A step whose value is mapped. -/
theorem wp_map {α : Type} (f : α → β) (m : SessionM α) :
    Wp ok (f <$> m) Q s h ↔ Wp ok m (fun r s' h' => Q (r.map f) s' h') s h := by
  show Wp ok (m >>= fun a => pure (f a)) Q s h ↔ _
  rw [wp_bind]
  apply Program.always_congr
  rintro ⟨r, s'⟩ h'
  cases r <;> rfl

/-- A step whose value is dropped for that of the next. -/
theorem wp_seqRight {α : Type} (m : SessionM α) (m' : SessionM β) :
    Wp ok (m *> m') Q s h ↔ Wp ok (m >>= fun _ => m') Q s h := Iff.rfl

theorem wp_ofExcept (e : Except Failure β) :
    Wp ok (MonadExcept.ofExcept e) Q s h ↔ Q e s h := by
  cases e <;> rfl

theorem wp_ite (c : Prop) [Decidable c] (a b : SessionM β) :
    Wp ok (if c then a else b) Q s h ↔ (c → Wp ok a Q s h) ∧ (¬c → Wp ok b Q s h) := by
  by_cases hc : c <;> simp [hc]

theorem Wp.mono {m : SessionM β} {Q' : Except Failure β → Session → List Exchange → Prop}
    (hQ : ∀ r s' h', Q r s' h' → Q' r s' h') (hm : Wp ok m Q s h) : Wp ok m Q' s h := by
  unfold Wp at hm ⊢
  exact Program.Always.mono (fun (a : Except Failure β × Session) h' => hQ a.1 a.2 h') hm

end Session

end Tftp
