import Sc2pp.Util.Fault

/-!
This module contains programs that ask somebody else questions. A `Dialogue` ends with a result or
asks a question and goes on with the reply, `Runs` relates it to the exchanges it can have, whatever
the replies are, and to the result it then has.

The rules take the run of a composed program apart. `runs_exists` says that a dialogue comes to an
end with anyone who answers, also with someone who remembers the exchanges so far: these are its
`exchanges`. `replay` finds the result from the replies alone.
-/

inductive Dialogue (Q R ε α : Type) where
  | done (result : Except ε α)
  | ask (q : Q) (k : R → Dialogue Q R ε α)

namespace Dialogue

variable {Q R ε α β : Type}

def bind : Dialogue Q R ε α → (α → Dialogue Q R ε β) → Dialogue Q R ε β
  | done (.ok a), f => f a
  | done (.error e), _ => done (.error e)
  | ask q k, f => ask q (fun r => (k r).bind f)

instance : Monad (Dialogue Q R ε) where
  pure a := done (.ok a)
  bind := bind

theorem bind_done (d : Dialogue Q R ε α) : d.bind (fun a => done (.ok a)) = d := by
  induction d with
  | done x => cases x <;> rfl
  | ask q k ih => simp only [bind, ih]

theorem bind_bind {γ : Type} (d : Dialogue Q R ε α) (f : α → Dialogue Q R ε β)
    (g : β → Dialogue Q R ε γ) : (d.bind f).bind g = d.bind fun a => (f a).bind g := by
  induction d with
  | done x => cases x <;> rfl
  | ask q k ih => simp only [bind, ih]

instance : LawfulMonad (Dialogue Q R ε) :=
  LawfulMonad.mk' _ bind_done (fun _ _ => rfl) bind_bind

instance : MonadLift (Except ε) (Dialogue Q R ε) where
  monadLift := done

def fail (e : ε) : Dialogue Q R ε α :=
  done (.error e)

def send (q : Q) : Dialogue Q R ε R :=
  ask q pure

def asking (q : Q) (f : R → Except ε α) : Dialogue Q R ε α :=
  ask q (fun r => done (f r))

def attempt : Dialogue Q R ε α → Dialogue Q R ε (Except ε α)
  | done result => done (.ok result)
  | ask q k => ask q (fun r => (k r).attempt)

inductive Runs : Dialogue Q R ε α → List (Q × R) → Except ε α → Prop where
  | done (result : Except ε α) : Runs (.done result) [] result
  | ask (q : Q) (k : R → Dialogue Q R ε α) (r : R) {log : List (Q × R)} {result : Except ε α}
      : Runs (k r) log result → Runs (.ask q k) ((q, r) :: log) result

variable {log : List (Q × R)}

@[simp]
theorem runs_done_iff {x result : Except ε α}
    : Runs (done x : Dialogue Q R ε α) log result ↔ log = [] ∧ result = x := by
  constructor
  . intro h
    cases h with
    | done => exact ⟨rfl, rfl⟩
  . intro h
    rcases h with ⟨rfl, rfl⟩
    exact .done _

@[simp]
theorem runs_pure_iff {a : α} {result : Except ε α}
    : Runs (pure a : Dialogue Q R ε α) log result ↔ log = [] ∧ result = .ok a := by
  apply runs_done_iff

@[simp]
theorem runs_fail_iff {e : ε} {result : Except ε α}
    : Runs (fail e : Dialogue Q R ε α) log result ↔ log = [] ∧ result = .error e := by
  apply runs_done_iff

theorem runs_ask_iff {q : Q} {k : R → Dialogue Q R ε α} {result : Except ε α}
    : Runs (ask q k) log result ↔ ∃ r rest, log = (q, r) :: rest ∧ Runs (k r) rest result := by
  constructor
  . intro h
    cases h with
    | ask _ _ r h => exact ⟨r, _, rfl, h⟩
  . intro h
    rcases h with ⟨r, rest, rfl, h⟩
    exact .ask q k r h

theorem runs_asking_iff {q : Q} {f : R → Except ε α} {result : Except ε α}
    : Runs (asking q f) log result ↔ ∃ r, log = [(q, r)] ∧ result = f r := by
  unfold asking
  rw [runs_ask_iff]
  constructor
  . intro h
    rcases h with ⟨r, rest, rfl, h⟩
    rcases runs_done_iff.mp h with ⟨rfl, rfl⟩
    exact ⟨r, rfl, rfl⟩
  . intro h
    rcases h with ⟨r, rfl, rfl⟩
    exact ⟨r, [], rfl, .done _⟩

theorem send_bind_eq_asking {q : Q} {k : R → Dialogue Q R ε α} {f : R → Except ε α}
    (h : ∀ r, k r = done (f r)) : send q >>= k = asking q f := by
  change ask q k = _
  unfold asking
  rw [funext h]

theorem bind_asking {q : Q} {f : R → Except ε α} {k : α → Dialogue Q R ε β} {g : α → Except ε β}
    (h : ∀ a, k a = done (g a)) : asking q f >>= k = asking q fun r => f r >>= g := by
  change ask q (fun r => (done (f r)).bind k) = ask q fun r => done (f r >>= g)
  congr 1
  funext r
  cases f r with
  | ok a => exact h a
  | error e => rfl

theorem asking_bind_pure {q : Q} {f : R → Except ε α} {g : α → β}
    : (asking q f >>= fun a => pure (g a)) = asking q fun r => f r >>= fun a => .ok (g a) := by
  apply bind_asking (fun _ => rfl)

@[simp]
theorem runs_send_bind_iff {q : Q} {f : R → Dialogue Q R ε α} {result : Except ε α}
    : Runs (send q >>= f) log result
        ↔
      ∃ r rest, log = (q, r) :: rest ∧ Runs (f r) rest result := by
  apply runs_ask_iff

@[simp]
theorem runs_lift_bind_ok {a : α} {f : α → Dialogue Q R ε β} {result : Except ε β}
    : Runs ((liftM (.ok a : Except ε α) : Dialogue Q R ε α) >>= f) log result
        ↔
      Runs (f a) log result := by
  rfl

@[simp]
theorem runs_lift_bind_error {e : ε} {f : α → Dialogue Q R ε β} {result : Except ε β}
    : Runs ((liftM (.error e : Except ε α) : Dialogue Q R ε α) >>= f) log result
        ↔
      log = [] ∧ result = .error e := by
  apply runs_done_iff

@[simp]
theorem runs_fail_bind {e : ε} {f : α → Dialogue Q R ε β} {result : Except ε β}
    : Runs ((fail e : Dialogue Q R ε α) >>= f) log result ↔ log = [] ∧ result = .error e := by
  apply runs_done_iff

theorem runs_bind_iff {d : Dialogue Q R ε α} {f : α → Dialogue Q R ε β} {result : Except ε β}
    : Runs (d >>= f) log result
        ↔
      (∃ a log₁ log₂, Runs d log₁ (.ok a) ∧ Runs (f a) log₂ result ∧ log = log₁ ++ log₂) ∨
      ∃ e, Runs d log (.error e) ∧ result = .error e := by
  change Runs (d.bind f) log result ↔ _
  induction d generalizing log with
  | done x =>
    cases x with
    | ok a => simp [bind, runs_done_iff]
    | error e => simp [bind, runs_done_iff]
  | ask q k ih =>
    simp only [bind, runs_ask_iff, ih]
    constructor
    . intro h
      rcases h with ⟨r, rest, rfl, ⟨a, log₁, log₂, h₁, h₂, rfl⟩ | ⟨e, he, rfl⟩⟩
      . exact .inl ⟨a, (q, r) :: log₁, log₂, ⟨r, log₁, rfl, h₁⟩, h₂, rfl⟩
      . exact .inr ⟨e, ⟨r, rest, rfl, he⟩, rfl⟩
    . intro h
      rcases h with ⟨a, _, log₂, ⟨r, log₁, rfl, h₁⟩, h₂, rfl⟩ | ⟨e, ⟨r, rest, rfl, he⟩, rfl⟩
      . exact ⟨r, log₁ ++ log₂, rfl, .inl ⟨a, log₁, log₂, h₁, h₂, rfl⟩⟩
      . exact ⟨r, rest, rfl, .inr ⟨e, he, rfl⟩⟩

theorem runs_bind_ok {d : Dialogue Q R ε α} {f : α → Dialogue Q R ε β} {b : β}
    (h : Runs (d >>= f) log (.ok b))
    : ∃ a log₁ log₂, Runs d log₁ (.ok a) ∧ Runs (f a) log₂ (.ok b) ∧ log = log₁ ++ log₂ := by
  rcases runs_bind_iff.mp h with h | ⟨e, -, he⟩
  . exact h
  . cases he

theorem runs_bind_total {d : Dialogue Q R ε α} {f : α → Dialogue Q R ε β} {result : Except ε β}
    (h : Runs (d >>= f) log result) {C : Q × R → Prop} (hlog : ∀ e ∈ log, C e) {P : α → Prop}
    (hd : ∀ log x, Runs d log x → (∀ e ∈ log, C e) → ∃ a, x = .ok a ∧ P a)
    (hf : ∀ a log, P a → Runs (f a) log result → (∀ e ∈ log, C e) → ∃ b, result = .ok b)
    : ∃ b, result = .ok b := by
  rcases runs_bind_iff.mp h with ⟨a, log₁, log₂, h₁, h₂, rfl⟩ | ⟨e, he, -⟩
  . rw [List.forall_mem_append] at hlog
    rcases hd log₁ _ h₁ hlog.1 with ⟨a', heq, hgood⟩
    cases heq
    apply hf a log₂ hgood h₂ hlog.2
  . rcases hd log _ he hlog with ⟨a, heq, -⟩
    cases heq

theorem runs_attempt_iff {d : Dialogue Q R ε α} {result : Except ε (Except ε α)}
    : Runs d.attempt log result ↔ ∃ inner, result = .ok inner ∧ Runs d log inner := by
  induction d generalizing log with
  | done x => simp [attempt, runs_done_iff, and_comm]
  | ask q k ih =>
    simp only [attempt, runs_ask_iff, ih]
    grind

def replay : Dialogue Q R ε α → List (Q × R) → Option (Except ε α)
  | done result, [] => some result
  | done _, _ :: _ => none
  | ask _ _, [] => none
  | ask _ k, (_, r) :: log => (k r).replay log

theorem replay_of_runs {d : Dialogue Q R ε α} {result : Except ε α} (h : Runs d log result)
    : d.replay log = some result := by
  induction h with
  | done result => rfl
  | ask q k r _ ih => exact ih

def AnsweredBy (serve : List (Q × R) → Q → R) (log : List (Q × R)) : Prop :=
  ∀ before q r after, log = before ++ (q, r) :: after → r = serve before q

def exchanges (serve : List (Q × R) → Q → R) : Dialogue Q R ε α → List (Q × R)
  | done _ => []
  | ask q k =>
    let r := serve [] q
    (q, r) :: (k r).exchanges fun before => serve ((q, r) :: before)

theorem runs_exchanges (serve : List (Q × R) → Q → R) (d : Dialogue Q R ε α)
    : ∃ result, Runs d (d.exchanges serve) result ∧ AnsweredBy serve (d.exchanges serve) := by
  induction d generalizing serve with
  | done x => exact ⟨x, .done x, by simp [AnsweredBy, exchanges]⟩
  | ask q k ih =>
    rcases ih (serve [] q) (fun before => serve ((q, serve [] q) :: before))
      with ⟨result, hruns, hserve⟩
    refine ⟨result, .ask q k _ hruns, ?_⟩
    intro before q' r' after hlog
    simp only [exchanges] at hlog
    cases before with
    | nil =>
      simp only [List.nil_append, List.cons.injEq, Prod.mk.injEq] at hlog
      rcases hlog with ⟨⟨rfl, rfl⟩, -⟩
      rfl
    | cons e before =>
      simp only [List.cons_append, List.cons.injEq] at hlog
      rcases hlog with ⟨rfl, hlog⟩
      apply hserve before q' r' after hlog

theorem runs_exists (serve : List (Q × R) → Q → R) (d : Dialogue Q R ε α)
    : ∃ log result, Runs d log result ∧ AnsweredBy serve log := by
  rcases runs_exchanges serve d with ⟨result, hruns, hserve⟩
  exact ⟨_, result, hruns, hserve⟩

end Dialogue
