import Sc2pp.Util.Dialogue

/-!
This module contains dialogues with somebody who has a state. `serve` says what a dialogue comes to
and what becomes of the state, an error does not undo what it was changed to. The rules serve a
dialogue part by part, and what a served dialogue comes to is the result of the run that has the
`replies` it is given.
-/

namespace Dialogue

variable {Q R ε α β S : Type}

def serve (handler : Q → StateM S R) : Dialogue Q R ε α → ExceptT ε (StateM S) α
  | done result => ExceptT.mk (pure result)
  | ask q k => ExceptT.lift (handler q) >>= fun r => serve handler (k r)

def replies (handler : Q → StateM S R) : Dialogue Q R ε α → S → List R
  | done _, _ => []
  | ask q k, s =>
    let (r, s) := (handler q).run s
    r :: replies handler (k r) s

variable {handler : Q → StateM S R}

theorem serve_bind (d : Dialogue Q R ε α) (f : α → Dialogue Q R ε β)
    : serve handler (d >>= f) = serve handler d >>= fun a => serve handler (f a) := by
  change serve handler (d.bind f) = _
  induction d with
  | done result =>
    cases result with
    | ok a => exact (pure_bind a fun a => serve handler (f a)).symm
    | error e => rfl
  | ask q k ih =>
    simp only [bind, serve, ih]
    rw [bind_assoc]

variable {s s' : S}

theorem serve_asking {q : Q} {r : R} {f : R → Except ε α} (h : (handler q).run s = (r, s'))
    : (serve handler (asking q f)).run.run s = (f r, s') := by
  change (f ((handler q).run s).1, ((handler q).run s).2) = _
  rw [h]

theorem serve_send_bind {q : Q} {r : R} {f : R → Dialogue Q R ε α} (h : (handler q).run s = (r, s'))
    : (serve handler (send q >>= f)).run.run s = (serve handler (f r)).run.run s' := by
  change (serve handler (f ((handler q).run s).1)).run.run ((handler q).run s).2 = _
  rw [h]

theorem serve_bind_ok {d : Dialogue Q R ε α} {f : α → Dialogue Q R ε β} {a : α}
    (h : (serve handler d).run.run s = (.ok a, s'))
    : (serve handler (d >>= f)).run.run s = (serve handler (f a)).run.run s' := by
  rw [serve_bind, ExceptT.run_bind, StateT.run_bind, h]
  rfl

theorem serve_bind_error {d : Dialogue Q R ε α} {f : α → Dialogue Q R ε β} {e : ε}
    (h : (serve handler d).run.run s = (.error e, s'))
    : (serve handler (d >>= f)).run.run s = (.error e, s') := by
  rw [serve_bind, ExceptT.run_bind, StateT.run_bind, h]
  rfl

theorem serve_attempt {d : Dialogue Q R ε α} {result : Except ε α}
    (h : (serve handler d).run.run s = (result, s'))
    : (serve handler d.attempt).run.run s = (.ok result, s') := by
  induction d generalizing s with
  | done result =>
    cases h
    rfl
  | ask q k ih => exact ih _ h

theorem map_run {x : ExceptT ε (StateM S) α} {result : Except ε α} (h : x.run.run s = (result, s'))
    (f : α → β) : (f <$> x).run.run s = (f <$> result, s') := by
  rw [ExceptT.run_map, StateT.run_map, h]
  rfl

theorem tryCatch_ok {x : ExceptT ε (StateM S) α} {handle : ε → ExceptT ε (StateM S) α} {a : α}
    (h : x.run.run s = (.ok a, s')) : (tryCatch x handle).run.run s = (.ok a, s') := by
  rw [ExceptT.run_tryCatch, StateT.run_bind, h]
  rfl

theorem tryCatch_error {x : ExceptT ε (StateM S) α} {handle : ε → ExceptT ε (StateM S) α} {e : ε}
    (h : x.run.run s = (.error e, s'))
    : (tryCatch x handle).run.run s = (handle e).run.run s' := by
  rw [ExceptT.run_tryCatch, StateT.run_bind, h]
  rfl

theorem serve_runs (d : Dialogue Q R ε α) (s : S)
    : ∃ log, Runs d log ((serve handler d).run.run s).1 ∧ log.map Prod.snd = replies handler d s := by
  induction d generalizing s with
  | done result => exact ⟨[], .done result, rfl⟩
  | ask q k ih =>
    rcases ih ((handler q).run s).1 ((handler q).run s).2 with ⟨log, hruns, hlog⟩
    exact ⟨_, .ask q k _ hruns, congrArg (List.cons _) hlog⟩

end Dialogue
