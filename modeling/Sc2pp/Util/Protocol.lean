import Sc2pp.Util.Dialogue
import Mathlib.Algebra.GroupWithZero.Nat

/-!
This module contains protocols. A protocol says for every state which questions may be asked in it
and which state follows. A dialogue `Obeys` a protocol if none of its exchanges leave it, whatever
the replies are and however the dialogue ends. What holds in the state after a result is part of the
judgement, so that dialogues can be put together.

A dialogue `Asks` only questions of some kind. It `Succeeds` if it has a result as long as all its
exchanges are of some kind, and it `Halts` on some exchanges if none follows after one of them.
-/

structure Protocol (Q S : Type) where
  next : S → Q → Option S

namespace Protocol

variable {Q S : Type} {p : Protocol Q S} {s s' : S} {q : Q} {qs : List Q}

def follow (p : Protocol Q S) (s : S) (qs : List Q) : Option S :=
  qs.foldlM p.next s

def Allows (p : Protocol Q S) (s : S) (qs : List Q) : Prop :=
  ∃ s', p.follow s qs = some s'

@[simp]
theorem follow_nil : p.follow s [] = some s := by
  rfl

@[simp]
theorem follow_cons : p.follow s (q :: qs) = (p.next s q).bind fun s' => p.follow s' qs := by
  rfl

theorem follow_append (qs qs' : List Q)
    : p.follow s (qs ++ qs') = (p.follow s qs).bind fun s' => p.follow s' qs' := by
  unfold follow
  rw [List.foldlM_append]
  rfl

theorem follow_stays (h : ∀ q ∈ qs, p.next s q = some s) : p.follow s qs = some s := by
  induction qs with
  | nil => rfl
  | cons q qs ih =>
    rw [follow_cons, h q List.mem_cons_self, Option.bind_some]
    apply ih
    intro q' hq'
    apply h q' (List.mem_cons_of_mem q hq')

theorem Allows.of_prefix {before : List Q} (h : p.Allows s qs) (hbefore : before <+: qs)
    : p.Allows s before := by
  rcases h with ⟨s', h⟩
  rcases hbefore with ⟨after, rfl⟩
  rw [follow_append] at h
  rcases Option.bind_eq_some_iff.mp h with ⟨s₁, hbefore, -⟩
  exact ⟨s₁, hbefore⟩

-- Nothing more may be spent once the limit is reached, the last question before may go beyond it.
def quota (cost : Q → Nat) (limit : Nat) : Protocol Q Nat where
  next spent q := if limit ≤ spent ∧ 0 < cost q then none else some (spent + cost q)

variable {cost : Q → Nat} {limit spent spent' : Nat}

theorem quota_free (h : cost q = 0) : (quota cost limit).next spent q = some spent := by
  simp [quota, h]

theorem quota_next (h : limit ≤ spent → cost q = 0)
    : (quota cost limit).next spent q = some (spent + cost q) := by
  unfold quota
  apply if_neg
  intro hspends
  have hfree := h hspends.1
  omega

theorem quota_cons (h : (quota cost limit).follow spent (q :: qs) = some spent')
    : (limit ≤ spent → cost q = 0) ∧ (quota cost limit).follow (spent + cost q) qs = some spent' := by
  rw [follow_cons] at h
  unfold quota at h
  simp only at h
  split at h
  . cases h
  . next hallowed =>
    refine ⟨?_, h⟩
    intro hlimit
    by_contra hcost
    apply hallowed
    exact ⟨hlimit, by omega⟩

theorem quota_spent (h : (quota cost limit).follow spent qs = some spent')
    : spent' = spent + (qs.map cost).sum := by
  induction qs generalizing spent with
  | nil =>
    cases h
    rfl
  | cons q qs ih =>
    rw [ih (quota_cons h).2, List.map_cons, List.sum_cons, Nat.add_assoc]

theorem quota_exhausted (h : (quota cost limit).follow spent qs = some spent')
    (hlimit : limit ≤ spent) : (qs.map cost).sum = 0 := by
  induction qs generalizing spent with
  | nil => rfl
  | cons q qs ih =>
    have hfree := (quota_cons h).1 hlimit
    rw [List.map_cons, List.sum_cons, hfree, ih (quota_cons h).2 (by omega)]

end Protocol

namespace Dialogue

variable {Q R S ε α β : Type}

structure Obeys (d : Dialogue Q R ε α) (p : Protocol Q S) (s : S) (post : α → S → Prop) : Prop where
  runs : ∀ log result, Runs d log result →
    ∃ s', p.follow s (log.map Prod.fst) = some s' ∧ ∀ a, result = .ok a → post a s'

namespace Obeys

variable {d : Dialogue Q R ε α} {f : α → Dialogue Q R ε β} {p : Protocol Q S} {s s' : S}
  {post : α → S → Prop} {post' : β → S → Prop}

theorem pure {a : α} (h : post a s) : (pure a : Dialogue Q R ε α).Obeys p s post := by
  constructor
  intro log result hruns
  rcases runs_pure_iff.mp hruns with ⟨rfl, rfl⟩
  refine ⟨s, rfl, ?_⟩
  intro a' ha'
  cases ha'
  exact h

theorem fail {e : ε} : (fail e : Dialogue Q R ε α).Obeys p s post := by
  constructor
  intro log result hruns
  rcases runs_fail_iff.mp hruns with ⟨rfl, rfl⟩
  refine ⟨s, rfl, ?_⟩
  intro a ha
  cases ha

theorem asking {q : Q} {f : R → Except ε α} (hq : p.next s q = some s')
    (h : ∀ r a, f r = .ok a → post a s') : (Dialogue.asking q f).Obeys p s post := by
  constructor
  intro log result hruns
  rcases runs_asking_iff.mp hruns with ⟨r, rfl, rfl⟩
  refine ⟨s', ?_, h r⟩
  simp [hq]

theorem send_bind {q : Q} {k : R → Dialogue Q R ε α} (hq : p.next s q = some s')
    (h : ∀ r, (k r).Obeys p s' post) : (send q >>= k).Obeys p s post := by
  constructor
  intro log result hruns
  rcases runs_send_bind_iff.mp hruns with ⟨r, rest, rfl, hrest⟩
  rcases (h r).runs rest result hrest with ⟨s₁, hfollow, hpost⟩
  refine ⟨s₁, ?_, hpost⟩
  simp [hq, hfollow]

theorem bind (hd : d.Obeys p s post) (hf : ∀ a s', post a s' → (f a).Obeys p s' post')
    : (d >>= f).Obeys p s post' := by
  constructor
  intro log result hruns
  rcases runs_bind_iff.mp hruns with ⟨a, log₁, log₂, h₁, h₂, rfl⟩ | ⟨e, herror, rfl⟩
  . rcases hd.runs log₁ _ h₁ with ⟨s₁, hfollow₁, hpost⟩
    rcases (hf a s₁ (hpost a rfl)).runs log₂ _ h₂ with ⟨s₂, hfollow₂, hpost'⟩
    refine ⟨s₂, ?_, hpost'⟩
    rw [List.map_append, Protocol.follow_append, hfollow₁, Option.bind_some, hfollow₂]
  . rcases hd.runs log _ herror with ⟨s₁, hfollow, -⟩
    refine ⟨s₁, hfollow, ?_⟩
    intro b hb
    cases hb

theorem attempt (hd : d.Obeys p s post)
    : d.attempt.Obeys p s fun result s' => ∀ a, result = .ok a → post a s' := by
  constructor
  intro log result hruns
  rcases runs_attempt_iff.mp hruns with ⟨inner, rfl, hinner⟩
  rcases hd.runs log inner hinner with ⟨s', hfollow, hpost⟩
  refine ⟨s', hfollow, ?_⟩
  intro result hresult
  cases hresult
  exact hpost

end Obeys

structure Asks (d : Dialogue Q R ε α) (P : Q → Prop) : Prop where
  runs : ∀ log result, Runs d log result → ∀ e ∈ log, P e.1

namespace Asks

variable {P : Q → Prop} {d : Dialogue Q R ε α} {f : α → Dialogue Q R ε β}

theorem silent {x : Except ε α} : (done x : Dialogue Q R ε α).Asks P := by
  constructor
  intro log result hruns e he
  rcases runs_done_iff.mp hruns with ⟨rfl, -⟩
  cases he

theorem asking {q : Q} {f : R → Except ε α} (hq : P q) : (Dialogue.asking q f).Asks P := by
  constructor
  intro log result hruns e he
  rcases runs_asking_iff.mp hruns with ⟨r, rfl, -⟩
  rw [List.mem_singleton] at he
  subst he
  exact hq

theorem bind (hd : d.Asks P) (hf : ∀ a, (f a).Asks P) : (d >>= f).Asks P := by
  constructor
  intro log result hruns e he
  rcases runs_bind_iff.mp hruns with ⟨a, log₁, log₂, h₁, h₂, rfl⟩ | ⟨fault, hfault, -⟩
  . rcases List.mem_append.mp he with he | he
    . exact hd.runs log₁ _ h₁ e he
    . exact (hf a).runs log₂ _ h₂ e he
  . exact hd.runs log _ hfault e he

theorem lift_bind {outcome : Except ε α} (hf : ∀ a, outcome = .ok a → (f a).Asks P)
    : ((liftM outcome : Dialogue Q R ε α) >>= f).Asks P := by
  cases outcome with
  | ok a => exact hf a rfl
  | error e => exact .silent

theorem attempt (hd : d.Asks P) : d.attempt.Asks P := by
  constructor
  intro log result hruns
  rcases runs_attempt_iff.mp hruns with ⟨inner, -, hinner⟩
  exact hd.runs log inner hinner

theorem follows (hd : d.Asks P) {p : Protocol Q S} {s : S} (hstay : ∀ q, P q → p.next s q = some s)
    {log : List (Q × R)} {result : Except ε α} (h : Runs d log result)
    : p.follow s (log.map Prod.fst) = some s := by
  apply Protocol.follow_stays
  intro q hq
  rcases List.mem_map.mp hq with ⟨e, he, rfl⟩
  apply hstay
  exact hd.runs log result h e he

theorem obeys (hd : d.Asks P) {p : Protocol Q S} {s : S} (hstay : ∀ q, P q → p.next s q = some s)
    {post : α → S → Prop} (hpost : ∀ log a, Runs d log (.ok a) → post a s) : d.Obeys p s post := by
  constructor
  intro log result h
  refine ⟨s, hd.follows hstay h, ?_⟩
  intro a ha
  subst ha
  exact hpost log a h

end Asks

structure Succeeds (d : Dialogue Q R ε α) (C : Q × R → Prop) (post : α → Prop) : Prop where
  runs : ∀ log result, Runs d log result → (∀ e ∈ log, C e) → ∃ a, result = .ok a ∧ post a

namespace Succeeds

variable {C : Q × R → Prop} {d : Dialogue Q R ε α} {f : α → Dialogue Q R ε β} {post : α → Prop}
  {post' : β → Prop}

theorem pure {a : α} (h : post a) : (pure a : Dialogue Q R ε α).Succeeds C post := by
  constructor
  intro log result hruns _
  exact ⟨a, (runs_pure_iff.mp hruns).2, h⟩

theorem asking {q : Q} {f : R → Except ε α} (h : ∀ r, C (q, r) → ∃ a, f r = .ok a ∧ post a)
    : (Dialogue.asking q f).Succeeds C post := by
  constructor
  intro log result hruns hlog
  rcases runs_asking_iff.mp hruns with ⟨r, rfl, rfl⟩
  exact h r (hlog _ (List.mem_singleton.mpr rfl))

theorem bind (hd : d.Succeeds C post) (hf : ∀ a, post a → (f a).Succeeds C post')
    : (d >>= f).Succeeds C post' := by
  constructor
  intro log result hruns hlog
  rcases runs_bind_iff.mp hruns with ⟨a, log₁, log₂, h₁, h₂, rfl⟩ | ⟨e, herror, -⟩
  . rw [List.forall_mem_append] at hlog
    rcases hd.runs log₁ _ h₁ hlog.1 with ⟨a', heq, ha⟩
    cases heq
    exact (hf a ha).runs log₂ result h₂ hlog.2
  . rcases hd.runs log _ herror hlog with ⟨a, heq, -⟩
    cases heq

theorem attempt (hd : d.Succeeds C post)
    : d.attempt.Succeeds C fun result => ∃ a, result = .ok a ∧ post a := by
  constructor
  intro log result hruns hlog
  rcases runs_attempt_iff.mp hruns with ⟨inner, rfl, hinner⟩
  exact ⟨inner, rfl, hd.runs log inner hinner hlog⟩

theorem exists_run (hd : d.Succeeds C post) {serve : List (Q × R) → Q → R}
    (hserve : ∀ before q, C (q, serve before q))
    : ∃ log a, Runs d log (.ok a) ∧ AnsweredBy serve log ∧ post a := by
  rcases runs_exists serve d with ⟨log, result, hruns, hlog⟩
  have hall : ∀ e ∈ log, C e := by
    intro e he
    rcases List.append_of_mem he with ⟨before, after, hsplit⟩
    have hreply := hlog before e.1 e.2 after hsplit
    have hanswer := hserve before e.1
    rwa [← hreply] at hanswer
  rcases hd.runs log result hruns hall with ⟨a, rfl, ha⟩
  exact ⟨log, a, hruns, hlog, ha⟩

end Succeeds

structure Halts (d : Dialogue Q R ε α) (C : Q × R → Prop) (stop : Except ε α → Prop) : Prop where
  runs : ∀ log result, Runs d log result → ∀ before e after, log = before ++ e :: after → C e →
    after = [] ∧ stop result

namespace Halts

variable {C : Q × R → Prop} {d : Dialogue Q R ε α} {f : α → Dialogue Q R ε β}
  {stop : Except ε α → Prop} {stop' : Except ε β → Prop}

theorem silent {x : Except ε α} : (done x : Dialogue Q R ε α).Halts C stop := by
  constructor
  intro log result hruns before e after hlog
  rcases runs_done_iff.mp hruns with ⟨rfl, -⟩
  simp at hlog

theorem asking {q : Q} {f : R → Except ε α} (h : ∀ r, C (q, r) → stop (f r))
    : (Dialogue.asking q f).Halts C stop := by
  constructor
  intro log result hruns before e after hlog he
  rcases runs_asking_iff.mp hruns with ⟨r, rfl, rfl⟩
  rcases List.singleton_eq_append_iff.mp hlog with ⟨-, hrest⟩ | ⟨-, hrest⟩
  . rw [List.cons.injEq] at hrest
    rcases hrest with ⟨rfl, rfl⟩
    exact ⟨rfl, h r he⟩
  . cases hrest

theorem send_bind {q : Q} {k : R → Dialogue Q R ε α}
    (hstop : ∀ r, C (q, r) → ∃ x, k r = done x ∧ stop x) (h : ∀ r, ¬ C (q, r) → (k r).Halts C stop)
    : (send q >>= k).Halts C stop := by
  constructor
  intro log result hruns before e after hlog he
  rcases runs_send_bind_iff.mp hruns with ⟨r, rest, rfl, hrest⟩
  by_cases hc : C (q, r)
  . rcases hstop r hc with ⟨x, hx, hstop⟩
    rw [hx] at hrest
    rcases runs_done_iff.mp hrest with ⟨rfl, rfl⟩
    rcases List.singleton_eq_append_iff.mp hlog with ⟨-, htail⟩ | ⟨-, htail⟩
    . rw [List.cons.injEq] at htail
      exact ⟨htail.2, hstop⟩
    . cases htail
  . cases before with
    | nil =>
      rw [List.nil_append, List.cons.injEq] at hlog
      rcases hlog with ⟨rfl, -⟩
      exact absurd he hc
    | cons e' before =>
      rw [List.cons_append, List.cons.injEq] at hlog
      apply (h r hc).runs rest result hrest before e after hlog.2 he

theorem bind (hd : d.Halts C stop) (herror : ∀ e, stop (.error e) → stop' (.error e))
    (hok : ∀ a, stop (.ok a) → ∃ x, f a = done x ∧ stop' x)
    (hf : ∀ a log, Runs d log (.ok a) → (f a).Halts C stop') : (d >>= f).Halts C stop' := by
  constructor
  intro log result hruns before e after hlog he
  rcases runs_bind_iff.mp hruns with ⟨a, log₁, log₂, h₁, h₂, rfl⟩ | ⟨fault, hfault, rfl⟩
  . rcases List.append_eq_append_iff.mp hlog with ⟨mid, rfl, hmid⟩ | ⟨mid, rfl, hmid⟩
    . apply (hf a _ h₁).runs log₂ result h₂ mid e after hmid he
    . cases mid with
      | nil =>
        rw [List.nil_append] at hmid
        apply (hf a _ h₁).runs log₂ result h₂ [] e after hmid.symm he
      | cons e' mid =>
        rw [List.cons_append, List.cons.injEq] at hmid
        rcases hmid with ⟨rfl, rfl⟩
        rcases hd.runs _ _ h₁ before e mid rfl he with ⟨rfl, hstop⟩
        rcases hok a hstop with ⟨x, hx, hstop'⟩
        rw [hx] at h₂
        rcases runs_done_iff.mp h₂ with ⟨rfl, rfl⟩
        exact ⟨rfl, hstop'⟩
  . rcases hd.runs log _ hfault before e after hlog he with ⟨rfl, hstop⟩
    exact ⟨rfl, herror fault hstop⟩

theorem of_asks {P : Q → Prop} (hd : d.Asks P) (hnever : ∀ e, C e → ¬ P e.1) : d.Halts C stop := by
  constructor
  intro log result hruns before e after hlog he
  apply absurd _ (hnever e he)
  apply hd.runs log result hruns e
  simp [hlog]

theorem attempt {stop' : Except ε (Except ε α) → Prop} (hd : d.Halts C stop)
    (himp : ∀ x, stop x → stop' (.ok x)) : d.attempt.Halts C stop' := by
  constructor
  intro log result hruns before e after hlog he
  rcases runs_attempt_iff.mp hruns with ⟨inner, rfl, hinner⟩
  rcases hd.runs log inner hinner before e after hlog he with ⟨hafter, hstop⟩
  exact ⟨hafter, himp inner hstop⟩

end Halts

end Dialogue
