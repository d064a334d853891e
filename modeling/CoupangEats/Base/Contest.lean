import CoupangEats.Base.Interleave

/-!
Contests for a key: look it up, then store.

Each thread wants an entry under its key. It looks whether the key is taken, and
when it sees none, stores its entry in a second step; the other threads move in
between, so several can see one key free. What decides is that the store refuses a
key that is taken (`Contest.Lawful`). However the threads interleave, a key that
was free has one winner at most, and a thread that loses, although nothing else
stood in its way, loses to an entry that was there or to the winner
(`contest_decided`).
-/

namespace CoupangEats.Base

variable {ι σ κ ε α : Type*}

/-- How far a thread has got. -/
inductive Attempt (ε α : Type*) where
  | ready
  | looked
  | done (result : Except ε α)
  deriving DecidableEq

/-- What the threads ask for, and the two steps of each. -/
structure Contest (ι σ κ ε α : Type*) where
  key : ι → κ
  /-- The refusal of a thread that sees its key taken. -/
  look : ι → σ → Option ε
  /-- The entry and the next store, or the refusal of the store. -/
  store : ι → σ → Except ε (α × σ)

namespace Contest

def step (c : Contest ι σ κ ε α) : ThreadStep ι Unit σ (Attempt ε α)
  | i, _, s, .ready =>
      match c.look i s with
      | some e => (s, .done (.error e))
      | none => (s, .looked)
  | i, _, s, .looked =>
      match c.store i s with
      | .error e => (s, .done (.error e))
      | .ok (a, s') => (s', .done (.ok a))
  | _, _, s, .done result => (s, .done result)

/-- The start: no thread has moved. -/
def start (s : σ) : Config ι σ (Attempt ε α) := ⟨s, fun _ => .ready⟩

/-- `Has s k`: an entry is stored under the key. `Able i s`: nothing but a taken
key stands in the way of thread `i`. `Entry i s a`: the entry `a` of thread `i` is
stored. -/
structure Lawful (c : Contest ι σ κ ε α) (Has : σ → κ → Prop) (Able : ι → σ → Prop)
    (Entry : ι → σ → α → Prop) : Prop where
  seen : ∀ {i s e}, c.look i s = some e → Has s (c.key i)
  stored : ∀ {i s a s'}, c.store i s = .ok (a, s') →
    ¬ Has s (c.key i) ∧ Entry i s' a ∧ ∀ k, Has s' k ↔ Has s k ∨ k = c.key i
  able : ∀ {i s}, Able i s → ¬ Has s (c.key i) → ∃ out, c.store i s = .ok out
  others : ∀ {i j s a s'}, c.store i s = .ok (a, s') → j ≠ i →
    (Able j s → Able j s') ∧ ∀ b, Entry j s b → Entry j s' b

section Run

variable {c : Contest ι σ κ ε α} {Has : σ → κ → Prop} {Able : ι → σ → Prop}
  {Entry : ι → σ → α → Prop}

/-- The thread has stored its entry. -/
def Won (config : Config ι σ (Attempt ε α)) (i : ι) : Prop :=
  ∃ a, config.locals i = .done (.ok a)

/-- The thread has been refused. -/
def Lost (config : Config ι σ (Attempt ε α)) (i : ι) : Prop :=
  ∃ e, config.locals i = .done (.error e)

/-- What holds at every moment of a contest that has started on the store `s`. -/
structure Standing (c : Contest ι σ κ ε α) (Has : σ → κ → Prop) (Able : ι → σ → Prop)
    (Entry : ι → σ → α → Prop) (s : σ) (config : Config ι σ (Attempt ε α)) : Prop where
  kept : ∀ i a, config.locals i = .done (.ok a) → Entry i config.store a
  entries : ∀ k, Has config.store k ↔ Has s k ∨ ∃ i, Won config i ∧ c.key i = k
  fresh : ∀ i, Won config i → ¬ Has s (c.key i)
  single : ∀ i j, Won config i → Won config j → c.key i = c.key j → i = j
  able : ∀ i, Able i s → (Won config i ∨ Has config.store (c.key i)) ∨ Able i config.store
  lost : ∀ i, Able i s → Lost config i → Has config.store (c.key i)

theorem standing_start {s : σ} : Standing c Has Able Entry s (start s) := by
  refine ⟨?_, fun k => ?_, ?_, ?_, fun i able => .inr able, ?_⟩
  · rintro i a won
    cases won
  · constructor
    · exact .inl
    · rintro (had | ⟨i, ⟨a, won⟩, -⟩)
      · exact had
      · cases won
  · rintro i ⟨a, won⟩
    cases won
  · rintro i j ⟨a, won⟩
    cases won
  · rintro i - ⟨e, lost⟩
    cases lost

/-- A step that stores nothing. -/
theorem Standing.passed {s : σ} {before after : Config ι σ (Attempt ε α)}
    (standing : Standing c Has Able Entry s before) (sameStore : after.store = before.store)
    (sameWinners : ∀ i a, after.locals i = .done (.ok a) ↔ before.locals i = .done (.ok a))
    (losers : ∀ i, Able i s → Lost after i → Lost before i ∨ Has before.store (c.key i)) :
    Standing c Has Able Entry s after := by
  obtain ⟨kept, entries, fresh, single, able, lost⟩ := standing
  have same (i : ι) : Won after i ↔ Won before i := by
    simp only [Won, sameWinners]
  refine ⟨?_, ?_, ?_, ?_, ?_, ?_⟩
  · intro i a won
    rw [sameStore]
    exact kept i a ((sameWinners i a).mp won)
  · intro k
    simp only [sameStore, same]
    exact entries k
  · intro i won
    exact fresh i ((same i).mp won)
  · intro i j won won'
    exact single i j ((same i).mp won) ((same j).mp won')
  · intro i canDo
    rw [sameStore, same]
    exact able i canDo
  · intro i canDo refused
    rw [sameStore]
    rcases losers i canDo refused with before | taken
    · exact lost i canDo before
    · exact taken

/-- The step that stores the entry of thread `i`. -/
theorem Standing.stored (lawful : Lawful c Has Able Entry) {s : σ}
    {before after : Config ι σ (Attempt ε α)} {i : ι} {a : α}
    (standing : Standing c Has Able Entry s before)
    (store : c.store i before.store = .ok (a, after.store))
    (wins : after.locals i = .done (.ok a))
    (others : ∀ j, j ≠ i → after.locals j = before.locals j)
    (losers : ∀ j, Lost after j → Lost before j) : Standing c Has Able Entry s after := by
  obtain ⟨kept, entries, fresh, single, able, lost⟩ := standing
  obtain ⟨free, entry, entries'⟩ := lawful.stored store
  have winners (j : ι) (won : Won after j) : Won before j ∨ j = i := by
    by_cases mover : j = i
    · exact .inr mover
    · exact .inl (by simpa only [Won, others j mover] using won)
  have still (j : ι) (won : Won before j) : Won after j := by
    by_cases mover : j = i
    · rw [mover]
      exact ⟨a, wins⟩
    · simpa only [Won, others j mover] using won
  have unbeaten (j : ι) (won : Won before j) : c.key j ≠ c.key i := by
    intro same
    exact free ((entries _).mpr (.inr ⟨j, won, same⟩))
  refine ⟨?_, ?_, ?_, ?_, ?_, ?_⟩
  · intro j b won
    by_cases mover : j = i
    · rw [mover] at won ⊢
      rw [wins] at won
      cases won
      exact entry
    · rw [others j mover] at won
      exact (lawful.others store mover).2 b (kept j b won)
  · intro k
    rw [entries', entries]
    constructor
    · rintro ((had | ⟨j, won, here⟩) | rfl)
      · exact .inl had
      · exact .inr ⟨j, still j won, here⟩
      · exact .inr ⟨i, ⟨a, wins⟩, rfl⟩
    · rintro (had | ⟨j, won, here⟩)
      · exact .inl (.inl had)
      · rcases winners j won with won | rfl
        · exact .inl (.inr ⟨j, won, here⟩)
        · exact .inr here.symm
  · intro j won
    rcases winners j won with won | rfl
    · exact fresh j won
    · exact fun had => free ((entries _).mpr (.inl had))
  · intro j k won won' same
    rcases winners j won with won | rfl
    · rcases winners k won' with won' | rfl
      · exact single j k won won' same
      · exact (unbeaten j won same).elim
    · rcases winners k won' with won' | rfl
      · exact (unbeaten k won' same.symm).elim
      · rfl
  · intro j canDo
    by_cases mover : j = i
    · rw [mover]
      exact .inl (.inl ⟨a, wins⟩)
    · rcases able j canDo with (won | taken) | stillAble
      · exact .inl (.inl (still j won))
      · exact .inl (.inr ((entries' _).mpr (.inl taken)))
      · exact .inr ((lawful.others store mover).1 stillAble)
  · intro j canDo refused
    exact (entries' _).mpr (.inl (lost j canDo (losers j refused)))

variable [DecidableEq ι]

/-- What a step does: it stores nothing, and a thread that it refuses has seen its key
taken or is refused by the store; or it stores the entry of the moving thread. -/
theorem step_cases {e : Event (Config ι σ (Attempt ε α)) (ι × Unit) Unit}
    (step : (interleave c.step).step e.before e.input = (e.after, e.output)) :
    (e.after.store = e.before.store ∧
        (∀ i a, e.after.locals i = .done (.ok a) ↔ e.before.locals i = .done (.ok a)) ∧
        ∀ i refusal, e.after.locals i = .done (.error refusal) →
          e.before.locals i = .done (.error refusal) ∨ c.look i e.before.store = some refusal ∨
            e.before.locals i = .looked ∧ c.store i e.before.store = .error refusal) ∨
      ∃ a, e.before.locals e.input.1 = .looked ∧
        c.store e.input.1 e.before.store = .ok (a, e.after.store) ∧
        e.after.locals e.input.1 = .done (.ok a) ∧
        ∀ j, j ≠ e.input.1 → e.after.locals j = e.before.locals j := by
  obtain ⟨act, others⟩ := interleave_step step
  -- the other threads are as before, so only the moving thread is looked at
  have passed (sameStore : e.before.store = e.after.store)
      (winner : ∀ a, e.after.locals e.input.1 = .done (.ok a) ↔
        e.before.locals e.input.1 = .done (.ok a))
      (loser : ∀ refusal, e.after.locals e.input.1 = .done (.error refusal) →
        e.before.locals e.input.1 = .done (.error refusal) ∨
          c.look e.input.1 e.before.store = some refusal ∨
            e.before.locals e.input.1 = .looked ∧
              c.store e.input.1 e.before.store = .error refusal) :
      e.after.store = e.before.store ∧
        (∀ i a, e.after.locals i = .done (.ok a) ↔ e.before.locals i = .done (.ok a)) ∧
        ∀ i refusal, e.after.locals i = .done (.error refusal) →
          e.before.locals i = .done (.error refusal) ∨ c.look i e.before.store = some refusal ∨
            e.before.locals i = .looked ∧ c.store i e.before.store = .error refusal := by
    refine ⟨sameStore.symm, fun i => ?_, fun i => ?_⟩
    · by_cases mover : i = e.input.1
      · rw [mover]
        exact winner
      · rw [others i mover]
        exact fun a => Iff.rfl
    · by_cases mover : i = e.input.1
      · rw [mover]
        exact loser
      · rw [others i mover]
        exact fun refusal refused => .inl refused
  cases phase : e.before.locals e.input.1 with
  | ready =>
      left
      simp only [Contest.step, phase] at act
      cases looks : c.look e.input.1 e.before.store with
      | some refusal =>
          simp only [looks, Prod.mk.injEq] at act
          apply passed act.1
          · simp [← act.2, phase]
          · simp [← act.2, looks]
      | none =>
          simp only [looks, Prod.mk.injEq] at act
          apply passed act.1
          · simp [← act.2, phase]
          · simp [← act.2]
  | looked =>
      simp only [Contest.step, phase] at act
      cases stores : c.store e.input.1 e.before.store with
      | error refusal =>
          left
          simp only [stores, Prod.mk.injEq] at act
          apply passed act.1
          · simp [← act.2, phase]
          · simp [← act.2, phase, stores]
      | ok out =>
          right
          simp only [stores, Prod.mk.injEq] at act
          exact ⟨out.1, rfl, by rw [← act.1], act.2.symm, others⟩
  | done result =>
      left
      simp only [Contest.step, phase, Prod.mk.injEq] at act
      apply passed act.1
      · simp [← act.2, phase]
      · rw [← act.2, phase]
        exact fun refusal refused => .inl refused

theorem standing_step (lawful : Lawful c Has Able Entry) {s : σ}
    {e : Event (Config ι σ (Attempt ε α)) (ι × Unit) Unit}
    (step : (interleave c.step).step e.before e.input = (e.after, e.output))
    (standing : Standing c Has Able Entry s e.before) : Standing c Has Able Entry s e.after := by
  rcases step_cases step with ⟨sameStore, winners, losers⟩ | ⟨a, -, store, wins, others⟩
  · apply standing.passed sameStore winners
    rintro i canDo ⟨refusal, refused⟩
    rcases losers i refusal refused with before | seen | ⟨phase, refused⟩
    · exact .inl ⟨refusal, before⟩
    · exact .inr (lawful.seen seen)
    · refine .inr (Classical.byContradiction fun free => ?_)
      rcases standing.able i canDo with (⟨a, won⟩ | taken) | still
      · rw [phase] at won
        cases won
      · exact free taken
      · obtain ⟨out, accepted⟩ := lawful.able still free
        rw [refused] at accepted
        cases accepted
  · apply standing.stored lawful store wins others
    intro j refused
    by_cases mover : j = e.input.1
    · obtain ⟨refusal, refused⟩ := refused
      rw [mover, wins] at refused
      cases refused
    · simpa only [Lost, others j mover] using refused

/-- However the threads interleave: the winners' keys were free at the start, a key
has one winner, and a thread in whose way nothing stood loses to an entry that was
there or to another winner of its key. The entries at the end are those of the start
and the winners'. -/
theorem contest_decided (lawful : Lawful c Has Able Entry) {s : σ}
    (schedule : List (ι × Unit)) :
    let final := (interleave c.step).run (start s) schedule
    (∀ i a, final.locals i = .done (.ok a) → Entry i final.store a) ∧
      (∀ k, Has final.store k ↔ Has s k ∨ ∃ i, Won final i ∧ c.key i = k) ∧
      (∀ i, Won final i → ¬ Has s (c.key i)) ∧
      (∀ i j, Won final i → Won final j → c.key i = c.key j → i = j) ∧
      ∀ i, Able i s → Lost final i →
        Has s (c.key i) ∨ ∃ j, j ≠ i ∧ Won final j ∧ c.key j = c.key i := by
  intro final
  have standing : Standing c Has Able Entry s final :=
    (Machine.history_invariant (Standing c Has Able Entry s) (fun _ => True)
      (fun _ step _ => standing_step lawful step) standing_start fun _ _ => trivial).1
  refine ⟨standing.kept, standing.entries, standing.fresh, standing.single, ?_⟩
  intro i canDo refused
  rcases (standing.entries _).mp (standing.lost i canDo refused) with had | ⟨j, won, same⟩
  · exact .inl had
  · refine .inr ⟨j, ?_, won, same⟩
    rintro rfl
    obtain ⟨a, won⟩ := won
    obtain ⟨e, refused⟩ := refused
    rw [won] at refused
    cases refused

end Run

end Contest

end CoupangEats.Base
