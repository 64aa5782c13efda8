import AppCatalog.Proofs.Pool.Drain

/-!
# Starting and stopping

A pool is started and shut down by whoever holds it, and shutdowns overlap with starts in any way.
`Takes.door_cases` says what a step can do to the door of a pool: a start opens it where there is no
crew, the beginning of a shutdown closes it, and a shutdown that has nothing left to wait for takes
the crew away. That shutdown takes whichever crew is there. So a start opens the pool unless an
earlier shutdown still holds the crew, and what it opens lasts until the next shutdown exactly if no
earlier one is left that gets as far as the crew (`start_lasts_iff`).
-/

namespace AppCatalog

namespace Pool

variable {p : Pool}

theorem isRunning_eq_true_iff :
    p.isRunning = true ↔ p.crew.isSome = true ∧ p.isClosing = false := by
  rw [isRunning, Bool.and_eq_true, Bool.not_eq_true']

/-- A pool that runs takes a task from anybody. -/
theorem accept_of_isRunning (h : p.isRunning = true) (thread : String) :
    ∃ crew, p.accept thread = .ok (crew, { p with pending := p.pending + 1 }) := by
  obtain ⟨hcrew, hclosing⟩ := isRunning_eq_true_iff.1 h
  obtain ⟨crew, hcrew⟩ := Option.isSome_iff_exists.1 hcrew
  refine ⟨crew, accept_eq_ok_iff.2 ⟨hcrew, ?_, rfl⟩⟩
  intro hc
  rw [hclosing] at hc
  cases hc

/-- A start gives a pool without a crew one and opens it; to any other pool it does nothing. -/
theorem start_cases {p' : Pool} (h : p.start = .ok p') :
    p.crew = none ∧ p'.isRunning = true ∨ p.crew.isSome = true ∧ p' = p := by
  rcases hc : p.crew with _ | crew
  · rw [start, hc] at h
    simp only at h
    split at h
    · cases h
    · cases h
      exact Or.inl ⟨rfl, rfl⟩
  · rw [start_of_crew hc] at h
    cases h
    exact Or.inr ⟨rfl, rfl⟩

end Pool

namespace Closer

/-- Whether nothing is left that a shutdown waits for before it takes the crew away. -/
def isReady (p : Pool) : Closer → Bool
  | draining => p.isIdle
  | dropping _ => true
  | _ => false

/-- Whether a shutdown has left the crew behind it. -/
def isPast : Closer → Bool
  | leaving _ | returned => true
  | _ => false

theorem isReady_of_isPast {c : Closer} (h : c.isPast = true) (p : Pool) : c.isReady p = false := by
  cases c with
  | draining => cases h
  | dropping => cases h
  | _ => rfl

end Closer

/-- Whether somebody begins a shutdown. -/
def Event.isClose {τ : Type} : Event τ → Bool
  | close _ => true
  | _ => false

namespace Workshop

variable {σ τ ρ : Type} {plan : Plan σ τ ρ} {w v u : Workshop σ τ ρ} {e : Event τ}

/-- A workshop whose pool runs with a crew and takes tasks from everybody. -/
structure OpenWith (crew : Option Nat) (w : Workshop σ τ ρ) : Prop where
  running : w.pool.isRunning = true
  crew_eq : w.pool.crew = crew
  submit : ∀ thread task, (w.submit thread task).1 = .ok w.jobs.length

theorem openWith_of_isRunning (h : w.pool.isRunning = true) : OpenWith w.pool.crew w := by
  refine ⟨h, rfl, ?_⟩
  intro thread task
  obtain ⟨crew, ha⟩ := Pool.accept_of_isRunning h thread
  rw [Workshop.submit, ha]

/-! ## What a step does to the door -/

/-- Two workshops whose pools have the same crew and are both closing or both not. -/
def SameDoor (w v : Workshop σ τ ρ) : Prop :=
  v.pool.crew = w.pool.crew ∧ v.pool.isClosing = w.pool.isClosing

theorem sameDoor_submit (w : Workshop σ τ ρ) (thread : String) (task : τ) :
    SameDoor w (w.submit thread task).2 := by
  rcases w.submit_cases thread task with ⟨b, -, hs⟩ | ⟨crew, -, hs⟩
  · rw [hs]
    exact ⟨rfl, rfl⟩
  · rw [hs]
    exact ⟨rfl, rfl⟩

theorem closers_submit (w : Workshop σ τ ρ) (thread : String) (task : τ) :
    (w.submit thread task).2.closers = w.closers := by
  rcases w.submit_cases thread task with ⟨b, -, hs⟩ | ⟨crew, -, hs⟩
  · rw [hs]
  · rw [hs]

/-- A step leaves the door of the pool as it is, or it is a start where there is no crew, the
beginning of a shutdown where there is one, or a shutdown that takes the crew away. -/
theorem Takes.door_cases (h : Takes plan w e v) :
    SameDoor w v ∨ (w.pool.crew = none ∧ v.pool.isRunning = true) ∨
      (e.isClose = true ∧ v.pool.isRunning = false) ∨
      ∃ (closer : Nat) (waits : Bool), w.closers[closer]? = some (.dropping waits) ∧
        v.pool.crew = none := by
  cases h with
  | start hp =>
      rcases Pool.start_cases hp with ⟨hcrew, hrunning⟩ | ⟨-, rfl⟩
      · exact Or.inr (Or.inl ⟨hcrew, hrunning⟩)
      · exact Or.inl ⟨rfl, rfl⟩
  | submit thread task => exact Or.inl (sameDoor_submit w thread task)
  | nested => exact Or.inl (sameDoor_submit w _ _)
  | close => exact Or.inr (Or.inr (Or.inl ⟨rfl, Bool.and_false _⟩))
  | drop hc => exact Or.inr (Or.inr (Or.inr ⟨_, _, hc, rfl⟩))
  | dropNone hc => exact Or.inr (Or.inr (Or.inr ⟨_, _, hc, rfl⟩))
  | _ => exact Or.inl ⟨rfl, rfl⟩

/-- The pool goes on running with its crew in a step that begins no shutdown, if no shutdown is
ready to take the crew away. -/
theorem Takes.isRunning (h : Takes plan w e v) (hw : w.pool.isRunning = true)
    (he : e.isClose = false) (hready : ∀ c ∈ w.closers, c.isReady w.pool = false) :
    v.pool.isRunning = true ∧ v.pool.crew = w.pool.crew := by
  rcases h.door_cases with ⟨hcrew, hclosing⟩ | ⟨hcrew, -⟩ | ⟨hclose, -⟩ | ⟨closer, waits, hc, -⟩
  · refine ⟨?_, hcrew⟩
    rw [Pool.isRunning, hcrew, hclosing]
    exact hw
  · rw [Pool.isRunning, hcrew] at hw
    cases hw
  · rw [he] at hclose
    cases hclose
  · cases hready _ (List.mem_of_getElem? hc)

/-- Shutdowns that have left the crew behind them stay so in a step that begins no other. -/
theorem Takes.isPast (h : Takes plan w e v) (he : e.isClose = false)
    (hpast : ∀ c ∈ w.closers, c.isPast = true) : ∀ c ∈ v.closers, c.isPast = true := by
  have hopen : ∀ {closer : Nat} {c : Closer}, w.closers[closer]? = some c → c.isPast = true :=
    fun hc => hpast _ (List.mem_of_getElem? hc)
  cases h with
  | submit thread task => exact closers_submit w thread task ▸ hpast
  | nested => exact closers_submit w _ _ ▸ hpast
  | closeStopped => cases he
  | close => cases he
  | drained hc => cases hopen hc
  | drop hc => cases hopen hc
  | dropNone hc => cases hopen hc
  | left hc =>
      intro c hc'
      rcases List.mem_or_eq_of_mem_set hc' with hc' | rfl
      · exact hpast c hc'
      · rfl
  | _ => exact hpast

/-! ## Runs in which no shutdown begins -/

/-- A workshop that can be reached from another one without the beginning of a shutdown. -/
inductive CloselessRun (plan : Plan σ τ ρ) (w : Workshop σ τ ρ) : Workshop σ τ ρ → Prop
  | refl : CloselessRun plan w w
  | step {v u : Workshop σ τ ρ} (e : Event τ) (h : CloselessRun plan w v)
    (he : e.isClose = false) (hs : v.step plan e = some u) : CloselessRun plan w u

namespace CloselessRun

theorem isPast (h : CloselessRun plan w v) (hpast : ∀ c ∈ w.closers, c.isPast = true) :
    ∀ c ∈ v.closers, c.isPast = true := by
  induction h with
  | refl => exact hpast
  | step e _ he hs ih => exact (Takes.of_step hs).isPast he ih

/-- The pool stays open with its crew as long as no shutdown gets ready to take it away. -/
theorem openWith (h : CloselessRun plan w v) (hw : w.pool.isRunning = true)
    (hready : ∀ u, CloselessRun plan w u → ∀ c ∈ u.closers, c.isReady u.pool = false) :
    OpenWith w.pool.crew v := by
  have hkept : v.pool.isRunning = true ∧ v.pool.crew = w.pool.crew := by
    induction h with
    | refl => exact ⟨hw, rfl⟩
    | step e hr he hs ih =>
        obtain ⟨hrunning, hcrew⟩ := ih
        obtain ⟨hrunning', hcrew'⟩ := (Takes.of_step hs).isRunning hrunning he (hready _ hr)
        exact ⟨hrunning', hcrew'.trans hcrew⟩
  rw [← hkept.2]
  exact openWith_of_isRunning hkept.1

/-- A shutdown that is about to take the crew away does so, whichever crew it is. -/
theorem stops_of_dropping (h : CloselessRun plan w v) {closer : Nat} {waits : Bool}
    (hc : v.closers[closer]? = some (.dropping waits)) :
    ∃ u, CloselessRun plan w u ∧ u.pool.isRunning = false := by
  rcases hcrew : v.pool.crew with _ | crew
  · exact ⟨_, h.step (.proceed closer) rfl (Takes.dropNone hc hcrew).step_eq, rfl⟩
  · exact ⟨_, h.step (.proceed closer) rfl (Takes.drop hc hcrew).step_eq, rfl⟩

/-- A shutdown that has nothing left to wait for stops the pool without another one. -/
theorem stops_of_isReady (h : CloselessRun plan w v) {c : Closer} (hc : c ∈ v.closers)
    (hready : c.isReady v.pool = true) :
    ∃ u, CloselessRun plan w u ∧ u.pool.isRunning = false := by
  obtain ⟨closer, hlt, hget⟩ := List.getElem_of_mem hc
  have hc : v.closers[closer]? = some c := by
    rw [List.getElem?_eq_getElem hlt, hget]
  cases c with
  | draining =>
      have hs := (Takes.drained hc (beq_iff_eq.1 hready) : Takes plan v _ _).step_eq
      have hset := List.getElem?_set_self (a := Closer.dropping true) hlt
      exact stops_of_dropping (h.step (.proceed closer) rfl hs) hset
  | dropping waits => exact h.stops_of_dropping hc
  | leaving => cases hready
  | returned => cases hready

end CloselessRun

/-- What a start is worth. The pool runs after it unless there is a crew that an earlier shutdown
has closed the pool for and not yet taken away; then the start has done nothing. Once the pool runs,
it stays open to everybody with the same crew until another shutdown begins, exactly if no earlier
shutdown ever gets ready to take the crew away; so it does if all of them have left theirs behind.
The shutdown that begins next closes the pool. -/
theorem start_lasts_iff (h : w.step plan .start = some v) :
    (v.pool.isRunning = true ↔ w.pool.crew = none ∨ w.pool.isClosing = false) ∧
    (v.pool.isRunning = false → v = w) ∧
    (v.pool.isRunning = true →
      ((∀ u, CloselessRun plan v u → OpenWith v.pool.crew u) ↔
        ∀ u, CloselessRun plan v u → ∀ c ∈ u.closers, c.isReady u.pool = false) ∧
      ((∀ c ∈ v.closers, c.isPast = true) →
        ∀ u, CloselessRun plan v u → OpenWith v.pool.crew u)) ∧
    ∀ (u x : Workshop σ τ ρ) (waits : Bool), u.step plan (.close waits) = some x →
      x.pool.isRunning = false := by
  refine ⟨?_, ?_, ?_, ?_⟩
  · cases Takes.of_step h with
    | start hp =>
        rcases Pool.start_cases hp with ⟨hcrew, hrunning⟩ | ⟨hcrew, rfl⟩
        · exact iff_of_true hrunning (Or.inl hcrew)
        · have hne : w.pool.crew ≠ none := Option.isSome_iff_ne_none.1 hcrew
          rw [Pool.isRunning_eq_true_iff, or_iff_right hne, and_iff_right hcrew]
  · intro hstopped
    cases Takes.of_step h with
    | start hp =>
        rcases Pool.start_cases hp with ⟨-, hrunning⟩ | ⟨-, rfl⟩
        · cases hrunning.symm.trans hstopped
        · rfl
  · intro hrunning
    refine ⟨⟨?_, ?_⟩, ?_⟩
    · intro hlasts u hu c hc
      rw [Bool.eq_false_iff]
      intro hready
      obtain ⟨x, hx, hstopped⟩ := hu.stops_of_isReady hc hready
      cases (hlasts x hx).running.symm.trans hstopped
    · exact fun hready u hu => hu.openWith hrunning hready
    · intro hpast u hu
      refine hu.openWith hrunning ?_
      exact fun x hx c hc => Closer.isReady_of_isPast (hx.isPast hpast c hc) x.pool
  · intro u x waits hs
    cases Takes.of_step hs with
    | closeStopped hc => rw [Pool.isRunning, hc]; rfl
    | close => exact Bool.and_false _

/-- A start is lost while a shutdown waits; and once another shutdown that does not wait has taken
the crew away, the pool can be started, but the first shutdown stops the new crew. -/
theorem start_stopped_by_earlier_shutdown :
    let new : Workshop Bool Drill (Except Failure Int) := ofPool (Pool.ofName "p" 1) true
    let waiting : Workshop Bool Drill (Except Failure Int) :=
      ⟨⟨"p", 1, some 0, 1, true, 1⟩, true, [⟨0, .queued (.value 1)⟩], [.draining]⟩
    let stopped : Workshop Bool Drill (Except Failure Int) :=
      ⟨⟨"p", 1, none, 1, true, 1⟩, true, [⟨0, .queued (.value 1)⟩], [.draining, .returned]⟩
    let restarted : Workshop Bool Drill (Except Failure Int) :=
      ⟨⟨"p", 1, some 1, 2, false, 1⟩, true, [⟨0, .queued (.value 1)⟩], [.draining, .returned]⟩
    (Reaches Drill.plan new waiting ∧ waiting.step Drill.plan .start = some waiting ∧
      waiting.pool.isRunning = false) ∧
    Reaches Drill.plan new stopped ∧ stopped.step Drill.plan .start = some restarted ∧
    restarted.pool.isRunning = true ∧
    ¬ ∀ u, CloselessRun Drill.plan restarted u → OpenWith restarted.pool.crew u := by
  intro new waiting stopped restarted
  have hwaiting : Reaches Drill.plan new waiting :=
    (Reaches.refl : Reaches Drill.plan new new)
      |>.step .start rfl
      |>.step (.submit "main" (.value 1)) rfl
      |>.step (.close true) rfl
  have hlost : waiting.step Drill.plan .start = some waiting := rfl
  have hnot : waiting.pool.isRunning = false := by
    rw [Bool.eq_false_iff, Ne, (start_lasts_iff hlost).1]
    rintro (h | h) <;> cases h
  have hstopped : Reaches Drill.plan new stopped :=
    hwaiting
      |>.step (.close false) rfl
      |>.step (.proceed 1) rfl
  have hstart : stopped.step Drill.plan .start = some restarted := rfl
  have hrunning : restarted.pool.isRunning = true := (start_lasts_iff hstart).1.2 (Or.inl rfl)
  -- The one task that is left is done, and the first shutdown need not wait any longer.
  let idle : Workshop Bool Drill (Except Failure Int) :=
    ⟨⟨"p", 1, some 1, 2, false, 0⟩, true, [⟨0, .reported (.ok 1)⟩], [.draining, .returned]⟩
  have hidle : CloselessRun Drill.plan restarted idle :=
    (CloselessRun.refl : CloselessRun Drill.plan restarted restarted)
      |>.step (.begin 0 0) rfl rfl
      |>.step (.advance 0) rfl rfl
      |>.step (.report 0) rfl rfl
  refine ⟨⟨hwaiting, hlost, hnot⟩, hstopped, hstart, hrunning, ?_⟩
  rw [((start_lasts_iff hstart).2.2.1 hrunning).1]
  intro hready
  cases hready idle hidle .draining List.mem_cons_self

end Workshop

end AppCatalog
