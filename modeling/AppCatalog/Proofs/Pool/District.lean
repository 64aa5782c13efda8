import AppCatalog.Pool.Drill
import AppCatalog.Proofs.Pool.Accounting
import AppCatalog.Proofs.Pool.Lifecycle

/-!
# Pools side by side

A district is any number of workshops, whose pools are named in any way. A closing pool tells its
own tasks from other callers by the names of their threads, and names are no identities. Pools may
share a name, the threads of one may begin with the name of another, any thread may be called
anything, and the threads of a nameless pool carry a number in place of the name that they would be
told by.

`Stopping` says that a shutdown of a pool has begun and that its crew has been there ever since. Of
such a pool `Reaches.stopping_submit_iff` says whose tasks it takes: those of its own tasks, unless
it is nameless, and those of all others who bear its name (`Bears`).
-/

namespace AppCatalog

namespace Pool

/-- A stem that makes the threads of a crew look like those of a pool of the name. -/
def Resembles (name stem : String) : Prop :=
  stem = name ∨ name.toList ++ ['_'] <+: stem.toList

theorem ownsThread_iff {p : Pool} {thread : String} :
    p.ownsThread thread = true ↔ p.name.toList ++ ['_'] <+: thread.toList := by
  rw [ownsThread, List.isPrefixOf_iff_prefix]

theorem notMem_toString (n : Nat) : '_' ∉ (toString n).toList := by
  intro h
  have hdigits : (toString n).toList = Nat.toDigits 10 n := String.toList_ofList
  rw [hdigits] at h
  exact absurd (Nat.isDigit_of_mem_toDigits (by decide) (Nat.le_refl 10) h) (by decide)

/-- The number of a worker holds no underscore, so it is by the stem that a thread resembles those
of a pool. -/
theorem ownsThread_threadName_iff_resembles {p : Pool} {name : String} {crew worker : Nat} :
    p.ownsThread (threadName name crew worker) = true ↔
      Resembles p.name (threadStem name crew) := by
  have hthread : (threadName name crew worker).toList =
      (threadStem name crew).toList ++ '_' :: (toString worker).toList := by
    rw [threadName, String.toList_append, String.toList_append, List.append_assoc]
    rfl
  rw [ownsThread_iff, hthread, Resembles]
  constructor
  · rintro ⟨rest, hrest⟩
    rw [List.append_assoc, List.singleton_append, List.append_eq_append_iff] at hrest
    rcases hrest with ⟨more, hmore, hrest⟩ | ⟨more, hmore, hrest⟩
    · rcases more with _ | ⟨c, more⟩
      · exact Or.inl (String.toList_injective (by rw [hmore, List.append_nil]))
      · obtain ⟨rfl, -⟩ := List.cons.inj hrest
        exact Or.inr ⟨more, by rw [hmore, List.append_assoc, List.singleton_append]⟩
    · rcases more with _ | ⟨c, more⟩
      · exact Or.inl (String.toList_injective (by rw [hmore, List.append_nil]))
      · obtain ⟨-, hnumber⟩ := List.cons.inj hrest
        refine absurd ?_ (notMem_toString worker)
        rw [hnumber]
        exact List.mem_append_right more List.mem_cons_self
  · rintro (hname | hbegins)
    · rw [hname]
      exact ⟨_, List.append_assoc _ _ _⟩
    · exact hbegins.trans (List.prefix_append _ _)

/-- The crews of a pool resemble it unless it is nameless. -/
theorem resembles_threadStem_iff {name : String} {crew : Nat} :
    Resembles name (threadStem name crew) ↔ name ≠ "" := by
  by_cases hname : name = ""
  · subst hname
    refine iff_of_false ?_ fun hne => hne rfl
    have hstem : (threadStem "" crew).toList =
        'T' :: ("hreadPoolExecutor-" ++ toString crew).toList := by
      rw [threadStem, if_pos rfl, String.toList_append, String.toList_append]
      rfl
    rintro (h | h)
    · rw [h] at hstem
      cases hstem
    · rw [hstem] at h
      exact absurd (List.cons_prefix_cons.1 h).1 (by decide)
  · refine iff_of_true (Or.inl ?_) hname
    rw [threadStem, if_neg hname]

end Pool

namespace Workshop

variable {σ τ ρ : Type} {plan : Plan σ τ ρ} {w v : Workshop σ τ ρ} {e : Event τ}

/-- The pool takes the task from the thread: it counts one task more and queues it for its crew. -/
def Accepts (w : Workshop σ τ ρ) (thread : String) (task : τ) : Prop :=
  ∃ crew, w.pool.crew = some crew ∧ w.submit thread task = (.ok w.jobs.length, { w with
    pool := { w.pool with pending := w.pool.pending + 1 }
    jobs := w.jobs ++ [⟨crew, .queued task⟩] })

/-- The pool refuses a task of the thread for being shut down, and nothing else happens. -/
def Refuses (w : Workshop σ τ ρ) (thread : String) (task : τ) : Prop :=
  w.submit thread task = (.error (.poolShuttingDown w.pool.name), w)

/-- A shutdown of the pool has begun, and its crew is there. -/
def IsStopping (w : Workshop σ τ ρ) : Prop := w.pool.crew.isSome = true ∧ w.pool.isClosing = true

theorem Accepts.not_refuses {thread : String} {task : τ} (h : w.Accepts thread task) :
    ¬ w.Refuses thread task := by
  obtain ⟨crew, -, hok⟩ := h
  intro herror
  cases hok.symm.trans herror

/-- While it is being shut down a pool takes the tasks of threads with its name alone. -/
theorem IsStopping.submit (h : w.IsStopping) (thread : String) (task : τ) :
    w.pool.ownsThread thread = true ∧ w.Accepts thread task ∨
      w.pool.ownsThread thread = false ∧ w.Refuses thread task := by
  rcases w.submit_cases thread task with ⟨b, ha, hs⟩ | ⟨crew, ha, hs⟩
  · rcases Pool.accept_eq_error_iff.1 ha with ⟨hcrew, -⟩ | ⟨-, ⟨-, howns⟩, rfl⟩
    · have hsome := h.1
      rw [hcrew] at hsome
      cases hsome
    · exact Or.inr ⟨howns, hs⟩
  · obtain ⟨hcrew, howns, -⟩ := Pool.accept_eq_ok_iff.1 ha
    exact Or.inl ⟨howns h.2, crew, hcrew, hs⟩

/-- Where a step leaves a crew, a shutdown has begun if it had begun before or begins now. -/
theorem isClosing_step_iff (hs : w.step plan e = some v) (hv : v.pool.crew.isSome = true) :
    v.pool.isClosing = true ↔ w.IsStopping ∨ e.isClose = true := by
  have ht := Takes.of_step hs
  by_cases he : e.isClose = true
  · refine iff_of_true ?_ (Or.inr he)
    cases ht with
    | closeStopped hc =>
        rw [hc] at hv
        cases hv
    | close => rfl
    | _ => cases he
  · rw [or_iff_left he]
    rcases ht.door_cases with ⟨hcrew, hclosing⟩ | ⟨hcrew, hrunning⟩ | ⟨hclose, -⟩ | ⟨-, -, -, hnone⟩
    · rw [IsStopping, ← hcrew, hclosing, and_iff_right hv]
    · refine iff_of_false ?_ ?_
      · rw [(Pool.isRunning_eq_true_iff.1 hrunning).2]
        exact Bool.false_ne_true
      · rintro ⟨hsome, -⟩
        rw [hcrew] at hsome
        cases hsome
    · exact absurd hclose he
    · rw [hnone] at hv
      cases hv

/-- The workshop with the number that its next crew takes, where the crew gets no other name. -/
def numbered (n : Nat) (w : Workshop σ τ ρ) : Workshop σ τ ρ :=
  if w.pool.name = "" then { w with pool := { w.pool with crews := n } } else w

theorem isStopping_numbered {n : Nat} : (w.numbered n).IsStopping ↔ w.IsStopping := by
  rw [numbered]
  split
  · exact Iff.rfl
  · exact Iff.rfl

end Workshop

/-- Workshops side by side. -/
structure District (σ τ ρ : Type) where
  shops : List (Workshop σ τ ρ)
  /-- How many crews without a name there have been, in the workshops and elsewhere. -/
  nameless : Nat

/-- Who submits a task. -/
inductive Caller where
  /-- A thread of no pool. -/
  | outside (thread : String)
  /-- A running task. -/
  | task (shop job : Nat)

/-- Whether the caller is a task of a workshop. -/
def Caller.IsOf (shop : Nat) : Caller → Prop
  | outside _ => False
  | task other _ => other = shop

namespace District

variable {σ τ ρ : Type} {d₀ d d' : District σ τ ρ} {i : Nat} {w : Workshop σ τ ρ}

/-- Takes a step in one of the workshops, if it can be taken. -/
def step (plan : Plan σ τ ρ) (d : District σ τ ρ) (i : Nat) (e : Event τ) :
    Option (District σ τ ρ) :=
  (d.shops[i]?).bind fun w => ((w.numbered d.nameless).step plan e).map fun v =>
    ⟨d.shops.set i v, if v.pool.name = "" then v.pool.crews else d.nameless⟩

/-- What can happen in a district. What the tasks of one workshop do may depend on the others, so
every step has its own plan. -/
inductive Happens (d : District σ τ ρ) : District σ τ ρ → Prop
  | step {d' : District σ τ ρ} (plan : Plan σ τ ρ) (i : Nat) (e : Event τ)
    (h : d.step plan i e = some d') : Happens d d'
  /-- Elsewhere there are more crews without a name. -/
  | elsewhere (more : Nat) : Happens d { d with nameless := d.nameless + more }

/-- A district that can be reached from another one. -/
inductive Reaches (d₀ : District σ τ ρ) : District σ τ ρ → Prop
  | refl : Reaches d₀ d₀
  | next {d d' : District σ τ ρ} (h : Reaches d₀ d) (hd : Happens d d') : Reaches d₀ d'

/-- A district of new pools. -/
def IsNew (d : District σ τ ρ) : Prop :=
  ∀ w ∈ d.shops, ∃ name workers shared, w = .ofPool (.ofName name workers) shared

/-- Whether the pool of a workshop has a crew. -/
def HasCrew (d : District σ τ ρ) (i : Nat) : Prop := ∃ w ∈ d.shops[i]?, w.pool.crew.isSome = true

/-- A shutdown of a pool has begun, and the pool has had a crew ever since. -/
inductive Stopping (d₀ : District σ τ ρ) (i : Nat) : District σ τ ρ → Prop
  | begin {d d' : District σ τ ρ} {plan : Plan σ τ ρ} {waits : Bool} (h : Reaches d₀ d)
    (hs : d.step plan i (.close waits) = some d') (hc : d'.HasCrew i) : Stopping d₀ i d'
  | next {d d' : District σ τ ρ} (h : Stopping d₀ i d) (hd : Happens d d') (hc : d'.HasCrew i) :
    Stopping d₀ i d'

/-! ## Which pools are stopping -/

theorem step_eq_some {plan : Plan σ τ ρ} {k : Nat} {e : Event τ} (h : d.step plan k e = some d') :
    ∃ w v, d.shops[k]? = some w ∧ (w.numbered d.nameless).step plan e = some v ∧
      d'.shops[k]? = some v ∧ ∀ i ≠ k, d'.shops[i]? = d.shops[i]? := by
  obtain ⟨w, hw, h⟩ := Option.bind_eq_some_iff.1 h
  obtain ⟨v, hv, rfl⟩ := Option.map_eq_some_iff.1 h
  refine ⟨w, v, hw, hv, ?_, ?_⟩
  · exact List.getElem?_set_self (List.getElem?_eq_some_iff.1 hw).1
  · exact fun i hi => List.getElem?_set_ne hi.symm

theorem Stopping.isStopping (h : Stopping d₀ i d) (hw : d.shops[i]? = some w) : w.IsStopping := by
  induction h generalizing w with
  | begin _ hs hc =>
      obtain ⟨u, hu, hcrew⟩ := hc
      cases hw.symm.trans hu
      obtain ⟨x, v, -, hv, hget, -⟩ := step_eq_some hs
      cases hw.symm.trans hget
      exact ⟨hcrew, (Workshop.isClosing_step_iff hv hcrew).2 (Or.inr rfl)⟩
  | next _ hd hc ih =>
      obtain ⟨u, hu, hcrew⟩ := hc
      cases hw.symm.trans hu
      cases hd with
      | elsewhere more => exact ih hw
      | step plan k e hs =>
          obtain ⟨x, v, hx, hv, hget, hother⟩ := step_eq_some hs
          by_cases hik : i = k
          · subst hik
            cases hw.symm.trans hget
            refine ⟨hcrew, (Workshop.isClosing_step_iff hv hcrew).2 (Or.inl ?_)⟩
            exact Workshop.isStopping_numbered.2 (ih hx)
          · exact ih ((hother i hik).symm.trans hw)

/-- From new pools on, a pool is stopping exactly if it is closing and has its crew. -/
theorem Reaches.stopping_iff (h₀ : d₀.IsNew) (h : Reaches d₀ d) (hw : d.shops[i]? = some w) :
    Stopping d₀ i d ↔ w.IsStopping := by
  refine ⟨fun hstop => hstop.isStopping hw, ?_⟩
  induction h generalizing w with
  | refl =>
      obtain ⟨name, workers, shared, rfl⟩ := h₀ w (List.mem_of_getElem? hw)
      rintro ⟨hcrew, -⟩
      cases hcrew
  | next hr hd ih =>
      intro hstop
      cases hd with
      | elsewhere more => exact (ih hw hstop).next (.elsewhere more) ⟨w, hw, hstop.1⟩
      | step plan k e hs =>
          obtain ⟨x, v, hx, hv, hget, hother⟩ := step_eq_some hs
          by_cases hik : i = k
          · subst hik
            cases hw.symm.trans hget
            rcases (Workshop.isClosing_step_iff hv hstop.1).1 hstop.2 with hbefore | he
            · have hnext := ih hx (Workshop.isStopping_numbered.1 hbefore)
              exact hnext.next (.step plan i e hs) ⟨w, hw, hstop.1⟩
            · cases e with
              | close waits => exact .begin hr hs ⟨w, hw, hstop.1⟩
              | _ => cases he
          · have hnext := ih ((hother i hik).symm.trans hw) hstop
            exact hnext.next (.step plan k e hs) ⟨w, hw, hstop.1⟩

/-! ## Whose tasks a stopping pool takes -/

/-- The thread that a caller runs on. -/
def thread? (d : District σ τ ρ) : Caller → Option String
  | .outside thread => some thread
  | .task shop job => do
    let w ← d.shops[shop]?
    let j ← w.jobs[job]?
    let worker ← j.phase.worker?
    some (Pool.threadName w.pool.name j.crew worker)

/-- The caller runs on a thread that is called as if it were one of a pool of the name: any thread
may be, and so are those of a crew whose stem is the name or continues it behind an underscore. -/
def Bears (d : District σ τ ρ) (name : String) : Caller → Prop
  | .outside thread => name.toList ++ ['_'] <+: thread.toList
  | .task shop job => ∃ w j, d.shops[shop]? = some w ∧ w.jobs[job]? = some j ∧
      Pool.Resembles name (Pool.threadStem w.pool.name j.crew)

theorem thread?_task {shop job : Nat} {thread : String}
    (h : d.thread? (.task shop job) = some thread) :
    ∃ w j worker, d.shops[shop]? = some w ∧ w.jobs[job]? = some j ∧
      thread = Pool.threadName w.pool.name j.crew worker := by
  obtain ⟨w, hw, h⟩ := Option.bind_eq_some_iff.1 h
  obtain ⟨j, hj, h⟩ := Option.bind_eq_some_iff.1 h
  obtain ⟨worker, -, h⟩ := Option.bind_eq_some_iff.1 h
  exact ⟨w, j, worker, hw, hj, (Option.some.inj h).symm⟩

/-- A pool takes the thread of a caller for its own exactly if the caller bears its name. -/
theorem ownsThread_iff_bears {caller : Caller} {thread : String} (p : Pool)
    (h : d.thread? caller = some thread) :
    p.ownsThread thread = true ↔ d.Bears p.name caller := by
  cases caller with
  | outside name =>
      cases h
      exact Pool.ownsThread_iff
  | task shop job =>
      obtain ⟨w, j, worker, hw, hj, rfl⟩ := thread?_task h
      rw [Pool.ownsThread_threadName_iff_resembles]
      constructor
      · exact fun hr => ⟨w, j, hw, hj, hr⟩
      · rintro ⟨w', j', hw', hj', hr⟩
        cases hw.symm.trans hw'
        cases hj.symm.trans hj'
        exact hr

/-- The tasks of a pool bear its name unless it has none. -/
theorem bears_iff_of_isOf {caller : Caller} {thread : String} (hw : d.shops[i]? = some w)
    (h : d.thread? caller = some thread) (hi : caller.IsOf i) :
    d.Bears w.pool.name caller ↔ w.pool.name ≠ "" := by
  cases caller with
  | outside thread => exact hi.elim
  | task shop job =>
      obtain rfl : shop = i := hi
      obtain ⟨w', j, worker, hw', hj, -⟩ := thread?_task h
      cases hw.symm.trans hw'
      constructor
      · rintro ⟨w', j', hw', -, hr⟩
        cases hw.symm.trans hw'
        exact Pool.resembles_threadStem_iff.1 hr
      · exact fun hname => ⟨w, j, hw, hj, Pool.resembles_threadStem_iff.2 hname⟩

/-- Whose tasks a pool takes while it is stopping. Every submission is accepted and counted, or
refused with nothing changed. Accepted are those of the pool's own tasks, unless it has no name, and
those of any other caller who bears its name. -/
theorem Reaches.stopping_submit_iff (h₀ : d₀.IsNew) (h : Reaches d₀ d) (hw : d.shops[i]? = some w) :
    (Stopping d₀ i d ↔ w.pool.crew.isSome = true ∧ w.pool.isClosing = true) ∧
    (Stopping d₀ i d → ∀ caller thread task, d.thread? caller = some thread →
      (w.Accepts thread task ∨ w.Refuses thread task) ∧
      (w.Accepts thread task ↔
        caller.IsOf i ∧ w.pool.name ≠ "" ∨ ¬ caller.IsOf i ∧ d.Bears w.pool.name caller)) := by
  refine ⟨h.stopping_iff h₀ hw, ?_⟩
  intro hstop caller thread task hthread
  have howns : w.pool.ownsThread thread = true ↔
      caller.IsOf i ∧ w.pool.name ≠ "" ∨ ¬ caller.IsOf i ∧ d.Bears w.pool.name caller := by
    rw [ownsThread_iff_bears w.pool hthread]
    by_cases hi : caller.IsOf i
    · rw [bears_iff_of_isOf hw hthread hi, and_iff_right hi, or_iff_left fun hno => hno.1 hi]
    · rw [and_iff_right hi, or_iff_right fun hyes => hi hyes.1]
  rw [← howns]
  rcases (hstop.isStopping hw).submit thread task with ⟨hyes, ha⟩ | ⟨hno, hr⟩
  · exact ⟨Or.inl ha, iff_of_true ha hyes⟩
  · refine ⟨Or.inr hr, iff_of_false (fun ha => ha.not_refuses hr) ?_⟩
    rw [hno]
    exact Bool.false_ne_true

/-- Two pools of one name and one without a name, each with a task at work. While the first and the
nameless one are stopping, the first takes a task from a task of the second, and the nameless one
refuses its own. -/
theorem Reaches.stopping_submit_iff_namesakes :
    let d₀ : District Bool Drill (Except Failure Int) :=
      ⟨["p", "p", ""].map fun name => .ofPool (.ofName name 1) false, 0⟩
    let first : Workshop Bool Drill (Except Failure Int) :=
      ⟨⟨"p", 1, some 0, 1, true, 1⟩, false, [⟨0, .running 0 (.gated (.value 1))⟩], [.draining]⟩
    let second : Workshop Bool Drill (Except Failure Int) :=
      ⟨⟨"p", 1, some 0, 1, false, 1⟩, false, [⟨0, .running 0 (.gated (.value 1))⟩], []⟩
    let unnamed : Workshop Bool Drill (Except Failure Int) :=
      ⟨⟨"", 1, some 0, 1, true, 1⟩, false, [⟨0, .running 0 (.gated (.value 1))⟩], [.draining]⟩
    let d : District Bool Drill (Except Failure Int) := ⟨[first, second, unnamed], 1⟩
    d₀.IsNew ∧ Reaches d₀ d ∧
      (Stopping d₀ 0 d ∧ ¬ (Caller.task 1 0).IsOf 0 ∧ d.thread? (.task 1 0) = some "p_0" ∧
        first.Accepts "p_0" (.value 2)) ∧
      Stopping d₀ 2 d ∧ (Caller.task 2 0).IsOf 2 ∧
        d.thread? (.task 2 0) = some "ThreadPoolExecutor-0_0" ∧
        unnamed.Refuses "ThreadPoolExecutor-0_0" (.value 2) := by
  intro d₀ first second unnamed d
  have hnew : d₀.IsNew := by
    intro w hw
    obtain ⟨name, -, rfl⟩ := List.mem_map.1 hw
    exact ⟨name, 1, false, rfl⟩
  have hreach : Reaches d₀ d :=
    (Reaches.refl : Reaches d₀ d₀)
      |>.next (.step Drill.plan 0 .start rfl)
      |>.next (.step Drill.plan 0 (.submit "main" (.gated (.value 1))) rfl)
      |>.next (.step Drill.plan 0 (.begin 0 0) rfl)
      |>.next (.step Drill.plan 1 .start rfl)
      |>.next (.step Drill.plan 1 (.submit "main" (.gated (.value 1))) rfl)
      |>.next (.step Drill.plan 1 (.begin 0 0) rfl)
      |>.next (.step Drill.plan 2 .start rfl)
      |>.next (.step Drill.plan 2 (.submit "main" (.gated (.value 1))) rfl)
      |>.next (.step Drill.plan 2 (.begin 0 0) rfl)
      |>.next (.step Drill.plan 0 (.close true) rfl)
      |>.next (.step Drill.plan 2 (.close true) rfl)
  have hfirst : d.shops[0]? = some first := rfl
  have hunnamed : d.shops[2]? = some unnamed := rfl
  have hthread : d.thread? (.task 1 0) = some "p_0" := rfl
  have hthread' : d.thread? (.task 2 0) = some "ThreadPoolExecutor-0_0" := rfl
  obtain ⟨hstop, hsubmit⟩ := hreach.stopping_submit_iff hnew hfirst
  obtain ⟨hstop', hsubmit'⟩ := hreach.stopping_submit_iff hnew hunnamed
  have hstopping : Stopping d₀ 0 d := hstop.2 ⟨rfl, rfl⟩
  have hstopping' : Stopping d₀ 2 d := hstop'.2 ⟨rfl, rfl⟩
  have haccepts : first.Accepts "p_0" (.value 2) := by
    have hbears : d.Bears "p" (.task 1 0) := ⟨second, _, rfl, rfl, Or.inl rfl⟩
    exact (hsubmit hstopping _ _ _ hthread).2.2 (Or.inr ⟨Nat.one_ne_zero, hbears⟩)
  have hrefuses : unnamed.Refuses "ThreadPoolExecutor-0_0" (.value 2) := by
    obtain ⟨houtcome, haccepts⟩ := hsubmit' hstopping' _ _ (.value 2) hthread'
    refine houtcome.resolve_left fun h => ?_
    rcases haccepts.1 h with ⟨-, hname⟩ | ⟨hother, -⟩
    · exact hname rfl
    · exact hother rfl
  exact ⟨hnew, hreach, ⟨hstopping, Nat.one_ne_zero, hthread, haccepts⟩, hstopping', rfl, hthread',
    hrefuses⟩

end District

end AppCatalog
