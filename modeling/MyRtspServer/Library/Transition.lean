import Mathlib.Data.List.Basic

/-!
# Runs of a labelled step function

A system is a step function: from a state and a label it gives the next state
and what the step lets an observer see, or the fault the step ran into. A run
is a list of labels. The two rules below carry every safety argument of the
development: what each admissible step preserves holds of every admissible run,
and an observer that only accumulates outputs never changes the run it watches.
-/
namespace MyRtspServer.Library.Transition

universe u v w x y

variable {State : Type u} {Label : Type v} {Fault : Type w} {Out : Type x}

/-- The state a list of labels leads to, with everything seen on the way. -/
def run (step : State → Label → Except Fault (State × List Out)) :
    State → List Label → Except Fault (State × List Out)
  | s, [] => .ok (s, [])
  | s, l :: ls =>
    match step s l with
    | .error e => .error e
    | .ok (s', out) =>
      match run step s' ls with
      | .error e => .error e
      | .ok (s'', out') => .ok (s'', out ++ out')

/-- Each step of the run meets `ok` in the state before it. -/
def Meets (step : State → Label → Except Fault (State × List Out))
    (ok : State → Label → Prop) : State → List Label → Prop
  | _, [] => True
  | s, l :: ls => ok s l ∧ ∀ s' out, step s l = .ok (s', out) → Meets step ok s' ls

section Rules

variable {step : State → Label → Except Fault (State × List Out)} {ok : State → Label → Prop}

theorem run_cons {s t : State} {l : Label} {ls : List Label} {out : List Out}
    (h : run step s (l :: ls) = .ok (t, out)) :
    ∃ m first rest, step s l = .ok (m, first) ∧ run step m ls = .ok (t, rest) ∧
      out = first ++ rest := by
  rw [run] at h
  cases hs : step s l with
  | error e => rw [hs] at h; cases h
  | ok r =>
    obtain ⟨m, first⟩ := r
    rw [hs] at h
    cases hr : run step m ls with
    | error e => simp only [hr] at h; cases h
    | ok q =>
      obtain ⟨u, rest⟩ := q
      simp only [hr] at h
      cases h
      exact ⟨m, first, rest, rfl, hr, rfl⟩

theorem run_append {s t : State} {ls ms : List Label} {out : List Out}
    (h : run step s (ls ++ ms) = .ok (t, out)) :
    ∃ m first rest, run step s ls = .ok (m, first) ∧ run step m ms = .ok (t, rest) ∧
      out = first ++ rest := by
  induction ls generalizing s out with
  | nil => exact ⟨s, [], out, rfl, h, rfl⟩
  | cons l ls ih =>
    obtain ⟨m, first, rest, hs, hr, rfl⟩ := run_cons h
    obtain ⟨k, f, g, hf, hg, rfl⟩ := ih hr
    refine ⟨k, first ++ f, g, ?_, hg, by rw [List.append_assoc]⟩
    rw [run, hs]
    simp only [hf]

theorem run_cons_eq {s m : State} {l : Label} {first : List Out}
    (h : step s l = .ok (m, first)) (ls : List Label) :
    run step s (l :: ls) = (run step m ls).map fun r => (r.1, first ++ r.2) := by
  rw [run, h]
  cases hr : run step m ls <;> simp only [hr, Except.map]

/-- One run after another, whether or not the second comes to its end. -/
theorem run_append_eq {s m : State} {ls : List Label} {first : List Out}
    (h : run step s ls = .ok (m, first)) (ms : List Label) :
    run step s (ls ++ ms) = (run step m ms).map fun r => (r.1, first ++ r.2) := by
  induction ls generalizing s first with
  | nil =>
    cases h
    cases hr : run step m ms <;> simp [hr, Except.map]
  | cons l ls ih =>
    obtain ⟨k, f, g, hs, hr, rfl⟩ := run_cons h
    rw [List.cons_append, run_cons_eq hs, ih hr]
    cases hr : run step m ms <;> simp [Except.map]

theorem run_append_ok {s m t : State} {ls ms : List Label} {first rest : List Out}
    (h : run step s ls = .ok (m, first)) (h' : run step m ms = .ok (t, rest)) :
    run step s (ls ++ ms) = .ok (t, first ++ rest) := by
  rw [run_append_eq h, h']
  rfl

/-- **The invariant rule.** An invariant that each admissible step preserves
holds at the end of every admissible run. -/
theorem run_invariant (inv : State → Prop)
    (hstep : ∀ s l s' out, inv s → ok s l → step s l = .ok (s', out) → inv s')
    {ls : List Label} : ∀ {s t : State} {out : List Out},
      inv s → Meets step ok s ls → run step s ls = .ok (t, out) → inv t := by
  induction ls with
  | nil =>
    intro s t out hi _ h
    cases h
    exact hi
  | cons l ls ih =>
    intro s t out hi hm h
    obtain ⟨m, first, rest, hs, hr, -⟩ := run_cons h
    exact ih (hstep s l m first hi hm.1 hs) (hm.2 m first hs) hr

/-- The invariant rule with the log of everything seen so far. -/
theorem run_logged (inv : State → List Out → Prop)
    (hstep : ∀ s l s' log out, inv s log → ok s l → step s l = .ok (s', out) → inv s' (log ++ out))
    {ls : List Label} : ∀ {s t : State} {log out : List Out},
      inv s log → Meets step ok s ls → run step s ls = .ok (t, out) → inv t (log ++ out) := by
  induction ls with
  | nil =>
    intro s t log out hi _ h
    cases h
    rw [List.append_nil]
    exact hi
  | cons l ls ih =>
    intro s t log out hi hm h
    obtain ⟨m, first, rest, hs, hr, rfl⟩ := run_cons h
    rw [← List.append_assoc]
    exact ih (hstep s l m log first hi hm.1 hs) (hm.2 m first hs) hr

/-- The rule for runs that come to their end: a step can be taken wherever the
invariant holds. -/
theorem run_defined (inv : State → List Out → Prop)
    (hstep : ∀ s l s' log out, inv s log → ok s l → step s l = .ok (s', out) → inv s' (log ++ out))
    (hdefined : ∀ s l log, inv s log → ok s l → ∃ s' out, step s l = .ok (s', out))
    {ls : List Label} : ∀ {s : State} {log : List Out}, inv s log → Meets step ok s ls →
      ∃ t out, run step s ls = .ok (t, out) := by
  induction ls with
  | nil => exact fun _ _ => ⟨_, _, rfl⟩
  | cons l ls ih =>
    intro s log hi hm
    obtain ⟨m, first, hs⟩ := hdefined s l log hi hm.1
    obtain ⟨t, rest, hr⟩ := ih (hstep s l m log first hi hm.1 hs) (hm.2 m first hs)
    refine ⟨t, first ++ rest, ?_⟩
    rw [run, hs]
    dsimp only
    rw [hr]

/-- The output rule: under an invariant, what every admissible step shows has a
property, so everything an admissible run shows has it. -/
theorem run_outputs (inv : State → Prop) (shown : Out → Prop)
    (hstep : ∀ s l s' out, inv s → ok s l → step s l = .ok (s', out) →
      inv s' ∧ ∀ o ∈ out, shown o)
    {ls : List Label} : ∀ {s t : State} {out : List Out},
      inv s → Meets step ok s ls → run step s ls = .ok (t, out) → ∀ o ∈ out, shown o := by
  induction ls with
  | nil =>
    intro s t out _ _ h
    cases h
    intro o ho
    cases ho
  | cons l ls ih =>
    intro s t out hi hm h o ho
    obtain ⟨m, first, rest, hs, hr, rfl⟩ := run_cons h
    obtain ⟨hi', hfirst⟩ := hstep s l m first hi hm.1 hs
    rcases List.mem_append.mp ho with hf | hg
    · exact hfirst o hf
    · exact ih hi' (hm.2 m first hs) hr o hg

/-- A run splits into an admissible beginning and an admissible end. -/
theorem meets_append {ls ms : List Label} : ∀ {s t : State} {out : List Out},
    Meets step ok s (ls ++ ms) → run step s ls = .ok (t, out) →
      Meets step ok s ls ∧ Meets step ok t ms := by
  induction ls with
  | nil =>
    intro s t out hm h
    cases h
    exact ⟨trivial, hm⟩
  | cons l ls ih =>
    intro s t out hm h
    obtain ⟨m, first, rest, hs, hr, -⟩ := run_cons h
    refine ⟨⟨hm.1, fun s' out' hs' => ?_⟩, (ih (hm.2 m first hs) hr).2⟩
    rw [hs] at hs'
    cases hs'
    exact (ih (hm.2 _ _ hs) hr).1

theorem meets_left {ls ms : List Label} : ∀ {s : State},
    Meets step ok s (ls ++ ms) → Meets step ok s ls := by
  induction ls with
  | nil => exact fun _ => trivial
  | cons l ls ih => exact fun hm => ⟨hm.1, fun s' out hs => ih (hm.2 s' out hs)⟩

/-- `Meets` at each step, wherever the run has come by then. -/
theorem meets_iff_forall {ls : List Label} : ∀ {s : State}, Meets step ok s ls ↔
    ∀ pre l post t out, ls = pre ++ l :: post → run step s pre = .ok (t, out) → ok t l := by
  induction ls with
  | nil =>
    intro s
    refine iff_of_true trivial fun pre l post t out h => ?_
    exact absurd h.symm (List.append_ne_nil_of_right_ne_nil _ (List.cons_ne_nil _ _))
  | cons l ls ih =>
    intro s
    constructor
    · intro hm pre k post t out heq hrun
      rw [heq] at hm
      exact (meets_append hm hrun).2.1
    · intro h
      refine ⟨h [] l ls s [] rfl rfl, fun s' first hs => ih.mpr ?_⟩
      intro pre k post t out heq hrun
      refine h (l :: pre) k post t (first ++ out) (by rw [heq]; rfl) ?_
      rw [run, hs]
      simp only [hrun]

/-- A check of the state a run ends in. -/
def checkRun (step : State → Label → Except Fault (State × List Out)) (s : State)
    (ls : List Label) (check : State → List Out → Bool) : Bool :=
  match run step s ls with
  | .ok (t, out) => check t out
  | .error _ => false

theorem checkRun_true {s : State} {ls : List Label} {check : State → List Out → Bool}
    (h : checkRun step s ls check = true) :
    ∃ t out, run step s ls = .ok (t, out) ∧ check t out = true := by
  unfold checkRun at h
  split at h
  · exact ⟨_, _, ‹_›, h⟩
  · cases h

theorem meets_true {ls : List Label} : ∀ {s : State}, Meets step (fun _ _ => True) s ls := by
  induction ls with
  | nil => exact trivial
  | cons l ls ih => exact ⟨trivial, fun _ _ _ => ih⟩

/-- A condition on the labels alone. -/
theorem meets_of_forall {ok : Label → Prop} {ls : List Label} (h : ∀ l ∈ ls, ok l) :
    ∀ {s : State}, Meets step (fun _ l => ok l) s ls := by
  induction ls with
  | nil => exact trivial
  | cons l ls ih =>
    exact ⟨h l List.mem_cons_self, fun _ _ _ => ih fun l' hl' => h l' (List.mem_cons_of_mem l hl')⟩

theorem forall_of_meets {ok : Label → Prop} {ls : List Label} : ∀ {s t : State} {out : List Out},
    Meets step (fun _ l => ok l) s ls → run step s ls = .ok (t, out) → ∀ l ∈ ls, ok l := by
  induction ls with
  | nil => exact fun _ _ _ hl => absurd hl List.not_mem_nil
  | cons l ls ih =>
    intro s t out hm h k hk
    obtain ⟨m, first, rest, hstep, hrun, -⟩ := run_cons h
    rcases List.mem_cons.mp hk with rfl | hk
    · exact hm.1
    · exact ih (hm.2 m first hstep) hrun k hk

theorem meets_mono {ok' : State → Label → Prop} (h : ∀ s l, ok s l → ok' s l) {ls : List Label} :
    ∀ {s : State}, Meets step ok s ls → Meets step ok' s ls := by
  induction ls with
  | nil => exact fun _ => trivial
  | cons l ls ih => exact fun hm => ⟨h _ l hm.1, fun s' out hs => ih (hm.2 s' out hs)⟩

theorem meets_and {ok' : State → Label → Prop} {ls : List Label} : ∀ {s : State},
    Meets step ok s ls → Meets step ok' s ls → Meets step (fun s l => ok s l ∧ ok' s l) s ls := by
  induction ls with
  | nil => exact fun _ _ => trivial
  | cons l ls ih =>
    exact fun hm hm' => ⟨⟨hm.1, hm'.1⟩, fun s' out hs => ih (hm.2 s' out hs) (hm'.2 s' out hs)⟩

/-- Where the admissible steps keep an invariant, a condition that follows from it is met. -/
theorem meets_of_invariant (inv : State → Prop) {ok' : State → Label → Prop}
    (hstep : ∀ s l s' out, inv s → ok s l → step s l = .ok (s', out) → inv s')
    (himp : ∀ s l, inv s → ok s l → ok' s l) {ls : List Label} :
    ∀ {s : State}, inv s → Meets step ok s ls → Meets step ok' s ls := by
  induction ls with
  | nil => exact fun _ _ => trivial
  | cons l ls ih =>
    exact fun hi hm => ⟨himp _ l hi hm.1, fun s' out hs =>
      ih (hstep _ l s' out hi hm.1 hs) (hm.2 s' out hs)⟩

/-- Conditions that agree wherever an invariant holds admit the same runs. -/
theorem meets_iff (inv : State → Prop)
    (hstep : ∀ s l s' out, inv s → step s l = .ok (s', out) → inv s') {ok' : State → Label → Prop}
    (hiff : ∀ s l, inv s → (ok s l ↔ ok' s l)) {ls : List Label} :
    ∀ {s : State}, inv s → (Meets step ok s ls ↔ Meets step ok' s ls) := by
  induction ls with
  | nil => exact fun _ => Iff.rfl
  | cons l ls ih =>
    intro s hi
    refine and_congr (hiff s l hi) (forall_congr' fun s' => forall_congr' fun out => ?_)
    exact imp_congr_right fun hs => ih (hstep s l s' out hi hs)

/-- `Meets`, tested along a run. -/
def checkMeets (step : State → Label → Except Fault (State × List Out))
    (test : State → Label → Bool) : State → List Label → Bool
  | _, [] => true
  | s, l :: ls =>
    test s l && match step s l with
      | .ok (s', _) => checkMeets step test s' ls
      | .error _ => true

theorem meets_of_checkMeets {test : State → Label → Bool}
    (htest : ∀ s l, test s l = true → ok s l) {ls : List Label} :
    ∀ {s : State}, checkMeets step test s ls = true → Meets step ok s ls := by
  induction ls with
  | nil => exact fun _ => trivial
  | cons l ls ih =>
    intro s h
    rw [checkMeets, Bool.and_eq_true] at h
    refine ⟨htest s l h.1, fun s' out hs => ih ?_⟩
    simpa only [hs] using h.2

end Rules

/-! ## What can still happen -/

section Reaching

variable {step : State → Label → Except Fault (State × List Out)} {ok : State → Label → Prop}
  {goal : State → List Out → Prop}

/-- An admissible run leads to the goal. -/
def CanReach (step : State → Label → Except Fault (State × List Out)) (ok : State → Label → Prop)
    (goal : State → List Out → Prop) (s : State) : Prop :=
  ∃ ls t out, Meets step ok s ls ∧ run step s ls = .ok (t, out) ∧ goal t out

theorem canReach_here {s : State} (h : goal s []) : CanReach step ok goal s :=
  ⟨[], s, [], trivial, rfl, h⟩

theorem meets_append_ok {ls ms : List Label} : ∀ {s m : State} {out : List Out},
    Meets step ok s ls → run step s ls = .ok (m, out) → Meets step ok m ms →
      Meets step ok s (ls ++ ms) := by
  induction ls with
  | nil =>
    intro s m out _ h hm
    cases h
    exact hm
  | cons l ls ih =>
    intro s m out hs h hm
    obtain ⟨k, first, rest, hstep, hrun, -⟩ := run_cons h
    refine ⟨hs.1, fun s' out' hs' => ?_⟩
    rw [hstep] at hs'
    cases hs'
    exact ih (hs.2 k first hstep) hrun hm

theorem CanReach.mono {goal' : State → List Out → Prop} {s : State} (h : CanReach step ok goal s)
    (himp : ∀ t out, goal t out → goal' t out) : CanReach step ok goal' s := by
  obtain ⟨ls, t, out, hmeets, hrun, hgoal⟩ := h
  exact ⟨ls, t, out, hmeets, hrun, himp t out hgoal⟩

/-- One goal after the other. -/
theorem CanReach.trans {middle : State → List Out → Prop} {s : State}
    (h : CanReach step ok middle s)
    (hnext : ∀ m first, middle m first →
      CanReach step ok (fun t out => goal t (first ++ out)) m) : CanReach step ok goal s := by
  obtain ⟨ls, m, first, hmeets, hrun, hmiddle⟩ := h
  obtain ⟨ms, t, rest, hmeets', hrun', hgoal⟩ := hnext m first hmiddle
  exact ⟨ls ++ ms, t, first ++ rest, meets_append_ok hmeets hrun hmeets',
    run_append_ok hrun hrun', hgoal⟩

theorem canReach_step {s m : State} {l : Label} {first : List Out} (hok : ok s l)
    (hstep : step s l = .ok (m, first))
    (h : CanReach step ok (fun t out => goal t (first ++ out)) m) : CanReach step ok goal s := by
  obtain ⟨ls, t, out, hmeets, hrun, hgoal⟩ := h
  refine ⟨l :: ls, t, first ++ out, ⟨hok, fun s' out' hs' => ?_⟩, ?_, hgoal⟩
  · rw [hstep] at hs'
    cases hs'
    exact hmeets
  · rw [run_cons_eq hstep, hrun]
    rfl

/-- What every run keeps, the goal has too. -/
theorem CanReach.keeps (inv : State → List Out → Prop)
    (hstep : ∀ s l s' log out, inv s log → ok s l → step s l = .ok (s', out) → inv s' (log ++ out))
    {s : State} {log : List Out} (hi : inv s log) (h : CanReach step ok goal s) :
    CanReach step ok (fun t out => inv t (log ++ out) ∧ goal t out) s := by
  obtain ⟨ls, t, out, hmeets, hrun, hgoal⟩ := h
  exact ⟨ls, t, out, hmeets, hrun, run_logged inv hstep hi hmeets hrun, hgoal⟩

/-- **Again and again.** If a count of what has been seen can always still grow, it can
become as large as one likes. -/
theorem canReach_count (inv : State → List Out → Prop)
    (hstep : ∀ s l s' log out, inv s log → ok s l → step s l = .ok (s', out) → inv s' (log ++ out))
    (count : List Out → Nat)
    (hgrows : ∀ s log, inv s log →
      CanReach step ok (fun _ out => count log < count (log ++ out)) s) (n : Nat) :
    ∀ {s : State} {log : List Out}, inv s log →
      CanReach step ok (fun _ out => n ≤ count (log ++ out)) s := by
  induction n with
  | zero => exact fun _ => canReach_here (Nat.zero_le _)
  | succ n ih =>
    intro s log hi
    refine ((ih hi).keeps inv hstep hi).trans fun m first ⟨hm, hn⟩ => ?_
    obtain ⟨ls, t, out, hmeets, hrun, hmore⟩ := hgrows m _ hm
    rw [List.append_assoc] at hmore
    exact ⟨ls, t, out, hmeets, hrun, Nat.lt_of_le_of_lt hn hmore⟩

end Reaching

/-! ## What another observer sees -/

/-- A system whose steps are those of another, shown differently, has its runs. -/
theorem run_project {Seen : Type y} {step : State → Label → Except Fault (State × List Out)}
    {other : State → Label → Except Fault (State × List Seen)} (see : List Out → List Seen)
    (hnil : see [] = []) (happend : ∀ a b, see (a ++ b) = see a ++ see b)
    (hstep : ∀ s l s' out, step s l = .ok (s', out) → other s l = .ok (s', see out))
    {ls : List Label} : ∀ {s t : State} {out : List Out},
      run step s ls = .ok (t, out) → run other s ls = .ok (t, see out) := by
  induction ls with
  | nil =>
    intro s t out h
    cases h
    rw [run, hnil]
  | cons l ls ih =>
    intro s t out h
    obtain ⟨m, first, rest, hs, hr, rfl⟩ := run_cons h
    rw [run, hstep s l m first hs, happend]
    simp only [ih hr]

/-! ## Another system -/

section Simulation

universe x' y' z'

variable {State' : Type u} {Label' : Type x'} {Fault' : Type y'} {Out' : Type z'}
  {step : State → Label → Except Fault (State × List Out)} {ok : State → Label → Prop}
  {step' : State' → Label' → Except Fault' (State' × List Out')}

/-- The labels another system gets, when each step stands for some of them. -/
def projected (step : State → Label → Except Fault (State × List Out))
    (labels : State → Label → List Label') : State → List Label → List Label'
  | _, [] => []
  | s, l :: ls =>
    labels s l ++ match step s l with
      | .ok (s', _) => projected step labels s' ls
      | .error _ => []

/-- **Forward simulation.** If the other system can follow each step, it can follow a run. -/
theorem run_simulates (labels : State → Label → List Label')
    (related : State → List Out → State' → List Out' → Prop)
    (hstep : ∀ s l s' log out t log', related s log t log' → ok s l → step s l = .ok (s', out) →
      ∃ t' out', run step' t (labels s l) = .ok (t', out') ∧
        related s' (log ++ out) t' (log' ++ out'))
    {ls : List Label} : ∀ {s s' : State} {log out : List Out} {t : State'} {log' : List Out'},
      related s log t log' → Meets step ok s ls → run step s ls = .ok (s', out) →
        ∃ t' out', run step' t (projected step labels s ls) = .ok (t', out') ∧
          related s' (log ++ out) t' (log' ++ out') := by
  induction ls with
  | nil =>
    intro s s' log out t log' h _ hrun
    cases hrun
    exact ⟨t, [], rfl, by rwa [List.append_nil, List.append_nil]⟩
  | cons l ls ih =>
    intro s s' log out t log' h hm hrun
    obtain ⟨m, first, rest, hs, hr, rfl⟩ := run_cons hrun
    obtain ⟨u, first', hu, hfirst⟩ := hstep s l m log first t log' h hm.1 hs
    obtain ⟨t', rest', ht, hrest⟩ := ih hfirst (hm.2 m first hs) hr
    refine ⟨t', first' ++ rest', ?_, ?_⟩
    · rw [projected, hs]
      exact run_append_ok hu ht
    · rw [← List.append_assoc, ← List.append_assoc]
      exact hrest

/-- **Exact refinement.** If the other system does what each step does, faults included, it
does what a run does. -/
theorem run_mirrors {step' : State' → Label' → Except Fault (State' × List Out)}
    (see : State → State') (labels : State → Label → List Label') (inv : State → Prop)
    (hinv : ∀ s l s' out, inv s → step s l = .ok (s', out) → inv s')
    (hstep : ∀ s l, inv s →
      run step' (see s) (labels s l) = (step s l).map fun r => (see r.1, r.2))
    {ls : List Label} : ∀ {s : State}, inv s →
      run step' (see s) (projected step labels s ls) =
        (run step s ls).map fun r => (see r.1, r.2) := by
  induction ls with
  | nil => exact fun _ => rfl
  | cons l ls ih =>
    intro s hi
    have hfirst := hstep s l hi
    rw [projected]
    cases hs : step s l with
    | error e =>
      rw [hs] at hfirst
      rw [List.append_nil, hfirst, run, hs]
    | ok r =>
      obtain ⟨m, first⟩ := r
      rw [hs] at hfirst
      rw [run_append_eq hfirst, ih (hinv s l m first hi hs), run_cons_eq hs]
      cases run step m ls <;> rfl

end Simulation

/-! ## Observers -/

/-- The system with an observer that folds the outputs of each step. -/
def watch {View : Type y} (see : View → Out → View)
    (step : State → Label → Except Fault (State × List Out)) :
    State × View → Label → Except Fault ((State × View) × List Out)
  | (s, v), l =>
    match step s l with
    | .error e => .error e
    | .ok (s', out) => .ok ((s', out.foldl see v), out)

section Watch

variable {View : Type y} {see : View → Out → View}
variable {step : State → Label → Except Fault (State × List Out)}

theorem watch_step {s t : State} {v v' : View} {l : Label} {out : List Out}
    (h : watch see step (s, v) l = .ok ((t, v'), out)) :
    step s l = .ok (t, out) ∧ v' = out.foldl see v := by
  rw [watch] at h
  cases hs : step s l with
  | error e => rw [hs] at h; cases h
  | ok r => rw [hs] at h; cases h; exact ⟨rfl, rfl⟩

/-- Watching a run changes nothing but the view. -/
theorem run_watch {ls : List Label} : ∀ {s t : State} {out : List Out} (v : View),
    run step s ls = .ok (t, out) →
      run (watch see step) (s, v) ls = .ok ((t, out.foldl see v), out) := by
  induction ls with
  | nil =>
    intro s t out v h
    cases h
    rfl
  | cons l ls ih =>
    intro s t out v h
    obtain ⟨m, first, rest, hs, hr, rfl⟩ := run_cons h
    rw [run, watch, hs]
    simp only [ih (first.foldl see v) hr, List.foldl_append]

/-- A condition that does not look at the view survives the observer. -/
theorem meets_watch {ok : State → Label → Prop} {ls : List Label} :
    ∀ {s : State} (v : View), Meets step ok s ls →
      Meets (watch see step) (fun p l => ok p.1 l) (s, v) ls := by
  induction ls with
  | nil => intro s v _; trivial
  | cons l ls ih =>
    intro s v hm
    refine ⟨hm.1, fun p out hp => ?_⟩
    obtain ⟨t, w⟩ := p
    obtain ⟨hs, -⟩ := watch_step hp
    exact ih w (hm.2 t out hs)

theorem meets_of_watch {ok : State → Label → Prop} {ls : List Label} :
    ∀ {s : State} (v : View), Meets (watch see step) (fun p l => ok p.1 l) (s, v) ls →
      Meets step ok s ls := by
  induction ls with
  | nil => exact fun _ _ => trivial
  | cons l ls ih =>
    intro s v hm
    refine ⟨hm.1, fun s' out hs => ih (out.foldl see v) (hm.2 _ out ?_)⟩
    rw [watch, hs]

end Watch

/-! ## A second state that goes along -/

/-- The system with a second state that follows its steps, and that can forbid one. -/
def guarded {View : Type y} (fault : Fault) (within : State → View → Label → Bool)
    (follow : State → View → Label → State → View)
    (step : State → Label → Except Fault (State × List Out)) :
    State × View → Label → Except Fault ((State × View) × List Out)
  | (s, v), l =>
    if within s v l then
      match step s l with
      | .error e => .error e
      | .ok (s', out) => .ok ((s', follow s v l s'), out)
    else .error fault

section Guard

variable {View : Type y} {fault : Fault} {within : State → View → Label → Bool}
  {follow : State → View → Label → State → View}
  {step : State → Label → Except Fault (State × List Out)}

theorem guarded_step {s t : State} {v v' : View} {l : Label} {out : List Out}
    (h : guarded fault within follow step (s, v) l = .ok ((t, v'), out)) :
    within s v l = true ∧ step s l = .ok (t, out) ∧ v' = follow s v l t := by
  rw [guarded] at h
  split at h
  · rename_i hwithin
    cases hs : step s l with
    | error e => rw [hs] at h; cases h
    | ok r => rw [hs] at h; cases h; exact ⟨hwithin, rfl, rfl⟩
  · cases h

/-- The guarded runs are runs of the system. -/
theorem run_guarded {ls : List Label} : ∀ {s t : State} {v v' : View} {out : List Out},
    run (guarded fault within follow step) (s, v) ls = .ok ((t, v'), out) →
      run step s ls = .ok (t, out) := by
  induction ls with
  | nil =>
    intro s t v v' out h
    cases h
    rfl
  | cons l ls ih =>
    intro s t v v' out h
    obtain ⟨⟨m, u⟩, first, rest, hs, hr, rfl⟩ := run_cons h
    obtain ⟨-, hs, -⟩ := guarded_step hs
    rw [run, hs]
    simp only [ih hr]

end Guard

end MyRtspServer.Library.Transition
