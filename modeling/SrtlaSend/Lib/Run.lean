import Mathlib.Data.List.Basic
import Mathlib.Data.List.Induction

/-!
# Runs of a deterministic system

A system is a step function on states and events. A run is the fold of the step
over a list of events. `EachStep` says that a relation between a state and the
event taken there holds at every step of a run; `EachStep.mono_of_invariant` is
the rule by which all safety results over runs are proved. `Since` is the
history operator used for one-shot permissions: something armed it, and nothing
disarmed it afterwards.
-/

namespace Runs

variable {σ ε : Type}

/-- The state after the events `es`, taken in order from `s`. -/
def run (step : σ → ε → σ) (s : σ) (es : List ε) : σ := es.foldl step s

@[simp] theorem run_nil (step : σ → ε → σ) (s : σ) : run step s [] = s := rfl

@[simp] theorem run_cons (step : σ → ε → σ) (s : σ) (e : ε) (es : List ε) :
    run step s (e :: es) = run step (step s e) es := rfl

theorem run_append (step : σ → ε → σ) (s : σ) (es fs : List ε) :
    run step s (es ++ fs) = run step (run step s es) fs := List.foldl_append

/-- `P` relates the state before each event of the run to that event. -/
def EachStep (step : σ → ε → σ) (P : σ → ε → Prop) : σ → List ε → Prop
  | _, [] => True
  | s, e :: es => P s e ∧ EachStep step P (step s e) es

instance decidableEachStep (step : σ → ε → σ) (P : σ → ε → Prop) [∀ s e, Decidable (P s e)] :
    ∀ s es, Decidable (EachStep step P s es)
  | _, [] => isTrue trivial
  | s, e :: es =>
    have := decidableEachStep step P (step s e) es
    inferInstanceAs (Decidable (P s e ∧ EachStep step P (step s e) es))

/-- `EachStep` quantifies over the ways of cutting the run at an event. -/
theorem eachStep_iff (step : σ → ε → σ) (P : σ → ε → Prop) (s : σ) (es : List ε) :
    EachStep step P s es ↔ ∀ before e after, es = before ++ e :: after → P (run step s before) e := by
  induction es generalizing s with
  | nil => simp [EachStep]
  | cons e es ih =>
    simp only [EachStep, ih]
    constructor
    · rintro ⟨first, rest⟩ before e' after cut
      cases before with
      | nil =>
        obtain ⟨rfl, -⟩ := List.cons.inj cut
        exact first
      | cons b before =>
        obtain ⟨rfl, tail⟩ := List.cons.inj cut
        exact rest before e' after tail
    · intro all
      refine ⟨all [] e es rfl, fun before e' after cut => ?_⟩
      exact all (e :: before) e' after (by rw [cut, List.cons_append])

theorem eachStep_append (step : σ → ε → σ) (P : σ → ε → Prop) (s : σ) (es fs : List ε) :
    EachStep step P s (es ++ fs) ↔ EachStep step P s es ∧ EachStep step P (run step s es) fs := by
  induction es generalizing s with
  | nil => simp [EachStep]
  | cons e es ih => simp only [List.cons_append, EachStep, ih, run_cons, and_assoc]

/-- Every step of a run has `Q` when the run keeps an invariant under steps
that have `P`, and invariant and `P` together give `Q`. -/
theorem EachStep.mono_of_invariant {step : σ → ε → σ} {P Q : σ → ε → Prop} (Inv : σ → Prop)
    (keeps : ∀ s e, Inv s → P s e → Inv (step s e))
    (gives : ∀ s e, Inv s → P s e → Q s e) {s : σ} {es : List ε}
    (init : Inv s) (each : EachStep step P s es) : EachStep step Q s es := by
  induction es generalizing s with
  | nil => trivial
  | cons e es ih => exact ⟨gives s e init each.1, ih (keeps s e init each.1) each.2⟩

/-- An invariant kept by every step that has `P` holds after a run of such steps. -/
theorem EachStep.invariant {step : σ → ε → σ} {P : σ → ε → Prop} (Inv : σ → Prop)
    (keeps : ∀ s e, Inv s → P s e → Inv (step s e)) {s : σ} {es : List ε}
    (init : Inv s) (each : EachStep step P s es) : Inv (run step s es) := by
  induction es generalizing s with
  | nil => exact init
  | cons e es ih => exact ih (keeps s e init each.1) each.2

/-- An invariant kept by every step holds after every run. -/
theorem run_invariant {step : σ → ε → σ} (Inv : σ → Prop)
    (keeps : ∀ s e, Inv s → Inv (step s e)) {s : σ} (init : Inv s) (es : List ε) :
    Inv (run step s es) := by
  induction es generalizing s with
  | nil => exact init
  | cons e es ih => exact ih (keeps s e init)

/-- An invariant kept by the steps of admissible events holds after every run of
admissible events. -/
theorem run_invariant_of {step : σ → ε → σ} (Inv : σ → Prop) (ok : ε → Prop)
    (keeps : ∀ s e, ok e → Inv s → Inv (step s e)) {s : σ} (init : Inv s) {es : List ε}
    (admissible : ∀ e ∈ es, ok e) : Inv (run step s es) := by
  induction es generalizing s with
  | nil => exact init
  | cons e es ih =>
    exact ih (keeps s e (admissible e List.mem_cons_self) init)
      fun e' member => admissible e' (List.mem_cons_of_mem e member)

/-- What holds of every beginning of a list and of one more step holds of every beginning
of the longer list. -/
theorem forall_prefix_concat {P : List ε → Prop} {es : List ε} {e : ε}
    (all : ∀ mid tail, es = mid ++ tail → P mid) (last : P (es ++ [e])) :
    ∀ mid tail, es ++ [e] = mid ++ tail → P mid := by
  intro mid tail cut
  -- the beginning is the whole list, or it leaves out the last step
  rcases List.eq_nil_or_concat tail with rfl | ⟨tail, final, rfl⟩
  · rw [List.append_nil] at cut
    rw [← cut]
    exact last
  · rw [List.concat_eq_append, ← List.append_assoc] at cut
    exact all mid tail (List.append_inj' cut rfl).1

/-- A step function that follows another one through two readings of states and events
follows it through whole runs. -/
theorem EachStep.simulates {σ' ε' : Type} {step : σ → ε → σ} {step' : σ' → ε' → σ'}
    {P : σ → ε → Prop} (state : σ → σ') (event : ε → ε')
    (simulates : ∀ s e, P s e → state (step s e) = step' (state s) (event e)) {s : σ} {es : List ε}
    (each : EachStep step P s es) :
    state (run step s es) = run step' (state s) (es.map event) := by
  induction es generalizing s with
  | nil => rfl
  | cons e es ih =>
    rw [run_cons, List.map_cons, run_cons, ← simulates s e each.1]
    exact ih each.2

/-! ### Histories -/

/-- The events of a run, each with the state it was taken in. -/
def history (step : σ → ε → σ) : σ → List ε → List (σ × ε)
  | _, [] => []
  | s, e :: es => (s, e) :: history step (step s e) es

theorem history_concat (step : σ → ε → σ) (s : σ) (es : List ε) (e : ε) :
    history step s (es ++ [e]) = history step s es ++ [(run step s es, e)] := by
  induction es generalizing s with
  | nil => rfl
  | cons e' es ih =>
    rw [List.cons_append, history, ih]
    rfl

theorem filterMap_history_concat {α : Type} (step : σ → ε → σ) (s : σ) (es : List ε) (e : ε)
    (f : σ × ε → Option α) :
    (history step s (es ++ [e])).filterMap f =
      (history step s es).filterMap f ++ (f (run step s es, e)).toList := by
  rw [history_concat, List.filterMap_append]
  cases now : f (run step s es, e) with
  | none => simp [now]
  | some a => simp [now]

@[simp] theorem length_history (step : σ → ε → σ) (s : σ) (es : List ε) :
    (history step s es).length = es.length := by
  induction es generalizing s with
  | nil => rfl
  | cons e es ih => rw [history, List.length_cons, List.length_cons, ih]

theorem mem_of_mem_history {step : σ → ε → σ} {s : σ} {es : List ε} {x : σ × ε}
    (member : x ∈ history step s es) : x.2 ∈ es := by
  induction es generalizing s with
  | nil => cases member
  | cons e es ih =>
    rcases List.mem_cons.mp member with rfl | later
    · exact List.mem_cons_self
    · exact List.mem_cons_of_mem e (ih later)

/-- What holds at each step holds of each entry of the history. -/
theorem EachStep.of_mem_history {step : σ → ε → σ} {P : σ → ε → Prop} {s : σ} {es : List ε}
    (each : EachStep step P s es) {x : σ × ε} (member : x ∈ history step s es) : P x.1 x.2 := by
  induction es generalizing s with
  | nil => cases member
  | cons e es ih =>
    rcases List.mem_cons.mp member with rfl | later
    · exact each.1
    · exact ih each.2 later

theorem eachStep_of_history {step : σ → ε → σ} {P : σ → ε → Prop} {s : σ} {es : List ε}
    (all : ∀ x ∈ history step s es, P x.1 x.2) : EachStep step P s es := by
  induction es generalizing s with
  | nil => trivial
  | cons e es ih =>
    exact ⟨all (s, e) List.mem_cons_self, ih fun x member => all x (List.mem_cons_of_mem _ member)⟩

/-- So does its history. -/
theorem EachStep.history_simulates {σ' ε' : Type} {step : σ → ε → σ} {step' : σ' → ε' → σ'}
    {P : σ → ε → Prop} (state : σ → σ') (event : ε → ε')
    (simulates : ∀ s e, P s e → state (step s e) = step' (state s) (event e)) {s : σ} {es : List ε}
    (each : EachStep step P s es) :
    history step' (state s) (es.map event) =
      (history step s es).map fun x => (state x.1, event x.2) := by
  induction es generalizing s with
  | nil => rfl
  | cons e es ih =>
    rw [List.map_cons, history, history, List.map_cons, ← simulates s e each.1, ih each.2]

/-- The same for a reading of events that depends on the state they are taken in. -/
theorem EachStep.history_follows {σ' ε' : Type} {step : σ → ε → σ} {step' : σ' → ε' → σ'}
    {P : σ → ε → Prop} (state : σ → σ') (event : σ → ε → ε')
    (simulates : ∀ s e, P s e → state (step s e) = step' (state s) (event s e)) {s : σ} {es : List ε}
    (each : EachStep step P s es) :
    history step' (state s) ((history step s es).map fun x => event x.1 x.2) =
        ((history step s es).map fun x => (state x.1, event x.1 x.2)) ∧
      run step' (state s) ((history step s es).map fun x => event x.1 x.2) =
        state (run step s es) := by
  induction es generalizing s with
  | nil => exact ⟨rfl, rfl⟩
  | cons e es ih =>
    obtain ⟨past, reached⟩ := ih each.2
    rw [history, List.map_cons, List.map_cons, history, run_cons, run_cons, ← simulates s e each.1]
    exact ⟨congrArg _ past, reached⟩

/-- An invariant of a state and the history that led to it. -/
theorem EachStep.history_invariant {step : σ → ε → σ} {P : σ → ε → Prop}
    (Inv : List (σ × ε) → σ → Prop)
    (keeps : ∀ h s e, Inv h s → P s e → Inv (h ++ [(s, e)]) (step s e)) {s : σ} {es : List ε}
    (init : Inv [] s) (each : EachStep step P s es) : Inv (history step s es) (run step s es) := by
  induction es using List.reverseRecOn with
  | nil => exact init
  | append_singleton es e ih =>
    obtain ⟨before, last⟩ := (eachStep_append step P s es [e]).mp each
    rw [history_concat, run_append]
    exact keeps _ _ e (ih before) last.1

/-- Some entry of the history arms, and no later one disarms. -/
def Since (arm disarm : ε → Prop) (h : List ε) : Prop :=
  ∃ before a after, h = before ++ a :: after ∧ arm a ∧ ∀ x ∈ after, ¬ disarm x

theorem not_since_nil (arm disarm : ε → Prop) : ¬ Since arm disarm [] := by
  rintro ⟨before, a, after, cut, -⟩
  simp at cut

/-- Reading a history from its end. -/
theorem since_concat (arm disarm : ε → Prop) (h : List ε) (x : ε) :
    Since arm disarm (h ++ [x]) ↔ arm x ∨ (Since arm disarm h ∧ ¬ disarm x) := by
  constructor
  · rintro ⟨before, a, after, cut, armed, quiet⟩
    rcases List.eq_nil_or_concat after with rfl | ⟨after, y, rfl⟩
    · obtain ⟨-, last⟩ := List.append_inj' cut rfl
      obtain ⟨rfl, -⟩ := List.cons.inj last
      exact Or.inl armed
    · rw [List.concat_eq_append, ← List.cons_append, ← List.append_assoc] at cut
      obtain ⟨rest, last⟩ := List.append_inj' cut rfl
      obtain ⟨rfl, -⟩ := List.cons.inj last
      refine Or.inr ⟨⟨before, a, after, rest, armed, fun z member => quiet z ?_⟩, quiet x ?_⟩
      · simp [member]
      · simp
  · rintro (armed | ⟨⟨before, a, after, rfl, armed, quiet⟩, still⟩)
    · exact ⟨h, x, [], rfl, armed, by simp⟩
    · refine ⟨before, a, after ++ [x], by simp, armed, fun y member => ?_⟩
      rcases List.mem_append.mp member with old | new
      · exact quiet y old
      · rw [List.mem_singleton.mp new]
        exact still

/-- What disarms less often leaves armed. -/
theorem Since.of_disarm {arm disarm disarm' : ε → Prop} {h : List ε} (since : Since arm disarm h)
    (rarer : ∀ x, disarm' x → disarm x) : Since arm disarm' h := by
  obtain ⟨before, a, after, cut, armed, quiet⟩ := since
  exact ⟨before, a, after, cut, armed, fun x member disarmed => quiet x member (rarer x disarmed)⟩

/-- A history is read once, from its start. -/
theorem since_iff_foldl (arm disarm : ε → Prop) [DecidablePred arm] [DecidablePred disarm]
    (h : List ε) :
    Since arm disarm h ↔
      h.foldl (fun held x => decide (arm x) || (held && !decide (disarm x))) false = true := by
  induction h using List.reverseRecOn with
  | nil => simp [not_since_nil]
  | append_singleton h x ih => simp [since_concat, ih]

instance (arm disarm : ε → Prop) [DecidablePred arm] [DecidablePred disarm] (h : List ε) :
    Decidable (Since arm disarm h) := decidable_of_iff _ (since_iff_foldl arm disarm h).symm

/-! ### Outputs -/

/-- What a system that answers each event gives out over a run, in order. -/
def outputs {ο : Type} (step : σ → ε → σ × List ο) : σ → List ε → List ο
  | _, [] => []
  | s, e :: es => (step s e).2 ++ outputs step (step s e).1 es

theorem outputs_eq_flatMap {ο : Type} (step : σ → ε → σ × List ο) (s : σ) (es : List ε) :
    outputs step s es =
      (history (fun s e => (step s e).1) s es).flatMap fun x => (step x.1 x.2).2 := by
  induction es generalizing s with
  | nil => rfl
  | cons e es ih => rw [outputs, ih, history, List.flatMap_cons]

/-- Systems that answer alike, step by step, from related states, give out the same. -/
theorem outputs_congr {σ' ο : Type} {step : σ → ε → σ × List ο} {step' : σ' → ε → σ' × List ο}
    (R : σ → σ' → Prop) {ok : ε → Prop}
    (alike : ∀ s s' e, ok e → R s s' →
      (step s e).2 = (step' s' e).2 ∧ R (step s e).1 (step' s' e).1)
    {s : σ} {s' : σ'} (init : R s s') {es : List ε} (admissible : ∀ e ∈ es, ok e) :
    outputs step s es = outputs step' s' es := by
  induction es generalizing s s' with
  | nil => rfl
  | cons e es ih =>
    obtain ⟨same, next⟩ := alike s s' e (admissible e List.mem_cons_self) init
    rw [outputs, outputs, same, ih next fun e' member => admissible e' (List.mem_cons_of_mem e member)]

/-- A system that reads its events in another language, some of them not at all, gives out
what the system of that language gives out. -/
theorem outputs_follows {σ' ι ο : Type} {step : σ → ε → σ × List ο} {step' : σ' → ι → σ' × List ο}
    (state : σ → σ') (input : σ → ε → Option ι)
    (follows : ∀ s e, (state (step s e).1, (step s e).2) =
      ((input s e).map (step' (state s))).getD (state s, []))
    (s : σ) (es : List ε) :
    outputs step s es =
      outputs step' (state s)
        ((history (fun s e => (step s e).1) s es).filterMap fun x => input x.1 x.2) := by
  induction es generalizing s with
  | nil => rfl
  | cons e es ih =>
    have one := follows s e
    rw [outputs, ih, history]
    cases read : input s e with
    | none =>
      rw [read] at one
      obtain ⟨same, silent⟩ := Prod.mk.inj one
      simp only [List.filterMap_cons, read, same, silent, List.nil_append]
    | some i =>
      rw [read] at one
      obtain ⟨same, answer⟩ := Prod.mk.inj one
      simp only [List.filterMap_cons, read, outputs, same, answer]

/-! ### Cells -/

/-- A cell holds what was written into it last. -/
theorem foldl_last_write {α : Type} (cell : σ → α) (written : ε → Option α) (write : σ → ε → σ)
    (writes : ∀ s e, cell (write s e) = (written e).getD (cell s)) (s : σ) (es : List ε) :
    cell (es.foldl write s) = (es.filterMap written).getLast?.getD (cell s) := by
  induction es using List.reverseRecOn with
  | nil => rfl
  | append_singleton es e ih =>
    rw [List.foldl_append, List.foldl_cons, List.foldl_nil, writes, ih, List.filterMap_append]
    cases wrote : written e with
    | none => simp [wrote]
    | some a => simp [wrote]

end Runs
