import Provision.Clock
import Provision.Proofs.Store.Versions

/-!
Computations that share a cluster. A process is finished or waits for the answer to one question, so that
anything can happen between two questions of a process. A system is a store with processes; in one step of
a system one process is answered, or somebody else does something to the store. A run lists its moments:
what was done, and the store just before and just after.
-/

namespace Provision

/-- What a process can ask: something of the cluster, or the time. -/
inductive Query where
  | request (r : Store.Request)
  | elapsed
  | sleep (d : Nanoseconds)
  | now

namespace Query

abbrev Answer : Query → Type
  | request r => Except Failure r.Result
  | elapsed => Nanoseconds
  | sleep _ => Unit
  | now => Timestamp

/-- Whether a query may be answered so, and what it does to the store. Clocks may show anything. -/
def Answers : (q : Query) → Store → q.Answer → Store → Prop
  | request r, before, a, after => r.perform before = (a, after)
  | elapsed, before, _, after => after = before
  | sleep _, before, _, after => after = before
  | now, before, _, after => after = before

/-- Asking something is an operation or does nothing. -/
theorem Answers.reachable {q : Query} {a : q.Answer} {before after : Store}
    (hanswers : q.Answers before a after) (hreachable : before.Reachable) : after.Reachable := by
  cases q with
  | request r =>
      have hafter : after = (Operation.request r).apply before := congrArg Prod.snd hanswers.symm
      rw [hafter]
      exact hreachable.apply (.request r)
  | elapsed => exact hanswers ▸ hreachable
  | sleep d => exact hanswers ▸ hreachable
  | now => exact hanswers ▸ hreachable

end Query

/-- A computation that stops at every question. -/
inductive Process (α : Type) where
  | done (a : α)
  | ask (q : Query) (next : q.Answer → Process α)

namespace Process

variable {α β γ : Type}

/-- Go on with the result of a process. -/
def bind : Process α → (α → Process β) → Process β
  | done a, f => f a
  | ask q next, f => ask q fun a => (next a).bind f

instance : Monad Process where
  pure := done
  bind := bind

@[simp] theorem ask_bind (q : Query) (next : q.Answer → Process α) (f : α → Process β) :
    (ask q next >>= f) = ask q fun a => next a >>= f := rfl

theorem bind_done (p : Process α) : (p >>= done) = p := by
  induction p with
  | done a => rfl
  | ask q next ih =>
      rw [ask_bind]
      exact congrArg (ask q) (funext ih)

theorem bind_assoc (p : Process α) (f : α → Process β) (g : β → Process γ) :
    (p >>= f >>= g) = p >>= fun a => f a >>= g := by
  induction p with
  | done a => rfl
  | ask q next ih =>
      rw [ask_bind, ask_bind, ask_bind]
      exact congrArg (ask q) (funext ih)

instance : LawfulMonad Process :=
  LawfulMonad.mk' Process bind_done (fun _ _ => rfl) bind_assoc

instance : Clock Process where
  elapsed := ask .elapsed done
  sleep d := ask (.sleep d) done
  now := ask .now done

/-- Ask the cluster for something. -/
def request (r : Store.Request) : ExceptT Failure Process r.Result :=
  ExceptT.mk (ask (.request r) done)

/-- The cluster as processes see it: every call is one question. -/
def client : Client Process := .ofRequests request

end Process

/-! ### Systems -/

/-- Something that happens in a system. -/
inductive Event where
  /-- A process asks something and is answered. -/
  | answer (i : Nat) (q : Query) (a : q.Answer)
  /-- Somebody else does something to the store. -/
  | other (op : Operation)

/-- Whether an event is a question of the process with a number. -/
def Event.isOf (i : Nat) : Event → Prop
  | answer j _ _ => j = i
  | other _ => False

/-- One event with the stores around it. -/
structure Moment where
  before : Store
  event : Event
  after : Store

/-- Processes that share a store. -/
structure System (α : Type) where
  store : Store
  processes : List (Process α)

namespace System

variable {α : Type}

inductive Step : System α → Moment → System α → Prop
  | answer {sys : System α} {i : Nat} {q : Query} {next : q.Answer → Process α} {a : q.Answer}
      {after : Store} (hwaits : sys.processes[i]? = some (.ask q next))
      (hanswers : q.Answers sys.store a after) :
      Step sys ⟨sys.store, .answer i q a, after⟩ ⟨after, sys.processes.set i (next a)⟩
  | other {sys : System α} (op : Operation) :
      Step sys ⟨sys.store, .other op, op.apply sys.store⟩ ⟨op.apply sys.store, sys.processes⟩

/-- A run with its moments, oldest first. -/
inductive Run (start : System α) : List Moment → System α → Prop
  | start : Run start [] start
  | step {past : List Moment} {sys sys' : System α} {m : Moment} (hrun : Run start past sys)
      (hstep : Step sys m sys') : Run start (past ++ [m]) sys'

variable {start sys sys' : System α} {past later : List Moment} {m : Moment}

theorem Step.after_eq (hstep : Step sys m sys') : m.after = sys'.store := by
  cases hstep <;> rfl

theorem Step.advances (hstep : Step sys m sys') (hvalid : sys.store.Valid) :
    sys.store.Advances sys'.store := by
  cases hstep with
  | other op => exact Store.apply_advances hvalid op
  | @answer i q next a after hwaits hanswers =>
      cases q with
      | request r =>
          have hafter : after = (r.perform sys.store).2 := congrArg Prod.snd hanswers.symm
          rw [hafter]
          exact Store.perform_advances hvalid r
      | elapsed => exact Store.Advances.of_eq hvalid hanswers
      | sleep d => exact Store.Advances.of_eq hvalid hanswers
      | now => exact Store.Advances.of_eq hvalid hanswers

/-- The run lemma: a run takes a store forward. -/
theorem Run.advances (hrun : Run start past sys) (hvalid : start.store.Valid) :
    start.store.Advances sys.store := by
  induction hrun with
  | start => exact Store.Advances.refl hvalid
  | step _ hstep ih => exact ih.trans (hstep.advances ih.valid)

theorem Step.reachable (hstep : Step sys m sys') (hreachable : sys.store.Reachable) :
    sys'.store.Reachable := by
  cases hstep with
  | answer _ hanswers => exact hanswers.reachable hreachable
  | other op => exact hreachable.apply op

/-- The run lemma: what processes make of a store is made by operations. -/
theorem Run.reachable (hrun : Run start past sys) (hreachable : start.store.Reachable) :
    sys.store.Reachable := by
  induction hrun with
  | start => exact hreachable
  | step _ hstep ih => exact hstep.reachable ih

/-- No process comes or goes. -/
theorem Run.length_processes (hrun : Run start past sys) :
    sys.processes.length = start.processes.length := by
  induction hrun with
  | start => rfl
  | step _ hstep ih =>
      cases hstep with
      | answer => exact (List.length_set ..).trans ih
      | other => exact ih

theorem Run.exists_start {i : Nat} {p : Process α} (hrun : Run start past sys)
    (hp : sys.processes[i]? = some p) : ∃ p₀, start.processes[i]? = some p₀ := by
  have hlt : i < sys.processes.length := (List.getElem?_eq_some_iff.mp hp).1
  rw [hrun.length_processes] at hlt
  exact ⟨_, List.getElem?_eq_getElem hlt⟩

/-- What holds of the first store and after every moment holds of the last store. -/
theorem Run.store_of_all {P : Store → Prop} (hrun : Run start past sys) (hstart : P start.store)
    (hall : ∀ m ∈ past, P m.after) : P sys.store := by
  cases hrun with
  | start => exact hstart
  | @step past _ _ m _ hstep =>
      rw [← hstep.after_eq]
      exact hall m (List.mem_append_right past List.mem_cons_self)

/-- The last moment of a run. -/
theorem Run.last (hrun : Run start (past ++ [m]) sys) :
    ∃ before, Run start past before ∧ Step before m sys := by
  generalize hall : past ++ [m] = all at hrun
  cases hrun with
  | start => simp at hall
  | step hbefore hstep =>
      obtain ⟨rfl, hm⟩ := List.append_inj' hall rfl
      cases hm
      exact ⟨_, hbefore, hstep⟩

/-- A run can be cut anywhere. -/
theorem Run.split (hrun : Run start (past ++ later) sys) :
    ∃ middle, Run start past middle ∧ Run middle later sys := by
  induction later using List.reverseRecOn generalizing sys with
  | nil =>
      rw [List.append_nil] at hrun
      exact ⟨sys, hrun, .start⟩
  | append_singleton front final ih =>
      rw [← List.append_assoc] at hrun
      obtain ⟨before, hbefore, hstep⟩ := hrun.last
      obtain ⟨middle, hfirst, hsecond⟩ := ih hbefore
      exact ⟨middle, hfirst, hsecond.step hstep⟩

/-- A run can be cut around each of its moments. -/
theorem Run.moment (hrun : Run start (past ++ m :: later) sys) :
    ∃ middle middle', Run start past middle ∧ Step middle m middle' ∧ Run middle' later sys := by
  rw [List.append_cons] at hrun
  obtain ⟨middle', hfirst, hsecond⟩ := hrun.split
  obtain ⟨middle, hpast, hstep⟩ := hfirst.last
  exact ⟨middle, middle', hpast, hstep, hsecond⟩

/-- Every moment of a run is a step of the system. -/
theorem Run.moment_of_mem (hrun : Run start past sys) (hm : m ∈ past) :
    ∃ earlier later middle middle', Run start earlier middle ∧ Step middle m middle' ∧
      Run middle' later sys := by
  obtain ⟨earlier, later, rfl⟩ := List.append_of_mem hm
  obtain ⟨middle, middle', hmoment⟩ := hrun.moment
  exact ⟨earlier, later, middle, middle', hmoment⟩

/-- A store takes a way forward to each moment of a run, and from there to the last store. -/
theorem Run.advances_between (hrun : Run start past sys) (hvalid : start.store.Valid) (hm : m ∈ past) :
    start.store.Advances m.after ∧ m.after.Advances sys.store := by
  obtain ⟨_, _, middle, middle', hearlier, hstep, hlater⟩ := hrun.moment_of_mem hm
  have hmiddle := hearlier.advances hvalid
  have hstepped := hstep.advances hmiddle.valid
  rw [hstep.after_eq]
  exact ⟨hmiddle.trans hstepped, hlater.advances hstepped.valid⟩

/-- The last question of a process was `q`, answered by `a`: it came after `earlier`, and since then
other things happened. -/
def LastAnswer (i : Nat) (past : List Moment) (q : Query) (a : q.Answer)
    (earlier others : List Moment) : Prop :=
  (∃ before after, past = earlier ++ ⟨before, .answer i q a, after⟩ :: others) ∧
    ∀ m ∈ others, ¬ m.event.isOf i

theorem LastAnswer.now (i : Nat) (past : List Moment) (before : Store) {q : Query} (a : q.Answer)
    (after : Store) : LastAnswer i (past ++ [⟨before, .answer i q a, after⟩]) q a past [] :=
  ⟨⟨before, after, rfl⟩, by simp⟩

theorem LastAnswer.step {i : Nat} {q : Query} {a : q.Answer} {earlier others : List Moment}
    (hlast : LastAnswer i past q a earlier others) (hother : ¬ m.event.isOf i) :
    LastAnswer i (past ++ [m]) q a earlier (others ++ [m]) := by
  obtain ⟨⟨before, after, rfl⟩, hothers⟩ := hlast
  refine ⟨⟨before, after, by simp⟩, ?_⟩
  intro x hx
  rcases List.mem_append.mp hx with hin | hin
  · exact hothers x hin
  · rw [List.mem_singleton.mp hin]
    exact hother

/-- The last answer was given by the store of its moment. -/
theorem LastAnswer.answers {i : Nat} {q : Query} {a : q.Answer} {earlier others : List Moment}
    (hlast : LastAnswer i past q a earlier others) (hrun : Run start past sys) :
    ∃ middle middle', Run start earlier middle ∧ q.Answers middle.store a middle'.store ∧
      Run middle' others sys := by
  obtain ⟨⟨before, after, rfl⟩, -⟩ := hlast
  obtain ⟨middle, middle', hearlier, hstep, hothers⟩ := hrun.moment
  cases hstep with
  | answer hwaits hanswers => exact ⟨middle, _, hearlier, hanswers, hothers⟩

/-- A question with its answer. -/
abbrev Answered := (q : Query) × q.Answer

/-- The process with a number was answered so, the latest answer first, and asked nothing in between. -/
def Recalls (i : Nat) (past : List Moment) : List Answered → Prop
  | [] => True
  | ⟨q, a⟩ :: rest => ∃ earlier others, LastAnswer i past q a earlier others ∧ Recalls i earlier rest

theorem Recalls.step {i : Nat} {known : List Answered} (hrecalls : Recalls i past known)
    (hother : ¬ m.event.isOf i) : Recalls i (past ++ [m]) known := by
  cases known with
  | nil => trivial
  | cons latest rest =>
      obtain ⟨earlier, others, hlast, hrest⟩ := hrecalls
      exact ⟨earlier, others ++ [m], hlast.step hother, hrest⟩

theorem Recalls.now {i : Nat} {known : List Answered} (hrecalls : Recalls i past known)
    (before : Store) {q : Query} (a : q.Answer) (after : Store) :
    Recalls i (past ++ [⟨before, .answer i q a, after⟩]) (⟨q, a⟩ :: known) :=
  ⟨past, [], LastAnswer.now i past before a after, hrecalls⟩

/-- What the process with a number keeps at each of its questions, and at everything else that happens,
it keeps in every run. -/
theorem Run.keeps {i : Nat} {p : Process α} {I : List Moment → Process α → Prop}
    (hprocess : start.processes[i]? = some p) (hstart : I [] p)
    (hown : ∀ past before q a after next, q.Answers before a after → I past (.ask q next) →
      I (past ++ [⟨before, .answer i q a, after⟩]) (next a))
    (hother : ∀ past m p, ¬ m.event.isOf i → I past p → I (past ++ [m]) p)
    (hrun : Run start past sys) : ∃ p, sys.processes[i]? = some p ∧ I past p := by
  induction hrun with
  | start => exact ⟨p, hprocess, hstart⟩
  | @step past sys sys' m _ hstep ih =>
      obtain ⟨p, hp, hkept⟩ := ih
      cases hstep with
      | other op => exact ⟨p, hp, hother past _ p id hkept⟩
      | @answer j q next a after hwaits hanswers =>
          by_cases hj : j = i
          · subst hj
            obtain rfl : .ask q next = p := Option.some.inj (hwaits.symm.trans hp)
            have hlt : j < sys.processes.length := (List.getElem?_eq_some_iff.mp hwaits).1
            exact ⟨next a, List.getElem?_set_self hlt, hown past _ q a after next hanswers hkept⟩
          · have hsame : (sys.processes.set j (next a))[i]? = some p := by
              rw [List.getElem?_set_ne hj]
              exact hp
            exact ⟨p, hsame, hother past _ p hj hkept⟩

end System

end Provision
