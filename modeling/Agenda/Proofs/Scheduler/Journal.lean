import Agenda.Proofs.Scheduler.Supervision

/-! How long the calls of a scheduler take. A worker waits for an answer no longer than it may. The
scheduler itself waits for the connection to close as long as that takes. -/
namespace Agenda.Rehearsal

/-- How long the answer to a call takes by itself, `none` if it never comes. -/
def FaultPlan.latency? (plan : FaultPlan) (c : Call) : Option Nat :=
  match plan.find? c with
  | some .hang => none
  | some (.slow milliseconds) => some milliseconds
  | none | some .crash | some (.failing _) => some 0

/-- A call and when it was made and had ended, be it by its answer or because it was cut off. -/
structure Spell where
  call : Call
  begun : Nat
  latency : Option Nat
  ended : Option Nat

namespace Spell

/-- How long it takes if it may take as long as `limit`. -/
def length? (limit : Option Duration) (r : Spell) : Option Nat :=
  match limit, r.latency with
  | none, latency => latency
  | some l, none => some l.milliseconds
  | some l, some milliseconds => some (min milliseconds l.milliseconds)

/-- It has ended in its time. -/
def Over (limit : Option Duration) (r : Spell) : Prop :=
  ∃ n, r.length? limit = some n ∧ r.ended = some (r.begun + n)

/-- It ended within a time limit after it had begun, or there is time left. -/
def InTime (limit : Duration) (now : Nat) (r : Spell) : Prop :=
  r.ended.getD now ≤ r.begun + limit.milliseconds

/-- It takes exactly so long, `none` for ever. -/
def Takes (length : Option Nat) (now : Nat) (r : Spell) : Prop :=
  match r.ended with
  | some t => length.map (r.begun + ·) = some t
  | none => ∀ n, length = some n → now ≤ r.begun + n

theorem Over.takes {limit : Option Duration} {r : Spell} (h : r.Over limit) (now : Nat) :
    r.Takes (r.length? limit) now := by
  obtain ⟨n, length, ended⟩ := h
  rw [Takes, ended, length]
  rfl

/-- The calls of somebody, the last first, after something has shown of them. -/
def record (s : Stage) (calls : List Spell) : Moment → List Spell
  | .made c => ⟨c, s.time, s.faults.latency? c, none⟩ :: calls
  | .told _ _ => calls.modifyHead fun r => { r with ended := some s.time }

def recordAll (s : Stage) (calls : List Spell) (shown : List Moment) : List Spell :=
  shown.foldl (record s) calls

theorem length?_le {limit : Duration} {r : Spell} {n : Nat} (h : r.length? (some limit) = some n) :
    n ≤ limit.milliseconds := by
  unfold length? at h
  split at h
  · cases ‹some limit = none›
  · cases ‹some limit = some _›
    cases h
    exact Nat.le_refl _
  · cases ‹some limit = some _›
    cases h
    exact Nat.min_le_right _ _

theorem length?_ne_none (limit : Duration) (r : Spell) : r.length? (some limit) ≠ none := by
  unfold length?
  split
  · cases ‹some limit = none›
  · exact Option.some_ne_none _
  · exact Option.some_ne_none _

/-- What may take only so long takes only so long. -/
theorem Takes.inTime {limit : Duration} {now : Nat} {r : Spell}
    (h : r.Takes (r.length? (some limit)) now) : r.InTime limit now := by
  obtain ⟨n, length⟩ := Option.ne_none_iff_exists'.mp (length?_ne_none limit r)
  have brief := length?_le length
  unfold Takes at h
  unfold InTime
  cases ended : r.ended with
  | none =>
    rw [ended] at h
    have := h n length
    simp only [Option.getD_none]
    omega
  | some t =>
    rw [ended, length] at h
    have : r.begun + n = t := Option.some.inj h
    simp only [Option.getD_some]
    omega

/-- Whatever is recorded is about calls that were recorded before or that show now. -/
theorem call_of_recordAll (P : Call → Prop) {s : Stage} {shown : List Moment} {calls : List Spell}
    (before : ∀ r ∈ calls, P r.call) (now : ∀ m ∈ shown, P m.call) :
    ∀ r ∈ recordAll s calls shown, P r.call := by
  unfold recordAll
  induction shown generalizing calls with
  | nil => exact before
  | cons m later ih =>
    refine ih ?_ fun m' member => now m' (.tail _ member)
    cases m with
    | made c =>
      intro r member
      rcases List.mem_cons.mp member with rfl | earlier
      · exact now _ (.head _)
      · exact before r earlier
    | told c a =>
      cases calls with
      | nil => exact before
      | cons first earlier =>
        intro r member
        rcases List.mem_cons.mp member with rfl | member
        · exact before first (.head _)
        · exact before r (.tail _ member)

end Spell

/-! ## Performers -/

/-- All calls of a part of the service are of a kind. -/
def Asks (σ : Type) [Machine σ] (P : Call → Prop) : Prop :=
  ∀ (state : σ) (c : Call) (next : c.Answer → σ × List Notice),
    Machine.move state = .ask c next → P c

namespace Performer

variable {σ : Type} [Machine σ]

/-- What shows of a performer is about the calls that it asks for. -/
theorem call_of_moments {P : Call → Prop} (asks : Asks σ P) (limit : Option Duration)
    (p : Performer σ) (s : Scene) : ∀ m ∈ p.moments limit s, P m.call := by
  intro m member
  unfold moments at member
  split at member
  · rename_i c next now
    rcases List.mem_append.mp member with made | told
    · obtain ⟨c', issued, rfl⟩ := List.mem_map.mp made
      obtain ⟨_, asked⟩ := issued_asks (Option.mem_toList.mp issued)
      exact asks _ _ _ asked
    · obtain ⟨a, -, rfl⟩ := List.mem_map.mp told
      exact asks _ _ _ now
  · cases member
  · cases member

/-- The performer is at the first of its calls. It ends at `due`, `none` for never. -/
structure At (limit : Option Duration) (state : σ) (due : Option Nat) (r : Spell) : Prop where
  asks : ∃ next, Machine.move state = .ask r.call next
  unended : r.ended = none
  length : (r.length? limit).map (r.begun + ·) = due

/-- The last call is the one the performer is at, and those before it are over. -/
def Awaits (limit : Option Duration) (state : σ) (due : Option Nat) (calls : List Spell) : Prop :=
  ∃ r earlier, calls = r :: earlier ∧ At limit state due r ∧ ∀ r ∈ earlier, r.Over limit

/-- How a performer stands to its calls. -/
def Reckoned (limit : Option Duration) (p : Performer σ) (now : Nat) (calls : List Spell) : Prop :=
  match p.phase with
  | .acting | .halted => ∀ r ∈ calls, r.Over limit
  | .delayed due _ => now ≤ due ∧ Awaits limit p.state (some due) calls
  | .stuck => Awaits limit p.state none calls
  | .asleep | .crashed => False

variable {limit : Option Duration} {p : Performer σ} {s : Scene} {calls : List Spell}

/-- A performer begins a call. -/
theorem Reckoned.begin {c : Call} {next : c.Answer → σ × List Notice} {state : σ}
    (before : ∀ r ∈ calls, r.Over limit) (asks : Machine.move state = .ask c next)
    (unbroken : s.stage.faults.find? c ≠ some .crash) :
    ((⟨state, .acting⟩ : Performer σ).step limit s).1.Reckoned limit s.time
      (Spell.recordAll s.stage calls ((⟨state, .acting⟩ : Performer σ).moments limit s)) := by
  have issued : issued? ⟨state, .acting⟩ = some c := by simp only [issued?, asks]
  have faults : (s.note (.call c)).stage.faults = s.stage.faults := rfl
  -- an answer that is given at once
  have at_once (prompt : s.stage.faults.latency? c = some 0) (a : c.Answer) :
      ∀ r ∈ Spell.recordAll s.stage calls [.made c, .told c a], r.Over limit := by
    intro r member
    rcases List.mem_cons.mp member with rfl | earlier
    · refine ⟨0, ?_, rfl⟩
      cases limit with
      | none => exact prompt
      | some l => simp only [Spell.length?, prompt, Nat.zero_min]
    · exact before r earlier
  -- an answer that takes its time
  have waits {due : Option Nat}
      (length : (Spell.length? limit ⟨c, s.time, s.stage.faults.latency? c, none⟩).map
        (s.time + ·) = due) :
      Awaits limit state due (Spell.recordAll s.stage calls [.made c]) :=
    ⟨_, calls, rfl, ⟨⟨next, asks⟩, rfl, length⟩, before⟩
  simp only [moments, asks, issued, step, attempt, reply?, faults, Option.toList_some,
    List.map_singleton]
  cases planned : s.stage.faults.find? c with
  | none => exact at_once (by simp only [FaultPlan.latency?, planned]) _
  | some fault =>
    cases fault with
    | hang =>
      have never : s.stage.faults.latency? c = none := by simp only [FaultPlan.latency?, planned]
      cases limit with
      | none => exact waits (by simp only [Spell.length?, never, Option.map_none])
      | some l =>
        refine ⟨Nat.le_add_right _ _, waits ?_⟩
        simp only [Spell.length?, never, Option.map_some]
        rfl
    | slow milliseconds =>
      have late : s.stage.faults.latency? c = some milliseconds := by
        simp only [FaultPlan.latency?, planned]
      cases limit with
      | none =>
        refine ⟨Nat.le_add_right _ _, waits ?_⟩
        simp only [Spell.length?, late, Option.map_some]
        rfl
      | some l =>
        by_cases brief : milliseconds ≤ l.milliseconds
        · simp only [delay, brief, if_true]
          refine ⟨Nat.le_add_right _ _, waits ?_⟩
          simp only [Spell.length?, late, Option.map_some, Nat.min_eq_left brief]
          rfl
        · simp only [delay, brief, if_false]
          refine ⟨Nat.le_add_right _ _, waits ?_⟩
          simp only [Spell.length?, late, Option.map_some,
            Nat.min_eq_right (Nat.le_of_not_le brief)]
          rfl
    | crash => exact absurd planned unbroken
    | failing f =>
      have prompt : s.stage.faults.latency? c = some 0 := by simp only [FaultPlan.latency?, planned]
      cases fails : f.answer? c with
      | none =>
        simp only [fails]
        exact at_once prompt _
      | some a =>
        simp only [fails]
        exact at_once prompt _

/-- One step of a performer that is due. -/
theorem Reckoned.step (h : p.Reckoned limit s.time calls) (deaf : Deaf σ)
    (unbroken : ∀ c, s.stage.faults.find? c ≠ some .crash) {t : Nat} (due : p.due s = some t)
    (past : t ≤ s.time) :
    (p.step limit s).1.Reckoned limit s.time (Spell.recordAll s.stage calls (p.moments limit s)) := by
  obtain ⟨state, phase⟩ := p
  cases phase with
  | acting =>
    cases asks : Machine.move state with
    | halt =>
      simp only [Performer.step, moments, asks]
      exact h
    | ask c next => exact Reckoned.begin h asks (unbroken c)
    | listen next => exact absurd asks (deaf state next)
  | delayed stop cut =>
    obtain ⟨soon, r, earlier, rfl, ⟨⟨next, asks⟩, unended, length⟩, before⟩ := h
    have now : s.time = stop := by
      have : stop = t := Option.some.inj due
      omega
    have told (a : r.call.Answer) :
        ∀ r' ∈ Spell.recordAll s.stage (r :: earlier) [.told r.call a], r'.Over limit := by
      intro r' member
      rcases List.mem_cons.mp member with rfl | member
      · obtain ⟨n, known, ends⟩ := Option.map_eq_some_iff.mp length
        exact ⟨n, known, congrArg some (now.trans ends.symm)⟩
      · exact before r' member
    simp only [Performer.step, moments, asks, issued?, reply?]
    cases cut with
    | false => exact told _
    | true =>
      cases limit with
      | none => exact told _
      | some l => exact told _
  | asleep | crashed => exact h.elim
  | stuck | halted => cases due

/-- Time passes no further than to the end of a call. -/
theorem Reckoned.pass {later : Nat} (h : p.Reckoned limit s.time calls)
    (punctual : ∀ t, p.due s = some t → later ≤ max t s.time) :
    p.Reckoned limit later calls := by
  obtain ⟨state, phase⟩ := p
  cases phase with
  | delayed stop cut =>
    obtain ⟨soon, rest⟩ := h
    have waits := punctual stop rfl
    exact ⟨by omega, rest⟩
  | acting | stuck | halted | asleep | crashed => exact h

/-- What the performer is at has lasted no longer than it has to. -/
theorem Awaits.takes {state : σ} {due : Option Nat} {now : Nat} (h : Awaits limit state due calls)
    (soon : ∀ d, due = some d → now ≤ d) : ∀ r ∈ calls, r.Takes (r.length? limit) now := by
  obtain ⟨r, earlier, rfl, here, before⟩ := h
  intro r' member
  rcases List.mem_cons.mp member with rfl | member
  · rw [Spell.Takes, here.unended]
    intro n length
    have ends := here.length
    rw [length] at ends
    exact soon _ ends.symm
  · exact (before r' member).takes now

/-- A call takes as long as it has to. -/
theorem Reckoned.takes {now : Nat} (h : p.Reckoned limit now calls) :
    ∀ r ∈ calls, r.Takes (r.length? limit) now := by
  obtain ⟨state, phase⟩ := p
  cases phase with
  | acting | halted => exact fun r member => (h r member).takes now
  | delayed stop cut =>
    apply h.2.takes
    intro d same
    cases same
    exact h.1
  | stuck =>
    apply h.takes
    intro d none
    cases none
  | asleep | crashed => exact h.elim

end Performer

/-! ## Workers and the scheduler itself -/

namespace Worker

variable {σ : Type} [Cycle σ] {pace : Pace} {w : Worker σ} {s : Scene} {calls : List Spell}

def Reckoned (pace : Pace) (w : Worker σ) (now : Nat) (calls : List Spell) : Prop :=
  match w with
  | .cycling _ p => p.Active ∧ p.Reckoned (some pace.operationTimeout) now calls
  | .fresh | .waiting _ | .ended | .failed => ∀ r ∈ calls, r.Over (some pace.operationTimeout)

theorem Reckoned.step (h : w.Reckoned pace s.time calls) (deaf : Deaf σ)
    (unbroken : ∀ c, s.stage.faults.find? c ≠ some .crash) {t : Nat} (due : w.due s = some t)
    (past : t ≤ s.time) :
    (w.step pace s).1.Reckoned pace s.time (Spell.recordAll s.stage calls (w.moments pace s)) := by
  cases w with
  | fresh =>
    simp only [Worker.step, moments]
    split <;> exact h
  | waiting t =>
    simp only [Worker.step, moments]
    split
    · exact h
    · split
      · exact h
      · exact ⟨.inl rfl, h⟩
  | cycling t p =>
    have after := h.2.step deaf unbroken due past
    simp only [Worker.step, moments]
    generalize p.step (some pace.operationTimeout) s = q at after ⊢
    obtain ⟨⟨state, phase⟩, s'⟩ := q
    cases phase with
    | acting => exact ⟨.inl rfl, after⟩
    | delayed stop cut => exact ⟨.inr ⟨stop, cut, rfl⟩, after⟩
    | halted => exact after
    | stuck =>
      -- a call of a worker always ends
      obtain ⟨r, earlier, -, here, -⟩ := after
      exact absurd (Option.map_eq_none_iff.mp here.length) (Spell.length?_ne_none _ r)
    | asleep | crashed => exact after.elim
  | ended | failed => cases due

theorem Reckoned.pass (h : w.Reckoned pace s.time calls) {later : Nat}
    (punctual : w ≠ .fresh → ∀ t, w.due s = some t → later ≤ max t s.time) :
    w.Reckoned pace later calls := by
  cases w with
  | cycling t p => exact ⟨h.1, h.2.pass (punctual nofun)⟩
  | fresh | waiting | ended | failed => exact h

theorem call_of_moments {P : Call → Prop} (asks : Asks σ P) (pace : Pace) (w : Worker σ)
    (s : Scene) : ∀ m ∈ w.moments pace s, P m.call := by
  cases w with
  | cycling t p => exact p.call_of_moments asks _ s
  | fresh | waiting | ended | failed => exact List.forall_mem_nil _

theorem Reckoned.inTime {now : Nat} (h : w.Reckoned pace now calls) :
    ∀ r ∈ calls, r.InTime pace.operationTimeout now := by
  intro r member
  apply Spell.Takes.inTime
  cases w with
  | cycling t p => exact h.2.takes r member
  | fresh | waiting | ended | failed => exact (h r member).takes now

end Worker

namespace Supervision

def Reckoned (now : Nat) (calls : List Spell) : Supervision → Prop
  | .fresh | .watching | .stopped => ∀ r ∈ calls, r.Over none
  | .closing p => p.phase ≠ .halted ∧ p.Reckoned none now calls
  | .crashed => False

end Supervision

namespace Scheduler

variable {pace : Pace} {x : Scheduler} {s : Stage} {calls : List Spell}

/-- What the next step of the scheduler itself shows. -/
theorem supervised (h : x.supervision.Reckoned s.time calls)
    (unbroken : ∀ c, s.faults.find? c ≠ some .crash) {t : Nat} (due : x.due s = some t)
    (past : t ≤ s.time) (rounds : List Round) :
    (x.step pace s).1.supervision.Reckoned s.time
      (Spell.recordAll s calls (Course.closingMoments ⟨x, s, rounds⟩)) := by
  cases standing : x.supervision with
  | fresh =>
    rw [standing] at h
    simp only [Scheduler.step, Course.closingMoments, standing]
    exact h
  | watching =>
    rw [standing] at h
    simp only [Scheduler.step, Course.closingMoments, standing]
    exact ⟨Phase.noConfusion, h⟩
  | closing p =>
    rw [standing] at h
    simp only [Scheduler.due, standing] at due
    have after := h.2.step (s := x.scene s) shutdown_deaf unbroken due past
    simp only [Scheduler.step, Course.closingMoments, standing]
    generalize p.step none (x.scene s) = q at after ⊢
    obtain ⟨⟨state, phase⟩, s'⟩ := q
    cases phase with
    | acting | delayed | stuck => exact ⟨Phase.noConfusion, after⟩
    | halted => exact after
    | asleep | crashed => exact after.elim
  | stopped | crashed =>
    simp only [Scheduler.due, standing] at due
    cases due

end Scheduler

/-! ## What shows of the calls -/

namespace Stage

/-- The calls that have shown and when they were made, the last first. -/
def calls (s : Stage) : List (Nat × Call) :=
  s.entries.filterMap fun e => match e.incident with
    | .call c => some (e.time, c)
    | .notice _ => none

theorem calls_log (s : Stage) (notices : List Notice) : (s.log notices).calls = s.calls := by
  unfold log
  induction notices generalizing s with
  | nil => rfl
  | cons n rest ih => exact ih (s.note (.notice n))

end Stage

namespace Spell

/-- What shows of a call when it is made. -/
def entry (r : Spell) : Nat × Call := (r.begun, r.call)

theorem entries_recordAll (s : Stage) (calls : List Spell) (shown : List Moment) :
    (recordAll s calls shown).map entry =
      (requests shown).reverse.map (s.time, ·) ++ calls.map entry := by
  unfold recordAll
  induction shown generalizing calls with
  | nil => rfl
  | cons m later ih =>
    rw [List.foldl_cons, ih]
    cases m with
    | made c => simp [requests, Moment.request?, record, entry]
    | told c a => cases calls <;> rfl

end Spell

/-- The calls that show of a step are those that are told of it. -/
theorem Performer.calls_step {σ : Type} [Machine σ] (deaf : Deaf σ) (limit : Option Duration)
    (p : Performer σ) (s : Scene) : (p.step limit s).2.stage.calls =
      (requests (p.moments limit s)).reverse.map (s.time, ·) ++ s.stage.calls := by
  obtain ⟨state, phase⟩ := p
  cases asks : Machine.move state with
  | halt =>
    simp only [step, moments, asks]
    rfl
  | ask c next =>
    have told (a : Option c.Answer) : requests (a.toList.map (.told c)) = [] := by
      cases a <;> rfl
    have goes_on (a : c.Answer) (s' : Scene) :
        (proceed (next a) s').2.stage.calls = s'.stage.calls := Stage.calls_log _ _
    have shown : requests (moments limit ⟨state, phase⟩ s) = (issued? ⟨state, phase⟩).toList := by
      simp only [moments, asks, requests_append, told, List.append_nil]
      cases issued? (⟨state, phase⟩ : Performer σ) <;> rfl
    rw [shown]
    cases phase with
    | acting =>
      simp only [step, issued?, asks, attempt]
      split
      · exact goes_on _ _
      · rfl
      · rfl
      · rfl
      · split <;> exact goes_on _ _
    | delayed stop cut =>
      simp only [step, issued?, asks]
      split <;> exact goes_on _ _
    | asleep | stuck | crashed | halted =>
      simp only [step, issued?, asks]
      rfl
  | listen next => exact absurd asks (deaf state next)

theorem Worker.calls_step {σ : Type} [Cycle σ] (deaf : Deaf σ) (pace : Pace) (w : Worker σ)
    (s : Scene) : (w.step pace s).2.stage.calls =
      (requests (w.moments pace s)).reverse.map (s.time, ·) ++ s.stage.calls := by
  cases w with
  | fresh =>
    simp only [step]
    split <;> rfl
  | waiting t =>
    simp only [step]
    split
    · rfl
    · split <;> rfl
  | cycling t p =>
    have shown := p.calls_step deaf (some pace.operationTimeout) s
    simp only [step]
    split <;> exact shown
  | ended | failed => rfl

theorem Scheduler.calls_step (pace : Pace) (x : Scheduler) (s : Stage) (rounds : List Round) :
    (x.step pace s).2.calls =
      (requests (Course.closingMoments ⟨x, s, rounds⟩)).reverse.map (s.time, ·) ++ s.calls := by
  unfold Scheduler.step Course.closingMoments
  simp only
  cases x.supervision with
  | fresh => exact Stage.calls_log _ _
  | watching => exact Stage.calls_log _ _
  | closing p => exact p.calls_step shutdown_deaf none (x.scene s)
  | stopped | crashed => rfl

/-! ## Whole runs -/

/-- A run and the calls that were made in it. -/
structure Journal where
  course : Course
  dispatcher : List Spell
  cleaner : List Spell
  supervisor : List Spell

namespace Journal

/-- All calls of the scheduler. -/
def calls (j : Journal) : List Spell := j.dispatcher ++ j.cleaner ++ j.supervisor

def time (j : Journal) : Nat := j.course.stage.time

def start (seat : Seat) (stage : Stage) : Journal := ⟨.start seat stage, [], [], []⟩

def dispatch (pace : Pace) (j : Journal) : Journal where
  course := j.course.dispatch pace
  dispatcher := Spell.recordAll j.course.stage j.dispatcher (j.course.scheduler.dispatcher.moments
    pace (j.course.scheduler.scene j.course.stage))
  cleaner := j.cleaner
  supervisor := j.supervisor

def cleanup (pace : Pace) (j : Journal) : Journal where
  course := j.course.cleanup pace
  dispatcher := j.dispatcher
  cleaner := Spell.recordAll j.course.stage j.cleaner (j.course.scheduler.cleaner.moments pace
    (j.course.scheduler.scene j.course.stage))
  supervisor := j.supervisor

def supervise (pace : Pace) (j : Journal) : Journal where
  course := j.course.supervise pace
  dispatcher := j.dispatcher
  cleaner := j.cleaner
  supervisor := Spell.recordAll j.course.stage j.supervisor j.course.closingMoments

/-- What becomes of a journal when others change what is shared. -/
def withStage (j : Journal) (stage : Stage) : Journal := { j with course.stage := stage }

/-- A step of a run with its calls. -/
inductive Step (pace : Pace) (j : Journal) : Journal → Prop
  | dispatcher {t : Nat} : j.course.scheduler.dispatcherDue j.course.stage = some t → t ≤ j.time →
      Step pace j (j.dispatch pace)
  | cleaner {t : Nat} : j.course.scheduler.cleanerDue j.course.stage = some t → t ≤ j.time →
      Step pace j (j.cleanup pace)
  | supervisor {t : Nat} : j.course.scheduler.due j.course.stage = some t → t ≤ j.time →
      Step pace j (j.supervise pace)
  | others (stage : Stage) (clock : stage.base = j.course.stage.base) (later : j.time ≤ stage.time)
      (punctual : ∀ t, j.course.Due t → stage.time ≤ max t j.time) : Step pace j (j.withStage stage)

/-- The runs in which something holds of what is shared all the time, with their calls. -/
inductive Run (pace : Pace) (holds : Stage → Prop) : Journal → Prop
  | start (seat : Seat) {stage : Stage} : holds stage → Run pace holds (.start seat stage)
  | step {j j' : Journal} : Run pace holds j → Step pace j j' → holds j'.course.stage →
      Run pace holds j'

variable {pace : Pace} {holds : Stage → Prop} {j j' : Journal}

theorem Step.course (h : Step pace j j') : Course.Step pace j.course j'.course := by
  cases h with
  | dispatcher due past => exact .dispatcher due past
  | cleaner due past => exact .cleaner due past
  | supervisor due past => exact .supervisor due past
  | others stage clock later punctual => exact .others stage clock later punctual

/-- A journal leaves out no call. What the scheduler does is recorded as it shows. -/
theorem Step.recorded (next : Step pace j j') :
    (∃ stage, j' = j.withStage stage) ∨
      ∃ made, j'.course.stage.calls = made ++ j.course.stage.calls ∧
        (j'.calls.map Spell.entry).Perm (made ++ j.calls.map Spell.entry) := by
  cases next with
  | dispatcher =>
    refine .inr ⟨_, Worker.calls_step dispatch_deaf _ _ _, ?_⟩
    simp only [calls, dispatch, List.map_append, Spell.entries_recordAll,
      List.append_assoc]
    exact .rfl
  | cleaner =>
    refine .inr ⟨_, Worker.calls_step cleanup_deaf _ _ _, ?_⟩
    simp only [calls, cleanup, List.map_append, Spell.entries_recordAll,
      List.append_assoc]
    exact List.perm_append_comm_assoc _ _ _
  | supervisor =>
    refine .inr ⟨_, Scheduler.calls_step _ _ _ j.course.rounds, ?_⟩
    simp only [calls, supervise, List.map_append, Spell.entries_recordAll,
      List.append_assoc]
    have behind := List.perm_append_comm_assoc (j.cleaner.map Spell.entry)
      ((requests j.course.closingMoments).reverse.map (j.time, ·)) (j.supervisor.map Spell.entry)
    exact (behind.append_left _).trans (List.perm_append_comm_assoc _ _ _)
  | others stage => exact .inl ⟨stage, rfl⟩

theorem Run.now (h : Run pace holds j) : holds j.course.stage := by
  cases h <;> assumption

theorem Run.course (h : Run pace holds j) : Course.Run pace holds j.course := by
  induction h with
  | start seat now => exact .start seat now
  | step _ next now ih => exact .step ih next.course now

/-- The runs with their calls are all runs there are. -/
theorem journal_iff_run {x : Course} :
    (∃ j, Run pace holds j ∧ j.course = x) ↔ Course.Run pace holds x := by
  constructor
  · rintro ⟨j, run, rfl⟩
    exact run.course
  · intro run
    induction run with
    | start seat now => exact ⟨_, .start seat now, rfl⟩
    | step _ next now ih =>
      obtain ⟨j, before, rfl⟩ := ih
      cases next with
      | dispatcher due past => exact ⟨_, .step before (.dispatcher due past) now, rfl⟩
      | cleaner due past => exact ⟨_, .step before (.cleaner due past) now, rfl⟩
      | supervisor due past => exact ⟨_, .step before (.supervisor due past) now, rfl⟩
      | others stage clock later punctual =>
        exact ⟨_, .step before (.others stage clock later punctual) now, rfl⟩

/-- What a cue makes of a journal. -/
def after (pace : Pace) (j : Journal) : Course.Cue → Journal
  | .dispatcher => j.dispatch pace
  | .cleaner => j.cleanup pace
  | .supervisor => j.supervise pace
  | .wait time => j.withStage { j.course.stage with time }

theorem course_after {c : Course.Cue} {x : Course} (next : j.course.cue? pace c = some x) :
    (j.after pace c).course = x := by
  cases c <;> exact Option.some.inj (Option.ite_none_right_eq_some.mp next).2

theorem step_after {c : Course.Cue} (apt : j.course.Apt c) : Step pace j (j.after pace c) := by
  cases c with
  | dispatcher =>
    obtain ⟨t, due, past⟩ := apt
    exact .dispatcher due past
  | cleaner =>
    obtain ⟨t, due, past⟩ := apt
    exact .cleaner due past
  | supervisor =>
    obtain ⟨t, due, past⟩ := apt
    exact .supervisor due past
  | wait time =>
    obtain ⟨later, waits⟩ := apt
    exact .others _ rfl later fun t due => Nat.le_trans (waits t due) (Nat.le_max_left _ _)

theorem Run.follow {check : Stage → Bool} (sound : ∀ s, check s = true → holds s)
    {cues : List Course.Cue} {x : Course} (run : Run pace holds j)
    (followed : j.course.follow? pace check cues = some x) :
    Run pace holds (cues.foldl (after pace) j) ∧ (cues.foldl (after pace) j).course = x := by
  induction cues generalizing j with
  | nil => exact ⟨run, Option.some.inj followed⟩
  | cons c later ih =>
    obtain ⟨y, next, rest⟩ := Option.bind_eq_some_iff.mp followed
    split at rest
    · obtain rfl := course_after next
      exact ih (.step run (step_after (Course.apt_of_cue next)) (sound _ ‹_›)) rest
    · cases rest

/-- Only the scheduler itself closes the connection. -/
def Closes (c : Call) : Prop := c = .produce .closeConnection

theorem dispatch_keeps_open : Asks Dispatch (¬ Closes ·) := by
  rintro state _ next asks rfl
  cases state <;> cases asks

theorem cleanup_keeps_open : Asks Cleanup (¬ Closes ·) := by
  rintro state _ next asks rfl
  cases state <;> cases asks

theorem shutdown_closes : Asks Shutdown Closes := by
  intro state c next asks
  cases state with
  | closeConnection =>
    cases asks
    rfl
  | finished => cases asks

/-- How a journal stands to its run. -/
structure Kept (pace : Pace) (j : Journal) : Prop where
  ordered : j.course.Ordered
  dispatcher : j.course.scheduler.dispatcher.Reckoned pace j.time j.dispatcher
  cleaner : j.course.scheduler.cleaner.Reckoned pace j.time j.cleaner
  supervisor : j.course.scheduler.supervision.Reckoned j.time j.supervisor
  open_dispatcher : ∀ r ∈ j.dispatcher, ¬ Closes r.call
  open_cleaner : ∀ r ∈ j.cleaner, ¬ Closes r.call
  closing : ∀ r ∈ j.supervisor, Closes r.call

namespace Kept

theorem start (pace : Pace) (seat : Seat) (stage : Stage) : Kept pace (.start seat stage) where
  ordered := .start seat stage
  dispatcher := List.forall_mem_nil _
  cleaner := List.forall_mem_nil _
  supervisor := List.forall_mem_nil _
  open_dispatcher := List.forall_mem_nil _
  open_cleaner := List.forall_mem_nil _
  closing := List.forall_mem_nil _

section Steps

variable (h : Kept pace j) {t : Nat}
include h

theorem dispatch (unbroken : ∀ c, j.course.stage.faults.find? c ≠ some .crash)
    (due : j.course.scheduler.dispatcherDue j.course.stage = some t) (past : t ≤ j.time) :
    Kept pace (j.dispatch pace) := by
  have time : (j.dispatch pace).time = j.time := (SameTime.worker _ _ _).1
  have started := (Scheduler.running_of_due due).1
  have own := Scheduler.workerDue_of_running started j.course.scheduler.dispatcher j.course.stage
  constructor
  · exact h.ordered.acts (.dispatcher due past)
  · rw [time]
    exact h.dispatcher.step (s := j.course.scheduler.scene j.course.stage) dispatch_deaf unbroken
      (own.symm.trans due) past
  · rw [time]
    exact h.cleaner
  · rw [time]
    exact h.supervisor
  · exact Spell.call_of_recordAll (¬ Closes ·) h.open_dispatcher
      (Worker.call_of_moments dispatch_keeps_open _ _ _)
  · exact h.open_cleaner
  · exact h.closing

theorem cleanup (unbroken : ∀ c, j.course.stage.faults.find? c ≠ some .crash)
    (due : j.course.scheduler.cleanerDue j.course.stage = some t) (past : t ≤ j.time) :
    Kept pace (j.cleanup pace) := by
  have time : (j.cleanup pace).time = j.time := (SameTime.worker _ _ _).1
  have started := (Scheduler.running_of_due due).1
  have own := Scheduler.workerDue_of_running started j.course.scheduler.cleaner j.course.stage
  constructor
  · exact h.ordered.acts (.cleaner due past)
  · rw [time]
    exact h.dispatcher
  · rw [time]
    exact h.cleaner.step (s := j.course.scheduler.scene j.course.stage) cleanup_deaf unbroken
      (own.symm.trans due) past
  · rw [time]
    exact h.supervisor
  · exact h.open_dispatcher
  · exact Spell.call_of_recordAll (¬ Closes ·) h.open_cleaner
      (Worker.call_of_moments cleanup_keeps_open _ _ _)
  · exact h.closing

theorem supervise (unbroken : ∀ c, j.course.stage.faults.find? c ≠ some .crash)
    (due : j.course.scheduler.due j.course.stage = some t) (past : t ≤ j.time) :
    Kept pace (j.supervise pace) := by
  have time : (j.supervise pace).time = j.time := (SameTime.scheduler _ _ _).1
  have dispatcher : (j.supervise pace).course.scheduler.dispatcher =
      j.course.scheduler.dispatcher := Timed.dispatcher_step _ _
  have cleaner : (j.supervise pace).course.scheduler.cleaner = j.course.scheduler.cleaner :=
    Disciplined.cleaner_step _ _
  constructor
  · exact h.ordered.acts (.supervisor due past)
  · rw [dispatcher, time]
    exact h.dispatcher
  · rw [cleaner, time]
    exact h.cleaner
  · rw [time]
    exact Scheduler.supervised h.supervisor unbroken due past j.course.rounds
  · exact h.open_dispatcher
  · exact h.open_cleaner
  · apply Spell.call_of_recordAll Closes h.closing
    unfold Course.closingMoments
    split
    · exact Performer.call_of_moments shutdown_closes _ _ _
    all_goals exact List.forall_mem_nil _

/-- Time passes no further than to what is due. -/
theorem others {stage : Stage}
    (punctual : ∀ t, j.course.Due t → stage.time ≤ max t j.time) : Kept pace (j.withStage stage) := by
  constructor
  · exact ⟨h.ordered.fresh, h.ordered.watched⟩
  · refine h.dispatcher.pass (s := j.course.scheduler.scene j.course.stage) fun started t due => ?_
    have own := Scheduler.workerDue_of_started (s := j.course.stage)
      (fun fresh => (h.ordered.fresh fresh).1) started
    exact punctual t (.inl (own.trans due))
  · refine h.cleaner.pass (s := j.course.scheduler.scene j.course.stage) fun started t due => ?_
    have own := Scheduler.workerDue_of_started (s := j.course.stage)
      (fun fresh => (h.ordered.fresh fresh).2) started
    exact punctual t (.inr (.inl (own.trans due)))
  · have reckoned := h.supervisor
    change Supervision.Reckoned stage.time j.supervisor j.course.scheduler.supervision
    cases standing : j.course.scheduler.supervision with
    | closing p =>
      rw [standing] at reckoned
      refine ⟨reckoned.1, reckoned.2.pass (s := j.course.scheduler.scene j.course.stage) ?_⟩
      intro t due
      refine punctual t (.inr (.inr ?_))
      simp only [Scheduler.due, standing]
      exact due
    | fresh | watching | stopped | crashed =>
      rw [standing] at reckoned
      exact reckoned
  · exact h.open_dispatcher
  · exact h.open_cleaner
  · exact h.closing

theorem step (unbroken : ∀ c, j.course.stage.faults.find? c ≠ some .crash)
    (next : Step pace j j') : Kept pace j' := by
  cases next with
  | dispatcher due past => exact h.dispatch unbroken due past
  | cleaner due past => exact h.cleanup unbroken due past
  | supervisor due past => exact h.supervise unbroken due past
  | others stage _ _ punctual => exact h.others punctual

end Steps

theorem run (unbroken : ∀ s, holds s → ∀ c, s.faults.find? c ≠ some .crash)
    (run : Run pace holds j) : Kept pace j := by
  induction run with
  | start seat _ => exact start pace seat _
  | step before next _ ih => exact ih.step (unbroken _ before.now) next

/-- Every call but the one that closes the connection ends in time. -/
theorem inTime (h : Kept pace j) :
    ∀ r ∈ j.calls, ¬ Closes r.call → r.InTime pace.operationTimeout j.time := by
  intro r member other
  simp only [calls, List.mem_append] at member
  rcases member with (member | member) | member
  · exact h.dispatcher.inTime r member
  · exact h.cleaner.inTime r member
  · exact absurd (h.closing r member) other

/-- Closing the connection takes as long as it takes by itself. -/
theorem takes (h : Kept pace j) : ∀ r ∈ j.calls, Closes r.call → r.Takes r.latency j.time := by
  intro r member closes
  simp only [calls, List.mem_append] at member
  rcases member with (member | member) | member
  · exact absurd closes (h.open_dispatcher r member)
  · exact absurd closes (h.open_cleaner r member)
  · have reckoned := h.supervisor
    cases standing : j.course.scheduler.supervision with
    | closing p =>
      rw [standing] at reckoned
      exact reckoned.2.takes r member
    | fresh | watching | stopped =>
      rw [standing] at reckoned
      exact (reckoned r member).takes j.time
    | crashed =>
      rw [standing] at reckoned
      exact reckoned.elim

end Kept
end Journal
end Agenda.Rehearsal
