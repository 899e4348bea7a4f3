import Agenda.Proofs.Scheduler.Outcome
import Agenda.Proofs.Scheduler.Run

/-! The transcript of a run: which calls a scheduler makes and which answers it is given, in
order. -/
namespace Agenda.Rehearsal

/-- What shows of a call. -/
inductive Moment
  | made (c : Call)
  | told (c : Call) (answer : c.Answer)

def Moment.call : Moment → Call
  | .made c | .told c _ => c

/-! ## Performers -/

/-- How a call ends: it is carried out, or it fails and changes nothing. -/
inductive Ends (limit : Option Duration) (c : Call) (s : Scene) : c.Answer → Scene → Prop
  | served {s' : Scene} : (s'.seat.endpoint, s'.stage.service) =
      (s.stage.service.answer s.seat.endpoint c).2 →
      Ends limit c s (s.stage.service.answer s.seat.endpoint c).1 s'
  | refused {f : Failure} {a : c.Answer} {s' : Scene} :
      s.stage.faults.find? c = some (.failing f) → f.answer? c = some a → Untouched s s' →
      Ends limit c s a s'
  | timedOut {l : Duration} {s' : Scene} : limit = some l → Untouched s s' →
      Ends limit c s (c.timedOut l) s'

namespace Ends

variable {limit : Option Duration} {c : Call} {s s' : Scene} {a : c.Answer}

theorem answer (same : Untouched s s') : Ends limit c s (s'.answer c).1 (s'.answer c).2 := by
  have answered : s'.stage.service.answer s'.seat.endpoint c =
      s.stage.service.answer s.seat.endpoint c := by rw [same.seat, same.service]
  simp only [Scene.answer, Scene.withService, answered]
  exact .served rfl

/-- What is logged afterwards does not matter. -/
theorem log (h : Ends limit c s a s') (notices : List Notice) :
    Ends limit c s a (s'.log notices) := by
  have same := Untouched.log s' notices
  cases h with
  | served after =>
    rw [← same.seat, ← same.service] at after
    exact .served after
  | refused planned fails before =>
    exact .refused planned fails ⟨same.seat.trans before.seat, same.service.trans before.service⟩
  | timedOut limited before =>
    exact .timedOut limited ⟨same.seat.trans before.seat, same.service.trans before.service⟩

end Ends

namespace Performer

variable {σ : Type} [Machine σ]

/-- The answer with which a performer goes on in its next step, if it does. -/
def reply? (limit : Option Duration) (p : Performer σ) (c : Call) (s : Scene) : Option c.Answer :=
  match p.phase with
  | .acting => match s.stage.faults.find? c with
    | none => some (s.answer c).1
    | some (.failing f) => some ((f.answer? c).getD (s.answer c).1)
    | some .hang | some (.slow _) | some .crash => none
  | .delayed _ cut => match cut, limit with
    | true, some l => some (c.timedOut l)
    | _, _ => some (s.answer c).1
  | .asleep | .stuck | .crashed | .halted => none

/-- What its next step shows. -/
def moments (limit : Option Duration) (p : Performer σ) (s : Scene) : List Moment :=
  match Machine.move p.state with
  | .ask c _ => p.issued?.toList.map .made ++ (p.reply? limit c s).toList.map (.told c)
  | .halt | .listen _ => []

/-- All that a step comes to while nothing breaks off: the call that is made waits, or it is
answered. -/
inductive Turn (limit : Option Duration) (p : Performer σ) (s : Scene) :
    List Moment → Performer σ × Scene → Prop
  | waits {c : Call} {next : c.Answer → σ × List Notice} {due : Nat} {cut : Bool} {s' : Scene} :
      Machine.move p.state = .ask c next → p.phase = .acting → Untouched s s' → s.time ≤ due →
      (∀ l, limit = some l → due ≤ s.time + l.milliseconds) →
      Turn limit p s [.made c] (⟨p.state, .delayed due cut⟩, s')
  | answered {c : Call} {next : c.Answer → σ × List Notice} {a : c.Answer} {s' : Scene} :
      Machine.move p.state = .ask c next → Ends limit c s a s' →
      Turn limit p s (p.issued?.toList.map .made ++ [.told c a]) (.start (next a).1, s')

variable {limit : Option Duration} {p : Performer σ} {c : Call}
  {next : c.Answer → σ × List Notice} {s : Scene}

theorem issued_asks (issued : p.issued? = some c) :
    ∃ next, Machine.move p.state = .ask c next := by
  unfold issued? at issued
  split at issued
  · rename_i asks
    cases issued
    exact ⟨_, asks⟩
  · cases issued

theorem Turn.active {shown : List Moment} {q : Performer σ × Scene} (h : p.Turn limit s shown q) :
    q.1.Active := by
  cases h with
  | waits => exact .inr ⟨_, _, rfl⟩
  | answered => exact .inl rfl

/-- What a turn shows is about the call that the performer is at. -/
theorem Turn.asks {shown : List Moment} {q : Performer σ × Scene} (h : p.Turn limit s shown q)
    {m : Moment} (member : m ∈ shown) : ∃ next, Machine.move p.state = .ask m.call next := by
  cases h with
  | waits asks =>
    rw [List.mem_singleton.mp member]
    exact ⟨_, asks⟩
  | answered asks =>
    rcases List.mem_append.mp member with made | told
    · obtain ⟨c, issued, rfl⟩ := List.mem_map.mp made
      exact issued_asks (Option.mem_toList.mp issued)
    · rw [List.mem_singleton.mp told]
      exact ⟨_, asks⟩

/-- It acts, or its call ends within the limit. -/
def Timely (limit : Duration) (p : Performer σ) (time : Nat) : Prop :=
  p.phase = .acting ∨ ∃ due cut, p.phase = .delayed due cut ∧ time ≤ due ∧
    due ≤ time + limit.milliseconds

omit [Machine σ] in
theorem Timely.active {limit : Duration} {time : Nat} (h : p.Timely limit time) : p.Active := by
  rcases h with acting | ⟨due, cut, delayed, -⟩
  · exact .inl acting
  · exact .inr ⟨due, cut, delayed⟩

theorem Turn.timely {limit : Duration} {shown : List Moment} {q : Performer σ × Scene}
    (h : p.Turn (some limit) s shown q) : q.1.Timely limit s.time := by
  cases h with
  | waits _ _ _ past soon => exact .inr ⟨_, _, rfl, past, soon limit rfl⟩
  | answered => exact .inl rfl

theorem step_turn (active : p.Active) (asks : Machine.move p.state = .ask c next)
    (uncrashed : s.stage.faults.find? c ≠ some .crash)
    (returns : limit = none → s.stage.faults.find? c ≠ some .hang) :
    p.Turn limit s (p.moments limit s) (p.step limit s) := by
  obtain ⟨state, phase⟩ := p
  rcases active with rfl | ⟨due, cut, rfl⟩
  · have issued : issued? ⟨state, .acting⟩ = some c := by simp only [issued?, asks]
    have noted : Untouched s (s.note (.call c)) := ⟨rfl, rfl⟩
    have faults : (s.note (.call c)).stage.faults = s.stage.faults := rfl
    have told (a : c.Answer) (s' : Scene) (ends : Ends limit c s a s') :
        Turn limit ⟨state, .acting⟩ s ([.made c] ++ [.told c a]) (proceed (next a) s') := by
      have turn := Turn.answered asks (p := ⟨state, .acting⟩) (ends.log (next a).2)
      rwa [issued] at turn
    simp only [moments, asks, issued, step, attempt, reply?, faults, Option.toList_some,
      List.map_singleton]
    cases planned : s.stage.faults.find? c with
    | none => exact told _ _ (.answer noted)
    | some fault =>
      cases fault with
      | hang =>
        cases limit with
        | none => exact absurd planned (returns rfl)
        | some l =>
          refine .waits asks rfl noted (Nat.le_add_right _ _) fun l' same => ?_
          cases same
          exact Nat.le_refl _
      | slow milliseconds =>
        cases limit with
        | none =>
          refine .waits asks rfl noted (Nat.le_add_right _ _) fun l unlimited => ?_
          cases unlimited
        | some l =>
          simp only [delay]
          split
          · rename_i brief
            refine .waits asks rfl noted (Nat.le_add_right _ _) fun l' same => ?_
            cases same
            exact Nat.add_le_add_left brief _
          · refine .waits asks rfl noted (Nat.le_add_right _ _) fun l' same => ?_
            cases same
            exact Nat.le_refl _
      | crash => exact absurd planned uncrashed
      | failing f =>
        cases fails : f.answer? c with
        | none =>
          simp only [fails]
          exact told _ _ (.answer noted)
        | some a =>
          simp only [fails]
          exact told _ _ (.refused planned fails noted)
  · have idle : Untouched s s := ⟨rfl, rfl⟩
    have told (a : c.Answer) (s' : Scene) (ends : Ends limit c s a s') :
        Turn limit ⟨state, .delayed due cut⟩ s [.told c a] (proceed (next a) s') :=
      .answered asks (p := ⟨state, .delayed due cut⟩) (ends.log (next a).2)
    simp only [moments, asks, issued?, step, reply?]
    cases cut with
    | false => exact told _ _ (.answer idle)
    | true =>
      cases limit with
      | none => exact told _ _ (.answer idle)
      | some l => exact told _ _ (.timedOut rfl idle)

end Performer

/-! ## Workers -/

/-- A part of the service that does not listen. -/
def Deaf (σ : Type) [Machine σ] : Prop :=
  ∀ (state : σ) (next : Signal → σ × List Notice), Machine.move state ≠ .listen next

theorem dispatch_deaf : Deaf Dispatch := by
  intro state next
  cases state <;> nofun

theorem cleanup_deaf : Deaf Cleanup := by
  intro state next
  cases state <;> nofun

namespace Worker

variable {σ : Type} [Cycle σ]

def moments (pace : Pace) (w : Worker σ) (s : Scene) : List Moment :=
  match w with
  | .cycling _ p => p.moments (some pace.operationTimeout) s
  | .fresh | .waiting _ | .ended | .failed => []

/-- All that a step comes to while nothing breaks off. -/
inductive Turn (pace : Pace) (s : Scene) : Worker σ → List Moment → Worker σ × Scene → Prop
  | setsUp {t : Ticker} : Turn pace s .fresh [] (.waiting t, s)
  | failsToSetUp : Turn pace s .fresh [] (.failed, s)
  | ends {t : Ticker} : Turn pace s (.waiting t) [] (.ended, s)
  | failsToGoOn {t : Ticker} : Turn pace s (.waiting t) [] (.failed, s)
  | begins {t : Ticker} : Turn pace s (.waiting t) []
      (.cycling (t.heard s.time) (.start (Cycle.start s.stage.clock pace.interval)), s)
  | goesOn {t : Ticker} {p p' : Performer σ} {shown : List Moment} {s' : Scene} :
      p.Turn (some pace.operationTimeout) s shown (p', s') →
      Turn pace s (.cycling t p) shown (.cycling t p', s')
  | finishes {t : Ticker} {p : Performer σ} : Machine.move p.state = .halt →
      Turn pace s (.cycling t p) [] (.waiting t, s)

/-- Its cycle, if it is in one, does not wait longer than a call may take. -/
def Timely (pace : Pace) (w : Worker σ) (time : Nat) : Prop :=
  ∀ t p, w = .cycling t p → p.Timely pace.operationTimeout time

variable {pace : Pace} {w : Worker σ} {s : Scene}

theorem step_turn (running : w.isOver = false) (timely : w.Timely pace s.time) (deaf : Deaf σ)
    (uncrashed : ∀ c, s.stage.faults.find? c ≠ some .crash) :
    Turn pace s w (w.moments pace s) (w.step pace s) := by
  cases w with
  | fresh =>
    simp only [step, moments]
    split
    · exact .failsToSetUp
    · exact .setsUp
  | waiting t =>
    simp only [step, moments]
    split
    · exact .ends
    · split
      · exact .failsToGoOn
      · exact .begins
  | cycling t p =>
    cases asks : Machine.move p.state with
    | halt =>
      have halts : p.step (some pace.operationTimeout) s = ({ p with phase := .halted }, s) := by
        simp only [Performer.step, asks]
      simp only [step, moments, Performer.moments, asks, halts]
      exact .finishes asks
    | ask c next =>
      have turn : p.Turn (some pace.operationTimeout) s _ _ :=
        Performer.step_turn (timely t p rfl).active asks (uncrashed c) fun unlimited =>
          absurd unlimited (Option.some_ne_none _)
      rw [step_active turn.active]
      exact .goesOn turn
    | listen next => exact absurd asks (deaf p.state next)
  | ended | failed => cases running

theorem Turn.timely {shown : List Moment} {q : Worker σ × Scene} (h : Turn pace s w shown q) :
    q.1.Timely pace s.time := by
  cases h with
  | setsUp | failsToSetUp | ends | failsToGoOn | finishes => nofun
  | begins =>
    intro t p cycling
    cases cycling
    exact .inl rfl
  | goesOn turn =>
    intro t p cycling
    cases cycling
    exact turn.timely

end Worker

/-! ## Schedulers -/

namespace Course

/-- What the next step of the scheduler itself shows. -/
def closingMoments (x : Course) : List Moment :=
  match x.scheduler.supervision with
  | .closing p => p.moments none (x.scheduler.scene x.stage)
  | .fresh | .watching | .stopped | .crashed => []

/-- A step of a run and what it shows of the calls of the scheduler. -/
inductive Turn (pace : Pace) : Course → List Moment → Course → Prop
  | dispatcher {x : Course} {t : Nat} : x.scheduler.dispatcherDue x.stage = some t →
      t ≤ x.stage.time → Turn pace x
        (x.scheduler.dispatcher.moments pace (x.scheduler.scene x.stage)) (x.dispatch pace)
  | cleaner {x : Course} {t : Nat} : x.scheduler.cleanerDue x.stage = some t →
      t ≤ x.stage.time → Turn pace x
        (x.scheduler.cleaner.moments pace (x.scheduler.scene x.stage)) (x.cleanup pace)
  | supervisor {x : Course} {t : Nat} : x.scheduler.due x.stage = some t →
      t ≤ x.stage.time → Turn pace x x.closingMoments (x.supervise pace)
  | others {x : Course} (stage : Stage) : stage.base = x.stage.base →
      x.stage.time ≤ stage.time → (∀ t, x.Due t → stage.time ≤ max t x.stage.time) →
      Turn pace x [] { x with stage }

/-- A stretch of a run, from one point of it to another, with what shows in between. -/
inductive Stretch (pace : Pace) (holds : Stage → Prop) (x : Course) : List Moment → Course → Prop
  | start : holds x.stage → Stretch pace holds x [] x
  | turn {y z : Course} {transcript shown : List Moment} : Stretch pace holds x transcript y →
      Turn pace y shown z → holds z.stage → Stretch pace holds x (transcript ++ shown) z

variable {pace : Pace} {holds : Stage → Prop} {x y z : Course} {transcript later : List Moment}

theorem Turn.step {shown : List Moment} (h : Turn pace x shown y) : Step pace x y := by
  cases h with
  | dispatcher due past => exact .dispatcher due past
  | cleaner due past => exact .cleaner due past
  | supervisor due past => exact .supervisor due past
  | others stage clock later punctual => exact .others stage clock later punctual

theorem Step.turn (h : Step pace x y) : ∃ shown, Turn pace x shown y := by
  cases h with
  | dispatcher due past => exact ⟨_, .dispatcher due past⟩
  | cleaner due past => exact ⟨_, .cleaner due past⟩
  | supervisor due past => exact ⟨_, .supervisor due past⟩
  | others stage clock later punctual => exact ⟨_, .others stage clock later punctual⟩

namespace Stretch

theorem now (h : Stretch pace holds x transcript y) : holds y.stage := by
  cases h <;> assumption

theorem run (h : Stretch pace holds x transcript y) (before : Run pace holds x) :
    Run pace holds y := by
  induction h with
  | start => exact before
  | turn _ turn now ih => exact .step ih turn.step now

/-- Every run has a transcript. -/
theorem of_run (h : Run pace holds x) :
    ∃ seat origin transcript, Stretch pace holds (.start seat origin) transcript x := by
  induction h with
  | start seat first => exact ⟨seat, _, [], .start first⟩
  | step _ step now ih =>
    obtain ⟨seat, origin, transcript, before⟩ := ih
    obtain ⟨shown, turn⟩ := step.turn
    exact ⟨seat, origin, _, .turn before turn now⟩

theorem append (h : Stretch pace holds x transcript y) (h' : Stretch pace holds y later z) :
    Stretch pace holds x (transcript ++ later) z := by
  induction h' with
  | start =>
    rw [List.append_nil]
    exact h
  | turn _ turn now ih =>
    rw [← List.append_assoc]
    exact .turn ih turn now

theorem follow {check : Stage → Bool} (sound : ∀ s, check s = true → holds s) {cues : List Cue}
    (now : holds x.stage) (followed : x.follow? pace check cues = some y) :
    ∃ transcript, Stretch pace holds x transcript y := by
  induction cues generalizing x with
  | nil => exact Option.some.inj followed ▸ ⟨[], .start now⟩
  | cons c rest ih =>
    obtain ⟨z, next, followed⟩ := Option.bind_eq_some_iff.mp followed
    split at followed
    · obtain ⟨shown, turn⟩ := (step_of_cue next).turn
      have then_now := sound z.stage ‹_›
      obtain ⟨later, rest⟩ := ih then_now followed
      exact ⟨[] ++ shown ++ later, append (.turn (.start now) turn then_now) rest⟩
    · cases followed

end Stretch
end Course
end Agenda.Rehearsal
