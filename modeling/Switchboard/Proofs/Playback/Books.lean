import Switchboard.Playback.Studio

/-!
# The books of the renderer

Each opening of the renderer and each release is on account of one worker. A worker that could not
have the renderer has opened nothing and releases nothing; every other one releases what it opened
when it ends, whatever ends it.

* `Worker.hasOpened`, `Worker.hasReleased`: what a worker has to answer for.
* `Balanced`: the books say what the workers have to answer for.
* `Studio.Continues`: later on. The books have grown by what became of the workers, and a worker
  that has ended stays as it is.
* `Studio.Onward`: later on, and nothing was started.
-/

namespace Switchboard.Playback

/-! ## Workers -/

namespace Worker

/-- The worker has had the renderer. -/
def hasOpened (w : Worker) : Bool :=
  match w.phase with
  | .spawned => false
  | .rendering .. => true
  | .ended outcome _ => outcome != .failed Renderer.busy

/-- The worker has had the renderer, and has ended. -/
def hasReleased (w : Worker) : Bool := w.hasOpened && w.isFinished

/-- What a worker has become: it does nothing after its end, and an opening is not undone. -/
structure Onward (w w' : Worker) : Prop where
  ended : w.isFinished = true → w' = w
  opened : w.hasOpened = true → w'.hasOpened = true

theorem Onward.refl (w : Worker) : w.Onward w := ⟨fun _ => rfl, id⟩

theorem Onward.trans {w w' w'' : Worker} (h : w.Onward w') (h' : w'.Onward w'') :
    w.Onward w'' := by
  refine ⟨fun hw => ?_, fun hw => h'.opened (h.opened hw)⟩
  have he := h.ended hw
  subst he
  exact h'.ended hw

theorem isPlaying_of_hasOpened {w : Worker} (h : w.hasOpened = true) :
    w.isPlaying = !w.isFinished := by
  obtain ⟨source, period, limit, phase, hp⟩ := w
  cases phase with
  | spawned => cases h
  | rendering | ended => rfl

theorem hasOpened_of_isPlaying {w : Worker} (h : w.isPlaying = true) : w.hasOpened = true := by
  obtain ⟨source, period, limit, phase, hp⟩ := w
  cases phase with
  | rendering => rfl
  | spawned | ended => cases h

end Worker

/-! ## The books -/

/-- The books say what the workers have to answer for. -/
structure Balanced (workers : List Worker) (r : Renderer) : Prop where
  opens : r.opens = workers.countP (·.hasOpened)
  releases : r.releases = workers.countP (·.hasReleased)

/-- The books have grown by what became of the workers. -/
structure Accounts (before after : List Worker) (r r' : Renderer) : Prop where
  opens : r'.opens + before.countP (·.hasOpened) = r.opens + after.countP (·.hasOpened)
  releases : r'.releases + before.countP (·.hasReleased) = r.releases + after.countP (·.hasReleased)

/-- Of what was opened, that is still out which a worker is rendering with. -/
theorem countP_hasOpened (workers : List Worker) :
    workers.countP (·.hasOpened) =
      workers.countP (·.hasReleased) + workers.countP (·.isPlaying) := by
  induction workers with
  | nil => rfl
  | cons w rest ih =>
    rw [List.countP_cons, List.countP_cons, List.countP_cons, ih]
    cases ho : w.hasOpened with
    | true =>
      have hp := w.isPlaying_of_hasOpened ho
      cases hf : w.isFinished <;> simp [Worker.hasReleased, ho, hf, hp] <;> omega
    | false =>
      have hp : w.isPlaying = false := by
        cases hw : w.isPlaying with
        | true => rw [w.hasOpened_of_isPlaying hw] at ho; cases ho
        | false => rfl
      simp [Worker.hasReleased, ho, hp]

namespace Accounts

variable {ws ws' ws'' : List Worker} {r r' r'' : Renderer} {w w' : Worker}

theorem refl (ws : List Worker) (r : Renderer) : Accounts ws ws r r := ⟨rfl, rfl⟩

theorem trans (h : Accounts ws ws' r r') (h' : Accounts ws' ws'' r' r'') :
    Accounts ws ws'' r r'' :=
  ⟨by have := h.opens; have := h'.opens; omega, by have := h.releases; have := h'.releases; omega⟩

theorem cons (h : Accounts [w] [w'] r r') (h' : Accounts ws ws' r' r'') :
    Accounts (w :: ws) (w' :: ws') r r'' := by
  obtain ⟨ho, hr⟩ := h
  obtain ⟨ho', hr'⟩ := h'
  rw [List.countP_singleton, List.countP_singleton] at ho hr
  constructor <;> rw [List.countP_cons, List.countP_cons] <;> omega

/-- One worker did something. -/
theorem set {id : Nat} (hw : ws[id]? = some w) (h : Accounts [w] [w'] r r') :
    Accounts ws (ws.set id w') r r' := by
  induction ws generalizing id with
  | nil => simp at hw
  | cons x rest ih =>
    cases id with
    | zero =>
      obtain rfl : x = w := by simpa using hw
      exact h.cons (.refl rest r')
    | succ id => exact (refl [x] r).cons (ih (by simpa using hw))

/-- A worker that has not run has nothing to answer for. -/
theorem fresh (ws : List Worker) (r : Renderer) (source : Source) (period : Nat)
    (limit : Option Nat) : Accounts ws (ws ++ [.fresh source period limit]) r r := by
  constructor <;> rw [List.countP_append] <;> rfl

theorem balanced (h : Accounts ws ws' r r') (hb : Balanced ws r) : Balanced ws' r' :=
  ⟨by have := h.opens; have := hb.opens; omega, by have := h.releases; have := hb.releases; omega⟩

end Accounts

/-! ## What a worker does -/

namespace Worker

variable (w : Worker) (stage : Stage)

/-- A worker that has had the renderer was at work: nothing was opened, and the renderer was given
back if it has ended. -/
structure Worked (stage : Stage) (after : Worker × Stage) : Prop where
  opened : after.1.hasOpened = true
  opens : after.2.renderer.opens = stage.renderer.opens
  releases : after.2.renderer.releases =
    stage.renderer.releases + if after.1.isFinished then 1 else 0

/-- A worker that ends gives the renderer back. -/
theorem worked_finish {outcome : Outcome} (ho : outcome ≠ .failed Renderer.busy) (rendered : Nat) :
    Worked stage (w.finish outcome rendered stage) := by
  refine ⟨by simpa [finish, hasOpened] using ho, ?_, ?_⟩ <;>
    cases outcome <;> simp [finish, isFinished, Renderer.noteRelease, Renderer.opens]

/-- A worker that renders up to some moment, and maybe ends before. -/
theorem worked_render (deadline : Nat) (expiry : Option Nat) (due rendered : Nat) :
    Worked stage (w.render deadline expiry due rendered stage) := by
  fun_induction w.render deadline expiry due rendered stage with
  | case1 due rendered stage => exact worked_finish w stage (by simp) rendered
  | case2 due rendered stage _ _ stage' =>
    have hb : Outcome.failed Renderer.broken ≠ .failed Renderer.busy := by decide
    have h := worked_finish w stage' hb (rendered + 1)
    exact ⟨h.opened, h.opens, h.releases⟩
  | case3 due rendered stage _ _ stage' _ ih => exact ⟨ih.opened, ih.opens, ih.releases⟩
  | case4 due rendered stage => exact ⟨rfl, rfl, rfl⟩

variable {w stage} {after : Worker × Stage} {r : Renderer}

/-- The books account for a worker at work, if they have it that it opened the renderer. -/
theorem Worked.accounts (h : Worked stage after) (hf : w.isFinished = false)
    (ho : stage.renderer.opens = r.opens + if w.hasOpened then 0 else 1)
    (hr : stage.renderer.releases = r.releases) :
    Accounts [w] [after.1] r after.2.renderer ∧ w.Onward after.1 := by
  have hopens := h.opens
  have hreleases := h.releases
  refine ⟨⟨?_, ?_⟩, fun hw => ?_, fun _ => h.opened⟩
  · rw [List.countP_singleton, List.countP_singleton, h.opened]
    split at ho <;> simp_all
  · rw [List.countP_singleton, List.countP_singleton]
    simp only [hasReleased, h.opened, hf, Bool.true_and, Bool.and_false, Bool.false_eq_true,
      if_false]
    omega
  · rw [hf] at hw
    cases hw

theorem of_spawned (h : w.phase = .spawned) : w.hasOpened = false ∧ w.isFinished = false := by
  unfold hasOpened isFinished
  rw [h]
  exact ⟨rfl, rfl⟩

theorem of_rendering {expiry : Option Nat} {due rendered : Nat}
    (h : w.phase = .rendering expiry due rendered) : w.hasOpened = true ∧ w.isFinished = false := by
  unfold hasOpened isFinished
  rw [h]
  exact ⟨rfl, rfl⟩

/-- A worker that could not have the renderer has nothing to answer for. -/
theorem accounts_refused (h : w.phase = .spawned) {w' : Worker}
    (ho : w'.hasOpened = false) (r : Renderer) : Accounts [w] [w'] r r ∧ w.Onward w' := by
  obtain ⟨how, hfw⟩ := of_spawned h
  refine ⟨⟨?_, ?_⟩, fun hw => ?_, fun hw => ?_⟩
  · rw [List.countP_singleton, List.countP_singleton, how, ho]
  · rw [List.countP_singleton, List.countP_singleton, hasReleased, hasReleased, how, ho]
    rfl
  · rw [hfw] at hw
    cases hw
  · rw [how] at hw
    cases hw

variable (w stage)

/-- Whatever a worker does up to some moment, the books account for it. -/
theorem accounts_run (willing : Bool) (now deadline : Nat) :
    Accounts [w] [(w.run willing now deadline stage).1] stage.renderer
        (w.run willing now deadline stage).2.renderer ∧
      w.Onward (w.run willing now deadline stage).1 := by
  unfold run
  split
  · rename_i hphase
    obtain ⟨ho, hf⟩ := of_spawned hphase
    unfold start
    split
    · have h := worked_render w { stage with renderer := stage.renderer.noteOpen w.source } deadline
        (w.limit.map (now + ·)) (now + w.period) 0
      refine h.accounts hf ?_ rfl
      rw [ho]
      simp [Renderer.noteOpen, Renderer.opens]
    · exact accounts_refused hphase rfl _
  · rename_i expiry due rendered hphase
    obtain ⟨ho, hf⟩ := of_rendering hphase
    exact (worked_render w stage deadline expiry due rendered).accounts hf (by rw [ho]; rfl) rfl
  · exact ⟨.refl _ _, .refl w⟩

/-- A stop ends what is rendering, and nothing else. -/
theorem accounts_stop :
    Accounts [w] [(w.stop stage).1] stage.renderer (w.stop stage).2.renderer ∧
      w.Onward (w.stop stage).1 := by
  unfold stop
  split
  · rename_i expiry due rendered hphase
    obtain ⟨ho, hf⟩ := of_rendering hphase
    exact (worked_finish w stage (by simp) rendered).accounts hf (by rw [ho]; rfl) rfl
  · exact ⟨.refl _ _, .refl w⟩

/-- A worker that has run is rendering or has ended. -/
theorem phase_run (willing : Bool) (now deadline : Nat) :
    (w.run willing now deadline stage).1.phase ≠ .spawned := by
  have hrender (stage : Stage) (expiry : Option Nat) (due rendered : Nat) :
      (w.render deadline expiry due rendered stage).1.phase ≠ .spawned := by
    intro h
    have ho := (worked_render w stage deadline expiry due rendered).opened
    rw [(of_spawned h).1] at ho
    cases ho
  unfold run
  split
  · unfold start
    split
    · exact hrender _ _ _ _
    · simp
  · exact hrender _ _ _ _
  · rename_i hphase
    rw [hphase]
    simp

/-- A worker that has run is ended by a stop. -/
theorem isFinished_stop (h : w.phase ≠ .spawned) : (w.stop stage).1.isFinished = true := by
  unfold stop
  split
  · rfl
  · rename_i hphase
    unfold isFinished
    cases hp : w.phase with
    | spawned => exact absurd hp h
    | rendering expiry due rendered => exact absurd hp (hphase expiry due rendered)
    | ended => rfl

end Worker

/-! ## Workers side by side -/

/-- What became of each of some workers. -/
def Onwards (before after : List Worker) : Prop :=
  ∀ (id : Nat) (w : Worker), before[id]? = some w → ∃ w', after[id]? = some w' ∧ w.Onward w'

namespace Onwards

variable {ws ws' ws'' : List Worker} {w w' : Worker}

theorem refl (ws : List Worker) : Onwards ws ws := fun _ w hw => ⟨w, hw, .refl w⟩

theorem trans (h : Onwards ws ws') (h' : Onwards ws' ws'') : Onwards ws ws'' := by
  intro id w hw
  obtain ⟨w', hw', ho⟩ := h id w hw
  obtain ⟨w'', hw'', ho'⟩ := h' id w' hw'
  exact ⟨w'', hw'', ho.trans ho'⟩

theorem cons (h : w.Onward w') (h' : Onwards ws ws') : Onwards (w :: ws) (w' :: ws') := by
  intro id x hx
  cases id with
  | zero =>
    obtain rfl : w = x := by simpa using hx
    exact ⟨w', rfl, h⟩
  | succ id => exact h' id x hx

theorem set {id : Nat} (hw : ws[id]? = some w) (h : w.Onward w') : Onwards ws (ws.set id w') := by
  intro id' x hx
  by_cases he : id = id'
  · subst he
    obtain rfl : w = x := Option.some.inj (hw.symm.trans hx)
    obtain ⟨hlt, -⟩ := List.getElem?_eq_some_iff.mp hw
    exact ⟨w', List.getElem?_set_self hlt, h⟩
  · exact ⟨x, by rwa [List.getElem?_set_ne he], .refl x⟩

theorem append (ws more : List Worker) : Onwards ws (ws ++ more) := by
  intro id w hw
  obtain ⟨hlt, -⟩ := List.getElem?_eq_some_iff.mp hw
  exact ⟨w, by rwa [List.getElem?_append_left hlt], .refl w⟩

end Onwards

/-! ## The studio -/

namespace Studio

variable {s s' s'' : Studio}

/-- The studio later on: the books have grown by what became of the workers. -/
structure Continues (s s' : Studio) : Prop where
  books : Accounts s.workers s'.workers s.renderer s'.renderer
  workers : Onwards s.workers s'.workers

/-- The studio later on, when nothing was started. -/
structure Onward (s s' : Studio) : Prop extends Continues s s' where
  length : s'.workers.length = s.workers.length

theorem Continues.refl (s : Studio) : s.Continues s := ⟨.refl _ _, .refl _⟩

theorem Continues.trans (h : s.Continues s') (h' : s'.Continues s'') : s.Continues s'' :=
  ⟨h.books.trans h'.books, h.workers.trans h'.workers⟩

theorem Onward.refl (s : Studio) : s.Onward s := ⟨.refl s, rfl⟩

theorem Onward.trans (h : s.Onward s') (h' : s'.Onward s'') : s.Onward s'' :=
  ⟨h.toContinues.trans h'.toContinues, h'.length.trans h.length⟩

/-- The workers and what the books have on them are the same. -/
theorem onward_of_eq (hw : s'.workers = s.workers) (ho : s'.renderer.opens = s.renderer.opens)
    (hr : s'.renderer.releases = s.renderer.releases) : s.Onward s' := by
  refine ⟨⟨⟨?_, ?_⟩, ?_⟩, congrArg List.length hw⟩
  · rw [ho, hw]
  · rw [hr, hw]
  · rw [hw]
    exact .refl _

/-- A playback that has ended does not come back. -/
theorem Onward.isLive (h : s.Onward s') {id : Nat} (hl : s'.isLive id = true) :
    s.isLive id = true := by
  unfold Studio.isLive at hl ⊢
  cases hw : s.workers[id]? with
  | none =>
    -- It was never started, and nothing is started on the way.
    have hlt : ¬id < s'.workers.length := by
      rw [h.length]
      exact Nat.not_lt.mpr (List.getElem?_eq_none_iff.mp hw)
    rw [List.getElem?_eq_none_iff.mpr (Nat.not_lt.mp hlt)] at hl
    cases hl
  | some w =>
    obtain ⟨w', hw', ho⟩ := h.workers id w hw
    rw [hw'] at hl
    cases hf : w.isFinished with
    | false => simp [hf]
    | true =>
      rw [ho.ended hf] at hl
      simp [hf] at hl

/-- All workers do what they do up to some moment, one after the other. -/
theorem onward_runAll (willing : Bool) (now deadline : Nat) (workers : List Worker)
    (stage : Stage) :
    Accounts workers (runAll willing now deadline workers stage).1 stage.renderer
        (runAll willing now deadline workers stage).2.renderer ∧
      Onwards workers (runAll willing now deadline workers stage).1 ∧
      (runAll willing now deadline workers stage).1.length = workers.length := by
  induction workers generalizing stage with
  | nil => exact ⟨.refl _ _, .refl _, rfl⟩
  | cons w rest ih =>
    obtain ⟨hb, ho⟩ := w.accounts_run stage willing now deadline
    obtain ⟨hbs, hos, hl⟩ := ih (w.run willing now deadline stage).2
    exact ⟨hb.cons hbs, .cons ho hos, congrArg (· + 1) hl⟩

variable (s)

theorem onward_runTo (deadline : Nat) : s.Onward (s.runTo deadline) :=
  have h := onward_runAll (!s.outside.fails .openRenderer) s.now deadline s.workers s.toStage
  ⟨⟨h.1, h.2.1⟩, h.2.2⟩

theorem onward_settle : s.Onward s.settle :=
  have h := s.onward_runTo s.now
  ⟨⟨h.books, h.workers⟩, h.length⟩

theorem onward_elapse (ms : Nat) : s.Onward (s.elapse ms) :=
  s.onward_settle.trans (s.settle.onward_runTo (s.now + ms))

theorem onward_halt (id : Nat) : s.Onward (s.halt id) := by
  unfold halt
  split
  · rename_i w hw
    obtain ⟨hb, ho⟩ := w.accounts_stop s.toStage
    exact ⟨⟨hb.set hw, .set hw ho⟩, List.length_set⟩
  · exact .refl s

theorem onward_stop (id : Nat) : s.Onward (s.stop id) := by
  unfold stop
  split
  · exact s.onward_settle.trans (s.settle.onward_halt id)
  · exact .refl s

theorem onward_wait (id : Nat) : s.Onward (s.wait id) := by
  unfold wait
  split
  · dsimp only
    split
    · exact s.onward_settle.trans (s.settle.onward_runTo _)
    · exact s.onward_settle
  · exact .refl s

/-- Nobody waits to run once everybody waits. -/
theorem phase_settle {id : Nat} {w : Worker} (h : s.settle.workers[id]? = some w) :
    w.phase ≠ .spawned := by
  have hall (willing : Bool) (now deadline : Nat) (workers : List Worker) (stage : Stage) :
      ∀ w ∈ (runAll willing now deadline workers stage).1, w.phase ≠ .spawned := by
    induction workers generalizing stage with
    | nil => simp [runAll]
    | cons x rest ih =>
      intro w hw
      rcases List.mem_cons.mp hw with rfl | hw
      · exact x.phase_run stage willing now deadline
      · exact ih _ w hw
  exact hall _ _ _ _ _ w (List.mem_of_getElem? h)

/-- A playback that was stopped has ended. -/
theorem isLive_stop (id : Nat) : (s.stop id).isLive id = false := by
  unfold stop
  split
  · unfold halt
    split
    · rename_i w hw
      obtain ⟨hlt, -⟩ := List.getElem?_eq_some_iff.mp hw
      have hf := w.isFinished_stop s.settle.toStage (s.phase_settle hw)
      simp [isLive, List.getElem?_set_self hlt, hf]
    · rename_i hw
      simp [isLive, hw]
  · exact eq_false_of_ne_true ‹_›

end Studio

end Switchboard.Playback
