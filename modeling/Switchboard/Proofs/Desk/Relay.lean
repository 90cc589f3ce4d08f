import Switchboard.Proofs.Desk.Players

/-!
# The queue and its worker

`Desk.closeQueue` empties the queue in one go. Behind it a worker takes one signal at a time out of
the queue and dispatches it, while others submit signals, dispatch signals past the queue, and open
and close it. Here these steps are told apart.

* `Relay`, `Relay.step`: the audio side with its worker, and what one move makes of it. The queue
  hands signals out in the order in which they came in; a place is free again once its signal is
  taken out; and a queue that is being closed takes nothing more in and ends once it is empty. It is
  neither opened nor passed by meanwhile.
* `Relay.Run`, `Relay.History`: moves in any order, with their results. What was accepted, received
  and delivered is read off the history.
* `Relay.run_closeQueue`: to close the queue in one go is one run of the worker.
* `Relay.Kept`: what every move keeps. `Relay.queue_without_loss` is read off it.
-/

namespace Switchboard

namespace Desk

/-! ## Dispatching does not look at the queue -/

/-- The desk with other signals in its queue. -/
def requeued (d : Desk) (queue : Option (List Signal)) : Desk := { d with queue }

variable (d : Desk) (queue : Option (List Signal)) (calls : List Call)

theorem moveRoute_requeued (next : Route.Machine) :
    (d.requeued queue).moveRoute next = (d.moveRoute next).requeued queue := by
  by_cases hl : next.link = d.route.link <;> by_cases hc : next.current = d.route.current
  all_goals
    show (if next.link = d.route.link then if next.current = d.route.current then _ else _
        else Prod.snd (ask (if next.current = d.route.current then _ else _) _)) =
      requeued (if next.link = d.route.link then if next.current = d.route.current then _ else _
        else Prod.snd (ask (if next.current = d.route.current then _ else _) _)) queue
    simp only [hl, hc, if_true, if_false]
    rfl

theorem applyMute_requeued (muted : Bool) :
    (d.requeued queue).applyMute muted = (d.applyMute muted).requeued queue := by
  by_cases hm : d.muted = muted
  · rw [applyMute, applyMute, if_pos hm]
    exact if_pos hm
  · rw [applyMute, applyMute, if_neg hm]
    refine (if_neg hm).trans ?_
    show (if (d.ask (.micMute muted)).1 then _ else _) =
      requeued (if (d.ask (.micMute muted)).1 then _ else _) queue
    cases (d.ask (.micMute muted)).1 <;> rfl

theorem feedRoute_requeued (signal : Signal) :
    ((d.requeued queue).feedRoute signal calls).2 =
      (d.feedRoute signal calls).2.requeued queue := d.moveRoute_requeued queue _

theorem updateFocus_requeued :
    (d.requeued queue).updateFocus calls = (d.updateFocus calls).requeued queue := by
  have hf := feedRoute_requeued { d with focus := focusOf d.posture.current } queue calls
    (focusSignal (focusOf d.posture.current))
  by_cases hn : focusOf d.posture.current = d.focus
  · rw [updateFocus, updateFocus, if_pos hn]
    exact if_pos hn
  · rw [updateFocus, updateFocus, if_neg hn]
    refine (if_neg hn).trans ?_
    by_cases hr : focusOf d.posture.current = .released
    · have hm := applyMute_requeued ({ d with focus := focusOf d.posture.current }.feedRoute
        (focusSignal (focusOf d.posture.current)) calls).2 queue false
      rw [if_pos hr]
      exact (if_pos hr).trans ((congrArg (·.applyMute false) hf).trans hm)
    · rw [if_neg hr]
      exact (if_neg hr).trans hf

theorem leaveEarpiece_requeued :
    ((d.requeued queue).leaveEarpiece calls).2 = (d.leaveEarpiece calls).2.requeued queue := by
  have hroute : (d.requeued queue).route = d.route := rfl
  have hcontext : (d.requeued queue).context calls = d.context calls := rfl
  rw [leaveEarpiece, leaveEarpiece, hroute, hcontext]
  by_cases hr : d.route.current = .earpiece
  · rw [if_pos hr, if_pos hr]
    cases Route.Machine.choose .speaker (d.context calls) with
    | ok next => exact moveRoute_requeued d queue next
    | error _ => rfl
  · rw [if_neg hr, if_neg hr]

theorem updateVideoRoute_requeued :
    (d.requeued queue).updateVideoRoute calls = (d.updateVideoRoute calls).requeued queue := by
  show (if videoInUse calls && !d.videoShown then _ else _) =
    requeued (if videoInUse calls && !d.videoShown then _ else _) queue
  cases videoInUse calls && !d.videoShown with
  | true => exact leaveEarpiece_requeued { d with videoShown := videoInUse calls } queue calls
  | false => rfl

theorem startRinging_requeued (slot : SlotId) :
    (d.requeued queue).startRinging slot = (d.startRinging slot).map (·.requeued queue) := by
  have hsound : (d.requeued queue).toSound = d.toSound := rfl
  rw [startRinging, startRinging, hsound]
  cases d.toSound.ring slot <;> rfl

theorem stopRinging_requeued :
    (d.requeued queue).stopRinging.2 = d.stopRinging.2.requeued queue := by
  show (if d.toSound.stopRing.1 then _ else _) =
    requeued (if d.toSound.stopRing.1 then _ else _) queue
  cases d.toSound.stopRing.1 <;> rfl

theorem carryOut_requeued (e : Effect) :
    carryOut calls (d.requeued queue) e = (carryOut calls d e).requeued queue := by
  cases e with
  | startRinging =>
    rw [carryOut, carryOut, startRinging_requeued]
    cases d.startRinging (ringingSlot calls) <;> rfl
  | stopRinging => exact stopRinging_requeued d queue
  | playRingback | stopRingback | playWaitingTone | muteNetworkRing | modeChanged => rfl

theorem turned_requeued (posture : Posture.Machine) :
    (d.requeued queue).turned calls posture = (d.turned calls posture).requeued queue := by
  have hfold (d : Desk) (effects : List Effect) :
      effects.foldl (carryOut calls) (d.requeued queue) =
        (effects.foldl (carryOut calls) d).requeued queue := by
    induction effects generalizing d with
    | nil => rfl
    | cons e rest ih => rw [List.foldl_cons, List.foldl_cons, carryOut_requeued, ih]
  rw [turned, turned, ← hfold]
  refine congrArg (posture.pending.foldl (carryOut calls)) ?_
  show (if posture.current = d.posture.current then _ else _) =
    requeued (if posture.current = d.posture.current then _ else _) queue
  split <;> rfl

theorem afterTransition_requeued (posture : Posture.Machine) (t : Tally) :
    { d.requeued queue with posture }.afterTransition d.posture.current calls t =
      ({ d with posture }.afterTransition d.posture.current calls t).requeued queue := by
  refine (afterTransition_eq (d.requeued queue) posture calls t).trans ?_
  rw [afterTransition_eq, ← updateVideoRoute_requeued, ← updateFocus_requeued, turned_requeued]
  split <;> rfl

/-- To dispatch a signal neither reads nor writes the queue. -/
theorem dispatch_requeued (signal : Signal) :
    ((d.requeued queue).dispatch signal).2 = (d.dispatch signal).2.requeued queue := by
  have hn : (d.requeued queue).noteAccessory signal = (d.noteAccessory signal).requeued queue := by
    cases signal <;> rfl
  unfold dispatch
  split
  · show (if (d.posture.process signal (.ofCalls d.registry.calls)).1 then _ else _ :
        Bool × Desk).2 =
      requeued (if (d.posture.process signal (.ofCalls d.registry.calls)).1 then _ else _ :
        Bool × Desk).2 queue
    split
    · exact afterTransition_requeued d queue _ _ _
    · rfl
  · split
    · show (feedRoute ((d.requeued queue).noteAccessory signal) signal d.registry.calls).2 = _
      rw [hn, feedRoute_requeued]
      rfl
    · rfl

/-- The signal at the head of the queue is taken out and dispatched at once. -/
theorem receive_requeued (signal : Signal) (rest : List Signal) :
    (d.requeued (some (signal :: rest))).receive = (d.dispatch signal).2.requeued (some rest) :=
  dispatch_requeued d (some rest) signal

/-- The signals that were taken out can be dispatched on a desk with any queue. -/
theorem dispatchAll_requeued (signals : List Signal) :
    (d.requeued queue).dispatchAll signals = (d.dispatchAll signals).requeued queue := by
  unfold dispatchAll
  induction signals generalizing d with
  | nil => rfl
  | cons s rest ih => rw [List.foldl_cons, List.foldl_cons, dispatch_requeued, ih]

theorem queue_dispatch (signal : Signal) : (d.dispatch signal).2.queue = d.queue := by
  obtain ⟨_, h⟩ := core_dispatch d signal
  exact congrArg Core.queue h

theorem config_dispatch (signal : Signal) : (d.dispatch signal).2.config = d.config := by
  obtain ⟨_, h⟩ := core_dispatch d signal
  exact congrArg Core.config h

/-- The desk with its queue closed and its players silenced. -/
def hushed (d : Desk) : Desk := (d.requeued none).silenceTone.2.onSound (·.stopRing.2)

/-! ## The operations on the queue -/

open DeskM

theorem perform_openQueue : openQueue.perform d =
    if d.queue.isSome then (.error .alreadyInitialized, d) else (.ok (), d.requeued (some [])) := by
  refine Ends.perform_eq ?_
  unfold openQueue
  rw [ends_bind, ends_get]
  split <;> rfl

/-- The queue takes a signal if it is open and has a place left. -/
theorem perform_submit (signal : Signal) : (submit signal).perform d =
    match d.queue with
    | none => (.error .notInitialized, d)
    | some waiting =>
      if waiting.length < d.config.queueCapacity.toNat then
        (.ok (), d.requeued (some (waiting ++ [signal])))
      else (.error (.resourceUnavailable "audio event queue" "queue is full"), d) := by
  refine Ends.perform_eq ?_
  unfold submit
  rw [ends_bind, ends_get]
  cases hq : d.queue with
  | none => rfl
  | some waiting =>
    dsimp only
    rw [ends_bind, ends_get]
    split <;> rfl

/-- To close the queue is to dispatch what waits, and then to silence the players. -/
theorem perform_closeQueue : closeQueue.perform d =
    if d.queue.isNone then (.error .notInitialized, d) else (.ok (), d.drain.hushed) := by
  refine Ends.perform_eq ?_
  unfold closeQueue
  rw [ends_bind, ends_get]
  split <;> rfl

end Desk

/-! ## Moves -/

/-- The audio side with the worker of its queue. -/
structure Relay where
  desk : Desk
  /-- The signal that the worker has taken out of the queue and not dispatched yet. -/
  inHand : Option Signal
  /-- The queue is being closed: it takes nothing more in, and the worker empties it. -/
  closing : Bool

namespace Relay

open DeskM

/-- A relay at which nothing has happened. -/
def fresh (config : Config) (outside : Outside) : Relay := ⟨.idle config outside, none, false⟩

/-- What the worker, its users and its surroundings do in one step. -/
inductive Move where
  | openQueue
  | submit (signal : Signal)
  /-- The worker takes out the signal at the head of the queue. -/
  | receive (signal : Signal)
  /-- The worker dispatches the signal that it has in hand. -/
  | deliver (signal : Signal)
  /-- A signal is dispatched past the queue. -/
  | dispatch (signal : Signal)
  /-- The queue begins to be closed. -/
  | close
  /-- The worker is done with a queue that is being closed. -/
  | finish
  | befall (c : Circumstance)
  /-- The registry, which is kept elsewhere, has become another. -/
  | revise (registry : Registry)

/-- A move of the worker. -/
def Move.ByWorker : Move → Prop
  | receive _ | deliver _ => True
  | _ => False

/-- A move that is none of the queue's. -/
def Move.Aside : Move → Prop
  | dispatch _ | befall _ | revise _ => True
  | _ => False

/-- Has the desk carry out an operation. -/
def perform (r : Relay) (x : DeskM Unit) : Except CallError Unit × Relay :=
  ((x.perform r.desk).1, { r with desk := (x.perform r.desk).2 })

/-- The result of a move and the relay after it, unless its turn has not come. -/
def step (r : Relay) : Move → Option (Except CallError Unit × Relay)
  | .openQueue => if r.closing then none else some (r.perform Desk.openQueue)
  | .submit s => some (if r.closing then (.error .notInitialized, r) else r.perform (Desk.submit s))
  | .receive s =>
    match r.inHand, r.desk.queue with
    | none, some (head :: rest) =>
      if head = s then
        some (.ok (), { r with desk := r.desk.requeued (some rest), inHand := some s })
      else none
    | _, _ => none
  | .deliver s =>
    if r.inHand = some s then
      some (.ok (), { r with desk := (r.desk.dispatch s).2, inHand := none })
    else none
  | .dispatch s =>
    if r.closing then none else some (.ok (), { r with desk := (r.desk.dispatch s).2 })
  | .close =>
    some (if r.closing ∨ r.desk.queue = none then (.error .notInitialized, r)
      else (.ok (), { r with closing := true }))
  | .finish =>
    if r.closing ∧ r.inHand = none ∧ r.desk.queue = some [] then
      some (.ok (), { r with desk := r.desk.hushed, closing := false })
    else none
  | .befall c => some (.ok (), { r with desk := c.perform r.desk })
  | .revise registry => some (.ok (), { r with desk := { r.desk with registry } })

/-! ## Histories -/

/-- A move with its result. -/
structure Entry where
  move : Move
  result : Except CallError Unit

/-- The moves so far, in order. -/
abbrev History := List Entry

/-- The signal that was accepted into the queue. -/
def Entry.accepted? : Entry → Option Signal
  | ⟨.submit s, .ok ()⟩ => some s
  | _ => none

/-- The signal that was taken out of the queue. -/
def Entry.received? : Entry → Option Signal
  | ⟨.receive s, .ok ()⟩ => some s
  | _ => none

/-- The signal that the worker dispatched. -/
def Entry.delivered? : Entry → Option Signal
  | ⟨.deliver s, .ok ()⟩ => some s
  | _ => none

/-- The queue is open after a move, where it was so before or not. -/
def Entry.opens (before : Bool) : Entry → Bool
  | ⟨.openQueue, .ok ()⟩ => true
  | ⟨.close, .ok ()⟩ => false
  | _ => before

namespace History

variable (log : History)

def accepted : List Signal := log.filterMap (·.accepted?)

def received : List Signal := log.filterMap (·.received?)

def delivered : List Signal := log.filterMap (·.delivered?)

/-- The queue was opened, and has not begun to be closed since. -/
def opened : Bool := log.foldl Entry.opens false

variable (e : Entry)

@[simp] theorem accepted_append : accepted (log ++ [e]) = accepted log ++ e.accepted?.toList := by
  rw [accepted, List.filterMap_append]
  cases h : e.accepted? <;> simp [accepted, h]

@[simp] theorem received_append : received (log ++ [e]) = received log ++ e.received?.toList := by
  rw [received, List.filterMap_append]
  cases h : e.received? <;> simp [received, h]

@[simp] theorem delivered_append :
    delivered (log ++ [e]) = delivered log ++ e.delivered?.toList := by
  rw [delivered, List.filterMap_append]
  cases h : e.delivered? <;> simp [delivered, h]

@[simp] theorem opened_append : opened (log ++ [e]) = e.opens (opened log) :=
  List.foldl_append

end History

/-- Moves from one relay to another, in any order. -/
inductive Run (r₀ : Relay) : History → Relay → Prop
  | refl : Run r₀ [] r₀
  | next {log : History} {r r' : Relay} {result : Except CallError Unit} (h : Run r₀ log r)
    (move : Move) (hs : r.step move = some (result, r')) : Run r₀ (log ++ [⟨move, result⟩]) r'

variable {r₀ r r' : Relay} {log log' : History}

/-- Runs are put one after the other. -/
theorem Run.trans (h : Run r₀ log r) (h' : Run r log' r') : Run r₀ (log ++ log') r' := by
  induction h' with
  | refl => rwa [List.append_nil]
  | next _ _ hs ih =>
    rw [← List.append_assoc]
    exact ih.next _ hs

/-! ## The worker on its own -/

/-- The worker's moves for some signals. -/
def served (signals : List Signal) : History :=
  signals.flatMap fun s => [⟨.receive s, .ok ()⟩, ⟨.deliver s, .ok ()⟩]

/-- The worker serves by its own moves alone. -/
theorem byWorker_of_mem_served {signals : List Signal} {e : Entry} (h : e ∈ served signals) :
    e.move.ByWorker := by
  obtain ⟨s, -, he⟩ := List.mem_flatMap.mp h
  rcases List.mem_pair.mp he with rfl | rfl <;> trivial

/-- The worker takes a signal out and dispatches it, as `Desk.receive` does at once. -/
theorem run_receive (d : Desk) {s : Signal} {rest : List Signal} (hq : d.queue = some (s :: rest))
    (closing : Bool) : Run ⟨d, none, closing⟩ [⟨.receive s, .ok ()⟩, ⟨.deliver s, .ok ()⟩]
      ⟨d.receive, none, closing⟩ := by
  have hr : Relay.step ⟨d, none, closing⟩ (.receive s) =
      some (.ok (), ⟨d.requeued (some rest), some s, closing⟩) := by
    simp [Relay.step, hq]
  have hd : Relay.step ⟨d.requeued (some rest), some s, closing⟩ (.deliver s) =
      some (.ok (), ⟨d.receive, none, closing⟩) := by
    rw [Desk.receive, hq]
    exact if_pos rfl
  exact (Run.refl.next _ hr).next _ hd

/-- The worker empties the queue: each signal is taken out and dispatched, in order. -/
theorem run_served (d : Desk) (signals : List Signal) (closing : Bool) :
    Run ⟨d.requeued (some signals), none, closing⟩ (served signals)
      ⟨(d.dispatchAll signals).requeued (some []), none, closing⟩ := by
  induction signals generalizing d with
  | nil => exact .refl
  | cons s rest ih =>
    have hs := run_receive (d.requeued (some (s :: rest))) rfl closing
    rw [d.receive_requeued] at hs
    exact hs.trans (ih _)

/-- To close the queue in one go is to begin closing it, to have the worker empty it and to finish.
-/
theorem run_closeQueue {d : Desk} {signals : List Signal} (hq : d.queue = some signals) :
    Run ⟨d, none, false⟩ ([⟨.close, .ok ()⟩] ++ served signals ++ [⟨.finish, .ok ()⟩])
      ⟨(Desk.closeQueue.perform d).2, none, false⟩ := by
  have hr : d.requeued (some signals) = d := by rw [← hq]; rfl
  have hc : Relay.step ⟨d, none, false⟩ .close = some (.ok (), ⟨d, none, true⟩) := by
    simp [step, hq]
  have hw := run_served d signals true
  have hf : Relay.step ⟨(d.dispatchAll signals).requeued (some []), none, true⟩ .finish =
      some (.ok (), ⟨((d.dispatchAll signals).requeued (some [])).hushed, none, false⟩) := by
    rw [step]
    exact if_pos ⟨rfl, rfl, rfl⟩
  have he : (Desk.closeQueue.perform d).2 =
      ((d.dispatchAll signals).requeued (some [])).hushed := by
    rw [Desk.perform_closeQueue, hq, ← Desk.dispatchAll_requeued]
    show d.drain.hushed = _
    rw [Desk.drain, hq]
    rfl
  rw [hr] at hw
  rw [he]
  exact ((Run.refl.next _ hc).trans hw).next _ hf

/-! ## What every move keeps -/

/-- The history of a relay accounts for its queue, and the players of its desk are well kept. -/
structure Kept (config : Config) (log : History) (r : Relay) : Prop where
  config : r.desk.config = config
  opened : log.opened = (r.desk.queue.isSome && !r.closing)
  /-- What was accepted was received, in order, or waits. -/
  accepted : log.accepted = log.received ++ r.desk.queue.getD []
  /-- What was received was delivered, in order, or is in hand. -/
  received : log.received = log.delivered ++ r.inHand.toList
  /-- The worker has nothing to do with a queue that is not there. -/
  idle : r.desk.queue = none → r.inHand = none ∧ r.closing = false
  tended : r.desk.Tended

variable {config : Config}

theorem kept_fresh (config : Config) (refuses : Nat → Service → Bool) (failures : Failures)
    (delay : Nat) : Kept config [] (.fresh config ⟨refuses, failures, [], delay⟩) where
  config := rfl
  opened := rfl
  accepted := rfl
  received := rfl
  idle _ := ⟨rfl, rfl⟩
  tended := Playback.Sound.tended_silent config _ refuses failures delay

/-- A move that failed. -/
theorem Kept.refused (h : Kept config log r) (move : Move) (e : CallError) :
    Kept config (log ++ [⟨move, .error e⟩]) r where
  config := h.config
  opened := by
    rw [History.opened_append, ← h.opened]
    cases move <;> rfl
  accepted := by
    rw [History.accepted_append, History.received_append, h.accepted]
    cases move <;> simp [Entry.accepted?, Entry.received?]
  received := by
    rw [History.received_append, History.delivered_append, h.received]
    cases move <;> simp [Entry.received?, Entry.delivered?]
  idle := h.idle
  tended := h.tended

/-- A move that is none of the queue's. -/
theorem Kept.aside (h : Kept config log r) (move : Move) (hm : move.Aside) {desk : Desk}
    (hc : desk.config = r.desk.config) (hq : desk.queue = r.desk.queue) (ht : desk.Tended) :
    Kept config (log ++ [⟨move, .ok ()⟩]) { r with desk } where
  config := hc.trans h.config
  opened := by
    rw [History.opened_append, h.opened, hq]
    cases move <;> first | rfl | exact hm.elim
  accepted := by
    rw [History.accepted_append, History.received_append, h.accepted, hq]
    cases move <;> first | exact hm.elim | simp [Entry.accepted?, Entry.received?]
  received := by
    rw [History.received_append, History.delivered_append, h.received]
    cases move <;> first | exact hm.elim | simp [Entry.received?, Entry.delivered?]
  idle hn := h.idle (hq ▸ hn)
  tended := ht

/-- A dispatched signal leaves the players in order. -/
theorem tended_dispatch {d : Desk} (h : d.Tended) (s : Signal) : (d.dispatch s).2.Tended := by
  have hb : Desk.Mutations (fun _ => True) d (d.dispatch s).2 :=
    (Desk.audioMutations_dispatch d s).mutations
  exact (hb.plays fun _ _ => trivial : d.Plays (fun _ => True) _).tended h

/-- To open the queue keeps the relay in step with its history, whether it was open before or not.
-/
theorem Kept.openQueue (h : Kept config log r) (hc : r.closing = false) :
    Kept config (log ++ [⟨.openQueue, (r.perform Desk.openQueue).1⟩])
      (r.perform Desk.openQueue).2 := by
  unfold Relay.perform
  rw [Desk.perform_openQueue]
  cases hq : r.desk.queue with
  | none =>
    exact {
      config := h.config
      opened := by
        rw [History.opened_append, hc]
        rfl
      accepted := by simpa [Entry.accepted?, Entry.received?, Desk.requeued, hq] using h.accepted
      received := by simpa [Entry.received?, Entry.delivered?] using h.received
      idle := nofun
      tended := h.tended }
  | some waiting => exact h.refused _ _

/-- To submit a signal keeps the relay in step with its history, whether the queue takes it or not.
-/
theorem Kept.submit (h : Kept config log r) (s : Signal) :
    Kept config (log ++ [⟨.submit s, (r.perform (Desk.submit s)).1⟩])
      (r.perform (Desk.submit s)).2 := by
  unfold Relay.perform
  rw [Desk.perform_submit]
  cases hq : r.desk.queue with
  | none => exact h.refused _ _
  | some waiting =>
    dsimp only
    split
    · exact {
        config := h.config
        opened := by
          rw [History.opened_append, h.opened, hq]
          rfl
        accepted := by simp [Entry.accepted?, Entry.received?, Desk.requeued, h.accepted, hq]
        received := by simpa [Entry.received?, Entry.delivered?] using h.received
        idle := nofun
        tended := h.tended }
    · exact h.refused _ _

/-- The worker takes out what was accepted first of all that waits. -/
theorem Kept.receive (h : Kept config log r) (hi : r.inHand = none) {s : Signal}
    {rest : List Signal} (hq : r.desk.queue = some (s :: rest)) :
    Kept config (log ++ [⟨.receive s, .ok ()⟩])
      { r with desk := r.desk.requeued (some rest), inHand := some s } where
  config := h.config
  opened := by
    rw [History.opened_append, h.opened, hq]
    rfl
  accepted := by simp [Entry.accepted?, Entry.received?, Desk.requeued, h.accepted, hq]
  received := by simp [Entry.received?, Entry.delivered?, h.received, hi]
  idle := nofun
  tended := h.tended

/-- What was in hand is delivered. -/
theorem Kept.deliver (h : Kept config log r) {s : Signal} (hi : r.inHand = some s) :
    Kept config (log ++ [⟨.deliver s, .ok ()⟩])
      { r with desk := (r.desk.dispatch s).2, inHand := none } where
  config := (r.desk.config_dispatch s).trans h.config
  opened := by
    rw [History.opened_append, r.desk.queue_dispatch, h.opened]
    rfl
  accepted := by
    simpa [Entry.accepted?, Entry.received?, r.desk.queue_dispatch] using h.accepted
  received := by simp [Entry.received?, Entry.delivered?, h.received, hi]
  idle hn := ⟨rfl, (h.idle (r.desk.queue_dispatch s ▸ hn)).2⟩
  tended := tended_dispatch h.tended s

/-- From now on the queue counts as closed, though the desk still has it. -/
theorem Kept.close (h : Kept config log r) {waiting : List Signal}
    (hq : r.desk.queue = some waiting) :
    Kept config (log ++ [⟨.close, .ok ()⟩]) { r with closing := true } where
  config := h.config
  opened := by
    rw [History.opened_append, Bool.not_true, Bool.and_false]
    rfl
  accepted := by simpa [Entry.accepted?, Entry.received?] using h.accepted
  received := by simpa [Entry.received?, Entry.delivered?] using h.received
  idle hn := by
    rw [hq] at hn
    cases hn
  tended := h.tended

theorem queue_hushed (d : Desk) : d.hushed.queue = none := rfl

/-- To silence both players leaves them in order. -/
theorem tended_hushed {d : Desk} (h : d.Tended) : d.hushed.Tended :=
  have hs : d.Plays (fun _ => True) d.hushed :=
    (Relation.ReflTransGen.single .silenced).tail .stilled
  hs.tended h

/-- Once nothing waits and nothing is in hand, the queue goes. -/
theorem Kept.finish (h : Kept config log r) (hc : r.closing = true) (hi : r.inHand = none)
    (hq : r.desk.queue = some []) :
    Kept config (log ++ [⟨.finish, .ok ()⟩])
      { r with desk := r.desk.hushed, closing := false } where
  config := h.config
  opened := by
    rw [History.opened_append]
    show log.opened = _
    rw [h.opened, hc, Bool.not_true, Bool.and_false]
    rfl
  accepted := by
    have ha := h.accepted
    rw [hq] at ha
    simpa [Entry.accepted?, Entry.received?, queue_hushed] using ha
  received := by simpa [Entry.received?, Entry.delivered?] using h.received
  idle _ := ⟨hi, rfl⟩
  tended := tended_hushed h.tended

/-- Every move of the relay keeps it in step with its history. -/
theorem Kept.step (h : Kept config log r) {move : Move} {result : Except CallError Unit}
    (hs : r.step move = some (result, r')) : Kept config (log ++ [⟨move, result⟩]) r' := by
  cases move with
  | openQueue =>
    simp only [Relay.step, Option.ite_none_left_eq_some] at hs
    obtain ⟨hc, hs⟩ := hs
    cases hs
    exact h.openQueue (eq_false_of_ne_true hc)
  | submit s =>
    simp only [Relay.step, Option.some.injEq] at hs
    split at hs
    · cases hs
      exact h.refused _ _
    · cases hs
      exact h.submit s
  | receive s =>
    simp only [Relay.step] at hs
    split at hs
    · rename_i head rest hi hq
      simp only [Option.ite_none_right_eq_some] at hs
      obtain ⟨rfl, hs⟩ := hs
      cases hs
      exact h.receive hi hq
    · cases hs
  | deliver s =>
    simp only [Relay.step, Option.ite_none_right_eq_some] at hs
    obtain ⟨hi, hs⟩ := hs
    cases hs
    exact h.deliver hi
  | dispatch s =>
    simp only [Relay.step, Option.ite_none_left_eq_some] at hs
    obtain ⟨-, hs⟩ := hs
    cases hs
    exact h.aside (.dispatch s) trivial (r.desk.config_dispatch s) (r.desk.queue_dispatch s)
      (tended_dispatch h.tended s)
  | close =>
    simp only [Relay.step, Option.some.injEq] at hs
    split at hs
    · cases hs
      exact h.refused _ _
    · rename_i hc
      cases hs
      obtain ⟨waiting, hq⟩ := Option.ne_none_iff_exists'.mp (not_or.mp hc).2
      exact h.close hq
  | finish =>
    simp only [Relay.step, Option.ite_none_right_eq_some] at hs
    obtain ⟨⟨hc, hi, hq⟩, hs⟩ := hs
    cases hs
    exact h.finish hc hi hq
  | befall c =>
    cases hs
    have hp : r.desk.Plays (fun _ => True) (c.perform r.desk) :=
      r.desk.plays_after (.circumstance c)
    have ht := hp.tended h.tended
    cases c <;> exact h.aside (.befall _) trivial rfl rfl ht
  | revise registry =>
    cases hs
    exact h.aside (.revise registry) trivial rfl rfl h.tended

/-- After any moves from a fresh one, the relay is in step with its history. -/
theorem Run.kept {refuses : Nat → Service → Bool} {failures : Failures} {delay : Nat}
    (h : Run (.fresh config ⟨refuses, failures, [], delay⟩) log r) : Kept config log r := by
  induction h with
  | refl => exact kept_fresh config refuses failures delay
  | next _ _ hs ih => exact ih.step hs

/-! ## No signal is lost -/

/-- A signal is accepted if the queue is open and has room for it; else nothing changes. -/
theorem Kept.submit_eq (h : Kept config log r) (s : Signal) :
    r.step (.submit s) = some (
      if log.opened = false then (.error .notInitialized, r)
      else if log.accepted.length < log.received.length + config.queueCapacity.toNat then
        (.ok (), { r with desk := r.desk.requeued (some (r.desk.queue.getD [] ++ [s])) })
      else (.error (.resourceUnavailable "audio event queue" "queue is full"), r)) := by
  obtain ⟨desk, inHand, closing⟩ := r
  have hlength : log.accepted.length = log.received.length + (desk.queue.getD []).length := by
    rw [h.accepted, List.length_append]
  rw [Relay.step, Relay.perform, Desk.perform_submit, h.opened, h.config, hlength]
  refine congrArg some ?_
  cases closing with
  | true => simp
  | false =>
    cases hq : desk.queue with
    | none => simp
    | some waiting => by_cases hw : waiting.length < config.queueCapacity.toNat <;> simp [hw]

/-- The worker can always empty a queue that is being closed. -/
theorem Kept.empties (h : Kept config log r) (hc : r.closing = true) :
    ∃ log' r', Run r log' r' ∧ (∀ e ∈ log', e.move.ByWorker) ∧ (r'.step .finish).isSome := by
  obtain ⟨desk, inHand, closing⟩ := r
  obtain rfl : closing = true := hc
  obtain ⟨signals, hq⟩ : ∃ signals, desk.queue = some signals :=
    Option.ne_none_iff_exists'.mp fun hn => by cases (h.idle hn).2
  have hd : desk.requeued (some signals) = desk := by rw [← hq]; rfl
  have hfinish (d : Desk) :
      (Relay.step ⟨d.requeued (some []), none, true⟩ .finish).isSome = true := by
    rw [Relay.step, if_pos ⟨rfl, rfl, rfl⟩]
    rfl
  -- What is in hand has to be delivered before the worker can take out the next.
  cases inHand with
  | none =>
    have hw := run_served desk signals true
    rw [hd] at hw
    exact ⟨_, _, hw, fun e => byWorker_of_mem_served, hfinish _⟩
  | some s =>
    have hs : Relay.step ⟨desk, some s, true⟩ (.deliver s) =
        some (.ok (), ⟨(desk.dispatch s).2, none, true⟩) := if_pos rfl
    have hds : (desk.dispatch s).2.requeued (some signals) = (desk.dispatch s).2 := by
      rw [← hq, ← desk.queue_dispatch s]
      rfl
    have hw := run_served (desk.dispatch s).2 signals true
    rw [hds] at hw
    refine ⟨_, _, (Run.refl.next _ hs).trans hw, fun e he => ?_, hfinish _⟩
    rcases List.mem_append.mp he with he | he
    · rw [List.mem_singleton.mp he]
      trivial
    · exact byWorker_of_mem_served he

variable {refuses : Nat → Service → Bool} {failures : Failures} {delay : Nat}

/-- However submissions, the worker, other signals and a queue that is opened and closed meet: a
signal is accepted just when the queue is open and fewer signals than it has room for have not been
received, and a refused one changes nothing; what was accepted is delivered once each and in order;
and a queue that is being closed can always be finished, and then all was delivered and nothing
plays any more. -/
theorem queue_without_loss (h : Run (.fresh config ⟨refuses, failures, [], delay⟩) log r) :
    (∀ s, r.step (.submit s) = some (
      if log.opened = false then (.error .notInitialized, r)
      else if log.accepted.length < log.received.length + config.queueCapacity.toNat then
        (.ok (), { r with desk := r.desk.requeued (some (r.desk.queue.getD [] ++ [s])) })
      else (.error (.resourceUnavailable "audio event queue" "queue is full"), r))) ∧
    log.accepted = log.delivered ++ r.inHand.toList ++ r.desk.queue.getD [] ∧
    (r.closing = true →
      ∃ log' r', Run r log' r' ∧ (∀ e ∈ log', e.move.ByWorker) ∧ (r'.step .finish).isSome) ∧
    ∀ result r', r.step .finish = some (result, r') →
      result = .ok () ∧ log.delivered = log.accepted ∧ r'.desk.AtRest := by
  have hk := h.kept
  have haccepted : log.accepted = log.delivered ++ r.inHand.toList ++ r.desk.queue.getD [] := by
    rw [hk.accepted, hk.received]
  refine ⟨hk.submit_eq, haccepted, hk.empties, fun result r' hf => ?_⟩
  simp only [Relay.step, Option.ite_none_right_eq_some] at hf
  obtain ⟨⟨-, hi, hq⟩, hf⟩ := hf
  cases hf
  refine ⟨rfl, ?_, Playback.Sound.Tended.silenced hk.tended⟩
  rw [haccepted, hi, hq]
  simp

/-- The queue is being closed while it still holds the signal that makes the desk ring. -/
theorem queue_without_loss_ringing : ∃ log r r',
    Run (.fresh .standard (.willing 0)) log r ∧ r.step .finish = some (.ok (), r') ∧
      log.accepted = [.newIncoming] ∧ log.delivered = log.accepted ∧
      r.desk.isRinging = true ∧ r'.desk.AtRest := by
  have hopen : Run (.fresh .standard (.willing 0)) _ _ := Run.refl.next .openQueue rfl
  have hclose := (hopen.next (.submit .newIncoming) rfl).next .close rfl
  have hserved := (hclose.next (.receive .newIncoming) rfl).next (.deliver .newIncoming) rfl
  obtain ⟨-, hdelivered, hstill⟩ := (queue_without_loss hserved).2.2.2 (.ok ()) _ rfl
  exact ⟨_, _, _, hserved, rfl, rfl, hdelivered, rfl, hstill⟩

end Relay

end Switchboard
