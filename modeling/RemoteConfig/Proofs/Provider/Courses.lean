import RemoteConfig.Proofs.Provider.Plan

/-!
# Courses of loads

What a load does from one point of its plan to another, and where it is cut
short.

* `LoadPlan.Goes` is one step of a plan, and `LoadPlan.Leads` says which steps
  lead a plan to what is left of it.  By `Leads.run` a run with the replies in
  these steps comes there, unless it is cancelled before.
* `LoadPlan.IsCut` says that a load that is cancelled somewhere has taken these
  steps.  `Leads.isCut_of_look` and `Leads.isCut_of_request` are the two ways to
  come there.
* `LoadPlan.IsPaced` says that a load looks behind each pause whether it was
  cancelled, and `Provider.isPaced_plan` that all loads do.
-/

namespace RemoteConfig

variable {σ : Type}

/-! ## Runs that are not cancelled -/

namespace LoadPlan

variable (net : Servers σ) (client : HttpClient)

/-- Only cancelled loads count how far they have come. -/
theorem run_never (plan : LoadPlan) (g : Progress) (servers : σ) :
    plan.run net client .never g servers = plan.run net client .never {} servers := by
  induction plan generalizing g servers with
  | ends located => rfl
  | attempt number next ih =>
    simp only [run, Cancellation.shows_never, Bool.false_eq_true, if_false]
    rw [ih, ih (Progress.step {})]
  | refuse f next ih =>
    simp only [run, Cancellation.shows_never, Bool.false_eq_true, if_false]
    rw [ih, ih (Progress.step {})]
  | ask request next ih =>
    simp only [run_ask rfl, Cancellation.shows_never, Cancellation.endsRequest_never,
      Bool.false_eq_true, if_false]
    exact congrArg (LoadRun.behind · _) ((ih ..).trans (ih ..).symm)
  | walked outcome next ih =>
    simp only [run]
    rw [ih, ih (Progress.step {})]
  | pause length next ih =>
    simp only [run, Cancellation.endsPause_never, Bool.false_eq_true, if_false]
    rw [ih, ih (Progress.pause {})]

theorem run_never_attempt (number : Nat) (next : LoadPlan) (servers : σ) :
    (attempt number next).run net client .never {} servers =
      (next.run net client .never {} servers).behind [.attempt number] := by
  rw [run, if_neg (by simp), run_never]

theorem run_never_refuse (f : CandidateFailure) (next : LoadPlan) (servers : σ) :
    (refuse f next).run net client .never {} servers =
      (next.run net client .never {} servers).behind [.refused f] := by
  rw [run, if_neg (by simp), run_never]

theorem run_never_ask {request : Request} {next : FetchOutcome → LoadPlan} {servers servers' : σ}
    {reply : Reply} (h : net.reply request servers = (reply, servers')) :
    (ask request next).run net client .never {} servers =
      ((next (client.outcome request reply)).run net client .never {} servers').behind
        [.asked request reply] := by
  rw [run_ask h, if_neg (by simp), if_neg (by simp), run_never]

theorem run_never_walked (outcome : WalkOutcome) (next : LoadPlan) (servers : σ) :
    (walked outcome next).run net client .never {} servers =
      (next.run net client .never {} servers).behind [.walked outcome] := by
  rw [run, run_never]

theorem run_never_pause (length : Duration) (next : LoadPlan) (servers : σ) :
    (pause length next).run net client .never {} servers =
      (next.run net client .never {} servers).behind [.paused length] := by
  rw [run, if_neg (by simp), run_never]

end LoadPlan

/-! ## Progress -/

/-- The point of a load behind a step. -/
def Progress.past (g : Progress) : LoadStep → Progress
  | .asked _ reply => (if reply = .silence then g.silence else g).step
  | .paused _ => g.pause
  | _ => g.step

theorem Progress.steps_past (g : Progress) (step : LoadStep) :
    (g.past step).steps = g.steps + 1 := by
  cases step with
  | asked request reply =>
    simp only [past]
    split <;> rfl
  | _ => rfl

theorem Progress.steps_foldl_past (g : Progress) (steps : List LoadStep) :
    (steps.foldl past g).steps = g.steps + steps.length := by
  induction steps generalizing g with
  | nil => rfl
  | cons step steps ih =>
    rw [List.foldl_cons, ih, steps_past, List.length_cons]
    omega

namespace Cancellation

/-- No cancellation is taken note of in so many steps. -/
def spares (c : Cancellation) (steps : Nat) : Bool :=
  match c with
  | never => true
  | behind n | within n => steps ≤ n
  | _ => false

variable {c : Cancellation} {g : Progress} {steps : Nat}

theorem spares_of_le {fewer : Nat} (h : c.spares steps = true) (hle : fewer ≤ steps) :
    c.spares fewer = true := by
  cases c with
  | behind n => exact decide_eq_true (Nat.le_trans hle (of_decide_eq_true h))
  | within n => exact decide_eq_true (Nat.le_trans hle (of_decide_eq_true h))
  | _ => exact h

variable (h : c.spares steps = true) (hless : g.steps < steps)

include h hless

theorem shows_of_spares : c.shows g = false := by
  cases c with
  | behind n =>
    exact decide_eq_false (Nat.not_le.2 (Nat.lt_of_lt_of_le hless (of_decide_eq_true h)))
  | atStart => cases h
  | _ => rfl

theorem ne_within_of_spares : c ≠ .within g.steps := by
  rintro rfl
  exact absurd hless (Nat.not_lt.2 (of_decide_eq_true h))

theorem endsRequest_of_spares (isSilent : Bool) : c.endsRequest g isSilent = false := by
  have hwithin := ne_within_of_spares h hless
  cases c with
  | duringSilence n => cases h
  | _ => simp_all [endsRequest]

theorem endsPause_of_spares : c.endsPause g = false := by
  have hwithin := ne_within_of_spares h hless
  cases c with
  | duringPause n => cases h
  | _ => simp_all [endsPause]

end Cancellation

/-! ## Plans under way -/

/-- The reply to the request of a step. -/
def LoadStep.reply? (step : LoadStep) : Option Reply :=
  step.exchange?.map Prod.snd

/-- Servers that give the replies of a list. -/
def Servers.replaying : Servers (List Reply) where
  reply _ replies := (replies.headD .silence, replies.tail)

namespace LoadPlan

/-- In this step, and with the reply in it, a load comes from a plan to what is
left of it. -/
inductive Goes (client : HttpClient) : LoadPlan → LoadStep → LoadPlan → Prop where
  | attempt (number : Nat) (next : LoadPlan) :
    Goes client (.attempt number next) (.attempt number) next
  | refuse (f : CandidateFailure) (next : LoadPlan) :
    Goes client (.refuse f next) (.refused f) next
  | ask (request : Request) (next : FetchOutcome → LoadPlan) (reply : Reply) :
    Goes client (.ask request next) (.asked request reply) (next (client.outcome request reply))
  | walked (outcome : WalkOutcome) (next : LoadPlan) :
    Goes client (.walked outcome next) (.walked outcome) next
  | pause (length : Duration) (next : LoadPlan) :
    Goes client (.pause length next) (.paused length) next

/-- With these steps a load comes from a plan to what is left of it. -/
inductive Leads (client : HttpClient) : LoadPlan → List LoadStep → LoadPlan → Prop where
  | refl (plan : LoadPlan) : Leads client plan [] plan
  | cons {plan mid left : LoadPlan} {step : LoadStep} {steps : List LoadStep}
      (first : Goes client plan step mid) (rest : Leads client mid steps left) :
    Leads client plan (step :: steps) left

variable {client : HttpClient} {plan mid left : LoadPlan} {step : LoadStep}
  {steps : List LoadStep} {c : Cancellation} {g : Progress}

/-- With the reply in the step a run takes it, if it is not cancelled there. -/
theorem Goes.run (h : Goes client plan step left) (hspared : c.spares (g.steps + 1) = true)
    (replies : List Reply) :
    plan.run .replaying client c g (step.reply?.toList ++ replies) =
      (left.run .replaying client c (g.past step) replies).behind [step] := by
  have hlook := Bool.eq_false_iff.1 (Cancellation.shows_of_spares hspared (Nat.lt_succ_self _))
  have hpause := Cancellation.endsPause_of_spares hspared (Nat.lt_succ_self _)
  cases h with
  | attempt number next => exact if_neg hlook
  | refuse f next => exact if_neg hlook
  | ask request next reply =>
    have hwait := Cancellation.endsRequest_of_spares hspared (Nat.lt_succ_self _)
      (reply = .silence)
    exact (run_ask rfl).trans ((if_neg hlook).trans (if_neg (Bool.eq_false_iff.1 hwait)))
  | walked outcome next => rfl
  | pause length next => exact if_neg (Bool.eq_false_iff.1 hpause)

namespace Leads

/-- A load that has come somewhere takes one more step. -/
theorem snoc (h : Leads client plan steps mid) (hlast : Goes client mid step left) :
    Leads client plan (steps ++ [step]) left := by
  induction h with
  | refl plan => exact .cons hlast (.refl left)
  | cons first _ ih => exact .cons first (ih hlast)

/-- With the replies in these steps a run comes to what is left, if it is not
cancelled before. -/
theorem run (h : Leads client plan steps left)
    (hspared : c.spares (g.steps + steps.length) = true) (replies : List Reply) :
    plan.run .replaying client c g (steps.filterMap LoadStep.reply? ++ replies) =
      (left.run .replaying client c (steps.foldl Progress.past g) replies).behind steps := by
  induction h generalizing g with
  | refl plan => rfl
  | @cons plan mid left step steps first rest ih =>
    have hlater : c.spares ((g.past step).steps + steps.length) = true := by
      rw [Progress.steps_past, Nat.add_assoc, Nat.add_comm 1]
      exact hspared
    have hfirst : c.spares (g.steps + 1) = true :=
      Cancellation.spares_of_le hspared (by rw [List.length_cons]; omega)
    have hreplies : (step :: steps).filterMap LoadStep.reply? ++ replies =
        step.reply?.toList ++ (steps.filterMap LoadStep.reply? ++ replies) := by
      rw [List.filterMap_cons]
      cases step.reply? <;> rfl
    rw [hreplies, first.run hfirst, ih hlater, LoadRun.behind_behind]
    rfl

end Leads

/-! ## Loads that are cut short -/

/-- A load that is cancelled somewhere has taken these steps. -/
def IsCut (client : HttpClient) (plan : LoadPlan) (steps : List LoadStep) : Prop :=
  ∃ c, c ≠ .atStart ∧ plan.run .replaying client c {} (steps.filterMap LoadStep.reply?) =
    ⟨.error .cancelled, steps, []⟩

/-- The load looks, and was cancelled. -/
theorem Leads.isCut_of_look (h : Leads client plan steps left)
    (hlooks : left.isCheckpoint = true) : plan.IsCut client steps := by
  refine ⟨.behind steps.length, nofun, ?_⟩
  have hrun := h.run (c := .behind steps.length) (g := {}) (by simp [Cancellation.spares]) []
  have hshows : (Cancellation.behind steps.length).shows (steps.foldl Progress.past {}) = true := by
    simp [Cancellation.shows, Progress.steps_foldl_past]
  rw [List.append_nil, run_of_shows _ _ hlooks hshows] at hrun
  rw [hrun]
  simp [LoadRun.behind, LoadRun.cancelled]

/-- The load is cancelled while it waits for an answer. -/
theorem Leads.isCut_of_request {request : Request} {next : FetchOutcome → LoadPlan}
    (h : Leads client plan steps (.ask request next)) :
    plan.IsCut client (steps ++ [.interrupted request .silence]) := by
  refine ⟨.within steps.length, nofun, ?_⟩
  have hrun := h.run (c := .within steps.length) (g := {}) (by simp [Cancellation.spares])
    [.silence]
  have hends : (Cancellation.within steps.length).endsRequest (steps.foldl Progress.past {})
      (Reply.silence = .silence) = true := by
    simp [Cancellation.endsRequest, Progress.steps_foldl_past]
  have hreply : Servers.replaying.reply request [.silence] = (.silence, []) := rfl
  rw [run_ask hreply, if_neg (by simp [Cancellation.shows]), if_pos hends] at hrun
  rw [List.filterMap_append]
  exact hrun

/-! ## Looks behind pauses -/

/-- What can come behind a walk: the end of the load, or a pause. -/
def followsWalk : LoadPlan → Bool
  | ends _ | pause .. => true
  | attempt .. | refuse .. | ask .. | walked .. => false

/-- The load ends or pauses behind each walk, and looks behind each pause whether
it was cancelled. -/
def IsPaced : LoadPlan → Prop
  | ends _ => True
  | attempt _ next | refuse _ next => next.IsPaced
  | ask _ next => ∀ outcome, (next outcome).IsPaced
  | walked _ next => next.followsWalk = true ∧ next.IsPaced
  | pause _ next => next.isCheckpoint = true ∧ next.IsPaced

theorem Goes.isPaced (h : Goes client plan step left) (hpaced : plan.IsPaced) : left.IsPaced := by
  cases h with
  | attempt number next => exact hpaced
  | refuse f next => exact hpaced
  | ask request next reply => exact hpaced _
  | walked outcome next => exact hpaced.2
  | pause length next => exact hpaced.2

theorem Leads.isPaced (h : Leads client plan steps left) (hpaced : plan.IsPaced) :
    left.IsPaced := by
  induction h with
  | refl plan => exact hpaced
  | cons first _ ih => exact ih (first.isPaced hpaced)

theorem isPaced_rowPlan (w : Walker) (base : String) (labels : List (Option String))
    {next : RowEnd → LoadPlan} (hnext : ∀ e, (next e).IsPaced) :
    (w.rowPlan base next labels).IsPaced := by
  induction labels with
  | nil => exact hnext _
  | cons label labels ih =>
    unfold Walker.rowPlan
    rcases w.prepare base label with f | ⟨uri, request⟩
    · exact hnext _
    · intro outcome
      rcases outcome with ⟨status, _ | e⟩ | _ | failure
      · exact ih
      · exact hnext _
      · exact hnext _
      · exact hnext _

theorem isPaced_rowsPlan (w : Walker) (labels : List (Option String))
    {next : WalkOutcome → LoadPlan} (hnext : ∀ outcome, (next outcome).IsPaced)
    (bases : List String) (failures : List CandidateFailure) (lastEmpty : Bool) :
    (w.rowsPlan labels next bases failures lastEmpty).IsPaced := by
  induction bases generalizing failures lastEmpty with
  | nil => exact hnext _
  | cons base bases ih =>
    refine isPaced_rowPlan w base labels fun e => ?_
    cases e with
    | found e => exact hnext _
    | notFound => exact hnext _
    | empty => exact ih ..
    | failed f => exact ih ..

/-- The induction is on the attempts that are left. -/
theorem isPaced_ofAttempts (w : Walker) (bases labels : List String) (failFast : Bool)
    {b : Backoff} (left : b.canRetry) :
    (ofAttempts (w.walkPlan bases labels) failFast b left).IsPaced := by
  induction b, left using Backoff.induction_left with
  | step b left ih =>
    rw [ofAttempts_eq]
    refine isPaced_rowsPlan w _ (fun outcome => ?_) bases [] false
    show (afterWalk _ failFast b outcome).followsWalk = true ∧
      (afterWalk _ failFast b outcome).IsPaced
    cases outcome with
    | found e => exact ⟨rfl, trivial⟩
    | noContent => exact ⟨rfl, trivial⟩
    | exhausted failures =>
      unfold afterWalk
      simp only
      split
      · rename_i more
        refine ⟨rfl, ?_, ih more⟩
        rw [ofAttempts_eq]
        rfl
      · exact ⟨rfl, trivial⟩

end LoadPlan

theorem Provider.isPaced_plan (p : Provider) : p.plan.IsPaced := by
  rw [plan_eq]
  exact LoadPlan.isPaced_ofAttempts ..

end RemoteConfig
