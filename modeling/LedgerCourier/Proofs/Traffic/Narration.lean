import LedgerCourier.Proofs.Call.Retries

/-!
# The stories of a traffic

Each call of a traffic has a story from the act with which it begins, and every later act that
means something for the call is told there. Whatever happens, the attempts before the present one
have failed in a way that allows another one, and their results tell which numbers they were given.
-/

namespace LedgerCourier

set_option autoImplicit false

namespace Story

variable {story : Story} {task : TaskId}

structure Recounts (story : Story) : Prop where
  disclosed : story.Disclosed
  pausing : story.call.verdict = none → ∀ wakeAt error,
    story.call.delivery.stage = .pausing wakeAt error → ∃ ended,
      story.present.ended = some (ended, .failure error) ∧ Verdict.IsTransient (.failure error)
  past : ∀ attempt ∈ story.past, ∃ ended verdict,
    attempt.ended = some (ended, verdict) ∧ verdict.IsTransient ∧ verdict.TellsOf attempt

theorem start_recounts (now : Nat) (settings : Settings) (options : WaitOptions)
    (call : EncodedCall) (signer : Signer) :
    (start now settings options call signer).Recounts :=
  ⟨start_disclosed now settings options call signer, by simp [start, Delivery.start],
    by simp [start]⟩

theorem paused_by_turn {delivery : Delivery} (active : delivery.IsActive) (present : Attempt)
    {desk : Desk} {moment : Moment}
    (underWay : (Call.after ⟨delivery, none⟩ (delivery.advance task desk moment).2).verdict = none)
    {wakeAt : Nat} {error : Error}
    (stage : (Call.after ⟨delivery, none⟩ (delivery.advance task desk moment).2).delivery.stage =
      .pausing wakeAt error) :
    ∃ ended, (present.extend task desk moment delivery).ended = some (ended, .failure error) ∧
      Verdict.IsTransient (.failure error) := by
  have moves := delivery.advance_moves task desk moment
  generalize known : delivery.advance task desk moment = step at moves underWay stage
  obtain ⟨after, progress⟩ := step
  cases progress with
  | waits => exact absurd stage (active wakeAt error)
  | ends verdict => cases underWay
  | goesOn next request =>
      rcases moves.leads_on active with ⟨remains, -⟩ | ⟨other, follows⟩
      · exact absurd stage (remains wakeAt error)
      · have ended := present.extend_finished (congrArg Prod.snd known)
          (follows.attempt_over active)
        have transient := follows.is_not_last.1
        cases follows with
        | pauses other retryable left scheduled early =>
            cases stage
            exact ⟨moment.now, ended, transient⟩

theorem Recounts.turn (recounts : story.Recounts) {delivery : Delivery}
    (underWay : story.call = ⟨delivery, none⟩) (desk : Desk) (moment : Moment) :
    (story.turn task desk moment delivery).Recounts := by
  have disclosed : (story.turn task desk moment delivery).Disclosed :=
    recounts.disclosed.turn underWay desk moment
  by_cases active : delivery.IsActive
  · rw [turn_active underWay active] at disclosed ⊢
    exact ⟨disclosed, fun still wakeAt error stage =>
      paused_by_turn active story.present still stage, recounts.past⟩
  · obtain ⟨wakeAt, error, stage⟩ := Delivery.pausing_of_inactive active
    have running : story.call.verdict = none := by rw [underWay]
    have paused : story.call.delivery.stage = .pausing wakeAt error := by rw [underWay, stage]
    obtain ⟨ended, finished, transient⟩ := recounts.pausing running wakeAt error paused
    rw [turn_pausing underWay stage] at disclosed ⊢
    split at disclosed
    next cancelled =>
      rw [if_pos cancelled]
      exact ⟨disclosed, by simp, recounts.past⟩
    next wanted =>
      rw [if_neg wanted]
      split at disclosed
      next awake =>
        rw [if_pos awake]
        refine ⟨disclosed, by simp, ?_⟩
        intro attempt inside
        rcases List.mem_append.mp inside with earlier | last
        · exact recounts.past attempt earlier
        · obtain rfl := List.mem_singleton.mp last
          have told := (recounts.disclosed.underWay running).2.pausing wakeAt error paused
          exact ⟨ended, _, finished, transient, told⟩
      next asleep =>
        rw [if_neg asleep]
        exact recounts

theorem Recounts.receives (recounts : story.Recounts) {delivery next : Delivery}
    (underWay : story.call = ⟨delivery, none⟩) (receives : delivery.Receives next)
    (disclosed : Disclosed ⟨⟨next, none⟩, story.past, story.present⟩) :
    Recounts ⟨⟨next, none⟩, story.past, story.present⟩ := by
  refine ⟨disclosed, ?_, recounts.past⟩
  intro _ wakeAt error stage
  refine recounts.pausing (by rw [underWay]) wakeAt error ?_
  rw [underWay]
  cases receives with
  | unmoved => exact stage
  | watches watch other watching => cases stage

theorem Recounts.next (recounts : story.Recounts) (happening : Happening) :
    (story.next task happening).Recounts := by
  have disclosed : (story.next task happening).Disclosed := recounts.disclosed.next happening
  obtain ⟨⟨delivery, decided⟩, past, present⟩ := story
  cases decided with
  | some verdict =>
      rw [next_of_over task rfl]
      exact recounts
  | none =>
      cases happening with
      | turn desk moment => exact recounts.turn rfl desk moment
      | arrives notice => exact recounts.receives rfl (delivery.deliver_receives notice) disclosed
      | closes => exact recounts.receives rfl delivery.close_receives disclosed

theorem Recounts.reserved_once (recounts : story.Recounts) :
    ∀ attempt ∈ story.attempts, attempt.reserved.length ≤ 1 := by
  have told : ∀ (verdict : Verdict Outcome) (attempt : Attempt), verdict.TellsOf attempt →
      attempt.reserved.length ≤ 1 := by
    intro verdict attempt tells
    rw [← tells.number]
    cases verdict.number? <;> simp
  intro attempt inside
  rcases List.mem_append.mp inside with earlier | last
  · obtain ⟨ended, verdict, -, -, tells⟩ := recounts.past attempt earlier
    exact told verdict attempt tells
  · obtain rfl := List.mem_singleton.mp last
    cases known : story.call.verdict with
    | some verdict => exact told verdict _ (recounts.disclosed.finished verdict known)
    | none =>
        obtain ⟨-, continues⟩ := recounts.disclosed.underWay known
        by_cases active : story.call.delivery.IsActive
        · rw [continues.reserved active]
          cases story.call.delivery.number? <;> simp
        · obtain ⟨wakeAt, error, stage⟩ := Delivery.pausing_of_inactive active
          exact told _ _ (continues.pausing wakeAt error stage)

theorem Recounts.reserved_of_past (recounts : story.Recounts) {attempt : Attempt}
    (earlier : attempt ∈ story.past) : ∃ ended verdict number,
      attempt.ended = some (ended, verdict) ∧ verdict.IsTransient ∧
        attempt.reserved = [number] ∧ verdict.number? = some number := by
  obtain ⟨ended, verdict, finished, transient, tells⟩ := recounts.past attempt earlier
  have number : verdict.number?.toList = attempt.reserved := tells.number
  cases transient with
  | dropped last hash => exact ⟨ended, _, last, finished, .dropped last hash, number.symm, rfl⟩
  | submit last cause => exact ⟨ended, _, last, finished, .submit last cause, number.symm, rfl⟩

theorem reserved_next (story : Story) (task : TaskId) (happening : Happening) :
    (∃ desk moment delivery, happening = .turn desk moment ∧ story.call = ⟨delivery, none⟩ ∧
        (story.next task happening).past = story.past ∧
          (story.next task happening).present.reserved =
            story.present.reserved ++ (delivery.handedOut? task desk moment).toList) ∨
      (story.next task happening).attempts.map Attempt.reserved =
          story.attempts.map Attempt.reserved ∨
        (story.next task happening).attempts.map Attempt.reserved =
          story.attempts.map Attempt.reserved ++ [[]] := by
  obtain ⟨⟨delivery, decided⟩, past, present⟩ := story
  cases decided with
  | some verdict =>
      rw [next_of_over task rfl]
      exact Or.inr (Or.inl rfl)
  | none =>
      cases happening with
      | arrives notice => exact Or.inr (Or.inl rfl)
      | closes => exact Or.inr (Or.inl rfl)
      | turn desk moment =>
          rw [next_turn rfl]
          by_cases active : delivery.IsActive
          · rw [turn_active rfl active]
            exact Or.inl ⟨desk, moment, delivery, rfl, rfl, rfl,
              present.extend_reserved task desk moment delivery⟩
          · obtain ⟨wakeAt, error, stage⟩ := Delivery.pausing_of_inactive active
            rw [turn_pausing rfl stage]
            split
            · exact Or.inr (Or.inl rfl)
            · split
              · refine Or.inr (Or.inr ?_)
                simp [attempts, Attempt.fresh, Attempt.reserved]
              · exact Or.inr (Or.inl rfl)

end Story

namespace Traffic

/-- The story of a call after one more act. -/
def narrate (traffic : Traffic) (task : TaskId) (story : Option Story) (act : Act) :
    Option Story :=
  match story with
  | some story => some ((traffic.happening? task act).elim story (story.next task))
  | none =>
      match act with
      | .begins now settings options call signer =>
          if task = traffic.calls.length then some (Story.start now settings options call signer)
          else none
      | _ => none

/-- The story of a call, once it has begun. -/
def story? (capacity : Nat) (task : TaskId) (acts : List Act) : Option Story :=
  (acts.foldl (fun (told : Traffic × Option Story) act =>
    (told.1.perform act, told.1.narrate task told.2 act)) (start capacity, none)).2

theorem story_snoc (capacity : Nat) (task : TaskId) (acts : List Act) (act : Act) :
    story? capacity task (acts ++ [act]) =
      (run capacity acts).narrate task (story? capacity task acts) act := by
  have beside : ∀ (traffic : Traffic) (story : Option Story),
      (acts.foldl (fun (told : Traffic × Option Story) act =>
        (told.1.perform act, told.1.narrate task told.2 act)) (traffic, story)).1 =
          acts.foldl perform traffic := by
    induction acts with
    | nil => exact fun traffic story => rfl
    | cons act acts induction => exact fun traffic story => induction _ _
  rw [story?, List.foldl_append, List.foldl_cons, List.foldl_nil, beside]
  rfl

theorem absent_after {traffic : Traffic} {task : TaskId} (absent : traffic.calls[task]? = none)
    {act : Act} (other : ∀ now settings options call signer,
      act ≠ .begins now settings options call signer) :
    (traffic.perform act).calls[task]? = none := by
  have outside : traffic.calls.length ≤ task := List.getElem?_eq_none_iff.mp absent
  have performs := traffic.perform_performs act
  generalize traffic.perform act = after at performs ⊢
  cases performs with
  | stays => exact absent
  | begins now settings options call signer => exact absurd rfl (other _ _ _ _ _)
  | advances => simp [change, outside]
  | delivers => simp [change, outside]
  | closes => simp [change, outside]

theorem story_call (capacity : Nat) (task : TaskId) (acts : List Act) :
    (story? capacity task acts).map Story.call = (run capacity acts).calls[task]? := by
  induction acts using List.reverseRecOn with
  | nil => simp [story?, run, start]
  | append_singleton acts act induction =>
      rw [story_snoc, run_snoc]
      cases earlier : story? capacity task acts with
      | some story =>
          rw [earlier] at induction
          rw [perform_call induction.symm]
          cases happens : (run capacity acts).happening? task act with
          | none => simp [narrate, happens]
          | some happening => simp [narrate, happens, Story.next_call]
      | none =>
          rw [earlier] at induction
          have absent : (run capacity acts).calls[task]? = none := induction.symm
          cases act with
          | begins now settings options call signer =>
              have outside := List.getElem?_eq_none_iff.mp absent
              simp only [narrate, perform, enter]
              split
              next same => simp [same, Story.start]
              next different =>
                have beyond : (run capacity acts).calls.length + 1 ≤ task :=
                  Nat.lt_of_le_of_ne outside (Ne.symm different)
                exact (List.getElem?_eq_none (by simpa using beyond)).symm
          | _ => exact (absent_after absent (by simp)).symm

/-- What holds where a call begins and is kept by every act holds of its story in every run. -/
theorem story_induction {motive : List Act → Story → Prop} (capacity : Nat) (task : TaskId)
    (begun : ∀ acts now settings options call signer,
      motive (acts ++ [.begins now settings options call signer])
        (Story.start now settings options call signer))
    (kept : ∀ acts act story, story? capacity task acts = some story → motive acts story →
      motive (acts ++ [act])
        (((run capacity acts).happening? task act).elim story (story.next task)))
    (acts : List Act) (story : Story) (told : story? capacity task acts = some story) :
    motive acts story := by
  induction acts using List.reverseRecOn generalizing story with
  | nil => cases told
  | append_singleton acts act induction =>
      rw [story_snoc] at told
      cases earlier : story? capacity task acts with
      | some before =>
          rw [earlier] at told
          cases told
          exact kept acts act before earlier (induction before earlier)
      | none =>
          rw [earlier] at told
          cases act with
          | begins now settings options call signer =>
              simp only [narrate] at told
              split at told
              · cases told
                exact begun acts now settings options call signer
              · cases told
          | _ => cases told

theorem story_recounts (capacity : Nat) (task : TaskId) (acts : List Act) (story : Story)
    (told : story? capacity task acts = some story) : story.Recounts := by
  refine story_induction (motive := fun _ story => story.Recounts) capacity task ?_ ?_ acts story
    told
  · exact fun _ now settings options call signer =>
      Story.start_recounts now settings options call signer
  · intro acts act story _ recounts
    cases (run capacity acts).happening? task act with
    | none => exact recounts
    | some happening => exact recounts.next happening

end Traffic

end LedgerCourier
