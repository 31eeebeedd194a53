import LedgerCourier.Proofs.Desk.Pursuit

/-!
# Subscriptions are held exactly as long as they are needed

The desk counts the subscriptions that are held open. A call holds one from the moment at which it
learns that its extrinsic was accepted until that attempt is over, however it ends, and none while
it waits for a number, sends, or pauses. So the count is the number of calls that are there, and a
release never meets a count of zero.
-/

namespace LedgerCourier

set_option autoImplicit false

theorem Pursues.balances {prompt : Prop} {desk after : Desk} {before later : Option Pursuit}
    {signs : List Sign} (pursues : Pursues prompt desk after before signs later)
    (held : before.isSome = true → 0 < desk.watches) :
    after.watches + before.isSome.toNat = desk.watches + later.isSome.toNat := by
  cases pursues with
  | rests watches | misses watches | follows _ _ watches => exact congrArg (· + _) watches
  | begins extrinsic watches => exact watches
  | leaves pursuit heard watches =>
      rw [watches]
      exact Nat.sub_add_cancel (held rfl)

/-- An extrinsic was accepted, and the attempt has not ended since. -/
def IsBetween (log : List Observation) : Prop :=
  ∃ front extrinsic rest,
    log = front ++ .answered (.send extrinsic) (.sent (.ok ())) :: rest ∧
      ∀ verdict, .attemptOver verdict ∉ rest

theorem is_between_snoc (log : List Observation) (observation : Observation) :
    IsBetween (log ++ [observation]) ↔
      (∃ extrinsic, observation = .answered (.send extrinsic) (.sent (.ok ()))) ∨
        IsBetween log ∧ ∀ verdict, observation ≠ .attemptOver verdict := by
  constructor
  · rintro ⟨front, extrinsic, rest, whole, unended⟩
    cases rest using List.reverseRecOn with
    | nil => exact Or.inl ⟨extrinsic, List.singleton_inj.mp (List.append_inj' whole rfl).2⟩
    | append_singleton rest last =>
        rw [← List.cons_append, ← List.append_assoc] at whole
        obtain ⟨rfl, same⟩ := List.append_inj' whole rfl
        obtain rfl := List.singleton_inj.mp same
        refine Or.inr ⟨⟨front, extrinsic, rest, rfl, ?_⟩, ?_⟩
        · exact fun verdict inside => unended verdict (List.mem_append_left _ inside)
        · exact fun verdict last => unended verdict (by simp [last])
  · rintro (⟨extrinsic, rfl⟩ | ⟨⟨front, extrinsic, rest, rfl, unended⟩, unfinished⟩)
    · exact ⟨log, extrinsic, [], rfl, by simp⟩
    · refine ⟨front, extrinsic, rest ++ [observation], by simp, ?_⟩
      intro verdict inside
      rcases List.mem_append.mp inside with earlier | last
      · exact unended verdict earlier
      · exact unfinished verdict (List.mem_singleton.mp last).symm

theorem is_between_iff (log : List Observation) :
    IsBetween log ↔ ((log.filterMap Observation.sign?).foldl Sign.next none).isSome = true := by
  induction log using List.reverseRecOn with
  | nil => simp [IsBetween]
  | append_singleton log observation induction =>
      rw [is_between_snoc, induction, List.filterMap_append, List.foldl_append]
      generalize (log.filterMap Observation.sign?).foldl Sign.next none = followed
      -- Only what gives a sign changes either side; a report leaves both as they were.
      cases observation with
      | answered request answer =>
          cases request with
          | send extrinsic =>
              cases answer with
              | sent result =>
                  cases result <;> simp [List.filterMap_cons, Observation.sign?, Sign.next]
              | nonce | position | events => simp [List.filterMap_cons, Observation.sign?]
          | nonce | position | events => simp [List.filterMap_cons, Observation.sign?]
      | took notice =>
          cases notice <;> simp [List.filterMap_cons, Observation.sign?, Sign.next]
      | attemptOver verdict => simp [Observation.sign?, Sign.next]
      | asked | arrived | refused => simp [List.filterMap_cons, Observation.sign?]

theorem count_by_place {Item : Type} (choose : Item → Bool) (items : List Item) :
    items.countP choose =
      (List.range items.length).countP fun place => items[place]?.any choose := by
  induction items using List.reverseRecOn with
  | nil => rfl
  | append_singleton items item induction =>
      rw [List.countP_append, induction, List.length_append, List.length_singleton,
        List.range_succ, List.countP_append]
      congr 1
      · apply List.countP_congr
        intro place inside
        rw [List.getElem?_append_left (List.mem_range.mp inside)]
      · simp

namespace Traffic

def followed (traffic : Traffic) : List TaskId :=
  (List.range traffic.calls.length).filter fun task => (traffic.pursued task).isSome

def holders (traffic : Traffic) : Nat := traffic.calls.countP fun call => call.pursuit?.isSome

variable {traffic after : Traffic}

theorem Told.pursued_isSome (told : traffic.Told) (task : TaskId) :
    (traffic.pursued task).isSome =
      traffic.calls[task]?.any fun call => call.pursuit?.isSome := by
  rw [told task]
  cases traffic.calls[task]? <;> rfl

theorem Told.mem_followed_iff (told : traffic.Told) (task : TaskId) :
    task ∈ traffic.followed ↔ (traffic.pursued task).isSome = true := by
  rw [followed, List.mem_filter, List.mem_range, and_iff_right_iff_imp]
  intro pursued
  rw [told.pursued_isSome] at pursued
  by_contra outside
  simp [List.getElem?_eq_none (Nat.le_of_not_lt outside)] at pursued

theorem Told.holders_eq (told : traffic.Told) : traffic.holders = traffic.followed.length := by
  rw [holders, count_by_place, followed, List.countP_eq_length_filter]
  simp only [told.pursued_isSome]

theorem holders_change {task : TaskId} {before : Call}
    (held : traffic.calls[task]? = some before) (desk : Desk) (later : Call)
    (shown : List Observation) :
    (traffic.change task desk later shown).holders + before.pursuit?.isSome.toNat =
        traffic.holders + later.pursuit?.isSome.toNat ∧
      (before.pursuit?.isSome = true → 0 < traffic.holders) := by
  obtain ⟨inside, rfl⟩ := List.getElem?_eq_some_iff.mp held
  have some_holds : traffic.calls[task].pursuit?.isSome = true → 0 < traffic.holders :=
    fun follows => List.countP_pos_iff.mpr ⟨_, List.getElem_mem inside, follows⟩
  refine ⟨?_, some_holds⟩
  rw [holders, change, List.countP_set inside, ← holders]
  cases follows : traffic.calls[task].pursuit?.isSome with
  | false => cases later.pursuit?.isSome <;> rfl
  | true =>
      have positive := some_holds follows
      cases later.pursuit?.isSome <;> simp <;> omega

theorem Pursuing.counted {prompt : Prop} (pursuing : Pursuing prompt traffic after)
    (counted : traffic.desk.watches = traffic.holders) :
    after.desk.watches = after.holders := by
  cases pursuing with
  | stays => exact counted
  | enters delivery idle => simpa [enter, holders, Call.pursuit?, idle] using counted
  | changes task before later desk shown held pursues concludes =>
      obtain ⟨moved, positive⟩ := holders_change held desk later shown
      have balance := pursues.balances fun follows => counted ▸ positive follows
      have same : (traffic.change task desk later shown).desk.watches = desk.watches := rfl
      omega

theorem Pursuing.turns {prompt : Prop} (pursuing : Pursuing prompt traffic after)
    (told : traffic.Told) (counted : traffic.desk.watches = traffic.holders) (task : TaskId)
    (differs : (after.pursued task).isSome ≠ (traffic.pursued task).isSome) :
    after.desk.watches + (traffic.pursued task).isSome.toNat =
      traffic.desk.watches + (after.pursued task).isSome.toNat := by
  cases pursuing with
  | stays => exact absurd rfl differs
  | enters => exact absurd rfl differs
  | changes other before later desk shown held pursues concludes =>
      rw [pursued_change] at differs ⊢
      split at differs
      next same =>
        subst same
        rw [told, held] at differs ⊢
        rw [if_pos rfl]
        show desk.watches + before.pursuit?.isSome.toNat = _
        rw [pursues.balances fun follows =>
          counted ▸ (holders_change held desk later shown).2 follows]
        exact congrArg (fun pursuit => traffic.desk.watches + (Option.isSome pursuit).toNat)
          pursues.leads.symm
      next => exact absurd rfl differs

/-- What the count of subscriptions says. -/
structure Counts (traffic : Traffic) : Prop where
  exact : traffic.desk.watches = traffic.followed.length
  between : ∀ task, task ∈ traffic.followed ↔ IsBetween (traffic.log task)
  watching : ∀ task : TaskId, task ∈ traffic.followed ↔
    ∃ delivery watch, traffic.calls[task]? = some ⟨delivery, none⟩ ∧
      delivery.stage = .watching watch
  acquired : ∀ act task, task ∉ traffic.followed → task ∈ (traffic.perform act).followed →
    (traffic.perform act).desk.watches = traffic.desk.watches + 1
  /-- A release takes one off a count that is not zero. -/
  released : ∀ act task, task ∈ traffic.followed → task ∉ (traffic.perform act).followed →
    (traffic.perform act).desk.watches + 1 = traffic.desk.watches
  idle : (∀ call ∈ traffic.calls, call.verdict ≠ none) → traffic.desk.watches = 0

theorem pursuit_isSome_iff (call : Call) :
    call.pursuit?.isSome = true ↔
      ∃ delivery watch, call = ⟨delivery, none⟩ ∧ delivery.stage = .watching watch := by
  obtain ⟨delivery, verdict⟩ := call
  cases verdict with
  | some verdict => simp [Call.pursuit?]
  | none =>
      cases stage : delivery.stage <;> simp [Call.pursuit?, Delivery.pursuit?, stage]

theorem Told.watching_iff (told : traffic.Told) (task : TaskId) :
    (traffic.pursued task).isSome = true ↔
      ∃ delivery watch, traffic.calls[task]? = some ⟨delivery, none⟩ ∧
        delivery.stage = .watching watch := by
  rw [told task]
  cases found : traffic.calls[task]? with
  | none => simp
  | some call => simp [pursuit_isSome_iff]

theorem run_counted (capacity : Nat) (acts : List Act) :
    (run capacity acts).Told ∧ (run capacity acts).desk.watches = (run capacity acts).holders :=
  pursuing_induction (motive := fun traffic => traffic.desk.watches = traffic.holders) capacity rfl
    (fun _ _ _ _ counted pursuing => pursuing.counted counted) acts

/-- However calls are interleaved and however they end, the count of subscriptions is the number
of the calls that are between an accepted extrinsic and the end of that attempt. -/
theorem subscriptions_are_counted (capacity : Nat) (acts : List Act) :
    Counts (run capacity acts) := by
  obtain ⟨told, counted⟩ := run_counted capacity acts
  have mem_after : ∀ act task, task ∈ ((run capacity acts).perform act).followed ↔
      (((run capacity acts).perform act).pursued task).isSome = true := by
    intro act task
    rw [← run_snoc]
    exact (run_counted capacity (acts ++ [act])).1.mem_followed_iff task
  have turns := fun act =>
    (((run capacity acts).perform_performs act).pursuing (run_orderly capacity acts)).turns told
      counted
  constructor
  · rw [counted, told.holders_eq]
  · intro task
    rw [told.mem_followed_iff, is_between_iff]
    rfl
  · intro task
    rw [told.mem_followed_iff, told.watching_iff]
  · intro act task outside inside
    rw [told.mem_followed_iff, Bool.not_eq_true] at outside
    rw [mem_after] at inside
    simpa [outside, inside] using turns act task (by simp [outside, inside])
  · intro act task inside outside
    rw [told.mem_followed_iff] at inside
    rw [mem_after, Bool.not_eq_true] at outside
    simpa [outside, inside] using turns act task (by simp [outside, inside])
  · intro all_over
    rw [counted, holders, List.countP_eq_zero]
    intro call inside
    obtain ⟨verdict, decided⟩ := Option.ne_none_iff_exists'.mp (all_over call inside)
    simp [Call.pursuit?, decided]

/-- Two calls whose extrinsics are accepted, and a third one that pauses after a refusal. -/
def watchedCalls : List Act :=
  let begins (account : UInt8) : Act := .begins 0 {} ⟨.finalized, none⟩ ⟨"lock", [], []⟩
    ⟨Bytes32.fill account, fun _ => .ok (.sr25519 [])⟩
  let finds (task : TaskId) (answer : Option Answer) : Act :=
    .advances task ⟨0, false, ⟨fun _ _ => .ok [], fun _ _ _ _ => .ok []⟩, answer, true⟩
  let sends (task : TaskId) (result : Except Failure Unit) : List Act :=
    [finds task none, finds task none, finds task (some (.nonce (.ok 5))), finds task none,
      finds task (some (.sent result))]
  [begins 1, begins 2, begins 3] ++ sends 0 (.ok ()) ++ sends 1 (.ok ()) ++
    sends 2 (.error (.request "connection reset")) ++ [finds 2 none, finds 2 none]

/-- The call that gets no more reports ceases to be counted. -/
theorem watched_calls_are_counted :
    let traffic := run 1 watchedCalls
    let acts := watchedCalls ++ [.closes 0, .advances 0 ⟨0, false,
      ⟨fun _ _ => .ok [], fun _ _ _ _ => .ok []⟩, none, true⟩]
    traffic.desk.watches = 2 ∧ traffic.followed = [0, 1] ∧
      (run 1 acts).desk.watches = 1 ∧ (run 1 acts).followed = [1] ∧ Counts (run 1 acts) := by
  intro traffic acts
  exact ⟨rfl, rfl, rfl, rfl, subscriptions_are_counted 1 acts⟩

end Traffic

end LedgerCourier
