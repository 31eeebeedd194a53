import LedgerCourier.Proofs.Nonce.Hall
import LedgerCourier.Proofs.Traffic.Clearing
import LedgerCourier.Proofs.Traffic.Narration

/-!
# The number of an attempt that follows another one

An attempt that was dropped gives its number back, and its call reserves one anew when the pause is
over. What it is given is the least number of the account that is not in use by then. So it is the
number of the attempt before unless another call was faster, or a smaller number has become free.
As long as this does not happen, all extrinsics of a call carry one number.
-/

namespace LedgerCourier

set_option autoImplicit false

theorem Deal.obtained {task : TaskId} {sequencer after : Sequencer} {answer : Option Answer}
    {before later : Standing} {recalled shown : List Observation}
    (deal : Deal task sequencer answer recalled before shown after later)
    (empty : before.number = none) {number : Nat} (filled : later.number = some number) :
    ∃ errand, before.errand = some errand ∧
      errand.Moves task sequencer answer (after, .ends (.reserved number)) := by
  cases deal with
  | rests => simp [empty] at filled
  | setsOut => simp [empty] at filled
  | attends => simp [empty] at filled
  | obtains errand other after held empty moves =>
      obtain rfl : other = number := Option.some.inj filled
      exact ⟨errand, held, moves⟩
  | misses => cases filled
  | settles => cases filled
  | stops => cases filled

theorem Disciplined.hands_out_least {sequencer after : Sequencer}
    {errands : TaskId → Option Errand} (disciplined : Disciplined sequencer errands)
    {task : TaskId} {errand : Errand} (held : errands task = some errand)
    {answer : Option Answer} {number : Nat}
    (moves : errand.Moves task sequencer answer (after, .ends (.reserved number)))
    (known : (sequencer.allocator errand.account).next ≠ none) :
    IsLeast {other | (sequencer.allocator errand.account).uses other = false} number := by
  cases moves with
  | takesKnown next number count stage purpose head begun taken =>
      exact Allocator.take_known_least (disciplined.wellFormed errand.account) begun taken
  | takesTold next number count stage told taken =>
      exact absurd (disciplined.asking task errand held stage).2.2 known

namespace Traffic

/-- Below the answer with which the count of the account began, or with one of its calls. -/
def InUse (traffic : Traffic) (account : AccountId) (first number : Nat) : Prop :=
  number < first ∨ number ∈ traffic.held account ∨ number ∈ traffic.kept account

theorem uses_iff_in_use {capacity : Nat} {acts : List Act} (fresh : IsFresh (run capacity acts))
    {account : AccountId} (known : ((run capacity acts).count account).next ≠ none) :
    ∃ first, ((run capacity acts).answers account).filter Allocator.canBegin = [first] ∧
      ∀ number, ((run capacity acts).count account).uses number = true ↔
        (run capacity acts).InUse account first number := by
  obtain ⟨first, counted⟩ := (books_balanced capacity acts fresh account).known known
  refine ⟨first, counted.answers, fun number => ?_⟩
  have used := counted.used number
  rw [books, List.mem_append] at used
  exact used

theorem Orderly.handed_out {traffic : Traffic} (orderly : Orderly traffic) {task : TaskId}
    {delivery : Delivery} (found : traffic.calls[task]? = some ⟨delivery, none⟩)
    {moment : Moment} {given : Nat}
    (handed : delivery.handedOut? task traffic.desk moment = some given) :
    ∃ errand, traffic.errands task = some errand ∧ errand.account = delivery.signer.account ∧
      errand.Moves task traffic.desk.sequencer moment.answer
        ((delivery.advance task traffic.desk moment).1.sequencer, .ends (.reserved given)) := by
  have sound := orderly.sound task delivery found
  have moves := delivery.advance_moves task traffic.desk moment
  rw [Delivery.handed_out_eq sound] at handed
  split at handed
  next empty =>
    obtain ⟨errand, held, moves⟩ := (moves.deals sound).obtained empty handed
    exact ⟨errand, (errands_of_under_way found).trans held, sound.errand_account held, moves⟩
  next => cases handed

theorem Orderly.known_after {traffic : Traffic} (orderly : Orderly traffic) {task : TaskId}
    {delivery : Delivery} (found : traffic.calls[task]? = some ⟨delivery, none⟩)
    {moment : Moment} {given : Nat}
    (handed : delivery.handedOut? task traffic.desk moment = some given) :
    ((traffic.perform (.advances task moment)).count delivery.signer.account).next ≠ none := by
  obtain ⟨errand, held, mine, moves⟩ := orderly.handed_out found handed
  obtain ⟨-, used, -⟩ := orderly.disciplined.hands_out held moves
  rw [count_advances found, ← mine]
  intro unknown
  rw [Allocator.not_uses_unknown unknown] at used
  cases used

/-- As long as nobody says that a number is stale, a count that has begun is never cleared. -/
theorem stays_known {capacity : Nat} {acts : List Act} (fresh : IsFresh (run capacity acts))
    (act : Act) {account : AccountId}
    (known : ((run capacity acts).count account).next ≠ none) :
    (((run capacity acts).perform act).count account).next ≠ none := by
  intro cleared
  obtain ⟨task, moment, delivery, error, -, -, -, -, -, record, inside, -, -, text, told, stale⟩ :=
    (run_orderly capacity acts).only_told (run_excused capacity acts) (perform_performs _ act)
      known cleared
  have outdated := (Stale.is_stale_iff text).mpr stale
  rw [fresh record inside text told] at outdated
  cases outdated

theorem next_signer (call : Call) (task : TaskId) (happening : Happening) :
    (call.next task happening).delivery.signer = call.delivery.signer := by
  obtain ⟨delivery, decided⟩ := call
  cases decided with
  | some verdict => cases happening <;> rfl
  | none =>
      cases happening with
      | turn desk moment => exact signer_after (delivery.advance_moves task desk moment)
      | arrives notice => exact (deliver_same delivery notice).2.1
      | closes => exact (close_same delivery).2.1

theorem turn_of_happening {traffic : Traffic} {task : TaskId} {act : Act} {desk : Desk}
    {moment : Moment} (happens : traffic.happening? task act = some (.turn desk moment)) :
    act = .advances task moment ∧ desk = traffic.desk := by
  cases act with
  | begins => cases happens
  | delivers other notice =>
      simp only [happening?] at happens
      split at happens <;> cases happens
  | closes other =>
      simp only [happening?] at happens
      split at happens <;> cases happens
  | advances other found =>
      simp only [happening?] at happens
      split at happens
      next same =>
        cases happens
        exact ⟨by rw [same], rfl⟩
      next => cases happens

theorem elim_signer (traffic : Traffic) (task : TaskId) (act : Act) (story : Story) :
    ((traffic.happening? task act).elim story (story.next task)).call.delivery.signer =
      story.call.delivery.signer := by
  cases traffic.happening? task act with
  | none => rfl
  | some happening =>
      simp only [Option.elim_some, Story.next_call]
      exact next_signer story.call task happening

theorem known_of_reserved (capacity : Nat) (task : TaskId) (acts : List Act) (story : Story)
    (told : story? capacity task acts = some story) (fresh : IsFresh (run capacity acts))
    (reserved : ∃ numbers ∈ story.attempts.map Attempt.reserved, numbers ≠ []) :
    ((run capacity acts).count story.call.delivery.signer.account).next ≠ none := by
  revert fresh reserved
  refine story_induction (motive := fun acts story => IsFresh (run capacity acts) →
    (∃ numbers ∈ story.attempts.map Attempt.reserved, numbers ≠ []) →
      ((run capacity acts).count story.call.delivery.signer.account).next ≠ none)
    capacity task ?_ ?_ acts story told
  · rintro acts now settings options call signer - ⟨numbers, inside, some⟩
    simp [Story.start, Story.attempts, Attempt.fresh, Attempt.reserved] at inside
    exact absurd inside some
  · intro acts act story told known later reserved
    rw [elim_signer, run_snoc]
    have fresh : IsFresh (run capacity acts) := by
      intro record inside
      rw [run_snoc] at later
      exact later record ((perform_performs _ act).journal_grows.subset inside)
    have earlier : (∃ numbers ∈ story.attempts.map Attempt.reserved, numbers ≠ []) →
        (((run capacity acts).perform act).count story.call.delivery.signer.account).next ≠ none :=
      fun reserved => stays_known fresh act (known fresh reserved)
    cases happens : (run capacity acts).happening? task act with
    | none =>
        rw [happens] at reserved
        exact earlier reserved
    | some happening =>
        rw [happens, Option.elim_some] at reserved
        obtain ⟨numbers, inside, nonempty⟩ := reserved
        -- only a turn of the call hands out a number, and then its count has begun
        rcases story.reserved_next task happening with
          ⟨desk, moment, delivery, rfl, underWay, past, present⟩ | same | more
        · obtain ⟨rfl, rfl⟩ := turn_of_happening happens
          have found : (run capacity acts).calls[task]? = some ⟨delivery, none⟩ := by
            rw [← story_call, told, Option.map_some, underWay]
          rw [Story.attempts, past, List.map_append, List.mem_append, List.map_singleton,
            List.mem_singleton, present] at inside
          cases handed : delivery.handedOut? task (run capacity acts).desk moment with
          | none =>
              rw [handed, Option.toList_none, List.append_nil] at inside
              refine earlier ⟨numbers, ?_, nonempty⟩
              simpa [Story.attempts] using inside
          | some given =>
              rw [underWay]
              exact (run_orderly capacity acts).known_after found handed
        · exact earlier ⟨numbers, same ▸ inside, nonempty⟩
        · rw [more] at inside
          rcases List.mem_append.mp inside with before | last
          · exact earlier ⟨numbers, before, nonempty⟩
          · exact absurd (List.mem_singleton.mp last) nonempty

theorem least_eq_iff {inUse : Nat → Prop} {least number : Nat}
    (isLeast : IsLeast {other | ¬inUse other} least) :
    least = number ↔ ¬inUse number ∧ ∀ other < number, inUse other := by
  constructor
  · rintro rfl
    refine ⟨isLeast.1, ?_⟩
    intro other smaller
    by_contra free
    exact absurd (isLeast.2 free) (Nat.not_le.mpr smaller)
  · rintro ⟨free, below⟩
    refine Nat.le_antisymm (isLeast.2 free) (Nat.not_lt.mp ?_)
    exact fun smaller => isLeast.1 (below least smaller)

end Traffic

namespace Attempt

def numbered (attempt : Attempt) : List (Nat × Bytes) :=
  attempt.reserved.flatMap fun number => attempt.accepted.map (number, ·)

def Follows (earlier later : Attempt) : Prop := ∀ number ∈ later.reserved, number ∈ earlier.reserved

theorem Follows.trans {first second third : Attempt} (earlier : Follows first second)
    (later : Follows second third) : Follows first third :=
  fun number inside => earlier number (later number inside)

/-- Where no attempt is given another number than the one before, all have the first one's. -/
theorem numbered_alike {attempts : List Attempt}
    (once : ∀ attempt ∈ attempts, attempt.reserved.length ≤ 1)
    (same : attempts.IsChain Follows) :
    ∃ number, ∀ entry ∈ attempts.flatMap numbered, entry.1 = number := by
  cases attempts with
  | nil => exact ⟨0, by simp⟩
  | cons first rest =>
      have : Trans Follows Follows Follows := ⟨Follows.trans⟩
      have later := (List.pairwise_cons.mp (List.isChain_iff_pairwise.mp same)).1
      have within : ∀ entry ∈ (first :: rest).flatMap numbered, entry.1 ∈ first.reserved := by
        intro entry inside
        obtain ⟨attempt, listed, under⟩ := List.mem_flatMap.mp inside
        obtain ⟨number, own, sent⟩ := List.mem_flatMap.mp under
        obtain ⟨extrinsic, -, rfl⟩ := List.mem_map.mp sent
        rcases List.mem_cons.mp listed with rfl | follows
        · exact own
        · exact later attempt follows number own
      have single := once first List.mem_cons_self
      cases reserved : first.reserved with
      | nil =>
          rw [reserved] at within
          exact ⟨0, fun entry inside => absurd (within entry inside) List.not_mem_nil⟩
      | cons number others =>
          obtain rfl : others = [] := by
            rw [reserved] at single
            exact List.eq_nil_of_length_eq_zero (by simpa using single)
          rw [reserved] at within
          exact ⟨number, fun entry inside => List.mem_singleton.mp (within entry inside)⟩

end Attempt

theorem one_of_alike {Entry : Type} {executed : List (Nat × Entry)} {mine : Nat × Entry → Bool}
    {number : Nat} (distinct : (executed.map Prod.fst).Nodup)
    (alike : ∀ entry, mine entry = true → entry.1 = number) :
    (executed.filter mine).length ≤ 1 := by
  have numbers : ((executed.filter mine).map Prod.fst).Nodup :=
    distinct.sublist (List.filter_sublist.map Prod.fst)
  have all : ∀ entry ∈ executed.filter mine, entry.1 = number :=
    fun entry inside => alike entry (List.of_mem_filter inside)
  match chosen : executed.filter mine with
  | [] => simp
  | [entry] => simp
  | first :: second :: rest =>
      rw [chosen] at numbers all
      have equal : first.1 = second.1 :=
        (all first (by simp)).trans (all second (by simp)).symm
      simp [equal] at numbers

theorem Story.Recounts.reserved_by_turn {story : Story} (recounts : story.Recounts)
    {task : TaskId} {delivery : Delivery} (underWay : story.call = ⟨delivery, none⟩)
    {desk : Desk} {moment : Moment} {number : Nat}
    (handed : delivery.handedOut? task desk moment = some number) :
    (story.next task (.turn desk moment)).present.reserved = [number] := by
  have active : delivery.IsActive := by
    intro wakeAt error stage
    simp [Delivery.handedOut?, Delivery.errand?, stage] at handed
  obtain ⟨sound, continues⟩ := recounts.disclosed.underWay (by rw [underWay])
  rw [underWay] at sound continues
  have empty : delivery.number? = none := by
    rw [Delivery.handed_out_eq sound] at handed
    split at handed
    next empty => exact empty
    next => cases handed
  rw [Story.next_turn underWay, Story.turn_active underWay active, Attempt.extend_reserved,
    continues.reserved active, empty, handed]
  rfl

namespace Traffic

/-- Which numbers a call is given that submits once more, and what the ledger can make of it. -/
structure Resubmits (traffic : Traffic) (task : TaskId) (account : AccountId) (story : Story) :
    Prop where
  given : ∀ moment previous number, story.past.getLast? = some previous →
    story.call.verdict = none →
      story.call.delivery.handedOut? task traffic.desk moment = some number →
        ∃ first ended verdict last, previous.ended = some (ended, verdict) ∧
          verdict.IsTransient ∧ previous.reserved = [last] ∧ verdict.number? = some last ∧
            (story.next task (.turn traffic.desk moment)).present.reserved = [number] ∧
              (traffic.answers account).filter Allocator.canBegin = [first] ∧
                IsLeast {other | ¬traffic.InUse account first other} number ∧
                  (number = last ↔ ¬traffic.InUse account first last ∧
                    ∀ other < last, traffic.InUse account first other)
  /-- The ledger executes every number of an account once. -/
  once : story.attempts.IsChain Attempt.Follows → ∀ executed : List (Nat × Bytes),
    (executed.map Prod.fst).Nodup →
      (executed.filter (· ∈ story.attempts.flatMap Attempt.numbered)).length ≤ 1

/-- A call that submits once more is given the least number of its account that is not in use. It
is the number of the attempt before exactly if nobody has taken that one meanwhile and no smaller
one is free. Where this is so each time, the ledger can execute one extrinsic of the call only. -/
theorem resubmission_takes_least_free (capacity : Nat) (acts : List Act) (task : TaskId)
    (story : Story) (fresh : IsFresh (run capacity acts))
    (told : story? capacity task acts = some story) :
    Resubmits (run capacity acts) task story.call.delivery.signer.account story := by
  have recounts := story_recounts capacity task acts story told
  constructor
  · intro moment previous number before underWay handed
    have running : story.call = ⟨story.call.delivery, none⟩ := by rw [← underWay]
    have found : (run capacity acts).calls[task]? = some ⟨story.call.delivery, none⟩ := by
      rw [← story_call, told, Option.map_some, ← running]
    have earlier : previous ∈ story.past := List.mem_of_getLast? before
    obtain ⟨ended, verdict, last, finished, transient, had, named⟩ :=
      recounts.reserved_of_past earlier
    have known := known_of_reserved capacity task acts story told fresh
      ⟨[last], by simp only [Story.attempts, List.map_append, List.mem_append, List.mem_map]
                  exact Or.inl ⟨previous, earlier, had⟩, by simp⟩
    obtain ⟨errand, held, mine, moves⟩ := (run_orderly capacity acts).handed_out found handed
    obtain ⟨first, answered, used⟩ := uses_iff_in_use fresh known
    have least : IsLeast {other | ¬(run capacity acts).InUse story.call.delivery.signer.account
        first other} number := by
      have free := (run_orderly capacity acts).disciplined.hands_out_least held moves
        (by rw [mine]; exact known)
      rw [mine] at free
      simpa only [← used, Bool.not_eq_true, count] using free
    have present := recounts.reserved_by_turn running handed
    exact ⟨first, ended, verdict, last, finished, transient, had, named, present, answered, least,
      least_eq_iff least⟩
  · intro same executed distinct
    obtain ⟨number, alike⟩ := Attempt.numbered_alike recounts.reserved_once same
    exact one_of_alike distinct fun entry inside => alike entry (of_decide_eq_true inside)

def readyAt (now : Nat) (answer : Option Answer) : Moment :=
  ⟨now, false, ⟨fun _ _ => .ok [], fun _ nonce _ _ => .ok [UInt8.ofNat nonce]⟩, answer, true⟩

/-- A call is dropped, and while it pauses another call is given its number. -/
def overtaken : List Act :=
  let begins (now : Nat) : Act := .begins now {} ⟨.finalized, none⟩ ⟨"lock", [], []⟩
    ⟨Bytes32.fill 1, fun _ => .ok (.sr25519 [])⟩
  [begins 0, .advances 0 (readyAt 0 none), .advances 0 (readyAt 0 none),
    .advances 0 (readyAt 0 (some (.nonce (.ok 5)))), .advances 0 (readyAt 0 none),
    .advances 0 (readyAt 0 (some (.sent (.ok ())))), .delivers 0 (.status .dropped),
    .advances 0 (readyAt 0 none), .advances 0 (readyAt 0 none), .advances 0 (readyAt 0 none),
    begins 100, .advances 1 (readyAt 100 none), .advances 1 (readyAt 100 none),
    .advances 0 (readyAt 500 none), .advances 0 (readyAt 500 none)]

theorem fresh_of_silent {traffic : Traffic}
    (silent : (traffic.journal.all fun record => record.observation.failureText?.isNone) = true) :
    IsFresh traffic := by
  intro record inside text told
  have none := List.all_eq_true.mp silent record inside
  simp [told] at none

theorem overtaken_call_resubmits :
    ∃ story, story? 1 0 overtaken = some story ∧
      story.call.delivery.handedOut? 0 (run 1 overtaken).desk (readyAt 500 none) = some 6 ∧
        Resubmits (run 1 overtaken) 0 (Bytes32.fill 1) story :=
  ⟨_, rfl, rfl, resubmission_takes_least_free 1 overtaken 0 _ (fresh_of_silent rfl) rfl⟩

/-- Nobody says that a number is stale, and both extrinsics of the call may be executed, since the
second one carries another number. -/
theorem dropped_number_goes_to_another_call :
    let acts := overtaken ++ [.advances 0 (readyAt 500 none), .advances 0 (readyAt 500 none),
      .advances 0 (readyAt 500 (some (.sent (.ok ()))))]
    IsFresh (run 1 acts) ∧ ∃ story first second ended hash,
      story? 1 0 acts = some story ∧ story.attempts = [first, second] ∧
        first.ended = some (ended, .failure (.dropped 5 hash)) ∧ first.reserved = [5] ∧
          second.reserved = [6] ∧
            (story.attempts.flatMap Attempt.numbered).map Prod.fst = [5, 6] :=
  ⟨fresh_of_silent rfl, _, _, _, _, _, rfl, rfl, rfl, rfl, rfl, rfl⟩

end Traffic

end LedgerCourier
