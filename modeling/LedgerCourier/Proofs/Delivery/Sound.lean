import LedgerCourier.Proofs.Delivery.Moves
import LedgerCourier.Proofs.Nonce.Stale

/-!
# What the stage of a delivery says

Each stage of a delivery stands for a part of the way that its present attempt has gone. Its
errand is for the account of the signer, the transaction that it watches was prepared from its
own call, and the number that an errand is about is the number of the attempt.
-/

namespace LedgerCourier

set_option autoImplicit false

namespace SignedTransaction

theorem prepare_spec {channel : Channel} {signer : Signer} {call : EncodedCall} {nonce : Nat}
    {transaction : SignedTransaction}
    (prepared : prepare channel signer call nonce = .ok transaction) :
    transaction.nonce = nonce ∧ transaction.origin = signer.account ∧
      transaction.hash = Blake2b.digest256 transaction.extrinsic := by
  unfold prepare at prepared
  split at prepared
  · cases prepared
  · split at prepared
    · cases prepared
    · split at prepared
      · cases prepared
      · cases prepared
        exact ⟨rfl, rfl, rfl⟩

/-- Built from a call and signed by a signer, under its own number. -/
def IsPrepared (transaction : SignedTransaction) (signer : Signer) (call : EncodedCall) : Prop :=
  ∃ channel, prepare channel signer call transaction.nonce = .ok transaction

theorem is_prepared {channel : Channel} {signer : Signer} {call : EncodedCall} {nonce : Nat}
    {transaction : SignedTransaction}
    (prepared : prepare channel signer call nonce = .ok transaction) :
    transaction.IsPrepared signer call :=
  ⟨channel, (prepare_spec prepared).1.symm ▸ prepared⟩

theorem IsPrepared.origin {transaction : SignedTransaction} {signer : Signer}
    {call : EncodedCall} (prepared : transaction.IsPrepared signer call) :
    transaction.origin = signer.account := by
  obtain ⟨channel, same⟩ := prepared
  exact (prepare_spec same).2.1

theorem prepare_refuses {channel : Channel} {signer : Signer} {call : EncodedCall} {nonce : Nat}
    {error : Error} (refused : prepare channel signer call nonce = .error error) :
    error.refusal? ≠ none ∧ error.nonce? = some nonce := by
  unfold prepare at refused
  split at refused
  · cases refused
    simp [Error.refusal?, Error.nonce?]
  · split at refused
    · cases refused
      simp [Error.refusal?, Error.nonce?]
    · split at refused
      · cases refused
        simp [Error.refusal?, Error.nonce?]
      · cases refused

end SignedTransaction

namespace Submission

structure Sound (submission : Submission) : Prop where
  reserving : ∀ errand, submission.stage = .reserving errand →
    errand.account = submission.signer.account ∧ errand.purpose = .reserve
  sending : ∀ transaction, submission.stage = .sending transaction →
    transaction.IsPrepared submission.signer submission.call
  undoing : ∀ nonce errand error, submission.stage = .undoing nonce errand error →
    errand.account = submission.signer.account ∧ errand.purpose = remedy error nonce ∧
      error.refusal? ≠ none ∧ error.nonce? = some nonce

theorem start_sound (call : EncodedCall) (signer : Signer) : (start call signer).Sound := by
  refine ⟨?_, by simp [start], by simp [start]⟩
  intro errand stage
  obtain rfl : Errand.start signer.account .reserve = errand := by simpa [start] using stage
  exact ⟨rfl, rfl⟩

theorem undo_sound (submission : Submission) {nonce : Nat} {error : Error}
    (refusal : error.refusal? ≠ none) (number : error.nonce? = some nonce) :
    (submission.undo nonce error).Sound := by
  refine ⟨by simp [undo], by simp [undo], ?_⟩
  intro other errand told stage
  obtain ⟨rfl, rfl, rfl⟩ : nonce = other ∧
      Errand.start submission.signer.account (remedy error nonce) = errand ∧ error = told := by
    simpa [undo] using stage
  exact ⟨rfl, rfl, refusal, number⟩

theorem Moves.same_call {task : TaskId} {desk after : Desk} {moment : Moment}
    {submission next : Submission} {request : Option Request}
    (moves : submission.Moves task desk moment (after, .goesOn next request)) :
    next.call = submission.call ∧ next.signer = submission.signer := by
  cases moves <;> exact ⟨rfl, rfl⟩

theorem Moves.sound {task : TaskId} {desk after : Desk} {moment : Moment}
    {submission next : Submission} {request : Option Request}
    (moves : submission.Moves task desk moment (after, .goesOn next request))
    (sound : submission.Sound) : next.Sound := by
  cases moves with
  | attends errand following sequencer request stage moves =>
      refine ⟨?_, by simp, by simp⟩
      intro other same
      obtain rfl : following = other := by simpa using same
      obtain ⟨account, purpose⟩ := moves.same_errand
      rw [account, purpose]
      exact sound.reserving errand stage
  | reserves => exact ⟨by simp, by simp, by simp⟩
  | signs nonce transaction stage prepared =>
      refine ⟨by simp, ?_, by simp⟩
      intro other same
      obtain rfl : transaction = other := by simpa using same
      exact SignedTransaction.is_prepared prepared
  | declines nonce error stage refused =>
      obtain ⟨refusal, number⟩ := SignedTransaction.prepare_refuses refused
      exact submission.undo_sound refusal number
  | bounces transaction cause stage answer =>
      exact submission.undo_sound (by simp [Error.refusal?]) rfl
  | undoes nonce errand following error sequencer request stage moves =>
      refine ⟨by simp, by simp, ?_⟩
      intro other own told same
      obtain ⟨rfl, rfl, rfl⟩ : nonce = other ∧ following = own ∧ error = told := by
        simpa using same
      obtain ⟨account, purpose⟩ := moves.same_errand
      rw [account, purpose]
      exact sound.undoing nonce errand error stage

end Submission

namespace Delivery

structure Sound (delivery : Delivery) : Prop where
  submitting : ∀ submission, delivery.stage = .submitting submission →
    submission.call = delivery.call ∧ submission.signer = delivery.signer ∧ submission.Sound
  watching : ∀ watch, delivery.stage = .watching watch →
    watch.transaction.IsPrepared delivery.signer delivery.call ∧ watch.depth = delivery.depth ∧
      watch.Sound
  pausing : ∀ wakeAt error, delivery.stage = .pausing wakeAt error → error.isRetryable = true

theorem resubmitted_sound {delivery : Delivery}
    (stage : delivery.stage = .submitting (Submission.start delivery.call delivery.signer)) :
    delivery.Sound := by
  refine ⟨?_, by simp [stage], by simp [stage]⟩
  intro submission same
  obtain rfl : Submission.start delivery.call delivery.signer = submission := by
    simpa [stage] using same
  exact ⟨rfl, rfl, Submission.start_sound delivery.call delivery.signer⟩

theorem start_sound (now : Nat) (settings : Settings) (options : WaitOptions)
    (call : EncodedCall) (signer : Signer) : (start now settings options call signer).Sound :=
  resubmitted_sound rfl

theorem Sound.deliver {delivery : Delivery} (sound : delivery.Sound) (notice : Notice) :
    (delivery.deliver notice).Sound := by
  unfold Delivery.deliver
  split
  next watch stage =>
    obtain ⟨prepared, depth, still⟩ := sound.watching watch stage
    refine ⟨by simp, ?_, by simp⟩
    intro other same
    obtain rfl : watch.deliver notice = other := by simpa using same
    exact ⟨prepared, depth, still.deliver notice⟩
  next => exact sound

theorem Sound.close {delivery : Delivery} (sound : delivery.Sound) : delivery.close.Sound := by
  unfold Delivery.close
  split
  next watch stage =>
    obtain ⟨prepared, depth, still⟩ := sound.watching watch stage
    refine ⟨by simp, ?_, by simp⟩
    intro other same
    obtain rfl : watch.close = other := by simpa using same
    exact ⟨prepared, depth, still.close⟩
  next => exact sound

theorem FollowsUp.sound {delivery next : Delivery} {now : Nat} {error : Error}
    {request : Option Request} (follows : delivery.FollowsUp now error (.goesOn next request)) :
    next.Sound := by
  cases follows with
  | pauses wakeAt retryable left =>
      refine ⟨by simp, by simp, ?_⟩
      intro other told stage
      obtain ⟨-, rfl⟩ : wakeAt = other ∧ error = told := by simpa using stage
      exact retryable

theorem FollowsUp.same_call {delivery next : Delivery} {now : Nat} {error : Error}
    {request : Option Request} (follows : delivery.FollowsUp now error (.goesOn next request)) :
    next.call = delivery.call ∧ next.signer = delivery.signer ∧ next.depth = delivery.depth := by
  cases follows
  exact ⟨rfl, rfl, rfl⟩

theorem Moves.same_call {task : TaskId} {desk after : Desk} {moment : Moment}
    {delivery next : Delivery} {request : Option Request}
    (moves : delivery.Moves task desk moment (after, .goesOn next request)) :
    next.call = delivery.call ∧ next.signer = delivery.signer ∧ next.depth = delivery.depth := by
  cases moves with
  | submits => exact ⟨rfl, rfl, rfl⟩
  | isAccepted => exact ⟨rfl, rfl, rfl⟩
  | isRefused submission error after progress stage undisturbed moves follows =>
      exact follows.same_call
  | watches => exact ⟨rfl, rfl, rfl⟩
  | fails watch error after progress stage undisturbed moves follows => exact follows.same_call
  | repeats => exact ⟨rfl, rfl, rfl⟩

theorem Moves.sound {task : TaskId} {desk after : Desk} {moment : Moment}
    {delivery next : Delivery} {request : Option Request}
    (moves : delivery.Moves task desk moment (after, .goesOn next request))
    (sound : delivery.Sound) : next.Sound := by
  cases moves with
  | submits submission following after request stage undisturbed moves =>
      obtain ⟨call, signer, still⟩ := sound.submitting submission stage
      obtain ⟨sameCall, sameSigner⟩ := moves.same_call
      refine ⟨?_, by simp, by simp⟩
      intro other same
      obtain rfl : following = other := by simpa using same
      exact ⟨sameCall.trans call, sameSigner.trans signer, moves.sound still⟩
  | isAccepted submission transaction after stage undisturbed moves =>
      obtain ⟨call, signer, still⟩ := sound.submitting submission stage
      refine ⟨by simp, ?_, by simp⟩
      intro other same
      obtain rfl : Watch.start transaction delivery.depth = other := by simpa using same
      refine ⟨?_, rfl, Watch.start_sound transaction delivery.depth⟩
      cases moves with
      | succeeds transaction sending answer =>
          have prepared := still.sending transaction sending
          rw [call, signer] at prepared
          exact prepared
  | isRefused submission error after progress stage undisturbed moves follows =>
      exact follows.sound
  | watches watch following after request stage undisturbed moves =>
      obtain ⟨prepared, depth, still⟩ := sound.watching watch stage
      obtain ⟨transaction, sameDepth⟩ := moves.same_transaction
      refine ⟨by simp, ?_, by simp⟩
      intro other same
      obtain rfl : following = other := by simpa using same
      exact ⟨transaction ▸ prepared, sameDepth.trans depth, moves.sound still⟩
  | fails watch error after progress stage undisturbed moves follows => exact follows.sound
  | repeats wakeAt error stage awake wanted => exact resubmitted_sound rfl

end Delivery

end LedgerCourier
