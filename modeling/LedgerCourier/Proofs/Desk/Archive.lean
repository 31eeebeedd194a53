import LedgerCourier.Proofs.Desk.Register

/-!
# The history agrees with the trackers

Two accounts are kept of the same reports: each watch has a tracker of its own, and all calls share
one history that is kept by hash. As long as the history has room they agree at every moment. The
history holds of each transaction what the trackers of all its submissions have accepted, and a
successful outcome what the tracker of the last submission has accepted.
-/

namespace LedgerCourier

set_option autoImplicit false

namespace Register

variable {register : Register} {task : TaskId} {own : Submitted} {tracker : Tracker}
  {pursuit : Pursuit}

/-- The latest submission of a call is the transaction that the call follows. -/
def Follows (register : Register) (task : TaskId) (pursuit : Pursuit) : Prop :=
  ∃ own, register.present task = some (own, pursuit.tracker) ∧ own.hash = pursuit.hash

def noteAll (task : TaskId) (register : Register) (signs : List Sign) : Register :=
  signs.foldl (note task) register

theorem note_all_elsewhere {other : TaskId} (different : other ≠ task) (register : Register)
    (signs : List Sign) : (register.noteAll task signs).present other = register.present other := by
  induction signs generalizing register with
  | nil => rfl
  | cons sign signs induction =>
      refine (induction (register.note task sign)).trans ?_
      cases sign with
      | accepted extrinsic => simp [note, submit, different]
      | report status =>
          have hears := register.hear_hears task status
          rw [note]
          generalize register.hear task status = after at hears
          cases hears <;> simp [different]
      | ended => rfl

theorem Sound.note_all (sound : register.Sound) (task : TaskId) (signs : List Sign) :
    (register.noteAll task signs).Sound := by
  induction signs generalizing register with
  | nil => exact sound
  | cons sign signs induction => exact induction (sound.note task sign)

theorem records_grow (register : Register) (task : TaskId) (signs : List Sign) :
    register.records <+: (register.noteAll task signs).records := by
  induction signs generalizing register with
  | nil => exact List.prefix_refl _
  | cons sign signs induction =>
      refine List.IsPrefix.trans ?_ (induction (register.note task sign))
      cases sign with
      | accepted extrinsic => exact List.prefix_refl _
      | report status =>
          have hears := register.hear_hears task status
          rw [note]
          generalize register.hear task status = after at hears
          cases hears <;> simp [records]
      | ended => exact List.prefix_refl _

/-- A report that a call hears is judged by the same tracker in the register, and is noted if the
history keeps it. -/
theorem Follows.hears (follows : register.Follows task pursuit) (heard : Option Status)
    (history : History) :
    (register.noteAll task (heard.map .report).toList).Follows task (pursuit.hear heard) ∧
      history.recordAll (register.noteAll task (heard.map .report).toList).records =
        pursuit.archive (history.recordAll register.records) heard := by
  cases heard with
  | none => exact ⟨follows, rfl⟩
  | some status =>
      obtain ⟨own, present, hash⟩ := follows
      have hears := register.hear_hears task status
      have same : register.noteAll task [.report status] = register.hear task status := rfl
      rw [Option.map_some, Option.toList_some, same]
      generalize register.hear task status = after at hears
      cases hears with
      | astray absent => cases absent.symm.trans present
      | ignored other tracker found applied =>
          obtain ⟨rfl, rfl⟩ := Prod.mk.inj (Option.some.inj (found.symm.trans present))
          refine ⟨⟨other, ?_, hash⟩, ?_⟩
          · simp [Pursuit.hear, Tracker.feed, applied, present]
          · simp [Pursuit.archive, applied]
      | accepted other tracker answer found applied told =>
          obtain ⟨rfl, rfl⟩ := Prod.mk.inj (Option.some.inj (found.symm.trans present))
          refine ⟨⟨other, ?_, hash⟩, ?_⟩
          · simp [Pursuit.hear, Tracker.feed, applied]
          · simp [Pursuit.archive, applied, told, records, History.record_all_snoc, hash]

theorem Sound.statuses (sound : register.Sound) (present : register.IsPresent task own tracker)
    (only : ∀ other ∈ register.submissions, other.hash = own.hash → other.task = task) :
    History.statusesOf own.hash register.records =
      register.acceptedElsewhere own ++ register.acceptedOf own := by
  have merged : History.statusesOf own.hash register.records =
      (register.entries.filter fun entry => entry.submission.hash = own.hash).map
        Entry.status := by
    simp [History.statusesOf, records, List.filter_map, Function.comp_def]
  have one_call : ∀ entry ∈ register.entries,
      entry.submission.hash = own.hash → entry.submission.task = task :=
    fun entry inside => only entry.submission (sound.known entry inside)
  have mine : (register.entries.filter fun entry => entry.submission.hash = own.hash) =
      (register.entries.filter fun entry => entry.submission.task = task).filter
        fun entry => entry.submission.hash = own.hash := by
    rw [List.filter_filter]
    exact List.filter_congr fun entry inside => by grind
  have earlier : ((register.entries.filter fun entry =>
        entry.submission.task = task ∧ entry.submission ≠ own).filter
          fun entry => entry.submission.hash = own.hash) =
      register.entries.filter fun entry =>
        entry.submission.hash = own.hash ∧ entry.submission ≠ own := by
    rw [List.filter_filter]
    exact List.filter_congr fun entry inside => by grind
  have latest : ((register.entries.filter fun entry => entry.submission = own).filter
        fun entry => entry.submission.hash = own.hash) =
      register.entries.filter fun entry => entry.submission = own := by
    rw [List.filter_filter]
    exact List.filter_congr fun entry _ => by grind
  rw [merged, mine, present.last, List.filter_append, earlier, latest, List.map_append]
  rfl

theorem Sound.nothing_elsewhere (sound : register.Sound) (submitted : own ∈ register.submissions)
    (single : (register.submissions.countP fun other => other.hash = own.hash) = 1) :
    (∀ other ∈ register.submissions, other.hash = own.hash → other = own) ∧
      register.acceptedElsewhere own = [] := by
  rw [List.countP_eq_length_filter] at single
  obtain ⟨only, filtered⟩ := List.length_eq_one_iff.mp single
  have is_only : ∀ other ∈ register.submissions, other.hash = own.hash → other = only := by
    intro other inside same
    have chosen : other ∈ [only] := by
      rw [← filtered]
      exact List.mem_filter.mpr ⟨inside, decide_eq_true same⟩
    exact List.mem_singleton.mp chosen
  have alone : ∀ other ∈ register.submissions, other.hash = own.hash → other = own :=
    fun other inside same => (is_only other inside same).trans (is_only own submitted rfl).symm
  refine ⟨alone, List.map_eq_nil_iff.mpr (List.filter_eq_nil_iff.mpr ?_)⟩
  intro entry inside
  have same := alone entry.submission (sound.known entry inside)
  simpa using same

end Register

theorem Pursues.registers {prompt : Prop} (immediate : prompt) {desk after : Desk}
    {before later : Option Pursuit} {signs : List Sign}
    (pursues : Pursues prompt desk after before signs later) {task : TaskId} {register : Register}
    {capacity : Nat}
    (kept : desk.history = (History.withCapacity capacity).recordAll register.records)
    (follows : ∀ pursuit, before = some pursuit → register.Follows task pursuit) :
    after.history =
        (History.withCapacity capacity).recordAll (register.noteAll task signs).records ∧
      ∀ pursuit, later = some pursuit → (register.noteAll task signs).Follows task pursuit := by
  cases pursues with
  | rests watches history | misses watches history =>
      exact ⟨history.trans kept, by simp⟩
  | begins extrinsic watches history =>
      refine ⟨history.trans kept, ?_⟩
      rintro pursuit ⟨⟩
      exact ⟨register.coming task extrinsic, by simp [Register.noteAll, Register.note,
        Register.submit, Pursuit.start], rfl⟩
  | follows pursuit heard watches history =>
      obtain ⟨following, archived⟩ :=
        (follows pursuit rfl).hears heard (History.withCapacity capacity)
      refine ⟨by rw [archived, history immediate, kept], ?_⟩
      rintro _ ⟨⟩
      exact following
  | leaves pursuit heard watches history =>
      obtain ⟨-, archived⟩ := (follows pursuit rfl).hears heard (History.withCapacity capacity)
      have unchanged : register.noteAll task ((heard.map .report).toList ++ [.ended]) =
          register.noteAll task (heard.map .report).toList := by
        simp [Register.noteAll, Register.note]
      rw [unchanged]
      exact ⟨by rw [archived, history immediate, kept], by simp⟩

namespace Traffic

def register (traffic : Traffic) : Register :=
  traffic.journal.foldl
    (fun register record => register.noteAll record.task record.observation.sign?.toList)
    Register.blank

theorem register_change (traffic : Traffic) (task : TaskId) (desk : Desk) (call : Call)
    (shown : List Observation) :
    (traffic.change task desk call shown).register =
      traffic.register.noteAll task (shown.filterMap Observation.sign?) := by
  rw [register, change, List.foldl_append]
  change (shown.map _).foldl _ traffic.register = _
  generalize traffic.register = before
  induction shown generalizing before with
  | nil => rfl
  | cons observation shown induction =>
      rw [List.map_cons, List.foldl_cons, induction, List.filterMap_cons]
      cases observation.sign? <;> rfl

/-- The history is what the register says, and so are the trackers and the outcomes. -/
structure Archived (capacity : Nat) (traffic : Traffic) : Prop where
  sound : traffic.register.Sound
  kept : traffic.desk.history =
    (History.withCapacity capacity).recordAll traffic.register.records
  follows : ∀ (task : TaskId) pursuit,
    traffic.calls[task]?.bind Call.pursuit? = some pursuit → traffic.register.Follows task pursuit
  succeeded : ∀ (task : TaskId) delivery outcome,
    traffic.calls[task]? = some ⟨delivery, some (.success outcome)⟩ →
      ∃ own tracker, traffic.register.present task = some (own, tracker) ∧
        own.hash = outcome.hash ∧ tracker.history = outcome.history ∧ tracker.current ≠ none

theorem Pursuing.archived {prompt : Prop} (immediate : prompt) {capacity : Nat}
    {traffic after : Traffic} (pursuing : Pursuing prompt traffic after)
    (archived : traffic.Archived capacity) : after.Archived capacity := by
  cases pursuing with
  | stays => exact archived
  | enters delivery idle =>
      refine ⟨archived.sound, archived.kept, ?_, ?_⟩
      · intro task pursuit found
        obtain ⟨call, entered, followed⟩ := Option.bind_eq_some_iff.mp found
        rcases enter_call entered with earlier | begun
        · exact archived.follows task pursuit
            (Option.bind_eq_some_iff.mpr ⟨call, earlier, followed⟩)
        · rw [begun, Call.pursuit?, idle] at followed
          cases followed
      · intro task delivery outcome found
        rcases enter_call found with earlier | begun
        · exact archived.succeeded task delivery outcome earlier
        · cases begun
  | changes task before later desk shown held pursues concludes =>
      have own_follows : ∀ pursuit, before.pursuit? = some pursuit →
          traffic.register.Follows task pursuit :=
        fun pursuit found => archived.follows task pursuit (by rw [held]; exact found)
      obtain ⟨kept, follows⟩ := pursues.registers immediate archived.kept own_follows
      constructor
      · rw [register_change]
        exact archived.sound.note_all task _
      · rw [register_change]
        exact kept
      · intro other pursuit found
        rw [register_change]
        rw [calls_change held] at found
        split at found
        next same =>
          subst same
          exact follows pursuit found
        next different =>
          obtain ⟨own, present, hash⟩ := archived.follows other pursuit found
          exact ⟨own, (Register.note_all_elsewhere (Ne.symm different) _ _).trans present, hash⟩
      · intro other delivery outcome found
        rw [register_change]
        rw [calls_change held] at found
        split at found
        next same =>
          subst same
          obtain rfl := Option.some.inj found
          obtain ⟨pursuit, followed, signs, hash, history, current⟩ := concludes outcome rfl
          obtain ⟨own, present, named⟩ := own_follows pursuit followed
          -- Success hears nothing, so the tracker is still the one that was followed.
          rw [signs]
          exact ⟨own, pursuit.tracker, present, named.trans hash.symm, history.symm, current⟩
        next different =>
          rw [Register.note_all_elsewhere (Ne.symm different)]
          exact archived.succeeded other delivery outcome found

theorem Performs.prompt {traffic after : Traffic} {act : Act}
    (performs : Performs traffic act after) (immediate : act.IsImmediate)
    (prompt : traffic.Prompt) : after.Prompt := by
  have kept : ∀ {task : TaskId} {before later : Call} {desk : Desk} {shown : List Observation},
      traffic.calls[task]? = some before →
        (∀ delivery, later = ⟨delivery, none⟩ → delivery.recalled = []) →
          (traffic.change task desk later shown).Prompt := by
    intro task before later desk shown held nothing other delivery found
    rw [calls_change held] at found
    split at found
    · exact nothing delivery (Option.some.inj found)
    · exact prompt other delivery found
  cases performs with
  | stays => exact prompt
  | begins now settings options call signer =>
      intro task delivery found
      rcases enter_call found with earlier | begun
      · exact prompt task delivery earlier
      · cases begun
        rfl
  | advances task moment delivery held desk progress moves =>
      refine kept held fun next same => ?_
      cases progress with
      | waits =>
          cases same
          exact prompt task delivery held
      | goesOn following request =>
          cases same
          rcases moves.recalls with nothing | ⟨unfree, -⟩
          · exact nothing
          · simp [Watch.canRecord, show moment.historyFree = true from immediate] at unfree
      | ends verdict => cases same
  | delivers task notice delivery held =>
      refine kept held fun next same => ?_
      cases same
      exact (deliver_same delivery notice).2.2.trans (prompt task delivery held)
  | closes task delivery held =>
      refine kept held fun next same => ?_
      cases same
      exact (close_same delivery).2.2.trans (prompt task delivery held)

theorem run_archived (capacity : Nat) (acts : List Act)
    (immediate : ∀ act ∈ acts, act.IsImmediate) : (run capacity acts).Archived capacity := by
  have both : Orderly (run capacity acts) ∧ (run capacity acts).Prompt ∧
      (run capacity acts).Archived capacity := by
    apply run_induction_of Act.IsImmediate (motive := fun traffic =>
      Orderly traffic ∧ traffic.Prompt ∧ traffic.Archived capacity) capacity ?_ ?_ acts immediate
    · exact ⟨start_orderly capacity, by simp [Prompt, start],
        Register.blank_sound, rfl, by simp [start], by simp [start]⟩
    · rintro traffic act after free ⟨orderly, prompt, archived⟩ performs
      exact ⟨performs.orderly orderly, performs.prompt free prompt,
        (performs.pursuing orderly).archived ⟨prompt, free⟩ archived⟩
  exact both.2.2

theorem Archived.watching {capacity : Nat} {traffic : Traffic}
    (archived : traffic.Archived capacity) {task : TaskId} {delivery : Delivery} {watch : Watch}
    (held : traffic.calls[task]? = some ⟨delivery, none⟩)
    (stage : delivery.stage = .watching watch) :
    ∃ own, traffic.register.IsPresent task own watch.tracker ∧
      own.hash = watch.transaction.hash := by
  obtain ⟨own, present, hash⟩ := archived.follows task watch.pursuit
    (by simp [held, Call.pursuit?, Delivery.pursuit?, stage])
  exact ⟨own, archived.sound.present task own watch.tracker present, hash⟩

theorem Pursuing.records_grow {prompt : Prop} {traffic after : Traffic}
    (pursuing : Pursuing prompt traffic after) :
    traffic.register.records <+: after.register.records := by
  cases pursuing with
  | stays | enters => exact List.prefix_refl _
  | changes task before later desk shown held pursues concludes =>
      rw [register_change]
      exact traffic.register.records_grow task _

theorem Archived.outcome {capacity : Nat} {traffic : Traffic}
    (archived : traffic.Archived capacity) {task : TaskId} {delivery : Delivery}
    {outcome : Outcome}
    (finished : traffic.calls[task]? = some ⟨delivery, some (.success outcome)⟩) :
    ∃ own tracker, traffic.register.IsPresent task own tracker ∧ own.hash = outcome.hash ∧
      tracker.history = outcome.history ∧ outcome.history ≠ [] := by
  obtain ⟨own, tracker, found, hash, history, current⟩ :=
    archived.succeeded task delivery outcome finished
  have present := archived.sound.present task own tracker found
  obtain ⟨reports, rfl⟩ := present.fed
  refine ⟨own, _, present, hash, history, fun empty => current ?_⟩
  rw [Tracker.current_is_last, history, empty]
  rfl

/-- The stored history, the trackers and the outcomes tell the same. -/
structure Agrees (traffic : Traffic) : Prop where
  stored : ∀ hash, traffic.desk.history.get? (History.key hash) =
    History.found? (History.statusesOf hash traffic.register.records)
  /-- What is held is never taken back. -/
  grows : ∀ act hash, History.statusesOf hash traffic.register.records <+:
    History.statusesOf hash (traffic.perform act).register.records
  watching : ∀ (task : TaskId) delivery watch, traffic.calls[task]? = some ⟨delivery, none⟩ →
    delivery.stage = .watching watch → ∃ own, traffic.register.latest? task = some own ∧
      own.hash = watch.transaction.hash ∧
        traffic.register.acceptedOf own = watch.tracker.history
  succeeded : ∀ (task : TaskId) delivery outcome,
    traffic.calls[task]? = some ⟨delivery, some (.success outcome)⟩ →
      ∃ own, traffic.register.latest? task = some own ∧ own.hash = outcome.hash ∧
        traffic.register.acceptedOf own = outcome.history ∧
          ((∀ other ∈ traffic.register.submissions,
              other.hash = outcome.hash → other.task = task) →
            traffic.desk.history.get? (History.key outcome.hash) =
              some (traffic.register.acceptedElsewhere own ++ outcome.history))
  sole : ∀ (task : TaskId) delivery outcome,
    traffic.calls[task]? = some ⟨delivery, some (.success outcome)⟩ →
      (traffic.register.submissions.countP fun other => other.hash = outcome.hash) = 1 →
        traffic.desk.history.get? (History.key outcome.hash) = some outcome.history

/-- If all submissions of a transaction are of one call, what is held of it ends with what the
tracker of the latest accepted. -/
theorem held_of_latest {traffic : Traffic} (sound : traffic.register.Sound)
    (stored : ∀ hash, traffic.desk.history.get? (History.key hash) =
      History.found? (History.statusesOf hash traffic.register.records))
    {task : TaskId} {own : Submitted} {tracker : Tracker}
    (present : traffic.register.IsPresent task own tracker) (told : tracker.history ≠ [])
    (only : ∀ other ∈ traffic.register.submissions, other.hash = own.hash → other.task = task) :
    traffic.desk.history.get? (History.key own.hash) =
      some (traffic.register.acceptedElsewhere own ++ tracker.history) := by
  rw [stored, sound.statuses present only, present.accepted]
  exact History.found_of_ne_nil (by simp [told])

/-- However calls are interleaved, as long as the history is never waited for and has room for all
transactions that are recorded, it agrees with the trackers and with the outcomes. -/
theorem history_agrees_with_trackers (capacity : Nat) (acts : List Act)
    (immediate : ∀ act ∈ acts, act.IsImmediate)
    (enough : (History.recorded (run capacity acts).register.records).card ≤ capacity) :
    Agrees (run capacity acts) := by
  have archived := run_archived capacity acts immediate
  have stored : ∀ hash, (run capacity acts).desk.history.get? (History.key hash) =
      History.found? (History.statusesOf hash (run capacity acts).register.records) := by
    rw [archived.kept]
    exact (History.record_all_holds capacity _ enough).statuses
  constructor
  · exact stored
  · intro act hash
    have pursuing :=
      ((run capacity acts).perform_performs act).pursuing (run_orderly capacity acts)
    exact (pursuing.records_grow.filter _).map _
  · intro task delivery watch held stage
    obtain ⟨own, present, hash⟩ := archived.watching held stage
    exact ⟨own, present.latest, hash, present.accepted⟩
  · intro task delivery outcome finished
    obtain ⟨own, tracker, present, hash, history, told⟩ := archived.outcome finished
    refine ⟨own, present.latest, hash, present.accepted.trans history, fun only => ?_⟩
    rw [← hash] at only ⊢
    rw [← history] at told ⊢
    exact held_of_latest archived.sound stored present told only
  · intro task delivery outcome finished single
    obtain ⟨own, tracker, present, hash, history, told⟩ := archived.outcome finished
    obtain ⟨submitted, mine⟩ := Register.latest_task present.latest
    rw [← hash] at single ⊢
    rw [← history] at told ⊢
    obtain ⟨alone, nothing⟩ := archived.sound.nothing_elsewhere submitted single
    have whole := held_of_latest archived.sound stored present told fun other inside same =>
      (congrArg Submitted.task (alone other inside same)).trans mine
    rwa [nothing, List.nil_append] at whole

/-- A call whose transaction is dropped, submitted once more under the same hash, and final. -/
def resubmittedCall : List Act :=
  let signer : Signer := ⟨Bytes32.fill 1, fun _ => .ok (.sr25519 [])⟩
  let finds (now : Nat) (answer : Option Answer) : Act :=
    .advances 0 ⟨now, false, ⟨fun _ _ => .ok [], fun _ _ _ _ => .ok []⟩, answer, true⟩
  [.begins 0 {} ⟨.finalized, none⟩ ⟨"lock", [], []⟩ signer, finds 0 none, finds 0 none,
    finds 0 (some (.nonce (.ok 5))), finds 0 none, finds 0 (some (.sent (.ok ()))),
    .delivers 0 (.status .dropped), finds 0 none, finds 0 none, finds 0 none, finds 500 none,
    finds 500 none, finds 500 none, finds 500 none, finds 500 (some (.sent (.ok ()))),
    .delivers 0 (.status (.finalized (Bytes32.fill 2))), finds 500 none, finds 500 none,
    finds 500 (some (.position (.ok none)))]

theorem resubmitted_call_agrees :
    ∃ delivery outcome,
      (run 1 resubmittedCall).calls[0]? = some ⟨delivery, some (.success outcome)⟩ ∧
        (run 1 resubmittedCall).register.records =
          [(outcome.hash, .dropped), (outcome.hash, .finalized (Bytes32.fill 2))] ∧
        outcome.history = [.finalized (Bytes32.fill 2)] ∧
        (∀ act ∈ resubmittedCall, act.IsImmediate) ∧
        (History.recorded (run 1 resubmittedCall).register.records).card ≤ 1 ∧
        Agrees (run 1 resubmittedCall) := by
  have records : (run 1 resubmittedCall).register.records =
      [(Blake2b.digest256 [], .dropped),
        (Blake2b.digest256 [], .finalized (Bytes32.fill 2))] := rfl
  have enough : (History.recorded (run 1 resubmittedCall).register.records).card ≤ 1 := by
    rw [records]
    simp [History.recorded]
  have immediate : ∀ act ∈ resubmittedCall, act.IsImmediate := by
    simp [resubmittedCall, Act.IsImmediate]
  exact ⟨_, _, rfl, records, rfl, immediate, enough,
    history_agrees_with_trackers 1 resubmittedCall immediate enough⟩

end Traffic

end LedgerCourier
