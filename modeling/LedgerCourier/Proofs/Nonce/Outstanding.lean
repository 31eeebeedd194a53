import LedgerCourier.Proofs.Nonce.Office
import Mathlib.Data.List.Induction
import Mathlib.Data.List.Nodup

/-!
# Outstanding numbers

Forgetting a count begins a new one, while callers may still hold numbers of the old one. The
numbers handed out since the last renewal and not given back are outstanding. They are distinct
as long as nobody gives back a number from before a renewal that somebody else holds from the
new count.
-/

namespace LedgerCourier.Office

set_option autoImplicit false

def settle (account : AccountId) (held : List (TaskId × Nat)) : Deed → List (TaskId × Nat)
  | .handedOut other caller number =>
      if other = account then held ++ [(caller, number)] else held
  | .givenBack other caller _ =>
      if other = account then held.filter (fun claim => claim.1 != caller) else held
  | .forgotten other => if other = account then [] else held

/-- The numbers handed out since the last renewal and not given back, with their holders. -/
def outstanding (account : AccountId) (journal : List Deed) : List (TaskId × Nat) :=
  journal.foldl (settle account) []

/-- A number from before the last renewal is given back while it is outstanding. -/
def Strikes (account : AccountId) (before : List Deed) : Deed → Prop
  | .givenBack other caller number =>
      other = account ∧ caller ∉ (outstanding account before).map Prod.fst ∧
        number ∈ (outstanding account before).map Prod.snd
  | _ => False

def Undisputed (account : AccountId) (journal : List Deed) : Prop :=
  ∀ before deed, before ++ [deed] <+: journal → ¬Strikes account before deed

theorem outstanding_snoc (account : AccountId) (journal : List Deed) (deed : Deed) :
    outstanding account (journal ++ [deed]) =
      settle account (outstanding account journal) deed := by
  simp [outstanding]

theorem handed_out_of_outstanding {account : AccountId} {journal : List Deed}
    {caller : TaskId} {number : Nat} (held : (caller, number) ∈ outstanding account journal) :
    .handedOut account caller number ∈ journal := by
  induction journal using List.reverseRecOn with
  | nil => simp [outstanding] at held
  | append_singleton journal deed induction =>
      rw [outstanding_snoc] at held
      apply List.mem_append.mpr
      cases deed with
      | handedOut other holder given =>
          simp only [settle] at held
          split at held
          next same =>
            subst same
            rcases List.mem_append.mp held with earlier | new
            · exact Or.inl (induction earlier)
            · obtain ⟨rfl, rfl⟩ : caller = holder ∧ number = given := by simpa using new
              exact Or.inr (by simp)
          next => exact Or.inl (induction held)
      | givenBack other holder given =>
          simp only [settle] at held
          split at held
          · exact Or.inl (induction (List.mem_filter.mp held).1)
          · exact Or.inl (induction held)
      | forgotten other =>
          simp only [settle] at held
          split at held
          · simp at held
          · exact Or.inl (induction held)

theorem Undisputed.front {account : AccountId} {front back : List Deed}
    (undisputed : Undisputed account (front ++ back)) : Undisputed account front := by
  intro before deed inside
  exact undisputed before deed (inside.trans (List.prefix_append front back))

theorem undisputed_snoc (account : AccountId) (journal : List Deed) (deed : Deed) :
    Undisputed account (journal ++ [deed]) ↔
      Undisputed account journal ∧ ¬Strikes account journal deed := by
  constructor
  · intro undisputed
    exact ⟨undisputed.front, undisputed journal deed (List.prefix_refl _)⟩
  · rintro ⟨earlier, last⟩ before other inside
    rcases List.prefix_concat_iff.mp inside with whole | inside
    · obtain ⟨rfl, same⟩ := List.append_inj' whole rfl
      rw [List.singleton_inj.mp same]
      exact last
    · exact earlier before other inside

/-- The outstanding numbers of an account are in use and distinct. -/
structure Distinct (account : AccountId) (office : Office) : Prop where
  inUse : ∀ claim ∈ outstanding account office.journal,
    (office.sequencer.allocator account).uses claim.2 = true
  distinct : ((outstanding account office.journal).map Prod.snd).Nodup

theorem Distinct.unchanged {account : AccountId} {office after : Office}
    (distinct : Distinct account office)
    (allocator : after.sequencer.allocator account = office.sequencer.allocator account)
    (claims : outstanding account after.journal = outstanding account office.journal) :
    Distinct account after where
  inUse := by
    rw [allocator, claims]
    exact distinct.inUse
  distinct := by
    rw [claims]
    exact distinct.distinct

theorem deed_elsewhere {account : AccountId} {visit : Visit}
    (different : visit.errand.account ≠ account) (journal : List Deed)
    (progress : Progress Errand Errand.Result) :
    outstanding account (journal ++ visit.deeds progress) = outstanding account journal := by
  simp only [Visit.deeds]
  split
  · simp [outstanding_snoc, settle, different]
  · split <;> simp [outstanding_snoc, settle, different]
  · simp

theorem Distinct.hand_out {account : AccountId} {office after : Office} {caller : TaskId}
    {number : Nat} (distinct : Distinct account office)
    (free : (office.sequencer.allocator account).uses number = false)
    (used : (after.sequencer.allocator account).uses number = true)
    (kept : ∀ other, (office.sequencer.allocator account).uses other = true →
      (after.sequencer.allocator account).uses other = true)
    (journal : after.journal = office.journal ++ [.handedOut account caller number]) :
    Distinct account after := by
  have claims : outstanding account after.journal =
      outstanding account office.journal ++ [(caller, number)] := by
    rw [journal, outstanding_snoc]
    simp [settle]
  have fresh : number ∉ (outstanding account office.journal).map Prod.snd := by
    intro member
    obtain ⟨claim, held, rfl⟩ := List.mem_map.mp member
    rw [distinct.inUse claim held] at free
    cases free
  constructor
  · intro claim member
    rw [claims] at member
    rcases List.mem_append.mp member with earlier | new
    · exact kept claim.2 (distinct.inUse claim earlier)
    · rw [List.mem_singleton.mp new]
      exact used
  · rw [claims, List.map_append, List.nodup_append]
    refine ⟨distinct.distinct, by simp, ?_⟩
    intro first earlier second new same
    obtain rfl : second = number := by simpa using new
    exact fresh (same ▸ earlier)

theorem Distinct.give_back {account : AccountId} {office after : Office} {caller : TaskId}
    {number : Nat} (distinct : Distinct account office)
    (uses : ∀ other, (after.sequencer.allocator account).uses other = true ↔
      (office.sequencer.allocator account).uses other = true ∧ other ≠ number)
    (sole : ∀ claim ∈ outstanding account office.journal, claim.2 = number → claim.1 = caller)
    (journal : after.journal = office.journal ++ [.givenBack account caller number]) :
    Distinct account after := by
  have claims : outstanding account after.journal =
      (outstanding account office.journal).filter (fun claim => claim.1 != caller) := by
    rw [journal, outstanding_snoc]
    simp [settle]
  constructor
  · intro claim member
    rw [claims] at member
    obtain ⟨held, different⟩ := List.mem_filter.mp member
    refine (uses claim.2).mpr ⟨distinct.inUse claim held, ?_⟩
    intro same
    simp [sole claim held same] at different
  · rw [claims]
    exact distinct.distinct.sublist (List.filter_sublist.map Prod.snd)

/-- Whoever gives a number back that it holds is the only one to hold it. -/
theorem sole_holder {office : Office} {account : AccountId} {task : TaskId} {visit : Visit}
    {number : Nat} (callers : Callers office) (distinct : Distinct account office)
    (held : office.visits[task]? = some visit) (returns : visit.errand.purpose = .giveBack number)
    (harmless : ¬Strikes account office.journal (.givenBack account visit.caller number)) :
    ∀ claim ∈ outstanding account office.journal, claim.2 = number → claim.1 = visit.caller := by
  intro claim member same
  by_cases present : visit.caller ∈ (outstanding account office.journal).map Prod.fst
  · obtain ⟨own, ownMember, ownCaller⟩ := List.mem_map.mp present
    obtain ⟨reserving, found, finished⟩ := callers.returning task visit number held returns
    obtain ⟨again, foundAgain, finishedAgain⟩ :=
      callers.owners account own.1 own.2 (handed_out_of_outstanding ownMember)
    rw [ownCaller, found] at foundAgain
    obtain rfl := Option.some.inj foundAgain
    have ownNumber : own.2 = number := by
      rw [finished] at finishedAgain
      cases finishedAgain
      rfl
    have equal : claim = own :=
      List.inj_on_of_nodup_map distinct.distinct member ownMember (same.trans ownNumber.symm)
    rw [equal]
    exact ownCaller
  · exact absurd ⟨rfl, present, List.mem_map.mpr ⟨claim, member, same⟩⟩ harmless

inductive Affects (account : AccountId) (office after : Office) : Prop where
  | nothing
      (allocator : after.sequencer.allocator account = office.sequencer.allocator account)
      (claims : outstanding account after.journal = outstanding account office.journal)
      (harmless : Undisputed account office.journal → Undisputed account after.journal)
  | handsOut (caller : TaskId) (number : Nat)
      (free : (office.sequencer.allocator account).uses number = false)
      (used : (after.sequencer.allocator account).uses number = true)
      (kept : ∀ other, (office.sequencer.allocator account).uses other = true →
        (after.sequencer.allocator account).uses other = true)
      (journal : after.journal = office.journal ++ [.handedOut account caller number])
  | takesBack (task : TaskId) (visit : Visit) (number : Nat)
      (held : office.visits[task]? = some visit)
      (returns : visit.errand.purpose = .giveBack number)
      (known : (after.sequencer.allocator account).next = none ↔
        (office.sequencer.allocator account).next = none)
      (uses : ∀ other, (after.sequencer.allocator account).uses other = true ↔
        (office.sequencer.allocator account).uses other = true ∧ other ≠ number)
      (journal : after.journal = office.journal ++ [.givenBack account visit.caller number])
  | renews (journal : after.journal = office.journal ++ [.forgotten account])

theorem undisputed_of_deed_elsewhere {account : AccountId} {visit : Visit}
    (different : visit.errand.account ≠ account) {journal : List Deed}
    (progress : Progress Errand Errand.Result) (undisputed : Undisputed account journal) :
    Undisputed account (journal ++ visit.deeds progress) := by
  simp only [Visit.deeds]
  split
  · exact (undisputed_snoc account journal _).mpr ⟨undisputed, by simp [Strikes]⟩
  · split
    · exact (undisputed_snoc account journal _).mpr ⟨undisputed, by simp [Strikes, different]⟩
    · exact (undisputed_snoc account journal _).mpr ⟨undisputed, by simp [Strikes]⟩
    · simpa using undisputed
  · simpa using undisputed

theorem Performs.affects {office after : Office} {act : Act} (performs : Performs office act after)
    (disciplined : Disciplined office.sequencer office.errands) (account : AccountId) :
    Affects account office after := by
  cases performs with
  | stays => exact .nothing rfl rfl id
  | enters caller account purpose cause => exact .nothing rfl rfl id
  | abandons task visit held underWay => exact .nothing (by simp) rfl id
  | advances task answer visit held underWay sequencer progress moves =>
      by_cases same : visit.errand.account = account
      · subst same
        cases progress with
        | waits =>
            cases moves
            exact .nothing rfl (by simp [Visit.deeds]) (by simp [Visit.deeds])
        | goesOn errand request =>
            cases moves <;>
              exact .nothing (by simp) (by simp [Visit.deeds]) (by simp [Visit.deeds])
        | ends result =>
            cases result with
            | exhausted =>
                cases moves
                exact .nothing (by simp) (by simp [Visit.deeds]) (by simp [Visit.deeds])
            | failed cause =>
                cases moves
                exact .nothing (by simp) (by simp [Visit.deeds]) (by simp [Visit.deeds])
            | reserved number =>
                obtain ⟨free, used, kept⟩ :=
                  disciplined.hands_out (errands_of_under_way held underWay) moves
                exact .handsOut visit.caller number free used kept rfl
            | done =>
                cases moves with
                | givesBack number stage purpose head =>
                    have spec := Allocator.give_back_spec
                      (disciplined.wellFormed visit.errand.account) number
                    exact .takesBack task visit number held purpose
                      (by simpa using spec.2.1) (by simpa using spec.2.2)
                      (by simp [Visit.deeds, purpose])
                | forgets stage purpose head => exact .renews (by simp [Visit.deeds, purpose])
      · exact .nothing (moves.other_account same) (deed_elsewhere same office.journal progress)
          (undisputed_of_deed_elsewhere same progress)

theorem Affects.distinct {office after : Office} {account : AccountId}
    (affects : Affects account office after) (callers : Callers office)
    (undisputed : Undisputed account after.journal) (distinct : Distinct account office) :
    Distinct account after := by
  cases affects with
  | nothing allocator claims harmless => exact distinct.unchanged allocator claims
  | handsOut caller number free used kept journal =>
      exact distinct.hand_out free used kept journal
  | takesBack task visit number held returns known uses journal =>
      have harmless := ((undisputed_snoc _ _ _).mp (journal ▸ undisputed)).2
      have sole := sole_holder callers distinct held returns harmless
      exact distinct.give_back uses sole journal
  | renews journal =>
      have none : outstanding account after.journal = [] := by
        rw [journal, outstanding_snoc]
        simp [settle]
      constructor
      · simp [none]
      · simp [none]

theorem Performs.journal_grows {office after : Office} {act : Act}
    (performs : Performs office act after) : office.journal <+: after.journal := by
  cases performs with
  | stays => exact List.prefix_refl _
  | enters => exact List.prefix_refl _
  | advances => exact List.prefix_append _ _
  | abandons => exact List.prefix_refl _

theorem Undisputed.of_prefix {account : AccountId} {front journal : List Deed}
    (undisputed : Undisputed account journal) (inside : front <+: journal) :
    Undisputed account front := by
  obtain ⟨back, rfl⟩ := inside
  exact undisputed.front

theorem distinct_run (acts : List Act) (account : AccountId)
    (undisputed : Undisputed account (run acts).journal) : Distinct account (run acts) := by
  have sound := run_induction
    (motive := fun office => Disciplined office.sequencer office.errands ∧ Callers office ∧
      (Undisputed account office.journal → Distinct account office))
    ⟨disciplined_run [], callers_start, fun _ => ⟨by simp [start, outstanding],
      by simp [start, outstanding]⟩⟩
    (fun office act after holds performs => by
      obtain ⟨disciplined, callers, distinct⟩ := holds
      refine ⟨performs.disciplined disciplined, performs.callers disciplined callers, ?_⟩
      intro later
      have earlier := later.of_prefix performs.journal_grows
      exact (performs.affects disciplined account).distinct callers later (distinct earlier))
    acts
  exact sound.2.2 undisputed

end LedgerCourier.Office
