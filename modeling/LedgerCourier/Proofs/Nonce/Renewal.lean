import LedgerCourier.Proofs.Nonce.Outstanding

/-!
# Numbers across a renewed count

The condition under which outstanding numbers are distinct is exact. Once somebody has given back
a number from before a renewal that another caller holds from the new count, the allocator takes
that number for free, and further reservations alone hand it out a second time.
-/

namespace LedgerCourier.Office

set_option autoImplicit false

/-- A number is outstanding that the allocator would hand out again. -/
def Contested (account : AccountId) (office : Office) : Prop :=
  ∃ caller number, (caller, number) ∈ outstanding account office.journal ∧
    (office.sequencer.allocator account).uses number = false ∧
    (office.sequencer.allocator account).next ≠ none ∧ number + 1 < Allocator.limit

theorem Affects.contested {office after : Office} {account : AccountId}
    (affects : Affects account office after)
    (wellFormed : (office.sequencer.allocator account).WellFormed)
    (undisputed : Undisputed account office.journal) (distinct : Distinct account office)
    (disputed : ¬Undisputed account after.journal) : Contested account after := by
  cases affects with
  | nothing allocator claims harmless => exact absurd (harmless undisputed) disputed
  | handsOut caller number free used kept journal =>
      rw [journal, undisputed_snoc] at disputed
      exact absurd ⟨undisputed, by simp [Strikes]⟩ disputed
  | renews journal =>
      rw [journal, undisputed_snoc] at disputed
      exact absurd ⟨undisputed, by simp [Strikes]⟩ disputed
  | takesBack task visit number held returns known uses journal =>
      have strikes : Strikes account office.journal (.givenBack account visit.caller number) := by
        rw [journal, undisputed_snoc] at disputed
        by_contra harmless
        exact disputed ⟨undisputed, harmless⟩
      obtain ⟨-, absent, present⟩ := strikes
      obtain ⟨claim, member, rfl⟩ := List.mem_map.mp present
      have used := distinct.inUse claim member
      obtain ⟨next, count, small, -⟩ := (Allocator.uses_iff _ _).mp used
      have bound := wellFormed.bounded next count
      refine ⟨claim.1, claim.2, ?_, ?_, ?_, by omega⟩
      · have other : claim.1 ≠ visit.caller := by
          intro same
          exact absent (List.mem_map.mpr ⟨claim, member, same⟩)
        rw [journal, outstanding_snoc]
        simp only [settle, if_true]
        exact List.mem_filter.mpr ⟨member, by simpa using other⟩
      · rw [Bool.eq_false_iff]
        intro again
        exact ((uses claim.2).mp again).2 rfl
      · rw [ne_eq, known, count]
        simp

theorem contested_of_disputed (acts : List Act) (account : AccountId)
    (disputed : ¬Undisputed account (run acts).journal) :
    ∃ front, front <+: acts ∧ Contested account (run front) := by
  induction acts using List.reverseRecOn with
  | nil =>
      refine absurd ?_ disputed
      intro before deed inside
      have impossible : before ++ [deed] = [] := List.prefix_nil.mp inside
      simp at impossible
  | append_singleton acts act induction =>
      by_cases earlier : Undisputed account (run acts).journal
      · refine ⟨acts ++ [act], List.prefix_refl _, ?_⟩
        have disciplined := disciplined_run acts
        have affects := (perform_performs (run acts) act).affects disciplined account
        rw [run_snoc] at disputed ⊢
        exact affects.contested (disciplined.wellFormed account) earlier
          (distinct_run acts account earlier) disputed
      · obtain ⟨front, inside, contested⟩ := induction earlier
        exact ⟨front, inside.trans (List.prefix_append acts [act]), contested⟩

/-- Further callers reserve, and some who wait may give up; nobody gives back or renews. -/
def OnlyReserves (first : TaskId) : Act → Prop
  | .reserves _ => True
  | .advances task _ => first ≤ task
  | .abandons _ => True
  | .returns _ => False
  | .forgets _ => False

theorem line_empties (office : Office) (account : AccountId)
    (disciplined : Disciplined office.sequencer office.errands) :
    ∃ leaving, (∀ act ∈ leaving, ∃ task, act = .abandons task) ∧
      Disciplined (office.runFrom leaving).sequencer (office.runFrom leaving).errands ∧
      ((office.runFrom leaving).sequencer.counter account).line = [] ∧
      (office.runFrom leaving).sequencer.allocator account = office.sequencer.allocator account ∧
      (office.runFrom leaving).journal = office.journal ∧
      (office.runFrom leaving).visits.length = office.visits.length := by
  generalize standing : (office.sequencer.counter account).line = line
  induction line generalizing office with
  | nil => exact ⟨[], by simp, disciplined, standing, rfl, rfl, rfl⟩
  | cons task rest induction =>
      have member : task ∈ (office.sequencer.counter account).line := by simp [standing]
      obtain ⟨errand, under, same, stage⟩ := (disciplined.standing account task).mp member
      have found : ∃ caller, office.visits[task]? = some ⟨caller, errand, .underWay⟩ := by
        obtain ⟨⟨caller, own, fate⟩, held, mine⟩ := Option.bind_eq_some_iff.mp under
        cases fate <;> simp only [Visit.errand?, reduceCtorEq, Option.some.injEq] at mine
        exact ⟨caller, mine ▸ held⟩
      obtain ⟨caller, held⟩ := found
      have performs := perform_performs office (.abandons task)
      have left : office.perform (.abandons task) =
          { office with
            sequencer := errand.abandon task office.sequencer
            visits := office.visits.set task ⟨caller, errand, .abandoned⟩ } := by
        simp [perform, held]
      have shorter : ((office.perform (.abandons task)).sequencer.counter account).line = rest := by
        have leaving : errand.abandon task office.sequencer =
            office.sequencer.leave errand.account task := by
          unfold Errand.abandon
          split
          next arriving => exact absurd arriving stage
          next => rfl
        simp [left, leaving, same, standing]
      obtain ⟨leaving, only, after, empty, allocator, journal, length⟩ :=
        induction (office.perform (.abandons task)) (performs.disciplined disciplined) shorter
      refine ⟨.abandons task :: leaving, ?_, after, empty, ?_, ?_, ?_⟩
      · intro act member
        rcases List.mem_cons.mp member with rfl | member
        · exact ⟨task, rfl⟩
        · exact only act member
      · exact allocator.trans (by simp [left])
      · exact journal.trans (by simp [left])
      · exact length.trans (by simp [left])

def oneReservation (office : Office) (account : AccountId) : List Act :=
  [.reserves account, .advances office.visits.length none, .advances office.visits.length none]

theorem run_one_reservation (office : Office) {account : AccountId} {next number : Nat}
    {after : Allocator} (alone : (office.sequencer.counter account).line = [])
    (known : (office.sequencer.allocator account).next = some next)
    (taken : (office.sequencer.allocator account).take next = some (number, after)) :
    ((office.runFrom (office.oneReservation account)).sequencer.counter account).line = [] ∧
      (office.runFrom (office.oneReservation account)).sequencer.allocator account = after ∧
      (office.runFrom (office.oneReservation account)).journal =
        office.journal ++ [.handedOut account office.visits.length number] ∧
      (office.runFrom (office.oneReservation account)).visits.length =
        office.visits.length + 1 := by
  have entered : office.perform (.reserves account) =
      office.enter office.visits.length account .reserve := rfl
  simp only [oneReservation, run_from_cons, run_from_nil, entered]
  simp [perform, enter, Errand.start, Errand.advance, Visit.after, Visit.deeds, Errand.serve,
    Errand.takeNumber, Sequencer.isHead, alone, known, taken]

theorem runFrom_disciplined (office : Office) (acts : List Act)
    (disciplined : Disciplined office.sequencer office.errands) :
    Disciplined (office.runFrom acts).sequencer (office.runFrom acts).errands := by
  induction acts generalizing office with
  | nil => exact disciplined
  | cons act acts induction =>
      rw [run_from_cons]
      exact induction _ ((perform_performs office act).disciplined disciplined)

theorem OnlyReserves.of_le {first later : TaskId} (order : first ≤ later) {act : Act}
    (only : OnlyReserves later act) : OnlyReserves first act := by
  cases act with
  | advances task answer => exact Nat.le_trans order only
  | reserves => trivial
  | abandons => trivial
  | returns => exact only
  | forgets => exact only

/-- From a contested office with nobody in line, reservations alone hand a number out twice. Each
of them takes the least free number, so the induction is on how far the numbers in use without
a gap are from the contested one. -/
theorem reservations_collide (office : Office) {account : AccountId} {caller : TaskId}
    {number floor : Nat} (disciplined : Disciplined office.sequencer office.errands)
    (alone : (office.sequencer.counter account).line = [])
    (held : (caller, number) ∈ outstanding account office.journal)
    (free : (office.sequencer.allocator account).uses number = false)
    (known : (office.sequencer.allocator account).next ≠ none)
    (small : number + 1 < Allocator.limit)
    (full : ∀ other, other < floor → (office.sequencer.allocator account).uses other = true) :
    ∃ more, (∀ act ∈ more, OnlyReserves office.visits.length act) ∧
      ¬((outstanding account (office.runFrom more).journal).map Prod.snd).Nodup := by
  generalize distance : number - floor = missing
  induction missing using Nat.strongRecOn generalizing office floor with
  | ind missing induction =>
      obtain ⟨next, count⟩ := Option.ne_none_iff_exists'.mp known
      obtain ⟨taken, after, given⟩ := Allocator.take_exists count free small
      obtain ⟨-, stillKnown, unused, lower, same⟩ :=
        Allocator.take_known (disciplined.wellFormed account) count given
      obtain ⟨later_alone, allocator, journal, length⟩ :=
        run_one_reservation office alone count given
      have atMost : taken ≤ number := by
        by_contra beyond
        have used := lower number (by omega)
        rw [free] at used
        cases used
      have atLeast : floor ≤ taken := by
        by_contra beyond
        have used := full taken (by omega)
        rw [unused] at used
        cases used
      have only : ∀ act ∈ office.oneReservation account, OnlyReserves office.visits.length act := by
        simp [oneReservation, OnlyReserves]
      have claims : outstanding account (office.runFrom (office.oneReservation account)).journal =
          outstanding account office.journal ++ [(office.visits.length, taken)] := by
        rw [journal, outstanding_snoc]
        simp [settle]
      by_cases hit : taken = number
      · subst hit
        refine ⟨office.oneReservation account, only, ?_⟩
        rw [claims, List.map_append, List.nodup_append]
        rintro ⟨-, -, apart⟩
        exact apart taken (List.mem_map.mpr ⟨_, held, rfl⟩) taken (by simp) rfl
      · have stillFree : after.uses number = false := by
          rw [Bool.eq_false_iff]
          intro used
          rcases (same number).mp used with before | equal
          · rw [free] at before
            cases before
          · exact hit equal.symm
        have fuller : ∀ other, other < taken + 1 → after.uses other = true := by
          intro other smaller
          apply (same other).mpr
          rcases Nat.lt_succ_iff_lt_or_eq.mp smaller with below | equal
          · exact Or.inl (lower other below)
          · exact Or.inr equal
        obtain ⟨more, later, twice⟩ := induction (number - (taken + 1)) (by omega)
          (office.runFrom (office.oneReservation account))
          (runFrom_disciplined office _ disciplined) later_alone
          (claims ▸ List.mem_append_left _ held) (allocator ▸ stillFree)
          (allocator ▸ stillKnown) (allocator ▸ fuller) rfl
        refine ⟨office.oneReservation account ++ more, ?_, ?_⟩
        · intro act member
          rcases List.mem_append.mp member with first | second
          · exact only act first
          · exact (later act second).of_le (length ▸ Nat.le_succ _)
        · rw [run_from_append]
          exact twice

theorem contested_collides (office : Office) {account : AccountId}
    (disciplined : Disciplined office.sequencer office.errands)
    (contested : Contested account office) :
    ∃ more, (∀ act ∈ more, OnlyReserves office.visits.length act) ∧
      ¬((outstanding account (office.runFrom more).journal).map Prod.snd).Nodup := by
  obtain ⟨caller, number, held, free, known, small⟩ := contested
  obtain ⟨leaving, only, after, alone, allocator, journal, length⟩ :=
    line_empties office account disciplined
  obtain ⟨more, later, twice⟩ := reservations_collide (office.runFrom leaving) after
    alone (journal ▸ held) (allocator ▸ free) (allocator ▸ known) small
    (fun other (below : other < 0) => absurd below (Nat.not_lt_zero other))
  refine ⟨leaving ++ more, ?_, ?_⟩
  · intro act member
    rcases List.mem_append.mp member with first | second
    · obtain ⟨task, rfl⟩ := only act first
      trivial
    · exact length ▸ later act second
  · rw [run_from_append]
    exact twice

theorem undisputed_deeds_reserve {account : AccountId} {visit : Visit} {journal : List Deed}
    (reserves : visit.errand.purpose = .reserve) (progress : Progress Errand Errand.Result)
    (undisputed : Undisputed account journal) :
    Undisputed account (journal ++ visit.deeds progress) := by
  simp only [Visit.deeds, reserves]
  split
  · exact (undisputed_snoc account journal _).mpr ⟨undisputed, by simp [Strikes]⟩
  · simpa using undisputed
  · simpa using undisputed

/-- Everybody who came after the first callers reserves. -/
def Reserving (first : TaskId) (office : Office) : Prop :=
  ∀ (task : TaskId) visit, first ≤ task → office.visits[task]? = some visit →
    visit.errand.purpose = .reserve

theorem Reserving.set {first : TaskId} {office : Office} (reserving : Reserving first office)
    {task : TaskId} {visit next : Visit} (held : office.visits[task]? = some visit)
    (same : next.errand.purpose = visit.errand.purpose) (sequencer : Sequencer)
    (journal : List Deed) :
    Reserving first ⟨sequencer, office.visits.set task next, journal⟩ := by
  intro other own order found
  obtain ⟨inside, -⟩ := List.getElem?_eq_some_iff.mp held
  by_cases equal : task = other
  · subst equal
    obtain rfl : next = own := by simpa [inside] using found
    exact same.trans (reserving task visit order held)
  · rw [List.getElem?_set_ne equal] at found
    exact reserving other own order found

theorem Performs.reserving {office after : Office} {act : Act} {first : TaskId}
    {account : AccountId} (performs : Performs office act after) (only : OnlyReserves first act)
    (reserving : Reserving first office) (undisputed : Undisputed account office.journal) :
    Reserving first after ∧ Undisputed account after.journal := by
  cases performs with
  | stays => exact ⟨reserving, undisputed⟩
  | enters caller other purpose cause =>
      rcases cause with ⟨-, -, rfl⟩ | ⟨rfl, -⟩ | ⟨number, rfl, -⟩
      · refine ⟨?_, undisputed⟩
        intro task visit order found
        rcases enter_visit found with earlier | ⟨-, rfl⟩
        · exact reserving task visit order earlier
        · rfl
      · exact absurd only (by simp [OnlyReserves])
      · exact absurd only (by simp [OnlyReserves])
  | advances task answer visit held underWay sequencer progress moves =>
      have purpose := reserving task visit only held
      have same : (visit.after progress).errand.purpose = visit.errand.purpose := by
        cases progress with
        | waits => rfl
        | goesOn errand request => exact moves.same_errand.2
        | ends result => rfl
      exact ⟨reserving.set held same _ _, undisputed_deeds_reserve purpose progress undisputed⟩
  | abandons task visit held underWay =>
      have same : { visit with fate := Visit.Fate.abandoned }.errand.purpose =
          visit.errand.purpose := rfl
      exact ⟨reserving.set held same _ _, undisputed⟩

theorem undisputed_reservations (office : Office) (account : AccountId) (first : TaskId)
    (more : List Act) (only : ∀ act ∈ more, OnlyReserves first act)
    (reserving : Reserving first office) (undisputed : Undisputed account office.journal) :
    Undisputed account (office.runFrom more).journal := by
  induction more generalizing office with
  | nil => exact undisputed
  | cons act more induction =>
      have performs := perform_performs office act
      obtain ⟨still, later⟩ :=
        performs.reserving (only act List.mem_cons_self) reserving undisputed
      rw [run_from_cons]
      exact induction _ (fun other member => only other (List.mem_cons_of_mem act member)) still
        later

theorem runFrom_journal_grows (office : Office) (acts : List Act) :
    office.journal <+: (office.runFrom acts).journal := by
  induction acts generalizing office with
  | nil => exact List.prefix_refl _
  | cons act acts induction =>
      exact (perform_performs office act).journal_grows.trans (induction (office.perform act))

/-- The exact condition under which numbers stay distinct, now and whatever is reserved next:
nobody has given back a number from before a renewal that somebody else held from the new
count. -/
theorem outstanding_numbers_distinct_iff (account : AccountId) (acts : List Act) :
    Undisputed account (run acts).journal ↔
      ∀ front, front <+: acts → ∀ more,
        (∀ act ∈ more, OnlyReserves (run front).visits.length act) →
          ((outstanding account ((run front).runFrom more).journal).map Prod.snd).Nodup := by
  constructor
  · intro undisputed front inside more only
    have earlier : Undisputed account (run front).journal := by
      obtain ⟨back, rfl⟩ := inside
      rw [run_append] at undisputed
      exact undisputed.of_prefix (runFrom_journal_grows (run front) back)
    have nobody : Reserving (run front).visits.length (run front) := by
      intro task visit beyond found
      rw [List.getElem?_eq_none beyond] at found
      cases found
    have later := undisputed_reservations (run front) account _ more only nobody earlier
    rw [← run_append] at later ⊢
    exact (distinct_run (front ++ more) account later).distinct
  · intro distinct
    by_contra disputed
    obtain ⟨front, inside, contested⟩ := contested_of_disputed acts account disputed
    obtain ⟨more, only, twice⟩ := contested_collides (run front) (disciplined_run front) contested
    exact twice (distinct front inside more only)

/-- A caller that reserved before a renewal returns its number while another holds it again. -/
def renewedWhileHeld : List Act :=
  let account := Bytes32.fill 1
  let served (task : TaskId) : List Act := [.advances task none, .advances task none]
  let told : Option Answer := some (.nonce (.ok 5))
  [.reserves account] ++ served 0 ++ [.advances 0 told] ++
    [.forgets account] ++ served 1 ++
    [.reserves account] ++ served 2 ++ [.advances 2 told] ++
    [.returns 0] ++ served 3 ++
    [.reserves account] ++ served 4

theorem renewed_number_held_twice :
    ¬((outstanding (Bytes32.fill 1) (run renewedWhileHeld).journal).map Prod.snd).Nodup := by
  decide

end LedgerCourier.Office
