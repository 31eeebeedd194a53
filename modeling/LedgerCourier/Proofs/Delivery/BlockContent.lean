import LedgerCourier.Node.Basic
import LedgerCourier.Proofs.Delivery.Chronicle

/-!
# What a block says about one extrinsic

A block has extrinsics, known by their hashes, and events, both in order. The events of an
extrinsic are those of its own phase, that of the first position at which its hash stands. A search
that is answered truly finds exactly these events, and none if one of its questions fails.
-/

namespace LedgerCourier

set_option autoImplicit false

structure BlockContent where
  extrinsics : List Hash
  events : List Event

def BlockContent.own (content : BlockContent) (extrinsic : Hash) : List Event :=
  match content.extrinsics.idxOf? extrinsic with
  | some index => content.events.filter fun event => event.phase = .applyExtrinsic index
  | none => []

theorem BlockContent.own_of_position {content : BlockContent} {extrinsic : Hash} {index : Nat}
    (position : content.extrinsics.idxOf? extrinsic = some index) :
    content.own extrinsic = Event.ofExtrinsic index content.events := by
  rw [own, position]
  exact List.filter_congr fun event _ => by simp [beq_eq_decide]

def Block.content (block : Block) : BlockContent :=
  ⟨block.extrinsics.map Blake2b.digest256, block.events⟩

def Event.IsReport (event : Event) : Prop :=
  event.pallet = "System" ∧
    (event.method = "ExtrinsicSuccess" ∨ event.method = "ExtrinsicFailed")

/-- The first report among some events decides. -/
inductive Dispatch.Reported : List Event → Dispatch → Prop where
  | success (before : List Event) (report : Event) (after : List Event)
      (first : ∀ event ∈ before, ¬event.IsReport) (pallet : report.pallet = "System")
      (method : report.method = "ExtrinsicSuccess") :
      Reported (before ++ report :: after) .success
  | failed (before : List Event) (report : Event) (after : List Event)
      (first : ∀ event ∈ before, ¬event.IsReport) (pallet : report.pallet = "System")
      (method : report.method = "ExtrinsicFailed") :
      Reported (before ++ report :: after) (.failed (String.intercalate ", " report.args))
  | unknown (events : List Event) (silent : ∀ event ∈ events, ¬event.IsReport) :
      Reported events .unknown

theorem Event.is_named_iff (event : Event) (pallet method : String) :
    event.isNamed pallet method = true ↔ event.pallet = pallet ∧ event.method = method := by
  simp [isNamed]

namespace Dispatch

theorem Reported.cons {event : Event} {rest : List Event} {dispatch : Dispatch}
    (later : Reported rest dispatch) (silent : ¬event.IsReport) :
    Reported (event :: rest) dispatch := by
  cases later with
  | success before report after first pallet method =>
      exact .success (event :: before) report after (List.forall_mem_cons.mpr ⟨silent, first⟩)
        pallet method
  | failed before report after first pallet method =>
      exact .failed (event :: before) report after (List.forall_mem_cons.mpr ⟨silent, first⟩)
        pallet method
  | unknown _ others => exact .unknown _ (List.forall_mem_cons.mpr ⟨silent, others⟩)

theorem of_events_cons {event : Event} (silent : ¬event.IsReport) (rest : List Event) :
    ofEvents (event :: rest) = ofEvents rest := by
  have succeeded : ¬event.isNamed "System" "ExtrinsicSuccess" = true := by
    rw [event.is_named_iff]
    exact fun named => silent ⟨named.1, Or.inl named.2⟩
  have failed : ¬event.isNamed "System" "ExtrinsicFailed" = true := by
    rw [event.is_named_iff]
    exact fun named => silent ⟨named.1, Or.inr named.2⟩
  rw [ofEvents, if_neg succeeded, if_neg failed]

theorem of_events_append {before : List Event} (silent : ∀ event ∈ before, ¬event.IsReport)
    (rest : List Event) : ofEvents (before ++ rest) = ofEvents rest := by
  induction before with
  | nil => rfl
  | cons event before induction =>
      obtain ⟨first, later⟩ := List.forall_mem_cons.mp silent
      rw [List.cons_append, of_events_cons first, induction later]

theorem of_events_reported (events : List Event) : Reported events (ofEvents events) := by
  induction events with
  | nil => exact .unknown [] (by simp)
  | cons event rest induction =>
      by_cases report : event.IsReport
      · obtain ⟨pallet, method | method⟩ := report
        · rw [ofEvents, if_pos ((event.is_named_iff _ _).mpr ⟨pallet, method⟩)]
          exact .success [] event rest (by simp) pallet method
        · rw [ofEvents, if_neg (by simp [event.is_named_iff, method]),
            if_pos ((event.is_named_iff _ _).mpr ⟨pallet, method⟩)]
          exact .failed [] event rest (by simp) pallet method
      · rw [of_events_cons report]
        exact induction.cons report

theorem Reported.unique {events : List Event} {dispatch : Dispatch}
    (reported : Reported events dispatch) : dispatch = ofEvents events := by
  cases reported with
  | success before report after first pallet method =>
      rw [of_events_append first, ofEvents,
        if_pos ((report.is_named_iff _ _).mpr ⟨pallet, method⟩)]
  | failed before report after first pallet method =>
      rw [of_events_append first, ofEvents, if_neg (by simp [report.is_named_iff, method]),
        if_pos ((report.is_named_iff _ _).mpr ⟨pallet, method⟩)]
  | unknown _ silent =>
      have nothing := of_events_append silent []
      rw [List.append_nil] at nothing
      exact nothing.symm

end Dispatch

namespace Observation

/-- What is answered about a block is what the block contains. -/
def IsTrueOf (block : Hash) (content : BlockContent) : Observation → Prop
  | .answered (.position place extrinsic) (.position (.ok found)) =>
      place = block → found = content.extrinsics.idxOf? extrinsic
  | .answered (.events place) (.events (.ok events)) => place = block → events = content.events
  | _ => True

def heard? : Observation → Option Answer
  | .answered _ answer => some answer
  | _ => none

end Observation

def Answer.isMiss : Answer → Bool
  | .position (.error _) | .events (.error _) => true
  | _ => false

/-- The last answer was that a block could not be searched. -/
def isMissed (seen : List Observation) : Bool :=
  (seen.filterMap Observation.heard?).getLast?.any Answer.isMiss

theorem missed_eq {seen : List Observation} {earlier later : List Answer} {last : Answer}
    (heard : seen.filterMap Observation.heard? = earlier ++ later)
    (ending : later.getLast? = some last) : isMissed seen = last.isMiss := by
  rw [isMissed, heard, List.getLast?_append, ending]
  rfl

/-- The events that come of a search which is the last thing that was heard of. -/
theorem Lookup.finds {block extrinsic : Hash} {lookup : List Observation} {events : List Event}
    (looked : Lookup block extrinsic lookup events) {content : BlockContent}
    (truly : ∀ observation ∈ lookup, observation.IsTrueOf block content)
    {seen earlier : List Observation}
    (heard : seen.filterMap Observation.heard? =
      earlier.filterMap Observation.heard? ++ lookup.filterMap Observation.heard?) :
    events = if isMissed seen then [] else content.own extrinsic := by
  cases looked with
  | unlocated cause =>
      rw [missed_eq heard rfl]
      rfl
  | absent =>
      have outside : none = content.extrinsics.idxOf? extrinsic :=
        truly (.answered (.position block extrinsic) (.position (.ok none))) (by simp) rfl
      rw [missed_eq heard rfl, BlockContent.own, ← outside]
      rfl
  | unfetched index cause =>
      rw [missed_eq heard rfl]
      rfl
  | found index events =>
      have inside : some index = content.extrinsics.idxOf? extrinsic :=
        truly (.answered (.position block extrinsic) (.position (.ok (some index)))) (by simp) rfl
      have whole : events = content.events :=
        truly (.answered (.events block) (.events (.ok events))) (by simp) rfl
      rw [missed_eq heard rfl, BlockContent.own_of_position inside.symm, whole]
      rfl

theorem Outcome.ensure_success_iff (outcome : Outcome) :
    (∀ error, outcome.ensureSuccess = .error error ↔ ∃ details,
      outcome.dispatch = .failed details ∧
        error = .extrinsicFailed outcome.nonce outcome.hash details) ∧
    (outcome.ensureSuccess = .ok outcome ↔ ∀ details, outcome.dispatch ≠ .failed details) := by
  unfold ensureSuccess
  cases outcome.dispatch with
  | success => simp
  | unknown => simp
  | failed details => simp [eq_comm]

namespace Node

theorem request_all_blocks (node : Node) (methods : List Method) :
    (node.requestAll methods).1.blocks = node.blocks := by
  induction methods generalizing node with
  | nil => rfl
  | cons method rest induction =>
      rw [requestAll]
      have same : (node.request method).1.blocks = node.blocks := rfl
      generalize node.request method = step at same ⊢
      obtain ⟨after, result⟩ := step
      cases result with
      | error cause => exact same
      | ok done => exact (induction after).trans same

/-- An answer that needs several requests is made of the blocks as they were. -/
theorem after_answers {Value : Type} (node : Node) (methods : List Method)
    (answer : Node → Except Failure Value) {value : Value}
    (succeeds : (node.after methods answer).2 = .ok value) :
    ∃ later : Node, later.blocks = node.blocks ∧ answer later = .ok value := by
  unfold after at succeeds
  have same := node.request_all_blocks methods
  generalize node.requestAll methods = step at same succeeds
  obtain ⟨later, result⟩ := step
  cases result with
  | error cause => cases succeeds
  | ok done => exact ⟨later, same, succeeds⟩

theorem position_true {node : Node} {block : Hash} {held : Block}
    (known : node.blocks.get? block = some held) {extrinsic : Hash} {found : Option Nat}
    (answered : (node.position block extrinsic).2 = .ok found) :
    found = held.content.extrinsics.idxOf? extrinsic := by
  unfold position at answered
  have same : (node.request .header).1.blocks = node.blocks := rfl
  generalize node.request .header = step at same answered
  obtain ⟨later, result⟩ := step
  cases result with
  | error cause => cases answered
  | ok done =>
      have still : later.blocks.get? block = some held := by rw [same, known]
      simp only [still] at answered
      obtain ⟨-, -, located⟩ := later.after_answers _ _ answered
      cases located
      rw [List.idxOf?, Block.content, List.findIdx?_map]
      rfl

theorem events_true {node : Node} {block : Hash} {held : Block}
    (known : node.blocks.get? block = some held) {events : List Event}
    (answered : (node.eventsAt block).2 = .ok events) : events = held.content.events := by
  obtain ⟨later, same, told⟩ := node.after_answers _ _ answered
  rw [same, known] at told
  cases told
  rfl

theorem answers_truly {node : Node} {block : Hash} {held : Block}
    (known : node.blocks.get? block = some held) (request : Request) :
    (Observation.answered request (node.answer request).2.1).IsTrueOf block held.content := by
  cases request with
  | nonce account => trivial
  | send extrinsic =>
      simp only [answer]
      split <;> trivial
  | position place extrinsic =>
      simp only [answer]
      cases answered : (node.position place extrinsic).2 with
      | error cause => trivial
      | ok found =>
          rintro rfl
          exact position_true known answered
  | events place =>
      simp only [answer]
      cases answered : (node.eventsAt place).2 with
      | error cause => trivial
      | ok events =>
          rintro rfl
          exact events_true known answered

end Node

end LedgerCourier
