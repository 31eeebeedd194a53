import LedgerCourier.Operation.Reader
import Mathlib.Data.List.Forall2
import Mathlib.Data.List.Nodup

/-!
# What a form accepts

A form is given either as an object, which names each field at most once and nothing else, or as
an array, which has the fields in order and may only stop early. Either way every field gets one
value or none. Visiting accepts exactly what is given so, as long as each value passes the check
of its field; the order in which the reader looks for faults makes no difference to that.
-/

namespace LedgerCourier.Arguments

set_option autoImplicit false

/-- The names of fields, and whether each of them is required. -/
abbrev Layout := List (String × Bool)

/-- Which value a structured value gives for each of the fields, if any. -/
inductive Gives (layout : Layout) : Json → List (Option Json) → Prop where
  | object {entries : List (String × Json)} (once : (entries.map Prod.fst).Nodup)
      (known : ∀ key ∈ entries.map Prod.fst, key ∈ layout.map Prod.fst)
      (complete : ∀ field ∈ layout, field.2 = true → (entries.lookup field.1).isSome) :
      Gives layout (.object entries) (layout.map fun field => entries.lookup field.1)
  | array {items : List Json} (missing : Nat) (length : items.length + missing = layout.length)
      (optional : ∀ field ∈ layout.drop items.length, field.2 = false) :
      Gives layout (.array items) (items.map some ++ List.replicate missing none)

theorem Gives.single (name : String) (required : Bool) (value : Json) :
    Gives [(name, required)] (.object [(name, value)]) [some value] := by
  have gives : Gives [(name, required)] (.object [(name, value)])
      [[(name, value)].lookup name] := .object (by simp) (by simp) (by simp)
  simpa using gives

def Form.layout (form : Form) : Layout := form.fields.map fun field => (field.name, field.required)

def Field.Accepts (field : Field) (value : Option Json) : Prop :=
  ∀ given, value = some given → field.check given = .ok ()

theorem value_of_eq_lookup (name : String) (accepted : Accepted) :
    valueOf? name accepted = accepted.lookup name := by
  induction accepted with
  | nil => rfl
  | cons entry rest induction =>
      obtain ⟨key, value⟩ := entry
      rw [valueOf?, List.lookup_cons]
      by_cases same : key = name
      · simp [same]
      · have different : (name == key) = false := by simpa using Ne.symm same
        rw [if_neg same, different]
        exact induction

theorem lookup_isSome_iff (name : String) (entries : List (String × Json)) :
    (entries.lookup name).isSome ↔ name ∈ entries.map Prod.fst := by
  induction entries with
  | nil => simp
  | cons entry rest induction =>
      obtain ⟨key, value⟩ := entry
      rw [List.lookup_cons]
      by_cases same : name = key
      · simp [same]
      · have different : (name == key) = false := by simpa using same
        simp only [different, List.map_cons, List.mem_cons, same, false_or]
        exact induction

theorem lookup_of_mem {entries : List (String × Json)} (once : (entries.map Prod.fst).Nodup)
    {name : String} {value : Json} (member : (name, value) ∈ entries) :
    entries.lookup name = some value := by
  induction entries with
  | nil => cases member
  | cons entry rest induction =>
      obtain ⟨key, held⟩ := entry
      obtain ⟨absent, distinct⟩ := List.nodup_cons.mp once
      rw [List.lookup_cons]
      rcases List.mem_cons.mp member with same | inside
      · obtain ⟨rfl, rfl⟩ := Prod.mk.inj same
        simp
      · have different : name ≠ key := by
          intro same
          exact absent (List.mem_map.mpr ⟨(name, value), inside, same⟩)
        have unequal : (name == key) = false := by simpa using different
        simp only [unequal]
        exact induction distinct inside

theorem mem_of_lookup {entries : List (String × Json)} {name : String} {value : Json}
    (found : entries.lookup name = some value) : (name, value) ∈ entries := by
  rw [← value_of_eq_lookup] at found
  exact value_of_mem found

theorem find_field_iff {fields : List Field} (distinct : (fields.map Field.name).Nodup)
    (name : String) (field : Field) :
    (fields.find? fun other => other.name == name) = some field ↔
      field ∈ fields ∧ field.name = name := by
  constructor
  · intro found
    exact ⟨List.mem_of_find?_eq_some found, by simpa using List.find?_some found⟩
  · rintro ⟨member, rfl⟩
    cases found : fields.find? fun other => other.name == field.name with
    | none =>
        have absent := List.find?_eq_none.mp found field member
        simp at absent
    | some other =>
        have same : other.name = field.name := by simpa using List.find?_some found
        exact congrArg some
          (List.inj_on_of_nodup_map distinct (List.mem_of_find?_eq_some found) member same)

/-- What a pass over the fields of an object accepts. The induction is on what is still to come;
`accepted` holds what went before. -/
theorem visit_fields_iff (form : Form) (accepted result : Accepted)
    (entries : List (String × Json)) :
    form.visitFields accepted entries = .ok result ↔
      result = accepted ++ entries ∧ (entries.map Prod.fst).Nodup ∧
      (∀ key ∈ entries.map Prod.fst, valueOf? key accepted = none) ∧
      (∀ entry ∈ entries, ∃ field, (form.fields.find? fun field => field.name == entry.1) =
        some field ∧ field.check entry.2 = .ok ()) ∧
      ∀ field ∈ form.fields, field.required → (valueOf? field.name result).isSome := by
  induction entries generalizing accepted with
  | nil =>
      simp only [Form.visitFields]
      split
      next field missing =>
        have absent := List.find?_some missing
        simp only [Bool.and_eq_true, Option.isNone_iff_eq_none] at absent
        constructor
        · intro impossible
          cases impossible
        · rintro ⟨rfl, -, -, -, complete⟩
          have present := complete field (List.mem_of_find?_eq_some missing) absent.1
          simp [absent.2] at present
      next complete =>
        have present := List.find?_eq_none.mp complete
        simp only [Bool.and_eq_true, Option.isNone_iff_eq_none, not_and] at present
        constructor
        · rintro same
          cases same
          refine ⟨by simp, by simp, by simp, by simp, ?_⟩
          exact fun field member required =>
            Option.isSome_iff_ne_none.mpr (present field member required)
        · rintro ⟨rfl, -⟩
          simp
  | cons entry rest induction =>
      obtain ⟨key, value⟩ := entry
      simp only [Form.visitFields]
      cases found : form.fields.find? fun field => field.name == key with
      | none => simp [found]
      | some field =>
          cases held : valueOf? key accepted with
          | some earlier => simp [held]
          | none =>
              cases checked : field.check value with
              | error flaw => simp [found, checked]
              | ok passed =>
                  simp only [Option.isSome_none, Bool.false_eq_true, if_false, checked]
                  rw [induction, List.append_assoc, List.singleton_append]
                  have later : ∀ name, valueOf? name (accepted ++ [(key, value)]) = none ↔
                      valueOf? name accepted = none ∧ name ≠ key := by
                    intro name
                    simp only [← Option.not_isSome_iff_eq_none, value_of_eq_lookup,
                      lookup_isSome_iff]
                    simp
                  simp only [later, List.map_cons, List.nodup_cons, List.forall_mem_cons, found,
                    Option.some.injEq, exists_eq_left', checked, held, true_and]
                  constructor
                  · rintro ⟨rfl, distinct, fresh, checks, complete⟩
                    exact ⟨rfl, ⟨fun again => (fresh key again).2 rfl, distinct⟩,
                      fun name member => (fresh name member).1, checks, complete⟩
                  · rintro ⟨rfl, ⟨alone, distinct⟩, fresh, checks, complete⟩
                    exact ⟨rfl, distinct, fun name member =>
                      ⟨fresh name member, fun same => alone (same ▸ member)⟩, checks, complete⟩

theorem visit_items_iff (form : Form) (length : Nat) (fields : List Field) (items : List Json)
    (result : Accepted) :
    form.visitItems length fields items = .ok result ↔
      items.length ≤ fields.length ∧ result = (fields.map Field.name).zip items ∧
      (∀ pair ∈ fields.zip items, pair.1.check pair.2 = .ok ()) ∧
      ∀ field ∈ fields.drop items.length, field.required = false := by
  induction fields generalizing items result with
  | nil =>
      cases items with
      | nil =>
          simp only [Form.visitItems, Except.ok.injEq]
          constructor
          · rintro rfl
            simp
          · rintro ⟨-, rfl, -⟩
            simp
      | cons item rest => simp [Form.visitItems]
  | cons field fields induction =>
      cases items with
      | nil =>
          simp only [Form.visitItems]
          cases required : field.required with
          | true => simp [required]
          | false =>
              rw [if_neg (by simp), induction]
              simp [required]
      | cons item rest =>
          simp only [Form.visitItems]
          cases checked : field.check item with
          | error flaw => simp [checked]
          | ok passed =>
              have inner := induction rest
              cases visited : form.visitItems length fields rest with
              | error flaw =>
                  simp only [visited, reduceCtorEq, false_iff] at inner
                  simp only [reduceCtorEq, false_iff, List.length_cons, Nat.add_le_add_iff_right,
                    List.zip_cons_cons, List.forall_mem_cons, checked, true_and, List.map_cons,
                    List.drop_succ_cons]
                  rintro ⟨short, -, checks, optional⟩
                  exact inner _ ⟨short, rfl, checks, optional⟩
              | ok accepted =>
                  obtain ⟨short, rfl, checks, optional⟩ := (inner accepted).mp visited
                  simp only [Except.ok.injEq, List.length_cons, Nat.add_le_add_iff_right, short,
                    List.zip_cons_cons, List.forall_mem_cons, checked, true_and, List.map_cons,
                    List.drop_succ_cons]
                  exact ⟨fun same => ⟨same.symm, checks, optional⟩, fun all => all.1.symm⟩

/-- An array has values for the fields it reaches and none for the others. -/
theorem values_of_zip (fields : List Field) (distinct : (fields.map Field.name).Nodup)
    (items : List Json) (short : items.length ≤ fields.length) :
    (fields.map fun field => valueOf? field.name ((fields.map Field.name).zip items)) =
      items.map some ++ List.replicate (fields.length - items.length) none := by
  induction fields generalizing items with
  | nil =>
      have empty : items = [] := List.eq_nil_of_length_eq_zero (Nat.le_zero.mp short)
      simp [empty]
  | cons field fields induction =>
      obtain ⟨absent, distinct⟩ := List.nodup_cons.mp distinct
      cases items with
      | nil =>
          have nothing : ∀ name : String, valueOf? name [] = none := fun name => rfl
          simp [nothing, List.replicate_succ]
      | cons item rest =>
          have others : (fields.map fun other => valueOf? other.name
              ((field.name, item) :: (fields.map Field.name).zip rest)) =
                fields.map fun other => valueOf? other.name ((fields.map Field.name).zip rest) := by
            apply List.map_congr_left
            intro other member
            have different : field.name ≠ other.name := by
              intro same
              exact absent (same ▸ List.mem_map_of_mem member)
            rw [valueOf?, if_neg different]
          simp only [List.map_cons, List.zip_cons_cons, others, List.length_cons,
            Nat.add_sub_add_right, List.cons_append]
          rw [induction distinct rest (Nat.le_of_succ_le_succ short)]
          simp [valueOf?]

def Form.valuesOf (form : Form) (accepted : Accepted) : List (Option Json) :=
  form.fields.map fun field => valueOf? field.name accepted

theorem Form.layout_names (form : Form) :
    form.layout.map Prod.fst = form.fields.map Field.name := by
  simp [Form.layout, Function.comp_def]

theorem Form.values_of_entries (form : Form) (entries : List (String × Json)) :
    form.valuesOf entries = form.layout.map fun field => entries.lookup field.1 := by
  simp [Form.valuesOf, Form.layout, Function.comp_def, value_of_eq_lookup]

theorem visit_object_iff (form : Form) (distinct : (form.fields.map Field.name).Nodup)
    (entries : List (String × Json)) (values : List (Option Json)) :
    (∃ accepted, form.visit (.object entries) = .ok accepted ∧ form.valuesOf accepted = values) ↔
      Gives form.layout (.object entries) values ∧
        List.Forall₂ Field.Accepts form.fields values := by
  constructor
  · rintro ⟨accepted, visited, rfl⟩
    obtain ⟨same, once, -, checks, complete⟩ :=
      (visit_fields_iff form [] accepted entries).mp visited
    obtain rfl : accepted = entries := same
    constructor
    · rw [form.values_of_entries]
      refine .object once ?_ ?_
      · intro key member
        obtain ⟨entry, inside, rfl⟩ := List.mem_map.mp member
        obtain ⟨field, found, -⟩ := checks entry inside
        obtain ⟨listed, same⟩ := (find_field_iff distinct entry.1 field).mp found
        rw [form.layout_names]
        exact List.mem_map.mpr ⟨field, listed, same⟩
      · intro entry member required
        obtain ⟨field, listed, rfl⟩ := List.mem_map.mp member
        rw [← value_of_eq_lookup]
        exact complete field listed required
    · rw [Form.valuesOf, List.forall₂_map_right_iff, List.forall₂_same]
      intro field listed value found
      rw [value_of_eq_lookup] at found
      obtain ⟨other, same, passed⟩ := checks _ (mem_of_lookup found)
      rw [(find_field_iff distinct field.name field).mpr ⟨listed, rfl⟩] at same
      exact Option.some.inj same ▸ passed
  · rintro ⟨gives, checks⟩
    cases gives with
    | object once known complete =>
        refine ⟨entries, ?_, form.values_of_entries entries⟩
        refine (visit_fields_iff form [] entries entries).mpr ⟨rfl, once, fun _ _ => rfl, ?_, ?_⟩
        · intro entry inside
          have listed := known entry.1 (List.mem_map_of_mem inside)
          rw [form.layout_names] at listed
          obtain ⟨field, member, same⟩ := List.mem_map.mp listed
          refine ⟨field, (find_field_iff distinct entry.1 field).mpr ⟨member, same⟩, ?_⟩
          rw [← form.values_of_entries, Form.valuesOf, List.forall₂_map_right_iff,
            List.forall₂_same] at checks
          apply checks field member
          rw [value_of_eq_lookup, same]
          exact lookup_of_mem once inside
        · intro field member required
          rw [value_of_eq_lookup]
          exact complete (field.name, field.required) (List.mem_map_of_mem member) required

theorem visit_array_iff (form : Form) (distinct : (form.fields.map Field.name).Nodup)
    (items : List Json) (values : List (Option Json)) :
    (∃ accepted, form.visit (.array items) = .ok accepted ∧ form.valuesOf accepted = values) ↔
      Gives form.layout (.array items) values ∧
        List.Forall₂ Field.Accepts form.fields values := by
  have size : form.layout.length = form.fields.length := List.length_map _
  have behind : form.layout.drop items.length =
      (form.fields.drop items.length).map fun field => (field.name, field.required) :=
    List.map_drop.symm
  constructor
  · rintro ⟨accepted, visited, rfl⟩
    obtain ⟨short, rfl, checks, optional⟩ :=
      (visit_items_iff form items.length form.fields items accepted).mp visited
    rw [Form.valuesOf, values_of_zip form.fields distinct items short]
    constructor
    · refine .array _ (by omega) ?_
      intro entry member
      rw [behind] at member
      obtain ⟨field, listed, rfl⟩ := List.mem_map.mp member
      exact optional field listed
    · rw [List.forall₂_iff_get]
      constructor
      · simp only [List.length_append, List.length_map, List.length_replicate]
        omega
      · intro index first second given same
        by_cases inside : index < items.length
        · have value : items[index] = given := by
            simpa [List.getElem_append, inside] using same
          have pair : (form.fields[index], items[index]) ∈ form.fields.zip items :=
            List.mem_iff_getElem.mpr ⟨index, by simp; omega, by simp⟩
          exact value ▸ checks _ pair
        · simp [List.getElem_append, inside] at same
  · rintro ⟨gives, checks⟩
    cases gives with
    | array missing length optional =>
        have short : items.length ≤ form.fields.length := by omega
        refine ⟨(form.fields.map Field.name).zip items, ?_, ?_⟩
        · refine (visit_items_iff form items.length form.fields items _).mpr ⟨short, rfl, ?_, ?_⟩
          · intro pair member
            obtain ⟨index, inside, rfl⟩ := List.getElem_of_mem member
            rw [List.length_zip] at inside
            obtain ⟨-, each⟩ := List.forall₂_iff_get.mp checks
            rw [List.getElem_zip]
            apply each index (by omega) (by simp; omega)
            have reached : index < items.length := by omega
            simp [reached]
          · intro field member
            have listed : (field.name, field.required) ∈ form.layout.drop items.length := by
              rw [behind]
              exact List.mem_map_of_mem member
            exact optional _ listed
        · rw [Form.valuesOf, values_of_zip form.fields distinct items short]
          have rest : form.fields.length - items.length = missing := by omega
          rw [rest]

/-- A form accepts exactly what gives it values that pass the checks of their fields. -/
theorem visit_iff (form : Form) (distinct : (form.fields.map Field.name).Nodup) (json : Json)
    (values : List (Option Json)) :
    (∃ accepted, form.visit json = .ok accepted ∧ form.valuesOf accepted = values) ↔
      Gives form.layout json values ∧ List.Forall₂ Field.Accepts form.fields values := by
  cases json with
  | object entries => exact visit_object_iff form distinct entries values
  | array items => exact visit_array_iff form distinct items values
  | null | bool | integer | float | string =>
      constructor
      · rintro ⟨accepted, visited, -⟩
        cases visited
      · rintro ⟨gives, -⟩
        cases gives

theorem Gives.required {layout : Layout} {json : Json} {values : List (Option Json)}
    (gives : Gives layout json values) :
    List.Forall₂ (fun field value => field.2 = true → value.isSome) layout values := by
  cases gives with
  | object once known complete =>
      rw [List.forall₂_map_right_iff, List.forall₂_same]
      exact complete
  | @array items missing length optional =>
      rw [List.forall₂_iff_get]
      constructor
      · simp only [List.length_append, List.length_map, List.length_replicate]
        omega
      · intro index first second required
        by_cases inside : index < items.length
        · simp [inside]
        · have member : layout[index] ∈ layout.drop items.length := by
            rw [List.mem_drop_iff_getElem]
            refine ⟨index - items.length, by omega, ?_⟩
            simp [Nat.add_sub_cancel' (Nat.not_lt.mp inside)]
          have left := optional _ member
          rw [List.get_eq_getElem] at required
          simp [left] at required

end LedgerCourier.Arguments
