import Widgetry.Proofs.Arrival
import Widgetry.Proofs.Sessions

/-!
# What the counters of a service add up to

A request to a service is counted up to four times: as a run, as a run that ended well or not, by
its outcome, and by the type of its widget. The counters agree with each other in all states of a
session (`conserved_of_states`), whatever the texts, and however often the telemetry is switched on
and off and reset. An error in the middle of a request leaves out its outcome and its type together.

The laws are the same for every part of a session. They hold of the names that one step counts
(`conserved_counted`) and of two lists of names together if they hold of each (`conserved_append`).
-/

namespace Widgetry

namespace Service

open Telemetry Tally

/-! ## Names of counters -/

@[simp] theorem counterName_inj {operation outcome outcome' : Text} :
    counterName operation outcome = counterName operation outcome' ↔ outcome = outcome' := by
  simp [counterName]

/-- Is the counter one of those for the types of widgets? -/
def countsType (name : Text) : Bool := (typeOperation ++ ['.']).isPrefixOf name

@[simp] theorem countsType_type (word : Text) :
    countsType (counterName typeOperation word) = true := rfl

@[simp] theorem countsType_parse (outcome : Text) :
    countsType (counterName parseOperation outcome) = false := rfl

@[simp] theorem countsType_stream (outcome : Text) :
    countsType (counterName streamOperation outcome) = false := rfl

theorem ne_of_countsType {name other : Text} (h : countsType name = true)
    (hother : countsType other = false) : name ≠ other := by
  rintro rfl
  exact Bool.false_ne_true (hother.symm.trans h)

@[simp] theorem type_ne_parse (word outcome : Text) :
    counterName typeOperation word ≠ counterName parseOperation outcome :=
  ne_of_countsType (countsType_type word) (countsType_parse outcome)

@[simp] theorem type_ne_stream (word outcome : Text) :
    counterName typeOperation word ≠ counterName streamOperation outcome :=
  ne_of_countsType (countsType_type word) (countsType_stream outcome)

/-- The name of the one operation is a prefix of that of the other, but the period behind it is
not. -/
@[simp] theorem parse_ne_stream (outcome outcome' : Text) :
    counterName parseOperation outcome ≠ counterName streamOperation outcome' := by
  intro h
  have hperiod : some '.' = some '_' := congrArg (fun name => name[12]?) h
  exact absurd hperiod (by decide)

@[simp] theorem parse_ne_type (outcome word : Text) :
    counterName parseOperation outcome ≠ counterName typeOperation word :=
  (type_ne_parse word outcome).symm

@[simp] theorem stream_ne_type (outcome word : Text) :
    counterName streamOperation outcome ≠ counterName typeOperation word :=
  (type_ne_stream word outcome).symm

@[simp] theorem stream_ne_parse (outcome outcome' : Text) :
    counterName streamOperation outcome ≠ counterName parseOperation outcome' :=
  (parse_ne_stream outcome' outcome).symm

/-! ## The laws -/

/-- How often an outcome of an operation was counted. -/
def reading (tally : Tally) (operation : Text) (outcome : String) : Nat :=
  tally.count (counterName operation outcome.toList)

/-- The counters agree with each other, and with a number of streams that have failed. -/
structure Conserved (tally : Tally) (failures : Nat) : Prop where
  parse_total : reading tally parseOperation "total" = reading tally parseOperation "ok"
  parse_ok : reading tally parseOperation "ok" =
    reading tally parseOperation "success" + reading tally parseOperation "failure"
  parse_error : counterName parseOperation "error".toList ∉ tally.names
  stream_total : reading tally streamOperation "total" =
    reading tally streamOperation "ok" + reading tally streamOperation "error"
  stream_ok : reading tally streamOperation "ok" =
    reading tally streamOperation "complete" + reading tally streamOperation "partial" +
      reading tally streamOperation "undetected"
  stream_error : reading tally streamOperation "error" = failures
  types_total : tally.total countsType =
    reading tally parseOperation "success" + reading tally streamOperation "complete" +
      reading tally streamOperation "partial"
  types_named : ∀ name ∈ tally.names, countsType name = true →
    ∃ k : Keyword, name = counterName typeOperation k.text

@[simp] theorem reading_ofNames (names : List Text) (operation : Text) (outcome : String) :
    reading (ofNames names) operation outcome =
      names.count (counterName operation outcome.toList) :=
  count_ofNames names _

theorem reading_append (names names' : List Text) (operation : Text) (outcome : String) :
    reading (ofNames (names ++ names')) operation outcome =
      reading (ofNames names) operation outcome + reading (ofNames names') operation outcome := by
  rw [reading_ofNames, reading_ofNames, reading_ofNames, List.count_append]

/-- Nothing has been counted. -/
theorem conserved_nil : Conserved (ofNames []) 0 where
  parse_total := rfl
  parse_ok := rfl
  parse_error := List.not_mem_nil
  stream_total := rfl
  stream_ok := rfl
  stream_error := rfl
  types_total := rfl
  types_named := fun _ hname => absurd hname List.not_mem_nil

theorem conserved_append {names names' : List Text} {failures failures' : Nat}
    (h : Conserved (ofNames names) failures) (h' : Conserved (ofNames names') failures') :
    Conserved (ofNames (names ++ names')) (failures + failures') where
  parse_total := by rw [reading_append, reading_append, h.parse_total, h'.parse_total]
  parse_ok := by
    have := h.parse_ok
    have := h'.parse_ok
    simp only [reading_append]
    omega
  parse_error := by
    have hnames := h.parse_error
    have hnames' := h'.parse_error
    rw [mem_names_ofNames] at hnames hnames' ⊢
    exact List.not_mem_append hnames hnames'
  stream_total := by
    have := h.stream_total
    have := h'.stream_total
    simp only [reading_append]
    omega
  stream_ok := by
    have := h.stream_ok
    have := h'.stream_ok
    simp only [reading_append]
    omega
  stream_error := by rw [reading_append, h.stream_error, h'.stream_error]
  types_total := by
    have htypes := h.types_total
    have htypes' := h'.types_total
    rw [total_ofNames] at htypes htypes' ⊢
    rw [List.countP_append]
    simp only [reading_append]
    omega
  types_named := by
    intro name hname hcounts
    rcases List.mem_append.mp (mem_names_ofNames.mp hname) with hmem | hmem
    · exact h.types_named name (mem_names_ofNames.mpr hmem) hcounts
    · exact h'.types_named name (mem_names_ofNames.mpr hmem) hcounts

/-! ## One step -/

namespace Step

/-- Is it a request to a service, or one that switches or resets the telemetry? Other requests write
to the telemetry themselves. -/
def ofService : Step → Bool
  | parse _ | stream _ | enable _ | reset => true
  | record _ _ | track _ _ => false

/-- Is it a stream that fails? -/
def fails : Step → Bool
  | stream source =>
    match Streaming.stream source with
    | .error _ => true
    | .ok _ => false
  | _ => false

end Step

theorem conserved_of_parse (source : Text) :
    Conserved (ofNames (Step.parse source).counted) 0 := by
  rw [Step.counted]
  cases (parseBlock source).widget with
  | none => constructor <;> simp
  | some w => constructor <;> simp

theorem conserved_of_stream (source : Text) :
    Conserved (ofNames (Step.stream source).counted)
      (if (Step.stream source).fails then 1 else 0) := by
  rw [Step.counted, Step.fails]
  cases hstream : Streaming.stream source with
  | error e => constructor <;> simp
  | ok result =>
    dsimp only
    cases htype : result.detectedType with
    | none => constructor <;> simp
    | some name =>
      obtain ⟨k, rfl⟩ : ∃ k : Keyword, name = k.text := by
        rw [Streaming.detectedType_of_stream hstream, Option.map_eq_some_iff] at htype
        obtain ⟨k, -, hname⟩ := htype
        exact ⟨k, hname.symm⟩
      unfold streamOutcome
      cases result.complete <;> constructor <;> simp [List.countP_cons]

/-- **The laws hold of what one step counts.** -/
theorem conserved_counted {step : Step} (h : step.ofService = true) :
    Conserved (ofNames step.counted) (if step.fails then 1 else 0) := by
  cases step with
  | parse source => exact conserved_of_parse source
  | stream source => exact conserved_of_stream source
  | record operation outcome => exact absurd h Bool.false_ne_true
  | track operation fails => exact absurd h Bool.false_ne_true
  | enable enabled => exact conserved_nil
  | reset => exact conserved_nil

/-! ## A session -/

theorem conserved_flatMap {steps : List Step} (h : ∀ step ∈ steps, step.ofService = true) :
    Conserved (ofNames (steps.flatMap Step.counted)) (steps.countP Step.fails) := by
  induction steps with
  | nil => exact conserved_nil
  | cons step rest ih =>
    obtain ⟨hstep, hrest⟩ := List.forall_mem_cons.mp h
    rw [List.flatMap_cons, List.countP_cons, Nat.add_comm]
    exact conserved_append (conserved_counted hstep) (ih hrest)

theorem mem_of_mem_live {enabled : Bool} {steps : List Step} {step : Step}
    (h : step ∈ live enabled steps) : step ∈ steps := by
  obtain ⟨before, behind, rfl, -⟩ := mem_live_iff.mp h
  exact List.mem_append_right before List.mem_cons_self

/-- How many of the steps are streams that have failed while the telemetry was enabled, and that no
reset has forgotten. -/
def failures (enabled : Bool) (steps : List Step) : Nat := (live enabled steps).countP Step.fails

/-- **The counters agree with each other in all states of a session** that consists of requests to
the services, switches and resets. -/
theorem conserved_of_states {enabled : Bool} {steps : List Step}
    (hsteps : ∀ step ∈ steps, step.ofService = true) {i : Nat} {t : Telemetry}
    (ht : (states (fresh enabled) steps)[i]? = some t) :
    Conserved t.counters (failures enabled (steps.take i)) := by
  have hi : i ≤ steps.length := by
    have hlt := (List.getElem?_eq_some_iff.mp ht).choose
    rw [length_states] at hlt
    exact Nat.le_of_lt_succ hlt
  rw [getElem?_states hi] at ht
  obtain rfl := Option.some.inj ht
  rw [after_fresh]
  apply conserved_flatMap
  intro step hstep
  exact hsteps step (List.mem_of_mem_take (mem_of_mem_live hstep))

/-- A block that is read, one that is not, one that is not counted, and one that is arriving. -/
theorem conserved_four_texts :
    let steps := [Step.parse "text-input a".toList, .parse "input a".toList, .enable false,
      .parse "text-input b".toList, .enable true, .stream "select a [b".toList]
    ∃ t, (states (fresh true) steps)[6]? = some t ∧ reading t.counters parseOperation "total" = 2 ∧
      t.counters.total countsType = 2 ∧ Conserved t.counters (failures true (steps.take 6)) := by
  intro steps
  have hstate : (states (fresh true) steps)[6]? = some (after (fresh true) steps) :=
    getElem?_states (by decide)
  exact ⟨_, hstate, by decide +kernel, by decide +kernel, conserved_of_states (by decide) hstate⟩

end Service

end Widgetry
