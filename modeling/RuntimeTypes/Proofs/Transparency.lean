import Mathlib.Data.Finset.Card
import RuntimeTypes.Class.Registry
import RuntimeTypes.Proofs.Remembered

/-!
# Memory does not show

Over a source that does not change, a hierarchy answers every question as one would that remembers
nothing. What it remembers is a log: a question adds the lineage it consults, if it consults one and
this is not there yet, together with the event of computing it, and nothing is ever changed or taken
away. So after any series of questions there is one row, and one event, for each class consulted.
-/

namespace RuntimeTypes

namespace Hierarchy

variable {h g : Hierarchy} {p : Provider} {s : TypeSet} {v : Value} {c : String}

/-! ## Consulting a lineage -/

/-- Asks for the lineage of a class, where there is a class to ask about. -/
def consult (h : Hierarchy) : Option String → Reply (Option Lineage)
  | none => .done h none
  | some c => (h.lineage c).map fun known => some known.lineage

theorem matchingRule_eq_consult (h : Hierarchy) (s : TypeSet) (v : Value) :
    h.matchingRule s v = (h.consult (s.consultedClass? v)).map (s.rule? v) := by
  rw [matchingRule_eq]
  cases s.consultedClass? v <;> rfl

theorem hierarchy_ask (h : Hierarchy) (q : Question) :
    (h.ask q).hierarchy = (h.consult q.consulted?).hierarchy := by
  cases q with
  | lineage c => rfl
  | rule s v => exact congrArg Reply.hierarchy (matchingRule_eq_consult h s v)
  | accepts s v => exact congrArg Reply.hierarchy (matchingRule_eq_consult h s v)
  | check s v label =>
    exact (hierarchy_check h s v label).trans
      (congrArg Reply.hierarchy (matchingRule_eq_consult h s v))

theorem computations_consult (h : Hierarchy) (consulted : Option String) :
    (h.consult consulted).events.filter Event.isComputation = (h.consult consulted).events := by
  cases consulted with
  | none => rfl
  | some c =>
    show (h.lineage c).events.filter Event.isComputation = (h.lineage c).events
    rw [lineage]
    split <;> rfl

theorem computations_ask (h : Hierarchy) (q : Question) :
    (h.ask q).events.filter Event.isComputation = (h.consult q.consulted?).events := by
  have rule (s : TypeSet) (v : Value) : (h.matchingRule s v).events.filter Event.isComputation =
      (h.consult (s.consultedClass? v)).events := by
    rw [matchingRule_eq_consult]
    exact computations_consult h _
  cases q with
  | lineage c => exact computations_consult h (some c)
  | rule s v => exact rule s v
  | accepts s v => exact rule s v
  | check s v label =>
    show (h.check s v label).events.filter Event.isComputation = _
    rw [check]
    split <;> simp [rule, Event.isComputation, Question.consulted?]

/-! ## Answers -/

theorem answer_check_eq (same : (h.matchingRule s v).answer = (g.matchingRule s v).answer)
    (label : Option String) : (h.check s v label).answer = (g.check s v label).answer := by
  rw [check, check, same]
  split <;> rfl

theorem answer_ask_eq (hf : h.Faithful p) (gf : g.Faithful p) (q : Question) :
    (h.ask q).answer = (g.ask q).answer := by
  have rule := matchingRule_answer_eq hf gf
  cases q with
  | lineage c =>
    show Answer.lineage (h.lineage c).answer.lineage = .lineage (g.lineage c).answer.lineage
    rw [lineage_lineage hf, lineage_lineage gf]
  | rule s v => exact congrArg Answer.rule (rule s v)
  | accepts s v => exact congrArg (fun r => Answer.accepts r.isSome) (rule s v)
  | check s v label => exact congrArg Answer.check (answer_check_eq (rule s v) label)

theorem answer_askAll (hf : h.Faithful p) (qs : List Question) :
    (h.askAll qs).answer = qs.map fun q => ((ofProvider p).ask q).answer := by
  induction qs generalizing h with
  | nil => rfl
  | cons q qs ih =>
    show (h.ask q).answer :: ((h.ask q).hierarchy.askAll qs).answer = _
    rw [ih (hf.ask q), answer_ask_eq hf (faithful_ofProvider p), List.map_cons]

/-! ## What is remembered stays remembered -/

theorem mem_classes_iff : c ∈ h.classes ↔ (h.remembered? c).isSome = true := by
  rw [remembered?, Option.isSome_map, List.find?_isSome]
  constructor
  · intro known
    obtain ⟨row, hrow, rfl⟩ := List.mem_map.1 known
    obtain ⟨slot, found⟩ := List.getElem?_of_mem hrow
    exact ⟨(row, slot), List.mem_zipIdx_iff_getElem?.2 found, by simp⟩
  · rintro ⟨row, hrow, same⟩
    exact List.mem_map.2 ⟨row.1, List.fst_mem_of_mem_zipIdx hrow, by simpa using same⟩

/-- The rows that consulting a class adds to the cache: one, unless the class has a row already. -/
def newRows (h : Hierarchy) : Option String → List (String × Lineage)
  | none => []
  | some c => if c ∈ h.classes then [] else [(c, h.provider.lineage c)]

theorem cache_consult (h : Hierarchy) (consulted : Option String) :
    (h.consult consulted).hierarchy.cache = h.cache ++ h.newRows consulted := by
  cases consulted with
  | none => exact (List.append_nil _).symm
  | some c =>
    show (h.lineage c).hierarchy.cache = _
    rw [newRows]
    cases found : h.remembered? c with
    | some known =>
      rw [lineage_eq_done found, if_pos (mem_classes_iff.2 (by simp [found]))]
      exact (List.append_nil _).symm
    | none => rw [lineage, found, if_neg (by simp [mem_classes_iff, found])]

theorem events_consult (h : Hierarchy) (consulted : Option String) :
    (h.consult consulted).events =
      (h.newRows consulted).map fun row => row.2.computation row.1 := by
  cases consulted with
  | none => rfl
  | some c =>
    show (h.lineage c).events = _
    rw [newRows]
    cases found : h.remembered? c with
    | some known =>
      rw [lineage_eq_done found, if_pos (mem_classes_iff.2 (by simp [found]))]
      rfl
    | none =>
      rw [lineage, found, if_neg (by simp [mem_classes_iff, found])]
      rfl

theorem cache_prefix_askAll (h : Hierarchy) (qs : List Question) :
    h.cache <+: (h.askAll qs).hierarchy.cache := by
  induction qs generalizing h with
  | nil => exact List.prefix_refl _
  | cons q qs ih =>
    have step : h.cache <+: (h.ask q).hierarchy.cache := by
      rw [hierarchy_ask, cache_consult]
      exact List.prefix_append ..
    exact step.trans (ih _)

theorem remembered?_of_longer (longer : h.cache <+: g.cache) {known : Remembered}
    (found : h.remembered? c = some known) : g.remembered? c = some known := by
  obtain ⟨rows, grown⟩ := longer
  obtain ⟨row, hrow, rfl⟩ := Option.map_eq_some_iff.1 found
  rw [remembered?, ← grown, List.zipIdx_append, List.find?_append, hrow]
  rfl

theorem lineage_askAll_lineage (h : Hierarchy) (c : String) (qs : List Question) :
    let later := ((h.lineage c).hierarchy.askAll qs).hierarchy
    later.lineage c = .done later (h.lineage c).answer :=
  lineage_eq_done (remembered?_of_longer (cache_prefix_askAll _ qs) (h.remembered?_lineage c))

/-! ## One row and one event for each class -/

/-- A hierarchy holds one row for each class that was consulted, and the computations that were
reported are those of the rows. -/
structure Records (h : Hierarchy) (consulted : List String) (computations : List Event) :
    Prop where
  distinct : h.classes.Nodup
  complete : ∀ c, c ∈ h.classes ↔ c ∈ consulted
  reported : computations = h.cache.map fun row => row.2.computation row.1

theorem records_ofProvider (p : Provider) : (ofProvider p).Records [] [] :=
  ⟨List.nodup_nil, fun _ => Iff.rfl, rfl⟩

theorem classes_consult_of_mem (known : c ∈ h.classes) :
    (h.consult (some c)).hierarchy.classes = h.classes := by
  rw [classes, cache_consult, newRows, if_pos known, List.append_nil]
  rfl

theorem classes_consult_of_not_mem (unknown : c ∉ h.classes) :
    (h.consult (some c)).hierarchy.classes = h.classes ++ [c] := by
  rw [classes, cache_consult, newRows, if_neg unknown, List.map_append]
  rfl

theorem Records.consult {asked : List String} {computations : List Event}
    (records : h.Records asked computations) (consulted : Option String) :
    (h.consult consulted).hierarchy.Records (asked ++ consulted.toList)
      (computations ++ (h.consult consulted).events) where
  distinct := by
    cases consulted with
    | none => exact records.distinct
    | some c =>
      by_cases known : c ∈ h.classes
      · rw [classes_consult_of_mem known]
        exact records.distinct
      · rw [classes_consult_of_not_mem known, ← List.concat_eq_append, List.nodup_concat]
        exact ⟨known, records.distinct⟩
  complete d := by
    cases consulted with
    | none =>
      rw [Option.toList_none, List.append_nil]
      exact records.complete d
    | some c =>
      rw [Option.toList_some, List.mem_append, List.mem_singleton, ← records.complete]
      by_cases known : c ∈ h.classes
      · rw [classes_consult_of_mem known]
        exact (or_iff_left_of_imp fun same => same ▸ known).symm
      · rw [classes_consult_of_not_mem known, List.mem_append, List.mem_singleton]
  reported := by
    rw [cache_consult, List.map_append, records.reported, events_consult]

theorem Records.ask {asked : List String} {computations : List Event}
    (records : h.Records asked computations) (q : Question) :
    (h.ask q).hierarchy.Records (asked ++ q.consulted?.toList)
      (computations ++ (h.ask q).events.filter Event.isComputation) := by
  rw [hierarchy_ask, computations_ask]
  exact records.consult q.consulted?

theorem Records.askAll {asked : List String} {computations : List Event}
    (records : h.Records asked computations) (qs : List Question) :
    (h.askAll qs).hierarchy.Records (asked ++ qs.filterMap Question.consulted?)
      (computations ++ (h.askAll qs).events.filter Event.isComputation) := by
  induction qs generalizing h asked computations with
  | nil => simpa [Hierarchy.askAll] using records
  | cons q qs ih =>
    have rest := ih (records.ask q)
    rw [List.append_assoc, List.append_assoc, ← List.filter_append] at rest
    have consulted : q.consulted?.toList ++ qs.filterMap Question.consulted? =
        (q :: qs).filterMap Question.consulted? := by
      cases found : q.consulted? <;> simp [found]
    rw [consulted] at rest
    exact rest

theorem Records.cachedCount_eq {asked : List String} {computations : List Event}
    (records : h.Records asked computations) : h.cachedCount = asked.toFinset.card := by
  have same : h.classes.toFinset = asked.toFinset := by
    ext c
    rw [List.mem_toFinset, List.mem_toFinset, records.complete]
  rw [← same, List.toFinset_card_of_nodup records.distinct, classes, List.length_map]
  rfl

/-! ## Whole series of questions -/

theorem hierarchy_ask_of_not_object (hv : v.toObject? = none) {label : Option String}
    {q : Question} (about : q ∈ [.rule s v, .accepts s v, .check s v label]) (h : Hierarchy) :
    (h.ask q).hierarchy = h := by
  have nothing : s.consultedClass? v = none := by
    cases v with
    | object o => cases hv
    | _ => rfl
  have consulted : q.consulted? = none := by
    rcases List.mem_cons.1 about with rfl | about
    · exact nothing
    · rcases List.mem_pair.1 about with rfl | rfl <;> exact nothing
  rw [hierarchy_ask, consulted]
  rfl

/-- Questions of all sorts, in any order, over a source that does not change. Each answer is the one
that a hierarchy without memory gives. No row of the cache is ever replaced or dropped, and once a
class was asked for, its row answers. There is one row, and one report of a computation, for each
class that was consulted, and for no other; a value that is no object leaves no trace. -/
theorem askAll_transparent (p : Provider) (qs : List Question) :
    let run := (ofProvider p).askAll qs
    let h := run.hierarchy
    run.answer = qs.map (fun q => ((ofProvider p).ask q).answer) ∧
    (∀ more, h.cache <+: (h.askAll more).hierarchy.cache) ∧
    (∀ c more,
      let later := ((h.lineage c).hierarchy.askAll more).hierarchy
      later.lineage c = .done later (h.lineage c).answer) ∧
    h.classes.Nodup ∧
    (∀ c, c ∈ h.classes ↔ ∃ q ∈ qs, q.consulted? = some c) ∧
    run.events.filter Event.isComputation = h.cache.map (fun row => row.2.computation row.1) ∧
    h.cachedCount = (qs.filterMap Question.consulted?).toFinset.card ∧
    ∀ s v label, v.toObject? = none →
      ∀ q ∈ [Question.rule s v, .accepts s v, .check s v label], (h.ask q).hierarchy = h := by
  intro run h
  have records : h.Records (qs.filterMap Question.consulted?)
      (run.events.filter Event.isComputation) := (records_ofProvider p).askAll qs
  refine ⟨?_, ?_, ?_, records.distinct, ?_, records.reported, records.cachedCount_eq, ?_⟩
  · exact answer_askAll (faithful_ofProvider p) qs
  · exact cache_prefix_askAll h
  · exact lineage_askAll_lineage h
  · intro c
    rw [records.complete, List.mem_filterMap]
  · intro s v label hv q about
    exact hierarchy_ask_of_not_object hv about h

/-- A ticket is looked at twice, and integers besides: one lineage is remembered, and another integer
does not change that. -/
theorem askAll_transparent_of_ticket :
    let ints := TypeSet.empty.insert (.basic .int)
    let ticket : Object := ⟨0, ⟨"Ticket", by decide +kernel⟩⟩
    let qs := [.accepts ints (.object ticket), .lineage "Ticket", .check ints (.int 5) none]
    let h := ((ofProvider Registry.empty.provider).askAll qs).hierarchy
    (Value.int 7).toObject? = none ∧ h.cachedCount = 1 ∧
      (h.ask (.accepts ints (.int 7))).hierarchy = h := by
  intro ints ticket qs h
  obtain ⟨_, _, _, _, _, _, count, unchanged⟩ := askAll_transparent Registry.empty.provider qs
  have consulted : qs.filterMap Question.consulted? = ["Ticket", "Ticket"] := by decide +kernel
  have about : Question.accepts ints (.int 7) ∈
      [.rule ints (.int 7), .accepts ints (.int 7), .check ints (.int 7) none] :=
    List.mem_cons_of_mem _ (List.mem_cons_self ..)
  refine ⟨rfl, ?_, unchanged ints (.int 7) none rfl _ about⟩
  rw [count, consulted]
  rfl

end Hierarchy

end RuntimeTypes
