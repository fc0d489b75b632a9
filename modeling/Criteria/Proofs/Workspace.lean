import Criteria.Proofs.Except
import Criteria.Proofs.Formula.Selection
import Criteria.Workspace

/-!
# What commands leave

A command that is carried out sets the columns, sets the rows, takes rows away, stores one formula,
or leaves everything as it was (`Workspace.step_of_run`).  From this follows what any number of them
leave: rows under the numbers that they were given when the rows were last set, and formulas in
increasing order of their names (`Workspace.orderly_session`), each under its name until another one
is stored there (`Workspace.lookup_session`).  A command is refused for a name that is not in use or
for a fault (`Workspace.run_eq_error_iff`), and one that is refused makes no difference to the
others (`Workspace.session_accepted`).
-/

namespace Criteria

/-! ## Values under names -/

section

variable {α : Type} {name : String} {value : α} {xs : List (String × α)}

theorem lookup_cons_eq (other : String) (x : String × α) :
    (x :: xs).lookup other = if other = x.1 then some x.2 else xs.lookup other := by
  rw [List.lookup_cons]
  by_cases h : other = x.1
  · simp [h]
  · simp [h, beq_false_of_ne h]

/-- The value is found under its name, and nothing else has changed. -/
theorem lookup_insertNamed (other : String) :
    (insertNamed name value xs).lookup other =
      if other = name then some value else xs.lookup other := by
  induction xs with
  | nil => rw [insertNamed, lookup_cons_eq]
  | cons x rest ih =>
    obtain ⟨first, old⟩ := x
    rw [insertNamed]
    split
    · next hfirst =>
      subst hfirst
      rw [lookup_cons_eq, lookup_cons_eq]
      split <;> rfl
    · next hfirst =>
      split
      · rw [lookup_cons_eq]
      · rw [lookup_cons_eq, ih, lookup_cons_eq]
        by_cases hother : other = name
        · simp [hother, hfirst]
        · simp [hother]

theorem mem_insertNamed {x : String × α} (h : x ∈ insertNamed name value xs) :
    x.1 = name ∨ x ∈ xs := by
  induction xs with
  | nil => exact .inl (by rw [List.mem_singleton.1 h])
  | cons y rest ih =>
    rw [insertNamed] at h
    split at h
    · rcases List.mem_cons.1 h with rfl | h
      · exact .inl rfl
      · exact .inr (List.mem_cons_of_mem _ h)
    · split at h
      · rcases List.mem_cons.1 h with rfl | h
        · exact .inl rfl
        · exact .inr h
      · rcases List.mem_cons.1 h with rfl | h
        · exact .inr List.mem_cons_self
        · exact (ih h).imp_right (List.mem_cons_of_mem _)

/-- Names that increase still do. -/
theorem pairwise_insertNamed (h : xs.Pairwise fun x y => x.1 < y.1) :
    (insertNamed name value xs).Pairwise fun x y => x.1 < y.1 := by
  induction xs with
  | nil => exact List.pairwise_singleton _ _
  | cons y rest ih =>
    obtain ⟨hfirst, hrest⟩ := List.pairwise_cons.1 h
    rw [insertNamed]
    split
    · next hname =>
      exact List.pairwise_cons.2 ⟨fun z hz => hname ▸ hfirst z hz, hrest⟩
    · next hname =>
      split
      · next hlt =>
        refine List.pairwise_cons.2 ⟨fun z hz => ?_, h⟩
        rcases List.mem_cons.1 hz with rfl | hz
        · exact hlt
        · exact String.lt_trans hlt (hfirst z hz)
      · next hlt =>
        refine List.pairwise_cons.2 ⟨fun z hz => ?_, ih hrest⟩
        rcases mem_insertNamed hz with hz | hz
        · rw [hz]
          rcases Std.lt_trichotomy y.1 name with hless | heq | hgreater
          · exact hless
          · exact absurd heq.symm hname
          · exact absurd hgreater hlt
        · exact hfirst z hz

end

/-! ## Numbered records -/

/-- Records with their places as numbers. -/
def numbered (records : List Record) : List Row :=
  records.zipIdx.map fun p => ⟨p.2, p.1⟩

theorem getElem?_of_mem_numbered {records : List Record} {row : Row} (h : row ∈ numbered records) :
    records[row.id]? = some row.record := by
  obtain ⟨p, hp, rfl⟩ := List.mem_map.1 h
  exact List.mem_zipIdx_iff_getElem?.1 hp

theorem pairwise_numbered (records : List Record) :
    (numbered records).Pairwise fun r s => r.id < s.id := by
  have hids : (numbered records).map Row.id = List.range records.length := by
    simp [numbered, Function.comp_def, List.range_eq_range', List.zipIdx_map_snd]
  rw [← List.pairwise_map (f := Row.id) (R := (· < ·)), hids]
  exact List.pairwise_lt_range

/-! ## Which commands are refused -/

namespace Command

/-- The names of the formulas that a command is about, in the order in which it looks for them. -/
def reads : Command → List String
  | setColumns _ | setRows _ | define _ _ | compile _ _ _ _ => []
  | join _ _ left right | equal left right => [left, right]
  | copy name _ | leaves name | root name | accepts name | rejected name | filter name | copies name
  | retain name | count name | any name | all name | find name | position name => [name]

/-- The name under which a command stores a formula. -/
def stores? : Command → Option String
  | define name _ | compile name _ _ _ | join _ name _ _ | copy _ name => some name
  | _ => none

/-- The records that a command numbers afresh. -/
def sets? : Command → Option (List Record)
  | setRows records => some records
  | _ => none

/-- Whether a command does nothing but ask. -/
def asks : Command → Bool
  | equal _ _ | leaves _ | root _ | accepts _ | rejected _ | filter _ | copies _ | count _ | any _
  | all _ | find _ | position _ => true
  | _ => false

end Command

namespace Workspace

variable {w next : Workspace} {c : Command} {answer : Answer} {refusal : Refusal}

theorem formula_eq_ok_iff {name : String} {f : Formula} :
    w.formula name = .ok f ↔ w.formulas.lookup name = some f := by
  unfold formula
  cases w.formulas.lookup name <;> simp

theorem formula_eq_error_iff {name : String} :
    w.formula name = .error refusal ↔ name ∉ w.names ∧ refusal = .unknownName name := by
  have hnone : w.formulas.lookup name = none ↔ name ∉ w.names := by
    simp only [List.lookup_eq_none_iff, bne_iff_ne, names, List.mem_map, not_exists, not_and]
    exact forall_congr' fun x => imp_congr_right fun _ => ne_comm
  rw [← hnone, formula]
  cases w.formulas.lookup name <;> simp [eq_comm]

/-- Whether the first of some names that is not in use is what a refusal is for. -/
def Missing (w : Workspace) (names : List String) (refusal : Refusal) : Prop :=
  ∃ name, names.find? (· ∉ w.names) = some name ∧ refusal = .unknownName name

/-- Whether a refusal is for a fault in the filter that is to be compiled. -/
inductive Faulty (w : Workspace) : Command → Refusal → Prop
  | compile {name : String} {check : Bool} {options : Options} {filter : Filter}
      {fault : StagedFault}
      (h : filter.compile check (Schema.ofColumns w.columns) options = .error fault) :
    Faulty w (.compile name check options filter) (.fault fault)

theorem not_missing_nil : ¬ Missing w [] refusal := by
  rintro ⟨name, hname, -⟩
  cases hname

theorem bind_formula_eq_error_iff {β : Type} {name : String} {names : List String}
    {g : Formula → Except Refusal β} (hg : ∀ f, g f = .error refusal ↔ Missing w names refusal) :
    (w.formula name >>= g) = .error refusal ↔ Missing w (name :: names) refusal := by
  cases hf : w.formula name with
  | ok f =>
    have hname : name ∈ w.names := Decidable.byContradiction fun hname => by
      cases hf.symm.trans (formula_eq_error_iff.2 ⟨hname, rfl⟩)
    have hcons : Missing w (name :: names) refusal ↔ Missing w names refusal := by
      simp [Missing, hname]
    rw [hcons]
    exact hg f
  | error r =>
    obtain ⟨hname, rfl⟩ := formula_eq_error_iff.1 hf
    simp [Missing, hname, bind, Except.bind, eq_comm]

theorem pure_eq_error_iff {β : Type} {x : β} :
    (pure x : Except Refusal β) = .error refusal ↔ Missing w [] refusal :=
  iff_of_false nofun not_missing_nil

/-- A command is refused for the first of its names that is not in use, or for a fault in the filter
that it compiles. -/
theorem run_eq_error_iff :
    w.run c = .error refusal ↔ Missing w c.reads refusal ∨ Faulty w c refusal := by
  cases c with
  | compile name check options filter =>
    have hnames : ¬ Missing w (Command.compile name check options filter).reads refusal :=
      not_missing_nil
    rw [or_iff_right hnames, run]
    constructor
    · intro h
      split at h
      · next hfault =>
        cases h
        exact .compile hfault
      · cases h
      · cases h
    · rintro ⟨hfault⟩
      rw [hfault]
  | setColumns columns | setRows records | define name f =>
    exact iff_of_false nofun (not_or.2 ⟨not_missing_nil, nofun⟩)
  | join logic name left right =>
    rw [or_iff_left nofun]
    exact bind_formula_eq_error_iff fun _ => bind_formula_eq_error_iff fun _ => pure_eq_error_iff
  | equal left right =>
    rw [or_iff_left nofun]
    exact bind_formula_eq_error_iff fun _ => bind_formula_eq_error_iff fun _ => pure_eq_error_iff
  | copy name | leaves name | root name | accepts name | rejected name | filter name | copies name
  | retain name | count name | any name | all name | find name | position name =>
    rw [or_iff_left nofun]
    exact bind_formula_eq_error_iff fun _ => pure_eq_error_iff

/-! ## What a command leaves -/

/-- The formula that a command stores under its name. -/
inductive Stores (w : Workspace) : Command → String → Formula → Prop
  | define (name : String) (f : Formula) : Stores w (.define name f) name f
  | compile {name : String} {check : Bool} {options : Options} {filter : Filter} {f : Formula}
      (h : filter.compile check (Schema.ofColumns w.columns) options = .ok (some f)) :
    Stores w (.compile name check options filter) name f
  | join {logic : Logic} {name left right : String} {f f' : Formula}
      (hf : w.formulas.lookup left = some f) (hf' : w.formulas.lookup right = some f') :
    Stores w (.join logic name left right) name (Formula.join logic f f')
  | copy {source name : String} {f : Formula} (hf : w.formulas.lookup source = some f) :
    Stores w (.copy source name) name f

theorem Stores.stores?_eq {name : String} {f : Formula} (h : Stores w c name f) :
    c.stores? = some name := by
  cases h <;> rfl

/-- What a command makes of a workspace. -/
inductive Step (w : Workspace) : Command → Workspace → Prop
  | setColumns (columns : List (String × ColumnType)) :
    Step w (.setColumns columns) { w with columns }
  | setRows (records : List Record) :
    Step w (.setRows records) { w with rows := numbered records }
  | retain {name : String} {f : Formula} (hf : w.formulas.lookup name = some f) :
    Step w (.retain name) { w with rows := f.filter Row.record w.rows }
  | store {c : Command} {name : String} {f : Formula} (h : Stores w c name f) :
    Step w c (w.define name f)
  /-- There is nothing to store if all that the filter has is left out. -/
  | compileNone {name : String} {check : Bool} {options : Options} {filter : Filter}
      (h : filter.compile check (Schema.ofColumns w.columns) options = .ok none) :
    Step w (.compile name check options filter) w
  | ask {c : Command} (h : c.asks = true) : Step w c w
  | refuse {c : Command} {refusal : Refusal} (h : w.run c = .error refusal) : Step w c w

theorem step_of_run (h : w.run c = .ok (next, answer)) : Step w c next := by
  cases c with
  | setColumns columns =>
    cases h
    exact .setColumns columns
  | setRows records =>
    cases h
    exact .setRows records
  | define name f =>
    cases h
    exact .store (.define name f)
  | compile name check options filter =>
    rw [run] at h
    split at h
    · cases h
    · next hnone =>
      cases h
      exact .compileNone hnone
    · next f hsome =>
      cases h
      exact .store (.compile hsome)
  | join logic name left right =>
    obtain ⟨f, hf, h⟩ := bind_eq_ok_iff.1 h
    obtain ⟨f', hf', h⟩ := bind_eq_ok_iff.1 h
    cases h
    exact .store (.join (formula_eq_ok_iff.1 hf) (formula_eq_ok_iff.1 hf'))
  | copy source name =>
    obtain ⟨f, hf, h⟩ := bind_eq_ok_iff.1 h
    cases h
    exact .store (.copy (formula_eq_ok_iff.1 hf))
  | equal left right =>
    obtain ⟨f, -, h⟩ := bind_eq_ok_iff.1 h
    obtain ⟨f', -, h⟩ := bind_eq_ok_iff.1 h
    cases h
    exact .ask rfl
  | retain name =>
    obtain ⟨f, hf, h⟩ := bind_eq_ok_iff.1 h
    cases h
    rw [Formula.retain_toArray]
    exact .retain (formula_eq_ok_iff.1 hf)
  | leaves name | root name | accepts name | rejected name | filter name | copies name
  | count name | any name | all name | find name | position name =>
    obtain ⟨f, -, h⟩ := bind_eq_ok_iff.1 h
    cases h
    exact .ask rfl

theorem Step.lookup {name : String} (hstep : Step w c next) (hname : c.stores? ≠ some name) :
    next.formulas.lookup name = w.formulas.lookup name := by
  cases hstep with
  | store h =>
    rw [define, lookup_insertNamed, if_neg]
    rintro rfl
    exact hname h.stores?_eq
  | setColumns columns => rfl
  | setRows records => rfl
  | retain hf => rfl
  | compileNone h => rfl
  | ask h => rfl
  | refuse h => rfl

/-- Only one command numbers records. -/
theorem Step.rows_eq (hstep : Step w c next) :
    (∃ records, c.sets? = some records ∧ next.rows = numbered records) ∨
      c.sets? = none ∧ next.rows.Sublist w.rows := by
  cases hstep with
  | setRows records => exact .inl ⟨records, rfl, rfl⟩
  | retain hf => exact .inr ⟨rfl, List.filter_sublist⟩
  | setColumns columns => exact .inr ⟨rfl, List.Sublist.refl _⟩
  | store h =>
    refine .inr ⟨?_, List.Sublist.refl _⟩
    cases h <;> rfl
  | compileNone h => exact .inr ⟨rfl, List.Sublist.refl _⟩
  | ask h =>
    refine .inr ⟨?_, List.Sublist.refl _⟩
    cases c <;> first | rfl | cases h
  | refuse h =>
    refine .inr ⟨?_, List.Sublist.refl _⟩
    cases c <;> first | rfl | cases h

theorem Step.increasing (hstep : Step w c next) (h : w.formulas.Pairwise fun x y => x.1 < y.1) :
    next.formulas.Pairwise fun x y => x.1 < y.1 := by
  cases hstep with
  | store hstored => exact pairwise_insertNamed h
  | setColumns columns => exact h
  | setRows records => exact h
  | retain hf => exact h
  | compileNone hnone => exact h
  | ask hask => exact h
  | refuse hrefuse => exact h

/-- Rows under the numbers that they have among records, and formulas in increasing order of their
names. -/
structure Orderly (records : List Record) (w : Workspace) : Prop where
  rows : w.rows.Sublist (numbered records)
  formulas : w.formulas.Pairwise fun x y => x.1 < y.1

namespace Orderly

variable {records : List Record}

theorem getElem?_id (h : Orderly records w) {row : Row} (hrow : row ∈ w.rows) :
    records[row.id]? = some row.record :=
  getElem?_of_mem_numbered (h.rows.mem hrow)

theorem increasing (h : Orderly records w) : w.rows.Pairwise fun r s => r.id < s.id :=
  (pairwise_numbered records).sublist h.rows

theorem step (h : Orderly records w) (hstep : Step w c next) :
    Orderly (c.sets?.getD records) next := by
  refine ⟨?_, hstep.increasing h.formulas⟩
  rcases hstep.rows_eq with ⟨records', hsets, hrows⟩ | ⟨hsets, hrows⟩
  · rw [hsets]
    exact hrows ▸ List.Sublist.refl next.rows
  · rw [hsets]
    exact hrows.trans h.rows

end Orderly

/-! ## One after the other -/

/-- Carries out commands, passing over those that are refused. -/
def session (w : Workspace) : List Command → Workspace × List (Except Refusal Answer)
  | [] => (w, [])
  | c :: rest =>
    match w.run c with
    | .ok (next, answer) => ((session next rest).1, .ok answer :: (session next rest).2)
    | .error refusal => ((session w rest).1, .error refusal :: (session w rest).2)

theorem session_cons_of_ok {rest : List Command} (h : w.run c = .ok (next, answer)) :
    w.session (c :: rest) = ((next.session rest).1, .ok answer :: (next.session rest).2) := by
  rw [session, h]

theorem session_cons_of_error {rest : List Command} (h : w.run c = .error refusal) :
    w.session (c :: rest) = ((w.session rest).1, .error refusal :: (w.session rest).2) := by
  rw [session, h]

/-- The records that were set last, if any were. -/
def lastSet (before : List Record) (cs : List Command) : List Record :=
  (cs.filterMap Command.sets?).getLast?.getD before

theorem lastSet_cons (before : List Record) (c : Command) (rest : List Command) :
    lastSet before (c :: rest) = lastSet (c.sets?.getD before) rest := by
  unfold lastSet
  rw [List.filterMap_cons]
  cases c.sets? with
  | none => rfl
  | some records => rw [List.getLast?_cons, Option.getD_some, Option.getD_some]

/-- After a command the others go on from what it leaves. -/
theorem exists_step_session_cons (w : Workspace) (c : Command) (rest : List Command) :
    ∃ next, Step w c next ∧ (w.session (c :: rest)).1 = (next.session rest).1 := by
  cases h : w.run c with
  | ok found => exact ⟨found.1, step_of_run h, by rw [session_cons_of_ok h]⟩
  | error refusal => exact ⟨w, .refuse h, by rw [session_cons_of_error h]⟩

/-- A formula stays under its name until another one is stored there. -/
theorem lookup_session {name : String} {cs : List Command}
    (hcs : ∀ c ∈ cs, c.stores? ≠ some name) :
    (w.session cs).1.formulas.lookup name = w.formulas.lookup name := by
  induction cs generalizing w with
  | nil => rfl
  | cons c rest ih =>
    obtain ⟨hc, hrest⟩ := List.forall_mem_cons.1 hcs
    obtain ⟨next, hstep, hsession⟩ := exists_step_session_cons w c rest
    rw [hsession, ih hrest, hstep.lookup hc]

theorem Orderly.session {records : List Record} (h : Orderly records w) (cs : List Command) :
    Orderly (lastSet records cs) (w.session cs).1 := by
  induction cs generalizing w records with
  | nil => exact h
  | cons c rest ih =>
    obtain ⟨next, hstep, hsession⟩ := exists_step_session_cons w c rest
    rw [hsession, lastSet_cons]
    exact ih (h.step hstep)

/-- **Rows keep their numbers.**  Whatever commands are carried out from the start, every row has
the number of its place among the records that were set last, and the rows are still in the order of
these; the names of the formulas are in increasing order. -/
theorem orderly_session (cs : List Command) :
    (∀ row ∈ (session {} cs).1.rows, (lastSet [] cs)[row.id]? = some row.record) ∧
      ((session {} cs).1.rows.Pairwise fun r s => r.id < s.id) ∧
      (session {} cs).1.names.Pairwise (· < ·) := by
  have hstart : Orderly [] {} := ⟨List.Sublist.refl [], List.Pairwise.nil⟩
  have h := hstart.session cs
  exact ⟨fun row => h.getElem?_id, h.increasing, List.pairwise_map.2 h.formulas⟩

/-- The commands that are carried out. -/
def accepted (w : Workspace) (cs : List Command) : List Command :=
  ((cs.zip (w.session cs).2).filter fun p => p.2.toBool).map Prod.fst

/-- **A command that is refused makes no difference.**  Without it the same workspace is left, and
the others answer the same. -/
theorem session_accepted (w : Workspace) (cs : List Command) :
    w.session (w.accepted cs) =
      ((w.session cs).1, (w.session cs).2.filter Except.toBool) := by
  induction cs generalizing w with
  | nil => rfl
  | cons c rest ih =>
    cases h : w.run c with
    | ok found =>
      obtain ⟨next, answer⟩ := found
      have haccepted : w.accepted (c :: rest) = c :: next.accepted rest := by
        rw [accepted, session_cons_of_ok h]
        rfl
      rw [haccepted, session_cons_of_ok h, session_cons_of_ok h, ih next]
      rfl
    | error refusal =>
      have haccepted : w.accepted (c :: rest) = w.accepted rest := by
        rw [accepted, session_cons_of_error h]
        rfl
      rw [haccepted, session_cons_of_error h, ih w]
      rfl

end Workspace

end Criteria
