import Criteria.Proofs.Derive.Spelling
import Criteria.Proofs.Except
import Mathlib.Data.List.Induction

/-!
# What entries say together

Which entries may stand in a directive is told without reading them (`FilterDirective.Admits`,
`ModelDirective.Admits`), and what they say together is told by the last entry about each word
(`FilterDirective.given`, `ModelDirective.given`).  Reading entries one after the other comes to
the same.

* `FilterDirective.ofEntries_eq_ok_iff`, `ModelDirective.foldlM_add_eq_ok_iff`: the lists of
  entries that are read, and what they are read as.
* `FilterDirective.accepts_paging_iff`: what may stand beside the mark of the page's field.
-/

namespace Criteria.Source.Entry

/-! ## One entry -/

/-- The word that an entry is about, by itself or with a value. -/
def key? : Entry → Option String
  | path p => p.ident?
  | nameValue p _ => p.ident?
  | list .. => none

def names (key : String) (e : Entry) : Bool :=
  e.key? == some key

/-- Whether an entry is a word by itself. -/
def isFlag (key : String) : Entry → Bool
  | path p => p.isIdent key
  | _ => false

def text? : Entry → Option String
  | nameValue _ (.text s) => some s
  | _ => none

/-- The truth value that an entry gives; a word by itself stands for a true one. -/
def truth? : Entry → Option Bool
  | path _ => some true
  | nameValue _ (.bool b) => some b
  | _ => none

@[simp] theorem names_flag (key : String) (p : Path) :
    (path p).names key = (p.ident? == some key) := rfl

@[simp] theorem names_nameValue (key : String) (p : Path) (v : EntryValue) :
    (nameValue p v).names key = (p.ident? == some key) := rfl

@[simp] theorem isFlag_flag (key : String) (p : Path) :
    (path p).isFlag key = (p.ident? == some key) := rfl

@[simp] theorem isFlag_nameValue (key : String) (p : Path) (v : EntryValue) :
    (nameValue p v).isFlag key = false := rfl

@[simp] theorem text?_text (p : Path) (s : String) : (nameValue p (.text s)).text? = some s := rfl

@[simp] theorem truth?_flag (p : Path) : (path p).truth? = some true := rfl

@[simp] theorem truth?_bool (p : Path) (b : Bool) : (nameValue p (.bool b)).truth? = some b := rfl

theorem names_of_isFlag {key : String} {e : Entry} (h : e.isFlag key = true) :
    e.names key = true := by
  cases e with
  | path p => exact h
  | nameValue p v => cases h
  | list p tokens => cases h

theorem names_eq_false {key key' : String} {e : Entry} (h : e.names key = true)
    (hne : key ≠ key') : e.names key' = false := by
  unfold names at h ⊢
  rw [beq_iff_eq.1 h]
  simpa using hne

/-! ## The last entry about a word -/

def lastAbout (key : String) (es : List Entry) : Option Entry :=
  (es.filter (names key)).getLast?

variable {key : String} {es : List Entry}

theorem lastAbout_concat (key : String) (es : List Entry) (e : Entry) :
    lastAbout key (es ++ [e]) = if e.names key then some e else lastAbout key es := by
  unfold lastAbout
  by_cases h : e.names key = true
  · simp [List.filter_append, h]
  · simp [List.filter_append, h]

theorem of_lastAbout_eq_some {e : Entry} (h : lastAbout key es = some e) :
    e ∈ es ∧ e.names key = true :=
  List.mem_filter.1 (List.mem_of_getLast? h)

theorem lastAbout_eq_none_iff : lastAbout key es = none ↔ ∀ e ∈ es, e.names key = false := by
  simp [lastAbout]

/-- Where every entry about a word gives a value, the word has one if any entry is about it. -/
theorem isSome_bind_lastAbout_iff {α : Type} {value : Entry → Option α}
    (hvalue : ∀ e ∈ es, e.names key = true → (value e).isSome = true) :
    ((lastAbout key es).bind value).isSome = true ↔ ∃ e ∈ es, e.names key = true := by
  constructor
  · intro h
    obtain ⟨x, hx⟩ := Option.isSome_iff_exists.1 h
    obtain ⟨e, he, -⟩ := Option.bind_eq_some_iff.1 hx
    exact ⟨e, of_lastAbout_eq_some he⟩
  · rintro ⟨e, he, hnames⟩
    cases hlast : lastAbout key es with
    | none => exact absurd hnames (by simp [lastAbout_eq_none_iff.1 hlast e he])
    | some last =>
      obtain ⟨hmem, hnames⟩ := of_lastAbout_eq_some hlast
      exact hvalue last hmem hnames

theorem lastAbout_eq_some_iff {e : Entry} :
    lastAbout key es = some e ↔
      e.names key = true ∧
        ∃ before after, es = before ++ e :: after ∧ ∀ e' ∈ after, e'.names key = false := by
  rw [lastAbout, List.getLast?_filter, List.find?_eq_some_iff_append]
  refine and_congr_right fun _ => ⟨?_, ?_⟩
  · rintro ⟨after, before, hes, hafter⟩
    refine ⟨before.reverse, after.reverse, ?_, fun e' he' => ?_⟩
    · simpa using congrArg List.reverse hes
    · simpa using hafter e' (List.mem_reverse.1 he')
  · rintro ⟨before, after, rfl, hafter⟩
    refine ⟨after.reverse, before.reverse, by simp, fun e' he' => ?_⟩
    simp [hafter e' (List.mem_reverse.1 he')]

end Criteria.Source.Entry

namespace Criteria.Derive

open Criteria.Source Criteria.Source.Entry

/-! ## Values of rules -/

/-- The word in front of the keywords of a family. -/
def ruleOf : KeywordFamily → String
  | .case => "case"
  | .textMatch => "method"
  | .dateOp => "op"
  | .logic => "logic"

theorem nonemptyValue_eq_ok_iff {rule s : String} {v : EntryValue} :
    nonemptyValue rule v = .ok s ↔ v = .text s ∧ s ≠ "" := by
  cases v with
  | text found =>
    by_cases h : found = ""
    · simp only [nonemptyValue, textValue, h, if_true, reduceCtorEq, false_iff]
      rintro ⟨hs, hne⟩
      exact hne (EntryValue.text.inj hs).symm
    · simp only [nonemptyValue, textValue, h, if_false, Except.ok.injEq, EntryValue.text.injEq]
      constructor
      · rintro rfl
        exact ⟨rfl, h⟩
      · rintro ⟨hs, -⟩
        exact hs
  | bool b => simp [nonemptyValue, textValue]
  | other => simp [nonemptyValue, textValue]

theorem boolValue_eq_ok_iff {rule : String} {v : EntryValue} {b : Bool} :
    boolValue rule v = .ok b ↔ v = .bool b := by
  cases v <;> simp [boolValue]

theorem wordValue_eq_ok_iff {α : Type} {family : KeywordFamily} {table : Spellings α}
    {rule : String} {v : EntryValue} {choice : α} :
    wordValue family table rule v = .ok choice ↔
      ∃ s, v = .text s ∧ table.find? s = some choice := by
  cases v with
  | text s => cases h : table.find? s <;> simp [wordValue, textValue, h]
  | bool b => simp [wordValue, textValue]
  | other => simp [wordValue, textValue]

theorem wordValue_text {α : Type} {table : Spellings α} {s : String} {choice : α}
    (h : table.find? s = some choice) (family : KeywordFamily) (rule : String) :
    wordValue family table rule (.text s) = .ok choice :=
  wordValue_eq_ok_iff.2 ⟨s, rfl, h⟩

theorem exists_find?_iff {α : Type} {table : Spellings α} {s : String} :
    (∃ choice, table.find? s = some choice) ↔ foldAscii s ∈ table.words := by
  rw [← Option.ne_none_iff_exists', ne_eq, Spellings.find?_eq_none_iff, Classical.not_not]

/-- A reader whose state is decided by the entries read so far reads a list exactly if it admits
every entry. -/
theorem foldlM_eq_ok_iff {ε σ : Type} {step : σ → Entry → Except ε σ} {Admits : Entry → Prop}
    {given : List Entry → σ}
    (hadmits : ∀ es e, Admits e → step (given es) e = .ok (given (es ++ [e])))
    (honly : ∀ a e a', step a e = .ok a' → Admits e) {es : List Entry} {a : σ} :
    es.foldlM step (given []) = .ok a ↔ (∀ e ∈ es, Admits e) ∧ a = given es := by
  induction es using List.reverseRecOn generalizing a with
  | nil => simp [pure, Except.pure, eq_comm]
  | append_singleton es e ih =>
    rw [List.foldlM_append, bind_eq_ok_iff]
    simp only [List.foldlM_cons, List.foldlM_nil, bind_pure, List.mem_append, List.mem_singleton]
    constructor
    · rintro ⟨before, hbefore, hstep⟩
      obtain ⟨hes, rfl⟩ := ih.1 hbefore
      have he := honly _ _ _ hstep
      rw [hadmits es e he] at hstep
      refine ⟨?_, (Except.ok.inj hstep).symm⟩
      rintro e' (he' | rfl)
      · exact hes e' he'
      · exact he
    · rintro ⟨hall, rfl⟩
      refine ⟨given es, ih.2 ⟨fun e' he' => hall e' (.inl he'), rfl⟩, ?_⟩
      exact hadmits es e (hall e (.inr rfl))

/-! ## Directives of a filter's fields -/

namespace FilterDirective

/-- The entries that may stand in the directive of a filter's field: three words by themselves, the
name of another field, a keyword of a family after its word, and a truth value after two words. -/
inductive Admits : Entry → Prop
  | flag {p : Path} {key : String} (hp : p.ident? = some key)
      (hkey : key ∈ ["skip_synthesis", "paging", "ignore_if_empty"]) : Admits (.path p)
  | target {p : Path} {s : String} (hp : p.ident? = some "target") (hs : s ≠ "") :
      Admits (.nameValue p (.text s))
  | word {p : Path} {s : String} (family : KeywordFamily) (hp : p.ident? = some (ruleOf family))
      (hs : foldAscii s ∈ familyWords family) : Admits (.nameValue p (.text s))
  | truth {p : Path} {key : String} {b : Bool} (hp : p.ident? = some key)
      (hkey : key ∈ ["skip_synthesis", "ignore_if_empty"]) : Admits (.nameValue p (.bool b))

/-- What entries say together: for every rule what the last entry about it gives. -/
def given (es : List Entry) : FilterDirective where
  target := (lastAbout "target" es).bind text?
  case := (lastAbout "case" es).bind fun e => e.text?.bind caseSpellings.find?
  textMatch := (lastAbout "method" es).bind fun e => e.text?.bind textMatchSpellings.find?
  dateOp := (lastAbout "op" es).bind fun e => e.text?.bind dateOpSpellings.find?
  logic := (lastAbout "logic" es).bind fun e => e.text?.bind logicSpellings.find?
  ignoreIfEmpty := (lastAbout "ignore_if_empty" es).bind truth?
  skipSynthesis := ((lastAbout "skip_synthesis" es).bind truth?).getD false
  paging := es.any (isFlag "paging")

variable {a a' : FilterDirective} {e : Entry} {es : List Entry}

theorem admits_of_setFlag {p : Path} (h : a.setFlag p.ident? = .ok a') : Admits (.path p) := by
  unfold setFlag at h
  split at h
  · next hp => exact .flag hp (by decide)
  · next hp => exact .flag hp (by decide)
  · next hp => exact .flag hp (by decide)
  · cases h

theorem admits_of_wordValue {α : Type} (family : KeywordFamily) {p : Path} {v : EntryValue}
    {table : Spellings α} {choice : α} (hp : p.ident? = some (ruleOf family))
    (htable : familyWords family = table.words)
    (h : wordValue family table (ruleOf family) v = .ok choice) : Admits (.nameValue p v) := by
  obtain ⟨s, rfl, hfind⟩ := wordValue_eq_ok_iff.1 h
  refine .word family hp ?_
  rw [htable]
  exact exists_find?_iff.1 ⟨choice, hfind⟩

theorem admits_of_setRule {p : Path} {v : EntryValue} (h : a.setRule p.ident? v = .ok a') :
    Admits (.nameValue p v) := by
  unfold setRule at h
  split at h
  · next hp =>
    obtain ⟨s, hs, -⟩ := bind_eq_ok_iff.1 h
    obtain ⟨rfl, hne⟩ := nonemptyValue_eq_ok_iff.1 hs
    exact .target hp hne
  · next hp =>
    obtain ⟨choice, hchoice, -⟩ := bind_eq_ok_iff.1 h
    exact admits_of_wordValue .case hp rfl hchoice
  · next hp =>
    obtain ⟨choice, hchoice, -⟩ := bind_eq_ok_iff.1 h
    exact admits_of_wordValue .textMatch hp rfl hchoice
  · next hp =>
    obtain ⟨choice, hchoice, -⟩ := bind_eq_ok_iff.1 h
    exact admits_of_wordValue .dateOp hp rfl hchoice
  · next hp =>
    obtain ⟨choice, hchoice, -⟩ := bind_eq_ok_iff.1 h
    exact admits_of_wordValue .logic hp rfl hchoice
  · next hp =>
    obtain ⟨b, hb, -⟩ := bind_eq_ok_iff.1 h
    obtain rfl := boolValue_eq_ok_iff.1 hb
    exact .truth hp (by decide)
  · next hp =>
    obtain ⟨b, hb, -⟩ := bind_eq_ok_iff.1 h
    obtain rfl := boolValue_eq_ok_iff.1 hb
    exact .truth hp (by decide)
  · cases h

theorem admits_of_add (h : a.add e = .ok a') : Admits e := by
  cases e with
  | path p => exact admits_of_setFlag h
  | nameValue p v => exact admits_of_setRule h
  | list p tokens => cases h

/-- One more entry that may stand there has the last word about what it names. -/
theorem add_given (es : List Entry) (e : Entry) (h : Admits e) :
    (given es).add e = .ok (given (es ++ [e])) := by
  cases h with
  | flag hp hkey =>
    simp only [List.mem_cons, List.not_mem_nil, or_false] at hkey
    rcases hkey with rfl | rfl | rfl
    · simp [add, setFlag, hp, given, lastAbout_concat]
    · simp [add, setFlag, hp, given, lastAbout_concat]
    · simp [add, setFlag, hp, given, lastAbout_concat]
  | @target p s hp hs =>
    have hvalue : nonemptyValue "target" (.text s) = .ok s := nonemptyValue_eq_ok_iff.2 ⟨rfl, hs⟩
    simp [add, setRule, hp, hvalue, given, lastAbout_concat, Functor.map, Except.map]
  | word family hp hs =>
    cases family with
    | case =>
      obtain ⟨choice, hchoice⟩ := exists_find?_iff.2 hs
      simp [add, setRule, hp, ruleOf, wordValue_text hchoice, hchoice, given, lastAbout_concat,
        Functor.map, Except.map]
    | textMatch =>
      obtain ⟨choice, hchoice⟩ := exists_find?_iff.2 hs
      simp [add, setRule, hp, ruleOf, wordValue_text hchoice, hchoice, given, lastAbout_concat,
        Functor.map, Except.map]
    | dateOp =>
      obtain ⟨choice, hchoice⟩ := exists_find?_iff.2 hs
      simp [add, setRule, hp, ruleOf, wordValue_text hchoice, hchoice, given, lastAbout_concat,
        Functor.map, Except.map]
    | logic =>
      obtain ⟨choice, hchoice⟩ := exists_find?_iff.2 hs
      simp [add, setRule, hp, ruleOf, wordValue_text hchoice, hchoice, given, lastAbout_concat,
        Functor.map, Except.map]
  | truth hp hkey =>
    simp only [List.mem_cons, List.not_mem_nil, or_false] at hkey
    rcases hkey with rfl | rfl
    · simp [add, setRule, hp, boolValue, given, lastAbout_concat, Functor.map, Except.map]
    · simp [add, setRule, hp, boolValue, given, lastAbout_concat, Functor.map, Except.map]

theorem foldlM_add_eq_ok_iff :
    es.foldlM add {} = .ok a ↔ (∀ e ∈ es, Admits e) ∧ a = given es :=
  foldlM_eq_ok_iff add_given fun _ _ _ => admits_of_add

theorem ofEntries_eq_ok_iff :
    ofEntries es = .ok a ↔
      (∀ e ∈ es, Admits e) ∧ ¬ ((given es).paging = true ∧ (given es).hasRules = true) ∧
        a = given es := by
  unfold ofEntries
  rw [bind_eq_ok_iff]
  simp only [foldlM_add_eq_ok_iff]
  constructor
  · rintro ⟨a', ⟨hall, rfl⟩, h⟩
    split at h
    · cases h
    · next hexclusive =>
      rw [Bool.and_eq_true] at hexclusive
      exact ⟨hall, hexclusive, (Except.ok.inj h).symm⟩
  · rintro ⟨hall, hexclusive, rfl⟩
    refine ⟨_, ⟨hall, rfl⟩, ?_⟩
    rw [← Bool.and_eq_true] at hexclusive
    rw [if_neg hexclusive]

/-! ### Every entry about a rule gives it a value -/

theorem key_eq_of_names {p : Path} {key key' : String} (hp : p.ident? = some key)
    (hnames : (p.ident? == some key') = true) : key = key' :=
  Option.some.inj (hp.symm.trans (beq_iff_eq.1 hnames))

theorem ruleOf_inj {family family' : KeywordFamily} (h : ruleOf family = ruleOf family') :
    family = family' := by
  cases family <;> cases family' <;> first | rfl | exact absurd h (by decide)

theorem Admits.isSome_text? (h : Admits e) (hnames : e.names "target" = true) :
    e.text?.isSome = true := by
  cases h with
  | flag hp hkey =>
    obtain rfl := key_eq_of_names hp hnames
    exact absurd hkey (by decide)
  | target hp hs => rfl
  | word family hp hs => rfl
  | truth hp hkey =>
    obtain rfl := key_eq_of_names hp hnames
    exact absurd hkey (by decide)

theorem Admits.isSome_find? {α : Type} {table : Spellings α} (h : Admits e)
    (family : KeywordFamily) (htable : familyWords family = table.words)
    (hnames : e.names (ruleOf family) = true) : (e.text?.bind table.find?).isSome = true := by
  cases h with
  | flag hp hkey =>
    obtain rfl := key_eq_of_names hp hnames
    exact absurd hkey (by cases family <;> decide)
  | target hp hs => exact absurd (key_eq_of_names hp hnames) (by cases family <;> decide)
  | word family' hp hs =>
    obtain rfl := ruleOf_inj (key_eq_of_names hp hnames)
    rw [htable] at hs
    obtain ⟨choice, hchoice⟩ := exists_find?_iff.2 hs
    simp [hchoice]
  | truth hp hkey =>
    obtain rfl := key_eq_of_names hp hnames
    exact absurd hkey (by cases family <;> decide)

theorem Admits.isSome_truth? {key : String} (h : Admits e)
    (hkey : key ∈ ["skip_synthesis", "ignore_if_empty"]) (hnames : e.names key = true) :
    e.truth?.isSome = true := by
  cases h with
  | flag hp hflag => rfl
  | target hp hs =>
    obtain rfl := key_eq_of_names hp hnames
    exact absurd hkey (by decide)
  | word family hp hs =>
    obtain rfl := key_eq_of_names hp hnames
    exact absurd hkey (by cases family <;> decide)
  | truth hp htruth => rfl

/-! ### Rules beside the page -/

/-- The words that set a rule with every value that they can be given. -/
def settingWords : List String := ["target", "case", "method", "op", "logic", "ignore_if_empty"]

theorem hasRules_given_iff (hall : ∀ e ∈ es, Admits e) :
    (given es).hasRules = true ↔
      (∃ key ∈ settingWords, ∃ e ∈ es, e.names key = true) ∨
        (given es).skipSynthesis = true := by
  have htarget : (given es).target.isSome = true ↔ ∃ e ∈ es, e.names "target" = true :=
    isSome_bind_lastAbout_iff fun e he => (hall e he).isSome_text?
  have hcase : (given es).case.isSome = true ↔ ∃ e ∈ es, e.names "case" = true :=
    isSome_bind_lastAbout_iff fun e he => (hall e he).isSome_find? .case rfl
  have hmethod : (given es).textMatch.isSome = true ↔ ∃ e ∈ es, e.names "method" = true :=
    isSome_bind_lastAbout_iff fun e he => (hall e he).isSome_find? .textMatch rfl
  have hop : (given es).dateOp.isSome = true ↔ ∃ e ∈ es, e.names "op" = true :=
    isSome_bind_lastAbout_iff fun e he => (hall e he).isSome_find? .dateOp rfl
  have hlogic : (given es).logic.isSome = true ↔ ∃ e ∈ es, e.names "logic" = true :=
    isSome_bind_lastAbout_iff fun e he => (hall e he).isSome_find? .logic rfl
  have hignore : (given es).ignoreIfEmpty.isSome = true ↔
      ∃ e ∈ es, e.names "ignore_if_empty" = true :=
    isSome_bind_lastAbout_iff fun e he => (hall e he).isSome_truth? (by decide)
  simp only [hasRules, Bool.or_eq_true, htarget, hcase, hmethod, hop, hlogic, hignore,
    settingWords, List.mem_cons, List.not_mem_nil, or_false, exists_eq_or_imp, exists_eq_left,
    or_assoc]

/-- The entries that set no rule by being there: the mark of the page's field, and whether the
criterion is left out of formulas, which is what `false` leaves unset. -/
def Idle (e : Entry) : Prop :=
  e.isFlag "paging" = true ∨ (e.names "skip_synthesis" = true ∧ e.truth?.isSome = true)

theorem idle_of_admits (h : Admits e) (hnone : ∀ key ∈ settingWords, e.names key = false) :
    Idle e := by
  cases h with
  | flag hp hkey =>
    simp only [List.mem_cons, List.not_mem_nil, or_false] at hkey
    rcases hkey with rfl | rfl | rfl
    · right
      simp [hp]
    · left
      simp [hp]
    · have hignore := hnone "ignore_if_empty" (by decide)
      simp [hp] at hignore
  | target hp hs =>
    have htarget := hnone "target" (by decide)
    simp [hp] at htarget
  | word family hp hs =>
    have hword := hnone (ruleOf family) (by cases family <;> decide)
    simp [hp] at hword
  | truth hp hkey =>
    simp only [List.mem_cons, List.not_mem_nil, or_false] at hkey
    rcases hkey with rfl | rfl
    · right
      simp [hp]
    · have hignore := hnone "ignore_if_empty" (by decide)
      simp [hp] at hignore

theorem Idle.admits (h : Idle e) : Admits e := by
  rcases h with hflag | ⟨hskip, htruth⟩
  · cases e with
    | path p => exact .flag (beq_iff_eq.1 hflag) (by decide)
    | nameValue p v => cases hflag
    | list p tokens => cases hflag
  · cases e with
    | path p => exact .flag (beq_iff_eq.1 hskip) (by decide)
    | nameValue p v =>
      cases v with
      | text s => cases htruth
      | bool b => exact .truth (beq_iff_eq.1 hskip) (by decide)
      | other => cases htruth
    | list p tokens => cases hskip

theorem Idle.names_eq_false (h : Idle e) {key : String} (hkey : key ∈ settingWords) :
    e.names key = false := by
  rcases h with hflag | ⟨hskip, -⟩
  · apply Entry.names_eq_false (names_of_isFlag hflag)
    rintro rfl
    exact absurd hkey (by decide)
  · apply Entry.names_eq_false hskip
    rintro rfl
    exact absurd hkey (by decide)

theorem exists_ofEntries_iff_of_paging (hpaging : ∃ e ∈ es, e.isFlag "paging" = true) :
    (∃ a, ofEntries es = .ok a) ↔
      (∀ e ∈ es, Idle e) ∧ (given es).skipSynthesis = false := by
  have hpage : (given es).paging = true := List.any_eq_true.2 hpaging
  constructor
  · rintro ⟨a, h⟩
    obtain ⟨hall, hexclusive, -⟩ := ofEntries_eq_ok_iff.1 h
    have hnone : ¬ (given es).hasRules = true := fun hrules => hexclusive ⟨hpage, hrules⟩
    rw [hasRules_given_iff hall, not_or, Bool.not_eq_true] at hnone
    refine ⟨fun e he => idle_of_admits (hall e he) fun key hkey => ?_, hnone.2⟩
    exact Bool.eq_false_iff.2 fun hnames => hnone.1 ⟨key, hkey, e, he, hnames⟩
  · rintro ⟨hidle, hskip⟩
    have hall : ∀ e ∈ es, Admits e := fun e he => (hidle e he).admits
    refine ⟨given es, ofEntries_eq_ok_iff.2 ⟨hall, ?_, rfl⟩⟩
    rintro ⟨-, hrules⟩
    rcases (hasRules_given_iff hall).1 hrules with ⟨key, hkey, e, he, hnames⟩ | hskipped
    · exact absurd hnames (by simp [(hidle e he).names_eq_false hkey])
    · exact absurd hskipped (by simp [hskip])

theorem skipSynthesis_given_iff (hidle : ∀ e ∈ es, Idle e) :
    (given es).skipSynthesis = false ↔
      (∀ e ∈ es, e.isFlag "paging" = true) ∨
        ∃ e, lastAbout "skip_synthesis" es = some e ∧ e.truth? = some false := by
  cases hlast : lastAbout "skip_synthesis" es with
  | none =>
    refine iff_of_true (by simp [given, hlast]) (.inl fun e he => ?_)
    rcases hidle e he with hflag | ⟨hnames, -⟩
    · exact hflag
    · exact absurd hnames (by simp [lastAbout_eq_none_iff.1 hlast e he])
  | some last =>
    obtain ⟨hmem, hnames⟩ := of_lastAbout_eq_some hlast
    have hsome := (hidle last hmem).admits.isSome_truth? (by decide) hnames
    obtain ⟨b, hb⟩ := Option.isSome_iff_exists.1 hsome
    have hflags : ¬ ∀ e ∈ es, e.isFlag "paging" = true := by
      intro hflags
      have hpaging := names_of_isFlag (hflags last hmem)
      rw [Entry.names_eq_false hpaging (by decide)] at hnames
      cases hnames
    simp [given, hlast, hb, hflags]

/-- **What may stand beside the mark of the page's field.**  A list of entries with the mark in it
is accepted if it repeats the mark and holds nothing else, and in one more case: it may also say
whether the criterion is left out of formulas, as often as it likes, if it says so last with
`false`.  No other rule can be given, not even with its default value. -/
theorem accepts_paging_iff (hpaging : ∃ e ∈ es, e.isFlag "paging" = true) :
    (∃ a, ofEntries es = .ok a) ↔
      (∀ e ∈ es, e.isFlag "paging" = true) ∨
        (∀ e ∈ es, Idle e) ∧
          ∃ e, lastAbout "skip_synthesis" es = some e ∧ e.truth? = some false := by
  rw [exists_ofEntries_iff_of_paging hpaging]
  constructor
  · rintro ⟨hidle, hskip⟩
    rcases (skipSynthesis_given_iff hidle).1 hskip with hflags | hlast
    · exact .inl hflags
    · exact .inr ⟨hidle, hlast⟩
  · rintro (hflags | ⟨hidle, hlast⟩)
    · have hidle : ∀ e ∈ es, Idle e := fun e he => .inl (hflags e he)
      exact ⟨hidle, (skipSynthesis_given_iff hidle).2 (.inl hflags)⟩
    · exact ⟨hidle, (skipSynthesis_given_iff hidle).2 (.inr hlast)⟩

/-- The mark twice, with a rule that is set between and unset after. -/
theorem accepts_paging_unset_rule :
    let mark : Entry := .path ⟨false, ["paging"]⟩
    let skip : Path := ⟨false, ["skip_synthesis"]⟩
    let es := [mark, .path skip, mark, .nameValue skip (.bool false)]
    (∃ e ∈ es, e.isFlag "paging" = true) ∧ ∃ a, ofEntries es = .ok a := by
  intro mark skip es
  have hpaging : ∃ e ∈ es, e.isFlag "paging" = true := ⟨mark, by simp [es], by decide⟩
  refine ⟨hpaging, (accepts_paging_iff hpaging).2 (.inr ⟨?_, ?_⟩)⟩
  · simp only [es, List.forall_mem_cons, List.not_mem_nil, false_implies, implies_true, and_true]
    exact ⟨.inl rfl, .inr ⟨rfl, rfl⟩, .inl rfl, .inr ⟨rfl, rfl⟩⟩
  · exact ⟨.nameValue skip (.bool false), rfl, rfl⟩

/-- A second word beside the mark of the page's field, and the list is accepted all the same. -/
theorem accepts_paging_not_alone :
    let es : List Entry :=
      [.path ⟨false, ["paging"]⟩, .nameValue ⟨false, ["skip_synthesis"]⟩ (.bool false)]
    (∃ e ∈ es, e.isFlag "paging" = true) ∧
      ¬ ((∃ a, ofEntries es = .ok a) ↔ ∀ e ∈ es, e.isFlag "paging" = true) := by
  intro es
  refine ⟨⟨.path ⟨false, ["paging"]⟩, by simp [es], by decide⟩, fun h => ?_⟩
  have hflags := h.1 ⟨{ paging := true }, rfl⟩
  exact absurd (hflags (.nameValue ⟨false, ["skip_synthesis"]⟩ (.bool false)) (by simp [es]))
    (by decide)

end FilterDirective

/-! ## Directives of a record's fields -/

namespace ModelDirective

/-- The entries that may stand in the directive of a record's field. -/
inductive Admits : Entry → Prop
  | skip {p : Path} (hp : p.ident? = some "skip") : Admits (.path p)
  | rename {p : Path} {s : String} (hp : p.ident? = some "rename") (hs : s ≠ "") :
      Admits (.nameValue p (.text s))

/-- Whether some entry leaves the field out, and the last name that is given. -/
def given (es : List Entry) : ModelDirective where
  skip := es.any (isFlag "skip")
  rename := (lastAbout "rename" es).bind text?

variable {a a' : ModelDirective} {e : Entry} {es : List Entry}

theorem admits_of_add (h : a.add e = .ok a') : Admits e := by
  cases e with
  | path p =>
    simp only [add] at h
    split at h
    · next hp => exact .skip (by simpa [Path.isIdent] using hp)
    · cases h
  | nameValue p v =>
    simp only [add] at h
    split at h
    · next hp =>
      obtain ⟨s, hs, -⟩ := bind_eq_ok_iff.1 h
      obtain ⟨rfl, hne⟩ := nonemptyValue_eq_ok_iff.1 hs
      exact .rename (by simpa [Path.isIdent] using hp) hne
    · cases h
  | list p tokens => cases h

theorem add_given (es : List Entry) (e : Entry) (h : Admits e) :
    (given es).add e = .ok (given (es ++ [e])) := by
  cases h with
  | skip hp => simp [add, Path.isIdent, hp, given, lastAbout_concat]
  | @rename p s hp hs =>
    have hvalue : nonemptyValue "rename" (.text s) = .ok s := nonemptyValue_eq_ok_iff.2 ⟨rfl, hs⟩
    simp [add, Path.isIdent, hp, hvalue, given, lastAbout_concat, Functor.map, Except.map]

theorem foldlM_add_eq_ok_iff :
    es.foldlM add {} = .ok a ↔ (∀ e ∈ es, Admits e) ∧ a = given es :=
  foldlM_eq_ok_iff add_given fun _ _ _ => admits_of_add

theorem Admits.isSome_text? (h : Admits e) (hnames : e.names "rename" = true) :
    e.text?.isSome = true := by
  cases h with
  | skip hp => exact absurd ((beq_iff_eq.1 hnames).symm.trans hp) (by decide)
  | rename hp hs => rfl

end ModelDirective

end Criteria.Derive
