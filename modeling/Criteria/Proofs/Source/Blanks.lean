import Criteria.Source.Lexer

/-!
# Blanks and comments

What may stand between two tokens is told without a reader (`Gap`): blanks, comments to the end of
a line, and comments between marks, which nest.  A documentation comment is none of these.  The
lexer drops what the grammar says, and nothing else (`gap_skipBlanks`, `skipBlanks_of_gap`).
-/

namespace Criteria.Source

/-! ## Comments to the end of a line -/

/-- Whether a text is at its end or at the end of a line. -/
def AtLineEnd (cs : List Char) : Prop :=
  cs = [] ∨ cs.head? = some '\n'

theorem readLine_append {comment rest : List Char} (hline : '\n' ∉ comment)
    (hrest : AtLineEnd rest) : (readLine (comment ++ rest)).2 = rest := by
  induction comment with
  | nil =>
    rcases hrest with rfl | hhead
    · rfl
    · obtain ⟨tail, rfl⟩ := List.head?_eq_some_iff.1 hhead
      rfl
  | cons c comment ih =>
    rw [List.mem_cons, not_or] at hline
    unfold readLine
    split
    · next h => cases h
    · next h => exact absurd (List.cons.inj h).1.symm hline.1
    · next tail h =>
      -- a carriage return that ends the comment is dropped with the line
      obtain ⟨-, htail⟩ := List.cons.inj h
      cases comment with
      | nil => exact htail.symm
      | cons d comment =>
        obtain ⟨rfl, -⟩ := List.cons.inj htail
        exact absurd List.mem_cons_self hline.2
    · next h =>
      obtain ⟨rfl, rfl⟩ := List.cons.inj h
      exact ih hline.2

theorem exists_line (cs : List Char) :
    ∃ comment, cs = comment ++ (readLine cs).2 ∧ '\n' ∉ comment ∧ AtLineEnd (readLine cs).2 := by
  fun_induction readLine cs with
  | case1 => exact ⟨[], rfl, List.not_mem_nil, .inl rfl⟩
  | case2 rest => exact ⟨[], rfl, List.not_mem_nil, .inr rfl⟩
  | case3 rest => exact ⟨['\r'], rfl, by decide, .inr rfl⟩
  | case4 c rest hfeed hreturn line left hread ih =>
    rw [hread] at ih
    obtain ⟨comment, hrest, hline, hend⟩ := ih
    refine ⟨c :: comment, congrArg (c :: ·) hrest, ?_, hend⟩
    rw [List.mem_cons, not_or]
    exact ⟨fun hc => hfeed hc.symm, hline⟩

theorem isDocLine_cons (c : Char) (cs : List Char) :
    isDocLine (c :: cs) = (c == '/' && cs.head? != some '/' || c == '!') := by
  unfold isDocLine
  split
  · next h => cases h; rfl
  · next tail hslash h =>
    obtain ⟨rfl, rfl⟩ := List.cons.inj h
    have hhead : cs.head? ≠ some '/' := by
      intro hhead
      obtain ⟨tail, rfl⟩ := List.head?_eq_some_iff.1 hhead
      exact hslash tail rfl
    simp [hhead]
  · next h => cases h; rfl
  · next hslash hbang =>
    have hc : c ≠ '/' := fun hc => hslash cs (congrArg (· :: cs) hc)
    have hc' : c ≠ '!' := fun hc => hbang cs (congrArg (· :: cs) hc)
    simp [hc, hc']

/-- What comes after a line does not make it documentation. -/
theorem isDocLine_append {comment rest : List Char} (hrest : AtLineEnd rest) :
    isDocLine (comment ++ rest) = isDocLine comment := by
  rcases hrest with rfl | hhead
  · rw [List.append_nil]
  obtain ⟨tail, rfl⟩ := List.head?_eq_some_iff.1 hhead
  cases comment with
  | nil => rfl
  | cons c comment =>
    rw [List.cons_append, isDocLine_cons, isDocLine_cons]
    cases comment with
    | nil => rfl
    | cons d comment => rfl

/-! ## Comments between marks -/

/-- Text that ends a comment and `around` comments around it with its last mark. -/
inductive Closes : Nat → List Char → Prop
  | close : Closes 0 ['*', '/']
  | inner {around : Nat} {cs : List Char} (h : Closes around cs) :
      Closes (around + 1) ('*' :: '/' :: cs)
  | nested {around : Nat} {cs : List Char} (h : Closes (around + 1) cs) :
      Closes around ('/' :: '*' :: cs)
  | char {around : Nat} {c : Char} {cs : List Char} (hopen : c = '/' → cs.head? ≠ some '*')
      (hclose : c = '*' → cs.head? ≠ some '/') (h : Closes around cs) : Closes around (c :: cs)

theorem Closes.exists_cons_cons {around : Nat} {cs : List Char} (h : Closes around cs) :
    ∃ c d tail, cs = c :: d :: tail := by
  induction h with
  | close => exact ⟨_, _, _, rfl⟩
  | inner h ih => exact ⟨_, _, _, rfl⟩
  | nested h ih => exact ⟨_, _, _, rfl⟩
  | char hopen hclose h ih =>
    obtain ⟨c, d, tail, rfl⟩ := ih
    exact ⟨_, c, d :: tail, rfl⟩

theorem readBlock?_append {around : Nat} {comment : List Char} (h : Closes around comment)
    (rest : List Char) :
    ∃ inside, readBlock? (around + 1) (comment ++ rest) = some (inside, rest) := by
  induction h with
  | close => exact ⟨[], by simp [readBlock?]⟩
  | inner h ih =>
    obtain ⟨inside, hread⟩ := ih
    exact ⟨'*' :: '/' :: inside, by simp [readBlock?, hread]⟩
  | nested h ih =>
    obtain ⟨inside, hread⟩ := ih
    exact ⟨'/' :: '*' :: inside, by simp [readBlock?, hread]⟩
  | @char around c cs hopen hclose h ih =>
    obtain ⟨inside, hread⟩ := ih
    obtain ⟨d, d', tail, rfl⟩ := h.exists_cons_cons
    refine ⟨c :: inside, ?_⟩
    rw [List.cons_append, readBlock?, hread]
    · rfl
    · intro more hc hmore
      exact hopen hc (congrArg List.head? hmore)
    · intro more hc hmore
      exact hclose hc (congrArg List.head? hmore)

theorem closes_of_readBlock? {depth around : Nat} {cs inside rest : List Char}
    (h : readBlock? depth cs = some (inside, rest)) (hdepth : depth = around + 1) :
    ∃ comment, Closes around comment ∧ cs = comment ++ rest := by
  fun_induction readBlock? depth cs generalizing around inside rest with
  | case1 depth cs ih =>
    obtain ⟨⟨inside, left⟩, hread, heq⟩ := Option.map_eq_some_iff.1 h
    obtain ⟨-, rfl⟩ := Prod.mk.inj heq
    obtain ⟨comment, hcomment, rfl⟩ := ih hread (congrArg (· + 1) hdepth)
    exact ⟨_, .nested hcomment, rfl⟩
  | case2 depth cs hlast =>
    obtain ⟨-, rfl⟩ := Prod.mk.inj (Option.some.inj h)
    obtain rfl : around = 0 := by omega
    exact ⟨_, .close, rfl⟩
  | case3 depth cs hmore ih =>
    obtain ⟨⟨inside, left⟩, hread, heq⟩ := Option.map_eq_some_iff.1 h
    obtain ⟨-, rfl⟩ := Prod.mk.inj heq
    obtain ⟨outer, rfl⟩ : ∃ outer, around = outer + 1 := ⟨around - 1, by omega⟩
    have houter : depth - 1 = outer + 1 := by omega
    obtain ⟨comment, hcomment, rfl⟩ := ih hread houter
    exact ⟨_, .inner hcomment, rfl⟩
  | case4 depth c cs hopen hclose ih =>
    obtain ⟨⟨inside, left⟩, hread, heq⟩ := Option.map_eq_some_iff.1 h
    obtain ⟨-, rfl⟩ := Prod.mk.inj heq
    obtain ⟨comment, hcomment, rfl⟩ := ih hread hdepth
    obtain ⟨d, d', tail, rfl⟩ := hcomment.exists_cons_cons
    have hhead : ∀ mark, some d = some mark →
        d :: d' :: tail ++ left = mark :: (d' :: tail ++ left) := by
      rintro mark ⟨⟩
      rfl
    refine ⟨_, .char (fun hc hd => ?_) (fun hc hd => ?_) hcomment, rfl⟩
    · exact hopen (d' :: tail ++ left) hc (hhead _ hd)
    · exact hclose (d' :: tail ++ left) hc (hhead _ hd)
  | case5 => cases h

theorem isDocBlock_cons (c : Char) (cs : List Char) :
    isDocBlock (c :: cs) =
      (c == '*' && cs.head? != some '*' && cs.head? != some '/' || c == '!') := by
  have hhead : ∀ d, (∀ tail, cs = d :: tail → False) → cs.head? ≠ some d := by
    intro d hd hhead
    obtain ⟨tail, rfl⟩ := List.head?_eq_some_iff.1 hhead
    exact hd tail rfl
  unfold isDocBlock
  split
  · next h => cases h; rfl
  · next h => cases h; rfl
  · next tail hstar hslash h =>
    obtain ⟨rfl, rfl⟩ := List.cons.inj h
    simp [hhead '*' hstar, hhead '/' hslash]
  · next h => cases h; rfl
  · next hstar hbang =>
    have hc : c ≠ '*' := fun hc => hstar cs (congrArg (· :: cs) hc)
    have hc' : c ≠ '!' := fun hc => hbang cs (congrArg (· :: cs) hc)
    simp [hc, hc']

/-- What comes after a comment does not make it documentation. -/
theorem Closes.isDocBlock_append {around : Nat} {comment : List Char} (h : Closes around comment)
    (rest : List Char) : isDocBlock (comment ++ rest) = isDocBlock comment := by
  obtain ⟨c, d, tail, rfl⟩ := h.exists_cons_cons
  rw [List.cons_append, isDocBlock_cons, isDocBlock_cons]
  rfl

/-! ## What stands between tokens -/

/-- A text that is blanks and comments in front of the second one. -/
inductive Gap : List Char → List Char → Prop
  | nil {rest : List Char} : Gap rest rest
  | blank {c : Char} {cs rest : List Char} (hc : isSourceBlank c = true) (h : Gap cs rest) :
      Gap (c :: cs) rest
  | line {comment cs rest : List Char} (hline : '\n' ∉ comment) (hcs : AtLineEnd cs)
      (hdoc : isDocLine comment = false) (h : Gap cs rest) :
      Gap ('/' :: '/' :: (comment ++ cs)) rest
  | block {comment cs rest : List Char} (hcomment : Closes 0 comment)
      (hdoc : isDocBlock comment = false) (h : Gap cs rest) :
      Gap ('/' :: '*' :: (comment ++ cs)) rest

/-- A gap begins with a blank or with the mark of a comment. -/
theorem Gap.eq_or_exists_cons {cs rest : List Char} (h : Gap cs rest) :
    cs = rest ∨ ∃ c tail, cs = c :: tail ∧ (isSourceBlank c = true ∨ c = '/') := by
  cases h with
  | nil => exact .inl rfl
  | blank hc h => exact .inr ⟨_, _, rfl, .inl hc⟩
  | line hline hcs hdoc h => exact .inr ⟨_, _, rfl, .inr rfl⟩
  | block hcomment hdoc h => exact .inr ⟨_, _, rfl, .inr rfl⟩

theorem gap_skipBlanks (fuel : Nat) (cs : List Char) : Gap cs (skipBlanks fuel cs) := by
  fun_induction skipBlanks fuel cs with
  | case1 cs => exact .nil
  | case2 fuel rest hdoc => exact .nil
  | case3 fuel rest hdoc ih =>
    obtain ⟨comment, hrest, hline, hend⟩ := exists_line rest
    generalize (readLine rest).2 = left at ih hrest hend
    subst hrest
    rw [isDocLine_append hend, Bool.not_eq_true] at hdoc
    exact .line hline hend hdoc ih
  | case4 fuel rest hdoc => exact .nil
  | case5 fuel rest hdoc inside left hread ih =>
    obtain ⟨comment, hcomment, rfl⟩ := closes_of_readBlock? hread rfl
    rw [hcomment.isDocBlock_append, Bool.not_eq_true] at hdoc
    exact .block hcomment hdoc ih
  | case6 fuel rest hdoc hread => exact .nil
  | case7 fuel c rest hline hblock hblank ih => exact .blank hblank ih
  | case8 fuel c rest hline hblock hblank => exact .nil
  | case9 fuel => exact .nil

theorem skipBlanks_succ_cons (fuel : Nat) {c : Char} (hc : c ≠ '/') (cs : List Char) :
    skipBlanks (fuel + 1) (c :: cs) = if isSourceBlank c then skipBlanks fuel cs else c :: cs := by
  rw [skipBlanks]
  · intro rest h
    exact absurd h hc
  · intro rest h
    exact absurd h hc

/-- A text that begins with neither a blank nor a comment is left as it is. -/
theorem skipBlanks_of_head {c : Char} (hc : c ≠ '/') (hblank : isSourceBlank c = false)
    (cs : List Char) (fuel : Nat) : skipBlanks fuel (c :: cs) = c :: cs := by
  cases fuel with
  | zero => rfl
  | succ fuel => rw [skipBlanks_succ_cons fuel hc, hblank, if_neg Bool.false_ne_true]

theorem skipBlanks_of_gap {cs rest : List Char} (h : Gap cs rest)
    (hrest : ∀ fuel, skipBlanks fuel rest = rest) {fuel : Nat} (hfuel : cs.length ≤ fuel) :
    skipBlanks fuel cs = rest := by
  induction h generalizing fuel with
  | nil => exact hrest fuel
  | @blank c cs rest hc h ih =>
    have hne : c ≠ '/' := by
      rintro rfl
      cases hc
    rw [List.length_cons] at hfuel
    obtain ⟨fuel, rfl⟩ : ∃ left, fuel = left + 1 := ⟨fuel - 1, by omega⟩
    rw [skipBlanks_succ_cons fuel hne, if_pos hc]
    exact ih hrest (by omega)
  | @line comment cs rest hline hcs hdoc h ih =>
    rw [List.length_cons, List.length_cons, List.length_append] at hfuel
    obtain ⟨fuel, rfl⟩ : ∃ left, fuel = left + 1 := ⟨fuel - 1, by omega⟩
    rw [skipBlanks, isDocLine_append hcs, hdoc, if_neg Bool.false_ne_true,
      readLine_append hline hcs]
    exact ih hrest (by omega)
  | @block comment cs rest hcomment hdoc h ih =>
    rw [List.length_cons, List.length_cons, List.length_append] at hfuel
    obtain ⟨fuel, rfl⟩ : ∃ left, fuel = left + 1 := ⟨fuel - 1, by omega⟩
    obtain ⟨inside, hread⟩ := readBlock?_append hcomment cs
    rw [skipBlanks, hcomment.isDocBlock_append, hdoc, if_neg Bool.false_ne_true, hread]
    exact ih hrest (by omega)

end Criteria.Source
