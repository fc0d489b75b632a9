import Criteria.Text.Lowercase

/-!
# Lowercase of a part of a text

Only a capital sigma looks at what stands around it, so the lowercase of a part of a text can be
found in the lowercase of the whole text wherever the sigmas of the part take the same forms there
as in the part by itself (`KeepsSigmas`).

* `lowerFrom_append`: the lowercase of a text, cut at any place.
* `lowerChars_isInfix`: the lowercase of a part stands in the lowercase of the whole.
-/

namespace Criteria.Text

/-- The lowercase of a part of a text between `before`, read backwards, and `after`. -/
def lowerWithin (before after : List Char) : List Char → List Char
  | [] => []
  | c :: rest =>
    (if c = capitalSigma then [lowerSigma before (rest ++ after)] else lowerChar c)
      ++ lowerWithin (c :: before) after rest

theorem lowerFrom_append (before part after : List Char) :
    lowerFrom before (part ++ after) =
      lowerWithin before after part ++ lowerFrom (part.reverse ++ before) after := by
  induction part generalizing before with
  | nil => rfl
  | cons c rest ih =>
    simp only [List.cons_append, lowerFrom, lowerWithin, ih, List.append_assoc, List.reverse_cons,
      List.nil_append]

/-- Every capital sigma of a part takes the form in the text that it takes in the part by
itself. -/
def KeepsSigmas (before part after : List Char) : Prop :=
  ∀ left right, part = left ++ capitalSigma :: right →
    lowerSigma (left.reverse ++ before.reverse) (right ++ after) = lowerSigma left.reverse right

/-- A part whose sigmas are not affected by what stands beyond `near` and behind the part. -/
theorem lowerWithin_eq_lowerFrom {near far after part : List Char}
    (h : ∀ left right, part = left ++ capitalSigma :: right →
      lowerSigma (left.reverse ++ (near ++ far)) (right ++ after) =
        lowerSigma (left.reverse ++ near) right) :
    lowerWithin (near ++ far) after part = lowerFrom near part := by
  -- what stands before the part, and is near, grows by each character of the part
  induction part generalizing near with
  | nil => rfl
  | cons c rest ih =>
    have hrest : lowerWithin (c :: near ++ far) after rest = lowerFrom (c :: near) rest := by
      refine ih fun left right hpart => ?_
      have hleft := h (c :: left) right (by rw [hpart, List.cons_append])
      simpa only [List.reverse_cons, List.append_assoc, List.cons_append, List.nil_append]
        using hleft
    have hhead : (if c = capitalSigma then [lowerSigma (near ++ far) (rest ++ after)]
        else lowerChar c) = if c = capitalSigma then [lowerSigma near rest] else lowerChar c := by
      split
      · next hc =>
        have hsigma := h [] rest (by rw [hc, List.nil_append])
        exact congrArg (fun form => [form]) hsigma
      · rfl
    simp only [lowerWithin, lowerFrom, hhead]
    rw [← hrest, List.cons_append]

/-- The lowercase of a part that keeps its sigmas stands in the lowercase of the text. -/
theorem lowerChars_isInfix {before part after : List Char} (h : KeepsSigmas before part after) :
    lowerChars part <:+: lowerChars (before ++ part ++ after) := by
  have hpart : lowerWithin ([] ++ before.reverse) after part = lowerFrom [] part := by
    refine lowerWithin_eq_lowerFrom fun left right hsplit => ?_
    rw [List.nil_append, List.append_nil]
    exact h left right hsplit
  rw [List.nil_append] at hpart
  refine ⟨lowerWithin [] (part ++ after) before,
    lowerFrom (part.reverse ++ before.reverse) after, ?_⟩
  unfold lowerChars
  rw [List.append_assoc before, lowerFrom_append, lowerFrom_append, List.append_nil, hpart,
    List.append_assoc]

end Criteria.Text
