import Criteria.Proofs.Test.Acceptance
import Criteria.Proofs.Text.Lowercase

/-!
# Ignoring case accepts more

A test that ignores case accepts what the same test accepts that heeds it, with one exception.
Both sides are lowercased by themselves, and a capital sigma at the edge of the filter's text may
end a word there and not in the record's text.  Where every occurrence of the filter's text is cut
like that, the occurrence is lost.
-/

namespace Criteria

namespace Test

/-- A part of a text that keeps its sigmas is found whether or not case is ignored. -/
theorem containing_insensitive_of_keepsSigmas {value s : String} {before after : List Char}
    (hs : s.toList = before ++ value.toList ++ after)
    (hkeeps : Text.KeepsSigmas before value.toList after) :
    (containing value .insensitive).accepts (.text s) = true := by
  refine containing_accepts_iff.2 ⟨s, rfl, ?_⟩
  simp only [Case.normalize, Text.lowercase, String.toList_ofList, hs]
  exact Text.lowerChars_isInfix hkeeps

/-- **Ignoring case accepts more.**  This holds of every equality, every membership and every
overlap.  An occurrence is lost only if, wherever the filter's text stands in the record's, one of
its capital sigmas takes another form there than in the filter's text by itself. -/
theorem insensitive_of_sensitive (value : String) (values : List String) (cell : Cell) :
    ((equalTo value .sensitive).accepts cell = true →
        (equalTo value .insensitive).accepts cell = true) ∧
      ((amongst values .sensitive).accepts cell = true →
        (amongst values .insensitive).accepts cell = true) ∧
      ((sharing values .sensitive).accepts cell = true →
        (sharing values .insensitive).accepts cell = true) ∧
      ((containing value .sensitive).accepts cell = true →
        (containing value .insensitive).accepts cell = true ∨
          ∃ s, cell = .text s ∧ ∀ before after, s.toList = before ++ value.toList ++ after →
            ¬ Text.KeepsSigmas before value.toList after) := by
  refine ⟨fun h => ?_, fun h => ?_, fun h => ?_, fun h => ?_⟩
  · obtain ⟨s, rfl, hs⟩ := equalTo_accepts_iff.1 h
    exact equalTo_accepts_iff.2 ⟨s, rfl, congrArg Text.lowercase hs⟩
  · obtain ⟨s, rfl, v, hv, hs⟩ := amongst_accepts_iff.1 h
    exact amongst_accepts_iff.2 ⟨s, rfl, v, hv, congrArg Text.lowercase hs⟩
  · obtain ⟨items, rfl, s, hmem, v, hv, hs⟩ := sharing_accepts_iff.1 h
    exact sharing_accepts_iff.2 ⟨items, rfl, s, hmem, v, hv, congrArg Text.lowercase hs⟩
  · obtain ⟨s, rfl, -⟩ := containing_accepts_iff.1 h
    by_cases hkept : ∃ before after, s.toList = before ++ value.toList ++ after ∧
        Text.KeepsSigmas before value.toList after
    · obtain ⟨before, after, hs, hkeeps⟩ := hkept
      exact Or.inl (containing_insensitive_of_keepsSigmas hs hkeeps)
    · exact Or.inr ⟨s, rfl, fun before after hs hkeeps => hkept ⟨before, after, hs, hkeeps⟩⟩

/-- A text that ends in a capital sigma, in a record's text where the word goes on. -/
theorem insensitive_rejects_cut_word :
    (containing "ΑΣ" .sensitive).accepts (.text "ΑΣΑ") = true ∧
      (containing "ΑΣ" .insensitive).accepts (.text "ΑΣΑ") = false := by
  decide

end Test

end Criteria
