import ClassLiterals.Proofs.Batch.Alignment

/-!
# Translating by a glossary

A glossary answers every batch, with one translation for each text. So a run gives every text its
translation by the glossary, or itself if the glossary has none, and gives nothing for other texts.
In which batches the texts are sent makes no difference.

Main result: `getElem?_translateAll`.
-/

namespace ClassLiterals
namespace TranslationRun

/-- What a run by a glossary gives, for every size of its batches. -/
theorem getElem?_translateAll (g : Glossary) (batchSize : Nat) (texts : List String)
    (text : String) :
    (translateAll g.translator batchSize texts).translations[text]? =
      if text ∈ texts then some (g.getD text text) else none := by
  -- A size of zero counts as one.
  have haligned := aligned_translateAll g.translator (batchSize - 1) texts
  change (translateAll g.translator (batchSize - 1 + 1) texts).translations[text]? = _
  by_cases hmem : text ∈ texts
  · obtain ⟨p, hlast⟩ := exists_isLast hmem
    obtain ⟨batch, hbatch, hplace⟩ := exists_batch_of_getElem? (batchSize - 1) hlast.1
    have hanswer := haligned.answered p text batch (batch.map fun key => g.getD key key) hlast
      hbatch rfl (List.length_map _)
    rw [hanswer, List.getElem?_map, hplace, if_pos hmem]
    rfl
  · rw [if_neg hmem]
    refine Std.HashMap.getElem?_eq_none ?_
    rw [haligned.mem_iff]
    exact hmem

end TranslationRun
end ClassLiterals
